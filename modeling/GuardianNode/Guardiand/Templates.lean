import GuardianNode.Guardiand.ParseAddress
import GuardianNode.Guardiand.ParseNumbers

/-! The governance templates: those that take a chain and an address, `recover-chain-id`, and
`guardian-set-update`. Each parses its flags, stops the process with `log.Fatal` at the first bad
one, and fills one message of an `InjectGovernanceVAARequest`, whose random sequence and nonce are
given here. -/

namespace GuardianNode.Guardiand

/-- `nodev1.GuardianSetUpdate_Guardian`. -/
structure Guardian where
  pubkey : String
  name : String
  deriving DecidableEq, Repr

/-- The payloads these templates fill in, with the fields they set. -/
inductive Payload
  | guardianSet (guardians : List Guardian)
  | contractUpgrade (chainId : UInt32) (newContract : String)
  | bridgeRegisterChain (module : String) (chainId : UInt32) (emitterAddress : String)
  | bridgeContractUpgrade (module : String) (targetChainId : UInt32) (newContract : String)
  | wormholeRelayerSetDefaultDeliveryProvider (chainId : UInt32)
      (newDefaultDeliveryProviderAddress : String)
  | recoverChainId (module : String) (evmChainId : String) (newChainId : UInt32)
  deriving DecidableEq, Repr

structure GovernanceMessage where
  sequence : UInt64
  nonce : UInt32
  payload : Payload
  deriving DecidableEq, Repr

structure InjectGovernanceVAARequest where
  currentSetIndex : UInt32
  messages : List GovernanceMessage
  deriving DecidableEq, Repr

/-- The flags the templates read. -/
structure Flags where
  templateGuardianIndex : Int
  chainID : String
  address : String
  module : String
  recoverChainIdEvmChainId : String
  recoverChainIdNewChainId : String

/-- `rand.Uint64()` and `rand.Uint32()` of the one message. -/
structure Random where
  sequence : UInt64
  nonce : UInt32

/-- One message in a request for guardian set `uint32(*templateGuardianIndex)`. -/
def Flags.request (flags : Flags) (rand : Random) (payload : Payload) : InjectGovernanceVAARequest :=
  ⟨UInt32.ofNat (flags.templateGuardianIndex % 2 ^ 32).toNat, [⟨rand.sequence, rand.nonce, payload⟩]⟩

variable (chainIDFromString : String → Except String ChainID) (unicodePrint : Char → Bool)

/-- The body of the four templates that take `--new-address` and `--chain-id`. -/
def chainAddressTemplate (payload : UInt32 → String → Payload) (flags : Flags) (rand : Random) :
    Except String InjectGovernanceVAARequest :=
  match parseAddress flags.address with
  | .error err => .error err
  | .ok address =>
    match parseChainID chainIDFromString unicodePrint flags.chainID with
    | .error err => .error err
    | .ok chainID => .ok (flags.request rand (payload chainID.toUInt32 address))

/-- `runContractUpgradeTemplate`. -/
def runContractUpgradeTemplate (flags : Flags) :=
  chainAddressTemplate chainIDFromString unicodePrint
    (fun chainId address => .contractUpgrade chainId address) flags

/-- `runTokenBridgeRegisterChainTemplate`. -/
def runTokenBridgeRegisterChainTemplate (flags : Flags) :=
  chainAddressTemplate chainIDFromString unicodePrint
    (fun chainId address => .bridgeRegisterChain flags.module chainId address) flags

/-- `runTokenBridgeUpgradeContractTemplate`. -/
def runTokenBridgeUpgradeContractTemplate (flags : Flags) :=
  chainAddressTemplate chainIDFromString unicodePrint
    (fun chainId address => .bridgeContractUpgrade flags.module chainId address) flags

/-- `runWormholeRelayerSetDefaultDeliveryProviderTemplate`. -/
def runWormholeRelayerSetDefaultDeliveryProviderTemplate (flags : Flags) :=
  chainAddressTemplate chainIDFromString unicodePrint
    (fun chainId address => .wormholeRelayerSetDefaultDeliveryProvider chainId address) flags

/-- `runRecoverChainIdTemplate`; `log.Fatal` puts no space between a string and an error. -/
def runRecoverChainIdTemplate (flags : Flags) (rand : Random) :
    Except String InjectGovernanceVAARequest :=
  if flags.module = "" then .error "--module must be specified." else
  if flags.recoverChainIdEvmChainId = "" then .error "--evm-chain-id must be specified." else
  match (isValidUint256 flags.recoverChainIdEvmChainId).2 with
  | some err => .error ("failed to parse evm chain id as uint256:" ++ err)
  | none =>
    if flags.recoverChainIdNewChainId = "" then .error "--new-chain-id must be specified." else
    match parseChainID chainIDFromString unicodePrint flags.recoverChainIdNewChainId with
    | .error err => .error ("failed to parse chain id:" ++ err)
    | .ok newChainID => .ok (flags.request rand
        (.recoverChainId flags.module flags.recoverChainIdEvmChainId newChainID.toUInt32))

/-- `runGuardianSetTemplate`; `make` panics on a negative `--num`. -/
def runGuardianSetTemplate (devnetAddress : Nat → String) (setUpdateNumGuardians : Int)
    (flags : Flags) (rand : Random) : Except String InjectGovernanceVAARequest :=
  if setUpdateNumGuardians < 0 then .error "runtime error: makeslice: len out of range"
  else
    .ok (flags.request rand (.guardianSet ((List.range setUpdateNumGuardians.toNat).map fun i =>
      ⟨devnetAddress i, "Example validator " ++ formatUint i⟩)))

theorem chainAddressTemplate_ok {payload : UInt32 → String → Payload} {flags : Flags}
    {rand : Random} {req : InjectGovernanceVAARequest} :
    chainAddressTemplate chainIDFromString unicodePrint payload flags rand = .ok req ↔
      ∃ address chainID, parseAddress flags.address = .ok address ∧
        parseChainID chainIDFromString unicodePrint flags.chainID = .ok chainID ∧
        req = flags.request rand (payload chainID.toUInt32 address) := by
  unfold chainAddressTemplate
  split <;> rename_i ha
  · simp [ha]
  · split <;> rename_i hc <;> simp [ha, hc, eq_comm]

theorem chainAddressTemplate_writes {payload : UInt32 → String → Payload} {flags : Flags}
    {rand : Random} {b : List UInt8} {n : Nat} {e : String} (hb : b.length ≤ 32)
    (haddr : flags.address = Base58.encode b) (hname : chainIDFromString flags.chainID = .error e)
    (hn : IsNumeral flags.chainID.data n) (h16 : n < 2 ^ 16) :
    chainAddressTemplate chainIDFromString unicodePrint payload flags rand =
      .ok (flags.request rand (payload (UInt32.ofNat n) (Hex.encodeToString (Common.leftPadBytes b 32)))) := by
  obtain ⟨hc, hval⟩ := parseChainID_of_numeral chainIDFromString unicodePrint hname hn h16
  have hw : (UInt16.ofNat n).toUInt32 = UInt32.ofNat n := by
    apply UInt32.toNat.inj
    rw [UInt32.toNat_ofNat_of_lt (show n < UInt32.size by simp only [UInt32.size]; omega)]
    exact hval
  refine (chainAddressTemplate_ok chainIDFromString unicodePrint).mpr ⟨_, _, ?_, hc, by rw [hw]⟩
  rw [haddr, parseAddress_base58, leftPadAddress, if_neg (by omega)]

/-- `contract-upgrade --chain-id 7 --new-address <base58 of [1, 2]>`. -/
def sampleFlags : Flags := ⟨3, "7", Base58.encode [1, 2], "", "", ""⟩

theorem chainAddressTemplate_writes_sample :
    runContractUpgradeTemplate noChainNames (fun _ => true) sampleFlags ⟨0, 0⟩ =
      .ok (sampleFlags.request ⟨0, 0⟩
        (.contractUpgrade (UInt32.ofNat 7) (Hex.encodeToString (Common.leftPadBytes [1, 2] 32)))) :=
  chainAddressTemplate_writes noChainNames (fun _ => true) (by decide) rfl rfl ⟨by decide, by decide, by decide⟩
    (by decide)

theorem runRecoverChainIdTemplate_ok {flags : Flags} {rand : Random}
    {req : InjectGovernanceVAARequest} :
    runRecoverChainIdTemplate chainIDFromString unicodePrint flags rand = .ok req ↔
      flags.module ≠ "" ∧ flags.recoverChainIdEvmChainId ≠ "" ∧
      (isValidUint256 flags.recoverChainIdEvmChainId).2 = none ∧
      flags.recoverChainIdNewChainId ≠ "" ∧
      ∃ newChainID, parseChainID chainIDFromString unicodePrint flags.recoverChainIdNewChainId = .ok newChainID ∧
        req = flags.request rand
          (.recoverChainId flags.module flags.recoverChainIdEvmChainId newChainID.toUInt32) := by
  unfold runRecoverChainIdTemplate
  rcases hv : (isValidUint256 flags.recoverChainIdEvmChainId).2 with _ | err <;>
    rcases hc : parseChainID chainIDFromString unicodePrint flags.recoverChainIdNewChainId with _ | c <;>
    split_ifs <;> simp_all
  exact eq_comm

/-- `SetString` fails on these, but `isValidUint256` checks the value it leaves behind. -/
theorem isValidUint256_accepts_non_numerals :
    (Big.setString "12abc").2 = false ∧ isValidUint256 "12abc" = (true, none) ∧
    (Big.setString "0x10").2 = false ∧ isValidUint256 "0x10" = (true, none) ∧
    (Big.setString "").2 = false ∧ isValidUint256 "" = (true, none) ∧
    ∀ (chainIDFromString : String → Except String ChainID) (unicodePrint : Char → Bool)
      (flags : Flags) (rand : Random) (newChainID : ChainID), flags.module ≠ "" → flags.recoverChainIdEvmChainId = "12abc" →
      flags.recoverChainIdNewChainId ≠ "" →
      parseChainID chainIDFromString unicodePrint flags.recoverChainIdNewChainId = .ok newChainID →
      runRecoverChainIdTemplate chainIDFromString unicodePrint flags rand =
        .ok (flags.request rand (.recoverChainId flags.module "12abc" newChainID.toUInt32)) := by
  have hv : isValidUint256 "12abc" = (true, none) := by decide
  refine ⟨by decide, hv, by decide, by decide, by decide, by decide,
    fun f u flags rand c hm he hn hc => ?_⟩
  rw [runRecoverChainIdTemplate_ok f u]
  exact ⟨hm, by simp [he], by simp [he, hv], hn, c, hc, by rw [he]⟩

theorem parseChainID_wraps_numerals {e : String} (he : chainIDFromString "65537" = .error e) :
    parseChainID chainIDFromString unicodePrint "65537" = .ok 1 ∧
    ∀ (flags : Flags) (rand : Random) (address : String), flags.chainID = "65537" →
      parseAddress flags.address = .ok address →
      runTokenBridgeRegisterChainTemplate chainIDFromString unicodePrint flags rand =
        .ok (flags.request rand (.bridgeRegisterChain flags.module 1 address)) := by
  have hp : parseChainID chainIDFromString unicodePrint "65537" = .ok 1 := by
    simp only [parseChainID, he]
    rfl
  exact ⟨hp, fun flags rand address hc ha =>
    (chainAddressTemplate_ok chainIDFromString unicodePrint).mpr ⟨address, 1, ha, hc ▸ hp, rfl⟩⟩

theorem parseChainID_wraps_numerals_no_names :
    parseChainID noChainNames (fun _ => true) "65537" = .ok 1 ∧
    ∀ (flags : Flags) (rand : Random) (address : String), flags.chainID = "65537" →
      parseAddress flags.address = .ok address →
      runTokenBridgeRegisterChainTemplate noChainNames (fun _ => true) flags rand =
        .ok (flags.request rand (.bridgeRegisterChain flags.module 1 address)) :=
  parseChainID_wraps_numerals noChainNames (fun _ => true) rfl

end GuardianNode.Guardiand
