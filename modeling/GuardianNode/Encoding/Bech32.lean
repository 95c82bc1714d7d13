import GuardianNode.Encoding.Base58

/-! `bech32.Decode` of `btcsuite/btcutil` (BIP-173): a human-readable part, the last `'1'`, then
5-bit data words whose last six are a BCH checksum over the expanded human-readable part. The
words come back as they are, one per byte; regrouping them into 8-bit bytes is `ConvertBits`,
which the caller has to apply itself. -/

namespace GuardianNode.Bech32

/-- `charset`. -/
def charset : List Char := "qpzry9x8gf2tvdw0s3jn54khce6mua7l".data

/-- `gen`. -/
def gen : List Nat := [0x3b6a57b2, 0x26508e6d, 0x1ea119fa, 0x3d4233dd, 0x2a1462b3]

/-- One round of the loop of `bech32Polymod`. -/
def polymodStep (chk v : Nat) : Nat :=
  let b := chk >>> 25
  (List.range 5).foldl (fun chk i => if (b >>> i) &&& 1 = 1 then chk ^^^ gen.getD i 0 else chk)
    ((chk &&& 0x1ffffff) <<< 5 ^^^ v)

/-- `bech32Polymod`. -/
def polymod (values : List Nat) : Nat := values.foldl polymodStep 1

/-- `bech32HrpExpand`: the high three bits of each character, a zero, then the low five. -/
def hrpExpand (hrp : List Char) : List Nat :=
  hrp.map (·.toNat >>> 5) ++ 0 :: hrp.map (·.toNat &&& 31)

/-- `bech32VerifyChecksum`. -/
def verifyChecksum (hrp : List Char) (data : List UInt8) : Bool :=
  polymod (hrpExpand hrp ++ data.map UInt8.toNat) == 1

/-- The errors of `Decode`; `parseAddress` drops their texts, which are left out. -/
inductive Error
  | invalidLength (n : Nat)
  | invalidCharacter (c : Char)
  | mixedCase
  | invalidSeparatorIndex (one : Int)
  | invalidDataCharacter (c : Char)
  | invalidChecksum
  deriving DecidableEq, Repr

/-- `toBytes`: each character's index in `charset`. -/
def toBytes : List Char → Except Error (List UInt8)
  | [] => .ok []
  | c :: cs =>
    match charset.indexOf? c with
    | none => .error (.invalidDataCharacter c)
    | some i => (toBytes cs).map (UInt8.ofNat i :: ·)

/-- `strings.LastIndexByte(s, '1')`, with `-1` as `none`. -/
def lastIndexOne (s : List Char) : Option Nat :=
  (s.reverse.indexOf? '1').map (s.length - 1 - ·)

/-- `bech32.Decode`; lengths are in characters, which differ from bytes only on non-ASCII text. -/
def decode (bech : String) : Except Error (String × List UInt8) :=
  let s := bech.data
  if s.length < 8 ∨ 90 < s.length then .error (.invalidLength s.length) else
  match s.find? (fun c => c.toNat < 33 || 126 < c.toNat) with
  | some c => .error (.invalidCharacter c)
  | none =>
    if s ≠ s.map Char.toLower ∧ s ≠ s.map Char.toUpper then .error .mixedCase else
    let s := s.map Char.toLower
    match lastIndexOne s with
    | none => .error (.invalidSeparatorIndex (-1))
    | some one =>
      if one < 1 ∨ s.length < one + 7 then .error (.invalidSeparatorIndex one) else
      match toBytes (s.drop (one + 1)) with
      | .error e => .error e
      | .ok decoded =>
        if verifyChecksum (s.take one) decoded then .ok (⟨s.take one⟩, decoded.take (decoded.length - 6))
        else .error .invalidChecksum

theorem length_le_of_decode_ok {bech : String} {r : String × List UInt8}
    (h : decode bech = .ok r) : bech.data.length ≤ 90 := by
  by_contra hl
  rw [decode, if_pos (Or.inr (by omega))] at h
  cases h

/-- `ConvertBits(data, 8, 5, true)`: the bytes' bits cut into 5-bit words, zero-padded. -/
def toWords (data : List UInt8) : List UInt8 :=
  go data 0 0
where
  /-- `acc` ends in the `bits` bits not yet emitted, `bits < 5`. -/
  go : List UInt8 → Nat → Nat → List UInt8
    | [], acc, bits => if bits = 0 then [] else [UInt8.ofNat (acc * 2 ^ (5 - bits) % 32)]
    | v :: vs, acc, bits =>
      let acc := acc * 256 + v.toNat
      if bits < 2 then UInt8.ofNat (acc / 2 ^ (bits + 3) % 32) :: go vs acc (bits + 3)
      else UInt8.ofNat (acc / 2 ^ (bits + 3) % 32) :: UInt8.ofNat (acc / 2 ^ (bits - 2) % 32) ::
        go vs acc (bits - 2)

end GuardianNode.Bech32
