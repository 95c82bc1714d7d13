import Mathlib.Data.List.Basic

/-! Data shared by the guardian's packages: the running environment, chain ids, and the
32-byte arrays used for emitter addresses and Solana public keys. -/

namespace GuardianNode

/-- `common.Environment`. -/
inductive Environment
  | mainNet
  | unsafeDevNet
  | testNet
  | goTest
  | accountantMock
  deriving DecidableEq, Repr

/-- `vaa.ChainID`, a `uint16`. -/
abbrev ChainID := UInt16

/-- A Go `[32]byte`; `vaa.Address` and `solana.PublicKey` both have this shape. -/
structure Bytes32 where
  bytes : List UInt8
  length_eq : bytes.length = 32
  deriving DecidableEq

/-- `vaa.Address`. -/
abbrev Address := Bytes32

/-- `solana.PublicKey`. -/
abbrev PublicKey := Bytes32

theorem Bytes32.ext_bytes {a b : Bytes32} (h : a.bytes = b.bytes) : a = b := by
  cases a; cases b; cases h; rfl

/-- `vaa.Address{}`. -/
def Bytes32.zero : Bytes32 := ⟨List.replicate 32 0, List.length_replicate _ _⟩

end GuardianNode
