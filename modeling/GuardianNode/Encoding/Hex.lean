import GuardianNode.Encoding.Decimal

/-! Go's `encoding/hex`, and go-ethereum's `common.LeftPadBytes`. Bytes are `UInt8`; a Go string
is its characters, and `hex.DecodeString` reads their UTF-8 bytes. -/

namespace GuardianNode

theorem UInt8.ofNat_toNat (b : UInt8) : UInt8.ofNat b.toNat = b :=
  UInt8.toNat.inj (UInt8.toNat_ofNat_of_lt b.toNat_lt_size)

namespace Hex

/-- `hextable[n]` for `n < 16`: the lower-case hex digit. -/
def hexDigit (n : Nat) : Char := Nat.digitChar n

/-- `hex.Encode`: each byte as its high and its low nibble. -/
def encode : List UInt8 → List Char
  | [] => []
  | v :: vs => hexDigit (v.toNat / 16) :: hexDigit (v.toNat % 16) :: encode vs

/-- `hex.EncodeToString`. -/
def encodeToString (src : List UInt8) : String := ⟨encode src⟩

/-- `fromHexChar` (the `reverseHexTable` lookup of newer Go releases). -/
def fromHexChar (c : UInt8) : Option Nat :=
  if '0'.toNat ≤ c.toNat ∧ c.toNat ≤ '9'.toNat then some (c.toNat - '0'.toNat)
  else if 'a'.toNat ≤ c.toNat ∧ c.toNat ≤ 'f'.toNat then some (c.toNat - 'a'.toNat + 10)
  else if 'A'.toNat ≤ c.toNat ∧ c.toNat ≤ 'F'.toNat then some (c.toNat - 'A'.toNat + 10)
  else none

/-- `hex.InvalidByteError` and `hex.ErrLength`. -/
inductive Error
  | invalidByte (b : UInt8)
  | length
  deriving DecidableEq, Repr

/-- `%#U` of a byte: `U+`, four hex digits, and the quoted character if it is printable. -/
def unicodeFormat (b : UInt8) : String :=
  let h := (Nat.toDigits 16 b.toNat).map Char.toUpper
  let r := Char.ofNat b.toNat
  "U+" ++ ⟨List.replicate (4 - h.length) '0' ++ h⟩ ++
    if Strconv.isPrintLatin1 r then " '" ++ r.toString ++ "'" else ""

def Error.error : Error → String
  | .invalidByte b => "encoding/hex: invalid byte: " ++ unicodeFormat b
  | .length => "encoding/hex: odd length hex string"

/-- `hex.Decode`: pairs of hex digits, an invalid byte before an odd length. -/
def decode : List UInt8 → Except Error (List UInt8)
  | [] => .ok []
  | [p] => if (fromHexChar p).isSome then .error .length else .error (.invalidByte p)
  | p :: q :: rest =>
    match fromHexChar p, fromHexChar q with
    | none, _ => .error (.invalidByte p)
    | some _, none => .error (.invalidByte q)
    | some a, some b => (decode rest).map (UInt8.ofNat (a * 16 + b) :: ·)

/-- `hex.DecodeString`. -/
def decodeString (s : String) : Except Error (List UInt8) :=
  decode (s.data.flatMap String.utf8EncodeChar)

theorem utf8EncodeChar_hexDigit {d : Nat} (h : d < 16) :
    ∃ c, String.utf8EncodeChar (hexDigit d) = [c] ∧ fromHexChar c = some d := by
  have key : ∀ d : Fin 16, fromHexChar (hexDigit d).toNat.toUInt8 = some d ∧
      String.utf8EncodeChar (hexDigit d) = [(hexDigit d).toNat.toUInt8] := by decide
  exact ⟨_, (key ⟨d, h⟩).2, (key ⟨d, h⟩).1⟩

theorem decode_encode (bs : List UInt8) :
    decode ((encode bs).flatMap String.utf8EncodeChar) = .ok bs := by
  induction bs with
  | nil => rfl
  | cons v vs ih =>
    have hv : v.toNat < 16 * 16 := v.toNat_lt_size
    obtain ⟨hi, hhi, hhi'⟩ := utf8EncodeChar_hexDigit (Nat.div_lt_of_lt_mul hv)
    obtain ⟨lo, hlo, hlo'⟩ := utf8EncodeChar_hexDigit (Nat.mod_lt v.toNat (by omega : 16 > 0))
    simp only [encode, List.flatMap_cons, hhi, hlo, List.singleton_append, decode, hhi', hlo', ih,
      Except.map]
    rw [Nat.div_add_mod' v.toNat 16, UInt8.ofNat_toNat]

@[simp] theorem decodeString_encodeToString (bs : List UInt8) :
    decodeString (encodeToString bs) = .ok bs :=
  decode_encode bs

@[simp] theorem length_encode (bs : List UInt8) : (encode bs).length = 2 * bs.length := by
  induction bs with
  | nil => rfl
  | cons v vs ih => simp only [encode, List.length_cons, ih]; omega

theorem mem_encode {bs : List UInt8} {c : Char} (h : c ∈ encode bs) :
    ∃ d < 16, c = hexDigit d := by
  induction bs with
  | nil => exact absurd h (List.not_mem_nil c)
  | cons v vs ih =>
    rcases List.mem_cons.mp h with rfl | h
    · exact ⟨_, Nat.div_lt_of_lt_mul (show v.toNat < 16 * 16 from v.toNat_lt_size), rfl⟩
    rcases List.mem_cons.mp h with rfl | h
    · exact ⟨_, Nat.mod_lt _ (by omega), rfl⟩
    exact ih h

theorem mem_encode_digits {bs : List UInt8} {c : Char} (h : c ∈ encode bs) :
    c ∈ "0123456789abcdef".data := by
  obtain ⟨d, hd, rfl⟩ := mem_encode h
  have key : ∀ d : Fin 16, hexDigit d ∈ "0123456789abcdef".data := by decide
  exact key ⟨d, hd⟩

end Hex

namespace Common

/-- `common.LeftPadBytes`: zeros in front of `slice` up to length `l`. -/
def leftPadBytes (slice : List UInt8) (l : Nat) : List UInt8 :=
  if l ≤ slice.length then slice else List.replicate (l - slice.length) 0 ++ slice

theorem length_leftPadBytes {slice : List UInt8} {l : Nat} (h : slice.length ≤ l) :
    (leftPadBytes slice l).length = l := by
  unfold leftPadBytes
  split_ifs
  · omega
  · simp only [List.length_append, List.length_replicate]
    omega

end Common

end GuardianNode
