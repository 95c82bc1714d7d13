import GuardianNode.Encoding.Decimal

/-! `parseChainID` and `isValidUint256` of the governance templates: a chain given by name or
number, and an EVM chain id that has to fit in 256 bits. -/

namespace GuardianNode.Guardiand

/-- `parseChainID`; the table of chain names and `IsPrint`'s Unicode table are parameters. -/
def parseChainID (chainIDFromString : String → Except String ChainID)
    (unicodePrint : Char → Bool) (name : String) : Except String ChainID :=
  match chainIDFromString name with
  | .ok s => .ok s
  | .error _ =>
    match Strconv.parseUint name 32 with
    | .error err => .error ("failed to parse as name or uint32: " ++ err.error unicodePrint)
    | .ok i => .ok (UInt16.ofNat i)

/-- `isValidUint256`. -/
def isValidUint256 (s : String) : Bool × Option String :=
  let i := (Big.setString s).1
  let upperLimit : Int := (2 ^ 256 : Nat) - 1
  if i < 0 ∨ upperLimit < i then (false, some "value is not a valid uint256") else (true, none)

section ParseChainID

variable (chainIDFromString : String → Except String ChainID) (unicodePrint : Char → Bool)
  {name e : String} (he : chainIDFromString name = .error e)
include he

theorem parseChainID_of_numeral {n : Nat} (hn : IsNumeral name.data n) (h16 : n < 2 ^ 16) :
    parseChainID chainIDFromString unicodePrint name = .ok (UInt16.ofNat n) ∧
      (UInt16.ofNat n).toNat = n := by
  have hp : Strconv.parseUint name 32 = .ok n := Strconv.parseUint_eq_ok (by omega) |>.mpr ⟨hn, by omega⟩
  exact ⟨by simp only [parseChainID, he, hp], UInt16.toNat_ofNat_of_lt h16⟩

theorem parseChainID_number :
    (∀ n, IsNumeral name.data n → n < 2 ^ 16 →
      parseChainID chainIDFromString unicodePrint name = .ok (UInt16.ofNat n) ∧
        (UInt16.ofNat n).toNat = n) ∧
    ((¬∃ n, IsNumeral name.data n ∧ n < 2 ^ 32) →
      parseChainID chainIDFromString unicodePrint name =
        .error ("failed to parse as name or uint32: " ++ Strconv.NumError.error unicodePrint
          ⟨name, if 2 ^ 32 ≤ decimalValue (name.data.takeWhile Char.isDigit) then .outOfRange
            else .invalid⟩)) :=
  ⟨fun _ => parseChainID_of_numeral chainIDFromString unicodePrint he,
    fun hnum => by simp only [parseChainID, he, Strconv.parseUint_eq_error (by omega) hnum]⟩

end ParseChainID

/-- A name table that knows no chain. -/
def noChainNames (name : String) : Except String ChainID := .error ("unknown chain ID: " ++ name)

theorem parseChainID_number_quoted :
    (¬∃ n, IsNumeral "1\"2".data n ∧ n < 2 ^ 32) ∧
      parseChainID noChainNames (fun _ => true) "1\"2" =
        .error "failed to parse as name or uint32: strconv.ParseUint: parsing \"1\\\"2\": invalid syntax" := by
  have hnum : ¬∃ n, IsNumeral "1\"2".data n ∧ n < 2 ^ 32 := fun ⟨_, ⟨_, hd, _⟩, _⟩ =>
    absurd (hd '"' (by decide)) (by decide)
  exact ⟨hnum, ((parseChainID_number noChainNames (fun _ => true) rfl).2 hnum).trans rfl⟩

end GuardianNode.Guardiand
