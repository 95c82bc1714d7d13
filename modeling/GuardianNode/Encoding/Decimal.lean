import GuardianNode.Common
import Mathlib.Data.Nat.Digits

/-! Base-10 text: the digits `fmt` prints for `%d`, the value a digit string denotes, and
`strconv.ParseUint` in base 10. -/

namespace GuardianNode

/-- The value of a decimal digit character, `c - '0'`. -/
def digitVal (c : Char) : Nat := c.toNat - '0'.toNat

/-- One step of reading a decimal numeral from the left. -/
def decimalStep (n : Nat) (c : Char) : Nat := n * 10 + digitVal c

/-- The number a run of decimal digits denotes, most significant first. -/
def decimalValue (ds : List Char) : Nat := ds.foldl decimalStep 0

/-- `ds` is a base-10 numeral (at least one digit, digits only) of `n`. -/
def IsNumeral (ds : List Char) (n : Nat) : Prop :=
  ds ≠ [] ∧ (∀ c ∈ ds, c.isDigit) ∧ decimalValue ds = n

/-- `fmt`'s `%d` of an unsigned integer: its base-10 digits, most significant first. -/
def formatUint (u : Nat) : String := ⟨Nat.toDigits 10 u⟩

theorem digitVal_lt_ten {c : Char} (h : c.isDigit) : digitVal c < 10 := by
  simp only [Char.isDigit, Bool.and_eq_true, decide_eq_true_eq] at h
  have h57 : c.val.toNat ≤ 57 := h.2
  show c.val.toNat - 48 < 10
  omega

theorem digitVal_digitChar {d : Nat} (h : d < 10) : digitVal (Nat.digitChar d) = d := by
  have key : ∀ d : Fin 10, digitVal (Nat.digitChar d) = d := by decide
  exact key ⟨d, h⟩

theorem isDigit_digitChar {d : Nat} (h : d < 10) : (Nat.digitChar d).isDigit := by
  have key : ∀ d : Fin 10, (Nat.digitChar d).isDigit = true := by decide
  exact key ⟨d, h⟩

theorem le_foldl_decimalStep (cs : List Char) (n : Nat) : n ≤ cs.foldl decimalStep n := by
  induction cs generalizing n with
  | nil => exact le_rfl
  | cons c cs ih =>
    have h : n ≤ decimalStep n c := by simp only [decimalStep]; omega
    exact h.trans (ih _)

theorem foldl_toDigitsCore {fuel n : Nat} (ds : List Char) (h : n < fuel) :
    (Nat.toDigitsCore 10 fuel n ds).foldl decimalStep 0 = ds.foldl decimalStep n := by
  induction fuel generalizing n ds with
  | zero => omega
  | succ fuel ih =>
    have hd := digitVal_digitChar (Nat.mod_lt n (show 10 > 0 by omega))
    simp only [Nat.toDigitsCore]
    split
    · simp only [List.foldl_cons, decimalStep, hd]
      congr 1
      omega
    · rw [ih _ (by omega)]
      simp only [List.foldl_cons, decimalStep, hd]
      congr 1
      omega

theorem isDigit_of_mem_toDigitsCore {fuel n : Nat} {ds : List Char} {c : Char}
    (h : c ∈ Nat.toDigitsCore 10 fuel n ds) : c.isDigit ∨ c ∈ ds := by
  induction fuel generalizing n ds with
  | zero => exact .inr h
  | succ fuel ih =>
    have hd := isDigit_digitChar (Nat.mod_lt n (show 10 > 0 by omega))
    simp only [Nat.toDigitsCore] at h
    split at h
    · rcases List.mem_cons.mp h with rfl | h
      exacts [.inl hd, .inr h]
    · rcases ih h with h | h
      · exact .inl h
      · rcases List.mem_cons.mp h with rfl | h
        exacts [.inl hd, .inr h]

@[simp] theorem decimalValue_toDigits (n : Nat) : decimalValue (Nat.toDigits 10 n) = n :=
  foldl_toDigitsCore [] (Nat.lt_succ_self n)

theorem isDigit_of_mem_toDigits {n : Nat} {c : Char} (h : c ∈ Nat.toDigits 10 n) :
    c.isDigit :=
  (isDigit_of_mem_toDigitsCore h).resolve_right (List.not_mem_nil c)

theorem formatUint_injective : Function.Injective formatUint := fun a b h => by
  rw [← decimalValue_toDigits a, ← decimalValue_toDigits b]
  exact congrArg (decimalValue ∘ String.data) h

theorem isDigit_of_mem_formatUint {u : Nat} {c : Char} (h : c ∈ (formatUint u).data) :
    c.isDigit :=
  isDigit_of_mem_toDigits h

namespace Strconv

/-- `strconv.IsPrint` below U+0100, where it reads no table. -/
def isPrintLatin1 (r : Char) : Bool :=
  (0x20 ≤ r.toNat && r.toNat ≤ 0x7E) || (0xA1 ≤ r.toNat && r.toNat ≤ 0xFF && r.toNat ≠ 0xAD)

/-- `strconv.IsPrint`; Go's tables above U+00FF are the parameter `unicodePrint`. -/
def isPrint (unicodePrint : Char → Bool) (r : Char) : Bool :=
  if r.toNat ≤ 0xFF then isPrintLatin1 r else unicodePrint r

/-- `lowerhex[v >> (4 * i) & 0xF]` for `i` from `n - 1` down to 0. -/
def lowerHex (v : Nat) : Nat → List Char
  | 0 => []
  | n + 1 => Nat.digitChar (v / 16 ^ n % 16) :: lowerHex v n

/-- `appendEscapedRune(buf, r, quote, false, false)` for a valid rune. -/
def escapedRune (isPrint : Char → Bool) (quote r : Char) : List Char :=
  if r = quote ∨ r = '\\' then ['\\', r]
  else if isPrint r then [r]
  else match r with
    | '\x07' => ['\\', 'a']
    | '\x08' => ['\\', 'b']
    | '\x0c' => ['\\', 'f']
    | '\n' => ['\\', 'n']
    | '\r' => ['\\', 'r']
    | '\t' => ['\\', 't']
    | '\x0b' => ['\\', 'v']
    | _ =>
      if r.toNat < 0x20 ∨ r.toNat = 0x7F then '\\' :: 'x' :: lowerHex r.toNat 2
      else if r.toNat < 0x10000 then '\\' :: 'u' :: lowerHex r.toNat 4
      else '\\' :: 'U' :: lowerHex r.toNat 8

/-- `strconv.Quote`; a Lean string is valid UTF-8, so the `\x` branch for a bad byte is absent. -/
def quote (unicodePrint : Char → Bool) (s : String) : String :=
  ⟨'"' :: s.data.flatMap (escapedRune (isPrint unicodePrint) '"') ++ ['"']⟩

/-- `strconv.QuoteRune` of a valid rune, for a given `IsPrint`. -/
def quoteRune (isPrint : Char → Bool) (r : Char) : String :=
  ⟨'\'' :: escapedRune isPrint '\'' r ++ ['\'']⟩

/-- `strconv.ErrSyntax` and `strconv.ErrRange`. -/
inductive NumErr
  | invalid
  | outOfRange
  deriving DecidableEq, Repr

/-- The `*strconv.NumError` that `ParseUint` returns. -/
structure NumError where
  num : String
  err : NumErr
  deriving DecidableEq, Repr

/-- `(*NumError).Error` for `ParseUint`. -/
def NumError.error (unicodePrint : Char → Bool) (e : NumError) : String :=
  "strconv.ParseUint: parsing " ++ quote unicodePrint e.num ++ ": " ++
    match e.err with
    | .invalid => "invalid syntax"
    | .outOfRange => "value out of range"

/-- `maxUint64/10 + 1`, the smallest `n` for which `n * 10` leaves `uint64`. -/
def cutoff10 : Nat := (2 ^ 64 - 1) / 10 + 1

/-- `strconv.ParseUint(s, 10, bitSize)`: the digit loop on `uint64` with its two overflow checks. -/
def parseUint (s : String) (bitSize : Nat) : Except NumError Nat :=
  if s.data = [] then .error ⟨s, .invalid⟩ else loop s.data 0
where
  loop : List Char → Nat → Except NumError Nat
    | [], n => .ok n
    | c :: cs, n =>
      if !c.isDigit then .error ⟨s, .invalid⟩
      else if cutoff10 ≤ n then .error ⟨s, .outOfRange⟩
      else
        let n := n * 10 % 2 ^ 64
        let n1 := (n + digitVal c) % 2 ^ 64
        if n1 < n ∨ 2 ^ bitSize - 1 < n1 then .error ⟨s, .outOfRange⟩ else loop cs n1

theorem parseUint_loop_digit {s : String} {bitSize : Nat} (hb : bitSize ≤ 64) {c : Char}
    (hc : c.isDigit) (cs : List Char) (n : Nat) :
    parseUint.loop s bitSize (c :: cs) n =
      if 2 ^ bitSize ≤ decimalStep n c then .error ⟨s, .outOfRange⟩
      else parseUint.loop s bitSize cs (decimalStep n c) := by
  have hpow : 2 ^ bitSize ≤ 2 ^ 64 := Nat.pow_le_pow_right (by omega) hb
  have hpos : 0 < 2 ^ bitSize := Nat.pos_pow_of_pos _ (by omega)
  have hd := digitVal_lt_ten hc
  simp only [parseUint.loop, hc, Bool.not_true, Bool.false_eq_true, if_false, decimalStep, cutoff10]
  split_ifs <;> first | rfl | omega | (congr 1; omega)

theorem parseUint_loop_eq {s : String} {bitSize : Nat} (hb : bitSize ≤ 64) :
    ∀ (cs : List Char) (n : Nat), n < 2 ^ bitSize →
      parseUint.loop s bitSize cs n =
        if 2 ^ bitSize ≤ (cs.takeWhile Char.isDigit).foldl decimalStep n then .error ⟨s, .outOfRange⟩
        else if cs.all Char.isDigit then .ok ((cs.takeWhile Char.isDigit).foldl decimalStep n)
        else .error ⟨s, .invalid⟩
  | [], n, hn => by simp [parseUint.loop, Nat.not_le.mpr hn]
  | c :: cs, n, hn => by
    by_cases hc : c.isDigit
    · rw [parseUint_loop_digit hb hc, List.takeWhile_cons_of_pos hc, List.foldl_cons, List.all_cons,
        hc, Bool.true_and]
      by_cases hstep : 2 ^ bitSize ≤ decimalStep n c
      · rw [if_pos hstep, if_pos (hstep.trans (le_foldl_decimalStep _ _))]
      · rw [if_neg hstep, parseUint_loop_eq hb cs _ (Nat.lt_of_not_le hstep)]
    · simp [parseUint.loop, hc, List.takeWhile_cons_of_neg, Nat.not_le.mpr hn]

theorem parseUint_eq_ok {s : String} {bitSize n : Nat} (hb : bitSize ≤ 64) :
    parseUint s bitSize = .ok n ↔ IsNumeral s.data n ∧ n < 2 ^ bitSize := by
  unfold parseUint
  rw [parseUint_loop_eq hb _ 0 (Nat.pos_pow_of_pos _ (by omega))]
  by_cases hs : s.data = []
  · simp only [hs, if_true, IsNumeral]
    exact ⟨nofun, fun h => absurd rfl h.1.1⟩
  · by_cases hall : s.data.all Char.isDigit
    · have hdig : ∀ c ∈ s.data, c.isDigit := List.all_eq_true.mp hall
      have hnum : IsNumeral s.data n ↔ s.data.foldl decimalStep 0 = n :=
        ⟨fun h => h.2.2, fun h => ⟨hs, hdig, h⟩⟩
      simp only [hs, if_false, hall, if_true, List.takeWhile_eq_self_iff.mpr hdig, hnum]
      split_ifs with h
      · exact ⟨nofun, fun ⟨hv, hn⟩ => absurd h (by omega)⟩
      · exact ⟨fun he => ⟨Except.ok.inj he, Except.ok.inj he ▸ by omega⟩,
          fun ⟨hv, _⟩ => congrArg _ hv⟩
    · have hdig : ¬ ∀ c ∈ s.data, c.isDigit := fun h => hall (List.all_eq_true.mpr h)
      simp only [hs, if_false, hall, Bool.false_eq_true, IsNumeral, hdig, false_and, and_false,
        iff_false]
      split_ifs <;> simp

theorem parseUint_eq_error {s : String} {bitSize : Nat} (hb : bitSize ≤ 64)
    (hnum : ¬∃ n, IsNumeral s.data n ∧ n < 2 ^ bitSize) :
    parseUint s bitSize = .error ⟨s,
      if 2 ^ bitSize ≤ decimalValue (s.data.takeWhile Char.isDigit) then .outOfRange
      else .invalid⟩ := by
  have hnok : ∀ n, parseUint s bitSize ≠ .ok n := fun n h =>
    hnum ⟨n, (parseUint_eq_ok hb).mp h⟩
  unfold parseUint at hnok ⊢
  rw [parseUint_loop_eq hb _ 0 (Nat.pos_pow_of_pos _ (by omega))] at hnok ⊢
  by_cases hs : s.data = []
  · simp [hs, decimalValue]
  · simp only [hs, if_false, decimalValue] at hnok ⊢
    split_ifs at hnok ⊢ <;> first | rfl | exact absurd rfl (hnok _)

end Strconv

namespace Big

/-- `scanSign`: an optional `-` or `+`. -/
def scanSign : List Char → Bool × List Char
  | '-' :: rest => (true, rest)
  | '+' :: rest => (false, rest)
  | cs => (false, cs)

/-- A magnitude with the sign `scanSign` read. -/
def signed (neg : Bool) (n : Nat) : Int := if neg then -(n : Int) else n

/-- `(*big.Int).SetString(s, 10)` on a fresh `big.Int`: the value left in the receiver, and `ok`. -/
def setString (s : String) : Int × Bool :=
  if s.data = [] then (0, false) else
  let ds := (scanSign s.data).2.takeWhile Char.isDigit
  if ds = [] then (0, false)
  else (signed (scanSign s.data).1 (decimalValue ds), ds.length = (scanSign s.data).2.length)

end Big

end GuardianNode
