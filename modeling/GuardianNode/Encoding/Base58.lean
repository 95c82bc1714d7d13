import GuardianNode.Encoding.Hex
import Mathlib.Data.Nat.Digits

/-! The base58 text of `mr-tron/base58` with the Bitcoin alphabet, which both
`solana.PublicKey.String` and `parseAddress` use. A byte string is the number it denotes in
big-endian order, and its leading zero bytes are kept as leading `'1'`s. -/

namespace GuardianNode.Base58

/-- `BTCAlphabet`. -/
def alphabet : List Char := "123456789ABCDEFGHJKLMNPQRSTUVWXYZabcdefghijkmnopqrstuvwxyz".data

/-- `alphabet.encode[d]`. -/
def encodeDigit (d : Nat) : Char := alphabet.getD d '1'

/-- `alphabet.decode[c]`, with `-1` as `none`. -/
def decodeDigit (c : Char) : Option Nat := alphabet.indexOf? c

/-- The number a big-endian byte string denotes. -/
def bytesValue (bs : List UInt8) : Nat := Nat.ofDigits 256 (bs.reverse.map UInt8.toNat)

/-- `zcount`: the number of leading zero bytes. -/
def zeroCount (bs : List UInt8) : Nat := (bs.takeWhile (· == 0)).length

/-- `base58.Encode`: a `'1'` per leading zero byte, then the number's base-58 digits. -/
def encode (bin : List UInt8) : String :=
  ⟨List.replicate (zeroCount bin) '1' ++
    (Nat.digits 58 (bytesValue bin)).reverse.map encodeDigit⟩

/-- `base58.Decode`: a zero byte per leading `'1'`, then the number's big-endian bytes. -/
def decode (str : String) : Except String (List UInt8) :=
  if str.data = [] then .error "zero length string" else
  match str.data.find? (fun r => (decodeDigit r).isNone) with
  | some r =>
    .error (if 127 < r.toNat then "high-bit set on invalid digit"
      else "invalid base58 digit (" ++ Strconv.quoteRune Strconv.isPrintLatin1 r ++ ")")
  | none =>
    .ok (List.replicate (str.data.takeWhile (· == '1')).length 0 ++
      (Nat.digits 256 (Nat.ofDigits 58 (str.data.filterMap decodeDigit).reverse)).reverse.map
        UInt8.ofNat)

/-! ### Digits -/

theorem decodeDigit_encodeDigit {d : Nat} (h : d < 58) : decodeDigit (encodeDigit d) = some d := by
  have key : ∀ d : Fin 58, decodeDigit (encodeDigit d) = some d := by decide
  exact key ⟨d, h⟩

@[simp] theorem decodeDigit_one : decodeDigit '1' = some 0 := rfl

theorem encodeDigit_ne_one {d : Nat} (h0 : d ≠ 0) (h : d < 58) : encodeDigit d ≠ '1' := by
  intro he
  have hd := decodeDigit_encodeDigit h
  rw [he, decodeDigit_one, Option.some_inj] at hd
  exact h0 hd.symm

theorem filterMap_decodeDigit_encode {L : List Nat} (h : ∀ d ∈ L, d < 58) :
    (L.map encodeDigit).filterMap decodeDigit = L := by
  induction L with
  | nil => rfl
  | cons d L ih =>
    simp only [List.map_cons, List.filterMap_cons,
      decodeDigit_encodeDigit (h d (List.mem_cons_self d L)),
      ih (fun x hx => h x (List.mem_cons_of_mem d hx))]

theorem digits_lt_58 {v d : Nat} (h : d ∈ (Nat.digits 58 v).reverse) : d < 58 :=
  Nat.digits_lt_base (by omega) (List.mem_reverse.mp h)

theorem head?_encodedDigits (v : Nat) :
    (((Nat.digits 58 v).reverse.map encodeDigit).head?) ≠ some '1' := by
  rcases Nat.eq_zero_or_pos v with rfl | hv
  · simp
  · have hne : Nat.digits 58 v ≠ [] := Nat.digits_ne_nil_iff_ne_zero.mpr hv.ne'
    rw [List.head?_map, List.head?_reverse, List.getLast?_eq_getLast _ hne]
    simp only [Option.map_some', ne_eq, Option.some_inj]
    exact encodeDigit_ne_one (Nat.getLast_digit_ne_zero 58 hv.ne')
      (Nat.digits_lt_base (by omega) (List.getLast_mem hne))

/-! ### Leading zeros -/

theorem replicate_append_inj {α : Type} {a : α} :
    ∀ {z z' : Nat} {D D' : List α}, D.head? ≠ some a → D'.head? ≠ some a →
      List.replicate z a ++ D = List.replicate z' a ++ D' → z = z' ∧ D = D'
  | 0, 0, _, _, _, _, h => ⟨rfl, h⟩
  | z + 1, z' + 1, _, _, hD, hD', h => by
    simp only [List.replicate_succ, List.cons_append, List.cons.injEq, true_and] at h
    obtain ⟨hz, hDD⟩ := replicate_append_inj hD hD' h
    exact ⟨congrArg (· + 1) hz, hDD⟩
  | 0, z' + 1, D, _, hD, _, h => by
    simp only [List.replicate_zero, List.nil_append, List.replicate_succ, List.cons_append] at h
    simp [h] at hD
  | z + 1, 0, _, D', _, hD', h => by
    simp only [List.replicate_zero, List.nil_append, List.replicate_succ, List.cons_append] at h
    simp [← h] at hD'

theorem takeWhile_beq_eq_replicate {α : Type} [DecidableEq α] (l : List α) (a : α) :
    l.takeWhile (· == a) = List.replicate (l.takeWhile (· == a)).length a :=
  List.eq_replicate_iff.mpr ⟨rfl, fun _ hb => beq_iff_eq.mp (List.mem_takeWhile_imp (p := (· == a)) hb)⟩

theorem replicate_zeroCount_append (bs : List UInt8) :
    List.replicate (zeroCount bs) 0 ++ bs.dropWhile (· == 0) = bs := by
  rw [zeroCount, ← takeWhile_beq_eq_replicate, List.takeWhile_append_dropWhile]

theorem ofDigits_replicate_zero (b z : Nat) : Nat.ofDigits b (List.replicate z 0) = 0 := by
  induction z with
  | zero => rfl
  | succ z ih => simp [List.replicate_succ, Nat.ofDigits_cons, ih]

theorem bytesValue_replicate_append (z : Nat) (bs : List UInt8) :
    bytesValue (List.replicate z 0 ++ bs) = bytesValue bs := by
  simp only [bytesValue, List.reverse_append, List.reverse_replicate, List.map_append,
    List.map_replicate, Nat.ofDigits_append, UInt8.toNat_zero, ofDigits_replicate_zero,
    mul_zero, add_zero]

theorem bytesValue_dropWhile (bs : List UInt8) :
    bytesValue (bs.dropWhile (· == 0)) = bytesValue bs := by
  conv_rhs => rw [← replicate_zeroCount_append bs]
  rw [bytesValue_replicate_append]

theorem digits_bytesValue (bs : List UInt8) :
    (Nat.digits 256 (bytesValue bs)).reverse.map UInt8.ofNat = bs.dropWhile (· == 0) := by
  rw [← bytesValue_dropWhile, bytesValue, Nat.digits_ofDigits _ (by omega)]
  · simp only [List.map_reverse, List.reverse_reverse, List.map_map]
    conv_rhs => rw [← List.map_id (bs.dropWhile (· == 0))]
    exact List.map_congr_left (fun b _ => UInt8.ofNat_toNat b)
  · intro l hl
    obtain ⟨b, _, rfl⟩ := List.mem_map.mp hl
    exact b.toNat_lt_size
  · intro hne
    have hne' : bs.dropWhile (· == 0) ≠ [] := by simpa using hne
    rw [List.getLast_map, List.getLast_reverse]
    intro h0
    have hp := List.head_dropWhile_not (· == 0) bs hne'
    rw [UInt8.toNat.inj (a := _) (b := 0) h0] at hp
    exact absurd hp (by decide)

/-! ### Equal-length byte strings -/

theorem ofDigits_256_inj :
    ∀ {L L' : List Nat}, L.length = L'.length → (∀ x ∈ L, x < 256) → (∀ x ∈ L', x < 256) →
      Nat.ofDigits 256 L = Nat.ofDigits 256 L' → L = L'
  | [], [], _, _, _, _ => rfl
  | x :: l, x' :: l', hl, hx, hx', h => by
    simp only [Nat.ofDigits_cons, Nat.cast_id, List.length_cons, add_left_inj] at hl h
    have h1 := hx x (List.mem_cons_self x l)
    have h2 := hx' x' (List.mem_cons_self x' l')
    obtain rfl : x = x' := by omega
    rw [ofDigits_256_inj hl (fun y hy => hx y (List.mem_cons_of_mem x hy))
      (fun y hy => hx' y (List.mem_cons_of_mem x hy)) (by omega)]

theorem bytesValue_inj {bs bs' : List UInt8} (hl : bs.length = bs'.length)
    (h : bytesValue bs = bytesValue bs') : bs = bs' := by
  have hlt : ∀ (l : List UInt8), ∀ x ∈ l.reverse.map UInt8.toNat, x < 256 := fun l x hx => by
    obtain ⟨b, _, rfl⟩ := List.mem_map.mp hx
    exact b.toNat_lt_size
  have hmap := ofDigits_256_inj (by simpa using hl) (hlt bs) (hlt bs') h
  exact List.reverse_injective (List.map_injective_iff.mpr (fun _ _ => UInt8.toNat.inj) hmap)

theorem encode_inj {bs bs' : List UInt8} (hl : bs.length = bs'.length)
    (h : encode bs = encode bs') : bs = bs' := by
  have hd := (replicate_append_inj (head?_encodedDigits _) (head?_encodedDigits _)
    (congrArg String.data h)).2
  have hdig := congrArg (List.filterMap decodeDigit) hd
  rw [filterMap_decodeDigit_encode (fun _ => digits_lt_58),
    filterMap_decodeDigit_encode (fun _ => digits_lt_58)] at hdig
  exact bytesValue_inj hl (Nat.digits.injective 58 (List.reverse_injective hdig))

theorem mem_encode {bs : List UInt8} {c : Char} (h : c ∈ (encode bs).data) :
    c = '1' ∨ ∃ d < 58, c = encodeDigit d := by
  rcases List.mem_append.mp h with h | h
  · exact .inl (List.eq_of_mem_replicate h)
  · obtain ⟨d, hd, rfl⟩ := List.mem_map.mp h
    exact .inr ⟨d, digits_lt_58 hd, rfl⟩

/-! ### Decoding what was encoded -/

theorem takeWhile_replicate_append {α : Type} [DecidableEq α] {a : α} {D : List α}
    (hD : D.head? ≠ some a) : ∀ z, (List.replicate z a ++ D).takeWhile (· == a) = List.replicate z a
  | 0 => by
    cases D with
    | nil => rfl
    | cons d D =>
      have hd : d ≠ a := fun h => hD (by rw [h]; rfl)
      simp [hd]
  | z + 1 => by
    simp only [List.replicate_succ, List.cons_append, List.takeWhile_cons, beq_self_eq_true,
      if_true, takeWhile_replicate_append hD z]

theorem filterMap_decodeDigit_encode_data (bs : List UInt8) :
    (encode bs).data.filterMap decodeDigit =
      List.replicate (zeroCount bs) 0 ++ (Nat.digits 58 (bytesValue bs)).reverse := by
  simp only [encode, List.filterMap_append, filterMap_decodeDigit_encode (fun _ => digits_lt_58)]
  congr 1
  induction zeroCount bs with
  | zero => rfl
  | succ z ih => simp only [List.replicate_succ, List.filterMap_cons, decodeDigit_one, ih]

theorem encode_data_ne_nil {bs : List UInt8} (h : bs ≠ []) : (encode bs).data ≠ [] := by
  intro he
  simp only [encode, List.append_eq_nil, List.replicate_eq_nil_iff, List.map_eq_nil_iff,
    List.reverse_eq_nil_iff, Nat.digits_eq_nil_iff_eq_zero] at he
  have hdrop := digits_bytesValue bs
  rw [he.2, Nat.digits_zero] at hdrop
  have hbs := replicate_zeroCount_append bs
  rw [he.1, ← hdrop] at hbs
  exact h hbs.symm

theorem decode_encode {bs : List UInt8} (h : bs ≠ []) : decode (encode bs) = .ok bs := by
  have hfind : (encode bs).data.find? (fun r => (decodeDigit r).isNone) = none := by
    refine List.find?_eq_none.mpr fun c hc => ?_
    rcases mem_encode hc with rfl | ⟨d, hd, rfl⟩
    · decide
    · simp [decodeDigit_encodeDigit hd]
  have hones : ((encode bs).data.takeWhile (· == '1')).length = zeroCount bs := by
    simp only [encode, takeWhile_replicate_append (head?_encodedDigits _), List.length_replicate]
  have hval : Nat.ofDigits 58 ((encode bs).data.filterMap decodeDigit).reverse = bytesValue bs := by
    simp only [filterMap_decodeDigit_encode_data, List.reverse_append, List.reverse_replicate,
      List.reverse_reverse, Nat.ofDigits_append, Nat.ofDigits_digits, ofDigits_replicate_zero,
      mul_zero, add_zero]
  simp only [decode, encode_data_ne_nil h, if_false, hfind, hones, hval, digits_bytesValue,
    replicate_zeroCount_append]

theorem decode_error_of_mem {str : String} {c : Char} (hc : c ∈ str.data)
    (h : decodeDigit c = none) : ∃ e, decode str = .error e := by
  unfold decode
  split_ifs
  · exact ⟨_, rfl⟩
  obtain ⟨r, hr⟩ : ∃ r, str.data.find? (fun r => (decodeDigit r).isNone) = some r :=
    Option.ne_none_iff_exists'.mp fun hn => by
      simpa [h] using List.find?_eq_none.mp hn c hc
  exact ⟨_, by rw [hr]⟩

end GuardianNode.Base58
