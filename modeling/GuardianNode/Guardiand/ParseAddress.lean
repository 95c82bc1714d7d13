import GuardianNode.Encoding.Bech32

/-! `parseAddress` and `leftPadAddress` of the governance templates. An address is tried as
base58, then as bech32, then as hex after an optional `0x`; it comes out as the hex text of its
32-byte left-padded form. -/

namespace GuardianNode.Guardiand

/-- `leftPadAddress`. -/
def leftPadAddress (a : List UInt8) : Except String String :=
  if 32 < a.length then .error "address longer than 32 bytes"
  else .ok (Hex.encodeToString (Common.leftPadBytes a 32))

/-- `if len(s) > 2 && strings.ToLower(s[:2]) == "0x" { s = s[2:] }`. -/
def stripHexPrefix (s : List Char) : List Char :=
  if 2 < s.length ∧ (s.take 2).map Char.toLower = ['0', 'x'] then s.drop 2 else s

/-- `parseAddress`. -/
def parseAddress (s : String) : Except String String :=
  match Base58.decode s with
  | .ok b => leftPadAddress b
  | .error _ =>
    match Bech32.decode s with
    | .ok (_, b) => leftPadAddress b
    | .error _ =>
      match Hex.decodeString ⟨stripHexPrefix s.data⟩ with
      | .error err => .error ("invalid hex address: " ++ err.error)
      | .ok a => leftPadAddress a

theorem leftPadAddress_ok {a : List UInt8} {r : String} :
    leftPadAddress a = .ok r ↔ a.length ≤ 32 ∧ r = Hex.encodeToString (Common.leftPadBytes a 32) := by
  unfold leftPadAddress
  split_ifs with h <;> simp [h, eq_comm]
  omega

theorem leftPadAddress_error {a : List UInt8} (h : 32 < a.length) :
    leftPadAddress a = .error "address longer than 32 bytes" := if_pos h

theorem leftPadAddress_digits {a : List UInt8} {r : String} (h : leftPadAddress a = .ok r) :
    r.length = 64 ∧ ∀ c ∈ r.data, c ∈ "0123456789abcdef".data := by
  obtain ⟨ha, rfl⟩ := leftPadAddress_ok.mp h
  refine ⟨?_, fun c hc => Hex.mem_encode_digits hc⟩
  simp [String.length, Hex.encodeToString, Common.length_leftPadBytes ha]

theorem parseAddress_base58 (b : List UInt8) :
    parseAddress (Base58.encode b) = leftPadAddress b := by
  rcases eq_or_ne b [] with rfl | hb
  · have : Base58.encode [] = "" := by simp [Base58.encode, Base58.zeroCount, Base58.bytesValue]
    rw [this]
    rfl
  · simp only [parseAddress, Base58.decode_encode hb]

theorem stripHexPrefix_hex {b : List UInt8} (hb : b ≠ []) :
    stripHexPrefix ('0' :: 'x' :: Hex.encode b) = Hex.encode b := by
  have : 0 < (Hex.encode b).length := by
    simp [List.length_pos.mpr hb]
  exact if_pos ⟨by simpa using this, rfl⟩

theorem parseAddress_hex {b : List UInt8} (hb : b ≠ [])
    (hbech : ∃ e, Bech32.decode ("0x" ++ Hex.encodeToString b) = .error e) :
    parseAddress ("0x" ++ Hex.encodeToString b) = leftPadAddress b := by
  obtain ⟨e58, h58⟩ := @Base58.decode_error_of_mem ("0x" ++ Hex.encodeToString b) '0'
    (List.mem_cons_self _ _) rfl
  obtain ⟨e, he⟩ := hbech
  simp only [parseAddress, h58, he]
  erw [stripHexPrefix_hex hb, Hex.decodeString_encodeToString]

theorem parseAddress_hex_long {b : List UInt8} (hb : 44 < b.length) :
    parseAddress ("0x" ++ Hex.encodeToString b) = .error "address longer than 32 bytes" := by
  rw [parseAddress_hex (List.ne_nil_of_length_pos (by omega)), leftPadAddress_error (by omega)]
  match h : Bech32.decode ("0x" ++ Hex.encodeToString b) with
  | .error e => exact ⟨e, rfl⟩
  | .ok _ =>
    have := Bech32.length_le_of_decode_ok h
    simp only [String.data_append, Hex.encodeToString, List.length_append, Hex.length_encode,
      show "0x".data.length = 2 from rfl] at this
    omega

theorem parseAddress_decodes (b : List UInt8) :
    (∀ r, leftPadAddress b = .ok r ↔
      b.length ≤ 32 ∧ r = Hex.encodeToString (Common.leftPadBytes b 32)) ∧
    (∀ r, leftPadAddress b = .ok r →
      r.length = 64 ∧ ∀ c ∈ r.data, c ∈ "0123456789abcdef".data) ∧
    (32 < b.length → leftPadAddress b = .error "address longer than 32 bytes") ∧
    parseAddress (Base58.encode b) = leftPadAddress b ∧
    (b ≠ [] → (∃ e, Bech32.decode ("0x" ++ Hex.encodeToString b) = .error e) →
      parseAddress ("0x" ++ Hex.encodeToString b) = leftPadAddress b) ∧
    (44 < b.length →
      parseAddress ("0x" ++ Hex.encodeToString b) = .error "address longer than 32 bytes") :=
  ⟨fun _ => leftPadAddress_ok, fun _ => leftPadAddress_digits, leftPadAddress_error,
    parseAddress_base58 b, parseAddress_hex, parseAddress_hex_long⟩

theorem parseAddress_decodes_samples :
    ([171] : List UInt8) ≠ [] ∧ (∃ e, Bech32.decode ("0x" ++ Hex.encodeToString [171]) = .error e) ∧
    parseAddress ("0x" ++ Hex.encodeToString [171]) = leftPadAddress [171] ∧
    32 < (List.replicate 45 (0 : UInt8)).length ∧ 44 < (List.replicate 45 (0 : UInt8)).length ∧
    leftPadAddress (List.replicate 45 0) = .error "address longer than 32 bytes" ∧
    parseAddress ("0x" ++ Hex.encodeToString (List.replicate 45 0)) =
      .error "address longer than 32 bytes" :=
  ⟨by decide, ⟨_, rfl⟩, (parseAddress_decodes [171]).2.2.2.2.1 (by decide) ⟨_, rfl⟩, by decide,
    by decide, (parseAddress_decodes (List.replicate 45 0)).2.2.1 (by decide),
    (parseAddress_decodes (List.replicate 45 0)).2.2.2.2.2 (by decide)⟩

/-- `wormhole1lukql262` is the bech32 address of `[255]`, whose 5-bit words come back as bytes. -/
theorem parseAddress_misreads_encodings :
    parseAddress ("0x" ++ Hex.encodeToString []) =
      .error "invalid hex address: encoding/hex: invalid byte: U+0078 'x'" ∧
    Bech32.decode "wormhole1lukql262" = .ok ("wormhole", Bech32.toWords [255]) ∧
    parseAddress "wormhole1lukql262" = .ok (Hex.encodeToString (Common.leftPadBytes [31, 28] 32)) ∧
    Hex.encodeToString (Common.leftPadBytes [31, 28] 32) ≠
      Hex.encodeToString (Common.leftPadBytes [255] 32) ∧
    parseAddress ("0x" ++ Hex.encodeToString [16, 64, 247, 37, 248]) =
      .ok (Hex.encodeToString (Common.leftPadBytes [15, 21, 15] 32)) ∧
    Hex.encodeToString (Common.leftPadBytes [15, 21, 15] 32) ≠
      Hex.encodeToString (Common.leftPadBytes [16, 64, 247, 37, 248] 32) := by
  set_option maxRecDepth 2000 in
  exact ⟨rfl, rfl, rfl, by decide, rfl, by decide⟩

end GuardianNode.Guardiand
