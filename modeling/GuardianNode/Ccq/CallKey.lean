import GuardianNode.Ccq.Query
import GuardianNode.Encoding.Base58

/-! The call keys of the allow-list. A key is `tag:chain:account`, with the chain in decimal
and the account in base58; none of the three parts can contain the separator, so a key names
one query kind, one chain and one account. -/

namespace GuardianNode.Ccq

/-- `fmt.Sprintf("%s:%d:%s", callTag, chainId, solana.PublicKey(acct).String())`. -/
def callKey (callTag : String) (chainId : ChainID) (acct : PublicKey) : String :=
  callTag ++ ":" ++ formatUint chainId.toNat ++ ":" ++ Base58.encode acct.bytes

/-- The tags `validateRequest` passes: `"solAccount"` and `"solPDA"`. -/
def callTags : List String := ["solAccount", "solPDA"]

theorem callKey_data (t : String) (c : ChainID) (k : PublicKey) :
    (callKey t c k).data =
      t.data ++ ':' :: ((formatUint c.toNat).data ++ ':' :: (Base58.encode k.bytes).data) := by
  simp only [callKey, String.data_append, List.append_assoc]
  rfl

theorem append_sep_inj {α : Type} {s : α} {y y' : List α} :
    ∀ {x x' : List α}, s ∉ x → s ∉ x' → x ++ s :: y = x' ++ s :: y' → x = x' ∧ y = y'
  | [], [], _, _, h => ⟨rfl, (List.cons.inj h).2⟩
  | a :: x, [], hx, _, h => by
    simp only [List.cons_append, List.nil_append, List.cons.injEq] at h
    exact absurd (h.1 ▸ List.mem_cons_self a x) hx
  | [], a :: x', _, hx', h => by
    simp only [List.cons_append, List.nil_append, List.cons.injEq] at h
    exact absurd (h.1 ▸ List.mem_cons_self a x') hx'
  | a :: x, a' :: x', hx, hx', h => by
    simp only [List.cons_append, List.cons.injEq] at h
    obtain ⟨rfl, h⟩ := h
    obtain ⟨rfl, rfl⟩ := append_sep_inj (fun hs => hx (List.mem_cons_of_mem a hs))
      (fun hs => hx' (List.mem_cons_of_mem a hs)) h
    exact ⟨rfl, rfl⟩

theorem colon_not_mem_formatUint (u : Nat) : ':' ∉ (formatUint u).data := fun h =>
  absurd (isDigit_of_mem_formatUint h) (by decide)

theorem callKey_inj {t t' : String} (ht : ':' ∉ t.data) (ht' : ':' ∉ t'.data)
    {c c' : ChainID} {k k' : PublicKey} (h : callKey t c k = callKey t' c' k') :
    t = t' ∧ c = c' ∧ k = k' := by
  have hd := congrArg String.data h
  rw [callKey_data, callKey_data] at hd
  obtain ⟨htt, hd⟩ := append_sep_inj ht ht' hd
  obtain ⟨hcc, hkk⟩ := append_sep_inj (colon_not_mem_formatUint _) (colon_not_mem_formatUint _) hd
  refine ⟨String.ext htt, UInt16.toNat.inj (formatUint_injective (String.ext hcc)), ?_⟩
  exact Bytes32.ext_bytes (Base58.encode_inj (k.length_eq.trans k'.length_eq.symm)
    (String.ext hkk))

theorem colon_not_mem_of_mem_callTags {t : String} (ht : t ∈ callTags) : ':' ∉ t.data := by
  simp only [callTags, List.mem_cons, List.mem_singleton, List.not_mem_nil, or_false] at ht
  rcases ht with rfl | rfl <;> decide

theorem callKey_injective {t t' : String} (ht : t ∈ callTags) (ht' : t' ∈ callTags)
    {c c' : ChainID} {k k' : PublicKey} (h : callKey t c k = callKey t' c' k') :
    t = t' ∧ c = c' ∧ k = k' :=
  callKey_inj (colon_not_mem_of_mem_callTags ht) (colon_not_mem_of_mem_callTags ht') h

theorem callKey_injective_solana_zero :
    "solAccount" ∈ callTags ∧ "solPDA" ∈ callTags ∧
      (callKey "solAccount" 1 Bytes32.zero = callKey "solPDA" 1 Bytes32.zero →
        "solAccount" = "solPDA" ∧ (1 : ChainID) = 1 ∧ Bytes32.zero = Bytes32.zero) :=
  ⟨by decide, by decide, callKey_injective (by decide) (by decide)⟩

end GuardianNode.Ccq
