import GuardianNode.Ccq.ValidateRequest

/-! The per-chain loop of `validateRequest` read as one list of checks, and what the function
decides and records for every permission table and every request. -/

namespace GuardianNode.Ccq

/-- One check of the per-chain loop: the chain and the call key, `none` for a kind it rejects. -/
abbrev Check := ChainID × Option String

/-- The checks a per-chain query makes, in loop order. -/
def PerChainQueryRequest.checks (pcq : PerChainQueryRequest) : List Check :=
  match pcq.query with
  | .solanaAccount q =>
    q.accounts.map fun a => (pcq.chainId, some (callKey "solAccount" pcq.chainId a))
  | .solanaPda q =>
    q.pdas.map fun p => (pcq.chainId, some (callKey "solPDA" pcq.chainId p.programAddress))
  | _ => [(pcq.chainId, none)]

/-- The checks of a whole request, in loop order. -/
def callChecks (pcqs : List PerChainQueryRequest) : List Check :=
  pcqs.flatMap PerChainQueryRequest.checks

/-- A check passes when it looks up a key of the allow-list. -/
def Check.passes (e : PermissionEntry) (x : Check) : Bool :=
  match x.2 with
  | some k => decide (k ∈ e.allowedCalls)
  | none => false

/-- The rejection a failing check returns. -/
def Check.rejection (x : Check) : Rejection :=
  match x.2 with
  | some k => .callNotAuthorized k
  | none => .unsupportedQueryType

/-- Count one call for the chain of each check. -/
def Metrics.addCalls (m : Metrics) (xs : List Check) : Metrics :=
  xs.foldl (fun m x => m.incCalls x.1) m

/-- The loop flattened: the checks in order, each passing one counted for its chain. -/
def runChecks (e : PermissionEntry) : List Check → Metrics → CheckResult
  | [], m => (200, none, m)
  | x :: xs, m => if x.passes e then runChecks e xs (m.incCalls x.1) else x.rejection.peg m

/-- The per-chain query is of a kind `validateRequest` supports. -/
def PerChainQueryRequest.Supported (pcq : PerChainQueryRequest) : Prop :=
  (∃ q, pcq.query = .solanaAccount q) ∨ (∃ q, pcq.query = .solanaPda q)

/-- Every account and every PDA program the per-chain query names is in the allow-list. -/
def PerChainQueryRequest.CallsAllowed (e : PermissionEntry) (pcq : PerChainQueryRequest) : Prop :=
  (∀ q, pcq.query = .solanaAccount q →
    ∀ k ∈ q.accounts, callKey "solAccount" pcq.chainId k ∈ e.allowedCalls) ∧
  (∀ q, pcq.query = .solanaPda q →
    ∀ p ∈ q.pdas, callKey "solPDA" pcq.chainId p.programAddress ∈ e.allowedCalls)

/-! ### The loop refines the flattened checks -/

@[simp] theorem Metrics.addCalls_nil (m : Metrics) : m.addCalls [] = m := rfl

@[simp] theorem Metrics.addCalls_cons (m : Metrics) (x : Check) (xs : List Check) :
    m.addCalls (x :: xs) = (m.incCalls x.1).addCalls xs := rfl

@[simp] theorem Check.passes_some (e : PermissionEntry) (c : ChainID) (k : String) :
    Check.passes e (c, some k) = decide (k ∈ e.allowedCalls) := rfl

@[simp] theorem Check.passes_none (e : PermissionEntry) (c : ChainID) :
    Check.passes e (c, none) = false := rfl

theorem validateCalls_then (e : PermissionEntry) (tag : String) (c : ChainID)
    (rest : List Check) : ∀ (accts : List PublicKey) (m : Metrics),
      (let r := validateCalls e tag c accts m
       if r.2.1.isSome then r else runChecks e rest r.2.2) =
      runChecks e (accts.map (fun a => (c, some (callKey tag c a))) ++ rest) m
  | [], m => rfl
  | a :: accts, m => by
    by_cases ha : callKey tag c a ∈ e.allowedCalls
    · simp only [validateCalls, ha, not_true_eq_false, if_false, List.map_cons, List.cons_append,
        runChecks, Check.passes_some, decide_eq_true ha, if_true]
      exact validateCalls_then e tag c rest accts _
    · simp [validateCalls, ha, runChecks, Check.rejection, Rejection.peg]

theorem validatePerChainQueries_eq (e : PermissionEntry) :
    ∀ (pcqs : List PerChainQueryRequest) (m : Metrics),
      validatePerChainQueries e pcqs m = runChecks e (callChecks pcqs) m
  | [], m => rfl
  | pcq :: pcqs, m => by
    have ih := fun m => validatePerChainQueries_eq e pcqs m
    simp only [callChecks] at ih ⊢
    simp only [validatePerChainQueries, List.flatMap_cons, Prod.mk.eta]
    rcases pcq with ⟨c, _ | _ | _ | ⟨q⟩ | ⟨q⟩⟩
    iterate 3 simp [PerChainQueryRequest.checks, Rejection.peg, runChecks, Check.rejection]
    · simp only [PerChainQueryRequest.checks, validateSolanaAccountQuery, ih]
      exact validateCalls_then e _ c _ q.accounts m
    · simp only [PerChainQueryRequest.checks, validateSolanaPdaQuery, ih]
      rw [validateCalls_then, List.map_map]
      rfl

/-! ### What the flattened checks decide -/

theorem runChecks_append_of_passes (e : PermissionEntry) :
    ∀ (pre rest : List Check) (m : Metrics), (∀ x ∈ pre, x.passes e) →
      runChecks e (pre ++ rest) m = runChecks e rest (m.addCalls pre)
  | [], _, _, _ => rfl
  | x :: pre, rest, m, h => by
    simp only [List.cons_append, runChecks, h x (List.mem_cons_self x pre), if_true,
      Metrics.addCalls_cons]
    exact runChecks_append_of_passes e pre rest _ (fun y hy => h y (List.mem_cons_of_mem x hy))

theorem passes_or_first_failure (e : PermissionEntry) (xs : List Check) :
    (∀ x ∈ xs, x.passes e) ∨ ∃ pre bad post, xs = pre ++ bad :: post ∧
      (∀ x ∈ pre, x.passes e) ∧ bad.passes e = false := by
  have hsplit := List.takeWhile_append_dropWhile (Check.passes e) xs
  rcases h : xs.dropWhile (Check.passes e) with _ | ⟨bad, post⟩
  · rw [h, List.append_nil] at hsplit
    exact .inl fun x hx => List.mem_takeWhile_imp (hsplit ▸ hx)
  · refine .inr ⟨_, bad, post, by rw [← h, hsplit], fun x hx => List.mem_takeWhile_imp hx, ?_⟩
    simpa [h] using List.head_dropWhile_not (Check.passes e) xs (by simp [h])

theorem validatePerChainQueries_cases (e : PermissionEntry) (pcqs : List PerChainQueryRequest)
    (m : Metrics) :
    ((∀ x ∈ callChecks pcqs, x.passes e) ∧
      validatePerChainQueries e pcqs m = (200, none, m.addCalls (callChecks pcqs))) ∨
    ∃ pre bad post, callChecks pcqs = pre ++ bad :: post ∧ (∀ x ∈ pre, x.passes e) ∧
      bad.passes e = false ∧
      validatePerChainQueries e pcqs m = bad.rejection.peg (m.addCalls pre) := by
  rw [validatePerChainQueries_eq]
  rcases passes_or_first_failure e (callChecks pcqs) with h | ⟨pre, bad, post, hs, hpre, hbad⟩
  · exact .inl ⟨h, by simpa using runChecks_append_of_passes e _ [] m h⟩
  · refine .inr ⟨pre, bad, post, hs, hpre, hbad, ?_⟩
    rw [hs, runChecks_append_of_passes e pre _ m hpre]
    simp [runChecks, hbad]

theorem first_failure_unique {e : PermissionEntry} :
    ∀ {pre pre' : List Check} {bad bad' : Check} {post post' : List Check},
      pre ++ bad :: post = pre' ++ bad' :: post' → (∀ x ∈ pre, x.passes e) →
      (∀ x ∈ pre', x.passes e) → bad.passes e = false → bad'.passes e = false →
      pre = pre' ∧ bad = bad' ∧ post = post'
  | [], [], _, _, _, _, h, _, _, _, _ => by simpa using h
  | [], x :: _, _, _, _, _, h, _, hpre', hbad, _ => by
    simp only [List.nil_append, List.cons_append, List.cons.injEq] at h
    simp [h.1, hpre' x (List.mem_cons_self _ _)] at hbad
  | x :: _, [], _, _, _, _, h, hpre, _, _, hbad' => by
    simp only [List.nil_append, List.cons_append, List.cons.injEq] at h
    simp [← h.1, hpre x (List.mem_cons_self _ _)] at hbad'
  | x :: pre, x' :: pre', _, _, _, _, h, hpre, hpre', hbad, hbad' => by
    simp only [List.cons_append, List.cons.injEq] at h
    obtain ⟨rfl, h⟩ := h
    obtain ⟨rfl, rfl, rfl⟩ := first_failure_unique h
      (fun y hy => hpre y (List.mem_cons_of_mem _ hy))
      (fun y hy => hpre' y (List.mem_cons_of_mem _ hy)) hbad hbad'
    exact ⟨rfl, rfl, rfl⟩

theorem passes_checks_iff (e : PermissionEntry) (pcq : PerChainQueryRequest) :
    (∀ x ∈ pcq.checks, x.passes e) ↔ pcq.Supported ∧ pcq.CallsAllowed e := by
  rcases pcq with ⟨c, _ | _ | _ | ⟨q⟩ | ⟨q⟩⟩ <;>
    simp [PerChainQueryRequest.checks, PerChainQueryRequest.Supported,
      PerChainQueryRequest.CallsAllowed]

theorem passes_callChecks_iff (e : PermissionEntry) (pcqs : List PerChainQueryRequest) :
    (∀ x ∈ callChecks pcqs, x.passes e) ↔ ∀ pcq ∈ pcqs, pcq.Supported ∧ pcq.CallsAllowed e := by
  simp only [callChecks, List.mem_flatMap, forall_exists_index, and_imp, ← passes_checks_iff]
  exact ⟨fun h pcq hp x hx => h x pcq hp hx, fun h x pcq hp hx => h pcq hp x hx⟩

end GuardianNode.Ccq