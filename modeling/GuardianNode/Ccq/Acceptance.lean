import GuardianNode.Ccq.Authorization

/-! When `validateRequest` accepts a request, and what it returns otherwise: the two halves of
the function inverted, then the decision. -/

namespace GuardianNode.Ccq

variable {Key : Type} (ext : External Key) (env : Environment) (perms : Permissions)
  (signerKey : Option Key) (apiKey : String)

/-- Acceptance conditions (a) and (b): the key's entry `e`, and a signature or a co-signature. -/
def Authenticated (qr : SignedQueryRequest) (e : PermissionEntry) : Prop :=
  perms.getUserEntry apiKey = some e ∧
    (qr.signature ≠ [] ∨ e.allowUnsigned ∧ ∃ key sig, signerKey = some key ∧
      ext.sign (ext.queryRequestDigest env qr.queryRequest) key = .ok sig)

theorem authenticate_cases (qr : SignedQueryRequest) :
    (∃ rej : Rejection, authenticate ext env perms signerKey apiKey qr = .error (rej, qr) ∧
      (∀ e, ¬ Authenticated ext env perms signerKey apiKey qr e) ∧
      (rej = .invalidApiKey ∨ rej = .requestNotSigned ∨ ∃ err, rej = .failedToSignRequest err)) ∨
    ∃ e qr', authenticate ext env perms signerKey apiKey qr = .ok (e, qr') ∧
      Authenticated ext env perms signerKey apiKey qr e ∧
      qr'.queryRequest = qr.queryRequest ∧
      (qr' = qr ∨ qr.signature = [] ∧ e.allowUnsigned ∧ ∃ key, signerKey = some key ∧
        ext.sign (ext.queryRequestDigest env qr.queryRequest) key = .ok qr'.signature) := by
  unfold authenticate Authenticated
  rcases he : perms.getUserEntry apiKey with _ | e
  · exact .inl ⟨_, rfl, by simp, .inl rfl⟩
  by_cases hs : qr.signature = []
  · simp only [hs, if_true]
    rcases hu : e.allowUnsigned with _ | _
    · exact .inl ⟨_, rfl, by simp [hu], .inr (.inl rfl)⟩
    rcases hk : signerKey with _ | key
    · exact .inl ⟨_, rfl, by simp, .inr (.inl rfl)⟩
    rcases hsig : ext.sign (ext.queryRequestDigest env qr.queryRequest) key with err | sig
    · have hqr : { qr with signature := [] } = qr := by rw [← hs]
      exact .inl ⟨.failedToSignRequest err, by simp only [hsig, hqr], by simp [hsig],
        .inr (.inr ⟨err, rfl⟩)⟩
    · exact .inr ⟨e, { qr with signature := sig }, by simp only [hsig],
        ⟨rfl, .inr ⟨hu, key, sig, rfl, hsig⟩⟩, rfl, .inr ⟨trivial, hu, key, rfl, hsig⟩⟩
  · simp only [hs, if_false]
    exact .inr ⟨e, qr, rfl, ⟨rfl, .inl hs⟩, rfl, .inl rfl⟩

theorem checkQueryRequest_cases (e : PermissionEntry) (qr : SignedQueryRequest) (m : Metrics) :
    (∃ err, ext.unmarshal qr.queryRequest = .error err ∧
      checkQueryRequest ext e qr m = (Rejection.failedToUnmarshalRequest err).reject qr m) ∨
    (∃ q err, ext.unmarshal qr.queryRequest = .ok q ∧ ext.validate q = .error err ∧
      checkQueryRequest ext e qr m = (Rejection.failedToValidateRequest err).reject qr m) ∨
    ∃ q, ext.unmarshal qr.queryRequest = .ok q ∧ ext.validate q = .ok () ∧
      (((∀ x ∈ callChecks q.perChainQueries, x.passes e) ∧
        checkQueryRequest ext e qr m =
          ⟨200, some q, none, qr, m.addCalls (callChecks q.perChainQueries)⟩) ∨
      ∃ pre bad post, callChecks q.perChainQueries = pre ++ bad :: post ∧
        (∀ x ∈ pre, x.passes e) ∧ bad.passes e = false ∧
        checkQueryRequest ext e qr m = bad.rejection.reject qr (m.addCalls pre)) := by
  unfold checkQueryRequest
  rcases hu : ext.unmarshal qr.queryRequest with err | q
  · exact .inl ⟨err, rfl, rfl⟩
  dsimp only
  rcases hv : ext.validate q with err | ⟨⟩
  · exact .inr (.inl ⟨q, err, rfl, hv, rfl⟩)
  dsimp only
  refine .inr (.inr ⟨q, rfl, hv, ?_⟩)
  rcases validatePerChainQueries_cases e q.perChainQueries m with
    ⟨h, hl⟩ | ⟨pre, bad, post, hs, hpre, hbad, hl⟩
  · exact .inl ⟨h, by simp only [hl]⟩
  · exact .inr ⟨pre, bad, post, hs, hpre, hbad, by simp only [hl, Rejection.peg, Rejection.reject]⟩

theorem validateRequest_accepts_iff (qr : SignedQueryRequest) (m : Metrics) (q : QueryRequest) :
    (let r := validateRequest ext env perms signerKey apiKey qr m
     r.status = 200 ∧ r.query = some q ∧ r.err = none) ↔
    ∃ e, Authenticated ext env perms signerKey apiKey qr e ∧
      ext.unmarshal qr.queryRequest = .ok q ∧ ext.validate q = .ok () ∧
      ∀ pcq ∈ q.perChainQueries, pcq.Supported ∧ pcq.CallsAllowed e := by
  unfold validateRequest
  rcases authenticate_cases ext env perms signerKey apiKey qr with
    ⟨rej, ha, hna, -⟩ | ⟨e, qr', ha, hauth, hq, -⟩
  · simp only [ha, Rejection.reject, reduceCtorEq, false_and, and_false, false_iff, not_exists,
      not_and]
    exact fun e hauth => absurd hauth (hna e)
  simp only [ha]
  have huniq : ∀ e', Authenticated ext env perms signerKey apiKey qr e' → e' = e :=
    fun e' h => Option.some_inj.mp (h.1.symm.trans hauth.1)
  rcases checkQueryRequest_cases ext e qr' m with ⟨err, hu', hc⟩ | ⟨q', err, hu', hv', hc⟩ |
    ⟨q', hu, hv, ⟨hall, hc⟩ | ⟨pre, bad, post, hs, hpre, hbad, hc⟩⟩
  · simp only [hc, Rejection.reject, reduceCtorEq, false_and, and_false, false_iff, not_exists,
      not_and]
    exact fun _ _ hu _ _ => by rw [hq, hu] at hu'; exact nomatch hu'
  · simp only [hc, Rejection.reject, reduceCtorEq, false_and, and_false, false_iff, not_exists,
      not_and]
    intro _ _ hu hv _
    obtain rfl := Except.ok.inj ((hq ▸ hu').symm.trans hu)
    exact nomatch hv.symm.trans hv'
  · rw [hq] at hu
    simp only [hc, true_and, and_true, Option.some_inj]
    refine ⟨fun h => h ▸ ⟨e, hauth, hu, hv, (passes_callChecks_iff e _).mp hall⟩, ?_⟩
    rintro ⟨e', -, hu', -⟩
    exact Except.ok.inj (hu.symm.trans hu')
  · rw [hq] at hu
    simp only [hc, Rejection.reject, reduceCtorEq, false_and, and_false, false_iff, not_exists,
      not_and]
    intro e' hauth' hu' _ hall
    obtain rfl := huniq e' hauth'
    obtain rfl := Except.ok.inj (hu.symm.trans hu')
    have := (passes_callChecks_iff e' _).mpr hall bad (by simp [hs])
    simp [hbad] at this

theorem validateRequest_result (qr : SignedQueryRequest) (m : Metrics) :
    let r := validateRequest ext env perms signerKey apiKey qr m
    (r.query = none ∧ r.err.isSome) ∨ ∃ q, r.status = 200 ∧ r.query = some q ∧ r.err = none := by
  unfold validateRequest
  rcases authenticate_cases ext env perms signerKey apiKey qr with
    ⟨rej, ha, -⟩ | ⟨e, qr', ha, -⟩
  · simp [ha, Rejection.reject]
  simp only [ha]
  rcases checkQueryRequest_cases ext e qr' m with ⟨_, -, hc⟩ | ⟨_, _, -, -, hc⟩ |
    ⟨q', -, -, ⟨-, hc⟩ | ⟨_, _, _, -, -, -, hc⟩⟩ <;> simp [hc, Rejection.reject]

theorem validateRequest_missing_call_key (qr : SignedQueryRequest) (m : Metrics)
    {e : PermissionEntry} (hauth : Authenticated ext env perms signerKey apiKey qr e)
    {q : QueryRequest} (hu : ext.unmarshal qr.queryRequest = .ok q) (hv : ext.validate q = .ok ())
    {pre post : List Check} {c : ChainID} {key : String}
    (hs : callChecks q.perChainQueries = pre ++ (c, some key) :: post)
    (hpre : ∀ x ∈ pre, x.passes e) (hkey : key ∉ e.allowedCalls) :
    ∃ qr', validateRequest ext env perms signerKey apiKey qr m =
      (Rejection.callNotAuthorized key).reject qr' (m.addCalls pre) := by
  unfold validateRequest
  rcases authenticate_cases ext env perms signerKey apiKey qr with
    ⟨rej, ha, hna, -⟩ | ⟨e', qr', ha, hauth', hq, hqr'⟩
  · exact absurd hauth (hna e)
  obtain rfl : e' = e := Option.some_inj.mp (hauth'.1.symm.trans hauth.1)
  have hbad : Check.passes e' (c, some key) = false := by simpa using hkey
  simp only [ha]
  rcases checkQueryRequest_cases ext e' qr' m with ⟨err, hu', -⟩ | ⟨q', err, hu', hv', -⟩ |
    ⟨q', hu', hv', ⟨hall, hc⟩ | ⟨pre', bad, post', hs', hpre', hbad', hc⟩⟩
  · rw [hq, hu] at hu'
    exact nomatch hu'
  · obtain rfl := Except.ok.inj ((hq ▸ hu').symm.trans hu)
    exact nomatch hv.symm.trans hv'
  · obtain rfl := Except.ok.inj ((hq ▸ hu').symm.trans hu)
    have := hall (c, some key) (by simp [hs])
    simp [hbad] at this
  · obtain rfl := Except.ok.inj ((hq ▸ hu').symm.trans hu)
    obtain ⟨rfl, rfl, rfl⟩ := first_failure_unique (hs'.symm.trans hs) hpre' hpre hbad' hbad
    exact ⟨qr', hc⟩

theorem validateRequest_decides (qr : SignedQueryRequest) (m : Metrics) :
    let r := validateRequest ext env perms signerKey apiKey qr m
    (∀ q, (r.status = 200 ∧ r.query = some q ∧ r.err = none) ↔
      ∃ e, perms.getUserEntry apiKey = some e ∧
        (qr.signature ≠ [] ∨ e.allowUnsigned ∧ ∃ k sig, signerKey = some k ∧
          ext.sign (ext.queryRequestDigest env qr.queryRequest) k = .ok sig) ∧
        ext.unmarshal qr.queryRequest = .ok q ∧ ext.validate q = .ok () ∧
        ∀ pcq ∈ q.perChainQueries, pcq.Supported ∧ pcq.CallsAllowed e) ∧
    ((r.query = none ∧ r.err.isSome) ∨ ∃ q, r.status = 200 ∧ r.query = some q ∧ r.err = none) ∧
    ∀ (e : PermissionEntry) (q : QueryRequest) (pre : List Check) (c : ChainID) (key : String)
      (post : List Check), perms.getUserEntry apiKey = some e →
      (qr.signature ≠ [] ∨ e.allowUnsigned ∧ ∃ k sig, signerKey = some k ∧
        ext.sign (ext.queryRequestDigest env qr.queryRequest) k = .ok sig) →
      ext.unmarshal qr.queryRequest = .ok q → ext.validate q = .ok () →
      callChecks q.perChainQueries = pre ++ (c, some key) :: post →
      (∀ x ∈ pre, x.passes e) → key ∉ e.allowedCalls →
      r.status = 403 ∧ r.query = none ∧ r.err = some (Rejection.callNotAuthorized key).error := by
  refine ⟨fun q => ?_, validateRequest_result ext env perms signerKey apiKey qr m, ?_⟩
  · simpa only [Authenticated, and_assoc] using
      validateRequest_accepts_iff ext env perms signerKey apiKey qr m q
  · intro e q pre c key post he hsig hu hv hs hpre hkey
    obtain ⟨qr', h⟩ := validateRequest_missing_call_key ext env perms signerKey apiKey qr m
      ⟨he, hsig⟩ hu hv hs hpre hkey
    simp only [h, Rejection.reject, Rejection.status, and_self]

/-- A key whose allow-list is empty, a signed request decoding to one Solana account query. -/
def unlistedKeyExternal : External Unit where
  queryRequestDigest _ b := b
  sign _ _ := .ok [1]
  unmarshal _ := .ok ⟨0, [⟨1, .solanaAccount ⟨[Bytes32.zero]⟩⟩]⟩
  validate _ := .ok ()

theorem validateRequest_decides_unlisted_key :
    (validateRequest unlistedKeyExternal .mainNet ⟨fun _ => some ⟨false, []⟩⟩ none "key"
      ⟨[], [1]⟩ ⟨fun _ => 0, fun _ => 0⟩).status = 403 :=
  ((validateRequest_decides unlistedKeyExternal .mainNet ⟨fun _ => some ⟨false, []⟩⟩ none "key"
    ⟨[], [1]⟩ ⟨fun _ => 0, fun _ => 0⟩).2.2 ⟨false, []⟩ ⟨0, [⟨1, .solanaAccount ⟨[Bytes32.zero]⟩⟩]⟩
    [] 1 (callKey "solAccount" 1 Bytes32.zero) [] rfl (.inl (List.cons_ne_nil _ _)) rfl rfl rfl
    (fun _ h => absurd h (List.not_mem_nil _)) (List.not_mem_nil _)).1

end GuardianNode.Ccq