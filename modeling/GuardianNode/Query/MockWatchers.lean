import GuardianNode.Common
import Mathlib.Logic.Function.Basic

/-! The mock watchers of `query_test.go`: one goroutine per chain answers its queries as
`retriesPerChain` says, all under the mock's mutex. Go's `int` is 64 bits wide. -/

namespace GuardianNode.Query

/-- `QueryStatus`. -/
inductive QueryStatus
  | querySuccess
  | queryRetryNeeded
  | queryFatalError
  deriving DecidableEq, Repr

/-- `math.MaxInt`. -/
def maxInt : Int := 9223372036854775807

/-- `math.MinInt`. -/
def minInt : Int := -9223372036854775808

/-- `fatalError`, the retry count that makes a watcher fail the query. -/
def fatalError : Int := maxInt

/-- `ignoreQuery`, the retry count that makes a watcher drop the query once. -/
def ignoreQuery : Int := maxInt - 1

/-- Go's `int` arithmetic: two's complement on 64 bits. -/
def wrapInt (x : Int) : Int := (x + 9223372036854775808) % 18446744073709551616 - 9223372036854775808

/-- The fields of `PerChainQueryInternal` the mock reads: `RequestIdx` and `Request.ChainId`. -/
structure PerChainQueryInternal where
  requestIdx : Int
  chainId : ChainID
  deriving DecidableEq, Repr

/-- `CreatePerChainQueryResponseInternal`; the request id is passed on unread. -/
structure PerChainQueryResponseInternal (α : Type) where
  requestIdx : Int
  chainId : ChainID
  status : QueryStatus
  results : α
  deriving DecidableEq, Repr

/-- The fields of `mockData` that the watchers and the setters use. -/
structure MockData (α : Type) where
  expectedResults : List α
  requestsPerChain : ChainID → Option Nat
  retriesPerChain : ChainID → Option Int

namespace MockData

variable {α : Type} (md : MockData α)

/-- `resetState`: every field the watchers read is cleared, whatever the mock held. -/
def resetState : MockData α := ⟨[], fun _ => none, fun _ => none⟩

def setExpectedResults (expectedResults : List α) : MockData α :=
  { md with expectedResults }

def setRetries (chainId : ChainID) (count : Int) : MockData α :=
  { md with retriesPerChain := Function.update md.retriesPerChain chainId (some count) }

def incrementRequestsPerChainAlreadyLocked (chainId : ChainID) : MockData α :=
  match md.requestsPerChain chainId with
  | some val => { md with requestsPerChain := Function.update md.requestsPerChain chainId (some (val + 1)) }
  | none => { md with requestsPerChain := Function.update md.requestsPerChain chainId (some 1) }

def getRequestsPerChain (chainId : ChainID) : Nat :=
  match md.requestsPerChain chainId with
  | some ret => ret
  | none => 0

/-- `shouldIgnoreAlreadyLocked`, with the mock it leaves. -/
def shouldIgnoreAlreadyLocked (chainId : ChainID) : MockData α × Bool :=
  match md.retriesPerChain chainId with
  | some val =>
    if val = ignoreQuery then
      ({ md with retriesPerChain := Function.update md.retriesPerChain chainId none }, true)
    else (md, false)
  | none => (md, false)

/-- `getStatusAlreadyLocked`, with the mock it leaves. -/
def getStatusAlreadyLocked (chainId : ChainID) : MockData α × QueryStatus :=
  match md.retriesPerChain chainId with
  | some val =>
    if val = fatalError then (md, .queryFatalError)
    else
      let val := wrapInt (val - 1)
      if val > 0 then
        ({ md with retriesPerChain := Function.update md.retriesPerChain chainId (some val) },
          .queryRetryNeeded)
      else
        ({ md with retriesPerChain := Function.update md.retriesPerChain chainId none },
          .queryRetryNeeded)
  | none => (md, .querySuccess)

/-- `md.expectedResults[idx]`, `none` where Go panics with an index out of range. -/
def expectedResult? (idx : Int) : Option α :=
  if idx < 0 then none else md.expectedResults[idx.toNat]?

end MockData

/-- How one iteration of a mock watcher's loop ends. -/
inductive Iteration (α : Type)
  /-- `require.Equal` fails on a query of another chain: `FailNow` ends the goroutine. -/
  | exit
  | ignored
  | responded (response : PerChainQueryResponseInternal α)
  /-- The expected result's index is out of range: the test binary panics. -/
  | panicked
  deriving DecidableEq, Repr

variable {α : Type}

/-- One iteration of the watcher goroutine of `chainId`, on the query `pcqr`, under the lock. -/
def watcherStep (md : MockData α) (chainId : ChainID) (pcqr : PerChainQueryInternal) :
    MockData α × Iteration α :=
  if chainId ≠ pcqr.chainId then (md, .exit)
  else
    let md := md.incrementRequestsPerChainAlreadyLocked chainId
    match md.shouldIgnoreAlreadyLocked chainId with
    | (md, true) => (md, .ignored)
    | (md, false) =>
      match md.expectedResult? pcqr.requestIdx with
      | none => (md, .panicked)
      | some results =>
        let (md, status) := md.getStatusAlreadyLocked chainId
        (md, .responded ⟨pcqr.requestIdx, pcqr.chainId, status, results⟩)

/-- The watchers under the mutex, one query at a time in the scheduler's order. -/
def watchersRun (md : MockData α) :
    List (ChainID × PerChainQueryInternal) → MockData α × List (ChainID × Iteration α)
  | [] => (md, [])
  | (c, q) :: ds =>
    let (md, it) := watcherStep md c q
    let (md, its) := watchersRun md ds
    (md, (c, it) :: its)

/-! ### One chain's entry of `retriesPerChain` -/

/-- One query's effect on its chain's entry, and its status (`none`: ignored). -/
def retryStep : Option Int → Option Int × Option QueryStatus
  | none => (none, some .querySuccess)
  | some val =>
    if val = ignoreQuery then (none, none)
    else if val = fatalError then (some val, some .queryFatalError)
    else if wrapInt (val - 1) > 0 then (some (wrapInt (val - 1)), some .queryRetryNeeded)
    else (none, some .queryRetryNeeded)

/-- The status of a chain's `i`-th query for the count `k` the test set (`none`: ignored). -/
def retryPlan : Option Int → Nat → Option QueryStatus
  | none, _ => some .querySuccess
  | some k, i =>
    if k = fatalError then some .queryFatalError
    else if k = ignoreQuery then if i = 0 then none else some .querySuccess
    else if k = minInt then if i = 0 then some .queryRetryNeeded else some .queryFatalError
    else if i = 0 ∨ (i : Int) < k then some .queryRetryNeeded else some .querySuccess

/-- The entry of a chain whose count was `k`, after `i` queries. -/
def retryEntry : Option Int → Nat → Option Int
  | none, _ => none
  | some k, 0 => some k
  | some k, i + 1 =>
    if k = fatalError then some k
    else if k = ignoreQuery then none
    else if k = minInt then some fatalError
    else if (i + 1 : Int) < k then some (k - (i + 1)) else none

theorem retryEntry_zero (k : Option Int) : retryEntry k 0 = k := by
  cases k <;> rfl

theorem wrapInt_of_le {x : Int} (hlo : minInt ≤ x) (hhi : x ≤ maxInt) : wrapInt x = x := by
  simp only [wrapInt, minInt, maxInt] at *
  omega

theorem retryStep_of_lt {v : Int} (hlo : minInt < v) (hhi : v < ignoreQuery) :
    retryStep (some v) = (if 1 < v then some (v - 1) else none, some .queryRetryNeeded) := by
  have hw : wrapInt (v - 1) = v - 1 := wrapInt_of_le (by omega) (by simp only [ignoreQuery] at hhi; omega)
  simp only [retryStep, hw, fatalError, ignoreQuery, maxInt] at *
  split_ifs <;> first | rfl | omega

theorem retryStep_retryEntry {k : Option Int} (hk : ∀ v, k = some v → minInt ≤ v ∧ v ≤ maxInt)
    (i : Nat) : retryStep (retryEntry k i) = (retryEntry k (i + 1), retryPlan k i) := by
  cases k with
  | none => rfl
  | some k =>
    obtain ⟨hlo, hhi⟩ := hk k rfl
    by_cases hf : k = fatalError
    · subst hf; cases i <;> rfl
    by_cases hi : k = ignoreQuery
    · subst hi; cases i <;> rfl
    by_cases hm : k = minInt
    · subst hm; cases i <;> rfl
    have hlt : minInt < k ∧ k < ignoreQuery := by
      simp only [fatalError, ignoreQuery, minInt, maxInt] at *; omega
    cases i with
    | zero =>
      simp only [retryEntry, retryPlan, hf, hi, hm, if_false, retryStep_of_lt hlt.1 hlt.2,
        true_or, if_true]
      split_ifs <;> simp only [Prod.mk.injEq, Option.some.injEq, reduceCtorEq, and_true] <;> omega
    | succ i =>
      simp only [retryEntry, retryPlan, hf, hi, hm, if_false, Nat.add_one_ne_zero, false_or]
      by_cases hlive : (i + 1 : Int) < k
      · rw [if_pos hlive, retryStep_of_lt (by unfold minInt; omega) (by omega)]
        split_ifs <;> simp only [Prod.mk.injEq, Option.some.injEq, reduceCtorEq, and_true] <;> omega
      · rw [if_neg hlive]
        split_ifs <;> first | rfl | omega

/-- `math.MinInt` counts down to `math.MaxInt`, which is `fatalError`. -/
example : retryStep (some minInt) = (some fatalError, some .queryRetryNeeded) ∧
    retryStep (some fatalError) = (some fatalError, some .queryFatalError) := ⟨rfl, rfl⟩

/-! ### The watchers over a whole run -/

namespace MockData

variable (md : MockData α) (c : ChainID)

theorem getRequestsPerChain_eq : md.getRequestsPerChain c = (md.requestsPerChain c).getD 0 := by
  unfold getRequestsPerChain; split <;> simp_all

theorem incrementRequestsPerChainAlreadyLocked_eq :
    md.incrementRequestsPerChainAlreadyLocked c =
      { md with
        requestsPerChain := Function.update md.requestsPerChain c (some (md.getRequestsPerChain c + 1)) } := by
  unfold incrementRequestsPerChainAlreadyLocked getRequestsPerChain
  split <;> simp_all

@[simp] theorem expectedResult?_update (f : ChainID → Option Nat) (g : ChainID → Option Int) :
    ({ md with requestsPerChain := f, retriesPerChain := g } : MockData α).expectedResult? =
      md.expectedResult? := rfl

end MockData

/-- The iteration that answers `q` with `status?` and the expected result `results?`. -/
def Iteration.answer (status? : Option QueryStatus) (q : PerChainQueryInternal)
    (results? : Option α) : Iteration α :=
  match status?, results? with
  | none, _ => .ignored
  | some _, none => .panicked
  | some status, some results => .responded ⟨q.requestIdx, q.chainId, status, results⟩

theorem watcherStep_eq (md : MockData α) (q : PerChainQueryInternal) {r : α}
    (hr : md.expectedResult? q.requestIdx = some r) :
    watcherStep md q.chainId q =
      ({ md with
          requestsPerChain := Function.update md.requestsPerChain q.chainId
            (some (md.getRequestsPerChain q.chainId + 1))
          retriesPerChain := Function.update md.retriesPerChain q.chainId
            (retryStep (md.retriesPerChain q.chainId)).1 },
        Iteration.answer (retryStep (md.retriesPerChain q.chainId)).2 q (some r)) := by
  have hr' : ∀ f, ({ md with requestsPerChain := f } : MockData α).expectedResult? q.requestIdx =
      some r := fun _ => hr
  simp only [watcherStep, ne_eq, not_true_eq_false, if_false,
    MockData.incrementRequestsPerChainAlreadyLocked_eq, MockData.shouldIgnoreAlreadyLocked]
  cases he : md.retriesPerChain q.chainId with
  | none => simp [hr', MockData.getStatusAlreadyLocked, he, retryStep, Iteration.answer]
  | some val =>
    by_cases hi : val = ignoreQuery
    · simp [hi, retryStep, Iteration.answer]
    simp only [hi, if_false, hr', MockData.getStatusAlreadyLocked, he, retryStep]
    split_ifs <;> simp [Iteration.answer, he]

theorem watchersRun_cons (md : MockData α) (d : ChainID × PerChainQueryInternal)
    (ds : List (ChainID × PerChainQueryInternal)) :
    watchersRun md (d :: ds) =
      ((watchersRun (watcherStep md d.1 d.2).1 ds).1,
        (d.1, (watcherStep md d.1 d.2).2) :: (watchersRun (watcherStep md d.1 d.2).1 ds).2) := rfl

variable {c : ChainID} {k : Option Int} {i : Nat}

theorem watcherStep_chain (hk : ∀ v, k = some v → minInt ≤ v ∧ v ≤ maxInt) {md : MockData α}
    {q : PerChainQueryInternal} {r : α} (hr : md.expectedResult? q.requestIdx = some r)
    (he : md.retriesPerChain c = retryEntry k i) :
    let md' := (watcherStep md q.chainId q).1
    md'.expectedResult? = md.expectedResult? ∧
      md'.retriesPerChain c = retryEntry k (if q.chainId = c then i + 1 else i) ∧
      md'.getRequestsPerChain c = md.getRequestsPerChain c + (if q.chainId = c then 1 else 0) ∧
      (q.chainId = c → (watcherStep md q.chainId q).2 = Iteration.answer (retryPlan k i) q (some r)) := by
  rw [watcherStep_eq md q hr]
  by_cases hc : q.chainId = c
  · subst hc
    simp [he, retryStep_retryEntry hk, MockData.getRequestsPerChain_eq]
  · simp [hc, Ne.symm hc, he, MockData.getRequestsPerChain_eq]

theorem watchersRun_chain (hk : ∀ v, k = some v → minInt ≤ v ∧ v ≤ maxInt) :
    ∀ (ds : List (ChainID × PerChainQueryInternal)) (md : MockData α) (i : Nat),
      md.retriesPerChain c = retryEntry k i → (∀ d ∈ ds, d.2.chainId = d.1) →
      (∀ d ∈ ds, (md.expectedResult? d.2.requestIdx).isSome) →
      ((watchersRun md ds).2.filter (·.1 = c)).map (·.2) =
          (((ds.filter (·.1 = c)).map (·.2)).enumFrom i).map
            (fun p => Iteration.answer (retryPlan k p.1) p.2 (md.expectedResult? p.2.requestIdx)) ∧
        (watchersRun md ds).1.getRequestsPerChain c =
          md.getRequestsPerChain c + (ds.filter (·.1 = c)).length
  | [], md, i, _, _, _ => by simp [watchersRun]
  | (c', q) :: ds, md, i, he, hchain, hidx => by
    obtain rfl : q.chainId = c' := hchain _ (List.mem_cons_self _ _)
    obtain ⟨r, hr⟩ := Option.isSome_iff_exists.mp (hidx _ (List.mem_cons_self _ _))
    obtain ⟨hres, hent, hreq, hit⟩ := watcherStep_chain hk hr he
    obtain ⟨ih₁, ih₂⟩ := watchersRun_chain hk ds _ _ hent
      (fun d hd => hchain d (List.mem_cons_of_mem _ hd))
      (fun d hd => hres ▸ hidx d (List.mem_cons_of_mem _ hd))
    rw [hres] at ih₁
    rw [hreq] at ih₂
    rw [watchersRun_cons]
    by_cases hc : q.chainId = c
    · subst hc
      simp only [hit rfl, decide_True, List.filter_cons_of_pos, List.map_cons, ih₁, ↓reduceIte,
        List.enumFrom_cons, hr, ih₂, List.length_cons, true_and]
      omega
    · simp [hc, ih₁, ih₂]

/-- What the other chains' watchers do between two queries of a chain makes no difference to it. -/
theorem watchersRun_follows_retryPlan (md : MockData α)
    (ds : List (ChainID × PerChainQueryInternal))
    (hcount : ∀ c v, md.retriesPerChain c = some v → minInt ≤ v ∧ v ≤ maxInt)
    (hchain : ∀ d ∈ ds, d.2.chainId = d.1)
    (hidx : ∀ d ∈ ds, (md.expectedResult? d.2.requestIdx).isSome) (c : ChainID) :
    ((watchersRun md ds).2.filter (·.1 = c)).map (·.2) =
        (((ds.filter (·.1 = c)).map (·.2)).enum).map (fun p => Iteration.answer
          (retryPlan (md.retriesPerChain c) p.1) p.2 (md.expectedResult? p.2.requestIdx)) ∧
      (watchersRun md ds).1.getRequestsPerChain c =
        md.getRequestsPerChain c + (ds.filter (·.1 = c)).length :=
  watchersRun_chain (fun v h => hcount c v h) ds md 0 (retryEntry_zero _).symm hchain hidx

/-- A mock after `resetState`: two results, count 0 on chain 2, `ignoreQuery` on chain 4. -/
def twoChainMock : MockData Nat :=
  (((MockData.resetState : MockData Nat).setExpectedResults [10, 20]).setRetries 2 0).setRetries 4
    ignoreQuery

theorem watchersRun_follows_retryPlan_twoChains :
    let ds : List (ChainID × PerChainQueryInternal) :=
      [(2, ⟨0, 2⟩), (4, ⟨1, 4⟩), (2, ⟨1, 2⟩), (4, ⟨0, 4⟩)]
    (∀ c v, twoChainMock.retriesPerChain c = some v → minInt ≤ v ∧ v ≤ maxInt) ∧
      (∀ d ∈ ds, d.2.chainId = d.1) ∧
      (∀ d ∈ ds, (twoChainMock.expectedResult? d.2.requestIdx).isSome) ∧
      ((watchersRun twoChainMock ds).2.filter (·.1 = 2)).map (·.2) =
          (((ds.filter (·.1 = 2)).map (·.2)).enum).map (fun p => Iteration.answer
            (retryPlan (twoChainMock.retriesPerChain 2) p.1) p.2
            (twoChainMock.expectedResult? p.2.requestIdx)) ∧
        (watchersRun twoChainMock ds).1.getRequestsPerChain 2 =
          twoChainMock.getRequestsPerChain 2 + (ds.filter (·.1 = 2)).length := by
  intro ds
  have hcount : ∀ c v, twoChainMock.retriesPerChain c = some v → minInt ≤ v ∧ v ≤ maxInt := by
    intro c v h
    simp only [twoChainMock, MockData.setRetries, MockData.setExpectedResults,
      MockData.resetState, Function.update_apply] at h
    split_ifs at h <;> cases h <;> decide
  have hchain : ∀ d ∈ ds, d.2.chainId = d.1 := by decide
  have hidx : ∀ d ∈ ds, (twoChainMock.expectedResult? d.2.requestIdx).isSome := by decide
  exact ⟨hcount, hchain, hidx, watchersRun_follows_retryPlan twoChainMock ds hcount hchain hidx 2⟩

end GuardianNode.Query
