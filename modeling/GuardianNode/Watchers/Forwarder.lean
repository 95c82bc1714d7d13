import GuardianNode.Common

/-! The per-chain forwarders of `GuardianOptionWatchers`. For every chain one goroutine moves
observations from the chain's watcher to `msgC` and another moves query responses to
`queryResponseC`, each checking that what it forwards belongs to its chain. A message is
written, dropped after a log line, or ends the process with a fatal log; a fatal log does not
return. Both goroutines are the same machine with a different decision per value. -/

namespace GuardianNode.Node

/-- What a forwarder does with one received value. -/
inductive Forward
  | write
  | drop
  | exit
  deriving DecidableEq, Repr

/-- The fields of `common.MessagePublication` the forwarder reads; the others travel unread. -/
structure MessagePublication where
  emitterChain : ChainID
  emitterAddress : Address
  deriving DecidableEq

/-- `query.PerChainQueryResponseInternal`, of which the forwarder reads the chain. -/
structure PerChainQueryResponseInternal where
  chainId : ChainID
  deriving DecidableEq

/-- `vaa.GovernanceChain` and `vaa.GovernanceEmitter`, constants of the SDK. -/
structure Governance where
  chain : ChainID
  emitter : Address

/-- `logger.Log` of a security violation: fatal, but in `GoTest`. -/
def securityViolation (env : Environment) : Forward :=
  if env = .goTest then .drop else .exit

/-- The body of the observation forwarder of `chainId`. -/
def observationStep (gov : Governance) (env : Environment) (chainId : ChainID)
    (msg : MessagePublication) : Forward :=
  if msg.emitterChain ≠ chainId then securityViolation env
  else if msg.emitterAddress = Bytes32.zero then securityViolation env
  else if msg.emitterAddress = gov.emitter ∧ msg.emitterChain = gov.chain then .drop
  else .write

/-- The query response forwarder of `chainId`: `logger.Fatal` on a foreign chain, else the write. -/
def responseStep (chainId : ChainID) (response : PerChainQueryResponseInternal) : Forward :=
  if response.chainId ≠ chainId then .exit else .write

/-- A forwarder goroutine: whether the process still runs, and what it wrote, in order. -/
structure Forwarder (α : Type) where
  alive : Bool
  written : List α

/-- A goroutine that has not received anything yet. -/
def Forwarder.init (α : Type) : Forwarder α := ⟨true, []⟩

/-- One iteration of the `for`/`select` loop: receive `a` and act on it. -/
def Forwarder.step {α : Type} (body : α → Forward) (f : Forwarder α) (a : α) : Forwarder α :=
  if f.alive then
    match body a with
    | .write => { f with written := f.written ++ [a] }
    | .drop => f
    | .exit => { f with alive := false }
  else f

/-- The loop over the values the channel delivers. -/
def Forwarder.run {α : Type} (body : α → Forward) (f : Forwarder α) (as : List α) :
    Forwarder α :=
  as.foldl (Forwarder.step body) f

section

variable {α : Type} (body : α → Forward)

@[simp] theorem Forwarder.run_nil (f : Forwarder α) : Forwarder.run body f [] = f := rfl

@[simp] theorem Forwarder.run_cons (f : Forwarder α) (a : α) (as : List α) :
    Forwarder.run body f (a :: as) = Forwarder.run body (f.step body a) as := rfl

theorem Forwarder.run_dead (w : List α) : ∀ as, Forwarder.run body ⟨false, w⟩ as = ⟨false, w⟩
  | [] => rfl
  | _ :: as => Forwarder.run_dead w as

theorem Forwarder.step_written {P : α → Prop} (hP : ∀ a, body a = .write → P a)
    {f : Forwarder α} (hf : ∀ a ∈ f.written, P a) (a : α) :
    ∀ b ∈ (f.step body a).written, P b := by
  intro b hb
  unfold Forwarder.step at hb
  split at hb
  · split at hb
    · next _ hw =>
      rcases List.mem_append.mp hb with hb | hb
      · exact hf b hb
      · exact List.eq_of_mem_singleton hb ▸ hP a hw
    · exact hf b hb
    · exact hf b hb
  · exact hf b hb

theorem Forwarder.run_written {P : α → Prop} (hP : ∀ a, body a = .write → P a) :
    ∀ (as : List α) {f : Forwarder α}, (∀ a ∈ f.written, P a) →
      ∀ b ∈ (Forwarder.run body f as).written, P b
  | [], _, hf => hf
  | a :: as, _, hf => Forwarder.run_written hP as (Forwarder.step_written body hP hf a)

theorem Forwarder.run_written_eq (w : List α) : ∀ as : List α,
    (Forwarder.run body ⟨true, w⟩ as).written =
      w ++ (as.takeWhile (body · ≠ .exit)).filter (body · = .write)
  | [] => by simp
  | a :: as => by
    rcases h : body a with _ | _ | _
    · simp [Forwarder.step, h, Forwarder.run_written_eq (w ++ [a]) as]
    · simp [Forwarder.step, h, Forwarder.run_written_eq w as]
    · simp [Forwarder.step, h, Forwarder.run_dead]

end

theorem takeWhile_congr {α : Type} {p q : α → Bool} :
    ∀ {l : List α}, (∀ x ∈ l, p x = q x) → l.takeWhile p = l.takeWhile q
  | [], _ => rfl
  | a :: l, h => by
    simp only [List.takeWhile_cons, h a (List.mem_cons_self a l),
      takeWhile_congr (fun x hx => h x (List.mem_cons_of_mem a hx))]

/-- The check of the observation forwarder of `chainId`. -/
def forwardable (gov : Governance) (chainId : ChainID) (msg : MessagePublication) : Bool :=
  msg.emitterChain = chainId ∧ msg.emitterAddress ≠ Bytes32.zero ∧
    ¬(msg.emitterAddress = gov.emitter ∧ msg.emitterChain = gov.chain)

theorem observationStep_eq_write (gov : Governance) (env : Environment) (c : ChainID)
    (msg : MessagePublication) : observationStep gov env c msg = .write ↔ forwardable gov c msg := by
  unfold observationStep securityViolation forwardable
  split_ifs <;> simp_all

theorem observationStep_ne_exit (gov : Governance) (env : Environment) (c : ChainID)
    (msg : MessagePublication) :
    observationStep gov env c msg ≠ .exit ↔
      env = .goTest ∨ msg.emitterChain = c ∧ msg.emitterAddress ≠ Bytes32.zero := by
  unfold observationStep securityViolation
  split_ifs <;> simp_all

theorem responseStep_eq_write {c : ChainID} {r : PerChainQueryResponseInternal} :
    responseStep c r = .write ↔ r.chainId = c := by
  unfold responseStep
  split_ifs <;> simp_all

theorem responseStep_ne_exit {c : ChainID} {r : PerChainQueryResponseInternal} :
    responseStep c r ≠ .exit ↔ r.chainId = c := by
  unfold responseStep
  split_ifs <;> simp_all

theorem forwarders_keep_chain (gov : Governance) (env : Environment) (c : ChainID)
    (msgs : List MessagePublication) (responses : List PerChainQueryResponseInternal) :
    let obs := (Forwarder.run (observationStep gov env c) (.init _) msgs).written
    let resp := (Forwarder.run (responseStep c) (.init _) responses).written
    (∀ m ∈ obs, m.emitterChain = c ∧ m.emitterAddress ≠ Bytes32.zero ∧
      ¬(m.emitterAddress = gov.emitter ∧ m.emitterChain = gov.chain)) ∧
    obs = (if env = .goTest then msgs
      else msgs.takeWhile fun m => m.emitterChain = c ∧ m.emitterAddress ≠ Bytes32.zero).filter
        (forwardable gov c) ∧
    (∀ r ∈ resp, r.chainId = c) ∧
    resp = responses.takeWhile (·.chainId = c) := by
  refine ⟨Forwarder.run_written _ (fun m h => by
      simpa only [forwardable, decide_eq_true_eq] using (observationStep_eq_write gov env c m).mp h)
      msgs nofun, ?_,
    Forwarder.run_written _ (fun _ h => responseStep_eq_write.mp h) responses nofun, ?_⟩
  · have hw : ∀ m, decide (observationStep gov env c m = .write) = forwardable gov c m :=
      fun m => by simp [observationStep_eq_write]
    simp only [Forwarder.init, Forwarder.run_written_eq, List.nil_append, hw]
    congr 1
    by_cases he : env = .goTest
    · rw [if_pos he]
      exact List.takeWhile_eq_self_iff.mpr fun m _ =>
        decide_eq_true ((observationStep_ne_exit gov env c m).mpr (.inl he))
    · rw [if_neg he]
      exact takeWhile_congr fun m _ =>
        decide_eq_decide.mpr ((observationStep_ne_exit gov env c m).trans (or_iff_right he))
  · simp only [Forwarder.init, Forwarder.run_written_eq, List.nil_append, responseStep_eq_write,
      responseStep_ne_exit]
    exact List.filter_eq_self.mpr fun r hr => by simpa using List.mem_takeWhile_imp hr

end GuardianNode.Node
