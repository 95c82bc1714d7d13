import GuardianNode.Watchers.Forwarder

/-! The forwarders of all chains write into one channel: the observation forwarders into `msgC`,
the query response forwarders into `queryResponseC`. Deliveries to the chains' channels
interleave in any order, each iteration of a goroutine taken as one step; a fatal log in any of
them ends the process and with it every forwarder. -/

namespace GuardianNode.Node

/-- One scheduling step: the forwarder of `chain` receives `value` from its watcher. -/
structure Delivery (α : Type) where
  chain : ChainID
  value : α

section

variable {α : Type} (body : ChainID → α → Forward)

/-- The forwarder of the delivery's chain acting on its value. -/
def Delivery.step (d : Delivery α) : Forward := body d.chain d.value

/-- What the shared channel holds after a run of the process over the deliveries `ds`. -/
def fanIn (ds : List (Delivery α)) : List α :=
  (Forwarder.run (Delivery.step body) (.init _) ds).written.map (·.value)

/-- The values chain `c`'s forwarder received before the process ended. -/
def consumedBy (c : ChainID) (ds : List (Delivery α)) : List α :=
  ((ds.takeWhile (Delivery.step body · ≠ .exit)).filter (·.chain = c)).map (·.value)

theorem fanIn_eq (ds : List (Delivery α)) :
    fanIn body ds = (((ds.takeWhile (Delivery.step body · ≠ .exit)).filter
      (Delivery.step body · = .write))).map (·.value) := by
  rw [fanIn, Forwarder.init, Forwarder.run_written_eq, List.nil_append]

theorem mem_fanIn {ds : List (Delivery α)} {a : α} (h : a ∈ fanIn body ds) :
    ∃ c, body c a = .write := by
  rw [fanIn_eq] at h
  obtain ⟨d, hd, rfl⟩ := List.mem_map.mp h
  exact ⟨d.chain, by simpa using (List.mem_filter.mp hd).2⟩

theorem fanIn_from_chain (origin : α → ChainID)
    (horigin : ∀ c a, body c a = .write → origin a = c) (ds : List (Delivery α)) (c : ChainID) :
    (fanIn body ds).filter (origin · = c) =
      (Forwarder.run (body c) (.init _) (consumedBy body c ds)).written := by
  have hlive : (consumedBy body c ds).takeWhile (body c · ≠ .exit) = consumedBy body c ds := by
    refine List.takeWhile_eq_self_iff.mpr fun a ha => ?_
    obtain ⟨d, hd, rfl⟩ := List.mem_map.mp ha
    obtain ⟨hpre, hc⟩ := List.mem_filter.mp hd
    obtain rfl : d.chain = c := by simpa using hc
    simpa using List.mem_takeWhile_imp hpre
  rw [fanIn_eq, Forwarder.init, Forwarder.run_written_eq, List.nil_append, hlive, consumedBy,
    List.filter_map, List.filter_map, List.filter_filter, List.filter_filter]
  congr 1
  refine List.filter_congr fun d _ => ?_
  rw [Bool.eq_iff_iff]
  simp only [Function.comp_apply, Bool.and_eq_true, decide_eq_true_eq]
  constructor
  · rintro ⟨rfl, hw⟩
    exact ⟨horigin _ _ hw ▸ hw, (horigin _ _ hw).symm⟩
  · rintro ⟨hw, rfl⟩
    exact ⟨horigin _ _ hw, hw⟩

end

/-- `msgC`, fed by the observation forwarders. -/
def msgC (gov : Governance) (env : Environment) (ds : List (Delivery MessagePublication)) :
    List MessagePublication :=
  fanIn (observationStep gov env) ds

/-- `queryResponseC`, fed by the query response forwarders. -/
def queryResponseC (ds : List (Delivery PerChainQueryResponseInternal)) :
    List PerChainQueryResponseInternal :=
  fanIn responseStep ds

theorem emitterChain_of_observationStep {gov : Governance} {env : Environment} {c : ChainID}
    {msg : MessagePublication} (h : observationStep gov env c msg = .write) :
    msg.emitterChain = c := by
  have := (observationStep_eq_write gov env c msg).mp h
  simp only [forwardable, decide_eq_true_eq] at this
  exact this.1

theorem msgC_from_chain (gov : Governance) (env : Environment)
    (ds : List (Delivery MessagePublication)) (c : ChainID) :
    (msgC gov env ds).filter (·.emitterChain = c) =
      (Forwarder.run (observationStep gov env c) (.init _)
        (consumedBy (observationStep gov env) c ds)).written ∧
    ∀ m ∈ msgC gov env ds, forwardable gov m.emitterChain m := by
  refine ⟨fanIn_from_chain (observationStep gov env) (·.emitterChain)
    (fun _ _ => emitterChain_of_observationStep) ds c, fun m hm => ?_⟩
  obtain ⟨c', hw⟩ := mem_fanIn _ hm
  rw [emitterChain_of_observationStep hw]
  exact (observationStep_eq_write gov env c' m).mp hw

/-- A response delivered to another chain's forwarder ends the process. -/
theorem queryResponseC_from_chain (ds : List (Delivery PerChainQueryResponseInternal))
    (c : ChainID) :
    queryResponseC ds = (ds.takeWhile fun d => d.value.chainId = d.chain).map (·.value) ∧
    (queryResponseC ds).filter (·.chainId = c) =
      (Forwarder.run (responseStep c) (.init _) (consumedBy responseStep c ds)).written := by
  refine ⟨?_, fanIn_from_chain responseStep (·.chainId) (fun _ _ => responseStep_eq_write.mp) ds c⟩
  simp only [queryResponseC, fanIn_eq, Delivery.step, responseStep_ne_exit, responseStep_eq_write]
  congr 1
  exact List.filter_eq_self.mpr fun d hd => by simpa using List.mem_takeWhile_imp hd

end GuardianNode.Node
