import GuardianNode.Common
import Mathlib.Logic.Function.Basic

/-! The loop of `GuardianOptionWatchers` over the watcher configurations. Each configuration
must have a network id of its own; all but `solana-confirmed` get new observation-request and
query-request channels for their chain; one that needs an L1 finalizer gets the finalizer of
a watcher configured before it; then `Create` builds the watcher. A returned error stops the
guardian's construction, a fatal log the process. The readiness registration is left out. -/

namespace GuardianNode.Node

/-- The parts of a `watchers.WatcherConfig` the loop reads. -/
structure WatcherConfig where
  networkID : String
  chainID : ChainID
  requiredL1Finalizer : String

/-- What `Create` is given; a channel is named by the configuration that made it. -/
structure CreateInputs (F : Type) where
  msgC : Bool
  obsvReqC : Option Nat
  queryReqC : Option Nat
  l1Finalizer : Option F

/-- How the loop ends early: `return fmt.Errorf(...)`, or `logger.Fatal`, which exits. -/
inductive SetupError
  | error (msg : String)
  | fatal (msg : String)
  deriving DecidableEq, Repr

/-- The maps the loop fills, and the number of configurations done. -/
structure Setup (F R : Type) where
  watchers : String → Option (Option F)
  chainObsvReqC : ChainID → Option Nat
  chainQueryReqC : ChainID → Option Nat
  runnablesWithScissors : String → Option R
  made : Nat

variable {F R : Type}

def Setup.init : Setup F R := ⟨fun _ => none, fun _ => none, fun _ => none, fun _ => none, 0⟩

/-- Lines 506–511: new request channels, but for `solana-confirmed`. -/
def Setup.makeChannels (s : Setup F R) (wc : WatcherConfig) : Setup F R :=
  if wc.networkID ≠ "solana-confirmed" then
    { s with chainObsvReqC := Function.update s.chainObsvReqC wc.chainID (some s.made),
             chainQueryReqC := Function.update s.chainQueryReqC wc.chainID (some s.made) }
  else s

/-- Lines 513–520: the finalizer of the required L1 watcher. -/
def Setup.l1Finalizer (s : Setup F R) (wc : WatcherConfig) : Except SetupError (Option F) :=
  if wc.requiredL1Finalizer = "" then .ok none
  else
    match s.watchers wc.requiredL1Finalizer with
    | some (some l1watcher) => .ok (some l1watcher)
    | _ => .error (.fatal ("L1finalizer does not exist. Please check the order of the watcher " ++
      "configurations in watcherConfigs. The L1 must be configured before this one."))

variable (allChains : List ChainID) (create : WatcherConfig → CreateInputs F → Except String (Option F × R))

/-- One iteration of the loop. -/
def setupStep (s : Setup F R) (wc : WatcherConfig) : Except SetupError (Setup F R) :=
  if (s.watchers wc.networkID).isSome then
    .error (.error ("NetworkID already configured: " ++ wc.networkID))
  else
    let s := s.makeChannels wc
    match s.l1Finalizer wc with
    | .error e => .error e
    | .ok l1 =>
      match create wc ⟨allChains.contains wc.chainID, s.chainObsvReqC wc.chainID,
          s.chainQueryReqC wc.chainID, l1⟩ with
      | .error err => .error (.error ("error creating watcher: " ++ err))
      | .ok (l1finalizer, runnable) =>
        .ok { s with watchers := Function.update s.watchers wc.networkID (some l1finalizer),
                     runnablesWithScissors := Function.update s.runnablesWithScissors
                       (wc.networkID ++ "_watch") (some runnable),
                     made := s.made + 1 }

/-- The loop over `watcherConfigs`. -/
def setupRun (s : Setup F R) : List WatcherConfig → Except SetupError (Setup F R)
  | [] => .ok s
  | wc :: wcs =>
    match setupStep allChains create s wc with
    | .error e => .error e
    | .ok s => setupRun s wcs

@[simp] theorem Setup.makeChannels_watchers (s : Setup F R) (wc : WatcherConfig) :
    (s.makeChannels wc).watchers = s.watchers := by
  unfold Setup.makeChannels; split_ifs <;> rfl

@[simp] theorem Setup.makeChannels_runnables (s : Setup F R) (wc : WatcherConfig) :
    (s.makeChannels wc).runnablesWithScissors = s.runnablesWithScissors := by
  unfold Setup.makeChannels; split_ifs <;> rfl

theorem Setup.l1Finalizer_ok {s : Setup F R} {wc : WatcherConfig} {l1 : Option F}
    (h : s.l1Finalizer wc = .ok l1) :
    wc.requiredL1Finalizer = "" ∨ ∃ f, s.watchers wc.requiredL1Finalizer = some (some f) := by
  unfold Setup.l1Finalizer at h
  split_ifs at h with hr
  · exact .inl hr
  · split at h <;> rename_i hw
    · exact .inr ⟨_, hw⟩
    · cases h

@[simp] theorem Setup.makeChannels_made (s : Setup F R) (wc : WatcherConfig) :
    (s.makeChannels wc).made = s.made := by
  unfold Setup.makeChannels; split_ifs <;> rfl

theorem Setup.makeChannels_channels (s : Setup F R) (wc : WatcherConfig) (c : ChainID) :
    (s.makeChannels wc).chainObsvReqC c =
        (if wc.networkID ≠ "solana-confirmed" ∧ wc.chainID = c then some s.made
          else s.chainObsvReqC c) ∧
      (s.makeChannels wc).chainQueryReqC c =
        if wc.networkID ≠ "solana-confirmed" ∧ wc.chainID = c then some s.made
          else s.chainQueryReqC c := by
  unfold Setup.makeChannels
  by_cases hn : wc.networkID = "solana-confirmed"
  · simp [hn]
  · by_cases hc : wc.chainID = c
    · simp [hn, hc]
    · simp [hn, hc, Function.update_apply, Ne.symm hc]

theorem setupStep_ok {s s' : Setup F R} {wc : WatcherConfig}
    (h : setupStep allChains create s wc = .ok s') :
    s.watchers wc.networkID = none ∧
    (wc.requiredL1Finalizer = "" ∨ ∃ f, s.watchers wc.requiredL1Finalizer = some (some f)) ∧
    ∃ l1 l1finalizer runnable,
      create wc ⟨allChains.contains wc.chainID, (s.makeChannels wc).chainObsvReqC wc.chainID,
        (s.makeChannels wc).chainQueryReqC wc.chainID, l1⟩ = .ok (l1finalizer, runnable) ∧
      s'.watchers = Function.update s.watchers wc.networkID (some l1finalizer) ∧
      s'.runnablesWithScissors =
        Function.update s.runnablesWithScissors (wc.networkID ++ "_watch") (some runnable) ∧
      s'.chainObsvReqC = (s.makeChannels wc).chainObsvReqC ∧
      s'.chainQueryReqC = (s.makeChannels wc).chainQueryReqC ∧ s'.made = s.made + 1 := by
  unfold setupStep at h
  split_ifs at h with hw
  dsimp only at h
  split at h <;> rename_i l1 hl1
  · cases h
  split at h
  · cases h
  rename_i fin run hc
  cases h
  exact ⟨Option.not_isSome_iff_eq_none.mp hw, by simpa using Setup.l1Finalizer_ok hl1, l1, fin, run,
    hc, by simp, by simp, rfl, rfl, by simp⟩

theorem setupRun_cons {s s' : Setup F R} {wc : WatcherConfig} {wcs : List WatcherConfig}
    (h : setupRun allChains create s (wc :: wcs) = .ok s') :
    ∃ s₁, setupStep allChains create s wc = .ok s₁ ∧ setupRun allChains create s₁ wcs = .ok s' := by
  simp only [setupRun] at h
  split at h
  · cases h
  · exact ⟨_, ‹_›, h⟩

theorem setupRun_watchers {s s' : Setup F R} {wcs : List WatcherConfig}
    (h : setupRun allChains create s wcs = .ok s') {id : String} (hid : s.watchers id ≠ none) :
    s'.watchers id = s.watchers id := by
  induction wcs generalizing s with
  | nil => cases h; rfl
  | cons wc wcs ih =>
    obtain ⟨s₁, h₁, h⟩ := setupRun_cons allChains create h
    obtain ⟨hnew, -, -, fin, -, -, hw, -⟩ := setupStep_ok allChains create h₁
    have hne : id ≠ wc.networkID := fun he => hid (he ▸ hnew)
    have h₁id : s₁.watchers id = s.watchers id := by rw [hw, Function.update_noteq hne]
    rw [ih h (h₁id ▸ hid), h₁id]

theorem setupRun_append {s s' : Setup F R} {l₁ l₂ : List WatcherConfig} :
    setupRun allChains create s (l₁ ++ l₂) = .ok s' ↔
      ∃ s₁, setupRun allChains create s l₁ = .ok s₁ ∧ setupRun allChains create s₁ l₂ = .ok s' := by
  induction l₁ generalizing s with
  | nil => simp [setupRun]
  | cons wc l₁ ih =>
    simp only [List.cons_append, setupRun]
    split <;> simp [ih]

theorem setupRun_fresh {s s' : Setup F R} {wcs : List WatcherConfig}
    (h : setupRun allChains create s wcs = .ok s') :
    (∀ wc ∈ wcs, s.watchers wc.networkID = none) ∧ (wcs.map (·.networkID)).Nodup ∧
    ∀ name, (s'.runnablesWithScissors name).isSome ↔
      (s.runnablesWithScissors name).isSome ∨ name ∈ wcs.map (·.networkID ++ "_watch") := by
  induction wcs generalizing s with
  | nil => cases h; simp
  | cons wc wcs ih =>
    obtain ⟨s₁, h₁, hrun⟩ := setupRun_cons allChains create h
    obtain ⟨hnew, -, -, fin, run, -, hw, hr, -⟩ := setupStep_ok allChains create h₁
    obtain ⟨hfresh, hnodup, hnames⟩ := ih hrun
    have hfresh' : ∀ w ∈ wcs, w.networkID ≠ wc.networkID ∧ s.watchers w.networkID = none :=
      fun w hw' => by
        have := hfresh w hw'
        rw [hw, Function.update_apply] at this
        split_ifs at this with he
        exact ⟨he, this⟩
    refine ⟨List.forall_mem_cons.mpr ⟨hnew, fun w hw' => (hfresh' w hw').2⟩,
      List.nodup_cons.mpr ⟨fun hm => ?_, hnodup⟩, fun name => ?_⟩
    · obtain ⟨w, hw', he⟩ := List.mem_map.mp hm
      exact (hfresh' w hw').1 he
    · rw [hnames name, hr, Function.update_apply]
      by_cases hn : name = wc.networkID ++ "_watch" <;> simp [hn]

theorem watchName_inj {a b : String} (h : a ++ "_watch" = b ++ "_watch") : a = b := by
  have hd := congrArg String.data h
  rw [String.data_append, String.data_append] at hd
  exact String.ext (List.append_cancel_right hd)

theorem setupRun_runnables_frame {s s' : Setup F R} {wcs : List WatcherConfig}
    (h : setupRun allChains create s wcs = .ok s') {name : String}
    (hn : name ∉ wcs.map (·.networkID ++ "_watch")) :
    s'.runnablesWithScissors name = s.runnablesWithScissors name := by
  induction wcs generalizing s with
  | nil => cases h; rfl
  | cons wc wcs ih =>
    obtain ⟨s₁, h₁, hrun⟩ := setupRun_cons allChains create h
    obtain ⟨-, -, -, -, run, -, -, hr, -⟩ := setupStep_ok allChains create h₁
    rw [List.map_cons, List.mem_cons, not_or] at hn
    rw [ih hrun hn.2, hr, Function.update_noteq hn.1]

theorem setupRun_runnable {s s' : Setup F R} {pre post : List WatcherConfig} {wc : WatcherConfig}
    (h : setupRun allChains create s (pre ++ wc :: post) = .ok s') :
    ∃ ci fin run, create wc ci = .ok (fin, run) ∧
      s'.runnablesWithScissors (wc.networkID ++ "_watch") = some run := by
  obtain ⟨s₀, -, h⟩ := (setupRun_append allChains create).mp h
  obtain ⟨s₁, hstep, hrun⟩ := setupRun_cons allChains create h
  obtain ⟨-, -, l1, fin, run, hc, -, hr, -⟩ := setupStep_ok allChains create hstep
  have hfresh : wc.networkID ∉ post.map (·.networkID) :=
    (List.nodup_cons.mp (setupRun_fresh allChains create h).2.1).1
  have hn : wc.networkID ++ "_watch" ∉ post.map (·.networkID ++ "_watch") := fun hm => by
    obtain ⟨w, hw, he⟩ := List.mem_map.mp hm
    exact hfresh (List.mem_map.mpr ⟨w, hw, watchName_inj he⟩)
  refine ⟨_, fin, run, hc, ?_⟩
  rw [setupRun_runnables_frame allChains create hrun hn, hr, Function.update_same]

theorem setupRun_keys {s s' : Setup F R} {wcs : List WatcherConfig}
    (h : setupRun allChains create s wcs = .ok s') {id : String} (hid : s'.watchers id ≠ none) :
    s.watchers id ≠ none ∨ id ∈ wcs.map (·.networkID) := by
  induction wcs generalizing s with
  | nil => cases h; exact .inl hid
  | cons wc wcs ih =>
    obtain ⟨s₁, h₁, hrun⟩ := setupRun_cons allChains create h
    obtain ⟨-, -, -, fin, -, -, hw, -⟩ := setupStep_ok allChains create h₁
    rcases ih hrun with h₁id | hmem
    · by_cases he : id = wc.networkID
      · exact .inr (by simp [he])
      · exact .inl (by rwa [hw, Function.update_noteq he] at h₁id)
    · exact .inr (List.mem_cons_of_mem _ hmem)

theorem setupRun_l1 {s s' : Setup F R} {wcs : List WatcherConfig}
    (h : setupRun allChains create s wcs = .ok s') :
    ∀ pre wc post, wcs = pre ++ wc :: post → wc.requiredL1Finalizer ≠ "" →
      ∃ f, s'.watchers wc.requiredL1Finalizer = some (some f) ∧
        (s.watchers wc.requiredL1Finalizer ≠ none ∨
          wc.requiredL1Finalizer ∈ pre.map (·.networkID)) := by
  rintro pre wc post rfl hreq
  obtain ⟨s₀, h₀, h⟩ := (setupRun_append allChains create).mp h
  obtain ⟨s₁, hstep, hrun⟩ := setupRun_cons allChains create h
  obtain ⟨hnew, hl1, -, fin, -, -, hw, -⟩ := setupStep_ok allChains create hstep
  obtain ⟨f, hf⟩ := hl1.resolve_left hreq
  have hne : wc.requiredL1Finalizer ≠ wc.networkID := fun he => by simp [he, hnew] at hf
  have h₁f : s₁.watchers wc.requiredL1Finalizer = some (some f) := by
    rw [hw, Function.update_noteq hne, hf]
  exact ⟨f, (setupRun_watchers allChains create hrun (by simp [h₁f])).trans h₁f,
    setupRun_keys allChains create h₀ (by simp [hf])⟩

theorem setupRun_init_ok {wcs : List WatcherConfig} {s' : Setup F R}
    (h : setupRun allChains create .init wcs = .ok s') :
    (wcs.map (·.networkID)).Nodup ∧
    (∀ name, (s'.runnablesWithScissors name).isSome ↔ name ∈ wcs.map (·.networkID ++ "_watch")) ∧
    (∀ pre wc post, wcs = pre ++ wc :: post → ∃ ci fin run, create wc ci = .ok (fin, run) ∧
      s'.runnablesWithScissors (wc.networkID ++ "_watch") = some run) ∧
    ∀ pre wc post, wcs = pre ++ wc :: post → wc.requiredL1Finalizer ≠ "" →
      wc.requiredL1Finalizer ∈ pre.map (·.networkID) ∧
      ∃ f, s'.watchers wc.requiredL1Finalizer = some (some f) := by
  obtain ⟨-, hnodup, hnames⟩ := setupRun_fresh allChains create h
  refine ⟨hnodup, fun name => by simpa [Setup.init] using hnames name,
    fun pre wc post hs => setupRun_runnable allChains create (hs ▸ h), fun pre wc post hs hr => ?_⟩
  obtain ⟨f, hf, hwhere⟩ := setupRun_l1 allChains create h pre wc post hs hr
  exact ⟨hwhere.resolve_left (by simp [Setup.init]), f, hf⟩

/-- An L1 and an L2 that takes its finalizer. -/
def l2Configs : List WatcherConfig := [⟨"ethereum", 2, ""⟩, ⟨"base", 30, "ethereum"⟩]

/-- A `Create` that makes a watcher with a finalizer for every configuration. -/
def finalizingCreate (_ : WatcherConfig) (_ : CreateInputs Unit) :
    Except String (Option Unit × Unit) :=
  .ok (some (), ())

theorem setupRun_init_ok_base :
    ∃ s' : Setup Unit Unit,
      setupRun [2, 30] finalizingCreate .init l2Configs = .ok s' ∧
      (l2Configs.map (·.networkID)).Nodup ∧
      (∀ name, (s'.runnablesWithScissors name).isSome ↔
        name ∈ l2Configs.map (·.networkID ++ "_watch")) ∧
      (∀ pre wc post, l2Configs = pre ++ wc :: post → ∃ ci fin run,
        finalizingCreate wc ci = .ok (fin, run) ∧
        s'.runnablesWithScissors (wc.networkID ++ "_watch") = some run) ∧
      ∀ pre wc post, l2Configs = pre ++ wc :: post → wc.requiredL1Finalizer ≠ "" →
        wc.requiredL1Finalizer ∈ pre.map (·.networkID) ∧
        ∃ f, s'.watchers wc.requiredL1Finalizer = some (some f) :=
  ⟨_, rfl, setupRun_init_ok [2, 30] finalizingCreate rfl⟩

/-! ### The channels `Create` receives -/

/-- The configuration in `done` that made chain `c`'s request channels. -/
def lastMaker (done : List WatcherConfig) (c : ChainID) : Option Nat :=
  (done.reverse.findIdx? fun w => w.networkID ≠ "solana-confirmed" ∧ w.chainID = c).map
    (done.length - 1 - ·)

theorem lastMaker_snoc (done : List WatcherConfig) (wc : WatcherConfig) (c : ChainID) :
    lastMaker (done ++ [wc]) c =
      if wc.networkID ≠ "solana-confirmed" ∧ wc.chainID = c then some done.length
      else lastMaker done c := by
  simp only [lastMaker, List.reverse_append, List.reverse_singleton, List.singleton_append,
    List.findIdx?_cons, List.findIdx?_succ, List.length_append, List.length_singleton]
  split_ifs <;> simp_all [Option.map_map, Function.comp_def]
  congr 1
  funext x
  omega

theorem setupRun_init_channels {pre : List WatcherConfig} {s₀ : Setup F R}
    (h : setupRun allChains create .init pre = .ok s₀) :
    s₀.made = pre.length ∧ s₀.chainObsvReqC = lastMaker pre ∧ s₀.chainQueryReqC = lastMaker pre := by
  induction pre using List.reverseRecOn generalizing s₀ with
  | nil => cases h; exact ⟨rfl, rfl, rfl⟩
  | append_singleton pre wc ih =>
    obtain ⟨s₁, h₁, h⟩ := (setupRun_append allChains create).mp h
    obtain ⟨s₂, hstep, hrun⟩ := setupRun_cons allChains create h
    cases hrun
    obtain ⟨-, -, -, -, -, -, -, -, hobsv, hquery, hmade⟩ := setupStep_ok allChains create hstep
    obtain ⟨hm, ho, hq⟩ := ih h₁
    refine ⟨by simp [hmade, hm], funext fun c => ?_, funext fun c => ?_⟩
    · rw [hobsv, (Setup.makeChannels_channels s₁ wc c).1, lastMaker_snoc, hm, ho]
    · rw [hquery, (Setup.makeChannels_channels s₁ wc c).2, lastMaker_snoc, hm, hq]

/-- `solana-confirmed` shares the channels of the last earlier configuration of its chain, and gets
nil channels when there is none. -/
theorem setupRun_create_inputs {wcs : List WatcherConfig} {s' : Setup F R}
    (h : setupRun allChains create .init wcs = .ok s') :
    ∀ pre wc post, wcs = pre ++ wc :: post →
      let ch := if wc.networkID ≠ "solana-confirmed" then some pre.length
        else lastMaker pre wc.chainID
      ∃ l1 out, create wc ⟨allChains.contains wc.chainID, ch, ch, l1⟩ = .ok out := by
  rintro pre wc post rfl
  obtain ⟨s₀, h₀, h⟩ := (setupRun_append allChains create).mp h
  obtain ⟨s₁, hstep, -⟩ := setupRun_cons allChains create h
  obtain ⟨-, -, l1, fin, run, hc, -⟩ := setupStep_ok allChains create hstep
  obtain ⟨hm, ho, hq⟩ := setupRun_init_channels allChains create h₀
  refine ⟨l1, (fin, run), ?_⟩
  rw [(Setup.makeChannels_channels s₀ wc wc.chainID).1,
    (Setup.makeChannels_channels s₀ wc wc.chainID).2, hm, ho, hq] at hc
  simpa using hc

/-- `solana-confirmed` configured before the Solana watcher it depends on. -/
def confirmedFirstConfigs : List WatcherConfig :=
  [⟨"solana-confirmed", 1, ""⟩, ⟨"solana-finalized", 1, ""⟩]

/-- A `Create` that accepts only the channels the loop should hand over. -/
def confirmedFirstCreate (wc : WatcherConfig) (ci : CreateInputs Unit) :
    Except String (Option Unit × Unit) :=
  let ch := if wc.networkID = "solana-confirmed" then none else some 1
  if ci.obsvReqC = ch ∧ ci.queryReqC = ch then .ok (some (), ()) else .error "unexpected channels"

theorem setupRun_create_inputs_confirmed_first :
    ∃ s' : Setup Unit Unit,
      setupRun [1] confirmedFirstCreate .init confirmedFirstConfigs = .ok s' ∧
      ∀ pre wc post, confirmedFirstConfigs = pre ++ wc :: post →
        let ch := if wc.networkID ≠ "solana-confirmed" then some pre.length
          else lastMaker pre wc.chainID
        ∃ l1 out, confirmedFirstCreate wc ⟨[1].contains wc.chainID, ch, ch, l1⟩ = .ok out :=
  ⟨_, rfl, setupRun_create_inputs [1] confirmedFirstCreate rfl⟩

end GuardianNode.Node
