import GuardianNode.Watchers.Setup
import Mathlib.Data.List.Nodup

/-! The `GuardianOption`s that configure the node `G`, applied in order, each refused until its
dependencies are configured. Of `G` only the fields that an option sets are kept. -/

namespace GuardianNode.Node

/-- `*db.Database`, which the node only passes on. -/
structure Database where
  handle : Nat
  deriving DecidableEq, Repr

/-- `governor.NewChainGovernor(logger, g.db, g.env)`. -/
structure ChainGovernor where
  db : Option Database
  env : Environment
  deriving DecidableEq, Repr

/-- `query.NewQueryHandler(...)`; its channels are fields no option sets. -/
structure QueryHandler where
  env : Environment
  allowedRequesters : String
  deriving DecidableEq, Repr

/-- The server `publicrpcUnixServiceRunnable` builds on `g.db` and `g.gov`. -/
structure PublicrpcServer where
  db : Option Database
  gov : Option ChainGovernor
  deriving DecidableEq, Repr

/-- The runnables the options register, with the fields of `G` each is built from. -/
inductive Runnable
  | p2p (gov : Option ChainGovernor) (ccqEnabled : Bool) (goTestComponents : Bool)
  | statusServer (statusAddr : String) (pprof : Bool)
  | admin (db : Option Database) (gov : Option ChainGovernor)
  | publicrpcsocket (db : Option Database) (gov : Option ChainGovernor)
  | publicrpc (db : Option Database) (gov : Option ChainGovernor)
  | publicweb (server : Option PublicrpcServer)
  | processor (db : Option Database) (gov : Option ChainGovernor)
  deriving DecidableEq, Repr

/-- The fields of the node that the options set; `none` is a nil pointer. -/
structure G (R : Type) where
  env : Environment
  db : Option Database
  gov : Option ChainGovernor
  queryHandler : Option QueryHandler
  publicrpcServer : Option PublicrpcServer
  runnables : String → Option Runnable
  chainQueryReqC : ChainID → Option Nat
  runnablesWithScissors : String → Option R

/-- A node none of whose fields is set yet. -/
def G.init {R : Type} (env : Environment) : G R :=
  ⟨env, none, none, none, none, fun _ => none, fun _ => none, fun _ => none⟩

/-- `g.runnables[key] = r`. -/
def G.register {R : Type} (g : G R) (key : String) (r : Runnable) : G R :=
  { g with runnables := Function.update g.runnables key (some r) }

section Register

variable {R : Type} (g : G R) (key : String) (r : Runnable)

@[simp] theorem G.register_env : (g.register key r).env = g.env := rfl
@[simp] theorem G.register_db : (g.register key r).db = g.db := rfl
@[simp] theorem G.register_gov : (g.register key r).gov = g.gov := rfl
@[simp] theorem G.register_queryHandler : (g.register key r).queryHandler = g.queryHandler := rfl
@[simp] theorem G.register_publicrpcServer :
    (g.register key r).publicrpcServer = g.publicrpcServer := rfl
@[simp] theorem G.register_chainQueryReqC : (g.register key r).chainQueryReqC = g.chainQueryReqC :=
  rfl
@[simp] theorem G.register_runnablesWithScissors :
    (g.register key r).runnablesWithScissors = g.runnablesWithScissors := rfl

@[simp] theorem G.register_runnables (k : String) :
    (g.register key r).runnables k = if key = k then some r else g.runnables k :=
  (Function.update_apply _ _ _ _).trans (if_congr eq_comm rfl rfl)

end Register

/-- The `GuardianOption`s of this file; `other` is one of another file. -/
inductive GuardianOption
  | p2p
  | queryHandler (ccqEnabled : Bool) (allowedRequesters : String)
  | governor (governorEnabled : Bool)
  | statusServer (statusAddr : String)
  | watchers (watcherConfigs : List WatcherConfig)
  | adminService (socketPath : String)
  | publicRpcSocket (publicGRPCSocketPath : String)
  | publicrpcTcpService
  | publicWeb
  | database (db : Database)
  | processor
  | other (name : String) (dependencies : List String) (err : Option String)

namespace GuardianOption

def name : GuardianOption → String
  | p2p => "p2p"
  | queryHandler .. => "query"
  | governor _ => "governor"
  | statusServer _ => "status-server"
  | watchers _ => "watchers"
  | adminService _ => "admin-service"
  | publicRpcSocket _ => "publicrpcsocket"
  | publicrpcTcpService => "publicrpc"
  | publicWeb => "publicweb"
  | database _ => "db"
  | processor => "processor"
  | other name .. => name

def dependencies : GuardianOption → List String
  | p2p => ["accountant", "governor", "gateway-relayer"]
  | governor _ => ["db"]
  | adminService _ => ["governor", "db"]
  | publicRpcSocket _ => ["db", "governor"]
  | publicrpcTcpService => ["db", "governor", "publicrpcsocket"]
  | publicWeb => ["db", "governor", "publicrpcsocket"]
  | processor => ["db", "governor", "accountant", "gateway-relayer"]
  | other _ dependencies _ => dependencies
  | _ => []

/-- The key of the runnable an option may register in `g.runnables`. -/
def key? : GuardianOption → Option String
  | p2p => some "p2p"
  | statusServer _ => some "status-server"
  | adminService _ => some "admin"
  | publicRpcSocket _ => some "publicrpcsocket"
  | publicrpcTcpService => some "publicrpc"
  | publicWeb => some "publicweb"
  | processor => some "processor"
  | _ => none

end GuardianOption

/-- What the options call in other packages. -/
structure Externals (F R : Type) where
  allChains : List ChainID
  create : WatcherConfig → CreateInputs F → Except String (Option F × R)
  adminServiceRunnable : String → Option Database → Option ChainGovernor → Option String
  publicrpcUnixServiceRunnable : String → Option Database → Option ChainGovernor → Option String

variable {F R : Type} (ext : Externals F R)

/-- Where the watcher loop starts: the node's maps and new ones of its own. -/
def G.watcherSetup (g : G R) : Setup F R :=
  { (Setup.init : Setup F R) with chainQueryReqC := g.chainQueryReqC,
                                  runnablesWithScissors := g.runnablesWithScissors }

/-- The `f` of each option: `return err` is `.error`, `logger.Fatal` is `.fatal`. -/
def GuardianOption.f : GuardianOption → G R → Except SetupError (G R)
  | .p2p, g => .ok (g.register "p2p" (.p2p g.gov g.queryHandler.isSome (g.env = .goTest)))
  | .queryHandler ccqEnabled allowedRequesters, g =>
    if !ccqEnabled then .ok g else .ok { g with queryHandler := some ⟨g.env, allowedRequesters⟩ }
  | .governor governorEnabled, g =>
    if governorEnabled then .ok { g with gov := some ⟨g.db, g.env⟩ } else .ok g
  | .statusServer statusAddr, g =>
    if statusAddr ≠ "" then
      .ok (g.register "status-server"
        (.statusServer statusAddr (g.env = .unsafeDevNet ∨ g.env = .goTest)))
    else .ok g
  | .watchers watcherConfigs, g =>
    match setupRun ext.allChains ext.create g.watcherSetup watcherConfigs with
    | .error e => .error e
    | .ok s => .ok { g with chainQueryReqC := s.chainQueryReqC,
                            runnablesWithScissors := s.runnablesWithScissors }
  | .adminService socketPath, g =>
    match ext.adminServiceRunnable socketPath g.db g.gov with
    | some err => .error (.error ("failed to create admin service: " ++ err))
    | none => .ok (g.register "admin" (.admin g.db g.gov))
  | .publicRpcSocket publicGRPCSocketPath, g =>
    match ext.publicrpcUnixServiceRunnable publicGRPCSocketPath g.db g.gov with
    | some err => .error (.error ("failed to create publicrpc service: " ++ err))
    | none => .ok { (g.register "publicrpcsocket" (.publicrpcsocket g.db g.gov)) with
                      publicrpcServer := some ⟨g.db, g.gov⟩ }
  | .publicrpcTcpService, g => .ok (g.register "publicrpc" (.publicrpc g.db g.gov))
  | .publicWeb, g => .ok (g.register "publicweb" (.publicweb g.publicrpcServer))
  | .database db, g => .ok { g with db := some db }
  | .processor, g => .ok (g.register "processor" (.processor g.db g.gov))
  | .other _ _ err, g =>
    match err with
    | some err => .error (.error err)
    | none => .ok g

/-- Why the node refuses its options. -/
inductive ConfigError
  | dependency (name dep : String)
  | option (name : String) (err : SetupError)
  deriving DecidableEq, Repr

/-- The runner: each option in order, after the check of its dependencies. -/
def applyOptions (g : G R) (configured : List String) :
    List GuardianOption → Except ConfigError (G R)
  | [] => .ok g
  | o :: os =>
    match o.dependencies.find? (· ∉ configured) with
    | some dep => .error (.dependency o.name dep)
    | none =>
      match o.f ext g with
      | .error e => .error (.option o.name e)
      | .ok g => applyOptions g (configured ++ [o.name]) os

/-- What an option's `f` leaves alone: all but its own fields and runnable. -/
structure GuardianOption.Frame (o : GuardianOption) (g g' : G R) : Prop where
  env : g'.env = g.env
  db : o.name ≠ "db" → g'.db = g.db
  gov : o.name ≠ "governor" → g'.gov = g.gov
  queryHandler : o.name ≠ "query" → g'.queryHandler = g.queryHandler
  publicrpcServer : o.name ≠ "publicrpcsocket" → g'.publicrpcServer = g.publicrpcServer
  runnables : ∀ k, o.key? ≠ some k → g'.runnables k = g.runnables k
  watchers : o.name ≠ "watchers" → g'.chainQueryReqC = g.chainQueryReqC ∧
    g'.runnablesWithScissors = g.runnablesWithScissors

theorem GuardianOption.f_frame {o : GuardianOption} {g g' : G R} (h : o.f ext g = .ok g') :
    o.Frame g g' := by
  cases o <;> simp only [GuardianOption.f] at h <;> (repeat' split at h) <;> cases h <;>
    constructor <;> simp_all [GuardianOption.name, GuardianOption.key?]

/-- An option that turns the cross chain query on. -/
def GuardianOption.enablesQuery : GuardianOption → Bool
  | .queryHandler true _ => true
  | _ => false

/-- Option `o` never changes the field `v` of the node. -/
def GuardianOption.Keeps {α : Type} (o : GuardianOption) (v : G R → α) : Prop :=
  ∀ g g', o.f ext g = .ok g' → v g' = v g

theorem GuardianOption.f_queryHandler {o : GuardianOption} {g g' : G R} (h : o.f ext g = .ok g') :
    g'.queryHandler.isSome = (g.queryHandler.isSome || o.enablesQuery) := by
  cases o <;> simp only [GuardianOption.f] at h <;> (repeat' split at h) <;> cases h <;>
    simp_all [GuardianOption.enablesQuery]

theorem GuardianOption.name_of_key? {o : GuardianOption} {k : String} (h : o.key? = some k) :
    o.name = if k = "admin" then "admin-service" else k := by
  cases o <;> simp only [GuardianOption.key?, Option.some.injEq, reduceCtorEq] at h <;> subst h <;>
    rfl

theorem GuardianOption.keeps_key {o o' : GuardianOption} {k : String} (hk : o.key? = some k)
    (hne : o'.name ≠ o.name) : o'.Keeps ext fun g => g.runnables k :=
  fun _ _ hf => (o'.f_frame ext hf).runnables k fun h' =>
    hne (by rw [o'.name_of_key? h', o.name_of_key? hk])

theorem name_ne_of_nodup {l₁ l₂ : List GuardianOption} {w o : GuardianOption}
    (h : ((l₁ ++ w :: l₂).map GuardianOption.name).Nodup) (ho : o ∈ l₁ ++ l₂) :
    o.name ≠ w.name := by
  rw [List.map_append, List.map_cons, List.nodup_middle, List.nodup_cons, ← List.map_append] at h
  exact fun he => h.1 (he ▸ List.mem_map_of_mem _ ho)

section Run

variable {g g' : G R} {c : List String}

theorem applyOptions_cons_ok {o : GuardianOption} {os : List GuardianOption} :
    applyOptions ext g c (o :: os) = .ok g' ↔ (∀ d ∈ o.dependencies, d ∈ c) ∧
      ∃ g₁, o.f ext g = .ok g₁ ∧ applyOptions ext g₁ (c ++ [o.name]) os = .ok g' := by
  simp only [applyOptions]
  split <;> rename_i hfind
  · have hd := List.mem_of_find?_eq_some hfind
    have hc := List.find?_some hfind
    simp only [decide_eq_true_eq] at hc
    simp only [reduceCtorEq, false_iff, not_and]
    exact fun hall => absurd (hall _ hd) hc
  · have hall : ∀ d ∈ o.dependencies, d ∈ c := by simpa using List.find?_eq_none.mp hfind
    rw [and_iff_right hall]
    split <;> rename_i hf <;> simp [hf]

theorem applyOptions_append_ok {l₁ l₂ : List GuardianOption} :
    applyOptions ext g c (l₁ ++ l₂) = .ok g' ↔ ∃ g₁, applyOptions ext g c l₁ = .ok g₁ ∧
      applyOptions ext g₁ (c ++ l₁.map GuardianOption.name) l₂ = .ok g' := by
  induction l₁ generalizing g c with
  | nil => simp [applyOptions]
  | cons o os ih =>
    simp only [List.cons_append, applyOptions_cons_ok, ih, List.map_cons, List.append_assoc,
      List.singleton_append]
    constructor
    · rintro ⟨hd, g₁, hf, g₂, hos, hrest⟩
      exact ⟨g₂, ⟨hd, g₁, hf, hos⟩, hrest⟩
    · rintro ⟨g₂, ⟨hd, g₁, hf, hos⟩, hrest⟩
      exact ⟨hd, g₁, hf, g₂, hos, hrest⟩

theorem applyOptions_split {pre post : List GuardianOption} {o : GuardianOption}
    (h : applyOptions ext g c (pre ++ o :: post) = .ok g') :
    ∃ gpre go, applyOptions ext g c pre = .ok gpre ∧
      (∀ d ∈ o.dependencies, d ∈ c ++ pre.map GuardianOption.name) ∧ o.f ext gpre = .ok go ∧
      applyOptions ext go (c ++ pre.map GuardianOption.name ++ [o.name]) post = .ok g' := by
  obtain ⟨gpre, hpre, hrest⟩ := (applyOptions_append_ok ext).mp h
  obtain ⟨hd, go, hf, hpost⟩ := (applyOptions_cons_ok ext).mp hrest
  exact ⟨gpre, go, hpre, hd, hf, hpost⟩

theorem applyOptions_keeps {α : Type} {v : G R → α} :
    ∀ {os : List GuardianOption} {g g' : G R} {c : List String},
      (∀ o ∈ os, o.Keeps ext v) → applyOptions ext g c os = .ok g' → v g' = v g
  | [], _, _, _, _, h => by cases h; rfl
  | o :: _, _, _, _, hv, h => by
    obtain ⟨-, g₁, hf, hos⟩ := (applyOptions_cons_ok ext).mp h
    rw [applyOptions_keeps (fun o' ho' => hv o' (List.mem_cons_of_mem _ ho')) hos,
      hv o (List.mem_cons_self _ _) _ _ hf]

theorem applyOptions_env {os : List GuardianOption} (h : applyOptions ext g c os = .ok g') :
    g'.env = g.env :=
  applyOptions_keeps ext (fun o _ _ _ hf => (o.f_frame ext hf).env) h

theorem applyOptions_queryHandler :
    ∀ {os : List GuardianOption} {g g' : G R} {c : List String},
      applyOptions ext g c os = .ok g' →
        g'.queryHandler.isSome = (g.queryHandler.isSome || os.any GuardianOption.enablesQuery)
  | [], _, _, _, h => by cases h; simp
  | o :: _, _, _, _, h => by
    obtain ⟨-, g₁, hf, hos⟩ := (applyOptions_cons_ok ext).mp h
    rw [applyOptions_queryHandler hos, o.f_queryHandler ext hf, List.any_cons, Bool.or_assoc]

theorem reads_of_dependency {α : Type} {v : G R → α} {w o : GuardianOption}
    {pre post : List GuardianOption}
    (hkeep : ∀ o' : GuardianOption, o'.name ≠ w.name → o'.Keeps ext v)
    (hrun : applyOptions ext g [] (pre ++ o :: post) = .ok g')
    (hnodup : ((pre ++ o :: post).map GuardianOption.name).Nodup)
    (hw : w ∈ pre ++ o :: post) (hdep : w.name ∈ o.dependencies) :
    ∃ pre₁ pre₂ gw gpre, pre = pre₁ ++ w :: pre₂ ∧
      applyOptions ext g [] (pre₁ ++ [w]) = .ok gw ∧ applyOptions ext g [] pre = .ok gpre ∧
      v gpre = v gw := by
  obtain ⟨gpre, -, hpre, hd, -⟩ := applyOptions_split ext hrun
  obtain ⟨w', hw', hname⟩ := List.mem_map.mp (by simpa using hd _ hdep)
  obtain rfl : w' = w := List.inj_on_of_nodup_map hnodup (List.mem_append_left _ hw') hw hname
  obtain ⟨pre₁, pre₂, rfl⟩ := List.append_of_mem hw'
  have hsplit : applyOptions ext g [] ((pre₁ ++ [w']) ++ pre₂) = .ok gpre := by
    rwa [List.append_assoc, List.singleton_append]
  obtain ⟨gw, hw₁, hpre₂⟩ := (applyOptions_append_ok ext).mp hsplit
  refine ⟨pre₁, pre₂, gw, gpre, rfl, hw₁, hpre, applyOptions_keeps ext (fun o' ho' => ?_) hpre₂⟩
  have hnodup' : ((pre₁ ++ w' :: (pre₂ ++ o :: post)).map GuardianOption.name).Nodup := by
    simpa using hnodup
  exact hkeep o' (name_ne_of_nodup hnodup' (by simp [ho']))

theorem applyOptions_split_keeps {α : Type} {v : G R → α} {o : GuardianOption}
    {pre post : List GuardianOption}
    (hkeep : ∀ o' : GuardianOption, o'.name ≠ o.name → o'.Keeps ext v)
    (hrun : applyOptions ext g c (pre ++ o :: post) = .ok g')
    (hnodup : ((pre ++ o :: post).map GuardianOption.name).Nodup) :
    ∃ gpre go, applyOptions ext g c pre = .ok gpre ∧ o.f ext gpre = .ok go ∧ v gpre = v g ∧
      v g' = v go := by
  obtain ⟨gpre, go, hpre, -, hf, hpost⟩ := applyOptions_split ext hrun
  exact ⟨gpre, go, hpre, hf,
    applyOptions_keeps ext (fun o' ho' =>
      hkeep o' (name_ne_of_nodup hnodup (List.mem_append_left _ ho'))) hpre,
    applyOptions_keeps ext (fun o' ho' =>
      hkeep o' (name_ne_of_nodup hnodup (List.mem_append_right _ ho'))) hpost⟩

theorem db_of_dependency {db : Database} {o : GuardianOption} {pre post : List GuardianOption}
    (hrun : applyOptions ext g [] (pre ++ o :: post) = .ok g')
    (hnodup : ((pre ++ o :: post).map GuardianOption.name).Nodup)
    (hdb : .database db ∈ pre ++ o :: post) (hdep : "db" ∈ o.dependencies) :
    ∃ gpre, applyOptions ext g [] pre = .ok gpre ∧ gpre.db = some db := by
  obtain ⟨pre₁, -, gw, gpre, -, hw, hpre, hv⟩ := reads_of_dependency ext (v := G.db)
    (w := .database db) (fun o' ho' _ _ hf => (o'.f_frame ext hf).db ho') hrun hnodup hdb hdep
  obtain ⟨g₁, _, -, -, hf, hnil⟩ := applyOptions_split ext hw
  cases hnil
  cases hf
  exact ⟨gpre, hpre, hv⟩

theorem governor_of_database {env : Environment} {db : Database} {enabled : Bool}
    {pre rest : List GuardianOption} {gw : G R}
    (hrun : applyOptions ext (G.init env) [] (pre ++ .governor enabled :: rest) = .ok g')
    (hnodup : ((pre ++ .governor enabled :: rest).map GuardianOption.name).Nodup)
    (hdb : .database db ∈ pre ++ .governor enabled :: rest)
    (hw : applyOptions ext (G.init env) [] (pre ++ [.governor enabled]) = .ok gw) :
    gw.gov = if enabled then some ⟨some db, env⟩ else none := by
  obtain ⟨g₁, _, hpre, -, hf, hnil⟩ := applyOptions_split ext hw
  cases hnil
  obtain ⟨g₁', hpre', hdb₁⟩ := db_of_dependency ext hrun hnodup hdb
    (by simp [GuardianOption.dependencies])
  obtain rfl : g₁ = g₁' := Except.ok.inj (hpre.symm.trans hpre')
  -- no option before the governor has its name, so none of them set `gov`
  have hgov₁ : g₁.gov = none := applyOptions_keeps ext (v := G.gov) (fun o' ho' _ _ hf =>
    (o'.f_frame ext hf).gov (name_ne_of_nodup hnodup (List.mem_append_left _ ho'))) hpre
  cases enabled <;> simp only [GuardianOption.f, if_true, if_false, Bool.false_eq_true] at hf <;>
    cases hf <;> simp [applyOptions_env ext hpre, hdb₁, hgov₁, G.init]

theorem dependencies_deliver_db_and_governor {env : Environment} {db : Database}
    {enabled : Bool} {o : GuardianOption} {pre post : List GuardianOption} {g' : G R}
    (hrun : applyOptions ext (G.init env) [] (pre ++ o :: post) = .ok g')
    (hnodup : ((pre ++ o :: post).map GuardianOption.name).Nodup)
    (hdb : .database db ∈ pre ++ o :: post) (hgov : .governor enabled ∈ pre ++ o :: post) :
    ∃ gpre, applyOptions ext (G.init env) [] pre = .ok gpre ∧
      ("db" ∈ o.dependencies → gpre.db = some db) ∧
      ("governor" ∈ o.dependencies →
        gpre.gov = if enabled then some ⟨some db, env⟩ else none) := by
  obtain ⟨gpre, -, hpre, -⟩ := applyOptions_split ext hrun
  refine ⟨gpre, hpre, fun hdep => ?_, fun hdep => ?_⟩
  · obtain ⟨gpre', hpre', hdb'⟩ := db_of_dependency ext hrun hnodup hdb hdep
    rwa [Except.ok.inj (hpre'.symm.trans hpre)] at hdb'
  · obtain ⟨pre₁, pre₂, gw, gpre', rfl, hw, hpre', hv⟩ := reads_of_dependency ext (v := G.gov)
      (w := .governor enabled) (fun o' ho' _ _ hf => (o'.f_frame ext hf).gov ho') hrun hnodup
      hgov hdep
    rw [Except.ok.inj (hpre.symm.trans hpre'), hv]
    exact governor_of_database ext (by simpa using hrun) (by simpa using hnodup)
      (by simpa using hdb) hw

/-- `GuardianOptionP2P` reads the query handler without depending on `query`. -/
theorem p2p_ccq_follows_order {pre post : List GuardianOption}
    (hrun : applyOptions ext g [] (pre ++ .p2p :: post) = .ok g')
    (hnodup : ((pre ++ .p2p :: post).map GuardianOption.name).Nodup)
    (hq : g.queryHandler = none) :
    (∃ gov goTest, g'.runnables "p2p" =
      some (.p2p gov (pre.any GuardianOption.enablesQuery) goTest)) ∧
    g'.queryHandler.isSome = (pre ++ .p2p :: post).any GuardianOption.enablesQuery := by
  obtain ⟨gpre, go, hpre, hf, -, hpost⟩ := applyOptions_split_keeps ext
    (fun _ hne => GuardianOption.keeps_key ext (o := .p2p) rfl hne) hrun hnodup
  cases hf
  refine ⟨⟨gpre.gov, decide (gpre.env = .goTest), ?_⟩,
    by rw [applyOptions_queryHandler ext hrun, hq]; rfl⟩
  rw [hpost, G.register_runnables, if_pos rfl, applyOptions_queryHandler ext hpre, hq]
  rfl

theorem statusServer_pprof_only_in_dev {statusAddr : String} {pre post : List GuardianOption}
    (hrun : applyOptions ext g [] (pre ++ .statusServer statusAddr :: post) = .ok g')
    (hnodup : ((pre ++ .statusServer statusAddr :: post).map GuardianOption.name).Nodup) :
    g'.runnables "status-server" = if statusAddr = "" then g.runnables "status-server"
      else some (.statusServer statusAddr (g.env = .unsafeDevNet ∨ g.env = .goTest)) := by
  obtain ⟨gpre, go, hpre, hf, hpre', hpost⟩ := applyOptions_split_keeps ext
    (fun _ hne => GuardianOption.keeps_key ext (o := .statusServer statusAddr) rfl hne) hrun
    hnodup
  rw [hpost]
  by_cases haddr : statusAddr = ""
  · simp only [GuardianOption.f, haddr, ne_eq, not_true_eq_false, if_false] at hf
    cases hf
    rw [if_pos haddr, hpre']
  · simp only [GuardianOption.f, haddr, ne_eq, not_false_eq_true, if_true] at hf
    cases hf
    simp [haddr, applyOptions_env ext hpre]

theorem watchers_option_runs_setup {env : Environment} {watcherConfigs : List WatcherConfig}
    {pre post : List GuardianOption}
    (hrun : applyOptions ext (G.init env) [] (pre ++ .watchers watcherConfigs :: post) = .ok g')
    (hnodup : ((pre ++ .watchers watcherConfigs :: post).map GuardianOption.name).Nodup) :
    ∃ s, setupRun ext.allChains ext.create .init watcherConfigs = .ok s ∧
      g'.runnablesWithScissors = s.runnablesWithScissors ∧
      g'.chainQueryReqC = s.chainQueryReqC := by
  obtain ⟨gpre, go, -, hf, hpre', hpost'⟩ := applyOptions_split_keeps ext
    (v := fun g => (g.chainQueryReqC, g.runnablesWithScissors)) (o := .watchers watcherConfigs)
    (fun o' hne _ _ hf' =>
      have h := (o'.f_frame ext hf').watchers hne
      Prod.ext h.1 h.2) hrun hnodup
  simp only [Prod.mk.injEq] at hpre' hpost'
  have hinit : gpre.watcherSetup = (Setup.init : Setup F R) := by
    simp only [G.watcherSetup, hpre'.1, hpre'.2, G.init]
    rfl
  simp only [GuardianOption.f, hinit] at hf
  split at hf
  · cases hf
  · rename_i s hs
    cases hf
    exact ⟨s, hs, hpost'.2, hpost'.1⟩

end Run

/-- Other packages that fail nowhere. -/
def quietExternals : Externals Unit Unit :=
  ⟨[], fun _ _ => .ok (none, ()), fun _ _ _ => none, fun _ _ _ => none⟩

/-- The options of another file that p2p and the processor depend on. -/
def otherOptions : List GuardianOption :=
  [.other "accountant" [] none, .other "gateway-relayer" [] none]

theorem dependencies_deliver_db_and_governor_processor :
    let opts : List GuardianOption := [.database ⟨7⟩, .governor true] ++ otherOptions
    let gov : Option ChainGovernor := some ⟨some ⟨7⟩, .mainNet⟩
    let g' : G Unit := ({ (G.init .mainNet : G Unit) with db := some ⟨7⟩, gov }).register
      "processor" (.processor (some ⟨7⟩) gov)
    applyOptions quietExternals (G.init .mainNet) [] (opts ++ [.processor]) = .ok g' ∧
    ((opts ++ [GuardianOption.processor]).map GuardianOption.name).Nodup ∧
    GuardianOption.database ⟨7⟩ ∈ opts ++ [.processor] ∧
    GuardianOption.governor true ∈ opts ++ [.processor] ∧
    ∃ gpre, applyOptions quietExternals (G.init .mainNet) [] opts = .ok gpre ∧
      ("db" ∈ GuardianOption.processor.dependencies → gpre.db = some ⟨7⟩) ∧
      ("governor" ∈ GuardianOption.processor.dependencies →
        gpre.gov = if true then gov else none) := by
  intro opts gov g'
  have hrun : applyOptions quietExternals (G.init .mainNet) [] (opts ++ [.processor]) = .ok g' :=
    rfl
  have hnodup : ((opts ++ [GuardianOption.processor]).map GuardianOption.name).Nodup := by
    decide
  have hdb : GuardianOption.database ⟨7⟩ ∈ opts ++ [.processor] := by simp [opts]
  have hgov : GuardianOption.governor true ∈ opts ++ [.processor] := by simp [opts]
  exact ⟨hrun, hnodup, hdb, hgov,
    dependencies_deliver_db_and_governor quietExternals hrun hnodup hdb hgov⟩

theorem p2p_ccq_follows_order_p2p_first :
    let pre : List GuardianOption := [.database ⟨0⟩, .governor false] ++ otherOptions
    let post : List GuardianOption := [.queryHandler true ""]
    let g' : G Unit := { (G.init .mainNet : G Unit).register "p2p" (.p2p none false false) with
      db := some ⟨0⟩, queryHandler := some ⟨.mainNet, ""⟩ }
    applyOptions quietExternals (G.init .mainNet) [] (pre ++ .p2p :: post) = .ok g' ∧
    ((pre ++ GuardianOption.p2p :: post).map GuardianOption.name).Nodup ∧
    (G.init .mainNet : G Unit).queryHandler = none ∧
    (∃ gov goTest, g'.runnables "p2p" = some (.p2p gov false goTest)) ∧
    g'.queryHandler.isSome = true := by
  intro pre post g'
  have hrun : applyOptions quietExternals (G.init .mainNet) [] (pre ++ .p2p :: post) = .ok g' :=
    rfl
  have hnodup : ((pre ++ GuardianOption.p2p :: post).map GuardianOption.name).Nodup := by decide
  exact ⟨hrun, hnodup, rfl, p2p_ccq_follows_order quietExternals hrun hnodup rfl⟩

theorem statusServer_pprof_only_in_dev_mainNet :
    let g' : G Unit := ({ (G.init .mainNet : G Unit) with db := some ⟨0⟩ }).register
      "status-server" (.statusServer ":6060" false)
    applyOptions quietExternals (G.init .mainNet) [] ([.database ⟨0⟩] ++ [.statusServer ":6060"]) =
      .ok g' ∧
    (([GuardianOption.database ⟨0⟩] ++ [GuardianOption.statusServer ":6060"]).map
      GuardianOption.name).Nodup ∧
    g'.runnables "status-server" = some (.statusServer ":6060" false) := by
  intro g'
  have hrun : applyOptions quietExternals (G.init .mainNet) []
      ([.database ⟨0⟩] ++ [.statusServer ":6060"]) = .ok g' := rfl
  have hnodup : (([GuardianOption.database ⟨0⟩] ++ [GuardianOption.statusServer ":6060"]).map
      GuardianOption.name).Nodup := by decide
  exact ⟨hrun, hnodup, statusServer_pprof_only_in_dev quietExternals hrun hnodup⟩

theorem watchers_option_runs_setup_ethereum :
    let g' : G Unit := { (G.init .mainNet : G Unit) with
      chainQueryReqC := Function.update (fun _ => none) 2 (some 0),
      runnablesWithScissors := Function.update (fun _ => none) "ethereum_watch" (some ()) }
    applyOptions quietExternals (G.init .mainNet) [] ([] ++ [.watchers [⟨"ethereum", 2, ""⟩]]) =
      .ok g' ∧
    (([] ++ [GuardianOption.watchers [⟨"ethereum", 2, ""⟩]]).map GuardianOption.name).Nodup ∧
    ∃ s, setupRun quietExternals.allChains quietExternals.create .init [⟨"ethereum", 2, ""⟩] =
      .ok s ∧ g'.runnablesWithScissors = s.runnablesWithScissors ∧
      g'.chainQueryReqC = s.chainQueryReqC := by
  intro g'
  have hrun : applyOptions quietExternals (G.init .mainNet) []
      ([] ++ [.watchers [⟨"ethereum", 2, ""⟩]]) = .ok g' := rfl
  have hnodup : (([] ++ [GuardianOption.watchers [⟨"ethereum", 2, ""⟩]]).map
      GuardianOption.name).Nodup := by decide
  exact ⟨hrun, hnodup, watchers_option_runs_setup quietExternals hrun hnodup⟩

end GuardianNode.Node
