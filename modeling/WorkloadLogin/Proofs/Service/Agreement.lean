import WorkloadLogin.Proofs.Service.Calls
import WorkloadLogin.Proofs.Service.LoginSpec
import WorkloadLogin.Proofs.Service.Schedules

/-! # The configuration and the cached client agree

Whatever the order in which calls run, a cached client is one that was connected with the settings
of the stored configuration, unless a write is under way, and no call looks anything up but through
a client connected with the settings of the configuration that it read.
-/
namespace WorkloadLogin.Service
variable {σ ρ : Type} {w : World σ} {task t : TaskId} {q : Request} {a : q.Answer}
  {trace : List Event} {settings : Platform.Settings} {client : ClientId} {config : Config}

/-! ## What a trace tells -/

/-- The latest connection attempt: whose it is, and with which settings. -/
def lastAttempt : List Event → Option (TaskId × Platform.Settings)
  | [] => none
  | ⟨task,.startConnect settings,_⟩ :: _ => some (task,settings)
  | _ :: rest => lastAttempt rest

/-- An attempt with these settings ended in the client. -/
def Connected (trace : List Event) (settings : Platform.Settings) (client : ClientId) : Prop :=
  ∃ later task earlier, trace = later ++ ⟨task,.awaitConnect,.ok client⟩ :: earlier ∧
    lastAttempt earlier = some (task,settings)

/-- The configuration that a task has read last. -/
def configRead (t : TaskId) : List Event → Option Config
  | [] => none
  | ⟨task,.readConfig,.ok (some config)⟩ :: rest =>
    if task = t then some config else configRead t rest
  | _ :: rest => configRead t rest

/-- The task has stored a configuration and has not reset the cache since. -/
def AmidWrite (t : TaskId) : List Event → Prop
  | [] => False
  | ⟨task,.storeConfig _,.ok _⟩ :: rest => task = t ∨ AmidWrite t rest
  | ⟨task,.forget,_⟩ :: rest => task ≠ t ∧ AmidWrite t rest
  | _ :: rest => AmidWrite t rest

theorem Connected.cons {e : Event} (h : Connected trace settings client) :
    Connected (e :: trace) settings client := by
  obtain ⟨later,task,earlier,rfl,ha⟩ := h
  exact ⟨e :: later,task,earlier,rfl,ha⟩

theorem lastAttempt_cons (h : ∀ settings, q ≠ .startConnect settings) :
    lastAttempt (⟨task,q,a⟩ :: trace) = lastAttempt trace := by
  cases q <;> first | rfl | exact absurd rfl (h _)

theorem configRead_cons (h : q ≠ .readConfig) :
    configRead t (⟨task,q,a⟩ :: trace) = configRead t trace := by
  cases q <;> first | rfl | exact absurd rfl h

theorem configRead_cons_of_ne (h : task ≠ t) :
    configRead t (⟨task,q,a⟩ :: trace) = configRead t trace := by
  cases q with
  | readConfig =>
    rcases a with _ | _ | config
    · rfl
    · rfl
    · exact if_neg h
  | _ => rfl

theorem amidWrite_cons_of_ne (h : task ≠ t) :
    AmidWrite t (⟨task,q,a⟩ :: trace) ↔ AmidWrite t trace := by
  cases q with
  | storeConfig c =>
    rcases a with _ | _
    · rfl
    · simp [AmidWrite, h]
  | forget => simp [AmidWrite, h]
  | _ => rfl

theorem amidWrite_cons (h : q ≠ .forget) (ht : AmidWrite t trace) :
    AmidWrite t (⟨task,q,a⟩ :: trace) := by
  cases q with
  | storeConfig c =>
    rcases a with _ | _
    · exact ht
    · exact .inr ht
  | forget => exact absurd rfl h
  | _ => exact ht

/-- Whether a configuration is stored. -/
def Event.stores : Event → Bool
  | ⟨_,.storeConfig _,_⟩ => true
  | _ => false

theorem not_amidWrite (h : trace.any Event.stores = false) : ¬ AmidWrite t trace := by
  induction trace with
  | nil => exact id
  | cons e rest ih =>
    obtain ⟨task,q,a⟩ := e
    obtain ⟨hfirst,hlast⟩ := Bool.or_eq_false_iff.mp h
    have hrest := ih hlast
    cases q with
    | storeConfig c => cases hfirst
    | forget => exact fun hw => hrest hw.2
    | _ => exact hrest

/-! ## The invariant -/

/-- What the custody of the tasks and the trace say about the shared state. -/
structure Agreement (p : Pool σ ρ) (stance : TaskId → Custody) : Prop where
  stored : ∀ {t config}, (stance t).read = some config →
    (stance t).config = .holding .shared ∧ p.state.store.config = some config ∧
      configRead t p.trace = some config
  unreset : ∀ {t}, (stance t).unreset = true →
    (stance t).config = .holding .exclusive ∧ AmidWrite t p.trace
  attempt : ∀ {t settings}, (stance t).attempt = some settings →
    (stance t).connect = .holding .exclusive ∧ lastAttempt p.trace = some (t,settings) ∧
      ∃ config, (stance t).read = some config ∧ settings = config.platformSettings
  client : ∀ {t client}, (stance t).client = some client →
    ∃ config, (stance t).read = some config ∧
      Connected p.trace config.platformSettings client
  cached : ∀ {client}, p.state.cache = .fresh client →
    (∃ t, (stance t).unreset = true) ∨
      ∃ config, p.state.store.config = some config ∧
        Connected p.trace config.platformSettings client
  lookups : ∀ {later t client kind guid found earlier},
    p.trace = later ++ ⟨t,.lookup client kind guid,found⟩ :: earlier →
      ∃ config, configRead t earlier = some config ∧
        Connected earlier config.platformSettings client

variable {p : Pool σ ρ} {stance : TaskId → Custody} {next : Talk ρ} {s : State σ} {ψ : Custody}
  {Q : ρ → Custody → Prop}

/-- Nobody relies on a configuration while somebody may replace it. -/
theorem Tracked.eq_of_config (ht : Tracked custody Q p stance) {access : Access}
    (he : (stance task).config = .holding .exclusive)
    (hs : (stance t).config = .holding access) : t = task :=
  (ht.lined .config).eq_of_exclusive he hs

theorem Tracked.eq_of_connect (ht : Tracked custody Q p stance) {access : Access}
    (he : (stance task).connect = .holding .exclusive)
    (hs : (stance t).connect = .holding access) : t = task :=
  (ht.lined .connect).eq_of_exclusive he hs

theorem Request.Neutral.configAfter_eq (hq : q.Neutral) {config : Option Config} :
    q.configAfter a config = config := by
  cases q <;> first | rfl | exact hq.elim

/-- A client may be found bad, but none is put in the cache. -/
theorem Request.Neutral.cacheAfter_eq_fresh (hq : q.Neutral) {cache : Cache}
    (h : q.cacheAfter cache = .fresh client) : cache = .fresh client := by
  cases q with
  | taint bad =>
    simp only [cacheAfter, Cache.taint] at h
    split at h
    · cases h
    · exact h
  | keep _ => exact hq.elim
  | forget => exact hq.elim
  | _ => exact h

theorem Custody.Moves.configAfter {φ : Custody} (hm : Moves φ q a ψ) (config : Option Config) :
    q.configAfter a config = config ∨ φ.config = .holding .exclusive := by
  cases hm with
  | storeConfig c r hc => exact .inr hc
  | neutral a hq => exact .inl hq.configAfter_eq
  | _ => exact .inl rfl

/-- Whoever relies on a configuration keeps it stored: its replacement waits for the lock. -/
theorem Agreement.config_kept (h : Agreement p stance) (ht : Tracked custody Q p stance)
    (he : Effect task q a p.state s) (hm : Custody.Moves (stance task) q a ψ)
    (hread : (stance t).read = some config) : s.store.config = some config := by
  obtain ⟨hshared,hstore,-⟩ := h.stored hread
  rw [he.config, ← hstore]
  rcases hm.configAfter p.state.store.config with hsame | hexclusive
  · exact hsame
  · have heq := ht.eq_of_config hexclusive hshared
    rw [heq, hexclusive] at hshared
    cases hshared

theorem Agreement.stored_answered (h : Agreement p stance) (ht : Tracked custody Q p stance)
    (he : Effect task q a p.state s) (hm : Custody.Moves (stance task) q a ψ)
    (hread : (Function.update stance task ψ t).read = some config) :
    (Function.update stance task ψ t).config = .holding .shared ∧ s.store.config = some config ∧
      configRead t (⟨task,q,a⟩ :: p.trace) = some config := by
  by_cases htask : t = task
  · subst htask
    simp only [Function.update_self] at hread ⊢
    have hkept : q ≠ .readConfig → ψ.config = (stance t).config → (stance t).read = some config →
        ψ.config = .holding .shared ∧ s.store.config = some config ∧
          configRead t (⟨t,q,a⟩ :: p.trace) = some config := by
      intro hq hc hr
      obtain ⟨hshared,-,htrace⟩ := h.stored hr
      exact ⟨hc.trans hshared,h.config_kept ht he hm hr,(configRead_cons hq).trans htrace⟩
    cases hm with
    | joinConfig access hc hn => exact absurd (hc.symm.trans (h.stored hread).1) nofun
    | obtainConfig hc => exact absurd (hc.symm.trans (h.stored hread).1) nofun
    | leaveConfig hc hn hu => cases hread
    | readConfig r hc hr =>
      rcases r with _ | _ | _
      · cases hread
      · cases hread
      · cases hread
        exact ⟨hc,he.config.trans he.truthful.symm,if_pos rfl⟩
    | neutral a hq => exact hkept (by rintro rfl; exact hq) rfl hread
    | _ => exact hkept nofun rfl hread
  · simp only [Function.update_of_ne htask] at hread ⊢
    obtain ⟨hshared,-,htrace⟩ := h.stored hread
    exact ⟨hshared,h.config_kept ht he hm hread,
      (configRead_cons_of_ne (Ne.symm htask)).trans htrace⟩

theorem Agreement.unreset_answered (h : Agreement p stance)
    (hm : Custody.Moves (stance task) q a ψ)
    (hu : (Function.update stance task ψ t).unreset = true) :
    (Function.update stance task ψ t).config = .holding .exclusive ∧
      AmidWrite t (⟨task,q,a⟩ :: p.trace) := by
  by_cases htask : t = task
  · subst htask
    simp only [Function.update_self] at hu ⊢
    have hkept : q ≠ .forget → ψ.config = (stance t).config → (stance t).unreset = true →
        ψ.config = .holding .exclusive ∧ AmidWrite t (⟨t,q,a⟩ :: p.trace) := fun hq hc hu =>
      ⟨hc.trans (h.unreset hu).1,amidWrite_cons hq (h.unreset hu).2⟩
    cases hm with
    | joinConfig access hc hn => exact absurd (hc.symm.trans (h.unreset hu).1) nofun
    | obtainConfig hc => exact absurd (hc.symm.trans (h.unreset hu).1) nofun
    | leaveConfig hc hn hu' => cases hu
    | storeConfig c r hc =>
      rcases r with _ | _
      · exact ⟨hc,(h.unreset (by simpa [Except.isOk, Except.toBool] using hu)).2⟩
      · exact ⟨hc,.inl rfl⟩
    | forget dropped hc hn => cases hu
    | neutral a hq => exact hkept (by rintro rfl; exact hq) rfl hu
    | _ => exact hkept nofun rfl hu
  · simp only [Function.update_of_ne htask] at hu ⊢
    exact ⟨(h.unreset hu).1,(amidWrite_cons_of_ne (Ne.symm htask)).mpr (h.unreset hu).2⟩

theorem Agreement.attempt_answered (h : Agreement p stance) (ht : Tracked custody Q p stance)
    (hm : Custody.Moves (stance task) q a ψ)
    (ha : (Function.update stance task ψ t).attempt = some settings) :
    (Function.update stance task ψ t).connect = .holding .exclusive ∧
      lastAttempt (⟨task,q,a⟩ :: p.trace) = some (t,settings) ∧
      ∃ config, (Function.update stance task ψ t).read = some config ∧
        settings = config.platformSettings := by
  by_cases htask : t = task
  · subst htask
    simp only [Function.update_self] at ha ⊢
    have hkept : (∀ settings, q ≠ .startConnect settings) → ψ.connect = (stance t).connect →
        ψ.read = (stance t).read → (stance t).attempt = some settings →
        ψ.connect = .holding .exclusive ∧
          lastAttempt (⟨t,q,a⟩ :: p.trace) = some (t,settings) ∧
          ∃ config, ψ.read = some config ∧ settings = config.platformSettings := by
      intro hq hn hr ha
      obtain ⟨hexclusive,hlast,hread⟩ := h.attempt ha
      exact ⟨hn.trans hexclusive,(lastAttempt_cons hq).trans hlast,hr ▸ hread⟩
    cases hm with
    | leaveConfig hc hn hu => cases ha
    | joinConnect access hn => exact absurd (hn.symm.trans (h.attempt ha).1) nofun
    | obtainConnect hn => exact absurd (hn.symm.trans (h.attempt ha).1) nofun
    | leaveConnect hn => cases ha
    | readConfig r hc hr =>
      obtain ⟨-,-,config,hread,-⟩ := h.attempt ha
      exact absurd (hr.symm.trans hread) nofun
    | startConnect hn hr =>
      cases ha
      exact ⟨hn,rfl,_,hr,rfl⟩
    | awaitConnect r ha' => cases ha
    | neutral a hq => exact hkept (by rintro _ rfl; exact hq) rfl rfl ha
    | _ => exact hkept nofun rfl rfl ha
  · simp only [Function.update_of_ne htask] at ha ⊢
    obtain ⟨hexclusive,hlast,hread⟩ := h.attempt ha
    refine ⟨hexclusive,?_,hread⟩
    cases hm with
    | startConnect hn hr => exact absurd (ht.eq_of_connect hn hexclusive) htask
    | neutral a hq => exact (lastAttempt_cons (by rintro _ rfl; exact hq)).trans hlast
    | _ => exact hlast

/-- A client found in the cache by a task that relies on a configuration is connected with the
settings of that one: no write is under way then. -/
theorem Agreement.connected_of_cached (h : Agreement p stance) (ht : Tracked custody Q p stance)
    (hread : (stance t).read = some config) (hc : p.state.cache = .fresh client) :
    Connected p.trace config.platformSettings client := by
  obtain ⟨hshared,hstore,-⟩ := h.stored hread
  rcases h.cached hc with ⟨u,hu⟩ | ⟨config',hstore',hconnected⟩
  · obtain ⟨hexclusive,-⟩ := h.unreset hu
    rw [ht.eq_of_config hexclusive hshared, hexclusive] at hshared
    cases hshared
  · obtain rfl : config = config' := Option.some.inj (hstore.symm.trans hstore')
    exact hconnected

theorem Agreement.client_answered (h : Agreement p stance) (ht : Tracked custody Q p stance)
    (he : Effect task q a p.state s) (hm : Custody.Moves (stance task) q a ψ)
    (hcl : (Function.update stance task ψ t).client = some client) :
    ∃ config, (Function.update stance task ψ t).read = some config ∧
      Connected (⟨task,q,a⟩ :: p.trace) config.platformSettings client := by
  by_cases htask : t = task
  · subst htask
    simp only [Function.update_self] at hcl ⊢
    have hkept : ψ.read = (stance t).read → (stance t).client = some client →
        ∃ config, ψ.read = some config ∧
          Connected (⟨t,q,a⟩ :: p.trace) config.platformSettings client := by
      intro hr hcl
      obtain ⟨config,hread,hconnected⟩ := h.client hcl
      exact ⟨config,hr.trans hread,hconnected.cons⟩
    cases hm with
    | leaveConfig hc hn hu => cases hcl
    | readConfig r hc hr =>
      obtain ⟨config,hread,-⟩ := h.client hcl
      exact absurd (hr.symm.trans hread) nofun
    | cached found hr =>
      have hcache := Cache.client?_eq_some_iff.mp (he.truthful.symm.trans hcl)
      exact ⟨_,hr,(h.connected_of_cached ht hr hcache).cons⟩
    | awaitConnect r ha =>
      rcases r with _ | _
      · cases hcl
      · cases hcl
        obtain ⟨-,hlast,config,hread,rfl⟩ := h.attempt ha
        exact ⟨config,hread,[],t,p.trace,rfl,hlast⟩
    | _ => exact hkept rfl hcl
  · simp only [Function.update_of_ne htask] at hcl ⊢
    obtain ⟨config,hread,hconnected⟩ := h.client hcl
    exact ⟨config,hread,hconnected.cons⟩

theorem Agreement.cached_answered (h : Agreement p stance) (ht : Tracked custody Q p stance)
    (he : Effect task q a p.state s) (hm : Custody.Moves (stance task) q a ψ)
    (hc : s.cache = .fresh client) :
    (∃ t, (Function.update stance task ψ t).unreset = true) ∨
      ∃ config, s.store.config = some config ∧
        Connected (⟨task,q,a⟩ :: p.trace) config.platformSettings client := by
  have hkept : p.state.cache = .fresh client → s.store.config = p.state.store.config →
      ((stance task).unreset = true → ψ.unreset = true) →
      (∃ t, (Function.update stance task ψ t).unreset = true) ∨
        ∃ config, s.store.config = some config ∧
          Connected (⟨task,q,a⟩ :: p.trace) config.platformSettings client := by
    intro hcache hstore hunreset
    rcases h.cached hcache with ⟨u,hu⟩ | ⟨config,hconfig,hconnected⟩
    · refine .inl ⟨u,?_⟩
      by_cases htask : u = task
      · subst htask
        simpa using hunreset hu
      · simpa [htask] using hu
    · exact .inr ⟨config,hstore.trans hconfig,hconnected.cons⟩
  have hcache := he.cache
  rw [hc] at hcache
  cases hm with
  | keep hcl =>
    cases hcache
    obtain ⟨config,hread,hconnected⟩ := h.client hcl
    exact .inr ⟨config,h.config_kept ht he (.keep hcl) hread,hconnected.cons⟩
  | forget dropped hc hn => cases hcache
  | storeConfig c r hc =>
    rcases r with _ | _
    · exact hkept hcache.symm he.config (by simp [Except.isOk, Except.toBool])
    · exact .inl ⟨task,by simp [Except.isOk, Except.toBool]⟩
  | leaveConfig hc hn hu => exact hkept hcache.symm he.config (by simp [hu])
  | neutral a hq =>
    exact hkept (hq.cacheAfter_eq_fresh hcache.symm) (he.config.trans hq.configAfter_eq) id
  | _ => exact hkept hcache.symm he.config id

theorem Agreement.lookups_answered {later earlier : List Event} {kind : Platform.Kind}
    {guid : String} {found : Platform.Found kind} (h : Agreement p stance)
    (hm : Custody.Moves (stance task) q a ψ)
    (hl : ⟨task,q,a⟩ :: p.trace = later ++ ⟨t,.lookup client kind guid,found⟩ :: earlier) :
    ∃ config, configRead t earlier = some config ∧
      Connected earlier config.platformSettings client := by
  cases later with
  | nil =>
    cases hl
    cases hm with
    | lookup kind guid r hcl =>
      obtain ⟨config,hread,hconnected⟩ := h.client hcl
      exact ⟨config,(h.stored hread).2.2,hconnected⟩
    | neutral a hq => exact hq.elim
  | cons e later =>
    exact h.lookups (List.cons.inj hl).2

theorem Agreement.answered (h : Agreement p stance) (ht : Tracked custody Q p stance)
    (he : Effect task q a p.state s) (hm : Custody.Moves (stance task) q a ψ) :
    Agreement (p.answered task q a next s) (Function.update stance task ψ) where
  stored := h.stored_answered ht he hm
  unreset := h.unreset_answered hm
  attempt := h.attempt_answered ht hm
  client := h.client_answered ht he hm
  cached := h.cached_answered ht he hm
  lookups := h.lookups_answered hm

/-! ## Every order of calls -/

/-- Calls of tasks over a store, with nothing cached. -/
def Pool.ofCalls (calls : TaskId → Option Call) (store : Store) (world : σ) : Pool σ Reply :=
  .start (fun task => (calls task).map Call.talk) store world

theorem Tracked.ofCalls {P : Protocol} {φ : P.Stance} {Q : Reply → P.Stance → Prop}
    (calls : TaskId → Option Call) (store : Store) (world : σ)
    (hcall : ∀ call : Call, Follows P call.talk φ Q) (hφ : ∀ lock, P.place φ lock = .outside) :
    Tracked P Q (Pool.ofCalls calls store world) fun _ => φ := by
  refine tracked_start store world (fun hx => ?_) hφ
  obtain ⟨call,-,rfl⟩ := Option.map_eq_some_iff.mp hx
  exact hcall call

theorem tracked_ofCalls (calls : TaskId → Option Call) (store : Store) (world : σ) :
    Tracked custody (fun _ ψ => ψ = ({} : Custody)) (Pool.ofCalls calls store world)
      fun _ => ({} : Custody) :=
  .ofCalls calls store world follows_call fun lock => by cases lock <;> rfl

theorem agreement_ofCalls (calls : TaskId → Option Call) (store : Store) (world : σ) :
    Agreement (Pool.ofCalls calls store world) fun _ => {} where
  stored := nofun
  unreset := nofun
  attempt := nofun
  client := nofun
  cached := nofun
  lookups h := by simp [Pool.ofCalls, Pool.start] at h

theorem exists_agreement_of_reachable {calls : TaskId → Option Call} {store : Store} {world : σ}
    {p : Pool σ Reply} (hp : Pool.Reachable w (Pool.ofCalls calls store world) p) :
    ∃ stance, Tracked custody (fun _ ψ => ψ = ({} : Custody)) p stance ∧ Agreement p stance :=
  exists_tracked_of_reachable (tracked_ofCalls calls store world)
    (agreement_ofCalls calls store world) (fun ht hi he hm => hi.answered ht he hm)
    (fun _ _ hi => ⟨hi.stored,hi.unreset,hi.attempt,hi.client,hi.cached,hi.lookups⟩) hp

/-- In every pool that calls over a store can reach: while no task is amid a write, a fresh client
was connected with the settings of the configuration that is stored; and every lookup was made
through a client connected, before it, with the settings of the configuration that its task read. -/
theorem configuration_and_client_agree (calls : TaskId → Option Call) (store : Store) (world : σ)
    {p : Pool σ Reply} (hp : Pool.Reachable w (Pool.ofCalls calls store world) p) :
    ((∀ t, ¬ AmidWrite t p.trace) → ∀ client, p.state.cache = .fresh client →
      ∃ config, p.state.store.config = some config ∧
        Connected p.trace config.platformSettings client) ∧
    (∀ later t client kind guid found earlier,
      p.trace = later ++ ⟨t,.lookup client kind guid,found⟩ :: earlier →
        ∃ config, configRead t earlier = some config ∧
          Connected earlier config.platformSettings client) := by
  obtain ⟨stance,-,h⟩ := exists_agreement_of_reachable hp
  refine ⟨fun hquiet client hc => ?_,fun _ _ _ _ _ _ _ => h.lookups⟩
  rcases h.cached hc with ⟨t,ht⟩ | hconnected
  · exact absurd (h.unreset ht).2 (hquiet t)
  · exact hconnected

def sampleCall : Call := .login sampleRequest (some ⟨"10.0.0.1"⟩)

/-- One login over the sample state, run to its end. -/
def samplePool : Pool Script Reply :=
  (Pool.ofCalls (fun _ => some sampleCall) sampleState.store sampleScript).advance Script.world 0
    sampleCall.talk

theorem configuration_and_client_agree_sample :
    samplePool.state.cache = .fresh 0 ∧ ∃ config, samplePool.state.store.config = some config ∧
      Connected samplePool.trace config.platformSettings 0 := by
  have hreach : Pool.Reachable Script.world
      (Pool.ofCalls (fun _ => some sampleCall) sampleState.store sampleScript) samplePool :=
    Pool.reachable_advance rfl
  have hquiet : samplePool.trace.any Event.stores = false := by decide +kernel
  have hcache : samplePool.state.cache = .fresh 0 := by decide +kernel
  exact ⟨hcache,(configuration_and_client_agree _ _ _ hreach).1 (fun _ => not_amidWrite hquiet) 0
    hcache⟩

end WorkloadLogin.Service
