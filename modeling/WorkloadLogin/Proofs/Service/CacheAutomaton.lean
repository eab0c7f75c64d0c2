import WorkloadLogin.Proofs.Service.Visits

/-! # The cache as calls follow each other

Calls and edits of the stores come one after another, each from where the one before it ended, in
surroundings that may have moved on. What each does to the cache depends on how far it comes.
-/
namespace WorkloadLogin.Service
variable {σ α : Type} {w : World σ} {task : TaskId} {s t : State σ} {done : List Deed}
  {settings : Platform.Settings} {config : Config} {name : String}

/-! ## Operations -/

inductive Operation where
  | login (request : LoginRequest) (connection : Option Connection)
  | renew (credential : Credential) (connection : Option Connection)
  | resolveRole (name : String)
  | writeConfig (config : Config)
  | putRole (name : String) (role : Role)
  | deleteRole (name : String)
  | setConfig (config : Option Config)

/-- The error that an outcome is, if it is one. -/
def failure? : Except Error α → Option Error
  | .ok _ => none
  | .error e => some e

/-- A call ends by itself, with an error or without one. -/
def Returns (w : World σ) (x : Action α) (s : State σ) (failure : Option Error) (t : State σ) :
    Prop :=
  ∃ r, Schedule.alone w x.run s = (some r,t) ∧ failure = failure? r

namespace Operation

/-- How an operation can end: calls as they return, edits with the stores changed. -/
def Ends (w : World σ) (s : State σ) (failure : Option Error) (t : State σ) : Operation → Prop
  | login request connection => Returns w (Service.login request connection) s failure t
  | renew c connection => Returns w (Service.renew c connection) s failure t
  | resolveRole name => Returns w (Service.resolveRole name) s failure t
  | writeConfig config => Returns w (Service.writeConfig config) s failure t
  | putRole name role => failure = none ∧ t = { s with store := s.store.putRole name role }
  | deleteRole name => failure = none ∧ t = { s with store := (s.store.deleteRole name).2 }
  | setConfig config => failure = none ∧ t = { s with store := s.store.setConfig config }

/-- A login or a renewal that passes all that stands before the platform. -/
def Arrives (w : World σ) (s : State σ) : Operation → Prop
  | login request connection => LoginGate.Arrives w s request connection
  | renew c connection => RenewalGate.Arrives w s c connection
  | _ => False

/-- A renewal whose cross-check fails. -/
def Distrusts (w : World σ) (s : State σ) : Operation → Prop
  | renew c connection => RenewalGate.FailsCrossCheck w s c connection
  | _ => False

/-- A configuration is written with success. -/
def Replaces (failure : Option Error) : Operation → Prop
  | writeConfig _ => failure = none
  | _ => False

end Operation

/-! ## Sequences -/

/-- An operation that has ended, and the requests that it made in order. -/
structure Episode (σ : Type) where
  operation : Operation
  before : State σ
  asked : List Request
  failure : Option Error
  after : State σ

structure Episode.Happens (w : World σ) (e : Episode σ) : Prop where
  ends : e.operation.Ends w e.before e.failure e.after
  log : e.after.log = e.asked.reverse ++ e.before.log

/-- Operations one after another. Between them the surroundings may move on. -/
inductive Sequence (w : World σ) : State σ → List (Episode σ) → Prop
  | nil {s : State σ} : Sequence w s []
  | cons {s : State σ} {e : Episode σ} {es : List (Episode σ)} (world : σ)
      (hb : e.before = { s with world := world }) (he : e.Happens w)
      (hes : Sequence w e.after es) : Sequence w s (e :: es)

/-- What an operation may do to the cache, and when it connects. -/
structure CacheDiscipline (w : World σ) (e : Episode σ) : Prop where
  /-- One attempt is made at the platform unless a client is at hand. -/
  connects : e.operation.Arrives w e.before → e.before.cache.client? = none →
    ∃ config, e.before.store.config = some config ∧
      attempts (deeds e.asked) = [config.platformSettings]
  spares : ¬ (e.operation.Arrives w e.before ∧ e.before.cache.client? = none) →
    attempts (deeds e.asked) = []
  /-- The client of an attempt that succeeds is kept at once, and stays unless it is tainted. -/
  succeeds : ∀ settings ∈ attempts (deeds e.asked), ∀ client world,
    w.awaitConnect (w.startConnect settings e.before.world) = some (.ok client,world) →
      [.connect settings,.keep client] <:+: deeds e.asked ∧
        (¬ e.operation.Distrusts w e.before → e.after.cache = .fresh client)
  fails : ∀ settings ∈ attempts (deeds e.asked), ∀ error world,
    w.awaitConnect (w.startConnect settings e.before.world) = some (.error error,world) →
      e.after.cache = e.before.cache
  /-- After the gate of the cross-check that refuses it, a renewal does no more than taint. -/
  taints : ∀ c connection, e.operation = .renew c connection → e.operation.Distrusts w e.before →
    e.after.cache = .tainted ∧ ∃ before g after error client,
      RenewalGate.order = before ++ .crossCheck g :: after ∧
      (RenewalGate.crossCheck g).Refuses w e.before c connection error ∧
      e.failure = some error ∧
      deeds e.asked = (before ++ [.crossCheck g]).flatMap (RenewalGate.does w e.before) ++
        [.taint client]
  /-- A login taints nothing, whatever it fails at. -/
  forgives : ∀ request connection, e.operation = .login request connection →
    e.after.cache = .tainted → e.before.cache = .tainted ∧
      ¬ (e.operation.Arrives w e.before ∧ ∃ client, Obtains w e.before client)
  resets : e.operation.Replaces e.failure → e.after.cache = .absent
  /-- Nothing but a connection, a failed renewal or a new configuration moves the cache. -/
  rests : (∀ settings ∈ attempts (deeds e.asked), ∀ client world,
      w.awaitConnect (w.startConnect settings e.before.world) ≠ some (.ok client,world)) →
    ¬ e.operation.Distrusts w e.before → ¬ e.operation.Replaces e.failure →
      e.after.cache = e.before.cache

/-! ## Each operation keeps the discipline -/

/-- A call that returns has made its requests from the state it was called in. -/
theorem Returns.outcome {x : Action α} {failure : Option Error} (h : Returns w x s failure t) :
    ∃ r, outcome? w 0 x s = some (r,t) ∧ failure = failure? r := by
  obtain ⟨r,hrun,hfailure⟩ := h
  exact ⟨r,settle_of_alone hrun,hfailure⟩

theorem outcome?_findRole_some {absent : Error} {r : Except Error Role}
    (h : outcome? w task (findRole name absent) s = some (r,t)) :
    t = s.record (.readRole name) := by
  unfold findRole at h
  rw [outcome?_ask_bind,answer_readRole,Option.bind_some,outcome?_orFail_bind] at h
  cases hfound : fetched (w.storageFault s.world .getRole) (s.store.role? name) with
  | error text =>
    rw [hfound] at h
    cases h
    rfl
  | ok found =>
    rw [hfound] at h
    cases found <;> (cases h; rfl)

theorem deeds_of_resolveRole {r : Except Error String} {asked : List Request}
    (h : outcome? w task (resolveRole name) s = some (r,t))
    (hlog : t.log = asked.reverse ++ s.log) : deeds asked = [] := by
  unfold resolveRole at h
  split at h
  · cases h
    have hnothing : s.log = ([] : List Request).reverse ++ s.log := rfl
    rw [asked_unique (hlog.symm.trans hnothing)]
    rfl
  · rw [outcome?_bind] at h
    obtain ⟨⟨x,u⟩,hfind,hrest⟩ := Option.bind_eq_some_iff.mp h
    have hend : t = s.record (.readRole name) := by
      rw [← outcome?_findRole_some hfind]
      cases x <;> (cases hrest; rfl)
    have hone : t.log = [Request.readRole name].reverse ++ s.log := by
      rw [hend]
      rfl
    rw [asked_unique (hlog.symm.trans hone)]
    rfl

theorem outcome?_forgetClient_some {r : Except Error Bool}
    (h : outcome? w task forgetClient s = some (r,t)) :
    (∃ b, r = .ok b) ∧ t.log =
      .leave .connect :: .forget :: .obtain .connect :: .join .connect .exclusive :: s.log := by
  obtain ⟨u,hu,rfl⟩ := outcome?_holding_some h
  cases hu
  exact ⟨⟨_,rfl⟩,rfl⟩

theorem deeds_of_writeConfig {r : Except Error Unit} {asked : List Request}
    (h : outcome? w task (writeConfig config) s = some (r,t))
    (hlog : t.log = asked.reverse ++ s.log) :
    (r = .ok () ∧ deeds asked = [.store,.forget]) ∨
      ∃ error, r = .error error ∧ ∀ d ∈ deeds asked, d.Calm := by
  unfold writeConfig at h
  cases hgap : config.gap? with
  | some gap =>
    rw [hgap] at h
    cases h
    have hnothing : s.log = ([] : List Request).reverse ++ s.log := rfl
    rw [asked_unique (hlog.symm.trans hnothing)]
    exact .inr ⟨_,rfl,by simp⟩
  | none =>
    rw [hgap] at h
    obtain ⟨u,hu,rfl⟩ := outcome?_holding_some h
    rw [outcome?_ask_bind] at hu
    obtain ⟨⟨stored,v⟩,hstore,hrest⟩ := Option.bind_eq_some_iff.mp hu
    have hv := log_of_answer hstore
    rw [outcome?_orFail_bind] at hrest
    cases stored with
    | error text =>
      cases hrest
      have hasked : (v.left .config task).log = [Request.join .config .exclusive,.obtain .config,
          .storeConfig config,.leave .config].reverse ++ s.log := by
        rw [State.left_log,hv,State.queued_log]
        rfl
      rw [asked_unique (hlog.symm.trans hasked)]
      exact .inr ⟨_,rfl,by simp [Request.deed?,Deed.Calm]⟩
    | ok _ =>
      rw [outcome?_bind] at hrest
      obtain ⟨⟨x,v'⟩,hforget,hend⟩ := Option.bind_eq_some_iff.mp hrest
      obtain ⟨⟨b,rfl⟩,hv'⟩ := outcome?_forgetClient_some hforget
      cases hend
      have hasked : (u.left .config task).log = [Request.join .config .exclusive,.obtain .config,
          .storeConfig config,.join .connect .exclusive,.obtain .connect,.forget,.leave .connect,
          .leave .config].reverse ++ s.log := by
        rw [State.left_log,hv',hv,State.queued_log]
        rfl
      rw [asked_unique (hlog.symm.trans hasked)]
      exact .inl ⟨rfl,rfl⟩

namespace CacheDiscipline
variable {e : Episode σ}

/-- An operation that does not go to the platform makes no attempt. -/
theorem of_calm (hop : ¬ e.operation.Arrives w e.before) (hno : ¬ e.operation.Distrusts w e.before)
    (hattempts : attempts (deeds e.asked) = [])
    (hlogin : ∀ request connection, e.operation ≠ .login request connection)
    (hresets : e.operation.Replaces e.failure → e.after.cache = .absent)
    (hrests : ¬ e.operation.Replaces e.failure → e.after.cache = e.before.cache) :
    CacheDiscipline w e where
  connects harrives := absurd harrives hop
  spares _ := hattempts
  succeeds settings hs := by simp [hattempts] at hs
  fails settings hs := by simp [hattempts] at hs
  taints _ _ _ hdistrusts := absurd hdistrusts hno
  forgives request connection h := absurd h (hlogin request connection)
  resets := hresets
  rests _ _ := hrests

/-- A visit to the platform keeps the discipline. -/
theorem of_visit (hvisit : Visit w e.before (e.operation.Arrives w e.before) (deeds e.asked))
    (hcache : e.after.cache = cacheAfter (deeds e.asked) e.before.cache)
    (hno : ¬ e.operation.Distrusts w e.before) (hreplaces : ¬ e.operation.Replaces e.failure) :
    CacheDiscipline w e where
  connects := hvisit.attempts_eq
  spares := hvisit.attempts_eq_nil
  succeeds settings hs client world hawait := by
    refine ⟨hvisit.keeps hs hawait,fun _ => ?_⟩
    rw [hcache]
    exact hvisit.cacheAfter_of_obtains (hvisit.of_attempt hs).1
      (hvisit.obtains_of_attempt hs hawait)
  fails settings hs error world hawait := by
    rw [hcache,hvisit.cacheAfter_failed hs hawait]
  taints _ _ _ hdistrusts := absurd hdistrusts hno
  forgives request connection _ htainted := by
    have hnever : ¬ (e.operation.Arrives w e.before ∧ ∃ client, Obtains w e.before client) := by
      rintro ⟨harrives,client,hobtains⟩
      rw [hcache,hvisit.cacheAfter_of_obtains harrives hobtains] at htainted
      cases htainted
    refine ⟨?_,hnever⟩
    rw [hcache,hvisit.cacheAfter_unchanged fun settings hs client world hawait =>
      hnever ⟨(hvisit.of_attempt hs).1,client,hvisit.obtains_of_attempt hs hawait⟩] at htainted
    exact htainted
  resets h := absurd h hreplaces
  rests hfailed _ _ := by rw [hcache,hvisit.cacheAfter_unchanged hfailed]

/-- So does a renewal whose cross-check fails: its visit came by the client that is tainted. -/
theorem of_distrust {c : Credential} {connection : Option Connection}
    {before after : List RenewalGate} {g : CrossGate} {error : Error} {client : ClientId}
    (hop : e.operation = .renew c connection) (hdistrusts : e.operation.Distrusts w e.before)
    (hsplit : RenewalGate.order = before ++ .crossCheck g :: after)
    (hg : (RenewalGate.crossCheck g).Refuses w e.before c connection error)
    (hfailure : e.failure = some error) (hobtains : Obtains w e.before client)
    (hvisit : Visit w e.before (e.operation.Arrives w e.before)
      ((before ++ [RenewalGate.crossCheck g]).flatMap (RenewalGate.does w e.before)))
    (hdone : deeds e.asked = (before ++ [RenewalGate.crossCheck g]).flatMap
      (RenewalGate.does w e.before) ++ [.taint client])
    (hcache : e.after.cache = cacheAfter (deeds e.asked) e.before.cache) :
    CacheDiscipline w e := by
  have harrives : e.operation.Arrives w e.before := by
    rw [hop] at hdistrusts ⊢
    exact hdistrusts.1
  have hattempts : attempts (deeds e.asked) = attempts
      ((before ++ [RenewalGate.crossCheck g]).flatMap (RenewalGate.does w e.before)) := by
    rw [hdone,attempts_append]
    exact List.append_nil _
  have htainted : e.after.cache = .tainted := by
    rw [hcache,hdone,cacheAfter_append,hvisit.cacheAfter_of_obtains harrives hobtains]
    simp [cacheAfter,Deed.cacheAfter,Cache.taint]
  exact {
    connects := by
      rw [hattempts]
      exact hvisit.attempts_eq
    spares := by
      rw [hattempts]
      exact hvisit.attempts_eq_nil
    succeeds := by
      rw [hattempts]
      intro settings hs found world hawait
      refine ⟨?_,absurd hdistrusts⟩
      rw [hdone]
      exact (hvisit.keeps hs hawait).trans (List.prefix_append ..).isInfix
    fails := by
      rw [hattempts]
      intro settings hs f world hawait
      obtain ⟨-,hnone,config,hconfig,rfl⟩ := hvisit.of_attempt hs
      obtain ⟨config',reached,hconfig',hreaches⟩ := hobtains
      cases hconfig.symm.trans hconfig'
      exact absurd ⟨hnone,world,hawait⟩ hreaches.not_unreachable
    taints := by
      intro c' connection' hop' _
      cases hop.symm.trans hop'
      exact ⟨htainted,before,g,after,error,client,hsplit,hg,hfailure,hdone⟩
    forgives := by
      intro request connection' hlogin
      cases hop.symm.trans hlogin
    resets := by
      rw [hop]
      exact False.elim
    rests := fun _ hno => absurd hdistrusts hno }

/-- Whatever happens keeps the discipline. -/
theorem of_happens (h : e.Happens w) : CacheDiscipline w e := by
  obtain ⟨operation,before,asked,failure,after⟩ := e
  obtain ⟨hends,hlog⟩ := h
  have hedit : ∀ store, after = { before with store := store } →
      asked = [] ∧ after.cache = before.cache := by
    rintro store rfl
    have hnothing : before.log = ([] : List Request).reverse ++ before.log := rfl
    exact ⟨asked_unique (hlog.symm.trans hnothing),rfl⟩
  cases operation with
  | login request connection =>
    obtain ⟨r,hrun,-⟩ := Returns.outcome hends
    obtain ⟨asked',hlog',hjudged⟩ := judges_login r after hrun
    obtain rfl := asked_unique (hlog.symm.trans hlog')
    exact of_visit (visit_of_login hjudged) (cache_of_log hrun hlog) id id
  | renew c connection =>
    obtain ⟨r,hrun,hfailure⟩ := Returns.outcome hends
    obtain ⟨asked',hlog',hjudged⟩ := judges_renew r after hrun
    obtain rfl := asked_unique (hlog.symm.trans hlog')
    have hcache := cache_of_log hrun hlog
    rcases visit_of_renew hjudged with ⟨hno,hvisit⟩ |
      ⟨hfails,front,g,back,error,client,hsplit,hg,rfl,hobtains,hvisit,hdone⟩
    · exact of_visit hvisit hcache hno id
    · exact of_distrust rfl hfails hsplit hg hfailure hobtains hvisit hdone hcache
  | resolveRole name =>
    obtain ⟨r,hrun,-⟩ := Returns.outcome hends
    have hnone := deeds_of_resolveRole hrun hlog
    have hcache := cache_of_log hrun hlog
    rw [hnone] at hcache
    exact of_calm id id (by simp only [hnone]; rfl) nofun False.elim fun _ => hcache
  | writeConfig config =>
    obtain ⟨r,hrun,rfl⟩ := Returns.outcome hends
    have hcache := cache_of_log hrun hlog
    rcases deeds_of_writeConfig hrun hlog with ⟨rfl,hdone⟩ | ⟨error,rfl,hcalm⟩
    · rw [hdone] at hcache
      exact of_calm id id (by simp only [hdone]; rfl) nofun (fun _ => hcache) fun h => absurd rfl h
    · rw [cacheAfter_calm hcalm] at hcache
      exact of_calm id id (attempts_calm hcalm) nofun nofun fun _ => hcache
  | putRole name role | deleteRole name | setConfig config =>
    obtain ⟨-,hafter⟩ := hends
    obtain ⟨rfl,hcache⟩ := hedit _ hafter
    exact of_calm id id rfl nofun False.elim fun _ => hcache

end CacheDiscipline

/-- In every sequence of calls and edits, each keeps to the discipline of the cache. -/
theorem sequence_keeps_discipline {es : List (Episode σ)} (h : Sequence w s es) :
    ∀ e ∈ es, CacheDiscipline w e := by
  induction h with
  | nil => simp
  | cons world _ he _ ih =>
    intro e' he'
    rcases List.mem_cons.mp he' with rfl | he'
    · exact .of_happens he
    · exact ih e' he'

theorem sequence_keeps_discipline_sample :
    ∃ first second, Sequence Script.world sampleState [first,second] ∧
      first.operation = .setConfig (some {}) ∧
      second.operation = .renew sampleCredential none ∧
      CacheDiscipline Script.world first ∧ CacheDiscipline Script.world second ∧
      first.after.cache = .absent ∧ second.after.cache = .tainted := by
  let refused := (Schedule.alone Script.world (renew sampleCredential none).run sampleState).2
  have hrefused : Schedule.alone Script.world (renew sampleCredential none).run sampleState =
    (some (.error (.rejected .address)),refused) := Prod.ext (by rfl) rfl
  obtain ⟨asked,hasked,-⟩ := exists_asked (settle_of_alone hrefused)
  let first : Episode Script := ⟨.setConfig (some {}),sampleState,[],none,sampleState⟩
  let second : Episode Script :=
    ⟨.renew sampleCredential none,sampleState,asked,some (.rejected .address),refused⟩
  have hsequence : Sequence Script.world sampleState [first,second] :=
    .cons sampleScript rfl ⟨⟨rfl,rfl⟩,rfl⟩
      (.cons sampleScript rfl ⟨⟨_,hrefused,rfl⟩,hasked⟩ .nil)
  have hkept := sequence_keeps_discipline hsequence
  exact ⟨first,second,hsequence,rfl,rfl,hkept first (by simp),hkept second (by simp),rfl,by rfl⟩

end WorkloadLogin.Service
