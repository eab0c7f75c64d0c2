import WorkloadLogin.Proofs.Service.CrossGates
import WorkloadLogin.Proofs.Service.Progress
import WorkloadLogin.Proofs.Service.Renewal

/-! # What renewals decide

A renewal asks for a configuration, for a credential without gaps, for the role that the credential
names, for a client, and for a cross-check that finds nothing to object to. With all of them it
changes the lifetimes of the credential and nothing else; otherwise the first that is missing says
how it fails.
-/
namespace WorkloadLogin.Service
variable {σ α β : Type} {w : World σ} {task : TaskId} {s t u : State σ} {c c' : Credential}
  {connection : Option Connection} {client : ClientId} {role : Role} {config : Config}
  {reached : σ} {e : Error} {field : RenewalIdentity.Field}

/-- What a credential records of the login that issued it. -/
def fieldOf (c : Credential) : RenewalIdentity.Field → String
  | .role => c.internalData.role
  | .instanceId => c.internalData.instanceId
  | .ipAddress => c.internalData.ipAddress
  | .orgId => c.appAlias.metadata.orgId
  | .appId => c.appAlias.metadata.appId
  | .spaceId => c.appAlias.metadata.spaceId

def recorded (c : Credential) : Identity where
  instanceId := c.internalData.instanceId
  orgId := c.appAlias.metadata.orgId
  spaceId := c.appAlias.metadata.spaceId
  appId := c.appAlias.metadata.appId
  ipAddress := c.internalData.ipAddress

theorem ofCredential_ok {renewal : RenewalIdentity}
    (h : RenewalIdentity.ofCredential c = .ok renewal) :
    (∀ field, fieldOf c field ≠ "") ∧ renewal = ⟨c.internalData.role,recorded c⟩ := by
  obtain ⟨hrole,hinstance,hip,horg,happ,hspace,rfl⟩ := ofCredential_ok_iff.mp h
  refine ⟨?_,rfl⟩
  intro field
  cases field <;> assumption

/-- The client that a task by itself comes by, if it does. -/
def clientAt? (w : World σ) (settings : Platform.Settings) (cache : Cache) (before : σ) :
    Option ClientId :=
  match cache.client?,w.awaitConnect (w.startConnect settings before) with
  | some client,_ => some client
  | none,some (.ok client,_) => some client
  | none,_ => none

theorem Reaches.clientAt? {settings : Platform.Settings} {cache : Cache} {before : σ}
    (h : Reaches w settings cache before client reached) :
    clientAt? w settings cache before = some client := by
  cases h with
  | cached h => simp [Service.clientAt?,h,Cache.client?]
  | connected h hc => simp [Service.clientAt?,h,hc]

/-- A renewal has come as far as the platform, with this role and client. -/
structure Resumed (w : World σ) (s : State σ) (c : Credential) (role : Role) (client : ClientId)
    (reached : σ) : Prop where
  stored : s.store.role? c.internalData.role = some role
  reaches : ∃ config, s.store.config = some config ∧
    Reaches w config.platformSettings s.cache s.world client reached

theorem Resumed.unique {role' : Role} {client' : ClientId} {reached' : σ}
    (h : Resumed w s c role client reached) (h' : Resumed w s c role' client' reached') :
    role = role' ∧ client = client' ∧ reached = reached' := by
  obtain ⟨hrole,config,hconfig,hreach⟩ := h
  obtain ⟨hrole',config',hconfig',hreach'⟩ := h'
  cases hrole.symm.trans hrole'
  cases hconfig.symm.trans hconfig'
  obtain ⟨rfl,rfl⟩ := hreach.unique hreach'
  exact ⟨rfl,rfl,rfl⟩

/-! ## The gates -/

inductive RenewalGate where
  | configStorage
  | config
  | field (f : RenewalIdentity.Field)
  | roleStorage
  | role
  | connection
  | crossCheck (g : CrossGate)
  deriving DecidableEq

namespace RenewalGate

/-- The gates before the platform. -/
def early : List RenewalGate :=
  [.configStorage,.config,.field .role,.field .instanceId,.field .ipAddress,.field .orgId,
    .field .appId,.field .spaceId,.roleStorage,.role]

/-- The gates behind the connection. -/
def late : List RenewalGate := CrossGate.order.map crossCheck

def order : List RenewalGate := early ++ .connection :: late

def does (w : World σ) (s : State σ) : RenewalGate → List Deed
  | .connection =>
    match s.store.config with
    | some config => connecting w config.platformSettings s.cache s.world
    | none => []
  | .crossCheck g => g.does
  | _ => []

/-- What is done when the gate refuses: the client is not used again after a cross-check. -/
def amends (w : World σ) (s : State σ) : RenewalGate → List Deed
  | .crossCheck _ =>
    match s.store.config with
    | some config =>
      ((clientAt? w config.platformSettings s.cache s.world).map Deed.taint).toList
    | none => []
  | _ => []

/-- The gate refuses a renewal in the state `s` whose earlier gates have let it pass. -/
inductive Refuses (w : World σ) (s : State σ) (c : Credential) (connection : Option Connection) :
    RenewalGate → Error → Prop
  | configStorage {text : String} (h : w.storageFault s.world .getConfig = some text) :
      Refuses w s c connection .configStorage (.storage text)
  | config (h : s.store.config = none) :
      Refuses w s c connection .config (.notConfigured .reachingPlatform)
  | field {f : RenewalIdentity.Field} (h : fieldOf c f = "") :
      Refuses w s c connection (.field f) (.corruptCredential f)
  | roleStorage {text : String} (h : w.storageFault s.world .getRole = some text) :
      Refuses w s c connection .roleStorage (.storage text)
  | role (h : s.store.role? c.internalData.role = none) :
      Refuses w s c connection .role .roleGone
  | connection {config : Config} {f : Platform.Error} (hc : s.store.config = some config)
      (h : Unreachable w config.platformSettings s.cache s.world f) :
      Refuses w s c connection .connection (.platform f)
  | crossCheck {g : CrossGate} {role : Role} {client : ClientId} {reached : σ} {r : Rejection}
      (hr : Resumed w s c role client reached)
      (h : g.Refuses w client role (recorded c) connection reached r) :
      Refuses w s c connection (.crossCheck g) (.rejected r)

theorem Refuses.unique {g : RenewalGate} {e' : Error} (h : g.Refuses w s c connection e)
    (h' : g.Refuses w s c connection e') : e' = e := by
  cases h with
  | configStorage h =>
    cases h' with
    | configStorage h' => cases h.symm.trans h'; rfl
  | roleStorage h =>
    cases h' with
    | roleStorage h' => cases h.symm.trans h'; rfl
  | connection hc h =>
    cases h' with
    | connection hc' h' =>
      cases hc.symm.trans hc'
      rw [h.unique h']
  | crossCheck hr h =>
    cases h' with
    | crossCheck hr' h' =>
      obtain ⟨rfl,rfl,rfl⟩ := hr.unique hr'
      rw [h.unique h']
  | _ => cases h'; rfl

theorem configStorage_refuses_iff : Refuses w s c connection .configStorage e ↔
    ∃ text, w.storageFault s.world .getConfig = some text ∧ e = .storage text := by
  constructor
  · intro h
    cases h with
    | configStorage h => exact ⟨_,h,rfl⟩
  · rintro ⟨text,h,rfl⟩
    exact .configStorage h

theorem config_refuses_iff : Refuses w s c connection .config e ↔
    s.store.config = none ∧ e = .notConfigured .reachingPlatform := by
  constructor
  · intro h
    cases h with
    | config h => exact ⟨h,rfl⟩
  · rintro ⟨h,rfl⟩
    exact .config h

theorem field_refuses_iff : Refuses w s c connection (.field field) e ↔
    (RenewalIdentity.required field (fieldOf c field)).mapError Error.corruptCredential =
      .error e := by
  unfold RenewalIdentity.required
  constructor
  · intro h
    cases h with
    | field h => simp [h]
  · intro h
    split at h
    · rename_i hempty
      cases h
      exact .field (String.isEmpty_iff.mp hempty)
    · cases h

theorem roleStorage_refuses_iff : Refuses w s c connection .roleStorage e ↔
    ∃ text, w.storageFault s.world .getRole = some text ∧ e = .storage text := by
  constructor
  · intro h
    cases h with
    | roleStorage h => exact ⟨_,h,rfl⟩
  · rintro ⟨text,h,rfl⟩
    exact .roleStorage h

theorem role_refuses_iff : Refuses w s c connection .role e ↔
    s.store.role? c.internalData.role = none ∧ e = .roleGone := by
  constructor
  · intro h
    cases h with
    | role h => exact ⟨h,rfl⟩
  · rintro ⟨h,rfl⟩
    exact .role h

theorem connection_refuses_iff (hc : s.store.config = some config) :
    Refuses w s c connection .connection e ↔
      ∃ f, Unreachable w config.platformSettings s.cache s.world f ∧ e = .platform f := by
  constructor
  · intro h
    cases h with
    | connection hc' h =>
      cases hc.symm.trans hc'
      exact ⟨_,h,rfl⟩
  · rintro ⟨f,h,rfl⟩
    exact .connection hc h

theorem crossCheck_refuses_iff {g : CrossGate} (hr : Resumed w s c role client reached) :
    Refuses w s c connection (.crossCheck g) e ↔
      g.Objects w client role (recorded c) connection reached e := by
  constructor
  · intro h
    cases h with
    | crossCheck hr' h =>
      obtain ⟨rfl,rfl,rfl⟩ := hr.unique hr'
      exact ⟨_,h,rfl⟩
  · rintro ⟨r,h,rfl⟩
    exact .crossCheck hr h

/-- The fields of a credential, gate by gate. -/
theorem judged_ofCredential :
    Judged (Refuses w s c connection) (does w s) (amends w s)
      [.field .role,.field .instanceId,.field .ipAddress,.field .orgId,.field .appId,
        .field .spaceId]
      ((RenewalIdentity.ofCredential c).mapError Error.corruptCredential) [] := by
  have hfield : ∀ f, Judged (Refuses w s c connection) (does w s) (amends w s) [.field f]
      ((RenewalIdentity.required f (fieldOf c f)).mapError Error.corruptCredential) [] :=
    fun _ => .look (fun _ => field_refuses_iff) rfl rfl
  unfold RenewalIdentity.ofCredential
  simp only [mapError_bind]
  refine (hfield .role).bind fun _ _ => ?_
  refine (hfield .instanceId).bind fun _ _ => ?_
  refine (hfield .ipAddress).bind fun _ _ => ?_
  refine (hfield .orgId).bind fun _ _ => ?_
  refine (hfield .appId).bind fun _ _ => ?_
  refine (hfield .spaceId).bind fun _ _ => ?_
  exact .passed _

end RenewalGate

/-! ## The gates decide the renewal -/

/-- The part of a renewal behind its early gates. -/
theorem judges_recheck (hr : Resumed w s c role client reached) (hu : u.world = reached) :
    Judges w task (RenewalGate.Refuses w s c connection) (RenewalGate.does w s)
      (RenewalGate.amends w s) RenewalGate.late (do
        tryCatch (crossCheck client role (recorded c) connection) fun e => do
          let _ ← ask (.taint client)
          throw e
        return { c with token := role.refresh c.token }) u := by
  subst hu
  have hcross : Judges w task (RenewalGate.Refuses w s c connection) (RenewalGate.does w s)
      (fun _ => []) RenewalGate.late (crossCheck client role (recorded c) connection) u := by
    intro r t h
    obtain ⟨asked,hlog,hjudged⟩ := judges_crossCheck r t h
    exact ⟨asked,hlog,hjudged.map RenewalGate.crossCheck
      (fun _ _ => RenewalGate.crossCheck_refuses_iff hr) (fun _ => rfl) (fun _ => rfl)⟩
  have hamends : ∀ g ∈ RenewalGate.late, RenewalGate.amends w s g = deeds [.taint client] := by
    intro g hg
    obtain ⟨x,-,rfl⟩ := List.mem_map.mp hg
    obtain ⟨-,config,hconfig,hreach⟩ := hr
    simp only [RenewalGate.amends,hconfig,hreach.clientAt?]
    rfl
  have hend := (hcross.tryCatch hamends).bind fun _ _ _ =>
    judges_pure { c with token := role.refresh c.token }
  simpa only [List.append_nil] using hend

/-- The part of a renewal under the configuration lock. -/
def extension (c : Credential) (connection : Option Connection) : Action Credential := do
  let config ← findConfig .reachingPlatform
  let renewal ← orFail .corruptCredential (RenewalIdentity.ofCredential c)
  let role ← findRole renewal.role .roleGone
  let client ← getOrConnect config.platformSettings
  tryCatch (crossCheck client role renewal.identity connection) fun e => do
    let _ ← ask (.taint client)
    throw e
  return { c with token := role.refresh c.token }

theorem renew_eq (c : Credential) (connection : Option Connection) :
    renew c connection = holding .config .shared (extension c connection) := rfl

theorem judges_extension (hu : s.Same u) :
    Judges w task (RenewalGate.Refuses w s c connection) (RenewalGate.does w s)
      (RenewalGate.amends w s) RenewalGate.order (extension c connection) u := by
  have horder : RenewalGate.order = ([.configStorage,.config] ++ ([.field .role,
    .field .instanceId,.field .ipAddress,.field .orgId,.field .appId,.field .spaceId] ++
    ([.roleStorage,.role] ++ ([.connection] ++ RenewalGate.late))) : List RenewalGate) := rfl
  rw [horder]
  have hfindConfig : Judges w task (RenewalGate.Refuses w s c connection)
      (RenewalGate.does w s) (RenewalGate.amends w s) [.configStorage,.config]
      (findConfig .reachingPlatform) u := by
    refine judges_findConfig ?_ ?_ rfl rfl rfl rfl
    · rw [hu.world]
      exact fun _ => RenewalGate.configStorage_refuses_iff
    · rw [hu.store]
      exact fun _ => RenewalGate.config_refuses_iff
  refine hfindConfig.bind fun config v hconfig => ?_
  obtain ⟨-,hconfigured,rfl⟩ := stored_of_findConfig hconfig
  rw [hu.store] at hconfigured
  refine (judges_orFail RenewalGate.judged_ofCredential).bind fun renewal v hrenewal => ?_
  obtain ⟨hcredential,rfl⟩ := outcome?_orFail_ok_iff.mp hrenewal
  obtain ⟨-,rfl⟩ := ofCredential_ok hcredential
  have hfindRole : Judges w task (RenewalGate.Refuses w s c connection) (RenewalGate.does w s)
      (RenewalGate.amends w s) [.roleStorage,.role] (findRole c.internalData.role .roleGone)
      (u.record .readConfig) := by
    refine judges_findRole ?_ ?_ rfl rfl rfl rfl
    · rw [State.record_world,hu.world]
      exact fun _ => RenewalGate.roleStorage_refuses_iff
    · change ∀ e, _ ↔ u.store.role? c.internalData.role = none ∧ _
      rw [hu.store]
      exact fun _ => RenewalGate.role_refuses_iff
  refine hfindRole.bind fun role v hrole => ?_
  obtain ⟨-,hstored,rfl⟩ := stored_of_findRole hrole
  change u.store.role? c.internalData.role = some role at hstored
  rw [hu.store] at hstored
  have hreach : Judges w task (RenewalGate.Refuses w s c connection) (RenewalGate.does w s)
      (RenewalGate.amends w s) [.connection] (getOrConnect config.platformSettings)
      ((u.record .readConfig).record (.readRole c.internalData.role)) := by
    refine judges_getOrConnect ?_ ?_ rfl
    · simp only [State.record_cache,State.record_world,hu.cache,hu.world]
      exact fun _ => RenewalGate.connection_refuses_iff hconfigured
    · simp only [State.record_cache,State.record_world,hu.cache,hu.world,RenewalGate.does,
        hconfigured]
  refine hreach.bind fun client v hclient => ?_
  have hreached := reaches_of_getOrConnect hclient
  simp only [State.record_cache,State.record_world,hu.cache,hu.world] at hreached
  exact judges_recheck ⟨hstored,config,hconfigured,hreached⟩ rfl

/-- However a renewal ends by itself, its gates have been tried in order and have decided it. -/
theorem judges_renew :
    Judges w task (RenewalGate.Refuses w s c connection) (RenewalGate.does w s)
      (RenewalGate.amends w s) RenewalGate.order (renew c connection) s := by
  rw [renew_eq]
  exact .holding (judges_extension ⟨rfl,rfl,rfl⟩)

/-! ## Renewals that succeed -/

/-- All that a renewal asks for. -/
structure Renewable (w : World σ) (s : State σ) (c : Credential) (connection : Option Connection)
    (role : Role) : Prop where
  configRead : w.storageFault s.world .getConfig = none
  roleRead : w.storageFault s.world .getRole = none
  complete : ∀ field, fieldOf c field ≠ ""
  stored : s.store.role? c.internalData.role = some role
  corroborated : ∃ config client reached after, s.store.config = some config ∧
    Reaches w config.platformSettings s.cache s.world client reached ∧
    Corroborated w client role (recorded c) connection reached after

theorem outcome?_tryCatch_ok {x : Action α} {handler : Error → Action α} {a : α}
    (h : outcome? w task (tryCatch x handler) s = some (.ok a,t))
    (hh : ∀ e u, outcome? w task (handler e) u ≠ some (.ok a,t)) :
    outcome? w task x s = some (.ok a,t) := by
  change settle w task (x.run >>= _) s = _ at h
  rw [settle_bind] at h
  obtain ⟨⟨first,u⟩,hfirst,hrest⟩ := Option.bind_eq_some_iff.mp h
  cases first with
  | ok b =>
    cases hrest
    exact hfirst
  | error e => exact absurd hrest (hh e u)

theorem renewable_of_renew (h : outcome? w task (renew c connection) s = some (.ok c',t)) :
    ∃ role, Renewable w s c connection role ∧
      c' = { c with token := role.refresh c.token } := by
  rw [renew_eq] at h
  obtain ⟨u,hu,rfl⟩ := outcome?_holding_some h
  unfold extension at hu
  simp only [outcome?_bind_ok_iff] at hu
  obtain ⟨config,_,hconfig,renewal,_,hrenewal,role,_,hrole,client,v,hclient,_,_,hcross,hend⟩ := hu
  obtain ⟨hconfigRead,hconfigured,rfl⟩ := stored_of_findConfig hconfig
  obtain ⟨hcredential,rfl⟩ := outcome?_orFail_ok_iff.mp hrenewal
  obtain ⟨hcomplete,rfl⟩ := ofCredential_ok hcredential
  obtain ⟨hroleRead,hstored,rfl⟩ := stored_of_findRole hrole
  have hreached := reaches_of_getOrConnect hclient
  have hchecked := outcome?_tryCatch_ok hcross fun e v hrethrown => by
    rw [outcome?_ask_bind] at hrethrown
    obtain ⟨_,_,hend⟩ := Option.bind_eq_some_iff.mp hrethrown
    cases hend
  obtain ⟨after,hcorroborated,-⟩ := outcome?_crossCheck_ok_iff.mp hchecked
  cases hend
  exact ⟨role,⟨hconfigRead,hroleRead,hcomplete,hstored,config,client,v.world,after,hconfigured,
    hreached,hcorroborated⟩,rfl⟩

theorem not_refuses_of_corroborated {identity : Identity} {before after : σ}
    (h : Corroborated w client role identity connection before after) (g : CrossGate)
    (r : Rejection) : ¬ g.Refuses w client role identity connection before r := by
  obtain ⟨hallowed,app,org,space,v,v',happ,horg,hspace,hagrees⟩ := h
  have happ' : (confirming w client identity before .app).1 = .ok app := by
    simp only [confirming,happ]
  have horg' : (confirming w client identity before .org).1 = .ok org := by
    simp only [confirming,happ,horg]
  have hspace' : (confirming w client identity before .space).1 = .ok space := by
    simp only [confirming,happ,horg,hspace]
  intro hg
  cases hg with
  | address hm h =>
    rcases hallowed.address with hoff | ⟨c,hc,hmatch⟩
    · simp [hm] at hoff
    · simp [h c hc] at hmatch
  | @bound id hb h =>
    cases id with
    | instanceId => exact hallowed.instanceId.elim hb h
    | appId => exact hallowed.appId.elim hb h
    | orgId => exact hallowed.orgId.elim hb h
    | spaceId => exact hallowed.spaceId.elim hb h
  | @lookup kind e h =>
    cases kind with
    | app => cases happ'.symm.trans h
    | org => cases horg'.symm.trans h
    | space => cases hspace'.symm.trans h
  | @agreement kind record id value hr hs h =>
    cases kind with
    | app =>
      cases happ'.symm.trans hr
      cases id <;> cases hs
      · exact h hagrees.app_guid
      · exact h hagrees.app_spaceGuid
    | org =>
      cases horg'.symm.trans hr
      cases id <;> cases hs
      exact h hagrees.org_guid
    | space =>
      cases hspace'.symm.trans hr
      cases id <;> cases hs
      · exact h hagrees.space_organizationGuid
      · exact h hagrees.space_guid
  | instances hr h =>
    cases happ'.symm.trans hr
    have hlive := hagrees.app_instances
    omega

/-- No lock is held or waited for. -/
structure State.Idle (s : State σ) : Prop where
  config : s.configQueue = []
  connect : s.connectQueue = []

theorem ends_renew (hs : s.Idle) (h : ∀ config, s.store.config = some config →
      Answered w config.platformSettings s.cache s.world) :
    Ends w task (renew c connection) s := by
  rw [renew_eq]
  refine .holding hs.config ((ends_findConfig _).bind fun config u hconfig => ?_)
  obtain ⟨-,hconfigured,rfl⟩ := stored_of_findConfig hconfig
  refine (ends_orFail ..).bind fun renewal u hrenewal => ?_
  obtain ⟨-,rfl⟩ := outcome?_orFail_ok_iff.mp hrenewal
  refine (ends_findRole ..).bind fun role u hrole => ?_
  obtain ⟨-,-,rfl⟩ := stored_of_findRole hrole
  let found := ((s.entered .config task .shared).record .readConfig).record
    (.readRole renewal.role)
  have hclient : Ends w task (getOrConnect config.platformSettings) found :=
    ends_getOrConnect (s := found) hs.connect (h config hconfigured)
  refine hclient.bind fun client u _ => ?_
  have hcheck : ∀ e v, Ends w task (do
      let _ ← ask (.taint client)
      throw e : Action Unit) v := fun e v => .ask_bind rfl (ends_throw e)
  exact ((ends_crossCheck ..).tryCatch hcheck).bind fun _ _ _ => ends_pure _

theorem not_refuses_of_renewable (h : Renewable w s c connection role) (g : RenewalGate)
    (e : Error) : ¬ g.Refuses w s c connection e := by
  obtain ⟨hconfigRead,hroleRead,hcomplete,hstored,config,client,reached,after,hconfigured,hreach,
    hcorroborated⟩ := h
  intro hg
  cases hg with
  | configStorage h => cases hconfigRead.symm.trans h
  | config h => cases hconfigured.symm.trans h
  | field h => exact hcomplete _ h
  | roleStorage h => cases hroleRead.symm.trans h
  | role h => cases hstored.symm.trans h
  | connection hc h =>
    cases hconfigured.symm.trans hc
    exact hreach.not_unreachable h
  | crossCheck hr h =>
    obtain ⟨rfl,rfl,rfl⟩ := Resumed.unique ⟨hstored,config,hconfigured,hreach⟩ hr
    exact not_refuses_of_corroborated hcorroborated _ _ h

theorem Renewable.answered (h : Renewable w s c connection role) :
    ∀ config, s.store.config = some config →
      Answered w config.platformSettings s.cache s.world := by
  obtain ⟨-,-,-,-,config,client,reached,after,hconfigured,hreach,-⟩ := h
  intro config' hconfig' hnone
  cases hconfigured.symm.trans hconfig'
  cases hreach with
  | cached hfresh => simp [hfresh,Cache.client?] at hnone
  | connected _ hawait => exact ⟨_,hawait⟩

/-- With all that it asks for a renewal succeeds. -/
theorem renew_of_renewable (hs : s.Idle) (h : Renewable w s c connection role) :
    ∃ t, outcome? w task (renew c connection) s =
      some (.ok { c with token := role.refresh c.token },t) := by
  obtain ⟨r,t,hend⟩ : Ends w task (renew c connection) s := ends_renew hs h.answered
  cases r with
  | error e =>
    obtain ⟨asked,-,hjudged⟩ := judges_renew _ _ hend
    obtain ⟨g,_,_,-,-,hg,-⟩ := hjudged.stopsAt
    exact absurd hg (not_refuses_of_renewable h g e)
  | ok c' =>
    obtain ⟨role',h',rfl⟩ := renewable_of_renew hend
    cases h.stored.symm.trans h'.stored
    exact ⟨t,hend⟩

/-- A renewal by itself returns a credential exactly when it has all it asks for, and then only the
lifetimes have changed, to those of the role. When it fails, the first gate that refuses says how.
It has no outcome only while a connection is being made. -/
theorem renew_decides (c : Credential) (connection : Option Connection) (hs : s.Idle) :
    (∀ c', (Schedule.alone w (renew c connection).run s).1 = some (.ok c') ↔
      ∃ role, Renewable w s c connection role ∧
        c' = { c with
          token := { c.token with
            ttl := role.tokenTtl
            maxTtl := role.tokenMaxTtl
            period := role.tokenPeriod } }) ∧
    (∀ e, (Schedule.alone w (renew c connection).run s).1 = some (.error e) →
      ∃ before g after, RenewalGate.order = before ++ g :: after ∧
        (∀ b ∈ before, ∀ e', ¬ b.Refuses w s c connection e') ∧
        ∀ e', g.Refuses w s c connection e' ↔ e' = e) ∧
    ((Schedule.alone w (renew c connection).run s).1 = none →
      ∃ config, s.store.config = some config ∧ s.cache.client? = none ∧
        w.awaitConnect (w.startConnect config.platformSettings s.world) = none) := by
  refine ⟨?_,?_,?_⟩
  · intro c'
    rw [alone_eq_some_iff]
    constructor
    · rintro ⟨t,h⟩
      obtain ⟨role,hrenewable,rfl⟩ := renewable_of_renew h
      exact ⟨role,hrenewable,rfl⟩
    · rintro ⟨role,hrenewable,rfl⟩
      exact renew_of_renewable hs hrenewable
  · intro e h
    obtain ⟨t,ht⟩ := alone_eq_some_iff.mp h
    obtain ⟨asked,-,hjudged⟩ := judges_renew _ _ ht
    obtain ⟨g,before,after,horder,hbefore,hg,-⟩ := hjudged.stopsAt
    refine ⟨before,g,after,horder,hbefore,fun e' => ⟨hg.unique,?_⟩⟩
    rintro rfl
    exact hg
  · intro h
    by_contra hno
    have hanswered : ∀ config, s.store.config = some config →
        Answered w config.platformSettings s.cache s.world := by
      intro config hconfig hnone
      cases hawait : w.awaitConnect (w.startConnect config.platformSettings s.world) with
      | none => exact absurd ⟨config,hconfig,hnone,hawait⟩ hno
      | some ended => exact ⟨ended,rfl⟩
    obtain ⟨r,t,hend⟩ : Ends w 0 (renew c connection) s := ends_renew hs hanswered
    have hsome := alone_eq_some_iff.mpr ⟨t,hend⟩
    rw [h] at hsome
    cases hsome

theorem renew_decides_sample :
    ∃ role, Renewable Script.world sampleState sampleCredential (some ⟨"10.0.0.1"⟩) role ∧
      sampleCredential = { sampleCredential with
        token := { sampleCredential.token with
          ttl := role.tokenTtl
          maxTtl := role.tokenMaxTtl
          period := role.tokenPeriod } } := by
  have hend : (Schedule.alone Script.world (renew sampleCredential (some ⟨"10.0.0.1"⟩)).run
    sampleState).1 = some (.ok sampleCredential) := by rfl
  exact ((renew_decides sampleCredential (some ⟨"10.0.0.1"⟩) ⟨rfl,rfl⟩).1 _).mp hend

end WorkloadLogin.Service
