import WorkloadLogin.Proofs.Service.Corroboration
import WorkloadLogin.Proofs.SigningWindow
import WorkloadLogin.Service.Login

/-! # Which logins are admitted

A login that runs by itself issues a credential exactly when its evidence is complete: one value
for each gate, each checked as the value that the gates before it gave. The credential is made of
the evidence alone.
-/
namespace WorkloadLogin.Service
variable {σ : Type} {w : World σ} {task : TaskId}

/-! ## Stored roles and configurations -/

theorem outcome?_findRole_ok_iff {name : String} {absent : Error} {s t : State σ} {role : Role}
    (hs : w.storageFault s.world .getRole = none) :
    outcome? w task (findRole name absent) s = some (.ok role, t) ↔
      s.store.role? name = some role ∧ t = s.record (.readRole name) := by
  have ha : State.answer w task (.readRole name) s =
      some (.ok (s.store.role? name),s.record (.readRole name)) := by
    simp [State.answer, State.reply, State.stored, hs, State.record]
  unfold findRole
  rw [outcome?_ask_bind, ha, Option.bind_some, outcome?_orFail_bind]
  cases s.store.role? name with
  | none => simp
  | some stored => simp [eq_comm]

theorem outcome?_findConfig_ok_iff {need : ConfigNeed} {s t : State σ} {config : Config}
    (hs : w.storageFault s.world .getConfig = none) :
    outcome? w task (findConfig need) s = some (.ok config, t) ↔
      s.store.config = some config ∧ t = s.record .readConfig := by
  have ha : State.answer w task .readConfig s = some (.ok s.store.config,s.record .readConfig) := by
    simp [State.answer, State.reply, State.stored, hs, State.record]
  unfold findConfig
  rw [outcome?_ask_bind, ha, Option.bind_some, outcome?_orFail_bind]
  cases s.store.config with
  | none => simp
  | some stored => simp [eq_comm]

/-! ## The shared client -/

/-- The client that a task by itself comes by, and the platform's state then: the fresh one, or one
that is connected with the given settings. -/
inductive Reaches (w : World σ) (settings : Platform.Settings) (cache : Cache) (before : σ) :
    ClientId → σ → Prop where
  | cached {client : ClientId} (h : cache = .fresh client) :
      Reaches w settings cache before client before
  | connected {client : ClientId} {after : σ} (h : cache.client? = none)
      (hc : w.awaitConnect (w.startConnect settings before) = some (.ok client, after)) :
      Reaches w settings cache before client after

/-- The state after a connection that delivered `client` and left the platform in `world`. -/
def State.connected (s : State σ) (settings : Platform.Settings) (client : ClientId) (world : σ) :
    State σ :=
  { ((s.record (.startConnect settings)).record .awaitConnect).record (.keep client) with
    cache := .fresh client
    world := world }

theorem outcome?_connect_ok_iff {settings : Platform.Settings} {client : ClientId}
    {s t : State σ} :
    outcome? w task (connect settings) s = some (.ok client, t) ↔
      ∃ after, w.awaitConnect (w.startConnect settings s.world) = some (.ok client, after) ∧
        t = s.connected settings client after := by
  have hstart : State.answer w task (.startConnect settings) s = some ((),
      { s.record (.startConnect settings) with world := w.startConnect settings s.world }) := rfl
  unfold connect
  rw [outcome?_ask_bind, hstart, Option.bind_some, outcome?_ask_bind]
  simp only [State.answer, State.reply]
  cases w.awaitConnect (w.startConnect settings s.world) with
  | none => simp
  | some r =>
    obtain ⟨found,after⟩ := r
    cases found with
    | error e =>
      simp only [Option.map_some, Option.bind_some]
      rw [outcome?_orFail_bind]
      simp
    | ok c =>
      simp only [Option.map_some, Option.bind_some]
      rw [outcome?_orFail_bind]
      change some ((.ok c : Except Error ClientId),
        s.connected settings c after) = _ ↔ _
      constructor
      · rintro ⟨⟩
        exact ⟨after,rfl,rfl⟩
      · rintro ⟨_,⟨⟩,rfl⟩
        rfl

/-- A fresh client is used as it is; otherwise the task holds the connection lock while it looks
again and connects. -/
theorem outcome?_getOrConnect_ok_iff {settings : Platform.Settings} {client : ClientId}
    {s t : State σ} (hq : s.queue .connect = []) :
    outcome? w task (getOrConnect settings) s = some (.ok client, t) ↔
      (s.cache = .fresh client ∧ t = s.record .cached) ∨
      (s.cache.client? = none ∧
        ∃ after, w.awaitConnect (w.startConnect settings s.world) = some (.ok client, after) ∧
          t = ((((s.record .cached).entered .connect task .exclusive).record .cached).connected
            settings client after).left .connect task) := by
  have hcached : ∀ u : State σ,
      State.answer w task .cached u = some (u.cache.client?,u.record .cached) := fun _ => rfl
  unfold getOrConnect
  rw [outcome?_ask_bind, hcached, Option.bind_some]
  cases h : s.cache.client? with
  | some c =>
    have hc := Cache.client?_eq_some_iff.mp h
    simp [hc, eq_comm]
  | none =>
    have hn : s.cache ≠ .fresh client := by
      intro he
      simp [he, Cache.client?] at h
    simp only [hn, false_and, false_or, true_and]
    rw [outcome?_holding_ok_iff (by simpa using hq), outcome?_ask_bind, hcached, Option.bind_some]
    simp only [State.entered_cache, State.record_cache, h]
    constructor
    · rintro ⟨u,hu,rfl⟩
      obtain ⟨after,hafter,rfl⟩ := outcome?_connect_ok_iff.mp hu
      exact ⟨after,by simpa using hafter,rfl⟩
    · rintro ⟨after,hafter,rfl⟩
      exact ⟨_,outcome?_connect_ok_iff.mpr ⟨after,by simpa using hafter,rfl⟩,rfl⟩

theorem reaches_iff {settings : Platform.Settings} {client : ClientId} {s : State σ} {after : σ}
    (hq : s.queue .connect = []) :
    Reaches w settings s.cache s.world client after ↔
      ∃ t, outcome? w task (getOrConnect settings) s = some (.ok client, t) ∧ t.world = after := by
  simp only [outcome?_getOrConnect_ok_iff hq]
  constructor
  · rintro (h | ⟨h,hc⟩)
    · exact ⟨_,.inl ⟨h,rfl⟩,rfl⟩
    · exact ⟨_,.inr ⟨h,after,hc,rfl⟩,rfl⟩
  · rintro ⟨t,⟨h,rfl⟩ | ⟨h,u,hc,rfl⟩,rfl⟩
    · exact .cached h
    · exact .connected h hc

/-! ## The verifier and the names -/

theorem checkPresent_ok_iff {name value : String} :
    checkPresent name value = .ok () ↔ value ≠ "" := by
  unfold checkPresent
  split <;> simp_all

theorem checkNetworks_ok_iff {role : Role} {connection : Option Connection} :
    checkNetworks role connection = .ok () ↔ role.tokenBoundCidrs = [] ∨
      ∃ c ip, connection = some c ∧ Constraint.remoteIp? c.remoteAddress = some ip ∧
        ∃ net ∈ role.tokenBoundCidrs, net.contains ip.canonical = true := by
  unfold checkNetworks Constraint.withinAny
  by_cases hn : role.tokenBoundCidrs = []
  · simp [hn]
  · cases connection with
    | none => simp [hn]
    | some c => cases h : Constraint.remoteIp? c.remoteAddress <;> simp [hn, h]

theorem checkRequest_ok_iff {request : LoginRequest} {t : Instant} :
    checkRequest request = .ok t ↔ request.signature ≠ "" ∧ request.bundle ≠ "" ∧
      request.signingTime ≠ "" ∧ SigningTime.parse? request.signingTime = some t := by
  unfold checkRequest
  rw [bind_unit_ok_iff, bind_unit_ok_iff, bind_unit_ok_iff, checkPresent_ok_iff,
    checkPresent_ok_iff, checkPresent_ok_iff]
  cases SigningTime.parse? request.signingTime <;> simp

/-- The four steps of the verifier, each on what the step before it gave. -/
structure Verified (v : Verifier) (config : Config) (request : LoginRequest) (signedAt : Instant)
    (now : Timestamp) (certs : InstanceCertificates) (signing : Certificate)
    (identity : Identity) : Prop where
  extract : v.extract request.bundle = .ok certs
  signature :
    v.checkSignature request.signature ⟨signedAt,request.bundle,request.role⟩ = .ok signing
  chain : v.checkChain config.identityCaCertificates certs signing now = .ok ()
  identify : v.identify signing = .ok identity

theorem verified_iff {v : Verifier} {config : Config} {request : LoginRequest} {signedAt : Instant}
    {now : Timestamp} {certs : InstanceCertificates} {signing : Certificate} {identity : Identity} :
    Verified v config request signedAt now certs signing identity ↔
      v.extract request.bundle = .ok certs ∧
      v.checkSignature request.signature ⟨signedAt,request.bundle,request.role⟩ = .ok signing ∧
      v.checkChain config.identityCaCertificates certs signing now = .ok () ∧
      v.identify signing = .ok identity :=
  ⟨fun ⟨he,hs,hc,hi⟩ => ⟨he,hs,hc,hi⟩,fun ⟨he,hs,hc,hi⟩ => ⟨he,hs,hc,hi⟩⟩

/-- The state after the four steps of the verifier. -/
def State.verified (s : State σ) (config : Config) (request : LoginRequest) (signedAt : Instant)
    (now : Timestamp) (certs : InstanceCertificates) (signing : Certificate) : State σ :=
  (((s.record (.extract request.bundle)).record
    (.checkSignature request.signature ⟨signedAt,request.bundle,request.role⟩)).record
    (.checkChain config.identityCaCertificates certs signing now)).record (.identify signing)

@[simp] theorem verified_cache (s : State σ) (config : Config) (request : LoginRequest)
    (signedAt : Instant) (now : Timestamp) (certs : InstanceCertificates) (signing : Certificate) :
    (s.verified config request signedAt now certs signing).cache = s.cache := rfl
@[simp] theorem verified_world (s : State σ) (config : Config) (request : LoginRequest)
    (signedAt : Instant) (now : Timestamp) (certs : InstanceCertificates) (signing : Certificate) :
    (s.verified config request signedAt now certs signing).world = s.world := rfl
@[simp] theorem verified_queue (s : State σ) (config : Config) (request : LoginRequest)
    (signedAt : Instant) (now : Timestamp) (certs : InstanceCertificates) (signing : Certificate)
    (lock : Lock) :
    (s.verified config request signedAt now certs signing).queue lock = s.queue lock := by
  cases lock <;> rfl

theorem outcome?_verify_ok_iff {config : Config} {request : LoginRequest} {signedAt : Instant}
    {now : Timestamp} {identity : Identity} {s t : State σ} :
    outcome? w task (verify config request signedAt now) s = some (.ok identity, t) ↔
      ∃ certs signing,
        Verified (w.verifier s.world) config request signedAt now certs signing identity ∧
        t = s.verified config request signedAt now certs signing := by
  have hextract : ∀ u : State σ, outcome? w task (ask (.extract request.bundle)) u =
      some (.ok ((w.verifier u.world).extract request.bundle),
        u.record (.extract request.bundle)) := fun _ => outcome?_ask _ _
  have hsignature : ∀ (signature : String) (data : SignatureData) (u : State σ),
      outcome? w task (ask (.checkSignature signature data)) u =
        some (.ok ((w.verifier u.world).checkSignature signature data),
          u.record (.checkSignature signature data)) := fun _ _ _ => outcome?_ask _ _
  have hchain : ∀ (cas : List String) (certs : InstanceCertificates) (signing : Certificate)
      (u : State σ), outcome? w task (ask (.checkChain cas certs signing now)) u =
        some (.ok ((w.verifier u.world).checkChain cas certs signing now),
          u.record (.checkChain cas certs signing now)) := fun _ _ _ _ => outcome?_ask _ _
  have hidentify : ∀ (signing : Certificate) (u : State σ),
      outcome? w task (ask (.identify signing)) u =
        some (.ok ((w.verifier u.world).identify signing),u.record (.identify signing)) :=
    fun _ _ => outcome?_ask _ _
  unfold verify
  rw [outcome?_consult_ok_iff (hextract s)]
  constructor
  · rintro ⟨certs,hc,h⟩
    rw [outcome?_consult_ok_iff (hsignature _ _ _)] at h
    obtain ⟨signing,hs,h⟩ := h
    rw [outcome?_consult_ok_iff (hchain _ _ _ _)] at h
    obtain ⟨_,hch,h⟩ := h
    rw [outcome?_bind, hidentify, Option.bind_some, outcome?_orFail_ok_iff] at h
    exact ⟨certs,signing,⟨hc,hs,hch,h.1⟩,h.2⟩
  · rintro ⟨certs,signing,hv,rfl⟩
    refine ⟨certs,hv.extract,?_⟩
    rw [outcome?_consult_ok_iff (hsignature _ _ _)]
    refine ⟨signing,hv.signature,?_⟩
    rw [outcome?_consult_ok_iff (hchain _ _ _ _)]
    refine ⟨(),hv.chain,?_⟩
    rw [outcome?_bind, hidentify, Option.bind_some, outcome?_orFail_ok_iff]
    exact ⟨hv.identify,rfl⟩

/-- The platform names the records of an identity, asked for in the order organization,
application, space. -/
structure Named (w : World σ) (client : ClientId) (identity : Identity) (names : PlatformNames)
    (before after : σ) : Prop where
  records : ∃ org app space u v,
    w.lookup client .org identity.orgId before = (.ok org, u) ∧
    w.lookup client .app identity.appId u = (.ok app, v) ∧
    w.lookup client .space identity.spaceId v = (.ok space, after) ∧
    names = ⟨org.name,space.name,app.name⟩

theorem outcome?_lookupNames_ok_iff {client : ClientId} {identity : Identity}
    {names : PlatformNames} {s t : State σ} :
    outcome? w task (lookupNames client identity) s = some (.ok names, t) ↔
      ∃ after, Named w client identity names s.world after ∧
        t = { s with
          log := .lookup client .space identity.spaceId :: .lookup client .app identity.appId ::
            .lookup client .org identity.orgId :: s.log
          world := after } := by
  constructor
  · intro h
    obtain ⟨org,u,ho,h⟩ := outcome?_lookup_bind_ok_iff.mp h
    obtain ⟨app,v,ha,h⟩ := outcome?_lookup_bind_ok_iff.mp h
    obtain ⟨space,after,hs,h⟩ := outcome?_lookup_bind_ok_iff.mp h
    cases h
    exact ⟨after,⟨org,app,space,u,v,ho,ha,hs,rfl⟩,rfl⟩
  · rintro ⟨after,⟨org,app,space,u,v,ho,ha,hs,rfl⟩,rfl⟩
    refine outcome?_lookup_bind_ok_iff.mpr ⟨org,u,ho,?_⟩
    refine outcome?_lookup_bind_ok_iff.mpr ⟨app,v,ha,?_⟩
    exact outcome?_lookup_bind_ok_iff.mpr ⟨space,after,hs,rfl⟩

/-! ## Logins -/

/-- The part of a login under the configuration lock. -/
def admission (request : LoginRequest) (connection : Option Connection) (now : Timestamp)
    (role : Role) (signedAt : Instant) : Action Credential := do
  let config ← findConfig .verifyingCertificates
  orFail (fun v => .rejected (.window v)) (config.signingWindow.check ⟨signedAt,0⟩ now)
  let identity ← verify config request signedAt now
  let client ← getOrConnect config.platformSettings
  crossCheck client role identity connection
  let names ← lookupNames client identity
  return role.populate (identity.toCredential request.role names)

theorem login_eq (request : LoginRequest) (connection : Option Connection) :
    login request connection = (do
      let now ← ask .now
      orFail .rejected (checkPresent "role" request.role)
      let role ← findRole request.role (.rejected .unknownRole)
      orFail id (checkNetworks role connection)
      let signedAt ← orFail .rejected (checkRequest request)
      holding .config .shared (admission request connection now role signedAt)) := rfl

/-- What a login is admitted on once its role is known and its signing time is read. -/
structure Evidence (w : World σ) (s : State σ) (request : LoginRequest)
    (connection : Option Connection) (role : Role) (signedAt : Instant) where
  config : Config
  certs : InstanceCertificates
  signing : Certificate
  identity : Identity
  client : ClientId
  connected : σ
  confirmed : σ
  looked : σ
  names : PlatformNames
  configured : s.store.config = some config
  notBefore : ∀ t ∈ config.signingWindow.earliest? (w.now s.world),
    t.instant.toNanos ≤ signedAt.toNanos
  notAfter : ∀ t ∈ config.signingWindow.latest? (w.now s.world),
    signedAt.toNanos ≤ t.instant.toNanos
  verified : Verified (w.verifier s.world) config request signedAt (w.now s.world) certs signing
    identity
  reached : Reaches w config.platformSettings s.cache s.world client connected
  corroborated : Corroborated w client role identity connection connected confirmed
  named : Named w client identity names confirmed looked

/-- The credential that the evidence stands for. -/
def Evidence.credential {s : State σ} {request : LoginRequest} {connection : Option Connection}
    {role : Role} {signedAt : Instant} (e : Evidence w s request connection role signedAt) :
    Credential where
  internalData := ⟨request.role,e.identity.instanceId,e.identity.ipAddress⟩
  displayName := e.identity.instanceId
  appAlias :=
    { name := e.identity.appId
      metadata :=
        { orgId := e.identity.orgId
          appId := e.identity.appId
          spaceId := e.identity.spaceId
          orgName := e.names.orgName
          appName := e.names.appName
          spaceName := e.names.spaceName } }
  token :=
    { policies := role.tokenPolicies
      ttl := role.tokenTtl
      maxTtl := role.tokenMaxTtl
      period := role.tokenPeriod
      boundCidrs := role.tokenBoundCidrs.map Network.render }

theorem outcome?_admission_ok_iff {request : LoginRequest} {connection : Option Connection}
    {role : Role} {signedAt : Instant} {c : Credential} {s : State σ}
    (hg : w.storageFault s.world .getConfig = none) (hq : s.queue .connect = []) :
    (∃ t, outcome? w task (admission request connection (w.now s.world) role signedAt) s =
      some (.ok c, t)) ↔
      ∃ e : Evidence w s request connection role signedAt, c = e.credential := by
  unfold admission
  constructor
  · rintro ⟨t,h⟩
    simp only [outcome?_bind_ok_iff, outcome?_orFail_ok_iff] at h
    obtain ⟨config,_,h₁,_,_,⟨hw,rfl⟩,identity,_,h₂,client,v,h₃,_,_,h₄,names,_,h₅,hend⟩ := h
    obtain ⟨hbefore,hafter⟩ := SigningWindow.check_ok_iff.mp hw
    obtain ⟨hconfig,rfl⟩ := (outcome?_findConfig_ok_iff hg).mp h₁
    obtain ⟨certs,signing,hverified,rfl⟩ := outcome?_verify_ok_iff.mp h₂
    have hreached := (reaches_iff (by simpa using hq)).mpr ⟨v,h₃,rfl⟩
    obtain ⟨confirmed,hcorroborated,rfl⟩ := outcome?_crossCheck_ok_iff.mp h₄
    obtain ⟨looked,hnamed,rfl⟩ := outcome?_lookupNames_ok_iff.mp h₅
    simp only [State.record_world, State.record_cache, verified_cache, verified_world]
      at hverified hreached
    cases hend
    exact ⟨⟨config,certs,signing,identity,client,v.world,confirmed,looked,names,hconfig,hbefore,
      hafter,hverified,hreached,hcorroborated,hnamed⟩,rfl⟩
  · rintro ⟨e,rfl⟩
    have hconfig : outcome? w task (findConfig .verifyingCertificates) s =
        some (.ok e.config,s.record .readConfig) :=
      (outcome?_findConfig_ok_iff hg).mpr ⟨e.configured,rfl⟩
    have hwindow : outcome? w task (orFail (fun v => .rejected (.window v))
        (e.config.signingWindow.check ⟨signedAt,0⟩ (w.now s.world))) (s.record .readConfig) =
        some (.ok (),s.record .readConfig) :=
      outcome?_orFail_ok_iff.mpr ⟨SigningWindow.check_ok_iff.mpr ⟨e.notBefore,e.notAfter⟩,rfl⟩
    have hverify : outcome? w task (verify e.config request signedAt (w.now s.world))
        (s.record .readConfig) = some (.ok e.identity,(s.record .readConfig).verified e.config
          request signedAt (w.now s.world) e.certs e.signing) :=
      outcome?_verify_ok_iff.mpr ⟨_,_,e.verified,rfl⟩
    let u := (s.record .readConfig).verified e.config request signedAt (w.now s.world) e.certs
      e.signing
    obtain ⟨v,hclient,hv⟩ : ∃ v, outcome? w task (getOrConnect e.config.platformSettings) u =
        some (.ok e.client, v) ∧ v.world = e.connected :=
      (reaches_iff (by simpa [u] using hq)).mp e.reached
    let confirmed : State σ := { v with
      log := .lookup e.client .space e.identity.spaceId :: .lookup e.client .org e.identity.orgId ::
        .lookup e.client .app e.identity.appId :: v.log
      world := e.confirmed }
    have hcross : outcome? w task (crossCheck e.client role e.identity connection) v =
        some (.ok (), confirmed) :=
      outcome?_crossCheck_ok_iff.mpr ⟨_,hv ▸ e.corroborated,rfl⟩
    obtain ⟨looked,hnames⟩ : ∃ looked, outcome? w task (lookupNames e.client e.identity) confirmed =
        some (.ok e.names, looked) :=
      ⟨_,outcome?_lookupNames_ok_iff.mpr ⟨_,e.named,rfl⟩⟩
    rw [outcome?_bind_of_ok hconfig, outcome?_bind_of_ok hwindow, outcome?_bind_of_ok hverify,
      outcome?_bind_of_ok hclient, outcome?_bind_of_ok hcross, outcome?_bind_of_ok hnames]
    exact ⟨_,rfl⟩

end WorkloadLogin.Service
