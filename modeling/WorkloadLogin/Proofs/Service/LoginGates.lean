import WorkloadLogin.Proofs.Service.CrossGates
import WorkloadLogin.Proofs.Service.LoginSpec

/-! # Why logins fail

A login fails as the first of its gates that refuses, whatever is wrong with it besides. What later
gates would do has not been done then, and the stores are as they were.
-/
namespace WorkloadLogin.Service
variable {σ α : Type} {w : World σ} {task : TaskId} {s t u : State σ} {request : LoginRequest}
  {connection : Option Connection} {client : ClientId} {role : Role} {identity : Identity}
  {config : Config} {signedAt : Instant} {reached : σ} {e : Error}

/-- The lookups that fetch the names, each made where the one before it ended. -/
def naming (w : World σ) (client : ClientId) (identity : Identity) (before : σ) :
    (kind : Platform.Kind) → Platform.Found kind × σ
  | .org => w.lookup client .org identity.orgId before
  | .app =>
    w.lookup client .app identity.appId (w.lookup client .org identity.orgId before).2
  | .space =>
    w.lookup client .space identity.spaceId
      (w.lookup client .app identity.appId (w.lookup client .org identity.orgId before).2).2

/-- A login has come as far as the platform, with these for its role, identity and client. -/
structure Introduced (w : World σ) (s : State σ) (request : LoginRequest) (role : Role)
    (identity : Identity) (client : ClientId) (reached : σ) : Prop where
  stored : s.store.role? request.role = some role
  verified : ∃ config signedAt certs signing, s.store.config = some config ∧
    SigningTime.parse? request.signingTime = some signedAt ∧
    Verified (w.verifier s.world) config request signedAt (w.now s.world) certs signing identity ∧
    Reaches w config.platformSettings s.cache s.world client reached

theorem Introduced.unique {role' : Role} {identity' : Identity} {client' : ClientId} {reached' : σ}
    (h : Introduced w s request role identity client reached)
    (h' : Introduced w s request role' identity' client' reached') :
    role = role' ∧ identity = identity' ∧ client = client' ∧ reached = reached' := by
  obtain ⟨hrole,config,signedAt,certs,signing,hconfig,htime,hv,hreach⟩ := h
  obtain ⟨hrole',config',signedAt',certs',signing',hconfig',htime',hv',hreach'⟩ := h'
  cases hrole.symm.trans hrole'
  cases hconfig.symm.trans hconfig'
  cases htime.symm.trans htime'
  cases hv.extract.symm.trans hv'.extract
  cases hv.signature.symm.trans hv'.signature
  cases hv.identify.symm.trans hv'.identify
  obtain ⟨rfl,rfl⟩ := hreach.unique hreach'
  exact ⟨rfl,rfl,rfl,rfl⟩

/-! ## The gates -/

inductive LoginGate where
  | roleName
  | roleStorage
  | role
  | networks
  | signaturePresent
  | bundlePresent
  | signingTimePresent
  | signingTime
  | configStorage
  | config
  | window
  | extraction
  | signature
  | chain
  | identity
  | connection
  | crossCheck (g : CrossGate)
  | name (kind : Platform.Kind)
  deriving DecidableEq

namespace LoginGate

/-- The gates before the platform. -/
def early : List LoginGate :=
  [.roleName,.roleStorage,.role,.networks,.signaturePresent,.bundlePresent,.signingTimePresent,
    .signingTime,.configStorage,.config,.window,.extraction,.signature,.chain,.identity]

/-- The gates behind the connection. -/
def late : List LoginGate :=
  CrossGate.order.map crossCheck ++ [.name .org,.name .app,.name .space]

def order : List LoginGate := early ++ .connection :: late

/-- A failure at the gate says nothing of the caller. -/
def IsFault : LoginGate → Prop
  | .roleStorage | .configStorage | .config | .identity | .connection | .name _ => True
  | _ => False

def does (w : World σ) (s : State σ) : LoginGate → List Deed
  | .extraction => [.extract]
  | .signature => [.checkSignature]
  | .chain => [.checkChain]
  | .identity => [.identify]
  | .connection =>
    match s.store.config with
    | some config => connecting w config.platformSettings s.cache s.world
    | none => []
  | .crossCheck g => g.does
  | .name kind => [.lookup kind]
  | _ => []

/-- The gate refuses a login in the state `s` whose earlier gates have let it pass. -/
inductive Refuses (w : World σ) (s : State σ) (request : LoginRequest)
    (connection : Option Connection) : LoginGate → Error → Prop
  | roleName (h : request.role = "") :
      Refuses w s request connection .roleName (.rejected (.missingField "role"))
  | roleStorage {text : String} (h : w.storageFault s.world .getRole = some text) :
      Refuses w s request connection .roleStorage (.storage text)
  | role (h : s.store.role? request.role = none) :
      Refuses w s request connection .role (.rejected .unknownRole)
  | networks {role : Role} (hr : s.store.role? request.role = some role)
      (hb : role.tokenBoundCidrs ≠ [])
      (h : ∀ c ip, connection = some c → Constraint.remoteIp? c.remoteAddress = some ip →
        ∀ net ∈ role.tokenBoundCidrs, net.contains ip.canonical = false) :
      Refuses w s request connection .networks .permissionDenied
  | signaturePresent (h : request.signature = "") :
      Refuses w s request connection .signaturePresent (.rejected (.missingField "signature"))
  | bundlePresent (h : request.bundle = "") :
      Refuses w s request connection .bundlePresent (.rejected (.missingField "cf_instance_cert"))
  | signingTimePresent (h : request.signingTime = "") :
      Refuses w s request connection .signingTimePresent
        (.rejected (.missingField "signing_time"))
  | signingTime (h : SigningTime.parse? request.signingTime = none) :
      Refuses w s request connection .signingTime (.rejected (.signingTime request.signingTime))
  | configStorage {text : String} (h : w.storageFault s.world .getConfig = some text) :
      Refuses w s request connection .configStorage (.storage text)
  | config (h : s.store.config = none) :
      Refuses w s request connection .config (.notConfigured .verifyingCertificates)
  | window {config : Config} {signedAt : Instant} {v : SigningWindow.Violation}
      (hc : s.store.config = some config)
      (ht : SigningTime.parse? request.signingTime = some signedAt)
      (h : config.signingWindow.check ⟨signedAt,0⟩ (w.now s.world) = .error v) :
      Refuses w s request connection .window (.rejected (.window v))
  | extraction {f : Verifier.Fault} (h : (w.verifier s.world).extract request.bundle = .error f) :
      Refuses w s request connection .extraction (.rejected (.verification f))
  | signature {signedAt : Instant} {f : Verifier.Fault}
      (ht : SigningTime.parse? request.signingTime = some signedAt)
      (h : (w.verifier s.world).checkSignature request.signature
        ⟨signedAt,request.bundle,request.role⟩ = .error f) :
      Refuses w s request connection .signature (.rejected (.verification f))
  | chain {config : Config} {signedAt : Instant} {certs : InstanceCertificates}
      {signing : Certificate} {f : Verifier.Fault} (hc : s.store.config = some config)
      (ht : SigningTime.parse? request.signingTime = some signedAt)
      (he : (w.verifier s.world).extract request.bundle = .ok certs)
      (hs : (w.verifier s.world).checkSignature request.signature
        ⟨signedAt,request.bundle,request.role⟩ = .ok signing)
      (h : (w.verifier s.world).checkChain config.identityCaCertificates certs signing
        (w.now s.world) = .error f) :
      Refuses w s request connection .chain (.rejected (.verification f))
  | identity {signedAt : Instant} {signing : Certificate} {f : Verifier.Fault}
      (ht : SigningTime.parse? request.signingTime = some signedAt)
      (hs : (w.verifier s.world).checkSignature request.signature
        ⟨signedAt,request.bundle,request.role⟩ = .ok signing)
      (h : (w.verifier s.world).identify signing = .error f) :
      Refuses w s request connection .identity (.certificate f.text)
  | connection {config : Config} {f : Platform.Error} (hc : s.store.config = some config)
      (h : Unreachable w config.platformSettings s.cache s.world f) :
      Refuses w s request connection .connection (.platform f)
  | crossCheck {g : CrossGate} {role : Role} {identity : Identity} {client : ClientId}
      {reached : σ} {r : Rejection} (hi : Introduced w s request role identity client reached)
      (h : g.Refuses w client role identity connection reached r) :
      Refuses w s request connection (.crossCheck g) (.rejected r)
  | name {kind : Platform.Kind} {role : Role} {identity : Identity} {client : ClientId}
      {reached : σ} {f : Platform.Error} (hi : Introduced w s request role identity client reached)
      (h : (naming w client identity (confirming w client identity reached .space).2 kind).1 =
        .error f) :
      Refuses w s request connection (.name kind) (.platform f)

theorem Refuses.unique {g : LoginGate} {e' : Error} (h : g.Refuses w s request connection e)
    (h' : g.Refuses w s request connection e') : e' = e := by
  cases h with
  | roleStorage h | configStorage h =>
    cases h' with
    | _ h' => cases h.symm.trans h'; rfl
  | extraction h =>
    cases h' with
    | extraction h' => cases h.symm.trans h'; rfl
  | window hc ht h =>
    cases h' with
    | window hc' ht' h' =>
      cases hc.symm.trans hc'
      cases ht.symm.trans ht'
      cases h.symm.trans h'
      rfl
  | signature ht h =>
    cases h' with
    | signature ht' h' =>
      cases ht.symm.trans ht'
      cases h.symm.trans h'
      rfl
  | chain hc ht he hs h =>
    cases h' with
    | chain hc' ht' he' hs' h' =>
      cases hc.symm.trans hc'
      cases ht.symm.trans ht'
      cases he.symm.trans he'
      cases hs.symm.trans hs'
      cases h.symm.trans h'
      rfl
  | identity ht hs h =>
    cases h' with
    | identity ht' hs' h' =>
      cases ht.symm.trans ht'
      cases hs.symm.trans hs'
      cases h.symm.trans h'
      rfl
  | connection hc h =>
    cases h' with
    | connection hc' h' =>
      cases hc.symm.trans hc'
      rw [h.unique h']
  | crossCheck hi h =>
    cases h' with
    | crossCheck hi' h' =>
      obtain ⟨rfl,rfl,rfl,rfl⟩ := hi.unique hi'
      rw [h.unique h']
  | name hi h =>
    cases h' with
    | name hi' h' =>
      obtain ⟨rfl,rfl,rfl,rfl⟩ := hi.unique hi'
      cases h.symm.trans h'
      rfl
  | _ => cases h'; rfl

/-! ## Each gate is a check of the login -/

theorem checkPresent_error_iff {name value : String} :
    (checkPresent name value).mapError Error.rejected = .error e ↔
      value = "" ∧ e = .rejected (.missingField name) := by
  unfold checkPresent
  split
  · rename_i hempty
    simp [String.isEmpty_iff.mp hempty,eq_comm]
  · rename_i hfilled
    exact ⟨nofun,fun h => absurd (String.isEmpty_iff.mpr h.1) hfilled⟩

/-- A gate that refuses exactly an empty member checks that the member is present. -/
theorem present_refuses_iff {g : LoginGate} {name value : String}
    (hempty : value = "" → g.Refuses w s request connection (.rejected (.missingField name)))
    (honly : ∀ e, g.Refuses w s request connection e → value = "") :
    g.Refuses w s request connection e ↔
      (checkPresent name value).mapError Error.rejected = .error e := by
  rw [checkPresent_error_iff]
  constructor
  · intro h
    have hvalue := honly e h
    exact ⟨hvalue,(hempty hvalue).unique h⟩
  · rintro ⟨hvalue,rfl⟩
    exact hempty hvalue

theorem roleName_refuses_iff : Refuses w s request connection .roleName e ↔
    (checkPresent "role" request.role).mapError Error.rejected = .error e :=
  present_refuses_iff .roleName fun _ h => by cases h; assumption

theorem signaturePresent_refuses_iff : Refuses w s request connection .signaturePresent e ↔
    (checkPresent "signature" request.signature).mapError Error.rejected = .error e :=
  present_refuses_iff .signaturePresent fun _ h => by cases h; assumption

theorem bundlePresent_refuses_iff : Refuses w s request connection .bundlePresent e ↔
    (checkPresent "cf_instance_cert" request.bundle).mapError Error.rejected = .error e :=
  present_refuses_iff .bundlePresent fun _ h => by cases h; assumption

theorem signingTimePresent_refuses_iff : Refuses w s request connection .signingTimePresent e ↔
    (checkPresent "signing_time" request.signingTime).mapError Error.rejected = .error e :=
  present_refuses_iff .signingTimePresent fun _ h => by cases h; assumption

theorem roleStorage_refuses_iff : Refuses w s request connection .roleStorage e ↔
    ∃ text, w.storageFault s.world .getRole = some text ∧ e = .storage text := by
  constructor
  · intro h
    cases h with
    | roleStorage h => exact ⟨_,h,rfl⟩
  · rintro ⟨text,h,rfl⟩
    exact .roleStorage h

theorem role_refuses_iff : Refuses w s request connection .role e ↔
    s.store.role? request.role = none ∧ e = .rejected .unknownRole := by
  constructor
  · intro h
    cases h with
    | role h => exact ⟨h,rfl⟩
  · rintro ⟨h,rfl⟩
    exact .role h

theorem networks_refuses_iff (hr : s.store.role? request.role = some role) :
    Refuses w s request connection .networks e ↔
      (checkNetworks role connection).mapError id = .error e := by
  have hcheck : checkNetworks role connection = .ok () ↔ _ := checkNetworks_ok_iff
  have hdenied : ∀ e, checkNetworks role connection = .error e → e = .permissionDenied := by
    intro e h
    unfold checkNetworks at h
    split at h
    · cases h
    · split at h <;> cases h
      rfl
  rw [mapError_error_iff]
  constructor
  · intro h
    cases h with
    | @networks role' hr' hb h =>
      cases hr.symm.trans hr'
      cases hx : checkNetworks role connection with
      | error e => exact ⟨e,rfl,(hdenied e hx).symm⟩
      | ok _ =>
        rcases hcheck.mp hx with hnone | ⟨c,ip,hc,hip,net,hnet,hin⟩
        · exact absurd hnone hb
        · exact absurd hin (by simp [h c ip hc hip net hnet])
  · rintro ⟨e,hx,rfl⟩
    cases hdenied e hx
    have hfails : ¬ _ := fun hpass => nomatch hx.symm.trans (hcheck.mpr hpass)
    obtain ⟨hb,h⟩ := not_or.mp hfails
    refine .networks hr hb fun c ip hc hip net hnet => ?_
    cases hin : net.contains ip.canonical with
    | false => rfl
    | true => exact absurd ⟨c,ip,hc,hip,net,hnet,hin⟩ h

theorem configStorage_refuses_iff : Refuses w s request connection .configStorage e ↔
    ∃ text, w.storageFault s.world .getConfig = some text ∧ e = .storage text := by
  constructor
  · intro h
    cases h with
    | configStorage h => exact ⟨_,h,rfl⟩
  · rintro ⟨text,h,rfl⟩
    exact .configStorage h

theorem config_refuses_iff : Refuses w s request connection .config e ↔
    s.store.config = none ∧ e = .notConfigured .verifyingCertificates := by
  constructor
  · intro h
    cases h with
    | config h => exact ⟨h,rfl⟩
  · rintro ⟨h,rfl⟩
    exact .config h

theorem window_refuses_iff (hc : s.store.config = some config)
    (ht : SigningTime.parse? request.signingTime = some signedAt) :
    Refuses w s request connection .window e ↔
      (config.signingWindow.check ⟨signedAt,0⟩ (w.now s.world)).mapError
        (fun v => .rejected (.window v)) = .error e := by
  rw [mapError_error_iff]
  constructor
  · intro h
    cases h with
    | window hc' ht' h =>
      cases hc.symm.trans hc'
      cases ht.symm.trans ht'
      exact ⟨_,h,rfl⟩
  · rintro ⟨v,h,rfl⟩
    exact .window hc ht h

theorem extraction_refuses_iff : Refuses w s request connection .extraction e ↔
    ((w.verifier s.world).extract request.bundle).mapError verify.refused = .error e := by
  rw [mapError_error_iff]
  constructor
  · intro h
    cases h with
    | extraction h => exact ⟨_,h,rfl⟩
  · rintro ⟨f,h,rfl⟩
    exact .extraction h

theorem signature_refuses_iff (ht : SigningTime.parse? request.signingTime = some signedAt) :
    Refuses w s request connection .signature e ↔
      ((w.verifier s.world).checkSignature request.signature
        ⟨signedAt,request.bundle,request.role⟩).mapError verify.refused = .error e := by
  rw [mapError_error_iff]
  constructor
  · intro h
    cases h with
    | signature ht' h =>
      cases ht.symm.trans ht'
      exact ⟨_,h,rfl⟩
  · rintro ⟨f,h,rfl⟩
    exact .signature ht h

theorem chain_refuses_iff {certs : InstanceCertificates} {signing : Certificate}
    (hc : s.store.config = some config)
    (ht : SigningTime.parse? request.signingTime = some signedAt)
    (he : (w.verifier s.world).extract request.bundle = .ok certs)
    (hs : (w.verifier s.world).checkSignature request.signature
      ⟨signedAt,request.bundle,request.role⟩ = .ok signing) :
    Refuses w s request connection .chain e ↔
      ((w.verifier s.world).checkChain config.identityCaCertificates certs signing
        (w.now s.world)).mapError verify.refused = .error e := by
  rw [mapError_error_iff]
  constructor
  · intro h
    cases h with
    | chain hc' ht' he' hs' h =>
      cases hc.symm.trans hc'
      cases ht.symm.trans ht'
      cases he.symm.trans he'
      cases hs.symm.trans hs'
      exact ⟨_,h,rfl⟩
  · rintro ⟨f,h,rfl⟩
    exact .chain hc ht he hs h

theorem identity_refuses_iff {signing : Certificate}
    (ht : SigningTime.parse? request.signingTime = some signedAt)
    (hs : (w.verifier s.world).checkSignature request.signature
      ⟨signedAt,request.bundle,request.role⟩ = .ok signing) :
    Refuses w s request connection .identity e ↔
      ((w.verifier s.world).identify signing).mapError (fun f => .certificate f.text) =
        .error e := by
  rw [mapError_error_iff]
  constructor
  · intro h
    cases h with
    | identity ht' hs' h =>
      cases ht.symm.trans ht'
      cases hs.symm.trans hs'
      exact ⟨_,h,rfl⟩
  · rintro ⟨f,h,rfl⟩
    exact .identity ht hs h

theorem connection_refuses_iff (hc : s.store.config = some config) :
    Refuses w s request connection .connection e ↔
      ∃ f, Unreachable w config.platformSettings s.cache s.world f ∧ e = .platform f := by
  constructor
  · intro h
    cases h with
    | connection hc' h =>
      cases hc.symm.trans hc'
      exact ⟨_,h,rfl⟩
  · rintro ⟨f,h,rfl⟩
    exact .connection hc h

theorem crossCheck_refuses_iff {g : CrossGate}
    (hi : Introduced w s request role identity client reached) :
    Refuses w s request connection (.crossCheck g) e ↔
      g.Objects w client role identity connection reached e := by
  constructor
  · intro h
    cases h with
    | crossCheck hi' h =>
      obtain ⟨rfl,rfl,rfl,rfl⟩ := hi.unique hi'
      exact ⟨_,h,rfl⟩
  · rintro ⟨r,h,rfl⟩
    exact .crossCheck hi h

theorem name_refuses_iff {kind : Platform.Kind}
    (hi : Introduced w s request role identity client reached) :
    Refuses w s request connection (.name kind) e ↔
      (naming w client identity (confirming w client identity reached .space).2 kind).1.mapError
        Error.platform = .error e := by
  rw [mapError_error_iff]
  constructor
  · intro h
    cases h with
    | name hi' h =>
      obtain ⟨rfl,rfl,rfl,rfl⟩ := hi.unique hi'
      exact ⟨_,h,rfl⟩
  · rintro ⟨f,h,rfl⟩
    exact .name hi h

/-- What the checks of a request ask for besides the role, gate by gate. -/
theorem judged_checkRequest :
    Judged (Refuses w s request connection) (does w s) (fun _ => [])
      [.signaturePresent,.bundlePresent,.signingTimePresent,.signingTime]
      ((checkRequest request).mapError Error.rejected) [] := by
  unfold checkRequest
  simp only [mapError_bind]
  refine (Judged.look (fun _ => signaturePresent_refuses_iff) rfl rfl).bind fun _ _ => ?_
  refine (Judged.look (fun _ => bundlePresent_refuses_iff) rfl rfl).bind fun _ _ => ?_
  refine (Judged.look (fun _ => signingTimePresent_refuses_iff) rfl rfl).bind fun _ _ => ?_
  refine .look (fun e => ?_) rfl rfl
  cases hparse : SigningTime.parse? request.signingTime with
  | some signedAt =>
    constructor
    · intro h
      cases h with
      | signingTime h => cases hparse.symm.trans h
    · nofun
  | none =>
    constructor
    · intro h
      cases h with
      | signingTime _ => rfl
    · rintro ⟨⟩
      exact .signingTime hparse

end LoginGate

/-! ## The gates decide the login -/

theorem judges_verify (hu : u.world = s.world) (hc : s.store.config = some config)
    (ht : SigningTime.parse? request.signingTime = some signedAt) :
    Judges w task (LoginGate.Refuses w s request connection) (LoginGate.does w s) (fun _ => [])
      [.extraction,.signature,.chain,.identity]
      (verify config request signedAt (w.now s.world)) u := by
  have hextract : outcome? w task (ask (.extract request.bundle)) u =
      some (.ok ((w.verifier s.world).extract request.bundle),
        u.record (.extract request.bundle)) := by
    rw [← hu]
    exact outcome?_ask _ _
  refine Judges.consult hextract rfl (fun _ => LoginGate.extraction_refuses_iff) rfl rfl
    fun certs hcerts => ?_
  have hsignature : outcome? w task
      (ask (.checkSignature request.signature ⟨signedAt,request.bundle,request.role⟩))
      (u.record (.extract request.bundle)) =
      some (.ok ((w.verifier s.world).checkSignature request.signature
        ⟨signedAt,request.bundle,request.role⟩),(u.record (.extract request.bundle)).record
          (.checkSignature request.signature ⟨signedAt,request.bundle,request.role⟩)) := by
    rw [← hu]
    exact outcome?_ask _ _
  refine Judges.consult hsignature rfl (fun _ => LoginGate.signature_refuses_iff ht) rfl rfl
    fun signing hsigning => ?_
  let signed := (u.record (.extract request.bundle)).record
    (.checkSignature request.signature ⟨signedAt,request.bundle,request.role⟩)
  have hchain : outcome? w task
      (ask (.checkChain config.identityCaCertificates certs signing (w.now s.world))) signed =
      some (.ok ((w.verifier s.world).checkChain config.identityCaCertificates certs signing
        (w.now s.world)),signed.record (.checkChain config.identityCaCertificates certs signing
          (w.now s.world))) := by
    rw [← hu]
    exact outcome?_ask _ _
  refine Judges.consult hchain rfl (fun _ => LoginGate.chain_refuses_iff hc ht hcerts hsigning)
    rfl rfl fun _ _ => ?_
  let chained := signed.record
    (.checkChain config.identityCaCertificates certs signing (w.now s.world))
  have hidentify : outcome? w task (ask (.identify signing)) chained =
      some (.ok ((w.verifier s.world).identify signing),chained.record (.identify signing)) := by
    rw [← hu]
    exact outcome?_ask _ _
  exact Judges.consult_last hidentify rfl (fun _ => LoginGate.identity_refuses_iff ht hsigning)
    rfl rfl

theorem judges_lookupNames (hi : Introduced w s request role identity client reached)
    (hu : u.world = (confirming w client identity reached .space).2) :
    Judges w task (LoginGate.Refuses w s request connection) (LoginGate.does w s) (fun _ => [])
      [.name .org,.name .app,.name .space] (lookupNames client identity) u := by
  have hgate : ∀ (kind : Platform.Kind) (guid : String) (v : State σ),
      w.lookup client kind guid v.world =
        naming w client identity (confirming w client identity reached .space).2 kind →
      ∀ e, LoginGate.Refuses w s request connection (.name kind) e ↔
        (w.lookup client kind guid v.world).1.mapError Error.platform = .error e := by
    intro kind guid v hv e
    rw [LoginGate.name_refuses_iff hi,hv]
  rw [← hu] at hgate
  unfold lookupNames
  refine Judges.consult (outcome?_ask_lookup ..) rfl (hgate .org _ _ rfl) rfl rfl fun org _ => ?_
  refine Judges.consult (outcome?_ask_lookup ..) rfl (hgate .app _ _ rfl) rfl rfl fun app _ => ?_
  refine Judges.consult (outcome?_ask_lookup ..) rfl (hgate .space _ _ rfl) rfl rfl
    fun space _ => ?_
  exact judges_pure _

/-- The part of a login behind its early gates. -/
theorem judges_platform (hi : Introduced w s request role identity client reached)
    (hu : u.world = reached) :
    Judges w task (LoginGate.Refuses w s request connection) (LoginGate.does w s) (fun _ => [])
      LoginGate.late (do
        crossCheck client role identity connection
        let names ← lookupNames client identity
        return role.populate (identity.toCredential request.role names)) u := by
  subst hu
  have hcross : Judges w task (LoginGate.Refuses w s request connection) (LoginGate.does w s)
      (fun _ => []) (CrossGate.order.map .crossCheck)
      (crossCheck client role identity connection) u := by
    intro r t h
    obtain ⟨asked,hlog,hjudged⟩ := judges_crossCheck r t h
    exact ⟨asked,hlog,hjudged.map LoginGate.crossCheck
      (fun _ _ => LoginGate.crossCheck_refuses_iff hi) (fun _ => rfl) (fun _ => rfl)⟩
  refine hcross.bind fun _ v hv => ?_
  obtain ⟨after,hcorroborated,rfl⟩ := outcome?_crossCheck_ok_iff.mp hv
  let confirmed : State σ := { u with
    log := .lookup client .space identity.spaceId :: .lookup client .org identity.orgId ::
      .lookup client .app identity.appId :: u.log
    world := after }
  have hnames : Judges w task (LoginGate.Refuses w s request connection) (LoginGate.does w s)
      (fun _ => []) [.name .org,.name .app,.name .space] (lookupNames client identity) confirmed :=
    judges_lookupNames hi (confirming_of_corroborated hcorroborated).symm
  have hend := hnames.bind fun names _ _ =>
    judges_pure (role.populate (identity.toCredential request.role names))
  simpa only [List.append_nil] using hend

/-- The part of a login under the configuration lock. -/
theorem judges_admission (hu : s.Same u) (hstored : s.store.role? request.role = some role)
    (htime : SigningTime.parse? request.signingTime = some signedAt) :
    Judges w task (LoginGate.Refuses w s request connection) (LoginGate.does w s) (fun _ => [])
      ([.configStorage,.config] ++ (.window :: ([.extraction,.signature,.chain,.identity] ++
        ([.connection] ++ LoginGate.late))))
      (admission request connection (w.now s.world) role signedAt) u := by
  have hfindConfig : Judges w task (LoginGate.Refuses w s request connection)
      (LoginGate.does w s) (fun _ => []) [.configStorage,.config]
      (findConfig .verifyingCertificates) u := by
    refine judges_findConfig ?_ ?_ rfl rfl rfl rfl
    · rw [hu.world]
      exact fun _ => LoginGate.configStorage_refuses_iff
    · rw [hu.store]
      exact fun _ => LoginGate.config_refuses_iff
  refine hfindConfig.bind fun config v hconfig => ?_
  obtain ⟨-,hconfigured,rfl⟩ := stored_of_findConfig hconfig
  rw [hu.store] at hconfigured
  refine Judges.check (fun _ => LoginGate.window_refuses_iff hconfigured htime) rfl rfl
    fun _ _ => ?_
  have hverify : Judges w task (LoginGate.Refuses w s request connection) (LoginGate.does w s)
      (fun _ => []) [.extraction,.signature,.chain,.identity]
      (verify config request signedAt (w.now s.world)) (u.record .readConfig) :=
    judges_verify hu.world hconfigured htime
  refine hverify.bind fun identity v hidentity => ?_
  obtain ⟨certs,signing,hverified,rfl⟩ := outcome?_verify_ok_iff.mp hidentity
  rw [State.record_world,hu.world] at hverified
  have hreach : Judges w task (LoginGate.Refuses w s request connection) (LoginGate.does w s)
      (fun _ => []) [.connection] (getOrConnect config.platformSettings)
      ((u.record .readConfig).verified config request signedAt (w.now s.world) certs signing) := by
    refine judges_getOrConnect ?_ ?_ rfl
    · rw [verified_cache,verified_world,State.record_cache,State.record_world,hu.cache,hu.world]
      exact fun _ => LoginGate.connection_refuses_iff hconfigured
    · rw [verified_cache,verified_world,State.record_cache,State.record_world,hu.cache,hu.world,
        LoginGate.does,hconfigured]
  refine hreach.bind fun client v hclient => ?_
  have hreached := reaches_of_getOrConnect hclient
  rw [verified_cache,verified_world,State.record_cache,State.record_world,hu.cache,hu.world]
    at hreached
  exact judges_platform ⟨hstored,config,signedAt,certs,signing,hconfigured,htime,hverified,
    hreached⟩ rfl

/-- However a login ends by itself, its gates have been tried in order and have decided it. -/
theorem judges_login :
    Judges w task (LoginGate.Refuses w s request connection) (LoginGate.does w s) (fun _ => [])
      LoginGate.order (login request connection) s := by
  have horder : LoginGate.order = (.roleName :: ([.roleStorage,.role] ++ (.networks ::
    ([.signaturePresent,.bundlePresent,.signingTimePresent,.signingTime] ++
    ([.configStorage,.config] ++ (.window :: ([.extraction,.signature,.chain,.identity] ++
    ([.connection] ++ LoginGate.late))))))) : List LoginGate) := rfl
  rw [horder,login_eq]
  refine Judges.ask_bind rfl fun now u hnow => ?_
  cases hnow
  refine Judges.check (fun _ => LoginGate.roleName_refuses_iff) rfl rfl fun _ _ => ?_
  have hfindRole : Judges w task (LoginGate.Refuses w s request connection) (LoginGate.does w s)
      (fun _ => []) [.roleStorage,.role] (findRole request.role (.rejected .unknownRole))
      (s.record .now) :=
    judges_findRole (fun _ => LoginGate.roleStorage_refuses_iff)
      (fun _ => LoginGate.role_refuses_iff) rfl rfl rfl rfl
  refine hfindRole.bind fun role u hrole => ?_
  obtain ⟨-,hstored,rfl⟩ := stored_of_findRole hrole
  refine Judges.check (fun _ => LoginGate.networks_refuses_iff hstored) rfl rfl fun _ _ => ?_
  refine (judges_orFail LoginGate.judged_checkRequest).bind fun signedAt u hrequest => ?_
  obtain ⟨hchecked,rfl⟩ := outcome?_orFail_ok_iff.mp hrequest
  refine Judges.holding (judges_admission ⟨rfl,rfl,rfl⟩ hstored ?_)
  exact (checkRequest_ok_iff.mp hchecked).2.2.2

/-! ## Failures of logins -/

theorem LoginGate.Refuses.kind {g : LoginGate} (h : g.Refuses w s request connection e) :
    (PublicError.ofError e = .permissionDenied ↔ g = .networks) ∧
      ((∃ text, PublicError.ofError e = .internal text) ↔ g.IsFault) ∧
      ((∃ text, PublicError.ofError e = .rejected text) ↔ g ≠ .networks ∧ ¬ g.IsFault) := by
  cases h <;> simp [PublicError.ofError,LoginGate.IsFault]

theorem connecting_no_store {settings : Platform.Settings} {cache : Cache} {before : σ} :
    .store ∉ connecting w settings cache before := by
  unfold connecting
  split <;> simp

theorem LoginGate.does_no_store (g : LoginGate) : .store ∉ g.does w s := by
  cases g with
  | connection =>
    cases h : s.store.config with
    | none => simp [LoginGate.does,h]
    | some config => simpa [LoginGate.does,h] using connecting_no_store
  | crossCheck g => cases g <;> simp [LoginGate.does,CrossGate.does]
  | _ => simp [LoginGate.does]

/-- A login that fails by itself fails as the first of its gates that refuses. It is denied exactly
at the networks and an internal error exactly at a gate that says nothing of the caller. It has done
what the gates up to this one do, and has stored nothing. -/
theorem login_fails_at_first_gate {r : Except Error Credential} {p : PublicError}
    (hrun : Schedule.alone w (login request connection).run s = (some r,t))
    (hfail : r.mapError PublicError.ofError = .error p) :
    ∃ before g after e, LoginGate.order = before ++ g :: after ∧
      (∀ b ∈ before, ∀ e', ¬ b.Refuses w s request connection e') ∧
      (∀ e', g.Refuses w s request connection e' ↔ e' = e) ∧ p = PublicError.ofError e ∧
      (p = .permissionDenied ↔ g = .networks) ∧
      ((∃ text, p = .internal text) ↔ g.IsFault) ∧
      ((∃ text, p = .rejected text) ↔ g ≠ .networks ∧ ¬ g.IsFault) ∧
      (∃ asked, t.log = asked.reverse ++ s.log ∧
        deeds asked = (before ++ [g]).flatMap (LoginGate.does w s)) ∧
      t.store = s.store := by
  obtain ⟨e,rfl,rfl⟩ := mapError_error_iff.mp hfail
  have houtcome : outcome? w 0 (login request connection) s = some (.error e,t) :=
    settle_of_alone hrun
  obtain ⟨asked,hlog,hjudged⟩ := judges_login _ _ houtcome
  obtain ⟨g,before,after,horder,hbefore,hg,hdone⟩ := hjudged.stopsAt
  rw [List.append_nil] at hdone
  have hstore : t.store = s.store := by
    refine store_of_log houtcome hlog ?_
    rw [hdone]
    intro hmem
    obtain ⟨b,-,hb⟩ := List.mem_flatMap.mp hmem
    exact b.does_no_store hb
  obtain ⟨hdenied,hinternal,hrejected⟩ := hg.kind
  have honly : ∀ e', g.Refuses w s request connection e' ↔ e' = e := by
    intro e'
    constructor
    · exact hg.unique
    · rintro rfl
      exact hg
  exact ⟨before,g,after,e,horder,hbefore,honly,rfl,hdenied,hinternal,hrejected,⟨asked,hlog,hdone⟩,
    hstore⟩

theorem login_fails_at_first_gate_sample :
    ∃ before g after e, LoginGate.order = before ++ g :: after ∧
      (∀ b ∈ before, ∀ e', ¬ b.Refuses Script.world sampleState sampleRequest none e') ∧
      (∀ e', g.Refuses Script.world sampleState sampleRequest none e' ↔ e' = e) ∧
      g ≠ .networks ∧ ¬ g.IsFault ∧
      PublicError.ofError e = .rejected "no matching IP address" ∧
      (Schedule.alone Script.world (login sampleRequest none).run sampleState).2.store =
        sampleState.store := by
  have hend : (Schedule.alone Script.world (login sampleRequest none).run sampleState).1 =
    some (.error (.rejected .address)) := by rfl
  have hpublic : (Except.error (.rejected .address) : Except Error Credential).mapError
    PublicError.ofError = .error (.rejected "no matching IP address") := rfl
  obtain ⟨before,g,after,e,horder,hbefore,hg,he,-,-,hrejected,-,hstore⟩ :=
    login_fails_at_first_gate (Prod.ext hend rfl) hpublic
  obtain ⟨hnetworks,hfault⟩ := hrejected.mp ⟨_,rfl⟩
  exact ⟨before,g,after,e,horder,hbefore,hg,hnetworks,hfault,he.symm,hstore⟩

end WorkloadLogin.Service
