import WorkloadLogin.Proofs.Service.Admission
import WorkloadLogin.Proofs.Service.Course

/-! # Courses of logins and renewals

The courses of successful calls, part by part: which requests stand in them, in which order, and
what their answers have in common. Nothing is assumed of the states in which they were answered.
-/
namespace WorkloadLogin.Service
variable {σ α : Type} {w : World σ} {task : TaskId} {s t : State σ} {es : List (Exchange σ)}
  {client : ClientId} {kind : Platform.Kind} {guid : String} {role : Role} {identity : Identity}
  {connection : Option Connection}

/-! ## What answers say of their states -/

theorem role?_of_answer {name : String} {found : Option Role}
    (h : State.answer w task (.readRole name) s = some (.ok found, t)) :
    s.store.role? name = found := by
  simp only [State.answer, State.reply, State.stored] at h
  cases hf : w.storageFault s.world .getRole with
  | some text => simp [hf] at h
  | none =>
    simp only [hf, Option.map_some, Option.some.injEq, Prod.mk.injEq, Except.ok.injEq] at h
    exact h.1

theorem verifier_of_answer {c : Certificate} {found : Except Verifier.Fault Identity}
    (h : State.answer w task (.identify c) s = some (found, t)) :
    (w.verifier s.world).identify c = found := by
  cases h
  rfl

theorem required_ok_iff {f : RenewalIdentity.Field} {text value : String} :
    RenewalIdentity.required f text = .ok value ↔ text ≠ "" ∧ value = text := by
  unfold RenewalIdentity.required
  split
  · rename_i hempty
    exact ⟨nofun,fun h => absurd (String.isEmpty_iff.mp hempty) h.1⟩
  · rename_i hempty
    constructor
    · rintro ⟨⟩
      exact ⟨fun h => hempty (String.isEmpty_iff.mpr h),rfl⟩
    · rintro ⟨-,rfl⟩
      rfl

/-- A credential can be renewed when all six fields of its identity are there. -/
theorem ofCredential_ok_iff {c : Credential} {renewal : RenewalIdentity} :
    RenewalIdentity.ofCredential c = .ok renewal ↔
      c.internalData.role ≠ "" ∧ c.internalData.instanceId ≠ "" ∧ c.internalData.ipAddress ≠ "" ∧
      c.appAlias.metadata.orgId ≠ "" ∧ c.appAlias.metadata.appId ≠ "" ∧
      c.appAlias.metadata.spaceId ≠ "" ∧
      renewal = ⟨c.internalData.role,c.internalData.instanceId,c.appAlias.metadata.orgId,
        c.appAlias.metadata.spaceId,c.appAlias.metadata.appId,c.internalData.ipAddress⟩ := by
  unfold RenewalIdentity.ofCredential
  simp only [bind_ok_iff, required_ok_iff]
  constructor
  · rintro ⟨_,⟨h₁,rfl⟩,_,⟨h₂,rfl⟩,_,⟨h₃,rfl⟩,_,⟨h₄,rfl⟩,_,⟨h₅,rfl⟩,_,⟨h₆,rfl⟩,hend⟩
    cases hend
    exact ⟨h₁,h₂,h₃,h₄,h₅,h₆,rfl⟩
  · rintro ⟨h₁,h₂,h₃,h₄,h₅,h₆,rfl⟩
    exact ⟨_,⟨h₁,rfl⟩,_,⟨h₂,rfl⟩,_,⟨h₃,rfl⟩,_,⟨h₄,rfl⟩,_,⟨h₅,rfl⟩,_,⟨h₆,rfl⟩,rfl⟩

/-! ## Reading, verifying, looking up -/

theorem Course.of_findRole_ok {name : String} {absent : Error}
    (h : Course w task (findRole name absent).run es (.ok role)) :
    ∃ s, es = [⟨s,.readRole name,.ok (some role)⟩] ∧ s.store.role? name = some role := by
  obtain ⟨s,r,rest,rfl,h₁⟩ := h.of_ask_bind
  obtain ⟨found,rfl,h₂⟩ := h₁.of_orFail_bind_ok
  cases found with
  | none => cases h₂
  | some found =>
    cases h₂
    obtain ⟨t,ht⟩ := h.answered (List.mem_cons_self ..)
    exact ⟨s,rfl,role?_of_answer ht⟩

theorem Course.of_findConfig_ok {need : ConfigNeed} {config : Config}
    (h : Course w task (findConfig need).run es (.ok config)) :
    ∃ s, es = [⟨s,.readConfig,.ok (some config)⟩] := by
  obtain ⟨s,r,rest,rfl,h₁⟩ := h.of_ask_bind
  obtain ⟨found,rfl,h₂⟩ := h₁.of_orFail_bind_ok
  cases found with
  | none => cases h₂
  | some found =>
    cases h₂
    exact ⟨s,rfl⟩

theorem Course.of_verify_ok {config : Config} {request : LoginRequest} {signedAt : Instant}
    {now : Timestamp}
    (h : Course w task (verify config request signedAt now).run es (.ok identity)) :
    ∃ certs signing s₁ s₂ s₃ s₄, es = [⟨s₁,.extract request.bundle,.ok certs⟩,
      ⟨s₂,.checkSignature request.signature ⟨signedAt,request.bundle,request.role⟩,.ok signing⟩,
      ⟨s₃,.checkChain config.identityCaCertificates certs signing now,.ok ()⟩,
      ⟨s₄,.identify signing,.ok identity⟩] := by
  obtain ⟨s₁,r,_,rfl,h₁⟩ := h.of_ask_bind
  obtain ⟨certs,rfl,h₂⟩ := h₁.of_orFail_bind_ok
  obtain ⟨s₂,r,_,rfl,h₃⟩ := h₂.of_ask_bind
  obtain ⟨signing,rfl,h₄⟩ := h₃.of_orFail_bind_ok
  obtain ⟨s₃,r,_,rfl,h₅⟩ := h₄.of_ask_bind
  obtain ⟨_,rfl,h₆⟩ := h₅.of_orFail_bind_ok
  obtain ⟨s₄,r,_,rfl,h₇⟩ := h₆.of_ask_bind
  obtain ⟨rfl,rfl⟩ := h₇.of_orFail_ok
  exact ⟨certs,signing,s₁,s₂,s₃,s₄,rfl⟩

theorem Course.of_confirm_ok {record : kind.Record}
    (h : Course w task (confirm client kind guid).run es (.ok record)) :
    ∃ s, es = [⟨s,.lookup client kind guid,.ok record⟩] := by
  obtain ⟨s,r,_,rfl,h₁⟩ := h.of_ask_bind
  obtain ⟨rfl,rfl⟩ := h₁.of_orFail_ok
  exact ⟨s,rfl⟩

/-- A cross-check that passes has looked up an application, an organization and a space that agree
with an identity that the role allows. -/
theorem Course.of_crossCheck_ok
    (h : Course w task (crossCheck client role identity connection).run es (.ok ())) :
    Allowed role identity connection ∧ ∃ app org space s₁ s₂ s₃,
      es = [⟨s₁,.lookup client .app identity.appId,.ok app⟩,
        ⟨s₂,.lookup client .org identity.orgId,.ok org⟩,
        ⟨s₃,.lookup client .space identity.spaceId,.ok space⟩] ∧
      Agrees identity app org space := by
  obtain ⟨_,haddress,h₁⟩ := h.of_orFail_bind_ok
  obtain ⟨_,hbounds,h₂⟩ := h₁.of_orFail_bind_ok
  obtain ⟨_,_,app,rfl,happ,h₃⟩ := h₂.of_bind_ok
  obtain ⟨_,hcheckApp,h₄⟩ := h₃.of_orFail_bind_ok
  obtain ⟨_,_,org,rfl,horg,h₅⟩ := h₄.of_bind_ok
  obtain ⟨_,hcheckOrg,h₆⟩ := h₅.of_orFail_bind_ok
  obtain ⟨_,_,space,rfl,hspace,h₇⟩ := h₆.of_bind_ok
  obtain ⟨hcheckSpace,rfl⟩ := h₇.of_orFail_ok
  obtain ⟨s₁,rfl⟩ := happ.of_confirm_ok
  obtain ⟨s₂,rfl⟩ := horg.of_confirm_ok
  obtain ⟨s₃,rfl⟩ := hspace.of_confirm_ok
  exact ⟨allowed_iff.mpr ⟨haddress,hbounds⟩,app,org,space,s₁,s₂,s₃,rfl,
    agrees_iff.mpr ⟨hcheckApp,hcheckOrg,hcheckSpace⟩⟩

theorem Course.of_lookupNames_ok {names : PlatformNames}
    (h : Course w task (lookupNames client identity).run es (.ok names)) :
    ∃ app org space s₁ s₂ s₃, es = [⟨s₁,.lookup client .org identity.orgId,.ok org⟩,
      ⟨s₂,.lookup client .app identity.appId,.ok app⟩,
      ⟨s₃,.lookup client .space identity.spaceId,.ok space⟩] := by
  obtain ⟨s₁,r,_,rfl,h₁⟩ := h.of_ask_bind
  obtain ⟨org,rfl,h₂⟩ := h₁.of_orFail_bind_ok
  obtain ⟨s₂,r,_,rfl,h₃⟩ := h₂.of_ask_bind
  obtain ⟨app,rfl,h₄⟩ := h₃.of_orFail_bind_ok
  obtain ⟨s₃,r,_,rfl,h₅⟩ := h₄.of_ask_bind
  obtain ⟨space,rfl,h₆⟩ := h₅.of_orFail_bind_ok
  obtain ⟨rfl,-⟩ := h₆.of_pure
  exact ⟨app,org,space,s₁,s₂,s₃,rfl⟩

/-! ## Coming by a client -/

/-- The requests by which a task comes by a client. -/
def Request.Connects : Request → Prop
  | .cached | .join .connect _ | .obtain .connect | .leave .connect | .startConnect _
  | .awaitConnect | .keep _ => True
  | _ => False

theorem Course.of_connect_ok {settings : Platform.Settings}
    (h : Course w task (connect settings).run es (.ok client)) :
    ∃ s₁ s₂ s₃, es = [⟨s₁,.startConnect settings,()⟩,⟨s₂,.awaitConnect,.ok client⟩,
      ⟨s₃,.keep client,()⟩] := by
  obtain ⟨s₁,_,_,rfl,h₁⟩ := h.of_ask_bind
  obtain ⟨s₂,r,_,rfl,h₂⟩ := h₁.of_ask_bind
  obtain ⟨c,rfl,h₃⟩ := h₂.of_orFail_bind_ok
  obtain ⟨s₃,_,_,rfl,h₄⟩ := h₃.of_ask_bind
  obtain ⟨rfl,hc⟩ := h₄.of_pure
  cases hc
  exact ⟨s₁,s₂,s₃,rfl⟩

theorem Course.of_getOrConnect_ok {settings : Platform.Settings}
    (h : Course w task (getOrConnect settings).run es (.ok client)) :
    ∀ e ∈ es, e.request.Connects := by
  obtain ⟨s,r,_,rfl,h₁⟩ := h.of_ask_bind
  cases r with
  | some c =>
    obtain ⟨rfl,-⟩ := h₁.of_pure
    simp [Request.Connects]
  | none =>
    obtain ⟨_,_,_,inner,rfl,h₂⟩ := h₁.of_holding
    obtain ⟨_,r,_,rfl,h₃⟩ := h₂.of_ask_bind
    cases r with
    | some c =>
      obtain ⟨rfl,-⟩ := h₃.of_pure
      simp [Request.Connects]
    | none =>
      obtain ⟨_,_,_,rfl⟩ := h₃.of_connect_ok
      simp [Request.Connects]

/-! ## The calls -/

/-- A login that succeeds has presented what it must before it took the configuration lock. -/
theorem Course.of_login_ok {request : LoginRequest} {c : Credential}
    (h : Course w task (login request connection).run es (.ok c)) :
    ∃ now role signedAt s₁ s₂ s₃ s₄ s₅ inner,
      es = ⟨s₁,.now,now⟩ :: ⟨s₂,.readRole request.role,.ok (some role)⟩ ::
        ⟨s₃,.join .config .shared,()⟩ :: ⟨s₄,.obtain .config,()⟩ ::
        (inner ++ [⟨s₅,.leave .config,()⟩]) ∧
      request.role ≠ "" ∧ s₂.store.role? request.role = some role ∧
      SigningTime.parse? request.signingTime = some signedAt ∧
      Course w task (admission request connection now role signedAt).run inner (.ok c) := by
  rw [login_eq] at h
  obtain ⟨s₁,now,_,rfl,h₁⟩ := h.of_ask_bind
  obtain ⟨_,hrole,h₂⟩ := h₁.of_orFail_bind_ok
  obtain ⟨_,_,role,rfl,hfound,h₃⟩ := h₂.of_bind_ok
  obtain ⟨s₂,rfl,hstored⟩ := hfound.of_findRole_ok
  obtain ⟨_,-,h₄⟩ := h₃.of_orFail_bind_ok
  obtain ⟨signedAt,hrequest,h₅⟩ := h₄.of_orFail_bind_ok
  obtain ⟨s₃,s₄,s₅,inner,rfl,h₆⟩ := h₅.of_holding
  exact ⟨now,role,signedAt,s₁,s₂,s₃,s₄,s₅,inner,rfl,checkPresent_ok_iff.mp hrole,hstored,
    (checkRequest_ok_iff.mp hrequest).2.2.2,h₆⟩

/-- Under the lock, the parts of a login in their order: configuration and window, verifier, client,
cross-check, names. -/
theorem Course.of_admission_ok {request : LoginRequest} {now : Timestamp} {signedAt : Instant}
    {c : Credential}
    (h : Course w task (admission request connection now role signedAt).run es (.ok c)) :
    ∃ config identity client names s₁ verified reached checked named,
      es = ⟨s₁,.readConfig,.ok (some config)⟩ :: (verified ++ reached ++ checked ++ named) ∧
      config.signingWindow.check ⟨signedAt,0⟩ now = .ok () ∧
      Course w task (verify config request signedAt now).run verified (.ok identity) ∧
      Course w task (getOrConnect config.platformSettings).run reached (.ok client) ∧
      Course w task (crossCheck client role identity connection).run checked (.ok ()) ∧
      Course w task (lookupNames client identity).run named (.ok names) ∧
      c = role.populate (identity.toCredential request.role names) := by
  unfold admission at h
  obtain ⟨_,_,config,rfl,hconfig,h₁⟩ := h.of_bind_ok
  obtain ⟨s₁,rfl⟩ := hconfig.of_findConfig_ok
  obtain ⟨_,hwindow,h₂⟩ := h₁.of_orFail_bind_ok
  obtain ⟨verified,_,identity,rfl,hverified,h₃⟩ := h₂.of_bind_ok
  obtain ⟨reached,_,client,rfl,hreached,h₄⟩ := h₃.of_bind_ok
  obtain ⟨checked,_,_,rfl,hchecked,h₅⟩ := h₄.of_bind_ok
  obtain ⟨named,_,names,rfl,hnamed,h₆⟩ := h₅.of_bind_ok
  obtain ⟨rfl,hc⟩ := h₆.of_pure
  cases hc
  exact ⟨config,identity,client,names,s₁,verified,reached,checked,named,by simp,hwindow,hverified,
    hreached,hchecked,hnamed,rfl⟩

/-- What is done about a failure leaves it a failure. -/
theorem Course.of_tryCatch_ok {x : Action α} {handler : Error → Action α} {a : α}
    (h : Course w task (tryCatch x handler).run es (.ok a))
    (hh : ∀ e es, ¬ Course w task (handler e).run es (.ok a)) : Course w task x.run es (.ok a) := by
  obtain ⟨first,rest,r,rfl,hx,hend⟩ := Course.of_bind (x := x.run) h
  cases r with
  | ok b =>
    obtain ⟨rfl,hb⟩ := hend.of_pure
    cases hb
    simpa using hx
  | error e => exact absurd hend (hh e rest)

/-- A renewal that succeeds has found the role that the credential names, has come by a client, and
has checked the identity of the credential through it. It gives the credential the lifetimes of the
role. -/
theorem Course.of_renew_ok {c c' : Credential}
    (h : Course w task (renew c connection).run es (.ok c')) :
    ∃ config renewal role client s₁ s₂ s₃ s₄ s₅ reached checked,
      es = ⟨s₁,.join .config .shared,()⟩ :: ⟨s₂,.obtain .config,()⟩ ::
        (⟨s₃,.readConfig,.ok (some config)⟩ ::
          ⟨s₄,.readRole c.internalData.role,.ok (some role)⟩ :: (reached ++ checked) ++
        [⟨s₅,.leave .config,()⟩]) ∧
      RenewalIdentity.ofCredential c = .ok renewal ∧
      s₄.store.role? c.internalData.role = some role ∧
      Course w task (getOrConnect config.platformSettings).run reached (.ok client) ∧
      Course w task (crossCheck client role renewal.identity connection).run checked (.ok ()) ∧
      c' = { c with token := role.refresh c.token } := by
  unfold renew at h
  obtain ⟨s₁,s₂,s₅,inner,rfl,h₁⟩ := h.of_holding
  obtain ⟨_,_,config,rfl,hconfig,h₂⟩ := h₁.of_bind_ok
  obtain ⟨s₃,rfl⟩ := hconfig.of_findConfig_ok
  obtain ⟨renewal,hrenewal,h₃⟩ := h₂.of_orFail_bind_ok
  obtain ⟨_,_,role,rfl,hfound,h₄⟩ := h₃.of_bind_ok
  obtain ⟨s₄,rfl,hstored⟩ := hfound.of_findRole_ok
  obtain ⟨reached,_,client,rfl,hreached,h₅⟩ := h₄.of_bind_ok
  obtain ⟨checked,_,_,rfl,hchecked,h₆⟩ := h₅.of_bind_ok
  obtain ⟨rfl,hc⟩ := h₆.of_pure
  cases hc
  have hrole : renewal.role = c.internalData.role := by
    obtain ⟨-,-,-,-,-,-,rfl⟩ := ofCredential_ok_iff.mp hrenewal
    rfl
  have htainted : ∀ (e : Error) es, ¬ Course w task (do
      let _ ← Service.ask (.taint client)
      throw e : Action Unit).run es (.ok ()) := by
    intro e es h
    obtain ⟨_,_,_,_,hthrow⟩ := h.of_ask_bind
    cases hthrow
  rw [hrole] at hstored
  exact ⟨config,renewal,role,client,s₁,s₂,s₃,s₄,s₅,reached,checked,by simp [hrole],hrenewal,hstored,
    hreached,hchecked.of_tryCatch_ok htainted,rfl⟩

end WorkloadLogin.Service
