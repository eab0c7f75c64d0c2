import WorkloadLogin.Proofs.Service.Admission
import WorkloadLogin.Service.Script

/-! # Logins decide their specification

The gates before the configuration lock look at the request and its role alone; the evidence is
what the gates under the lock leave. Both together are all that a login asks for, and a login that
has both issues the credential of the evidence.
-/
namespace WorkloadLogin.Service
variable {σ : Type} {w : World σ}

/-- No storage read fails, and no lock is held or waited for. -/
structure State.Quiet (w : World σ) (s : State σ) : Prop where
  getRole : w.storageFault s.world .getRole = none
  getConfig : w.storageFault s.world .getConfig = none
  config : s.configQueue = []
  connect : s.connectQueue = []

/-- What a request must bring before the configuration is looked at. -/
structure Presented (s : State σ) (request : LoginRequest) (connection : Option Connection)
    (role : Role) (signedAt : Instant) : Prop where
  role_ne : request.role ≠ ""
  stored : s.store.role? request.role = some role
  networks : role.tokenBoundCidrs = [] ∨
    ∃ c ip, connection = some c ∧ Constraint.remoteIp? c.remoteAddress = some ip ∧
      ∃ net ∈ role.tokenBoundCidrs, net.contains ip.canonical = true
  signature_ne : request.signature ≠ ""
  bundle_ne : request.bundle ≠ ""
  signingTime_ne : request.signingTime ≠ ""
  parsed : SigningTime.parse? request.signingTime = some signedAt

theorem presented_iff {s : State σ} {request : LoginRequest} {connection : Option Connection}
    {role : Role} {signedAt : Instant} :
    Presented s request connection role signedAt ↔
      checkPresent "role" request.role = .ok () ∧ s.store.role? request.role = some role ∧
        checkNetworks role connection = .ok () ∧ checkRequest request = .ok signedAt := by
  rw [checkPresent_ok_iff, checkNetworks_ok_iff, checkRequest_ok_iff]
  constructor
  · rintro ⟨hr,hs,hn,h₁,h₂,h₃,hp⟩
    exact ⟨hr,hs,hn,h₁,h₂,h₃,hp⟩
  · rintro ⟨hr,hs,hn,h₁,h₂,h₃,hp⟩
    exact ⟨hr,hs,hn,h₁,h₂,h₃,hp⟩

/-- The state in which a login that presented all it must goes under the configuration lock. -/
def State.presented (s : State σ) (task : TaskId) (name : String) : State σ :=
  ((s.record .now).record (.readRole name)).entered .config task .shared

theorem outcome?_login_ok_iff {task : TaskId} {request : LoginRequest}
    {connection : Option Connection} {s : State σ} {c : Credential} (hs : s.Quiet w) :
    (∃ t, outcome? w task (login request connection) s = some (.ok c, t)) ↔
      ∃ role signedAt, Presented s request connection role signedAt ∧
        ∃ t, outcome? w task (admission request connection (w.now s.world) role signedAt)
          (s.presented task request.role) = some (.ok c, t) := by
  have hnow : outcome? w task (ask .now) s = some (.ok (w.now s.world),s.record .now) := rfl
  have hq : ((s.record .now).record (.readRole request.role)).queue .config = [] := hs.config
  rw [login_eq, outcome?_bind_of_ok hnow]
  constructor
  · rintro ⟨t,h⟩
    simp only [outcome?_bind_ok_iff, outcome?_orFail_ok_iff] at h
    obtain ⟨_,_,⟨hrole,rfl⟩,role,_,h₁,_,_,⟨hnetworks,rfl⟩,signedAt,_,⟨hrequest,rfl⟩,hend⟩ := h
    obtain ⟨hstored,rfl⟩ := (outcome?_findRole_ok_iff (s := s.record .now) hs.getRole).mp h₁
    obtain ⟨u,hu,rfl⟩ := (outcome?_holding_ok_iff hq).mp hend
    exact ⟨role,signedAt,presented_iff.mpr ⟨hrole,hstored,hnetworks,hrequest⟩,u,hu⟩
  · rintro ⟨role,signedAt,hp,t,ht⟩
    obtain ⟨hrole,hstored,hnetworks,hrequest⟩ := presented_iff.mp hp
    simp only [outcome?_bind_ok_iff, outcome?_orFail_ok_iff]
    exact ⟨_,_,_,⟨hrole,rfl⟩,role,_,
      (outcome?_findRole_ok_iff (s := s.record .now) hs.getRole).mpr ⟨hstored,rfl⟩,_,_,
      ⟨hnetworks,rfl⟩,signedAt,_,⟨hrequest,rfl⟩,(outcome?_holding_ok_iff hq).mpr ⟨t,ht,rfl⟩⟩

/-- The gates before the lock change nothing that evidence is about. -/
theorem evidence_presented_iff (task : TaskId) (name : String) {request : LoginRequest}
    {connection : Option Connection} {role : Role} {signedAt : Instant} {s : State σ}
    {c : Credential} :
    (∃ e : Evidence w (s.presented task name) request connection role signedAt,
        c = e.credential) ↔
      ∃ e : Evidence w s request connection role signedAt, c = e.credential :=
  ⟨fun ⟨e,h⟩ => ⟨{ e with },h⟩,fun ⟨e,h⟩ => ⟨{ e with },h⟩⟩

/-- A login that no other task crosses issues `c` exactly when it presents what it must and `c` is
the credential of evidence for it. -/
theorem login_issues_iff (request : LoginRequest) (connection : Option Connection) (s : State σ)
    (c : Credential) (hs : s.Quiet w) :
    (Schedule.alone w (login request connection).run s).1 = some (.ok c) ↔
      ∃ role signedAt, Presented s request connection role signedAt ∧
        ∃ e : Evidence w s request connection role signedAt, c = e.credential := by
  rw [alone_eq_some_iff]
  change (∃ t, outcome? w 0 (login request connection) s = some (.ok c, t)) ↔ _
  rw [outcome?_login_ok_iff hs]
  refine exists_congr fun role => exists_congr fun signedAt => and_congr_right fun _ => ?_
  rw [← evidence_presented_iff 0 request.role]
  exact outcome?_admission_ok_iff (s := s.presented 0 request.role) hs.getConfig hs.connect

/-- A script in which an application of one instance runs and every certificate is accepted. -/
def sampleScript : Script where
  now := ⟨⟨60,.zero⟩,0⟩
  identity := ⟨"i","o","s","a","10.0.0.1"⟩
  records :=
    { apps := [("a",⟨"a","shop","s",1⟩)]
      orgs := [("o",⟨"o","acme"⟩)]
      spaces := [("s",⟨"s","live","o"⟩)] }

def sampleState : State Script where
  store :=
    { roles := [("web",{ boundAppIds := ["a"], tokenTtl := .ofSeconds 300 })]
      config := some {} }
  world := sampleScript

def sampleRequest : LoginRequest := ⟨"web","pem","1970-01-01T00:00:00Z","sig"⟩

def sampleCredential : Credential where
  internalData := ⟨"web","i","10.0.0.1"⟩
  displayName := "i"
  appAlias := ⟨"a",⟨"o","a","s","acme","shop","live"⟩⟩
  token := { ttl := .ofSeconds 300 }

theorem login_issues_sample :
    (Schedule.alone Script.world (login sampleRequest (some ⟨"10.0.0.1"⟩)).run sampleState).1 =
      some (.ok
        { internalData := ⟨"web","i","10.0.0.1"⟩
          displayName := "i"
          appAlias := ⟨"a",⟨"o","a","s","acme","shop","live"⟩⟩
          token := { ttl := .ofSeconds 300 } }) := by
  refine (login_issues_iff _ _ _ _ ⟨rfl,rfl,rfl,rfl⟩).mpr
    ⟨{ boundAppIds := ["a"], tokenTtl := .ofSeconds 300 },⟨0,.zero⟩,?_,?_⟩
  · exact ⟨by decide,by decide,.inl rfl,by decide,by decide,by decide,by decide +kernel⟩
  · refine ⟨{
      config := {}
      certs := default
      signing := default
      identity := sampleScript.identity
      client := 0
      connected := { sampleScript with clients := 1 }
      confirmed := { sampleScript with clients := 1 }
      looked := { sampleScript with clients := 1 }
      names := ⟨"acme","live","shop"⟩
      configured := rfl
      notBefore := by decide +kernel
      notAfter := by decide +kernel
      verified := ⟨rfl,rfl,rfl,rfl⟩
      reached := .connected rfl rfl
      corroborated := ⟨?_,⟨"a","shop","s",1⟩,⟨"o","acme"⟩,⟨"s","live","o"⟩,_,_,rfl,rfl,rfl,?_⟩
      named := ⟨_,_,_,_,_,rfl,rfl,rfl,rfl⟩ },rfl⟩
    · exact ⟨.inr ⟨_,rfl,by decide +kernel⟩,.inl rfl,.inr (by decide),.inl rfl,.inl rfl⟩
    · exact ⟨rfl,rfl,by decide,rfl,rfl,rfl⟩

end WorkloadLogin.Service
