import WorkloadLogin.Proofs.Gates
import WorkloadLogin.Proofs.Service.Solo
import WorkloadLogin.Service.CrossCheck

/-! # What a cross-check confirms

The role allows the identity, and three records of the platform, looked up one after another,
agree with it. The lookups may change the platform, so each is made where the last one ended.
-/
namespace WorkloadLogin.Service
variable {σ : Type} {w : World σ} {task : TaskId}

/-- The caller's address and the identifiers of the certificate are within the role's bounds. -/
structure Allowed (role : Role) (identity : Identity) (connection : Option Connection) : Prop where
  address : role.disableIpMatching = true ∨
    ∃ c, connection = some c ∧ Constraint.matchesIp c.remoteAddress identity.ipAddress = true
  instanceId : role.boundInstanceIds = [] ∨ identity.instanceId ∈ role.boundInstanceIds
  appId : role.boundAppIds = [] ∨ identity.appId ∈ role.boundAppIds
  orgId : role.boundOrgIds = [] ∨ identity.orgId ∈ role.boundOrgIds
  spaceId : role.boundSpaceIds = [] ∨ identity.spaceId ∈ role.boundSpaceIds

/-- The application runs, and the three records name each other as the identity does. -/
structure Agrees (identity : Identity) (app : Platform.App) (org : Platform.Org)
    (space : Platform.Space) : Prop where
  app_guid : app.guid = identity.appId
  app_spaceGuid : app.spaceGuid = identity.spaceId
  app_instances : 0 < app.instances
  org_guid : org.guid = identity.orgId
  space_guid : space.guid = identity.spaceId
  space_organizationGuid : space.organizationGuid = identity.orgId

/-- The platform confirms an allowed identity; its state moves on from `before` to `after`. -/
structure Corroborated (w : World σ) (client : ClientId) (role : Role) (identity : Identity)
    (connection : Option Connection) (before after : σ) : Prop where
  allowed : Allowed role identity connection
  records : ∃ app org space u v,
    w.lookup client .app identity.appId before = (.ok app, u) ∧
    w.lookup client .org identity.orgId u = (.ok org, v) ∧
    w.lookup client .space identity.spaceId v = (.ok space, after) ∧
    Agrees identity app org space

/-! ## The checks on their own -/

theorem checkAddress_ok_iff {role : Role} {identity : Identity} {connection : Option Connection} :
    checkAddress role identity connection = .ok () ↔ role.disableIpMatching = true ∨
      ∃ c, connection = some c ∧
        Constraint.matchesIp c.remoteAddress identity.ipAddress = true := by
  unfold checkAddress
  by_cases hd : role.disableIpMatching = true
  · simp [hd]
  · cases connection with
    | none => simp [hd]
    | some c => simp [hd]

theorem checkBound_ok_iff {id : BoundId} {value : String} {bound : List String} :
    checkBound id value bound = .ok () ↔ bound = [] ∨ value ∈ bound := by
  unfold checkBound Constraint.meets
  cases bound with
  | nil => simp
  | cons b rest => by_cases h : value = b <;> simp [h]

theorem checkAgreement_ok_iff {id : BoundId} {certificate platform : String} :
    checkAgreement id certificate platform = .ok () ↔ platform = certificate := by
  unfold checkAgreement
  split <;> simp_all [eq_comm]

theorem checkBounds_ok_iff {role : Role} {identity : Identity} :
    checkBounds role identity = .ok () ↔
      (role.boundInstanceIds = [] ∨ identity.instanceId ∈ role.boundInstanceIds) ∧
      (role.boundAppIds = [] ∨ identity.appId ∈ role.boundAppIds) ∧
      (role.boundOrgIds = [] ∨ identity.orgId ∈ role.boundOrgIds) ∧
      (role.boundSpaceIds = [] ∨ identity.spaceId ∈ role.boundSpaceIds) := by
  simp only [checkBounds, bind_unit_ok_iff, checkBound_ok_iff]

theorem allowed_iff {role : Role} {identity : Identity} {connection : Option Connection} :
    Allowed role identity connection ↔
      checkAddress role identity connection = .ok () ∧ checkBounds role identity = .ok () := by
  rw [checkAddress_ok_iff, checkBounds_ok_iff]
  exact ⟨fun h => ⟨h.1,h.2,h.3,h.4,h.5⟩,fun h => ⟨h.1,h.2.1,h.2.2.1,h.2.2.2.1,h.2.2.2.2⟩⟩

theorem checkApp_ok_iff {identity : Identity} {app : Platform.App} :
    checkApp identity app = .ok () ↔
      app.guid = identity.appId ∧ app.spaceGuid = identity.spaceId ∧ 0 < app.instances := by
  have hi : (if app.instances ≤ 0 then .error Rejection.noLiveInstances else pure () :
      Except Rejection Unit) = .ok () ↔ 0 < app.instances := by
    split <;> simp [pure, Except.pure] <;> omega
  simp only [checkApp, bind_unit_ok_iff, checkAgreement_ok_iff, hi]

theorem checkOrg_ok_iff {identity : Identity} {org : Platform.Org} :
    checkOrg identity org = .ok () ↔ org.guid = identity.orgId := checkAgreement_ok_iff

theorem checkSpace_ok_iff {identity : Identity} {space : Platform.Space} :
    checkSpace identity space = .ok () ↔
      space.guid = identity.spaceId ∧ space.organizationGuid = identity.orgId := by
  simp only [checkSpace, bind_unit_ok_iff, checkAgreement_ok_iff]

theorem agrees_iff {identity : Identity} {app : Platform.App} {org : Platform.Org}
    {space : Platform.Space} :
    Agrees identity app org space ↔ checkApp identity app = .ok () ∧
      checkOrg identity org = .ok () ∧ checkSpace identity space = .ok () := by
  rw [checkApp_ok_iff, checkOrg_ok_iff, checkSpace_ok_iff]
  exact ⟨fun h => ⟨⟨h.1,h.2,h.3⟩,h.4,h.5,h.6⟩,
    fun h => ⟨h.1.1,h.1.2.1,h.1.2.2,h.2.1,h.2.2.1,h.2.2.2⟩⟩

/-! ## Lookups -/

/-- The state after a lookup that left the platform in `world`. -/
def State.lookedUp (s : State σ) (client : ClientId) (kind : Platform.Kind) (guid : String)
    (world : σ) : State σ := { s.record (.lookup client kind guid) with world := world }

theorem outcome?_ask_lookup (client : ClientId) (kind : Platform.Kind) (guid : String)
    (s : State σ) :
    outcome? w task (ask (.lookup client kind guid)) s =
      some (.ok (w.lookup client kind guid s.world).1,
        s.lookedUp client kind guid (w.lookup client kind guid s.world).2) := outcome?_ask _ _

/-- A lookup succeeds with the record that the platform gives, whatever a failure would be. -/
theorem outcome?_lookup_ok_iff {failure : Platform.Error → Error} {client : ClientId}
    {kind : Platform.Kind} {guid : String} {s t : State σ} {r : kind.Record} :
    outcome? w task (do orFail failure (← ask (.lookup client kind guid))) s = some (.ok r, t) ↔
      ∃ u, w.lookup client kind guid s.world = (.ok r, u) ∧ t = s.lookedUp client kind guid u := by
  rw [outcome?_bind_of_ok (outcome?_ask_lookup client kind guid s)]
  refine outcome?_orFail_ok_iff.trans ?_
  constructor
  · rintro ⟨hr,rfl⟩
    exact ⟨_,Prod.ext hr rfl,rfl⟩
  · rintro ⟨u,hu,rfl⟩
    rw [hu]
    exact ⟨rfl,rfl⟩

theorem outcome?_lookup_bind_ok_iff {β : Type} {failure : Platform.Error → Error}
    {client : ClientId} {kind : Platform.Kind} {guid : String} {f : kind.Record → Action β}
    {s t : State σ} {b : β} :
    outcome? w task (ask (.lookup client kind guid) >>= fun r => orFail failure r >>= f) s =
        some (.ok b, t) ↔
      ∃ r u, w.lookup client kind guid s.world = (.ok r, u) ∧
        outcome? w task (f r) (s.lookedUp client kind guid u) = some (.ok b, t) := by
  rw [outcome?_consult_ok_iff (outcome?_ask_lookup client kind guid s)]
  constructor
  · rintro ⟨r,hr,h⟩
    exact ⟨r,_,Prod.ext hr rfl,h⟩
  · rintro ⟨r,u,hr,h⟩
    rw [hr]
    exact ⟨r,rfl,h⟩

/-- A cross-check passes exactly when the identity is corroborated, and then it has made the three
lookups in order. -/
theorem outcome?_crossCheck_ok_iff {client : ClientId} {role : Role} {identity : Identity}
    {connection : Option Connection} {s t : State σ} :
    outcome? w task (crossCheck client role identity connection) s = some (.ok (), t) ↔
      ∃ after, Corroborated w client role identity connection s.world after ∧
        t = { s with
          log := .lookup client .space identity.spaceId :: .lookup client .org identity.orgId ::
            .lookup client .app identity.appId :: s.log
          world := after } := by
  unfold crossCheck
  simp only [outcome?_bind_ok_iff, outcome?_orFail_ok_iff]
  constructor
  · rintro ⟨_,_,⟨ha,rfl⟩,_,_,⟨hb,rfl⟩,app,_,h₁,_,_,⟨hca,rfl⟩,org,_,h₂,_,_,⟨hco,rfl⟩,space,_,
      h₃,hcs,rfl⟩
    obtain ⟨u,happ,rfl⟩ := outcome?_lookup_ok_iff.mp h₁
    obtain ⟨v,horg,rfl⟩ := outcome?_lookup_ok_iff.mp h₂
    obtain ⟨after,hspace,rfl⟩ := outcome?_lookup_ok_iff.mp h₃
    have hr := agrees_iff.mpr ⟨hca,hco,hcs⟩
    exact ⟨after,⟨allowed_iff.mpr ⟨ha,hb⟩,app,org,space,u,v,happ,horg,hspace,hr⟩,rfl⟩
  · rintro ⟨after,⟨hallowed,app,org,space,u,v,happ,horg,hspace,hr⟩,rfl⟩
    obtain ⟨ha,hb⟩ := allowed_iff.mp hallowed
    obtain ⟨hca,hco,hcs⟩ := agrees_iff.mp hr
    exact ⟨_,_,⟨ha,rfl⟩,_,_,⟨hb,rfl⟩,app,_,outcome?_lookup_ok_iff.mpr ⟨u,happ,rfl⟩,_,_,⟨hca,rfl⟩,
      org,_,outcome?_lookup_ok_iff.mpr ⟨v,horg,rfl⟩,_,_,⟨hco,rfl⟩,space,_,
      outcome?_lookup_ok_iff.mpr ⟨after,hspace,rfl⟩,hcs,rfl⟩

end WorkloadLogin.Service
