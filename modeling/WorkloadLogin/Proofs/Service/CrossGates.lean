import WorkloadLogin.Proofs.Service.PlatformGates

/-! # Gates of the cross-check

The cross-check is a row of gates of its own. Each looks at one bound of the role or at one thing
that a record says, and rejects the instance in its own words.
-/
namespace WorkloadLogin.Service
variable {σ α : Type} {w : World σ} {task : TaskId} {client : ClientId} {role : Role}
  {identity : Identity} {connection : Option Connection} {before : σ} {s : State σ}

/-! ## What is compared -/

def BoundId.value (identity : Identity) : BoundId → String
  | .instanceId => identity.instanceId
  | .appId => identity.appId
  | .orgId => identity.orgId
  | .spaceId => identity.spaceId

def BoundId.bound (role : Role) : BoundId → List String
  | .instanceId => role.boundInstanceIds
  | .appId => role.boundAppIds
  | .orgId => role.boundOrgIds
  | .spaceId => role.boundSpaceIds

/-- What a record says of an identifier. -/
def stated? : (kind : Platform.Kind) → kind.Record → BoundId → Option String
  | .app,app,.appId => some app.guid
  | .app,app,.spaceId => some app.spaceGuid
  | .org,org,.orgId => some org.guid
  | .space,space,.spaceId => some space.guid
  | .space,space,.orgId => some space.organizationGuid
  | _,_,_ => none

/-- The lookups that confirm an identity, each made where the one before it ended. -/
def confirming (w : World σ) (client : ClientId) (identity : Identity) (before : σ) :
    (kind : Platform.Kind) → Platform.Found kind × σ
  | .app => w.lookup client .app identity.appId before
  | .org =>
    w.lookup client .org identity.orgId (w.lookup client .app identity.appId before).2
  | .space =>
    w.lookup client .space identity.spaceId
      (w.lookup client .org identity.orgId (w.lookup client .app identity.appId before).2).2

/-! ## The gates -/

inductive CrossGate where
  | address
  | bound (id : BoundId)
  | lookup (kind : Platform.Kind)
  | agreement (kind : Platform.Kind) (id : BoundId)
  | instances
  deriving DecidableEq

namespace CrossGate

def order : List CrossGate :=
  [.address,.bound .instanceId,.bound .appId,.bound .orgId,.bound .spaceId,
    .lookup .app,.agreement .app .appId,.agreement .app .spaceId,.instances,
    .lookup .org,.agreement .org .orgId,
    .lookup .space,.agreement .space .spaceId,.agreement .space .orgId]

def does : CrossGate → List Deed
  | .lookup kind => [.lookup kind]
  | _ => []

/-- The gate rejects an instance that is checked when the platform is in the state `before`. -/
inductive Refuses (w : World σ) (client : ClientId) (role : Role) (identity : Identity)
    (connection : Option Connection) (before : σ) : CrossGate → Rejection → Prop
  | address (hm : role.disableIpMatching = false)
      (h : ∀ c, connection = some c →
        Constraint.matchesIp c.remoteAddress identity.ipAddress = false) :
      Refuses w client role identity connection before .address .address
  | bound {id : BoundId} (hb : id.bound role ≠ []) (h : id.value identity ∉ id.bound role) :
      Refuses w client role identity connection before (.bound id)
        (.unbound id (id.value identity) (id.bound role))
  | lookup {kind : Platform.Kind} {e : Platform.Error}
      (h : (confirming w client identity before kind).1 = .error e) :
      Refuses w client role identity connection before (.lookup kind) (.lookup e)
  | agreement {kind : Platform.Kind} {record : kind.Record} {id : BoundId} {value : String}
      (hr : (confirming w client identity before kind).1 = .ok record)
      (hs : stated? kind record id = some value) (h : value ≠ id.value identity) :
      Refuses w client role identity connection before (.agreement kind id)
        (.disagreement id (id.value identity) value)
  | instances {app : Platform.App} (hr : (confirming w client identity before .app).1 = .ok app)
      (h : app.instances ≤ 0) :
      Refuses w client role identity connection before .instances .noLiveInstances

theorem Refuses.unique {g : CrossGate} {r r' : Rejection}
    (h : g.Refuses w client role identity connection before r)
    (h' : g.Refuses w client role identity connection before r') : r = r' := by
  cases h with
  | address => cases h'; rfl
  | bound => cases h'; rfl
  | lookup h =>
    cases h' with
    | lookup h' =>
      cases h.symm.trans h'
      rfl
  | agreement hr hs =>
    cases h' with
    | agreement hr' hs' =>
      cases hr.symm.trans hr'
      cases hs.symm.trans hs'
      rfl
  | instances => cases h'; rfl

theorem Refuses.mem_order {g : CrossGate} {r : Rejection}
    (h : g.Refuses w client role identity connection before r) : g ∈ order := by
  cases h with
  | address _ _ | instances _ _ => decide
  | @bound id => cases id <;> decide
  | @lookup kind => cases kind <;> decide
  | @agreement kind record id value _ hs =>
    cases kind <;> cases id <;> first | decide | cases hs

theorem address_refuses_iff {r : Rejection} :
    CrossGate.address.Refuses w client role identity connection before r ↔
      checkAddress role identity connection = .error r := by
  unfold checkAddress
  constructor
  · intro h
    cases h with
    | address hm h =>
      cases connection with
      | none => simp [hm]
      | some c => simp [hm,h c rfl]
  · intro h
    split at h
    · cases h
    · rename_i hm
      split at h
      · cases h
      · rename_i hany
        cases h
        refine .address (by simpa using hm) fun c hc => ?_
        subst hc
        simpa using hany

theorem bound_refuses_iff {id : BoundId} {r : Rejection} :
    (CrossGate.bound id).Refuses w client role identity connection before r ↔
      checkBound id (id.value identity) (id.bound role) = .error r := by
  have hcheck : checkBound id (id.value identity) (id.bound role) = .ok () ↔
    id.bound role = [] ∨ id.value identity ∈ id.bound role := checkBound_ok_iff
  unfold checkBound at hcheck ⊢
  constructor
  · intro h
    cases h with
    | bound hb h =>
      split
      · rename_i hmeets
        exact absurd (hcheck.mp (if_pos hmeets)) (not_or.mpr ⟨hb,h⟩)
      · rfl
  · intro h
    split at h
    · cases h
    · rename_i hmeets
      cases h
      obtain ⟨hb,h⟩ := not_or.mp fun hor => by simpa [hmeets] using hcheck.mpr hor
      exact .bound hb h

theorem agreement_refuses_iff {kind : Platform.Kind} {record : kind.Record} {id : BoundId}
    {value : String} {r : Rejection}
    (hr : (confirming w client identity before kind).1 = .ok record)
    (hs : stated? kind record id = some value) :
    (CrossGate.agreement kind id).Refuses w client role identity connection before r ↔
      checkAgreement id (id.value identity) value = .error r := by
  unfold checkAgreement
  constructor
  · intro h
    cases h with
    | agreement hr' hs' h =>
      cases hr.symm.trans hr'
      cases hs.symm.trans hs'
      exact if_neg (Ne.symm h)
  · intro h
    split at h
    · cases h
    · rename_i hne
      cases h
      exact .agreement hr hs (Ne.symm hne)

theorem instances_refuses_iff {app : Platform.App} {r : Rejection}
    (hr : (confirming w client identity before .app).1 = .ok app) :
    CrossGate.instances.Refuses w client role identity connection before r ↔
      (if app.instances ≤ 0 then .error .noLiveInstances else pure () : Except Rejection Unit) =
        .error r := by
  constructor
  · intro h
    cases h with
    | instances hr' h =>
      cases hr.symm.trans hr'
      exact if_pos h
  · intro h
    split at h
    · rename_i hi
      cases h
      exact .instances hr hi
    · cases h

/-- The gate refuses with an error of the service. -/
def Objects (w : World σ) (client : ClientId) (role : Role) (identity : Identity)
    (connection : Option Connection) (before : σ) (g : CrossGate) (e : Error) : Prop :=
  ∃ r, g.Refuses w client role identity connection before r ∧ e = .rejected r

theorem lookup_objects_iff {kind : Platform.Kind} {e : Error} :
    (CrossGate.lookup kind).Objects w client role identity connection before e ↔
      (confirming w client identity before kind).1.mapError (fun f => .rejected (.lookup f)) =
        .error e := by
  constructor
  · rintro ⟨r,h,rfl⟩
    cases h with
    | lookup h =>
      rw [h]
      rfl
  · intro h
    cases hf : (confirming w client identity before kind).1 with
    | ok record => simp [hf] at h
    | error f =>
      rw [hf] at h
      cases h
      exact ⟨_,.lookup hf,rfl⟩

end CrossGate

/-! ## The gates decide the cross-check -/

section
variable (w client role identity connection before)

/-- A check that makes no lookup, judged by gates of the cross-check. -/
def Looks (gates : List CrossGate) (x : Except Rejection Unit) : Prop :=
  Judged (CrossGate.Refuses w client role identity connection before) CrossGate.does (fun _ => [])
    gates x []

theorem looks_address : Looks w client role identity connection before [.address]
    (checkAddress role identity connection) :=
  .look (fun _ => CrossGate.address_refuses_iff) rfl rfl

theorem looks_bounds : Looks w client role identity connection before
    [.bound .instanceId,.bound .appId,.bound .orgId,.bound .spaceId]
    (checkBounds role identity) := by
  have hbound : ∀ id, Looks w client role identity connection before [.bound id]
      (checkBound id (id.value identity) (id.bound role)) :=
    fun id => .look (fun _ => CrossGate.bound_refuses_iff) rfl rfl
  exact (hbound .instanceId).bind fun _ _ =>
    (hbound .appId).bind fun _ _ => (hbound .orgId).bind fun _ _ => hbound .spaceId

variable {w client role identity connection before}

theorem looks_agreement {kind : Platform.Kind} {record : kind.Record} {id : BoundId}
    {value : String} (hr : (confirming w client identity before kind).1 = .ok record)
    (hs : stated? kind record id = some value) :
    Looks w client role identity connection before [.agreement kind id]
      (checkAgreement id (id.value identity) value) :=
  .look (fun _ => CrossGate.agreement_refuses_iff hr hs) rfl rfl

theorem looks_app {app : Platform.App}
    (hr : (confirming w client identity before .app).1 = .ok app) :
    Looks w client role identity connection before
      [.agreement .app .appId,.agreement .app .spaceId,.instances] (checkApp identity app) := by
  have hlive : Looks w client role identity connection before [.instances]
      (if app.instances ≤ 0 then .error .noLiveInstances else pure ()) :=
    .look (fun _ => CrossGate.instances_refuses_iff hr) rfl rfl
  have hguid : Looks w client role identity connection before [.agreement .app .appId]
      (checkAgreement .appId identity.appId app.guid) := looks_agreement hr rfl
  have hspace : Looks w client role identity connection before [.agreement .app .spaceId]
      (checkAgreement .spaceId identity.spaceId app.spaceGuid) := looks_agreement hr rfl
  exact hguid.bind fun _ _ => hspace.bind fun _ _ => hlive

theorem looks_org {org : Platform.Org}
    (hr : (confirming w client identity before .org).1 = .ok org) :
    Looks w client role identity connection before [.agreement .org .orgId]
      (checkOrg identity org) := looks_agreement hr rfl

theorem looks_space {space : Platform.Space}
    (hr : (confirming w client identity before .space).1 = .ok space) :
    Looks w client role identity connection before
      [.agreement .space .spaceId,.agreement .space .orgId] (checkSpace identity space) := by
  have hguid : Looks w client role identity connection before [.agreement .space .spaceId]
      (checkAgreement .spaceId identity.spaceId space.guid) := looks_agreement hr rfl
  have horg : Looks w client role identity connection before [.agreement .space .orgId]
      (checkAgreement .orgId identity.orgId space.organizationGuid) := looks_agreement hr rfl
  exact hguid.bind fun _ _ => horg

theorem Looks.judges {gates : List CrossGate} {x : Except Rejection Unit}
    (h : Looks w client role identity connection before gates x) :
    Judges w task (CrossGate.Objects w client role identity connection before) CrossGate.does
      (fun _ => []) gates (orFail .rejected x) s :=
  judges_orFail (h.lift fun _ _ => Iff.rfl)

theorem judges_confirm {kind : Platform.Kind} {guid : String}
    (h : w.lookup client kind guid s.world = confirming w client identity before kind) :
    Judges w task (CrossGate.Objects w client role identity connection before) CrossGate.does
      (fun _ => []) [.lookup kind] (confirm client kind guid) s := by
  refine Judges.consult_last (outcome?_ask_lookup client kind guid s) rfl (fun e => ?_) rfl rfl
  rw [h]
  exact CrossGate.lookup_objects_iff

end

/-- However a cross-check ends by itself, its gates have been tried in order and have decided it. -/
theorem judges_crossCheck :
    Judges w task (CrossGate.Objects w client role identity connection s.world) CrossGate.does
      (fun _ => []) CrossGate.order (crossCheck client role identity connection) s := by
  have horder : CrossGate.order = ([.address] ++ ([.bound .instanceId,.bound .appId,.bound .orgId,
    .bound .spaceId] ++ ([.lookup .app] ++ ([.agreement .app .appId,.agreement .app .spaceId,
    .instances] ++ ([.lookup .org] ++ ([.agreement .org .orgId] ++ ([.lookup .space] ++
    [.agreement .space .spaceId,.agreement .space .orgId])))))) : List CrossGate) := rfl
  unfold crossCheck
  rw [horder]
  refine (looks_address ..).judges.bind fun _ u hu => ?_
  obtain ⟨-,rfl⟩ := outcome?_orFail_ok_iff.mp hu
  refine (looks_bounds ..).judges.bind fun _ u hu => ?_
  obtain ⟨-,rfl⟩ := outcome?_orFail_ok_iff.mp hu
  refine (judges_confirm rfl).bind fun app u hu => ?_
  obtain ⟨afterApp,happ,rfl⟩ := outcome?_lookup_ok_iff.mp hu
  have hconfirmApp : confirming w client identity u.world .app = (.ok app,afterApp) := happ
  have hatOrg : confirming w client identity u.world .org =
      w.lookup client .org identity.orgId afterApp := by
    simp only [confirming,happ]
  refine (looks_app (by rw [hconfirmApp])).judges.bind fun _ v hv => ?_
  obtain ⟨-,rfl⟩ := outcome?_orFail_ok_iff.mp hv
  refine (judges_confirm hatOrg.symm).bind fun org v hv => ?_
  obtain ⟨afterOrg,horg,rfl⟩ := outcome?_lookup_ok_iff.mp hv
  have hconfirmOrg : confirming w client identity u.world .org = (.ok org,afterOrg) :=
    hatOrg.trans horg
  have hatSpace : confirming w client identity u.world .space =
      w.lookup client .space identity.spaceId afterOrg := by
    have hlookup : w.lookup client .org identity.orgId afterApp = (.ok org,afterOrg) := horg
    simp only [confirming,happ,hlookup]
  refine (looks_org (by rw [hconfirmOrg])).judges.bind fun _ v hv => ?_
  obtain ⟨-,rfl⟩ := outcome?_orFail_ok_iff.mp hv
  refine (judges_confirm hatSpace.symm).bind fun space v hv => ?_
  obtain ⟨afterSpace,hspace,rfl⟩ := outcome?_lookup_ok_iff.mp hv
  have hconfirmSpace : confirming w client identity u.world .space = (.ok space,afterSpace) :=
    hatSpace.trans hspace
  exact (looks_space (by rw [hconfirmSpace])).judges

theorem confirming_of_corroborated {after : σ}
    (h : Corroborated w client role identity connection before after) :
    (confirming w client identity before .space).2 = after := by
  obtain ⟨-,app,org,space,u,v,happ,horg,hspace,-⟩ := h
  simp only [confirming,happ,horg,hspace]

end WorkloadLogin.Service
