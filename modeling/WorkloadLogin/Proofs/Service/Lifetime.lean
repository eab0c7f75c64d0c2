import WorkloadLogin.Proofs.Service.CallCourses
import WorkloadLogin.Proofs.Service.LoginSpec

/-! # The life of a credential

A credential is issued by a login and then renewed any number of times, or refused renewal, while
everything around it changes. Who logged in and what the credential is good for stay as issued, and
its lifetimes are those of its role when a call last succeeded.
-/
namespace WorkloadLogin.Service
variable {σ : Type} {w : World σ} {task : TaskId} {s t : State σ} {es : List (Exchange σ)}
  {connection : Option Connection} {request : LoginRequest} {issued c c' : Credential}
  {name : String} {found : Except String (Option Role)}

/-- The credential that a caller has after a login that issued `issued` and renewals since, and the
state in which the last of these calls that succeeded looked up the role. -/
inductive Life (w : World σ) (issued : Credential) : State σ → Credential → Prop
  | issued {task : TaskId} {request : LoginRequest} {connection : Option Connection}
      {es : List (Exchange σ)} {s : State σ} {name : String} {found : Except String (Option Role)}
      (h : Course w task (login request connection).run es (.ok issued))
      (hs : ⟨s,.readRole name,found⟩ ∈ es) : Life w issued s issued
  | renewed {task : TaskId} {connection : Option Connection} {es : List (Exchange σ)}
      {s t : State σ} {c c' : Credential} {name : String} {found : Except String (Option Role)}
      (l : Life w issued s c) (h : Course w task (renew c connection).run es (.ok c'))
      (ht : ⟨t,.readRole name,found⟩ ∈ es) : Life w issued t c'
  | refused {task : TaskId} {connection : Option Connection} {es : List (Exchange σ)} {s : State σ}
      {c : Credential} {e : Error} (l : Life w issued s c)
      (h : Course w task (renew c connection).run es (.error e)) : Life w issued s c

/-- The lifetimes are those that the role of the credential has in a state. -/
def Credential.Follows (c : Credential) (s : State σ) : Prop :=
  ∃ role, s.store.role? c.internalData.role = some role ∧
    c.token.ttl = role.tokenTtl ∧ c.token.maxTtl = role.tokenMaxTtl ∧
    c.token.period = role.tokenPeriod

/-- A credential in the course of its life: sound in itself, the same as issued but for its
lifetimes, and with the lifetimes of its role. -/
structure Lifelong (issued : Credential) (s : State σ) (c : Credential) : Prop where
  name_eq_appId : c.appAlias.name = c.appAlias.metadata.appId
  displayName_eq_instanceId : c.displayName = c.internalData.instanceId
  internalData : c.internalData = issued.internalData
  appAlias : c.appAlias = issued.appAlias
  displayName : c.displayName = issued.displayName
  policies : c.token.policies = issued.token.policies
  boundCidrs : c.token.boundCidrs = issued.token.boundCidrs
  lifetimes : Credential.Follows c s

/-! ## One role is looked up in a call -/

theorem Course.not_readRole_of_admission_ok {now : Timestamp} {role : Role} {signedAt : Instant}
    (h : Course w task (admission request connection now role signedAt).run es (.ok c)) :
    ⟨s,.readRole name,found⟩ ∉ es := by
  obtain ⟨_,_,_,_,_,_,reached,_,_,rfl,-,hverify,hreach,hcheck,hname,-⟩ := h.of_admission_ok
  obtain ⟨_,_,_,_,_,_,rfl⟩ := hverify.of_verify_ok
  obtain ⟨-,_,_,_,_,_,_,rfl,-⟩ := hcheck.of_crossCheck_ok
  obtain ⟨_,_,_,_,_,_,rfl⟩ := hname.of_lookupNames_ok
  have hreached : ⟨s,.readRole name,found⟩ ∉ reached := fun hr => hreach.of_getOrConnect_ok _ hr
  simp [hreached]

/-- A login that succeeds reads one role, the one that it was asked for, and issues a credential
with the token block of this role. -/
theorem Course.readRole_of_login_ok
    (h : Course w task (login request connection).run es (.ok c))
    (hs : ⟨s,.readRole name,found⟩ ∈ es) :
    ∃ role identity names, s.store.role? request.role = some role ∧
      c = role.populate (Identity.toCredential identity request.role names) := by
  obtain ⟨_,role,_,_,_,_,_,_,inner,rfl,-,hrole,-,hinner⟩ := h.of_login_ok
  have hnot : ⟨s,.readRole name,found⟩ ∉ inner := hinner.not_readRole_of_admission_ok
  obtain ⟨_,identity,_,names,_,_,_,_,_,-,-,-,-,-,-,hc⟩ := hinner.of_admission_ok
  simp [hnot] at hs
  obtain ⟨rfl,-⟩ := hs
  exact ⟨role,identity,names,hrole,hc⟩

/-- A renewal that succeeds reads one role, the one that the credential names. -/
theorem Course.readRole_of_renew_ok (h : Course w task (renew c connection).run es (.ok c'))
    (hs : ⟨s,.readRole name,found⟩ ∈ es) :
    ∃ role, s.store.role? c.internalData.role = some role ∧
      c' = { c with token := role.refresh c.token } := by
  obtain ⟨_,_,role,_,_,_,_,_,_,reached,_,rfl,-,hrole,hreach,hcheck,hc⟩ := h.of_renew_ok
  obtain ⟨-,_,_,_,_,_,_,rfl,-⟩ := hcheck.of_crossCheck_ok
  have hreached : ⟨s,.readRole name,found⟩ ∉ reached := fun hr => hreach.of_getOrConnect_ok _ hr
  simp [hreached] at hs
  obtain ⟨rfl,-⟩ := hs
  exact ⟨role,hrole,hc⟩

/-- Every login that succeeds starts a life. -/
theorem exists_life_issued (h : Course w task (login request connection).run es (.ok issued)) :
    ∃ s, Life w issued s issued := by
  obtain ⟨_,role,_,_,s,_,_,_,_,hes,-⟩ := h.of_login_ok
  have hread : ⟨s,.readRole request.role,.ok (some role)⟩ ∈ es := by simp [hes]
  exact ⟨s,.issued h hread⟩

/-- Every renewal that succeeds goes on with it. -/
theorem Life.exists_renewed (l : Life w issued s c)
    (h : Course w task (renew c connection).run es (.ok c')) : ∃ t, Life w issued t c' := by
  obtain ⟨_,_,role,_,_,_,_,t,_,_,_,hes,-⟩ := h.of_renew_ok
  have hread : ⟨t,.readRole c.internalData.role,.ok (some role)⟩ ∈ es := by simp [hes]
  exact ⟨t,.renewed l h hread⟩

/-! ## What a call does to the credential -/

theorem lifelong_issued (h : Course w task (login request connection).run es (.ok issued))
    (hs : ⟨s,.readRole name,found⟩ ∈ es) : Lifelong issued s issued := by
  obtain ⟨role,identity,names,hrole,rfl⟩ := h.readRole_of_login_ok hs
  exact ⟨rfl,rfl,rfl,rfl,rfl,rfl,rfl,role,hrole,rfl,rfl,rfl⟩

/-- A renewal touches the lifetimes alone. -/
theorem Lifelong.renewed (l : Lifelong issued s c)
    (h : Course w task (renew c connection).run es (.ok c'))
    (ht : ⟨t,.readRole name,found⟩ ∈ es) : Lifelong issued t c' := by
  obtain ⟨role,hrole,rfl⟩ := h.readRole_of_renew_ok ht
  obtain ⟨hname,hdisplay,hinternal,halias,hdisplayed,hpolicies,hcidrs,-⟩ := l
  exact ⟨hname,hdisplay,hinternal,halias,hdisplayed,hpolicies,hcidrs,role,hrole,rfl,rfl,rfl⟩

/-- At every point of its life, whatever changed in between, a credential names its application and
its instance as it did when it was issued, has kept all but its lifetimes, and has the lifetimes
that its role had at the last call that succeeded. -/
theorem lifelong_of_life (l : Life w issued s c) : Lifelong issued s c := by
  induction l with
  | issued h hs => exact lifelong_issued h hs
  | renewed _ h ht ih => exact ih.renewed h ht
  | refused _ _ ih => exact ih

/-- The sample state with another role under the same name. -/
def revisedState : State Script :=
  { sampleState with
    store := { sampleState.store with
      roles := [("web",{ tokenPolicies := ["ops"], tokenTtl := ⟨600,.ofNat 5⟩ })] } }

theorem lifelong_of_life_revised :
    ∃ s, Life Script.world sampleCredential s
        { sampleCredential with token := { ttl := ⟨600,.ofNat 5⟩ } } ∧
      Lifelong sampleCredential s
        { sampleCredential with token := { ttl := ⟨600,.ofNat 5⟩ } } := by
  have hlogin : (Schedule.alone Script.world (login sampleRequest (some ⟨"10.0.0.1"⟩)).run
      sampleState).1 = some (.ok sampleCredential) := by rfl
  have hrenew : (Schedule.alone Script.world (renew sampleCredential (some ⟨"10.0.0.1"⟩)).run
      revisedState).1 =
        some (.ok { sampleCredential with token := { ttl := ⟨600,.ofNat 5⟩ } }) := by rfl
  obtain ⟨_,hissued⟩ := exists_life_issued (course_of_alone hlogin)
  obtain ⟨s,hrenewed⟩ := hissued.exists_renewed (course_of_alone hrenew)
  exact ⟨s,hrenewed,lifelong_of_life hrenewed⟩

end WorkloadLogin.Service
