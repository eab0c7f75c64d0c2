import WorkloadLogin.Proofs.Service.CallCourses
import WorkloadLogin.Proofs.Service.LoginSpec
import WorkloadLogin.Proofs.X509.Trust

/-! # Issued credentials can be renewed

A renewal recovers the identity from the credential and puts it through the checks of the login
that issued it. While the role, the configuration, the client and the platform's answers are what
that login found, the checks pass and the credential comes back as it was.
-/
namespace WorkloadLogin.Service
variable {σ α : Type} {w : World σ} {task : TaskId} {s t : State σ} {es rest : List (Exchange σ)}
  {request : LoginRequest} {connection : Option Connection} {c : Credential} {role : Role}
  {identity : Identity} {config : Config} {client : ClientId}

/-! ## As the login found it -/

/-- A lookup of a course and its answer. -/
structure Lookup where
  client : ClientId
  kind : Platform.Kind
  guid : String
  found : Platform.Found kind

def Exchange.lookup? : Exchange σ → Option Lookup
  | ⟨_,.lookup client kind guid,found⟩ => some ⟨client,kind,guid,found⟩
  | _ => none

/-- The lookups of a course, in order. -/
def lookups (es : List (Exchange σ)) : List Lookup := es.filterMap Exchange.lookup?

/-- Asked the same in a row, the platform answers as it did. -/
def Replays (w : World σ) : List Lookup → σ → Prop
  | [], _ => True
  | l :: ls, u => (w.lookup l.client l.kind l.guid u).1 = l.found ∧
      Replays w ls (w.lookup l.client l.kind l.guid u).2

/-- The answer is the one that this state would give, where it is about roles or configuration. -/
def Request.HoldsIn (s : State σ) : (q : Request) → q.Answer → Prop
  | .readRole name, found => found = .ok (s.store.role? name)
  | .readConfig, found => found = .ok s.store.config
  | _, _ => True

/-- All that a renewal depends on is in this state as the login of this course found it: its role,
its configuration, the client of its lookups, and the answers to the first three of them, which are
those of its cross-check. -/
structure Undisturbed (w : World σ) (es : List (Exchange σ)) (s : State σ) : Prop where
  quiet : s.Quiet w
  stored : ∀ e ∈ es, e.request.HoldsIn s e.answer
  cached : ∀ l ∈ lookups es, s.cache = .fresh l.client
  replays : Replays w ((lookups es).take 3) s.world

@[simp] theorem lookups_nil : lookups ([] : List (Exchange σ)) = [] := rfl

theorem lookups_cons (e : Exchange σ) (es : List (Exchange σ)) :
    lookups (e :: es) = e.lookup?.toList ++ lookups es := by
  unfold lookups
  cases h : e.lookup? <;> simp [h]

theorem lookups_append (es rest : List (Exchange σ)) :
    lookups (es ++ rest) = lookups es ++ lookups rest := List.filterMap_append ..

theorem lookups_eq_nil_of_connects (h : ∀ e ∈ es, e.request.Connects) : lookups es = [] := by
  refine List.filterMap_eq_nil_iff.mpr fun e he => ?_
  have hconnects := h e he
  obtain ⟨_,q,_⟩ := e
  cases q <;> first | rfl | exact hconnects.elim

/-- What a successful login leaves for a renewal: it was allowed, the platform's records agreed, and
its credential is made of its role and a complete identity. -/
structure Grounds (w : World σ) (request : LoginRequest) (connection : Option Connection)
    (c : Credential) (s : State σ) (role : Role) (identity : Identity) (config : Config)
    (client : ClientId) : Prop where
  role_ne : request.role ≠ ""
  complete : X509.Complete identity
  stored : s.store.role? request.role = some role
  configured : s.store.config = some config
  cached : s.cache = .fresh client
  corroborated : ∃ after, Corroborated w client role identity connection s.world after
  credential : ∃ names, c = role.populate (identity.toCredential request.role names)

theorem exists_grounds (hx : ∀ u, (w.verifier u).identify = X509.verifier.identify)
    (h : Course w task (login request connection).run es (.ok c)) (hs : Undisturbed w es s) :
    ∃ role identity config client,
      Grounds w request connection c s role identity config client := by
  obtain ⟨_,role,_,_,s₁,_,_,_,inner,hes,hrole,-,-,hinner⟩ := h.of_login_ok
  obtain ⟨config,identity,client,names,s₂,_,reached,_,named,rfl,-,hverify,hreach,hcheck,-,hc⟩ :=
    hinner.of_admission_ok
  obtain ⟨_,signing,_,_,_,u,rfl⟩ := hverify.of_verify_ok
  obtain ⟨hallowed,app,org,space,s₃,_,_,rfl,hagrees⟩ := hcheck.of_crossCheck_ok
  have hread : ⟨s₁,.readRole request.role,.ok (some role)⟩ ∈ es := by simp [hes]
  have hconfig : ⟨s₂,.readConfig,.ok (some config)⟩ ∈ es := by simp [hes]
  have hcomplete : X509.Complete identity := by
    obtain ⟨_,hanswer⟩ := hverify.answered (e := ⟨u,.identify signing,.ok identity⟩) (by simp)
    have hidentify := verifier_of_answer hanswer
    rw [hx, X509.verifierWith_identify, mapError_ok_iff] at hidentify
    exact X509.complete_of_identify_ok hidentify
  have hreached := lookups_eq_nil_of_connects hreach.of_getOrConnect_ok
  have hlookups : lookups es = ⟨client,.app,identity.appId,.ok app⟩ ::
      ⟨client,.org,identity.orgId,.ok org⟩ :: ⟨client,.space,identity.spaceId,.ok space⟩ ::
        lookups named := by
    rw [hes]
    simp [lookups_cons, lookups_append, hreached, Exchange.lookup?]
  have hcached := hs.cached
  have hreplays := hs.replays
  rw [hlookups] at hcached hreplays
  obtain ⟨happ,horg,hspace,-⟩ := hreplays
  exact ⟨role,identity,config,client,hrole,hcomplete,(Except.ok.inj (hs.stored _ hread)).symm,
    (Except.ok.inj (hs.stored _ hconfig)).symm,hcached _ (List.mem_cons_self ..),⟨_,hallowed,app,
      org,space,_,_,Prod.ext happ rfl,Prod.ext horg rfl,Prod.ext hspace rfl,hagrees⟩,names,hc⟩

/-! ## One renewal -/

theorem outcome?_tryCatch_of_ok {x : Action α} {handler : Error → Action α} {a : α}
    (hx : outcome? w task x s = some (.ok a, t)) :
    outcome? w task (tryCatch x handler) s = some (.ok a, t) := by
  change settle w task (x.run >>= _) s = _
  rw [settle_bind]
  change (outcome? w task x s).bind _ = _
  rw [hx]
  rfl

theorem Grounds.ofCredential (g : Grounds w request connection c s role identity config client) :
    RenewalIdentity.ofCredential c = .ok ⟨request.role,identity⟩ := by
  obtain ⟨names,rfl⟩ := g.credential
  obtain ⟨hi,ho,hs,ha,hip⟩ := g.complete
  exact ofCredential_ok_iff.mpr ⟨g.role_ne,hi,hip,ho,ha,hs,rfl⟩

/-- The lifetimes of the role that issued a credential are those that the credential has. -/
theorem Grounds.refresh_eq (g : Grounds w request connection c s role identity config client) :
    { c with token := role.refresh c.token } = c := by
  obtain ⟨names,rfl⟩ := g.credential
  rfl

/-- On these grounds a renewal by itself returns the credential as it is. Beside the log and the
platform's own state it leaves everything as it was. -/
theorem outcome?_renew_of_grounds (hq : s.Quiet w)
    (g : Grounds w request connection c s role identity config client) :
    ∃ t, outcome? w task (renew c connection) s = some (.ok c, t) ∧ t.store = s.store ∧
      t.cache = s.cache ∧ t.configQueue = [] ∧ t.connectQueue = [] := by
  obtain ⟨after,hcorroborated⟩ := g.corroborated
  let entered := s.entered .config task .shared
  let found := (entered.record .readConfig).record (.readRole request.role)
  have hconfig : outcome? w task (findConfig .reachingPlatform) entered =
      some (.ok config,entered.record .readConfig) :=
    (outcome?_findConfig_ok_iff (s := entered) hq.getConfig).mpr ⟨g.configured,rfl⟩
  have hrenewal : outcome? w task (orFail .corruptCredential (RenewalIdentity.ofCredential c))
      (entered.record .readConfig) =
        some (.ok ⟨request.role,identity⟩,entered.record .readConfig) :=
    outcome?_orFail_ok_iff.mpr ⟨g.ofCredential,rfl⟩
  have hrole : outcome? w task (findRole request.role .roleGone) (entered.record .readConfig) =
      some (.ok role,found) :=
    (outcome?_findRole_ok_iff (s := entered.record .readConfig) hq.getRole).mpr ⟨g.stored,rfl⟩
  have hclient : outcome? w task (getOrConnect config.platformSettings) found =
      some (.ok client,found.record .cached) :=
    (outcome?_getOrConnect_ok_iff (s := found) hq.connect).mpr (.inl ⟨g.cached,rfl⟩)
  let checked : State σ := { found.record .cached with
    log := .lookup client .space identity.spaceId :: .lookup client .org identity.orgId ::
      .lookup client .app identity.appId :: .cached :: found.log
    world := after }
  have hcross : outcome? w task (crossCheck client role identity connection)
      (found.record .cached) = some (.ok (),checked) :=
    outcome?_crossCheck_ok_iff.mpr ⟨after,hcorroborated,rfl⟩
  have hleft : checked.configQueue.leave task = [] := by
    change Queue.leave task [⟨task,.shared⟩] = []
    simp [Queue.leave]
  have hfree : s.queue .config = [] := hq.config
  refine ⟨_,(outcome?_holding_ok_iff hfree).mpr ⟨checked,?_,rfl⟩,rfl,rfl,hleft,hq.connect⟩
  rw [outcome?_bind_of_ok hconfig, outcome?_bind_of_ok hrenewal, outcome?_bind_of_ok hrole,
    outcome?_bind_of_ok hclient, outcome?_bind_of_ok (outcome?_tryCatch_of_ok hcross),
    outcome?_pure, g.refresh_eq]

/-! ## Any number of renewals -/

/-- Renews again and again what the last renewal returned, each time by itself in the next state. -/
def renewals (w : World σ) (connection : Option Connection) :
    Credential → List (State σ) → Option (Except Error Credential)
  | c, [] => some (.ok c)
  | c, s :: ss =>
    match (Schedule.alone w (renew c connection).run s).1 with
    | some (.ok c) => renewals w connection c ss
    | ended => ended

theorem exists_alone_renew (hx : ∀ u, (w.verifier u).identify = X509.verifier.identify)
    (h : Course w task (login request connection).run es (.ok c)) (hs : Undisturbed w es s) :
    ∃ t, Schedule.alone w (renew c connection).run s = (some (.ok c),t) ∧ t.store = s.store ∧
      t.cache = s.cache ∧ t.configQueue = [] ∧ t.connectQueue = [] := by
  obtain ⟨_,_,_,_,g⟩ := exists_grounds hx h hs
  obtain ⟨t,ht,hkept⟩ := outcome?_renew_of_grounds hs.quiet g
  refine ⟨t,?_,hkept⟩
  rw [Schedule.alone, advance_eq_done_iff.mpr ht]
  rfl

/-- A renewal does not stand in the way of the next one: the state that it ends in is undisturbed as
long as storage works and the platform gives its answers again. -/
theorem undisturbed_after_renew (hx : ∀ u, (w.verifier u).identify = X509.verifier.identify)
    (h : Course w task (login request connection).run es (.ok c)) (hs : Undisturbed w es s)
    (ht : (Schedule.alone w (renew c connection).run s).2 = t)
    (hrole : w.storageFault t.world .getRole = none)
    (hconfig : w.storageFault t.world .getConfig = none)
    (hreplays : Replays w ((lookups es).take 3) t.world) : Undisturbed w es t := by
  obtain ⟨t',ht',hstore,hcache,hconfigQueue,hconnectQueue⟩ := exists_alone_renew hx h hs
  rw [ht'] at ht
  subst ht
  refine ⟨⟨hrole,hconfig,hconfigQueue,hconnectQueue⟩,fun e he => ?_,fun l hl => ?_,hreplays⟩
  · have hstored := hs.stored e he
    unfold Request.HoldsIn at hstored ⊢
    rw [hstore]
    exact hstored
  · exact hcache.trans (hs.cached l hl)

/-- Where identities are read from X.509 certificates, a credential that a login issued comes back
unchanged from any number of renewals in states that are undisturbed since that login. -/
theorem renewals_unchanged (hx : ∀ u, (w.verifier u).identify = X509.verifier.identify)
    (h : Course w task (login request connection).run es (.ok c)) (ss : List (State σ))
    (hss : ∀ s ∈ ss, Undisturbed w es s) : renewals w connection c ss = some (.ok c) := by
  induction ss with
  | nil => rfl
  | cons s ss ih =>
    obtain ⟨t,hfirst,-⟩ := exists_alone_renew hx h (hss s (List.mem_cons_self ..))
    have hrest := ih fun t ht => hss t (List.mem_cons_of_mem _ ht)
    rw [renewals, hfirst]
    exact hrest

/-! ## A sample that is decided -/

instance decidableEqRecord (kind : Platform.Kind) : DecidableEq kind.Record :=
  match kind with
  | .app => inferInstanceAs (DecidableEq Platform.App)
  | .org => inferInstanceAs (DecidableEq Platform.Org)
  | .space => inferInstanceAs (DecidableEq Platform.Space)

instance decidableHoldsIn (s : State σ) : (q : Request) → (a : q.Answer) → Decidable (q.HoldsIn s a)
  | .readRole name, found => inferInstanceAs (Decidable (found = .ok (s.store.role? name)))
  | .readConfig, found => inferInstanceAs (Decidable (found = .ok s.store.config))
  | .now, _ | .storeConfig _, _ | .join _ _, _ | .obtain _, _ | .leave _, _ | .cached, _
  | .keep _, _ | .taint _, _ | .forget, _ | .extract _, _ | .checkSignature _ _, _
  | .checkChain _ _ _ _, _ | .identify _, _ | .startConnect _, _ | .awaitConnect, _
  | .lookup _ _ _, _ => isTrue trivial

instance decidableReplays (w : World σ) : (ls : List Lookup) → (u : σ) → Decidable (Replays w ls u)
  | [], _ => isTrue trivial
  | l :: ls, u =>
    have := decidableReplays w ls (w.lookup l.client l.kind l.guid u).2
    inferInstanceAs (Decidable ((w.lookup l.client l.kind l.guid u).1 = l.found ∧ _))

/-- A certificate of instance `i` and application `a` at 10.0.0.1. -/
def sampleLeaf : Bytes := [
  0x30, 0x81, 0x9d, 0x30, 0x81, 0x92, 0x02, 0x01, 0x01, 0x30, 0x03, 0x06, 0x01, 0x2a, 0x30, 0x00,
  0x30, 0x1e, 0x17, 0x0d, 0x37, 0x30, 0x30, 0x31, 0x30, 0x31, 0x30, 0x30, 0x30, 0x30, 0x30, 0x30,
  0x5a, 0x17, 0x0d, 0x37, 0x30, 0x31, 0x32, 0x33, 0x31, 0x32, 0x33, 0x35, 0x39, 0x35, 0x39, 0x5a,
  0x30, 0x47, 0x31, 0x0a, 0x30, 0x08, 0x06, 0x03, 0x55, 0x04, 0x03, 0x0c, 0x01, 0x69, 0x31, 0x17,
  0x30, 0x15, 0x06, 0x03, 0x55, 0x04, 0x0b, 0x0c, 0x0e, 0x6f, 0x72, 0x67, 0x61, 0x6e, 0x69, 0x7a,
  0x61, 0x74, 0x69, 0x6f, 0x6e, 0x3a, 0x6f, 0x31, 0x10, 0x30, 0x0e, 0x06, 0x03, 0x55, 0x04, 0x0b,
  0x0c, 0x07, 0x73, 0x70, 0x61, 0x63, 0x65, 0x3a, 0x73, 0x31, 0x0e, 0x30, 0x0c, 0x06, 0x03, 0x55,
  0x04, 0x0b, 0x0c, 0x05, 0x61, 0x70, 0x70, 0x3a, 0x61, 0x30, 0x08, 0x30, 0x03, 0x06, 0x01, 0x2a,
  0x03, 0x01, 0x00, 0xa3, 0x13, 0x30, 0x11, 0x30, 0x0f, 0x06, 0x03, 0x55, 0x1d, 0x11, 0x04, 0x08,
  0x30, 0x06, 0x87, 0x04, 0x0a, 0x00, 0x00, 0x01, 0x30, 0x03, 0x06, 0x01, 0x2a, 0x03, 0x01, 0x00]

/-- The sample surroundings with identities that are read from the certificate. -/
def certifiedWorld : World Script :=
  { Script.world with
    verifier := fun _ =>
      { extract := fun _ => .ok default
        checkSignature := fun _ _ => .ok ⟨sampleLeaf⟩
        checkChain := fun _ _ _ _ => .ok ()
        identify := X509.verifier.identify } }

def connectedState : State Script := { sampleState with cache := .fresh 0 }

theorem renewals_unchanged_sample :
    renewals certifiedWorld (some ⟨"10.0.0.1"⟩) sampleCredential [connectedState,connectedState] =
      some (.ok sampleCredential) := by
  have hlogin : (Schedule.alone certifiedWorld (login sampleRequest (some ⟨"10.0.0.1"⟩)).run
      sampleState).1 = some (.ok sampleCredential) := by decide +kernel
  have hundisturbed : Undisturbed certifiedWorld (exchanges certifiedWorld 0
      (login sampleRequest (some ⟨"10.0.0.1"⟩)).run sampleState) connectedState :=
    ⟨⟨rfl,rfl,rfl,rfl⟩,by decide +kernel,by decide +kernel,by decide +kernel⟩
  exact renewals_unchanged (fun _ => rfl) (course_of_alone hlogin) _ (by simpa using hundisturbed)

end WorkloadLogin.Service
