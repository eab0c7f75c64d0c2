import WorkloadLogin.Proofs.Service.Judgement

/-! # What a talk may ask

Which requests a talk can come to shows on its tree, whatever the answers are. What all of its
requests have in common then holds of the log that a task by itself leaves, and of the trace of
every pool that the talk runs in.
-/
namespace WorkloadLogin.Service
variable {σ ρ α β ε : Type} {w : World σ} {task : TaskId} {s t : State σ} {p : Request → Prop}

/-- Whatever the answers are, each request of the talk has the property. -/
def Asks (p : Request → Prop) : Talk α → Prop
  | .done _ => True
  | .ask q next => p q ∧ ∀ a, Asks p (next a)

theorem Asks.bind {x : Talk α} {f : α → Talk β} (hx : Asks p x) (hf : ∀ a, Asks p (f a)) :
    Asks p (x >>= f) := by
  change Asks p (x.bind f)
  induction x with
  | done a => exact hf a
  | ask q next ih => exact ⟨hx.1,fun a => ih a (hx.2 a)⟩

theorem Asks.mono {p' : Request → Prop} {x : Talk α} (hx : Asks p x) (h : ∀ q, p q → p' q) :
    Asks p' x := by
  induction x with
  | done a => trivial
  | ask q next ih => exact ⟨h q hx.1,fun a => ih a (hx.2 a)⟩

/-! ## Actions -/

theorem asks_pure (a : α) : Asks p (pure a : Action α).run := trivial

theorem asks_throw (e : Error) : Asks p (throw e : Action α).run := trivial

theorem asks_orFail (failure : ε → Error) (r : Except ε α) : Asks p (orFail failure r).run := by
  cases r <;> trivial

theorem asks_ask {q : Request} (hq : p q) : Asks p (ask q).run := ⟨hq,fun _ => trivial⟩

namespace Asks

theorem bind_action {x : Action α} {f : α → Action β} (hx : Asks p x.run)
    (hf : ∀ a, Asks p (f a).run) : Asks p (x >>= f).run := by
  change Asks p (x.run >>= ExceptT.bindCont f)
  apply hx.bind
  intro r
  cases r with
  | ok a => exact hf a
  | error e => trivial

/-- What is asked for and then looked at. -/
theorem consult {x : Action (Except ε α)} {failure : ε → Error} {f : α → Action β}
    (hx : Asks p x.run) (hf : ∀ a, Asks p (f a).run) :
    Asks p (x >>= fun r => orFail failure r >>= f).run :=
  hx.bind_action fun _ => (asks_orFail ..).bind_action hf

theorem tryCatch {x : Action α} {handler : Error → Action α} (hx : Asks p x.run)
    (hh : ∀ e, Asks p (handler e).run) : Asks p (tryCatch x handler).run := by
  apply hx.bind
  intro r
  cases r with
  | ok a => trivial
  | error e => exact hh e

theorem holding {lock : Lock} {access : Access} {body : Action α} (hjoin : p (.join lock access))
    (hobtain : p (.obtain lock)) (hleave : p (.leave lock)) (hbody : Asks p body.run) :
    Asks p (holding lock access body).run :=
  ⟨hjoin,fun _ => ⟨hobtain,fun _ => hbody.bind fun _ => ⟨hleave,fun _ => trivial⟩⟩⟩

end Asks

/-! ## Logs and traces -/

/-- A task by itself has asked what its talk may ask. -/
theorem asked_of_asks {x : Talk α} {a : α} (hx : Asks p x) (h : settle w task x s = some (a,t)) :
    ∃ asked : List Request, t.log = asked.reverse ++ s.log ∧ ∀ q ∈ asked, p q := by
  induction x generalizing s with
  | done b =>
    cases h
    exact ⟨[],rfl,by simp⟩
  | ask q next ih =>
    obtain ⟨⟨b,u⟩,hanswer,hrest⟩ := Option.bind_eq_some_iff.mp h
    obtain ⟨asked,hlog,hasked⟩ := ih b (hx.2 b) hrest
    have hfirst : t.log = (q :: asked).reverse ++ s.log := by
      rw [hlog,log_of_answer hanswer]
      simp
    exact ⟨q :: asked,hfirst,List.forall_mem_cons.mpr ⟨hx.1,hasked⟩⟩

/-- So have the tasks of a pool: what they may still ask, and what is in the trace. -/
theorem asks_of_reachable {talk : TaskId → Option (Talk ρ)} {store : Store} {world : σ}
    {pool : Pool σ ρ} (htalk : ∀ task x, talk task = some x → Asks p x)
    (hr : Pool.Reachable w (Pool.start talk store world) pool) :
    (∀ task x, pool.talk task = some x → Asks p x) ∧ ∀ e ∈ pool.trace, p e.request := by
  induction hr with
  | refl => exact ⟨htalk,fun e he => nomatch he⟩
  | tail _ hstep ih =>
    obtain ⟨htalks,htrace⟩ := ih
    cases hstep with
    | surroundings roles world => exact ⟨htalks,htrace⟩
    | @answer task q next a u ht ha =>
      have hnow := htalks task _ ht
      refine ⟨?_,List.forall_mem_cons.mpr ⟨hnow.1,htrace⟩⟩
      intro other x hx
      by_cases ho : other = task
      · subst ho
        have hnext : some (next a) = some x := by simpa [Pool.answered] using hx
        cases hnext
        exact hnow.2 a
      · have hother := (Function.update_of_ne ho ..).symm.trans hx
        exact htalks other x hother

/-! ## Calls that store nothing -/

/-- All requests but those that replace the configuration. -/
def Request.Storeless : Request → Prop
  | .storeConfig _ => False
  | _ => True

theorem asks_findRole (name : String) (absent : Error) :
    Asks Request.Storeless (findRole name absent).run := by
  refine Asks.consult (asks_ask trivial) fun found => ?_
  cases found with
  | none => exact asks_throw _
  | some role => exact asks_pure role

theorem asks_findConfig (need : ConfigNeed) : Asks Request.Storeless (findConfig need).run := by
  refine Asks.consult (asks_ask trivial) fun found => ?_
  cases found with
  | none => exact asks_throw _
  | some config => exact asks_pure config

theorem asks_verify (config : Config) (request : LoginRequest) (signingTime : Instant)
    (now : Timestamp) : Asks Request.Storeless (verify config request signingTime now).run := by
  refine Asks.consult (asks_ask trivial) fun certs => ?_
  refine Asks.consult (asks_ask trivial) fun signing => ?_
  refine Asks.consult (asks_ask trivial) fun _ => ?_
  have hidentify : Asks Request.Storeless (ask (.identify signing)).run := asks_ask trivial
  exact hidentify.bind_action fun _ => asks_orFail ..

theorem asks_connect (settings : Platform.Settings) :
    Asks Request.Storeless (connect settings).run := by
  have hstart : Asks Request.Storeless (ask (.startConnect settings)).run := asks_ask trivial
  refine hstart.bind_action fun _ => Asks.consult (asks_ask trivial) fun client => ?_
  have hkeep : Asks Request.Storeless (ask (.keep client)).run := asks_ask trivial
  exact hkeep.bind_action fun _ => asks_pure _

theorem asks_getOrConnect (settings : Platform.Settings) :
    Asks Request.Storeless (getOrConnect settings).run := by
  have hcached : Asks Request.Storeless (ask .cached).run := asks_ask trivial
  refine hcached.bind_action fun found => ?_
  cases found with
  | some client => exact asks_pure client
  | none =>
    refine Asks.holding trivial trivial trivial (hcached.bind_action fun found => ?_)
    cases found with
    | some client => exact asks_pure client
    | none => exact asks_connect settings

theorem asks_lookupNames (client : ClientId) (identity : Identity) :
    Asks Request.Storeless (lookupNames client identity).run := by
  refine Asks.consult (asks_ask trivial) fun app => ?_
  refine Asks.consult (asks_ask trivial) fun org => ?_
  exact Asks.consult (asks_ask trivial) fun space => asks_pure _

/-- The lookup that is to confirm a part of an identity. -/
def confirmation (client : ClientId) (identity : Identity) : Platform.Kind → Request
  | .app => .lookup client .app identity.appId
  | .org => .lookup client .org identity.orgId
  | .space => .lookup client .space identity.spaceId

theorem asks_crossCheck (client : ClientId) (role : Role) (identity : Identity)
    (connection : Option Connection) :
    Asks (fun q => ∃ kind, q = confirmation client identity kind)
      (crossCheck client role identity connection).run := by
  refine (asks_orFail ..).bind_action fun _ => ?_
  refine (asks_orFail ..).bind_action fun _ => ?_
  refine ((asks_ask ⟨.app,rfl⟩).bind_action fun _ => asks_orFail ..).bind_action fun app => ?_
  refine (asks_orFail ..).bind_action fun _ => ?_
  refine ((asks_ask ⟨.org,rfl⟩).bind_action fun _ => asks_orFail ..).bind_action fun org => ?_
  refine (asks_orFail ..).bind_action fun _ => ?_
  exact ((asks_ask ⟨.space,rfl⟩).bind_action fun _ => asks_orFail ..).bind_action fun space =>
    asks_orFail ..

theorem asks_crossCheck_storeless (client : ClientId) (role : Role) (identity : Identity)
    (connection : Option Connection) :
    Asks Request.Storeless (crossCheck client role identity connection).run := by
  refine (asks_crossCheck client role identity connection).mono ?_
  rintro _ ⟨kind,rfl⟩
  cases kind <;> trivial

theorem asks_login (request : LoginRequest) (connection : Option Connection) :
    Asks Request.Storeless (login request connection).run := by
  have hnow : Asks Request.Storeless (ask .now).run := asks_ask trivial
  refine hnow.bind_action fun now => ?_
  refine (asks_orFail ..).bind_action fun _ => ?_
  refine (asks_findRole ..).bind_action fun role => ?_
  refine (asks_orFail ..).bind_action fun _ => ?_
  refine (asks_orFail ..).bind_action fun signingTime => ?_
  refine Asks.holding trivial trivial trivial ((asks_findConfig _).bind_action fun config => ?_)
  refine (asks_orFail ..).bind_action fun _ => ?_
  refine (asks_verify ..).bind_action fun identity => ?_
  refine (asks_getOrConnect _).bind_action fun client => ?_
  refine (asks_crossCheck_storeless ..).bind_action fun _ => ?_
  exact (asks_lookupNames ..).bind_action fun names => asks_pure _

theorem asks_renew (credential : Credential) (connection : Option Connection) :
    Asks Request.Storeless (renew credential connection).run := by
  refine Asks.holding trivial trivial trivial ((asks_findConfig _).bind_action fun config => ?_)
  refine (asks_orFail ..).bind_action fun renewal => ?_
  refine (asks_findRole ..).bind_action fun role => ?_
  refine (asks_getOrConnect _).bind_action fun client => Asks.bind_action ?_ fun _ => asks_pure _
  have htaint : Asks Request.Storeless (ask (.taint client)).run := asks_ask trivial
  exact (asks_crossCheck_storeless ..).tryCatch fun e =>
    htaint.bind_action fun _ => asks_throw e

theorem asks_resolveRole (name : String) : Asks Request.Storeless (resolveRole name).run := by
  unfold resolveRole
  split
  · exact asks_throw _
  · exact (asks_findRole ..).bind_action fun _ => asks_pure _

/-! ## Calls that store a configuration -/

/-- No configuration is stored but one that lacks nothing. -/
def Request.StoresComplete : Request → Prop
  | .storeConfig config => config.gap? = none
  | _ => True

theorem Request.Storeless.storesComplete {q : Request} (h : q.Storeless) : q.StoresComplete := by
  cases q with
  | storeConfig config => exact h.elim
  | _ => trivial

theorem asks_writeConfig (config : Config) :
    Asks Request.StoresComplete (writeConfig config).run := by
  unfold writeConfig
  cases hgap : config.gap? with
  | some gap => exact asks_throw _
  | none =>
    refine Asks.holding trivial trivial trivial (Asks.consult (asks_ask hgap) fun _ => ?_)
    have hforget : Asks Request.StoresComplete forgetClient.run :=
      Asks.holding trivial trivial trivial (asks_ask trivial)
    exact hforget.bind_action fun _ => asks_pure _

end WorkloadLogin.Service
