import WorkloadLogin.Proofs.Service.Admission
import WorkloadLogin.Proofs.Service.Judgement

/-! # Gates of the storage and the platform

Logins and renewals share these gates: a role and a configuration must be stored, a client must be
at hand or be connected, and the cross-check must find nothing to object to. The cross-check is a
row of gates of its own, which look at one bound or at one record each.
-/
namespace WorkloadLogin.Service
variable {σ α γ : Type} {w : World σ} {task : TaskId} {s t : State σ}
  {refuses : γ → Error → Prop} {does amends : γ → List Deed} {g g' : γ}

/-- Nothing has changed that the gates look at. -/
structure State.Same (s u : State σ) : Prop where
  store : u.store = s.store
  cache : u.cache = s.cache
  world : u.world = s.world

/-! ## Storage -/

/-- What storage gives when it may fail. -/
def fetched (fault : Option String) (a : α) : Except String α :=
  match fault with
  | some text => .error text
  | none => .ok a

theorem answer_readRole (name : String) (s : State σ) :
    State.answer w task (.readRole name) s =
      some (fetched (w.storageFault s.world .getRole) (s.store.role? name),
        s.record (.readRole name)) := by
  simp only [State.answer,State.reply,State.stored,fetched]
  cases w.storageFault s.world .getRole <;> rfl

theorem answer_readConfig (s : State σ) :
    State.answer w task .readConfig s =
      some (fetched (w.storageFault s.world .getConfig) s.store.config,s.record .readConfig) := by
  simp only [State.answer,State.reply,State.stored,fetched]
  cases w.storageFault s.world .getConfig <;> rfl

theorem fetched_error_iff {fault : Option String} {a : α} {e : Error} :
    (fetched fault a).mapError Error.storage = .error e ↔
      ∃ text, fault = some text ∧ e = .storage text := by
  cases fault with
  | none => simp [fetched]
  | some text => simp [fetched,eq_comm]

theorem fetched_ok_iff {fault : Option String} {a b : α} :
    fetched fault a = .ok b ↔ fault = none ∧ a = b := by
  cases fault <;> simp [fetched]

/-- A stored role has two gates: the read must not fail, and the role must be there. -/
theorem judges_findRole {name : String} {absent : Error}
    (hg : ∀ e, refuses g e ↔
      ∃ text, w.storageFault s.world .getRole = some text ∧ e = .storage text)
    (hg' : ∀ e, refuses g' e ↔ s.store.role? name = none ∧ e = absent) (hd : does g = [])
    (ha : amends g = []) (hd' : does g' = []) (ha' : amends g' = []) :
    Judges w task refuses does amends [g,g'] (findRole name absent) s := by
  have hread : outcome? w task (ask (.readRole name)) s =
      some (.ok (fetched (w.storageFault s.world .getRole) (s.store.role? name)),
        s.record (.readRole name)) := by
    rw [outcome?_ask,answer_readRole]
    rfl
  refine Judges.consult hread rfl (fun e => ?_) hd ha fun found hfound => ?_
  · exact (hg e).trans fetched_error_iff.symm
  · obtain ⟨-,rfl⟩ := fetched_ok_iff.mp hfound
    refine judges_some (fun a hsome => ?_) (fun hnone => ?_) hg' hd' ha'
    · rw [hsome]
    · rw [hnone]

theorem judges_findConfig {need : ConfigNeed}
    (hg : ∀ e, refuses g e ↔
      ∃ text, w.storageFault s.world .getConfig = some text ∧ e = .storage text)
    (hg' : ∀ e, refuses g' e ↔ s.store.config = none ∧ e = .notConfigured need)
    (hd : does g = []) (ha : amends g = []) (hd' : does g' = []) (ha' : amends g' = []) :
    Judges w task refuses does amends [g,g'] (findConfig need) s := by
  have hread : outcome? w task (ask .readConfig) s =
      some (.ok (fetched (w.storageFault s.world .getConfig) s.store.config),
        s.record .readConfig) := by
    rw [outcome?_ask,answer_readConfig]
    rfl
  refine Judges.consult hread rfl (fun e => ?_) hd ha fun found hfound => ?_
  · exact (hg e).trans fetched_error_iff.symm
  · obtain ⟨-,rfl⟩ := fetched_ok_iff.mp hfound
    refine judges_some (fun a hsome => ?_) (fun hnone => ?_) hg' hd' ha'
    · rw [hsome]
    · rw [hnone]

theorem stored_of_findRole {name : String} {absent : Error} {role : Role}
    (h : outcome? w task (findRole name absent) s = some (.ok role,t)) :
    w.storageFault s.world .getRole = none ∧ s.store.role? name = some role ∧
      t = s.record (.readRole name) := by
  have hfault : w.storageFault s.world .getRole = none := by
    unfold findRole at h
    rw [outcome?_ask_bind,answer_readRole,Option.bind_some,outcome?_orFail_bind] at h
    cases hf : w.storageFault s.world .getRole with
    | none => rfl
    | some text => simp [hf,fetched] at h
  exact ⟨hfault,(outcome?_findRole_ok_iff hfault).mp h⟩

theorem stored_of_findConfig {need : ConfigNeed} {config : Config}
    (h : outcome? w task (findConfig need) s = some (.ok config,t)) :
    w.storageFault s.world .getConfig = none ∧ s.store.config = some config ∧
      t = s.record .readConfig := by
  have hfault : w.storageFault s.world .getConfig = none := by
    unfold findConfig at h
    rw [outcome?_ask_bind,answer_readConfig,Option.bind_some,outcome?_orFail_bind] at h
    cases hf : w.storageFault s.world .getConfig with
    | none => rfl
    | some text => simp [hf,fetched] at h
  exact ⟨hfault,(outcome?_findConfig_ok_iff hfault).mp h⟩

/-! ## The client -/

/-- No client is at hand, and the attempt to connect fails. -/
def Unreachable (w : World σ) (settings : Platform.Settings) (cache : Cache) (before : σ)
    (e : Platform.Error) : Prop :=
  cache.client? = none ∧ ∃ after, w.awaitConnect (w.startConnect settings before) =
    some (.error e,after)

theorem Unreachable.unique {settings : Platform.Settings} {cache : Cache} {before : σ}
    {e e' : Platform.Error} (h : Unreachable w settings cache before e)
    (h' : Unreachable w settings cache before e') : e = e' := by
  obtain ⟨-,after,hawait⟩ := h
  obtain ⟨-,after',hawait'⟩ := h'
  cases hawait.symm.trans hawait'
  rfl

theorem Reaches.not_unreachable {settings : Platform.Settings} {cache : Cache} {before after : σ}
    {client : ClientId} {e : Platform.Error} (h : Reaches w settings cache before client after) :
    ¬ Unreachable w settings cache before e := by
  rintro ⟨hnone,later,hfailed⟩
  cases h with
  | cached hfresh => simp [hfresh,Cache.client?] at hnone
  | connected _ hawait => cases hawait.symm.trans hfailed

/-- What is done to come by a client: nothing if one is at hand. -/
def connecting (w : World σ) (settings : Platform.Settings) (cache : Cache) (before : σ) :
    List Deed :=
  match cache.client?,w.awaitConnect (w.startConnect settings before) with
  | some _,_ => []
  | none,some (.ok client,_) => [.connect settings,.keep client]
  | none,_ => [.connect settings]

theorem outcome?_connect_some {settings : Platform.Settings} {r : Except Error ClientId}
    (h : outcome? w task (connect settings) s = some (r,t)) :
    (∃ client, w.awaitConnect (w.startConnect settings s.world) = some (.ok client,t.world) ∧
        r = .ok client ∧
        t.log = .keep client :: .awaitConnect :: .startConnect settings :: s.log) ∨
      ∃ e, w.awaitConnect (w.startConnect settings s.world) = some (.error e,t.world) ∧
        r = .error (.platform e) ∧ t.log = .awaitConnect :: .startConnect settings :: s.log := by
  have hstart : State.answer w task (.startConnect settings) s = some ((),
      { s.record (.startConnect settings) with world := w.startConnect settings s.world }) := rfl
  unfold connect at h
  rw [outcome?_ask_bind,hstart,Option.bind_some,outcome?_ask_bind] at h
  simp only [State.answer,State.reply] at h
  cases hawait : w.awaitConnect (w.startConnect settings s.world) with
  | none => simp [hawait] at h
  | some ended =>
    obtain ⟨found,after⟩ := ended
    simp only [hawait,Option.map_some,Option.bind_some] at h
    rw [outcome?_orFail_bind] at h
    cases found with
    | error e =>
      cases h
      exact .inr ⟨e,rfl,rfl,rfl⟩
    | ok client =>
      cases h
      exact .inl ⟨client,rfl,rfl,rfl⟩

/-- A task comes by a client in one of three ways: it is at hand, it is connected, or it cannot be
connected. -/
theorem outcome?_getOrConnect_some {settings : Platform.Settings} {r : Except Error ClientId}
    (h : outcome? w task (getOrConnect settings) s = some (r,t)) :
    (∃ client, s.cache.client? = some client ∧ r = .ok client ∧ t = s.record .cached) ∨
      s.cache.client? = none ∧ ∃ u, t = u.left .connect task ∧
        outcome? w task (connect settings)
          (((s.record .cached).queued .connect task .exclusive).record .cached) = some (r,u) := by
  have hcached : ∀ u : State σ,
      State.answer w task .cached u = some (u.cache.client?,u.record .cached) := fun _ => rfl
  unfold getOrConnect at h
  rw [outcome?_ask_bind,hcached,Option.bind_some] at h
  cases hclient : s.cache.client? with
  | some client =>
    rw [hclient] at h
    cases h
    exact .inl ⟨client,rfl,rfl,rfl⟩
  | none =>
    rw [hclient] at h
    obtain ⟨u,hu,rfl⟩ := outcome?_holding_some h
    rw [outcome?_ask_bind,hcached,Option.bind_some] at hu
    have hnone : ((s.record .cached).queued .connect task .exclusive).cache.client? = none := by
      simpa using hclient
    rw [hnone] at hu
    exact .inr ⟨rfl,u,rfl,hu⟩

theorem reaches_of_getOrConnect {settings : Platform.Settings} {client : ClientId}
    (h : outcome? w task (getOrConnect settings) s = some (.ok client,t)) :
    Reaches w settings s.cache s.world client t.world := by
  rcases outcome?_getOrConnect_some h with ⟨c,hc,hr,rfl⟩ | ⟨hnone,u,rfl,hu⟩
  · cases hr
    exact .cached (Cache.client?_eq_some_iff.mp hc)
  · rcases outcome?_connect_some hu with ⟨c,hawait,hr,-⟩ | ⟨e,-,hr,-⟩
    · cases hr
      exact .connected hnone (by simpa using hawait)
    · cases hr

/-- Coming by a client is one gate. -/
theorem judges_getOrConnect {settings : Platform.Settings}
    (hg : ∀ e, refuses g e ↔ ∃ f, Unreachable w settings s.cache s.world f ∧ e = .platform f)
    (hd : does g = connecting w settings s.cache s.world) (ha : amends g = []) :
    Judges w task refuses does amends [g] (getOrConnect settings) s := by
  have hone : ∀ {x : Except Error ClientId}, (∀ e, refuses g e ↔ x = .error e) →
      Judged refuses does amends [g] x (does g) := fun hx => .one hx ha
  intro r t h
  rcases outcome?_getOrConnect_some h with ⟨client,hclient,rfl,rfl⟩ | ⟨hnone,u,rfl,hu⟩
  · have hjudged := hone (x := .ok client) fun e => by
      rw [hg]
      simp [Unreachable,hclient]
    rw [hd,connecting,hclient] at hjudged
    exact ⟨[.cached],rfl,hjudged⟩
  · rcases outcome?_connect_some hu with ⟨client,hawait,rfl,hlog⟩ | ⟨f,hawait,rfl,hlog⟩
    · have hawait' : w.awaitConnect (w.startConnect settings s.world) =
          some (.ok client,u.world) := by simpa using hawait
      have hjudged := hone (x := .ok client) fun e => by
        rw [hg]
        simp [Unreachable,hawait']
      rw [hd,connecting,hnone,hawait'] at hjudged
      refine ⟨[.cached,.join .connect .exclusive,.obtain .connect,.cached,.startConnect settings,
        .awaitConnect,.keep client,.leave .connect],?_,hjudged⟩
      rw [State.left_log,hlog]
      rfl
    · have hawait' : w.awaitConnect (w.startConnect settings s.world) =
          some (.error f,u.world) := by simpa using hawait
      have hjudged := hone (x := .error (.platform f)) fun e => by
        rw [hg]
        simp [Unreachable,hnone,hawait',eq_comm]
      rw [hd,connecting,hnone,hawait'] at hjudged
      refine ⟨[.cached,.join .connect .exclusive,.obtain .connect,.cached,.startConnect settings,
        .awaitConnect,.leave .connect],?_,hjudged⟩
      rw [State.left_log,hlog]
      rfl

theorem Reaches.unique {settings : Platform.Settings} {cache : Cache} {before after after' : σ}
    {client client' : ClientId} (h : Reaches w settings cache before client after)
    (h' : Reaches w settings cache before client' after') : client = client' ∧ after = after' := by
  cases h with
  | cached h =>
    cases h' with
    | cached h' =>
      cases h.symm.trans h'
      exact ⟨rfl,rfl⟩
    | connected h' _ => simp [h,Cache.client?] at h'
  | connected h hc =>
    cases h' with
    | cached h' => simp [h',Cache.client?] at h
    | connected _ hc' =>
      cases hc.symm.trans hc'
      exact ⟨rfl,rfl⟩

end WorkloadLogin.Service
