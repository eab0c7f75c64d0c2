import WorkloadLogin.Proofs.Gates
import WorkloadLogin.Proofs.Service.Pool
import WorkloadLogin.Proofs.Service.Solo

/-! # Actions that pass gates

An action that runs by itself tries its gates in order. What it does on the way is in the log, and
of that only some requests matter to others: steps of the verifier, connections, lookups, writes and
whatever touches the cache.
-/
namespace WorkloadLogin.Service
variable {σ α β γ ε : Type} {w : World σ} {task : TaskId} {s t u : State σ}

/-! ## Deeds -/

/-- What a request does that matters to others. -/
inductive Deed where
  | extract
  | checkSignature
  | checkChain
  | identify
  | connect (settings : Platform.Settings)
  | lookup (kind : Platform.Kind)
  | store
  | keep (client : ClientId)
  | taint (client : ClientId)
  | forget
  deriving DecidableEq

def Request.deed? : Request → Option Deed
  | .extract _ => some .extract
  | .checkSignature _ _ => some .checkSignature
  | .checkChain _ _ _ _ => some .checkChain
  | .identify _ => some .identify
  | .startConnect settings => some (.connect settings)
  | .lookup _ kind _ => some (.lookup kind)
  | .storeConfig _ => some .store
  | .keep client => some (.keep client)
  | .taint client => some (.taint client)
  | .forget => some .forget
  | .now | .readRole _ | .readConfig | .join _ _ | .obtain _ | .leave _ | .cached
  | .awaitConnect => none

def deeds (asked : List Request) : List Deed := asked.filterMap Request.deed?

@[simp] theorem deeds_nil : deeds [] = [] := rfl

@[simp] theorem deeds_cons (q : Request) (asked : List Request) :
    deeds (q :: asked) = q.deed?.toList ++ deeds asked := by
  cases h : q.deed? <;> simp [deeds,h]

@[simp] theorem deeds_append (asked asked' : List Request) :
    deeds (asked ++ asked') = deeds asked ++ deeds asked' := List.filterMap_append ..

def Deed.cacheAfter (cache : Cache) : Deed → Cache
  | .keep client => .fresh client
  | .taint client => (cache.taint client).2
  | .forget => .absent
  | _ => cache

/-- The cache that deeds leave. -/
def cacheAfter (done : List Deed) (cache : Cache) : Cache := done.foldl Deed.cacheAfter cache

theorem cacheAfter_deeds (q : Request) (cache : Cache) :
    cacheAfter (deeds [q]) cache = q.cacheAfter cache := by
  cases q <;> rfl

theorem configAfter_of_no_deed {q : Request} (h : .store ∉ deeds [q]) (a : q.Answer)
    (config : Option Config) : q.configAfter a config = config := by
  cases q with
  | storeConfig c => exact absurd (List.mem_singleton_self _) h
  | _ => rfl

theorem log_of_answer {q : Request} {a : q.Answer} (h : State.answer w task q s = some (a,t)) :
    t.log = q :: s.log := by
  obtain ⟨⟨b,u⟩,hu,heq⟩ := Option.map_eq_some_iff.mp h
  cases heq
  have hlog : u.log = s.log := by
    cases q with
    | readRole name | readConfig | storeConfig c =>
      simp only [State.reply,State.stored] at hu
      split at hu <;> cases hu <;> rfl
    | join lock access | leave lock => cases hu; cases lock <;> rfl
    | obtain lock =>
      simp only [State.reply] at hu
      split at hu <;> cases hu
      rfl
    | awaitConnect =>
      obtain ⟨r,-,h⟩ := Option.map_eq_some_iff.mp hu
      cases h
      rfl
    | _ => cases hu; rfl
  rw [hlog]

/-- The deeds of a task by itself determine what it makes of cache and store. -/
theorem exists_asked {x : Talk α} {a : α} (h : settle w task x s = some (a,t)) :
    ∃ asked, t.log = asked.reverse ++ s.log ∧ t.cache = cacheAfter (deeds asked) s.cache ∧
      (.store ∉ deeds asked → t.store = s.store) := by
  induction x generalizing s with
  | done b =>
    cases h
    exact ⟨[],rfl,rfl,fun _ => rfl⟩
  | ask q next ih =>
    obtain ⟨⟨b,u⟩,hanswer,hrest⟩ := Option.bind_eq_some_iff.mp h
    obtain ⟨asked,hlog,hcache,hstore⟩ := ih b hrest
    have heffect := effect_of_answer hanswer
    refine ⟨q :: asked,?_,?_,?_⟩
    · rw [hlog,log_of_answer hanswer]
      simp
    · have hq : cacheAfter (deeds (q :: asked)) s.cache =
          cacheAfter (deeds asked) (cacheAfter (deeds [q]) s.cache) := by
        simp [cacheAfter]
      rw [hq,cacheAfter_deeds,hcache,heffect.cache]
    · intro hno
      rw [show q :: asked = [q] ++ asked from rfl,deeds_append,List.mem_append,not_or] at hno
      obtain ⟨hq,hlater⟩ := hno
      have hconfig : u.store.config = s.store.config := by
        rw [heffect.config,configAfter_of_no_deed hq]
      rw [hstore hlater]
      cases hu : u.store
      cases hs : s.store
      have hroles := heffect.roles
      simp_all

theorem settle_of_alone {x : Talk α} {a : α} (h : Schedule.alone w x s = (some a,t)) :
    settle w 0 x s = some (a,t) := by
  refine advance_eq_done_iff.mp ?_
  simp only [Schedule.alone] at h
  rcases hadvance : State.advance w 0 x s with ⟨b | ⟨q,next⟩,u⟩
  · rw [hadvance] at h
    cases h
    rfl
  · rw [hadvance] at h
    cases h

theorem asked_unique {asked asked' log : List Request}
    (h : asked.reverse ++ log = asked'.reverse ++ log) : asked = asked' :=
  List.reverse_inj.mp (List.append_cancel_right h)

theorem cache_of_log {x : Action α} {r : Except Error α} {asked : List Request}
    (h : outcome? w task x s = some (r,t)) (hlog : t.log = asked.reverse ++ s.log) :
    t.cache = cacheAfter (deeds asked) s.cache := by
  obtain ⟨asked',hlog',hcache,-⟩ := exists_asked h
  obtain rfl := asked_unique (hlog.symm.trans hlog')
  exact hcache

theorem store_of_log {x : Action α} {r : Except Error α} {asked : List Request}
    (h : outcome? w task x s = some (r,t)) (hlog : t.log = asked.reverse ++ s.log)
    (hno : .store ∉ deeds asked) : t.store = s.store := by
  obtain ⟨asked',hlog',-,hstore⟩ := exists_asked h
  obtain rfl := asked_unique (hlog.symm.trans hlog')
  exact hstore hno

/-! ## Locks that others may ask for -/

/-- The state in which the task has obtained a lock behind those that asked for it before. -/
def State.queued (s : State σ) (lock : Lock) (task : TaskId) (access : Access) : State σ :=
  ((s.setQueue lock (s.queue lock ++ [⟨task,access⟩])).record (.join lock access)).record
    (.obtain lock)

@[simp] theorem State.queued_store (s : State σ) (lock : Lock) (access : Access) :
    (s.queued lock task access).store = s.store := by cases lock <;> rfl
@[simp] theorem State.queued_cache (s : State σ) (lock : Lock) (access : Access) :
    (s.queued lock task access).cache = s.cache := by cases lock <;> rfl
@[simp] theorem State.queued_world (s : State σ) (lock : Lock) (access : Access) :
    (s.queued lock task access).world = s.world := by cases lock <;> rfl
theorem State.queued_log (s : State σ) (lock : Lock) (access : Access) :
    (s.queued lock task access).log = .obtain lock :: .join lock access :: s.log := by
  cases lock <;> rfl
theorem State.left_log (s : State σ) (lock : Lock) :
    (s.left lock task).log = .leave lock :: s.log := by
  cases lock <;> rfl

@[simp] theorem State.left_world (s : State σ) (lock : Lock) :
    (s.left lock task).world = s.world := by
  cases lock <;> rfl

/-- A body that ends under a lock has run with the lock obtained. -/
theorem outcome?_holding_some {lock : Lock} {access : Access} {body : Action α}
    {r : Except Error α} (h : outcome? w task (holding lock access body) s = some (r,t)) :
    ∃ u, outcome? w task body (s.queued lock task access) = some (r,u) ∧ t = u.left lock task := by
  change settle w task (Dialogue.question (.join lock access) >>= fun _ =>
    Dialogue.question (.obtain lock) >>= fun _ => body.run >>= fun r =>
      Dialogue.question (.leave lock) >>= fun _ => pure r) s = _ at h
  rw [settle_bind,settle_question] at h
  obtain ⟨⟨_,joined⟩,hjoin,h⟩ := Option.bind_eq_some_iff.mp h
  cases hjoin
  rw [settle_bind,settle_question] at h
  obtain ⟨⟨_,obtained⟩,hobtain,h⟩ := Option.bind_eq_some_iff.mp h
  have hqueued : obtained = s.queued lock task access := by
    simp only [State.answer,State.reply] at hobtain
    split at hobtain <;> cases hobtain
    rfl
  subst hqueued
  rw [settle_bind] at h
  obtain ⟨⟨r',u⟩,hbody,h⟩ := Option.bind_eq_some_iff.mp h
  cases h
  exact ⟨u,hbody,rfl⟩

/-! ## Judgements -/

section Judges
variable {refuses : γ → Error → Prop} {does amends : γ → List Deed} {gates gates' : List γ} {g : γ}

/-- However the action ends by itself, its gates have been tried in order and have decided it. -/
def Judges (w : World σ) (task : TaskId) (refuses : γ → Error → Prop)
    (does amends : γ → List Deed) (gates : List γ) (x : Action α) (s : State σ) : Prop :=
  ∀ r t, outcome? w task x s = some (r,t) → ∃ asked, t.log = asked.reverse ++ s.log ∧
    Judged refuses does amends gates r (deeds asked)

theorem Judges.bind {x : Action α} {f : α → Action β}
    (hx : Judges w task refuses does amends gates x s)
    (hf : ∀ a u, outcome? w task x s = some (.ok a,u) →
      Judges w task refuses does amends gates' (f a) u) :
    Judges w task refuses does amends (gates ++ gates') (x >>= f) s := by
  intro r t h
  rw [outcome?_bind] at h
  obtain ⟨⟨a,u⟩,hfirst,hrest⟩ := Option.bind_eq_some_iff.mp h
  obtain ⟨asked,hlog,hjudged⟩ := hx a u hfirst
  cases a with
  | error e =>
    cases hrest
    exact ⟨asked,hlog,hjudged.append_error⟩
  | ok a =>
    obtain ⟨asked',hlog',hjudged'⟩ := hf a u hfirst r t hrest
    refine ⟨asked ++ asked',by simp [hlog',hlog],?_⟩
    rw [deeds_append]
    exact hjudged.append hjudged'

theorem judges_pure (a : α) : Judges w task refuses does amends [] (pure a) s := by
  intro r t h
  cases h
  exact ⟨[],rfl,.passed a⟩

/-- A request without a deed is no gate. -/
theorem Judges.ask_bind {q : Request} {f : q.Answer → Action β} (hq : q.deed? = none)
    (hf : ∀ a u, State.answer w task q s = some (a,u) →
      Judges w task refuses does amends gates (f a) u) :
    Judges w task refuses does amends gates (ask q >>= f) s := by
  intro r t h
  rw [outcome?_ask_bind] at h
  obtain ⟨⟨a,u⟩,hanswer,hrest⟩ := Option.bind_eq_some_iff.mp h
  obtain ⟨asked,hlog,hjudged⟩ := hf a u hanswer r t hrest
  refine ⟨q :: asked,by simp [hlog,log_of_answer hanswer],?_⟩
  simpa [hq] using hjudged

/-- A check of its own has its gates wherever it stands. -/
theorem judges_orFail {x : Except ε α} {failure : ε → Error}
    (h : Judged refuses does amends gates (x.mapError failure) []) :
    Judges w task refuses does amends gates (orFail failure x) s := by
  intro r t hrun
  have hend : r = x.mapError failure ∧ t = s := by
    cases x <;> (cases hrun; exact ⟨rfl,rfl⟩)
  obtain ⟨rfl,rfl⟩ := hend
  exact ⟨[],rfl,h⟩

theorem Judges.check {x : Except ε α} {failure : ε → Error} {f : α → Action β}
    (hg : ∀ e, refuses g e ↔ x.mapError failure = .error e) (hd : does g = [])
    (ha : amends g = [])
    (hf : ∀ a, x = .ok a → Judges w task refuses does amends gates (f a) s) :
    Judges w task refuses does amends (g :: gates) (orFail failure x >>= f) s := by
  have hfirst : Judges w task refuses does amends [g] (orFail failure x) s :=
    judges_orFail (.look hg hd ha)
  refine hfirst.bind fun a u h => ?_
  obtain ⟨hx,rfl⟩ := outcome?_orFail_ok_iff.mp h
  exact hf a hx

/-- What is asked and then looked at is a gate with the deed of the request. -/
theorem Judges.consult {q : Request} {x : Action (Except ε α)} {found : Except ε α}
    {failure : ε → Error} {f : α → Action β} (hx : outcome? w task x s = some (.ok found,u))
    (hlog : u.log = q :: s.log) (hg : ∀ e, refuses g e ↔ found.mapError failure = .error e)
    (hd : does g = deeds [q]) (ha : amends g = [])
    (hf : ∀ a, found = .ok a → Judges w task refuses does amends gates (f a) u) :
    Judges w task refuses does amends (g :: gates) (x >>= fun r => orFail failure r >>= f) s := by
  intro r t h
  rw [outcome?_bind_of_ok hx,outcome?_orFail_bind] at h
  cases found with
  | error e =>
    cases h
    have hrefused : Judged refuses does amends (g :: gates) (.error (failure e) : Except Error β)
        (does g ++ amends g) := .refused ((hg (failure e)).mpr rfl)
    rw [hd,ha,List.append_nil] at hrefused
    exact ⟨[q],hlog,hrefused⟩
  | ok a =>
    obtain ⟨asked,hlater,hjudged⟩ := hf a rfl r t h
    have hpass : ∀ e, ¬ refuses g e := by
      intro e he
      cases (hg e).mp he
    refine ⟨q :: asked,by simp [hlater,hlog],?_⟩
    rw [show q :: asked = [q] ++ asked from rfl,deeds_append,← hd]
    exact .next hpass hjudged

theorem Judges.consult_last {q : Request} {x : Action (Except ε α)} {found : Except ε α}
    {failure : ε → Error} (hx : outcome? w task x s = some (.ok found,u))
    (hlog : u.log = q :: s.log) (hg : ∀ e, refuses g e ↔ found.mapError failure = .error e)
    (hd : does g = deeds [q]) (ha : amends g = []) :
    Judges w task refuses does amends [g] (x >>= fun r => orFail failure r) s := by
  have h : Judges w task refuses does amends [g]
      (x >>= fun r => orFail failure r >>= fun a => pure a) s :=
    .consult hx hlog hg hd ha fun a _ => judges_pure a
  simpa using h

/-- What is to be there is a gate. -/
theorem judges_some {x : Action α} {found : Option α} {absent : Error}
    (hsome : ∀ a, found = some a → x = pure a) (hnone : found = none → x = throw absent)
    (hg : ∀ e, refuses g e ↔ found = none ∧ e = absent) (hd : does g = []) (ha : amends g = []) :
    Judges w task refuses does amends [g] x s := by
  intro r t h
  cases found with
  | some a =>
    rw [hsome a rfl] at h
    cases h
    have hpass : ∀ e, ¬ refuses g e := fun e he => nomatch ((hg e).mp he).1
    have hnext : Judged refuses does amends [g] (.ok a : Except Error α) (does g ++ []) :=
      .next hpass (.passed a)
    rw [hd] at hnext
    exact ⟨[],rfl,hnext⟩
  | none =>
    rw [hnone rfl] at h
    cases h
    have hrefused : Judged refuses does amends [g] (.error absent : Except Error α)
        (does g ++ amends g) := .refused ((hg absent).mpr ⟨rfl,rfl⟩)
    rw [hd,ha] at hrefused
    exact ⟨[],rfl,hrefused⟩

/-- An action under a lock has its gates inside the lock. -/
theorem Judges.holding {lock : Lock} {access : Access} {body : Action α}
    (h : Judges w task refuses does amends gates body (s.queued lock task access)) :
    Judges w task refuses does amends gates (holding lock access body) s := by
  intro r t hrun
  obtain ⟨u,hbody,rfl⟩ := outcome?_holding_some hrun
  obtain ⟨asked,hlog,hjudged⟩ := h r u hbody
  refine ⟨.join lock access :: .obtain lock :: (asked ++ [.leave lock]),?_,?_⟩
  · rw [State.left_log,hlog,State.queued_log]
    simp
  · simpa [Request.deed?] using hjudged

/-- What is done about an error belongs to the gate that refused. -/
theorem Judges.tryCatch {x : Action α} {q : Request}
    (hx : Judges w task refuses does (fun _ => []) gates x s)
    (ha : ∀ g ∈ gates, amends g = deeds [q]) :
    Judges w task refuses does amends gates
      (tryCatch x fun e => do
        let _ ← ask q
        throw e) s := by
  intro r t h
  change settle w task (x.run >>= _) s = _ at h
  rw [settle_bind] at h
  obtain ⟨⟨first,u⟩,hfirst,hrest⟩ := Option.bind_eq_some_iff.mp h
  obtain ⟨asked,hlog,hjudged⟩ := hx first u hfirst
  cases first with
  | ok a =>
    cases hrest
    exact ⟨asked,hlog,hjudged.amend⟩
  | error e =>
    change outcome? w task (ask q >>= fun _ => throw e) u = _ at hrest
    rw [outcome?_ask_bind] at hrest
    obtain ⟨⟨a,v⟩,hanswer,hend⟩ := Option.bind_eq_some_iff.mp hrest
    cases hend
    refine ⟨asked ++ [q],by simp [log_of_answer hanswer,hlog],?_⟩
    rw [deeds_append]
    exact hjudged.amend_error ha

end Judges

end WorkloadLogin.Service
