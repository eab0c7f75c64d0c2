import Mathlib.Logic.Function.Basic
import Mathlib.Logic.Relation
import WorkloadLogin.Proofs.Service.Queue
import WorkloadLogin.Service.Login

/-! # Tasks that run at the same time

A pool is any number of tasks over one shared state. In a step the request of one task is answered,
or the surroundings move on: they may change the roles and themselves, but not the configuration,
the cache or the locks.
-/
namespace WorkloadLogin.Service
variable {σ ρ : Type} {w : World σ} {task : TaskId} {s t : State σ} {q : Request} {a : q.Answer}

/-- A request of a task that was answered. -/
structure Event where
  task : TaskId
  request : Request
  answer : request.Answer

structure Pool (σ ρ : Type) where
  talk : TaskId → Option (Talk ρ)
  state : State σ
  /-- Latest first. -/
  trace : List Event := []

namespace Pool

/-- The pool after the request of a task was answered. -/
def answered (p : Pool σ ρ) (task : TaskId) (q : Request) (a : q.Answer) (next : Talk ρ)
    (s : State σ) : Pool σ ρ where
  talk := Function.update p.talk task (some next)
  state := s
  trace := ⟨task,q,a⟩ :: p.trace

/-- The pool after its surroundings moved on. -/
def shifted (p : Pool σ ρ) (roles : List (String × Role)) (world : σ) : Pool σ ρ :=
  { p with
    state := { p.state with store := { p.state.store with roles := roles }, world := world } }

inductive Step (w : World σ) : Pool σ ρ → Pool σ ρ → Prop
  | answer {p : Pool σ ρ} {task : TaskId} {q : Request} {next : q.Answer → Talk ρ} {a : q.Answer}
      {s : State σ} (ht : p.talk task = some (.ask q next))
      (ha : State.answer w task q p.state = some (a, s)) :
      Step w p (p.answered task q a (next a) s)
  | surroundings {p : Pool σ ρ} (roles : List (String × Role)) (world : σ) :
      Step w p (p.shifted roles world)

theorem queue_shifted (p : Pool σ ρ) (roles : List (String × Role)) (world : σ) (lock : Lock) :
    (p.shifted roles world).state.queue lock = p.state.queue lock := by
  cases lock <;> rfl

def Reachable (w : World σ) : Pool σ ρ → Pool σ ρ → Prop := Relation.ReflTransGen (Step w)

/-- Every event of a run was an answer given in a pool that the run went through. -/
theorem exists_answer_of_trace {p₀ p : Pool σ ρ} (hp : Reachable w p₀ p) (h₀ : p₀.trace = [])
    {later earlier : List Event} {e : Event} (h : p.trace = later ++ e :: earlier) :
    ∃ p' next s, Reachable w p₀ p' ∧ p'.trace = earlier ∧
      p'.talk e.task = some (.ask e.request next) ∧
      State.answer w e.task e.request p'.state = some (e.answer, s) := by
  induction hp generalizing later with
  | refl =>
    rw [h₀] at h
    cases later <;> cases h
  | tail hp hstep ih =>
    cases hstep with
    | surroundings roles world => exact ih h
    | answer ht ha =>
      cases later with
      | nil =>
        obtain ⟨rfl,rfl⟩ := List.cons.inj h
        exact ⟨_,_,_,hp,rfl,ht,ha⟩
      | cons last later => exact ih (List.cons.inj h).2

/-- Every part of a trace that reaches back to the start was once the whole. -/
theorem exists_reachable_of_trace {p₀ p : Pool σ ρ} (hp : Reachable w p₀ p) (h₀ : p₀.trace = [])
    {later earlier : List Event} (h : p.trace = later ++ earlier) :
    ∃ p', Reachable w p₀ p' ∧ p'.trace = earlier := by
  rcases List.eq_nil_or_concat later with rfl | ⟨later,e,rfl⟩
  · exact ⟨p,hp,h⟩
  · obtain ⟨p',_,_,hp',htrace,-⟩ := exists_answer_of_trace hp h₀ (e := e) (by simpa using h)
    exact ⟨p',hp',htrace⟩

/-- All tasks before their first request, nothing cached and no lock asked for. -/
def start (talk : TaskId → Option (Talk ρ)) (store : Store) (world : σ) : Pool σ ρ where
  talk := talk
  state := { store := store, world := world }

end Pool

/-! ## The way of one task -/

/-- By its own events among these, latest first, a task has come from its talk to what remains. -/
inductive Leads (task : TaskId) (x : Talk ρ) : List Event → Talk ρ → Prop
  | start : Leads task x [] x
  | own {trace : List Event} {q : Request} {next : q.Answer → Talk ρ}
      (h : Leads task x trace (.ask q next)) (a : q.Answer) :
      Leads task x (⟨task,q,a⟩ :: trace) (next a)
  | other {trace : List Event} {y : Talk ρ} {e : Event} (h : Leads task x trace y)
      (he : e.task ≠ task) : Leads task x (e :: trace) y

namespace Leads
variable {trace : List Event} {x y : Talk ρ}

theorem of_done {r : ρ} (h : Leads task (.done r) trace y) : y = .done r := by
  induction h with
  | start => rfl
  | own h a ih => cases ih
  | other h he ih => exact ih

/-- A task that has asked anything has asked for what its talk starts with. -/
theorem of_ask {next : q.Answer → Talk ρ} (h : Leads task (.ask q next) trace y) :
    y = .ask q next ∨ ∃ later a earlier, trace = later ++ ⟨task,q,a⟩ :: earlier ∧
      Leads task (next a) later y := by
  induction h with
  | start => exact .inl rfl
  | own h a ih =>
    rcases ih with heq | ⟨later,b,earlier,rfl,hlater⟩
    · cases heq
      exact .inr ⟨[],a,_,rfl,.start⟩
    · exact .inr ⟨_ :: later,b,earlier,rfl,hlater.own a⟩
  | other h he ih =>
    rcases ih with heq | ⟨later,b,earlier,rfl,hlater⟩
    · exact .inl heq
    · exact .inr ⟨_ :: later,b,earlier,rfl,hlater.other he⟩

/-- A task that is done has asked for what its talk starts with. -/
theorem of_ask_done {next : q.Answer → Talk ρ} {r : ρ}
    (h : Leads task (.ask q next) trace (.done r)) :
    ∃ later a earlier, trace = later ++ ⟨task,q,a⟩ :: earlier ∧
      Leads task (next a) later (.done r) := by
  rcases h.of_ask with heq | h
  · cases heq
  · exact h

theorem exists_of_map {α : Type} {x : Talk α} {f : α → ρ} {r : ρ}
    (h : Leads task (x >>= fun a => pure (f a)) trace (.done r)) : ∃ a, r = f a := by
  change Leads task (x.bind fun a => .done (f a)) trace (.done r) at h
  induction x generalizing trace with
  | done a =>
    cases of_done h
    exact ⟨a,rfl⟩
  | ask q next ih =>
    obtain ⟨later,a,_,-,hlater⟩ := of_ask_done h
    exact ih a hlater

end Leads

theorem Pool.leads_of_reachable {p₀ p : Pool σ ρ} (hp : Reachable w p₀ p) (h₀ : p₀.trace = [])
    {y : Talk ρ} (hy : p.talk task = some y) :
    ∃ x, p₀.talk task = some x ∧ Leads task x p.trace y := by
  induction hp generalizing y with
  | refl => exact ⟨y,hy,h₀ ▸ .start⟩
  | tail _ hstep ih =>
    cases hstep with
    | surroundings roles world => exact ih hy
    | @answer asker q next a s ht ha =>
      by_cases htask : task = asker
      · subst htask
        simp only [answered, Function.update_self, Option.some.injEq] at hy
        obtain ⟨x,hx,hlead⟩ := ih ht
        exact ⟨x,hx,hy ▸ hlead.own a⟩
      · simp only [answered, Function.update_of_ne htask] at hy
        obtain ⟨x,hx,hlead⟩ := ih hy
        exact ⟨x,hx,hlead.other (Ne.symm htask)⟩

/-! ## What an answer does to the shared state -/

/-- The queue of a lock after a request of a task. -/
def Request.queueAfter (task : TaskId) (lock : Lock) : Request → Queue → Queue
  | .join l access, q => if l = lock then q ++ [⟨task,access⟩] else q
  | .leave l, q => if l = lock then q.leave task else q
  | _, q => q

def Request.configAfter : (q : Request) → q.Answer → Option Config → Option Config
  | .storeConfig c, .ok _, _ => some c
  | _, _, config => config

def Request.cacheAfter : Request → Cache → Cache
  | .keep client, _ => .fresh client
  | .taint client, cache => (cache.taint client).2
  | .forget, _ => .absent
  | _, cache => cache

/-- What an answer says of the shared state it was given in. -/
def Request.Truthful (task : TaskId) (s : State σ) : (q : Request) → q.Answer → Prop
  | .obtain lock, _ => (s.queue lock).holds task = true
  | .readConfig, .ok config => config = s.store.config
  | .cached, client => client = s.cache.client?
  | _, _ => True

/-- All that an answer does to what the tasks share. -/
structure Effect (task : TaskId) (q : Request) (a : q.Answer) (s t : State σ) : Prop where
  truthful : q.Truthful task s a
  queue : ∀ lock, t.queue lock = q.queueAfter task lock (s.queue lock)
  config : t.store.config = q.configAfter a s.store.config
  cache : t.cache = q.cacheAfter s.cache
  roles : t.store.roles = s.store.roles

@[simp] theorem State.queue_setQueue (s : State σ) (lock other : Lock) (queue : Queue) :
    (s.setQueue lock queue).queue other = if lock = other then queue else s.queue other := by
  cases lock <;> cases other <;> rfl

@[simp] theorem State.setQueue_store (s : State σ) (lock : Lock) (queue : Queue) :
    (s.setQueue lock queue).store = s.store := by
  cases lock <;> rfl

@[simp] theorem State.setQueue_cache (s : State σ) (lock : Lock) (queue : Queue) :
    (s.setQueue lock queue).cache = s.cache := by
  cases lock <;> rfl

theorem effect_of_reply (h : State.reply w task q s = some (a, t)) : Effect task q a s t := by
  cases q with
  | now => cases h; exact ⟨trivial,fun _ => rfl,rfl,rfl,rfl⟩
  | readRole name =>
    simp only [State.reply, State.stored] at h
    split at h <;> cases h <;> exact ⟨trivial,fun _ => rfl,rfl,rfl,rfl⟩
  | readConfig =>
    simp only [State.reply, State.stored] at h
    split at h <;> cases h
    · exact ⟨trivial,fun _ => rfl,rfl,rfl,rfl⟩
    · exact ⟨rfl,fun _ => rfl,rfl,rfl,rfl⟩
  | storeConfig c =>
    simp only [State.reply, State.stored] at h
    split at h <;> cases h <;> exact ⟨trivial,fun lock => by cases lock <;> rfl,rfl,rfl,rfl⟩
  | join lock access =>
    cases h
    refine ⟨trivial,fun other => ?_,by simp [Request.configAfter],by simp [Request.cacheAfter],
      by simp⟩
    by_cases hl : lock = other
    · subst hl
      simp [Request.queueAfter]
    · simp [Request.queueAfter, hl]
  | obtain lock =>
    simp only [State.reply] at h
    split at h
    · rename_i hl
      cases h
      exact ⟨hl,fun _ => rfl,rfl,rfl,rfl⟩
    · cases h
  | leave lock =>
    cases h
    refine ⟨trivial,fun other => ?_,by simp [Request.configAfter],by simp [Request.cacheAfter],
      by simp⟩
    by_cases hl : lock = other
    · subst hl
      simp [Request.queueAfter]
    · simp [Request.queueAfter, hl]
  | cached => cases h; exact ⟨rfl,fun _ => rfl,rfl,rfl,rfl⟩
  | keep client => cases h; exact ⟨trivial,fun lock => by cases lock <;> rfl,rfl,rfl,rfl⟩
  | taint client => cases h; exact ⟨trivial,fun lock => by cases lock <;> rfl,rfl,rfl,rfl⟩
  | forget => cases h; exact ⟨trivial,fun lock => by cases lock <;> rfl,rfl,rfl,rfl⟩
  | extract bundle => cases h; exact ⟨trivial,fun _ => rfl,rfl,rfl,rfl⟩
  | checkSignature signature data => cases h; exact ⟨trivial,fun _ => rfl,rfl,rfl,rfl⟩
  | checkChain caTexts certs signing now => cases h; exact ⟨trivial,fun _ => rfl,rfl,rfl,rfl⟩
  | identify c => cases h; exact ⟨trivial,fun _ => rfl,rfl,rfl,rfl⟩
  | startConnect settings =>
    cases h
    exact ⟨trivial,fun lock => by cases lock <;> rfl,rfl,rfl,rfl⟩
  | awaitConnect =>
    simp only [State.reply, Option.map_eq_some_iff] at h
    obtain ⟨r,-,h⟩ := h
    cases h
    exact ⟨trivial,fun lock => by cases lock <;> rfl,rfl,rfl,rfl⟩
  | lookup client kind guid =>
    cases h
    exact ⟨trivial,fun lock => by cases lock <;> rfl,rfl,rfl,rfl⟩

/-- An answer is a reply that is entered in the log. -/
theorem effect_of_answer (h : State.answer w task q s = some (a, t)) : Effect task q a s t := by
  obtain ⟨⟨b,u⟩,hu,heq⟩ := Option.map_eq_some_iff.mp h
  cases heq
  obtain ⟨ht,hq,hc,hk,hr⟩ := effect_of_reply hu
  refine ⟨ht,fun lock => ?_,hc,hk,hr⟩
  cases lock with
  | config => exact hq .config
  | connect => exact hq .connect

end WorkloadLogin.Service
