import WorkloadLogin.Proofs.Service.Pool
import WorkloadLogin.Proofs.Service.Solo

/-! # Courses of a task

The course of a task is the row of its requests from the first one to its end, each with the state
that it was answered in. Nothing is said of how one of these states came from the one before, so
that courses cover whatever other tasks and the surroundings do in between: a task by itself goes
through a course, and so does every task of a pool that comes to its end.
-/
namespace WorkloadLogin.Service
variable {σ α β ε ρ : Type} {w : World σ} {task : TaskId} {q : Request} {s t : State σ}

/-- A request, the state that it was answered in, and the answer. -/
structure Exchange (σ : Type) where
  state : State σ
  request : Request
  answer : request.Answer

inductive Course (w : World σ) (task : TaskId) : Talk α → List (Exchange σ) → α → Prop
  | done (a : α) : Course w task (.done a) [] a
  | ask {q : Request} {next : q.Answer → Talk α} {s t : State σ} {a : q.Answer}
      {es : List (Exchange σ)} {b : α} (ha : State.answer w task q s = some (a, t))
      (h : Course w task (next a) es b) : Course w task (.ask q next) (⟨s,q,a⟩ :: es) b

variable {es : List (Exchange σ)}

theorem Course.answered {x : Talk α} {a : α} (h : Course w task x es a) {e : Exchange σ}
    (he : e ∈ es) : ∃ t, State.answer w task e.request e.state = some (e.answer, t) := by
  induction h with
  | done => cases he
  | ask ha _ ih =>
    rcases List.mem_cons.mp he with rfl | he
    · exact ⟨_,ha⟩
    · exact ih he

/-! ## What has a course -/

/-- The course of a task by itself, as far as it gets. -/
def exchanges (w : World σ) (task : TaskId) : Talk α → State σ → List (Exchange σ)
  | .done _, _ => []
  | .ask q next, s =>
    match State.answer w task q s with
    | none => []
    | some (a, t) => ⟨s,q,a⟩ :: exchanges w task (next a) t

theorem course_of_settle {x : Talk α} {a : α} (h : settle w task x s = some (a, t)) :
    Course w task x (exchanges w task x s) a := by
  induction x generalizing s with
  | done b =>
    cases h
    exact .done a
  | ask q next ih =>
    obtain ⟨⟨b,u⟩,ha,hrest⟩ := Option.bind_eq_some_iff.mp h
    rw [exchanges, ha]
    exact .ask ha (ih b hrest)

/-- A task by itself that comes to its end has gone through a course. -/
theorem course_of_alone {x : Talk α} {a : α} (h : (Schedule.alone w x s).1 = some a) :
    Course w 0 x (exchanges w 0 x s) a := by
  obtain ⟨t,ht⟩ := alone_eq_some_iff.mp h
  exact course_of_settle ht

/-- A task of a pool that comes to its end has gone through a course, whatever else happened. -/
theorem exists_course_of_reachable {p p' : Pool σ ρ} (hp : Pool.Reachable w p p') {x : Talk ρ}
    {r : ρ} (hx : p.talk task = some x) (hr : p'.talk task = some (.done r)) :
    ∃ es, Course w task x es r := by
  induction hp using Relation.ReflTransGen.head_induction_on generalizing x with
  | refl =>
    cases hx.symm.trans hr
    exact ⟨[],.done r⟩
  | head hstep _ ih =>
    cases hstep with
    | surroundings roles world => exact ih hx
    | @answer other q next a s ht ha =>
      by_cases hother : task = other
      · subst hother
        cases hx.symm.trans ht
        obtain ⟨es,hes⟩ := ih (x := next a) (by simp [Pool.answered])
        exact ⟨_ :: es,.ask ha hes⟩
      · exact ih (by simpa [Pool.answered, hother] using hx)

/-! ## Courses of actions -/

theorem Course.of_pure {a b : α} (h : Course w task (pure a) es b) : es = [] ∧ b = a := by
  change Course w task (.done a) es b at h
  cases h
  exact ⟨rfl,rfl⟩

theorem Course.of_bind {x : Talk α} {f : α → Talk β} {b : β}
    (h : Course w task (x >>= f) es b) :
    ∃ first rest a, es = first ++ rest ∧ Course w task x first a ∧ Course w task (f a) rest b := by
  change Course w task (x.bind f) es b at h
  induction x generalizing es with
  | done a => exact ⟨[],es,a,rfl,.done a,h⟩
  | ask q next ih =>
    cases h with
    | ask ha h =>
      obtain ⟨first,rest,a,rfl,hx,hf⟩ := ih _ h
      exact ⟨_,rest,a,rfl,.ask ha hx,hf⟩

/-- An action goes on exactly with a value. -/
theorem Course.of_bind_ok {x : Action α} {f : α → Action β} {b : β}
    (h : Course w task (x >>= f).run es (.ok b)) :
    ∃ first rest a, es = first ++ rest ∧ Course w task x.run first (.ok a) ∧
      Course w task (f a).run rest (.ok b) := by
  change Course w task (x.run >>= ExceptT.bindCont f) es _ at h
  obtain ⟨first,rest,r,rfl,hx,hf⟩ := h.of_bind
  cases r with
  | error e => cases hf
  | ok a => exact ⟨first,rest,a,rfl,hx,hf⟩

theorem Course.of_question {a : q.Answer} (h : Course w task (Dialogue.question q) es a) :
    ∃ s, es = [⟨s,q,a⟩] := by
  cases h with
  | ask _ hdone =>
    cases hdone
    exact ⟨_,rfl⟩

theorem Course.of_ask_bind {f : q.Answer → Action β} {r : Except Error β}
    (h : Course w task (Service.ask q >>= f).run es r) :
    ∃ s a rest, es = ⟨s,q,a⟩ :: rest ∧ Course w task (f a).run rest r := by
  change Course w task ((Dialogue.question q >>= pure ∘ Except.ok) >>= ExceptT.bindCont f) es r at h
  obtain ⟨first,rest,x,rfl,hq,hf⟩ := h.of_bind
  obtain ⟨asked,done,a,rfl,hasked,hdone⟩ := hq.of_bind
  obtain ⟨s,rfl⟩ := hasked.of_question
  obtain ⟨rfl,rfl⟩ := hdone.of_pure
  exact ⟨s,a,rest,rfl,hf⟩

theorem Course.of_orFail_ok {failure : ε → Error} {r : Except ε α} {a : α}
    (h : Course w task (orFail failure r).run es (.ok a)) : r = .ok a ∧ es = [] := by
  cases r <;> cases h
  exact ⟨rfl,rfl⟩

theorem Course.of_orFail_bind_ok {failure : ε → Error} {r : Except ε α} {f : α → Action β} {b : β}
    (h : Course w task (orFail failure r >>= f).run es (.ok b)) :
    ∃ a, r = .ok a ∧ Course w task (f a).run es (.ok b) := by
  obtain ⟨first,rest,a,rfl,hr,hf⟩ := h.of_bind_ok
  obtain ⟨rfl,rfl⟩ := hr.of_orFail_ok
  exact ⟨a,rfl,hf⟩

/-- The lock is taken before the body and left behind it. -/
theorem Course.of_holding {lock : Lock} {access : Access} {body : Action α} {r : Except Error α}
    (h : Course w task (holding lock access body).run es r) :
    ∃ s₁ s₂ s₃ inner, es = ⟨s₁,.join lock access,()⟩ :: ⟨s₂,.obtain lock,()⟩ :: (inner ++
      [⟨s₃,.leave lock,()⟩]) ∧ Course w task body.run inner r := by
  change Course w task (Dialogue.question (.join lock access) >>= fun _ =>
    Dialogue.question (.obtain lock) >>= fun _ => body.run >>= fun r =>
      Dialogue.question (.leave lock) >>= fun _ => pure r) es r at h
  obtain ⟨_,_,_,rfl,hjoin,h₁⟩ := h.of_bind
  obtain ⟨_,_,_,rfl,hobtain,h₂⟩ := h₁.of_bind
  obtain ⟨inner,_,_,rfl,hbody,h₃⟩ := h₂.of_bind
  obtain ⟨_,_,_,rfl,hleave,hend⟩ := h₃.of_bind
  obtain ⟨s₁,rfl⟩ := hjoin.of_question
  obtain ⟨s₂,rfl⟩ := hobtain.of_question
  obtain ⟨s₃,rfl⟩ := hleave.of_question
  obtain ⟨rfl,rfl⟩ := hend.of_pure
  exact ⟨s₁,s₂,s₃,inner,rfl,hbody⟩

end WorkloadLogin.Service
