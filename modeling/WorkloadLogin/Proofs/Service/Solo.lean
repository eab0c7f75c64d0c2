import WorkloadLogin.Service.Schedule

/-! # A task by itself

While no other task takes a step, the answers to the requests of a task follow from the state it
starts in. The outcome of an action then decomposes along its binds, so that what a sequence of
gates does is read off from what each gate does.
-/
namespace WorkloadLogin.Service
variable {σ α β ε : Type} {w : World σ} {task : TaskId}

/-- The end of a talk whose requests are answered in a row, if all of them are. -/
def settle (w : World σ) (task : TaskId) : Talk α → State σ → Option (α × State σ)
  | .done a, s => some (a, s)
  | .ask q next, s => (State.answer w task q s).bind fun r => settle w task (next r.1) r.2

/-- The end of an action: its value or error, and the state after it. -/
def outcome? (w : World σ) (task : TaskId) (x : Action α) (s : State σ) :
    Option (Except Error α × State σ) := settle w task x.run s

theorem settle_bind (x : Talk α) (f : α → Talk β) (s : State σ) :
    settle w task (x >>= f) s = (settle w task x s).bind fun r => settle w task (f r.1) r.2 := by
  change settle w task (x.bind f) s = _
  induction x generalizing s with
  | done a => rfl
  | ask q next ih =>
    cases h : State.answer w task q s with
    | none => simp [Dialogue.bind, settle, h]
    | some r => simpa [Dialogue.bind, settle, h] using ih r.1 r.2

@[simp] theorem settle_question (q : Request) (s : State σ) :
    settle w task (Dialogue.question q) s = State.answer w task q s := by
  cases h : State.answer w task q s <;> simp [Dialogue.question, settle, h]

/-- A task that runs as far as it gets reaches an end exactly when its talk settles. -/
theorem advance_eq_done_iff {x : Talk α} {s t : State σ} {a : α} :
    State.advance w task x s = (.done a, t) ↔ settle w task x s = some (a, t) := by
  unfold State.advance
  induction x generalizing s with
  | done b => simp [Dialogue.advance, settle]
  | ask q next ih =>
    cases h : State.answer w task q s with
    | none => simp [Dialogue.advance, settle, h]
    | some r => simpa [Dialogue.advance, settle, h] using ih r.1

theorem alone_eq_some_iff {x : Talk α} {s : State σ} {a : α} :
    (Schedule.alone w x s).1 = some a ↔ ∃ t, settle w 0 x s = some (a, t) := by
  simp only [← advance_eq_done_iff, Schedule.alone]
  rcases State.advance w 0 x s with ⟨b | ⟨q, next⟩, t⟩ <;> simp [Dialogue.result?]

/-! ## Actions -/

theorem outcome?_bind (x : Action α) (f : α → Action β) (s : State σ) :
    outcome? w task (x >>= f) s = (outcome? w task x s).bind fun r =>
      match r with
      | (.ok a, t) => outcome? w task (f a) t
      | (.error e, t) => some (.error e, t) := by
  change settle w task (x.run >>= ExceptT.bindCont f) s = _
  rw [settle_bind]
  congr 1
  funext r
  rcases r with ⟨_ | _, t⟩ <;> rfl

theorem outcome?_bind_of_ok {x : Action α} {f : α → Action β} {s t : State σ} {a : α}
    (hx : outcome? w task x s = some (.ok a, t)) :
    outcome? w task (x >>= f) s = outcome? w task (f a) t := by
  rw [outcome?_bind, hx]
  rfl

theorem outcome?_bind_ok_iff {x : Action α} {f : α → Action β} {s t : State σ} {b : β} :
    outcome? w task (x >>= f) s = some (.ok b, t) ↔
      ∃ a u, outcome? w task x s = some (.ok a, u) ∧ outcome? w task (f a) u = some (.ok b, t) := by
  rw [outcome?_bind]
  rcases outcome? w task x s with _ | ⟨_ | a, u⟩
  · simp
  · simp
  · constructor
    · intro h
      exact ⟨a,u,rfl,h⟩
    · rintro ⟨_,_,⟨⟩,h⟩
      exact h

@[simp] theorem outcome?_pure (a : α) (s : State σ) :
    outcome? w task (pure a) s = some (.ok a, s) := rfl

@[simp] theorem outcome?_throw (e : Error) (s : State σ) :
    outcome? w task (throw e : Action α) s = some (.error e, s) := rfl

@[simp] theorem outcome?_ask (q : Request) (s : State σ) :
    outcome? w task (ask q) s = (State.answer w task q s).map fun r => (.ok r.1, r.2) := by
  change settle w task (Dialogue.question q >>= pure ∘ Except.ok) s = _
  rw [settle_bind, settle_question]
  cases State.answer w task q s <;> rfl

theorem outcome?_ask_bind (q : Request) (f : q.Answer → Action β) (s : State σ) :
    outcome? w task (ask q >>= f) s =
      (State.answer w task q s).bind fun r => outcome? w task (f r.1) r.2 := by
  rw [outcome?_bind, outcome?_ask]
  cases State.answer w task q s <;> rfl

theorem outcome?_orFail_bind (failure : ε → Error) (r : Except ε α) (f : α → Action β)
    (s : State σ) :
    outcome? w task (orFail failure r >>= f) s =
      match r with
      | .ok a => outcome? w task (f a) s
      | .error e => some (.error (failure e), s) := by
  cases r <;> rfl

theorem outcome?_orFail_ok_iff {failure : ε → Error} {r : Except ε α} {s t : State σ} {a : α} :
    outcome? w task (orFail failure r) s = some (.ok a, t) ↔ r = .ok a ∧ t = s := by
  cases r with
  | error e => exact ⟨nofun,fun h => nomatch h.1⟩
  | ok b =>
    constructor
    · rintro ⟨⟩
      exact ⟨rfl,rfl⟩
    · rintro ⟨⟨⟩,rfl⟩
      rfl

/-- What is asked and then looked at: the action goes on exactly with a value. -/
theorem outcome?_consult_ok_iff {x : Action (Except ε α)} {failure : ε → Error}
    {f : α → Action β} {r : Except ε α} {s t u : State σ} {b : β}
    (hx : outcome? w task x s = some (.ok r, u)) :
    outcome? w task (x >>= fun r => orFail failure r >>= f) s = some (.ok b, t) ↔
      ∃ a, r = .ok a ∧ outcome? w task (f a) u = some (.ok b, t) := by
  rw [outcome?_bind, hx]
  change outcome? w task (orFail failure r >>= f) u = _ ↔ _
  rw [outcome?_orFail_bind]
  cases r <;> simp

/-! ## Locks that nobody else asks for -/

namespace State

def record (s : State σ) (q : Request) : State σ := { s with log := q :: s.log }

/-- The state in which the task is the only one in the queue of a lock and has obtained it. -/
def entered (s : State σ) (lock : Lock) (task : TaskId) (access : Access) : State σ :=
  ((s.setQueue lock [⟨task,access⟩]).record (.join lock access)).record (.obtain lock)

def left (s : State σ) (lock : Lock) (task : TaskId) : State σ :=
  (s.setQueue lock ((s.queue lock).leave task)).record (.leave lock)

@[simp] theorem record_cache (s : State σ) (q : Request) : (s.record q).cache = s.cache := rfl
@[simp] theorem record_world (s : State σ) (q : Request) : (s.record q).world = s.world := rfl
@[simp] theorem record_queue (s : State σ) (q : Request) (lock : Lock) :
    (s.record q).queue lock = s.queue lock := by cases lock <;> rfl

@[simp] theorem entered_cache (s : State σ) (lock : Lock) (access : Access) :
    (s.entered lock task access).cache = s.cache := by cases lock <;> rfl
@[simp] theorem entered_world (s : State σ) (lock : Lock) (access : Access) :
    (s.entered lock task access).world = s.world := by cases lock <;> rfl
end State

/-- A lock that nobody asks for is obtained at once and left again however the body ends. -/
theorem outcome?_holding {s : State σ} {lock : Lock} (hq : s.queue lock = []) (access : Access)
    (body : Action α) :
    outcome? w task (holding lock access body) s =
      (outcome? w task body (s.entered lock task access)).map fun r =>
        (r.1,r.2.left lock task) := by
  change settle w task (Dialogue.question (.join lock access) >>= fun _ =>
    Dialogue.question (.obtain lock) >>= fun _ => body.run >>= fun r =>
      Dialogue.question (.leave lock) >>= fun _ => pure r) s = _
  have hjoin : State.answer w task (.join lock access) s =
      some ((),(s.setQueue lock [⟨task,access⟩]).record (.join lock access)) := by
    simp [State.answer, State.reply, hq, State.record]
  have hobtain : State.answer w task (.obtain lock)
      ((s.setQueue lock [⟨task,access⟩]).record (.join lock access)) =
        some ((),s.entered lock task access) := by
    cases lock <;>
      simp [State.answer, State.reply, State.queue, State.setQueue, State.record, State.entered,
        Queue.holds]
  rw [settle_bind, settle_question, hjoin, Option.bind_some, settle_bind, settle_question, hobtain,
    Option.bind_some, settle_bind]
  change (outcome? w task body (s.entered lock task access)).bind _ = _
  cases outcome? w task body (s.entered lock task access) with
  | none => rfl
  | some r =>
    rw [Option.bind_some, settle_bind, settle_question]
    rfl

theorem outcome?_holding_ok_iff {s t : State σ} {lock : Lock} (hq : s.queue lock = [])
    {access : Access} {body : Action α} {a : α} :
    outcome? w task (holding lock access body) s = some (.ok a, t) ↔
      ∃ u, outcome? w task body (s.entered lock task access) = some (.ok a, u) ∧
        t = u.left lock task := by
  rw [outcome?_holding hq, Option.map_eq_some_iff]
  constructor
  · rintro ⟨⟨_,u⟩,hu,⟨⟩⟩
    exact ⟨u,hu,rfl⟩
  · rintro ⟨u,hu,rfl⟩
    exact ⟨_,hu,rfl⟩

end WorkloadLogin.Service
