import WorkloadLogin.Proofs.Service.Pool

/-! # Protocols of tasks

A protocol says which requests a task may make and how its stance, which the shared state does not
show, moves with the answers. A pool whose tasks follow a protocol keeps its queues in line with
the stances, so that whoever has exclusive access to a lock holds it alone.
-/
namespace WorkloadLogin.Service
variable {σ ρ α β : Type} {w : World σ} {task other : TaskId} {q : Request} {a : q.Answer}
  {access : Access} {qs : Queue} {f : TaskId → Place}

/-- Where a task stands with a lock. -/
inductive Place where
  | outside
  | waiting (access : Access)
  | holding (access : Access)
  deriving DecidableEq

/-- The places before and after a request of a task. -/
def Request.Relocates : Request → (Lock → Place) → (Lock → Place) → Prop
  | .join lock access, f, g => f lock = .outside ∧ g = Function.update f lock (.waiting access)
  | .obtain lock, f, g =>
    ∃ access, f lock = .waiting access ∧ g = Function.update f lock (.holding access)
  | .leave lock, f, g => (∃ access, f lock = .holding access) ∧ g = Function.update f lock .outside
  | _, f, g => g = f

/-! ## Queues in line with places -/

/-- The tasks in a queue are those that wait for the lock or hold it, and the latter do. -/
structure Lined (qs : Queue) (f : TaskId → Place) : Prop where
  distinct : qs.Distinct
  mem : ∀ task access, ⟨task,access⟩ ∈ qs ↔ f task = .waiting access ∨ f task = .holding access
  holds : ∀ task access, f task = .holding access → qs.holds task = true

namespace Lined

theorem eq_of_exclusive (h : Lined qs f) (ht : f task = .holding .exclusive)
    (ho : f other = .holding access) : other = task :=
  Queue.eq_of_holds_of_exclusive h.distinct ((h.mem _ _).mpr (.inr ht)) (h.holds _ _ ht)
    (h.holds _ _ ho)

theorem nil (h : ∀ task, f task = .outside) : Lined [] f :=
  ⟨List.nodup_nil,by simp [h],by simp [h]⟩

theorem join (h : Lined qs f) (ht : f task = .outside) (access : Access) :
    Lined (qs ++ [⟨task,access⟩]) (Function.update f task (.waiting access)) where
  distinct := h.distinct.append fun b hb => by
    have := (h.mem _ _).mp hb
    simp [ht] at this
  mem u b := by
    by_cases hu : u = task
    · subst hu
      simp [h.mem, ht, eq_comm]
    · simp [hu, h.mem]
  holds u b hb := by
    by_cases hu : u = task
    · subst hu
      simp at hb
    · exact Queue.holds_append (h.holds u b (by simpa [hu] using hb))

theorem obtain (h : Lined qs f) (ht : f task = .waiting access) (hh : qs.holds task = true) :
    Lined qs (Function.update f task (.holding access)) where
  distinct := h.distinct
  mem u b := by
    by_cases hu : u = task
    · subst hu
      simp [h.mem, ht]
    · simp [hu, h.mem]
  holds u b hb := by
    by_cases hu : u = task
    · exact hu ▸ hh
    · exact h.holds u b (by simpa [hu] using hb)

theorem leave (h : Lined qs f) : Lined (qs.leave task) (Function.update f task .outside) where
  distinct := h.distinct.leave
  mem u b := by
    by_cases hu : u = task
    · subst hu
      simp [Queue.mem_leave]
    · simp [hu, Queue.mem_leave, h.mem]
  holds u b hb := by
    by_cases hu : u = task
    · subst hu
      simp at hb
    · exact Queue.holds_leave (h.holds u b (by simpa [hu] using hb)) (Ne.symm hu)

/-- A request of a task moves its place and its queue together. -/
theorem step {lock : Lock} {F G : Lock → Place} (h : Lined qs f) (hr : q.Relocates F G)
    (hF : f task = F lock) (hobtain : q = .obtain lock → qs.holds task = true) :
    Lined (q.queueAfter task lock qs) (Function.update f task (G lock)) := by
  have hsame : G lock = F lock → Lined qs (Function.update f task (G lock)) := by
    intro he
    rw [he, ← hF, Function.update_eq_self]
    exact h
  cases q with
  | join l access =>
    obtain ⟨hout,rfl⟩ := hr
    by_cases hl : l = lock
    · subst hl
      simpa [Request.queueAfter] using h.join (hF.trans hout) access
    · simpa [Request.queueAfter, hl] using hsame (by simp [Ne.symm hl])
  | obtain l =>
    obtain ⟨access,hw,rfl⟩ := hr
    by_cases hl : l = lock
    · subst hl
      simpa [Request.queueAfter] using h.obtain (hF.trans hw) (hobtain rfl)
    · simpa [Request.queueAfter, hl] using hsame (by simp [Ne.symm hl])
  | leave l =>
    obtain ⟨-,rfl⟩ := hr
    by_cases hl : l = lock
    · subst hl
      simpa [Request.queueAfter] using h.leave
    · simpa [Request.queueAfter, hl] using hsame (by simp [Ne.symm hl])
  | _ =>
    cases hr
    exact hsame rfl

end Lined

/-! ## Talks that follow a protocol -/

structure Protocol where
  Stance : Type
  place : Stance → Lock → Place
  Moves : Stance → (q : Request) → q.Answer → Stance → Prop
  relocates : ∀ {φ ψ : Stance} {q : Request} {a : q.Answer}, Moves φ q a ψ →
    q.Relocates (place φ) (place ψ)

variable {P : Protocol} {φ ψ : P.Stance}

/-- Whatever the answers are, each request of the talk is a move, and where the talk ends its value
and stance satisfy `Q`. -/
def Follows (P : Protocol) : Talk α → P.Stance → (α → P.Stance → Prop) → Prop
  | .done a, φ, Q => Q a φ
  | .ask q next, φ, Q => ∀ a, ∃ ψ, P.Moves φ q a ψ ∧ Follows P (next a) ψ Q

theorem Follows.mono {x : Talk α} {Q R : α → P.Stance → Prop} (h : Follows P x φ Q)
    (hQ : ∀ a ψ, Q a ψ → R a ψ) : Follows P x φ R := by
  induction x generalizing φ with
  | done a => exact hQ a φ h
  | ask q next ih =>
    intro a
    obtain ⟨ψ,hm,hf⟩ := h a
    exact ⟨ψ,hm,ih a hf⟩

theorem Follows.bind {x : Talk α} {f : α → Talk β} {Q : β → P.Stance → Prop}
    (h : Follows P x φ fun a ψ => Follows P (f a) ψ Q) : Follows P (x >>= f) φ Q := by
  change Follows P (x.bind f) φ Q
  induction x generalizing φ with
  | done a => exact h
  | ask q next ih =>
    intro a
    obtain ⟨ψ,hm,hf⟩ := h a
    exact ⟨ψ,hm,ih a hf⟩

section Actions
variable {ε : Type} {Q : Except Error β → P.Stance → Prop}

theorem Follows.bind_action {x : Action α} {f : α → Action β}
    (h : Follows P x.run φ fun r ψ =>
      match r with
      | .ok a => Follows P (f a).run ψ Q
      | .error e => Q (.error e) ψ) : Follows P (x >>= f).run φ Q := by
  change Follows P (x.run >>= ExceptT.bindCont f) φ Q
  refine Follows.bind (h.mono fun r ψ hr => ?_)
  cases r with
  | ok a => exact hr
  | error e => exact hr

theorem Follows.ask {q : Request} {Q : Except Error q.Answer → P.Stance → Prop}
    (h : ∀ a, ∃ ψ, P.Moves φ q a ψ ∧ Q (.ok a) ψ) : Follows P (ask q).run φ Q := h

theorem Follows.ask_bind {q : Request} {f : q.Answer → Action β}
    (h : ∀ a, ∃ ψ, P.Moves φ q a ψ ∧ Follows P (f a).run ψ Q) :
    Follows P (Service.ask q >>= f).run φ Q :=
  Follows.bind_action (Follows.ask h)

theorem Follows.orFail_bind {failure : ε → Error} {r : Except ε α} {f : α → Action β}
    (hok : ∀ a, r = .ok a → Follows P (f a).run φ Q)
    (herror : ∀ e, r = .error e → Q (.error (failure e)) φ) :
    Follows P (orFail failure r >>= f).run φ Q := by
  cases r with
  | ok a => exact hok a rfl
  | error e => exact herror e rfl

/-- The lock is taken before the body and left behind it, whatever the body's end. -/
theorem Follows.holding {lock : Lock} {access : Access} {body : Action β} {φ₁ φ₂ : P.Stance}
    (hjoin : P.Moves φ (.join lock access) () φ₁) (hobtain : P.Moves φ₁ (.obtain lock) () φ₂)
    (hbody : Follows P body.run φ₂ fun r ψ => ∃ χ, P.Moves ψ (.leave lock) () χ ∧ Q r χ) :
    Follows P (Service.holding lock access body).run φ Q := by
  refine fun _ => ⟨φ₁,hjoin,fun _ => ⟨φ₂,hobtain,?_⟩⟩
  change Follows P (body.run >>= fun r => Dialogue.question (.leave lock) >>= fun _ => pure r) φ₂ Q
  exact Follows.bind (hbody.mono fun r ψ h _ => h)

end Actions

/-! ## Pools that follow a protocol -/

/-- The talks follow the protocol from the stances of their tasks, and the queues are in line. -/
structure Tracked (P : Protocol) (Q : ρ → P.Stance → Prop) (p : Pool σ ρ)
    (stance : TaskId → P.Stance) : Prop where
  follows : ∀ {task x}, p.talk task = some x → Follows P x (stance task) Q
  lined : ∀ lock, Lined (p.state.queue lock) fun task => P.place (stance task) lock

variable {Q : ρ → P.Stance → Prop} {p p₀ : Pool σ ρ} {stance : TaskId → P.Stance}

/-- At the start every task is outside all locks. -/
theorem tracked_start {talk : TaskId → Option (Talk ρ)} (store : Store) (world : σ)
    (hf : ∀ {task x}, talk task = some x → Follows P x φ Q)
    (hφ : ∀ lock, P.place φ lock = .outside) :
    Tracked P Q (Pool.start talk store world) fun _ => φ where
  follows := hf
  lined lock := by cases lock <;> exact .nil fun _ => hφ _

theorem Tracked.answered {next : q.Answer → Talk ρ} {s : State σ} (h : Tracked P Q p stance)
    (ht : p.talk task = some (.ask q next)) (he : Effect task q a p.state s) :
    ∃ ψ, P.Moves (stance task) q a ψ ∧
      Tracked P Q (p.answered task q a (next a) s) (Function.update stance task ψ) := by
  obtain ⟨ψ,hm,hf⟩ := h.follows ht a
  refine ⟨ψ,hm,?_,fun lock => ?_⟩
  · intro u x hx
    by_cases hu : u = task
    · subst hu
      simp only [Pool.answered, Function.update_self, Option.some.injEq] at hx
      simpa [← hx] using hf
    · simp only [Pool.answered, Function.update_of_ne hu] at hx
      simpa [hu] using h.follows hx
  · have hobtain : q = .obtain lock → (p.state.queue lock).holds task = true := by
      rintro rfl
      exact he.truthful
    have hstep := (h.lined lock).step (P.relocates hm) rfl hobtain
    have hplace : (fun u => P.place (Function.update stance task ψ u) lock) =
        Function.update (fun u => P.place (stance u) lock) task (P.place ψ lock) := by
      funext u
      by_cases hu : u = task
      · subst hu
        simp
      · simp [hu]
    rw [hplace]
    change Lined (s.queue lock) _
    rw [he.queue lock]
    exact hstep

/-- What holds at the start and is kept by every move holds in every reachable pool. -/
theorem exists_tracked_of_reachable {Inv : Pool σ ρ → (TaskId → P.Stance) → Prop}
    (h₀ : Tracked P Q p₀ stance) (hi₀ : Inv p₀ stance)
    (hanswer : ∀ {p : Pool σ ρ} {stance : TaskId → P.Stance} {task : TaskId} {q : Request}
      {a : q.Answer} {next : Talk ρ} {s : State σ} {ψ : P.Stance}, Tracked P Q p stance →
      Inv p stance → Effect task q a p.state s → P.Moves (stance task) q a ψ →
      Inv (p.answered task q a next s) (Function.update stance task ψ))
    (hsurroundings : ∀ {p : Pool σ ρ} {stance : TaskId → P.Stance}
      (roles : List (String × Role)) (world : σ), Inv p stance → Inv (p.shifted roles world) stance)
    (hr : Pool.Reachable w p₀ p) : ∃ stance, Tracked P Q p stance ∧ Inv p stance := by
  induction hr with
  | refl => exact ⟨stance,h₀,hi₀⟩
  | tail _ hstep ih =>
    obtain ⟨stance,ht,hi⟩ := ih
    cases hstep with
    | answer htalk ha =>
      have he := effect_of_answer ha
      obtain ⟨ψ,hm,ht'⟩ := ht.answered htalk he
      exact ⟨_,ht',hanswer ht hi he hm⟩
    | surroundings roles world =>
      exact ⟨stance,⟨ht.follows,fun lock => Pool.queue_shifted .. ▸ ht.lined lock⟩,
        hsurroundings roles world hi⟩

end WorkloadLogin.Service
