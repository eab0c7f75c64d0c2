import WorkloadLogin.Proofs.Service.Pool
import WorkloadLogin.Service.Schedule

/-! # Schedules are runs of pools

Tasks that run in rounds take the steps of a pool in one of the orders that a pool allows, and the
surroundings move on between the rounds. So what holds of every reachable pool holds of the states
that schedules end in.
-/
namespace WorkloadLogin.Service
variable {σ ρ : Type} {w : World σ} {task : TaskId} {p : Pool σ ρ}

namespace Pool

/-- Runs the talk of a task as far as it gets. -/
def advance (w : World σ) (task : TaskId) : Talk ρ → Pool σ ρ → Pool σ ρ
  | .done _, p => p
  | .ask q next, p =>
    match State.answer w task q p.state with
    | none => p
    | some (a, s) => advance w task (next a) (p.answered task q a (next a) s)

theorem reachable_advance {x : Talk ρ} (h : p.talk task = some x) :
    Reachable w p (p.advance w task x) := by
  induction x generalizing p with
  | done a => exact .refl
  | ask q next ih =>
    rw [advance]
    cases ha : State.answer w task q p.state with
    | none => exact .refl
    | some r =>
      obtain ⟨a,s⟩ := r
      exact .head (.answer h ha) (ih a (by simp [answered]))

/-- It is the run of the task by itself that moves the pool. -/
theorem advance_eq {x : Talk ρ} (h : p.talk task = some x) :
    (p.advance w task x).state = (State.advance w task x p.state).2 ∧
      (p.advance w task x).talk =
        Function.update p.talk task (some (State.advance w task x p.state).1) := by
  induction x generalizing p with
  | done a => exact ⟨rfl,by simp [advance, State.advance, Dialogue.advance, ← h]⟩
  | ask q next ih =>
    rw [advance, State.advance, Dialogue.advance]
    cases ha : State.answer w task q p.state with
    | none => exact ⟨rfl,by simp [← h]⟩
    | some r =>
      obtain ⟨a,s⟩ := r
      have := ih a (p := p.answered task q a (next a) s) (by simp [answered])
      simpa [answered, State.advance] using this

/-- The tasks of a schedule, which have one place each, are tasks of the pool. -/
structure Runs (p : Pool σ ρ) (ts : List (Schedule.Task ρ)) : Prop where
  distinct : (ts.map Schedule.Task.id).Nodup
  talk : ∀ t ∈ ts, p.talk t.id = some t.talk

theorem round_ids (ts : List (Schedule.Task ρ)) (s : State σ) :
    (Schedule.round w ts s).1.map Schedule.Task.id = ts.map Schedule.Task.id := by
  induction ts generalizing s with
  | nil => rfl
  | cons t ts ih => simp [Schedule.round, ih]

theorem exists_reachable_round {ts : List (Schedule.Task ρ)} (h : p.Runs ts) :
    ∃ p', Reachable w p p' ∧ p'.state = (Schedule.round w ts p.state).2 ∧
      p'.Runs (Schedule.round w ts p.state).1 ∧
      ∀ task, task ∉ ts.map Schedule.Task.id → p'.talk task = p.talk task := by
  induction ts generalizing p with
  | nil => exact ⟨p,.refl,rfl,h,fun _ _ => rfl⟩
  | cons t ts ih =>
    obtain ⟨hnot,hdistinct⟩ := List.nodup_cons.mp h.distinct
    have htalk := h.talk t (List.mem_cons_self ..)
    obtain ⟨hstate,hnext⟩ := advance_eq (w := w) htalk
    have hruns : (p.advance w t.id t.talk).Runs ts := by
      refine ⟨hdistinct,fun u hu => ?_⟩
      have hne : u.id ≠ t.id := fun he => hnot (he ▸ List.mem_map_of_mem hu)
      rw [hnext, Function.update_of_ne hne]
      exact h.talk u (List.mem_cons_of_mem _ hu)
    obtain ⟨p',hreach,hs,hr,hkept⟩ := ih hruns
    rw [hstate] at hs hr
    refine ⟨p',(reachable_advance htalk).trans hreach,hs,⟨?_,fun u hu => ?_⟩,fun task hout => ?_⟩
    · rw [round_ids]
      exact h.distinct
    · rcases List.mem_cons.mp hu with rfl | hu
      · rw [hkept t.id hnot, hnext, Function.update_self]
        rfl
      · exact hr.talk u hu
    · obtain ⟨hne,hout⟩ := not_or.mp (List.mem_cons.not.mp hout)
      rw [hkept task hout, hnext, Function.update_of_ne hne]

/-- The state that a schedule ends in is that of a reachable pool. -/
theorem exists_reachable_rounds {ts : List (Schedule.Task ρ)} (between : σ → σ) (most : Nat)
    (h : p.Runs ts) :
    ∃ p', Reachable w p p' ∧ p'.state = (Schedule.rounds w between most ts p.state).2 := by
  induction most generalizing p ts with
  | zero => exact ⟨p,.refl,rfl⟩
  | succ most ih =>
    unfold Schedule.rounds
    split
    · exact ⟨p,.refl,rfl⟩
    · have hshift : Step w p (p.shifted p.state.store.roles (between p.state.world)) :=
        .surroundings _ _
      obtain ⟨p₁,h₁,hs₁,hr₁,-⟩ := exists_reachable_round (w := w)
        (p := p.shifted p.state.store.roles (between p.state.world)) ⟨h.distinct,h.talk⟩
      obtain ⟨p',h',hs'⟩ := ih hr₁
      rw [hs₁] at hs'
      exact ⟨p',.head hshift (h₁.trans h'),hs'⟩

end Pool
end WorkloadLogin.Service
