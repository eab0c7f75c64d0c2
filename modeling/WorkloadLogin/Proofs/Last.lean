import Mathlib.Data.List.Induction

/-! # The last of a list

Where an entry replaces the ones before it, the last entry with a property is the one that counts,
however many others there are. So it is with what is made of a list entry by entry, when each entry
either settles the matter anew or leaves it alone.
-/
namespace WorkloadLogin
variable {α : Type} {p : α → Prop} {q : α → Bool} {xs : List α} {x y : α}

/-- The last member of a list that has a property. -/
def LastOf (p : α → Prop) (xs : List α) (x : α) : Prop :=
  ∃ before after, xs = before ++ x :: after ∧ p x ∧ ∀ y ∈ after, ¬ p y

theorem lastOf_iff_find? (h : ∀ x, q x = true ↔ p x) :
    LastOf p xs x ↔ xs.reverse.find? q = some x := by
  simp only [List.find?_eq_some_iff_append, LastOf, ← h, Bool.not_eq_true', Bool.not_eq_true]
  constructor
  · rintro ⟨before,after,rfl,hx,hafter⟩
    refine ⟨hx,after.reverse,before.reverse,by simp,?_⟩
    intro y hy
    exact hafter y (List.mem_reverse.mp hy)
  · rintro ⟨hx,after,before,hxs,hafter⟩
    refine ⟨before.reverse,after.reverse,?_,hx,?_⟩
    · rw [← List.reverse_reverse xs, hxs]
      simp
    · intro y hy
      exact hafter y (List.mem_reverse.mp hy)

theorem LastOf.mem (h : LastOf p xs x) : x ∈ xs := by
  obtain ⟨before,after,rfl,-,-⟩ := h
  exact List.mem_append_right before List.mem_cons_self

theorem LastOf.holds (h : LastOf p xs x) : p x := by
  obtain ⟨before,after,-,hx,-⟩ := h
  exact hx

theorem LastOf.unique (hx : LastOf p xs x) (hy : LastOf p xs y) : x = y := by
  classical
  have hdecide : ∀ z, decide (p z) = true ↔ p z := fun z => decide_eq_true_iff
  rw [lastOf_iff_find? hdecide] at hx hy
  exact Option.some.inj (hx.symm.trans hy)

@[simp] theorem not_lastOf_nil : ¬ LastOf p [] x := fun h => List.not_mem_nil h.mem

/-- A new last member counts if it has the property and otherwise changes nothing. -/
theorem lastOf_snoc_iff : LastOf p (xs ++ [y]) x ↔ (p y ∧ x = y) ∨ (¬ p y ∧ LastOf p xs x) := by
  classical
  have hdecide : ∀ z, decide (p z) = true ↔ p z := fun z => decide_eq_true_iff
  rw [lastOf_iff_find? hdecide, lastOf_iff_find? hdecide, List.reverse_concat, List.find?_cons]
  by_cases hy : p y <;> simp [hy, eq_comm]

theorem exists_lastOf_iff : (∃ x, LastOf p xs x) ↔ ∃ x ∈ xs, p x := by
  classical
  have hdecide : ∀ z, decide (p z) = true ↔ p z := fun z => decide_eq_true_iff
  simp only [lastOf_iff_find? hdecide, ← Option.isSome_iff_exists, List.find?_isSome,
    List.mem_reverse, hdecide]

/-! ## Steps that settle something -/

section
variable {σ : Type} {step : σ → α → σ} {s : σ} (invariant holds : σ → Prop) (p settles : α → Prop)

theorem foldl_keeps (hkeeps : ∀ s x, invariant s → invariant (step s x)) (hs : invariant s) :
    invariant (xs.foldl step s) := by
  induction xs generalizing s with
  | nil => exact hs
  | cons x xs ih => exact ih (hkeeps s x hs)

/-- Entries with the property `p` settle whether something holds, and the others leave it alone. So
it holds in the end if the last entry with the property settles it so, or if there is none and it
held before. -/
theorem foldl_lastOf_iff (hkeeps : ∀ s x, invariant s → invariant (step s x))
    (hstep : ∀ s x, invariant s → (holds (step s x) ↔ p x ∧ settles x ∨ ¬ p x ∧ holds s))
    (hs : invariant s) :
    holds (xs.foldl step s) ↔
      (∃ x, LastOf p xs x ∧ settles x) ∨ (∀ x ∈ xs, ¬ p x) ∧ holds s := by
  induction xs using List.reverseRecOn with
  | nil => simp
  | append_singleton xs y ih =>
    rw [List.foldl_append, List.foldl_cons, List.foldl_nil, hstep _ y
      (foldl_keeps invariant hkeeps hs), ih]
    have hnone : (∀ x ∈ xs ++ [y], ¬ p x) ↔ (∀ x ∈ xs, ¬ p x) ∧ ¬ p y := by
      rw [List.forall_mem_append, List.forall_mem_singleton]
    rw [hnone]
    by_cases hy : p y
    · simp [lastOf_snoc_iff, hy]
    · simp [lastOf_snoc_iff, hy]

end

end WorkloadLogin
