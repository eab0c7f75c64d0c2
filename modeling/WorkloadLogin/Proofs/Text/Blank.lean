import WorkloadLogin.Proofs.Text.Decimal
import WorkloadLogin.Text.Blank

/-! # Texts between blanks

A run of characters of one kind ends at the first other character, so what is read of a run in front
of such a character is the run itself. A text without the blanks around it is the one part of it
that neither starts nor ends with a blank and has nothing but blanks on its two sides.
-/
namespace WorkloadLogin.Text
variable {p : Char → Bool} {run rest cs core : List Char}

/-! ## Runs -/

theorem takeWhile_run (hrun : ∀ c ∈ run, p c = true) (hrest : ∀ c ∈ rest.head?, p c = false) :
    (run ++ rest).takeWhile p = run := by
  rw [List.takeWhile_append_of_pos hrun]
  cases rest with
  | nil => simp
  | cons c rest =>
    have hc : p c = false := hrest c rfl
    simp [hc]

theorem dropWhile_run (hrun : ∀ c ∈ run, p c = true) (hrest : ∀ c ∈ rest.head?, p c = false) :
    (run ++ rest).dropWhile p = rest := by
  rw [List.dropWhile_append_of_pos hrun]
  cases rest with
  | nil => simp
  | cons c rest =>
    have hc : p c = false := hrest c rfl
    simp [hc]

theorem of_mem_takeWhile {c : Char} (h : c ∈ cs.takeWhile p) : p c = true :=
  List.all_eq_true.mp List.all_takeWhile c h

theorem of_mem_head?_dropWhile {c : Char} (h : c ∈ (cs.dropWhile p).head?) : p c = false := by
  have hnot := List.head?_dropWhile_not p cs
  rw [Option.mem_def.mp h] at hnot
  simpa using hnot

/-! ## Trimmed texts -/

/-- The core neither starts nor ends with a character of `p`, and nothing else is around it. -/
structure Trims (p : Char → Bool) (cs core : List Char) : Prop where
  around : ∃ before after, cs = before ++ (core ++ after) ∧ (∀ c ∈ before, p c = true) ∧
    ∀ c ∈ after, p c = true
  head : ∀ c ∈ core.head?, p c = false
  last : ∀ c ∈ core.getLast?, p c = false

theorem trims_trimWhere (p : Char → Bool) (cs : List Char) : Trims p cs (trimWhere p cs) := by
  have hfront := List.takeWhile_append_dropWhile (p := p) (l := cs)
  have hback := List.takeWhile_append_dropWhile (p := p) (l := (cs.dropWhile p).reverse)
  have hinner : trimWhere p cs ++ ((cs.dropWhile p).reverse.takeWhile p).reverse =
      cs.dropWhile p := by
    rw [trimWhere, ← List.reverse_append, hback, List.reverse_reverse]
  refine ⟨⟨cs.takeWhile p,((cs.dropWhile p).reverse.takeWhile p).reverse,?_,?_,?_⟩,?_,?_⟩
  · rw [hinner, hfront]
  · intro c hc
    exact of_mem_takeWhile hc
  · intro c hc
    exact of_mem_takeWhile (List.mem_reverse.mp hc)
  · intro c hc
    have hhead : c ∈ (cs.dropWhile p).head? := by
      rw [← hinner, List.head?_append]
      rw [Option.mem_def.mp hc]
      rfl
    exact of_mem_head?_dropWhile hhead
  · intro c hc
    rw [trimWhere, List.getLast?_reverse] at hc
    exact of_mem_head?_dropWhile hc

theorem Trims.trimWhere_eq (h : Trims p cs core) : trimWhere p cs = core := by
  obtain ⟨before,after,rfl,hbefore,hafter⟩ := h.around
  unfold trimWhere
  by_cases hcore : core = []
  · subst hcore
    have hall : (before ++ after ++ []).dropWhile p = [] :=
      dropWhile_run (fun c hc => (List.mem_append.mp hc).elim (hbefore c) (hafter c)) nofun
    rw [List.append_nil] at hall
    rw [List.nil_append, hall]
    rfl
  · have hhead : ∀ c ∈ (core ++ after).head?, p c = false := by
      obtain ⟨d,ds,rfl⟩ := List.exists_cons_of_ne_nil hcore
      exact h.head
    have hlast : ∀ c ∈ core.reverse.head?, p c = false := by
      rw [List.head?_reverse]
      exact h.last
    have hback : ∀ c ∈ after.reverse, p c = true := fun c hc => hafter c (List.mem_reverse.mp hc)
    rw [dropWhile_run hbefore hhead, List.reverse_append, dropWhile_run hback hlast,
      List.reverse_reverse]

theorem trims_self (h : ∀ c ∈ cs, p c = false) : Trims p cs cs where
  around := ⟨[],[],by simp,nofun,nofun⟩
  head c hc := h c (List.mem_of_mem_head? hc)
  last c hc := h c (List.mem_of_mem_getLast? hc)

/-! ## Characters that are no blanks -/

theorem isBlank_eq_false {c : Char} (h : 33 ≤ c.toNat ∧ c.toNat ≤ 126) : isBlank c = false := by
  simp only [isBlank, Bool.or_eq_false_iff, Bool.and_eq_false_iff, decide_eq_false_iff_not,
    beq_eq_false_iff_ne]
  omega

theorem isBlank_of_isDigit {c : Char} (h : isDigit c = true) : isBlank c = false := by
  have hc := toNat_of_isDigit h
  exact isBlank_eq_false (by omega)

end WorkloadLogin.Text
