import WorkloadLogin.Text.Blank

/-! # Fields between blanks

A text that is cut at a blank has the fields of its two sides. So fields that are written with any
runs of blanks around and between them are read back as they are, and a text that starts with no
blank starts with its first field.
-/
namespace WorkloadLogin.Text
variable {p : Char → Bool} {c : Char} {run field cs : List Char}

/-- Whether a text can stand as one field. -/
structure IsField (field : List Char) : Prop where
  ne_nil : field ≠ []
  solid : ∀ c ∈ field, isBlank c = false

theorem isField_iff_all :
    IsField field ↔ field ≠ [] ∧ field.all (fun c => !isBlank c) = true := by
  simp only [List.all_eq_true, Bool.not_eq_true']
  exact ⟨fun h => ⟨h.ne_nil,h.solid⟩,fun h => ⟨h.1,h.2⟩⟩

theorem fieldsFrom_append_cons (hc : p c = true) (run x y : List Char) :
    fieldsFrom p run (x ++ c :: y) = fieldsFrom p run x ++ fieldsFrom p [] y := by
  induction x generalizing run with
  | nil => cases run <;> simp [fieldsFrom, hc]
  | cons d x ih =>
    simp only [List.cons_append, fieldsFrom]
    split
    · split
      · exact ih []
      · rw [ih [], List.cons_append]
    · exact ih (d :: run)

/-- The fields of a text are those in front of a blank and those behind it. -/
theorem blankFields_append_cons (hc : isBlank c = true) (x y : List Char) :
    blankFields (x ++ c :: y) = blankFields x ++ blankFields y :=
  fieldsFrom_append_cons hc [] x y

@[simp] theorem blankFields_nil : blankFields [] = [] := rfl

theorem blankFields_append_of_blank {gap : List Char} (hg : ∀ c ∈ gap, isBlank c = true)
    (cs : List Char) : blankFields (gap ++ cs) = blankFields cs := by
  induction gap with
  | nil => rfl
  | cons c gap ih =>
    have hcut := blankFields_append_cons (hg c (List.mem_cons_self ..)) [] (gap ++ cs)
    rw [List.cons_append]
    exact hcut.trans (ih fun d hd => hg d (List.mem_cons_of_mem _ hd))

theorem fieldsFrom_of_solid (hf : ∀ c ∈ field, p c = false) (hne : field ≠ [] ∨ run ≠ []) :
    fieldsFrom p run field = [run.reverse ++ field] := by
  induction field generalizing run with
  | nil => simpa [fieldsFrom] using hne
  | cons c field ih =>
    have hc : p c = false := hf c (List.mem_cons_self ..)
    have hrest : fieldsFrom p (c :: run) field = [(c :: run).reverse ++ field] :=
      ih (fun d hd => hf d (List.mem_cons_of_mem _ hd)) (.inr nofun)
    rw [fieldsFrom, hc, if_neg Bool.false_ne_true, hrest]
    simp

theorem IsField.blankFields_eq (h : IsField field) : blankFields field = [field] :=
  fieldsFrom_of_solid h.solid (.inl h.ne_nil)

/-- Fields one after the other, the runs of blanks around and between them counted from `i`. -/
def spread (gap : Nat → List Char) : (i : Nat) → List (List Char) → List Char
  | i, [] => gap i
  | i, field :: fields => gap i ++ field ++ spread gap (i + 1) fields

/-- Runs of blanks that keep `n` fields apart, the first and the last of which may be empty. -/
structure Spacing (gap : Nat → List Char) (n : Nat) : Prop where
  blank : ∀ i ≤ n, ∀ c ∈ gap i, isBlank c = true
  apart : ∀ i < n, 0 < i → gap i ≠ []

theorem blankFields_field_append (hf : IsField field)
    (hcs : ∀ c ∈ cs.head?, isBlank c = true) :
    blankFields (field ++ cs) = field :: blankFields cs := by
  cases cs with
  | nil => rw [List.append_nil, hf.blankFields_eq, blankFields_nil]
  | cons c cs =>
    have hc : isBlank c = true := hcs c rfl
    have hback : blankFields (c :: cs) = blankFields cs := blankFields_append_cons hc [] cs
    rw [blankFields_append_cons hc, hf.blankFields_eq, hback, List.singleton_append]

theorem blankFields_spread {gap : Nat → List Char} {fields : List (List Char)} {i : Nat}
    (hfields : ∀ f ∈ fields, IsField f)
    (hblank : ∀ j ≤ i + fields.length, ∀ c ∈ gap j, isBlank c = true)
    (hapart : ∀ j < i + fields.length, i < j → gap j ≠ []) :
    blankFields (spread gap i fields) = fields := by
  induction fields generalizing i with
  | nil =>
    have hall := blankFields_append_of_blank (hblank i (Nat.le_add_right ..)) []
    rwa [List.append_nil, blankFields_nil] at hall
  | cons f fields ih =>
    rw [List.length_cons, Nat.add_comm fields.length, ← Nat.add_assoc] at hblank hapart
    have hrest : blankFields (spread gap (i + 1) fields) = fields :=
      ih (fun g hg => hfields g (List.mem_cons_of_mem _ hg)) hblank
        fun j hj hlt => hapart j hj (by omega)
    have hnext := hblank (i + 1) (by omega)
    have hhead : ∀ c ∈ (spread gap (i + 1) fields).head?, isBlank c = true := by
      cases fields with
      | nil => exact fun c hc => hnext c (List.mem_of_mem_head? hc)
      | cons g fields =>
        have hgap : gap (i + 1) ≠ [] := hapart (i + 1) (by simp) (by omega)
        obtain ⟨b,rest,hb⟩ := List.exists_cons_of_ne_nil hgap
        intro c hc
        have hmem : b ∈ gap (i + 1) := hb ▸ List.mem_cons_self ..
        rw [spread, hb] at hc
        cases hc
        exact hnext b hmem
    rw [spread, List.append_assoc, blankFields_append_of_blank (hblank i (by omega)),
      blankFields_field_append (hfields f (List.mem_cons_self ..)) hhead, hrest]

/-- Fields are read back, whatever the blanks around and between them are. -/
theorem Spacing.blankFields_eq {gap : Nat → List Char} {fields : List (List Char)}
    (h : Spacing gap fields.length) (hfields : ∀ f ∈ fields, IsField f) :
    blankFields (spread gap 0 fields) = fields :=
  blankFields_spread hfields (by simpa using h.blank) (by simpa using h.apart)

theorem exists_fieldsFrom_eq (hrun : run ≠ []) (cs : List Char) :
    ∃ rest fields, fieldsFrom p run cs = (run.reverse ++ rest) :: fields := by
  induction cs generalizing run with
  | nil => exact ⟨[],[],by simp [fieldsFrom, hrun]⟩
  | cons c cs ih =>
    rw [fieldsFrom]
    split
    · exact ⟨[],fieldsFrom p [] cs,by simp [hrun]⟩
    · obtain ⟨rest,fields,h⟩ := ih (List.cons_ne_nil c run)
      exact ⟨c :: rest,fields,by rw [h]; simp⟩

/-- A text that starts with no blank starts with its first field. -/
theorem exists_blankFields_cons (hc : isBlank c = false) (cs : List Char) :
    ∃ rest fields, blankFields (c :: cs) = (c :: rest) :: fields := by
  obtain ⟨rest,fields,h⟩ := exists_fieldsFrom_eq (p := isBlank) (List.cons_ne_nil c []) cs
  refine ⟨rest,fields,?_⟩
  rw [blankFields, fieldsFrom, hc, if_neg Bool.false_ne_true, h]
  rfl

end WorkloadLogin.Text
