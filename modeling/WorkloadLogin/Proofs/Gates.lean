/-! # Gates in a row

What a sequence of steps that may fail asks for: it succeeds exactly when each step does, with the
value that the step before gave. When it fails, it fails as the first gate that refuses, and no
later gate has been tried.
-/
namespace WorkloadLogin
variable {ε α β : Type}

instance decidableEqExcept [DecidableEq ε] [DecidableEq α] : DecidableEq (Except ε α)
  | .ok a, .ok b => decidable_of_iff (a = b) (by simp)
  | .error a, .error b => decidable_of_iff (a = b) (by simp)
  | .ok _, .error _ => isFalse nofun
  | .error _, .ok _ => isFalse nofun

theorem bind_ok_iff {x : Except ε α} {f : α → Except ε β} {b : β} :
    (x >>= f) = .ok b ↔ ∃ a, x = .ok a ∧ f a = .ok b := by
  cases x <;> simp [bind, Except.bind]

theorem bind_error_iff {x : Except ε α} {f : α → Except ε β} {e : ε} :
    (x >>= f) = .error e ↔ x = .error e ∨ ∃ a, x = .ok a ∧ f a = .error e := by
  cases x <;> simp [bind, Except.bind]

theorem bind_unit_ok_iff {x : Except ε Unit} {y : Except ε β} {b : β} :
    (x >>= fun _ => y) = .ok b ↔ x = .ok () ∧ y = .ok b := by
  cases x <;> simp [bind, Except.bind]

/-- A refusal that ends the steps unless the condition fails. -/
theorem refusal_ok_iff {p : Prop} [Decidable p] {e : ε} {y : Except ε β} {b : β} :
    (if p then (.error e >>= fun (_ : α) => y) else y) = .ok b ↔ ¬ p ∧ y = .ok b := by
  by_cases hp : p <;> simp [hp, bind, Except.bind]

theorem map_ok_iff {f : α → β} {x : Except ε α} {b : β} :
    x.map f = .ok b ↔ ∃ a, x = .ok a ∧ f a = b := by
  cases x <;> simp [Except.map]

@[simp] theorem mapError_ok {δ : Type} (f : ε → δ) (a : α) :
    (.ok a : Except ε α).mapError f = .ok a := rfl

@[simp] theorem mapError_error {δ : Type} (f : ε → δ) (e : ε) :
    (.error e : Except ε α).mapError f = .error (f e) := rfl

theorem mapError_ok_iff {δ : Type} {f : ε → δ} {x : Except ε α} {a : α} :
    x.mapError f = .ok a ↔ x = .ok a := by
  cases x with
  | error e => exact ⟨nofun,nofun⟩
  | ok b => exact ⟨fun h => by cases h; rfl,fun h => by cases h; rfl⟩

theorem mapError_error_iff {δ : Type} {f : ε → δ} {x : Except ε α} {d : δ} :
    x.mapError f = .error d ↔ ∃ e, x = .error e ∧ d = f e := by
  cases x with
  | error e => simp [eq_comm]
  | ok a => simp

theorem mapError_bind {δ : Type} {f : ε → δ} {x : Except ε α} {y : α → Except ε β} :
    (x >>= y).mapError f = x.mapError f >>= fun a => (y a).mapError f := by
  cases x <;> rfl

/-! ## The first gate that refuses -/

section Judged
variable {γ δ ω : Type} {refuses : γ → ε → Prop} {does amends : γ → List ω} {gates : List γ}
  {g : γ} {e : ε} {r : Except ε α} {done : List ω}

/-- Gates are tried in order up to the first that refuses. Each does something when it is tried,
and may do something more when it refuses. -/
inductive Judged (refuses : γ → ε → Prop) (does amends : γ → List ω) :
    List γ → Except ε α → List ω → Prop
  | passed (a : α) : Judged refuses does amends [] (.ok a) []
  | refused {g : γ} {gates : List γ} {e : ε} (h : refuses g e) :
      Judged refuses does amends (g :: gates) (.error e) (does g ++ amends g)
  | next {g : γ} {gates : List γ} {r : Except ε α} {done : List ω} (h : ∀ e, ¬ refuses g e)
      (hr : Judged refuses does amends gates r done) :
      Judged refuses does amends (g :: gates) r (does g ++ done)

/-- The first gate of a row that refuses, its error, and all that was done up to it. -/
def StopsAt (refuses : γ → ε → Prop) (does amends : γ → List ω) (gates : List γ) (g : γ) (e : ε)
    (done : List ω) : Prop :=
  ∃ before after, gates = before ++ g :: after ∧ (∀ b ∈ before, ∀ e, ¬ refuses b e) ∧
    refuses g e ∧ done = (before ++ [g]).flatMap does ++ amends g

theorem Judged.one {x : Except ε α} (h : ∀ e, refuses g e ↔ x = .error e) (hg : amends g = []) :
    Judged refuses does amends [g] x (does g) := by
  cases x with
  | error e =>
    have hrefused : Judged refuses does amends [g] (.error e : Except ε α) (does g ++ amends g) :=
      .refused ((h e).mpr rfl)
    simpa [hg] using hrefused
  | ok a =>
    have hpass : ∀ e, ¬ refuses g e := by
      intro e he
      cases (h e).mp he
    have hnext : Judged refuses does amends [g] (.ok a : Except ε α) (does g ++ []) :=
      .next hpass (.passed a)
    simpa using hnext

/-- A gate at which nothing is done but to look. -/
theorem Judged.look {x : Except ε α} (h : ∀ e, refuses g e ↔ x = .error e) (hd : does g = [])
    (ha : amends g = []) : Judged refuses does amends [g] x [] := by
  have hone : Judged refuses does amends [g] x (does g) := .one h ha
  rwa [hd] at hone

theorem Judged.append {a : β} {gates' : List γ} {done' : List ω}
    (h : Judged refuses does amends gates (.ok a) done)
    (h' : Judged refuses does amends gates' r done') :
    Judged refuses does amends (gates ++ gates') r (done ++ done') := by
  generalize hx : (Except.ok a : Except ε β) = x at h
  induction h with
  | passed _ => exact h'
  | refused _ => cases hx
  | next hpass _ ih => simpa using Judged.next hpass (ih hx)

theorem Judged.append_error {gates' : List γ}
    (h : Judged refuses does amends gates (.error e : Except ε β) done) :
    Judged refuses does amends (gates ++ gates') (.error e : Except ε α) done := by
  generalize hx : (Except.error e : Except ε β) = x at h
  induction h with
  | passed _ => cases hx
  | refused h =>
    cases hx
    exact .refused h
  | next hpass _ ih => exact .next hpass (ih hx)

theorem Judged.bind {x : Except ε β} {f : β → Except ε α} {gates' : List γ}
    (hx : Judged refuses does amends gates x [])
    (hf : ∀ b, x = .ok b → Judged refuses does amends gates' (f b) []) :
    Judged refuses does amends (gates ++ gates') (x >>= f) [] := by
  cases x with
  | error e => exact hx.append_error
  | ok b => exact hx.append (hf b rfl)

theorem Judged.stopsAt (h : Judged refuses does amends gates (.error e : Except ε α) done) :
    ∃ g, StopsAt refuses does amends gates g e done := by
  generalize hx : (Except.error e : Except ε α) = x at h
  induction h with
  | passed _ => cases hx
  | @refused g gates _ h =>
    cases hx
    exact ⟨g,[],gates,rfl,by simp,h,by simp⟩
  | @next b gates _ _ hpass _ ih =>
    obtain ⟨g,before,after,rfl,hbefore,hg,rfl⟩ := ih hx
    refine ⟨g,b :: before,after,rfl,?_,hg,by simp⟩
    intro b' hb'
    rcases List.mem_cons.mp hb' with rfl | hb'
    · exact hpass
    · exact hbefore b' hb'

theorem Judged.passes {a : α} (h : Judged refuses does amends gates (.ok a) done) :
    (∀ g ∈ gates, ∀ e, ¬ refuses g e) ∧ done = gates.flatMap does := by
  generalize hx : (Except.ok a : Except ε α) = x at h
  induction h with
  | passed _ => simp
  | refused _ => cases hx
  | @next b gates _ _ hpass _ ih =>
    obtain ⟨hall,rfl⟩ := ih hx
    refine ⟨?_,by simp⟩
    intro g hg
    rcases List.mem_cons.mp hg with rfl | hg
    · exact hpass
    · exact hall g hg

/-- Whatever was done, a gate did it. -/
theorem Judged.mem {d : ω} (h : Judged refuses does amends gates r done) (hd : d ∈ done) :
    ∃ g ∈ gates, d ∈ does g ∨ d ∈ amends g := by
  induction h with
  | passed _ => cases hd
  | @refused g _ _ _ => exact ⟨g,List.mem_cons_self ..,List.mem_append.mp hd⟩
  | @next g _ _ _ _ _ ih =>
    rcases List.mem_append.mp hd with hd | hd
    · exact ⟨g,List.mem_cons_self ..,.inl hd⟩
    · obtain ⟨b,hb,hdone⟩ := ih hd
      exact ⟨b,List.mem_cons_of_mem _ hb,hdone⟩

/-- A row of two parts is left within the first part, or comes to the second. -/
theorem Judged.reaches {gates' : List γ} (h : Judged refuses does amends (gates ++ gates') r done) :
    (∃ e, r = .error e ∧ Judged refuses does amends gates (.error e : Except ε α) done) ∨
      ∃ done', done = gates.flatMap does ++ done' ∧ (∀ g ∈ gates, ∀ e, ¬ refuses g e) ∧
        Judged refuses does amends gates' r done' := by
  induction gates generalizing done with
  | nil => exact .inr ⟨done,rfl,by simp,h⟩
  | cons g gates ih =>
    cases h with
    | refused h => exact .inl ⟨_,rfl,.refused h⟩
    | next hpass hr =>
      rcases ih hr with ⟨e,rfl,hleft⟩ | ⟨done',rfl,hall,hright⟩
      · exact .inl ⟨e,rfl,.next hpass hleft⟩
      · refine .inr ⟨done',by simp,?_,hright⟩
        intro b hb
        rcases List.mem_cons.mp hb with rfl | hb
        · exact hpass
        · exact hall b hb

/-- A row of gates that stands in another one, under other names. -/
theorem Judged.map {refuses' : δ → ε → Prop} {does' amends' : δ → List ω} (f : γ → δ)
    (hr : ∀ g e, refuses' (f g) e ↔ refuses g e) (hd : ∀ g, does' (f g) = does g)
    (ha : ∀ g, amends' (f g) = amends g) (h : Judged refuses does amends gates r done) :
    Judged refuses' does' amends' (gates.map f) r done := by
  induction h with
  | passed a => exact .passed a
  | @refused g _ e h =>
    rw [← hd,← ha]
    exact .refused ((hr g e).mpr h)
  | @next g _ _ _ hpass _ ih =>
    rw [← hd]
    exact .next (fun e he => hpass e ((hr g e).mp he)) ih

/-- The same gates, with errors of another kind. -/
theorem Judged.lift {ε' : Type} {refuses' : γ → ε' → Prop} {k : ε → ε'}
    (hr : ∀ g e', refuses' g e' ↔ ∃ e, refuses g e ∧ e' = k e)
    (h : Judged refuses does amends gates r done) :
    Judged refuses' does amends gates (r.mapError k) done := by
  induction h with
  | passed a => exact .passed a
  | @refused g _ e h => exact .refused ((hr g (k e)).mpr ⟨e,h,rfl⟩)
  | @next g _ _ _ hpass _ ih =>
    refine .next ?_ ih
    intro e' he'
    obtain ⟨e,he,-⟩ := (hr g e').mp he'
    exact hpass e he

/-- What is done about refusals, where nothing was done about them before. -/
theorem Judged.amend {a : α} (h : Judged refuses does (fun _ => []) gates (.ok a) done) :
    Judged refuses does amends gates (.ok a) done := by
  generalize hx : (Except.ok a : Except ε α) = x at h
  induction h with
  | passed a => exact .passed a
  | refused _ => cases hx
  | next hpass _ ih => exact .next hpass (ih hx)

theorem Judged.amend_error {extra : List ω} (ha : ∀ g ∈ gates, amends g = extra)
    (h : Judged refuses does (fun _ => []) gates (.error e : Except ε α) done) :
    Judged refuses does amends gates (.error e : Except ε α) (done ++ extra) := by
  generalize hx : (Except.error e : Except ε α) = x at h
  induction h with
  | passed _ => cases hx
  | @refused g gates e h =>
    have hrefused : Judged refuses does amends (g :: gates) (.error e : Except ε α)
        (does g ++ amends g) := .refused h
    rw [ha g (by simp)] at hrefused
    simpa using hrefused
  | @next g gates _ _ hpass _ ih =>
    have hlater := ih (fun b hb => ha b (List.mem_cons_of_mem _ hb)) hx
    have hnext := Judged.next hpass hlater
    simpa using hnext

/-- Only one gate is the first that refuses. -/
theorem StopsAt.unique {g' : γ} {e' : ε} {done' : List ω}
    (h : StopsAt refuses does amends gates g e done)
    (h' : StopsAt refuses does amends gates g' e' done') : g = g' ∧ done = done' := by
  obtain ⟨before,after,hgates,hbefore,hg,rfl⟩ := h
  obtain ⟨before',after',hgates',hbefore',hg',rfl⟩ := h'
  rw [hgates] at hgates'
  rcases List.append_eq_append_iff.mp hgates' with ⟨middle,rfl,hmiddle⟩ | ⟨middle,rfl,hmiddle⟩
  · cases middle with
    | nil =>
      obtain ⟨rfl,-⟩ := List.cons.inj hmiddle
      simp
    | cons b middle =>
      obtain ⟨rfl,-⟩ := List.cons.inj hmiddle
      exact absurd hg (hbefore' g (by simp) e)
  · cases middle with
    | nil =>
      obtain ⟨rfl,-⟩ := List.cons.inj hmiddle
      simp
    | cons b middle =>
      obtain ⟨rfl,-⟩ := List.cons.inj hmiddle
      exact absurd hg' (hbefore g' (by simp) e')

end Judged

end WorkloadLogin
