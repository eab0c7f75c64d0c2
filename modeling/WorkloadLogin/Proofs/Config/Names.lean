import WorkloadLogin.Config.Variables
import WorkloadLogin.Proofs.Text.Blank

/-! # The paths that variable names spell

A name counts if it starts with the common beginning in any case. What is behind that is cut at each
pair of underscores, taken from the left, and each part again at its points; the steps are in lower
case. Blanks around the name or around what is behind its beginning do not matter.
-/
namespace WorkloadLogin.Variables
open Text
variable {cs before core after : List Char} {name : String} {steps : List String}

/-- The parts of a text between its pairs of underscores. -/
def splitPairs : List Char → List (List Char)
  | '_' :: '_' :: cs => [] :: splitPairs cs
  | c :: cs => (splitPairs cs).modifyHead (c :: ·)
  | [] => [[]]

/-- The name spells these steps behind the common beginning, and none of them is empty. -/
def KeyPath (name : String) (steps : List String) : Prop :=
  ∃ start rest, trimBlank name.toList = start ++ rest ∧ lower start = lower nameStart ∧
    steps = (splitPairs (trimBlank rest)).flatMap (fun part => Json.pathSteps (lower part)) ∧
    "" ∉ steps

/-! ## Marks for the pairs -/

theorem splitPairs_ne_nil (cs : List Char) : splitPairs cs ≠ [] := by
  induction cs using splitPairs.induct with
  | case1 => simp [splitPairs]
  | case2 c cs hne ih =>
    rw [splitPairs]
    · simpa [List.modifyHead_eq_nil_iff] using ih
    · exact hne
  | case3 => simp [splitPairs]

theorem splitOn_cons (sep c : Char) (cs : List Char) : (c :: cs).splitOn sep =
    if c = sep then [] :: cs.splitOn sep else (cs.splitOn sep).modifyHead (c :: ·) := by
  simp [List.splitOn, List.splitOnP_cons_eq_if_modifyHead]

/-- Points for the pairs of underscores cut a text at both. -/
theorem splitOn_lower_markSteps (cs : List Char) :
    (lower (markSteps cs)).splitOn '.' =
      (splitPairs cs).flatMap fun part => (lower part).splitOn '.' := by
  induction cs using markSteps.induct with
  | case1 cs ih =>
    have hpoint : lower ('.' :: markSteps cs) = '.' :: lower (markSteps cs) := rfl
    rw [markSteps, splitPairs, hpoint, splitOn_cons, if_pos rfl, ih, List.flatMap_cons]
    rfl
  | case2 c cs hne ih =>
    rw [markSteps, splitPairs]
    · obtain ⟨part,parts,hparts⟩ := List.exists_cons_of_ne_nil (splitPairs_ne_nil cs)
      rw [hparts, List.flatMap_cons] at ih
      rw [hparts, List.modifyHead_cons, List.flatMap_cons]
      simp only [lower, List.map_cons, splitOn_cons] at ih ⊢
      rw [ih]
      split
      · rfl
      · obtain ⟨step,rest,hrest⟩ :=
          List.exists_cons_of_ne_nil (List.splitOnP_ne_nil (· == '.') (part.map Char.toLower))
        rw [List.splitOn, hrest]
        rfl
    · exact hne
    · exact hne
  | case3 => rfl

/-! ## Blanks -/

theorem markSteps_append (h : ∀ c ∈ after.head?, c ≠ '_') :
    markSteps (cs ++ after) = markSteps cs ++ markSteps after := by
  induction cs using markSteps.induct with
  | case1 cs ih => simp [markSteps, ih]
  | case2 c cs hne ih =>
    have hne' : ∀ rest, c = '_' → cs ++ after = '_' :: rest → False := by
      intro rest hc hrest
      cases cs with
      | nil => exact h '_' (by simp [show after = '_' :: rest from hrest]) rfl
      | cons d cs =>
        obtain ⟨rfl,-⟩ := List.cons.inj hrest
        exact hne cs hc rfl
    rw [List.cons_append, markSteps, markSteps, ih, List.cons_append]
    · exact hne
    · exact hne'
  | case3 => rfl

theorem markSteps_append_of_forall_ne (h : ∀ c ∈ before, c ≠ '_') :
    markSteps (before ++ cs) = before ++ markSteps cs := by
  induction before with
  | nil => rfl
  | cons c before ih =>
    obtain ⟨hc,hbefore⟩ := List.forall_mem_cons.mp h
    rw [List.cons_append, markSteps, ih hbefore, List.cons_append]
    exact fun _ hc' => absurd hc' hc

theorem head?_markSteps : ∀ c ∈ (markSteps cs).head?, c = '.' ∨ c ∈ cs.head? := by
  induction cs using markSteps.induct with
  | case1 cs => simp [markSteps]
  | case2 c cs hne =>
    rw [markSteps]
    · simp
    · exact hne
  | case3 => simp [markSteps]

theorem markSteps_eq_nil_iff : markSteps cs = [] ↔ cs = [] := by
  fun_cases markSteps cs <;> simp

theorem getLast?_markSteps : ∀ c ∈ (markSteps cs).getLast?, c = '.' ∨ c ∈ cs.getLast? := by
  induction cs using markSteps.induct with
  | case1 cs ih =>
    rw [markSteps, List.getLast?_cons, List.getLast?_cons_cons, List.getLast?_cons]
    intro c hc
    cases hlast : (markSteps cs).getLast? with
    | none => exact .inl (by simpa [hlast, eq_comm] using hc)
    | some d =>
      obtain rfl : d = c := by simpa [hlast] using hc
      rcases ih d hlast with hd | hd
      · exact .inl hd
      · exact .inr (by simp [Option.mem_def.mp hd])
  | case2 c cs hne ih =>
    rw [markSteps, List.getLast?_cons, List.getLast?_cons]
    · intro d hd
      cases hlast : (markSteps cs).getLast? with
      | none =>
        have hnil : cs = [] := markSteps_eq_nil_iff.mp (List.getLast?_eq_none_iff.mp hlast)
        subst hnil
        exact .inr (by simpa [markSteps, eq_comm] using hd)
      | some e =>
        obtain rfl : e = d := by simpa [hlast] using hd
        rcases ih e hlast with he | he
        · exact .inl he
        · exact .inr (by simp [Option.mem_def.mp he])
    · exact hne
  | case3 => simp [markSteps]

theorem isBlank_ne_underscore {c : Char} (h : isBlank c = true) : c ≠ '_' := by
  rintro rfl
  simp [isBlank] at h

theorem trims_markSteps (h : Trims isBlank cs core) :
    Trims isBlank (markSteps cs) (markSteps core) := by
  obtain ⟨⟨before,after,rfl,hbefore,hafter⟩,hhead,hlast⟩ := h
  have hback : markSteps after = after := by
    have h : markSteps (after ++ []) = after ++ markSteps [] :=
      markSteps_append_of_forall_ne fun c hc => isBlank_ne_underscore (hafter c hc)
    simpa [markSteps] using h
  refine ⟨⟨before,after,?_,hbefore,hafter⟩,?_,?_⟩
  · rw [markSteps_append_of_forall_ne fun c hc => isBlank_ne_underscore (hbefore c hc),
      markSteps_append, hback]
    exact fun c hc => isBlank_ne_underscore (hafter c (List.mem_of_mem_head? hc))
  · intro c hc
    rcases head?_markSteps c hc with rfl | hc
    · rfl
    · exact hhead c hc
  · intro c hc
    rcases getLast?_markSteps c hc with rfl | hc
    · rfl
    · exact hlast c hc

/-! ## The path of a name -/

theorem pathSteps_lower_markSteps (cs : List Char) :
    Json.pathSteps (lower (trimBlank (markSteps cs))) =
      (splitPairs (trimBlank cs)).flatMap fun part => Json.pathSteps (lower part) := by
  have htrim : trimBlank (markSteps cs) = markSteps (trimBlank cs) :=
    (trims_markSteps (trims_trimWhere isBlank cs)).trimWhere_eq
  rw [htrim, Json.pathSteps, splitOn_lower_markSteps, List.map_flatMap]
  rfl

theorem isPrefixOf_lower_iff {start : List Char} :
    (lower start).isPrefixOf (lower cs) = true ↔
      ∃ front rest, cs = front ++ rest ∧ lower front = lower start := by
  rw [List.isPrefixOf_iff_prefix]
  constructor
  · rintro ⟨rest,hrest⟩
    obtain ⟨front,back,rfl,hfront,-⟩ := List.map_eq_append_iff.mp hrest.symm
    exact ⟨front,back,rfl,hfront⟩
  · rintro ⟨front,rest,rfl,hfront⟩
    exact ⟨lower rest,by rw [← hfront]; exact (List.map_append ..).symm⟩

theorem path?_eq_some_iff : path? name = some steps ↔ KeyPath name steps := by
  unfold path? KeyPath
  constructor
  · intro h
    simp only [Option.ite_none_right_eq_some] at h
    obtain ⟨hstart,h⟩ := h
    obtain ⟨front,rest,hcs,hfront⟩ := isPrefixOf_lower_iff.mp hstart
    have hlength : front.length = nameStart.length := by
      simpa [lower] using congrArg List.length hfront
    rw [hcs, ← hlength, List.drop_left, pathSteps_lower_markSteps] at h
    split at h
    · cases h
    · rename_i hempty
      obtain rfl := Option.some.inj h
      exact ⟨front,rest,hcs,hfront,rfl,by simpa using hempty⟩
  · rintro ⟨front,rest,hcs,hfront,rfl,hempty⟩
    have hlength : front.length = nameStart.length := by
      simpa [lower] using congrArg List.length hfront
    have hstart := isPrefixOf_lower_iff.mpr ⟨front,rest,hcs,hfront⟩
    simp only [hstart]
    rw [hcs, ← hlength, List.drop_left, pathSteps_lower_markSteps]
    simpa using hempty

theorem KeyPath.ne_nil (h : KeyPath name steps) : steps ≠ [] := by
  obtain ⟨_,rest,-,-,rfl,-⟩ := h
  obtain ⟨part,parts,hparts⟩ := List.exists_cons_of_ne_nil (splitPairs_ne_nil (trimBlank rest))
  have hfirst : Json.pathSteps (lower part) ≠ [] := by
    simp [Json.pathSteps, List.splitOn]
  rw [hparts, List.flatMap_cons]
  exact List.append_ne_nil_of_left_ne_nil hfirst _

end WorkloadLogin.Variables
