import WorkloadLogin.Http.Url
import WorkloadLogin.Proofs.Http.Percent

/-! # Segments put behind a path

A text becomes one segment that stands for it, unless it names the same place or the parent or has
a stray character. Those texts are no segments of their own: the path stays as it is, is left open,
or gets the segment of another text.
-/
namespace WorkloadLogin.Http.Url
variable {path : List String} {s t segment : String}

/-- The text that a segment of a path is read as. -/
def ReadsAs (segment s : String) : Prop := Percent.decode (Bytes.ofText segment) = Bytes.ofText s

/-- The text can be told from every other one by its segment. -/
def Proper (s : String) : Prop := s ≠ "." ∧ s ≠ ".." ∧ s.toList.any isStray = false

instance decidableProper (s : String) : Decidable (Proper s) :=
  inferInstanceAs (Decidable (s ≠ "." ∧ s ≠ ".." ∧ s.toList.any isStray = false))

/-- The segment of a text, as it is written. -/
def written (s : String) : String :=
  String.ofList (Percent.encode Percent.inSegment (s.toList.filter fun c => !isStray c))

theorem decode_written (s : String) :
    Percent.decode (Bytes.ofText (written s)) =
      Bytes.utf8 (s.toList.filter fun c => !isStray c) := by
  rw [written, Bytes.ofText_ofList, Percent.decode_encode Percent.faithful_inSegment]

theorem filter_eq_toList_iff :
    (s.toList.filter fun c => !isStray c) = s.toList ↔ s.toList.any isStray = false := by
  rw [List.filter_eq_self, List.any_eq_false]
  exact forall_congr' fun c => forall_congr' fun _ => by simp

theorem readsAs_written (hs : Proper s) : ReadsAs (written s) s := by
  rw [ReadsAs, decode_written, filter_eq_toList_iff.mpr hs.2.2]
  rfl

theorem written_inj (hs : Proper s) (ht : Proper t) : written s = written t ↔ s = t := by
  constructor
  · intro h
    have hread : Bytes.ofText s = Bytes.ofText t := by
      rw [← readsAs_written hs, ← readsAs_written ht, h]
    exact Bytes.ofText_inj.mp hread
  · exact congrArg written

/-- A text without stray characters is written as another one only if it is that one. -/
theorem written_ne (hs : Proper s) (ht : t.toList.any isStray = false) (hne : s ≠ t) :
    written s ≠ written t := by
  intro h
  have hread : Bytes.ofText s = Bytes.ofText t := by
    rw [← readsAs_written hs, h, decode_written, filter_eq_toList_iff.mpr ht]
    rfl
  exact hne (Bytes.ofText_inj.mp hread)

/-- The path as others are put behind it: one empty segment counts as none. -/
def bare (path : List String) : List String := if path = [""] then [] else path

theorem bare_of_ne (h : path ≠ [""]) : bare path = path := if_neg h

theorem addSegment_of_dots (h : s = "." ∨ s = "..") : addSegment path s = path := if_pos h

theorem addSegment_of_not_dots (h : ¬(s = "." ∨ s = "..")) :
    addSegment path s =
      if written s = "." then bare path ++ [""]
      else if written s = ".." then (bare path).dropLast ++ [""]
      else bare path ++ [written s] :=
  if_neg h

theorem addSegment_of_proper (hs : Proper s) : addSegment path s = bare path ++ [written s] := by
  have hsame := written_ne (t := ".") hs (by decide) hs.1
  have hparent := written_ne (t := "..") hs (by decide) hs.2.1
  rw [show written "." = "." by decide +kernel] at hsame
  rw [show written ".." = ".." by decide +kernel] at hparent
  rw [addSegment_of_not_dots (not_or.mpr ⟨hs.1,hs.2.1⟩), if_neg hsame, if_neg hparent]

theorem length_bare_le (path : List String) : (bare path).length ≤ path.length := by
  unfold bare
  split
  · simp
  · exact Nat.le_refl _

theorem length_addSegment_le (path : List String) (s : String) :
    (addSegment path s).length ≤ path.length + 1 := by
  have hbare := length_bare_le path
  by_cases hdots : s = "." ∨ s = ".."
  · rw [addSegment_of_dots hdots]
    omega
  · rw [addSegment_of_not_dots hdots]
    split
    · simpa using hbare
    · split
      · simp only [List.length_append, List.length_dropLast, List.length_singleton]
        omega
      · simpa using hbare

theorem addSegment_ne_nil (h : path ≠ []) : addSegment path s ≠ [] := by
  by_cases hdots : s = "." ∨ s = ".."
  · rwa [addSegment_of_dots hdots]
  · rw [addSegment_of_not_dots hdots]
    split
    · simp
    · split
      · simp
      · simp

theorem eq_empty_of_readsAs (h : ReadsAs "" s) : s = "" := Bytes.ofText_inj.mp h.symm

/-- Exactly the proper texts get a segment of their own. -/
theorem exists_addSegment_iff (hpath : path ≠ [""]) :
    (∃ segment, addSegment path s = path ++ [segment] ∧ ReadsAs segment s) ↔ Proper s := by
  constructor
  · rintro ⟨segment,hadd,hread⟩
    by_cases hdots : s = "." ∨ s = ".."
    · rw [addSegment_of_dots hdots] at hadd
      have hlength := congrArg List.length hadd
      simp at hlength
    · -- A path that is left open ends in an empty segment, which stands for the empty text only.
      have hopen : ∀ front, front ++ [""] = path ++ [segment] → written s = "" := by
        intro front heq
        have hsegment : segment = "" := (List.append_inj_right' heq rfl |> List.cons.inj).1.symm
        rw [hsegment] at hread
        rw [eq_empty_of_readsAs hread]
        rfl
      rw [addSegment_of_not_dots hdots, bare_of_ne hpath] at hadd
      split at hadd
      · rename_i hsame
        rw [hopen _ hadd] at hsame
        exact absurd hsame (by decide)
      · split at hadd
        · rename_i hparent
          rw [hopen _ hadd] at hparent
          exact absurd hparent (by decide)
        · have hsegment : written s = segment :=
            (List.append_inj_right' hadd rfl |> List.cons.inj).1
          rw [← hsegment, ReadsAs, decode_written] at hread
          have hall : (s.toList.filter fun c => !isStray c) = s.toList := Bytes.utf8_inj.mp hread
          exact ⟨fun h => hdots (.inl h),fun h => hdots (.inr h),filter_eq_toList_iff.mp hall⟩
  · intro hs
    refine ⟨written s,?_,readsAs_written hs⟩
    rw [addSegment_of_proper hs, bare_of_ne hpath]

/-! ## Paths of addresses below another one -/

theorem openPath_eq_singleton_iff : openPath path = [""] ↔ path = ["",""] := by
  constructor
  · intro h
    unfold openPath at h
    split at h
    · rename_i hlast
      have hne : path ≠ [] := by
        rintro rfl
        cases hlast
      have hsplit := List.dropLast_concat_getLast hne
      have hend : path.getLast hne = "" := by
        rw [List.getLast?_eq_some_getLast hne] at hlast
        exact Option.some.inj hlast
      rw [h, hend] at hsplit
      exact hsplit.symm
    · rename_i hlast
      rw [h] at hlast
      exact absurd rfl hlast
  · rintro rfl
    rfl

/-- What a base keeps of its path in front of further segments. -/
def front (u : Url) : List String := bare (openPath u.path)

theorem front_eq_openPath {u : Url} (h : u.path ≠ ["",""]) : u.front = openPath u.path :=
  bare_of_ne fun he => h (openPath_eq_singleton_iff.mp he)

theorem front_eq_nil {u : Url} (h : u.path = ["",""]) : u.front = [] :=
  if_pos (openPath_eq_singleton_iff.mpr h)

/-- A path whose last segment is not empty stays as it is in front of others. -/
theorem append_ne_singleton (path : List String) (h : segment ≠ "") : path ++ [segment] ≠ [""] := by
  intro he
  have hlast := congrArg List.getLast? he
  simp only [List.getLast?_concat, List.getLast?_singleton, Option.some.injEq] at hlast
  exact h hlast

/-- Two segments of their own behind a base, and whatever becomes of a third text. -/
theorem path_below (u : Url) {a b : String} (ha : Proper a) (hb : Proper b)
    (hwritten : written a ≠ "" ∧ written b ≠ "") (s : String) :
    (u.below [a,b,s]).path = addSegment (u.front ++ [written a] ++ [written b]) s := by
  have hfirst : bare (u.front ++ [written a]) = u.front ++ [written a] :=
    bare_of_ne (append_ne_singleton _ hwritten.1)
  have hopened : [a,b,s].foldl addSegment (openPath u.path) =
      addSegment (u.front ++ [written a] ++ [written b]) s := by
    simp only [List.foldl_cons, List.foldl_nil]
    rw [addSegment_of_proper ha, addSegment_of_proper hb]
    change addSegment (bare (u.front ++ [written a]) ++ [written b]) s = _
    rw [hfirst]
  have hne : addSegment (u.front ++ [written a] ++ [written b]) s ≠ [] :=
    addSegment_ne_nil (by simp)
  unfold below
  simp only [hopened]
  exact if_neg (by simpa using hne)

/-- The address with two segments behind the path of the base. -/
def behind (u : Url) (a b : String) : Url := { u with path := u.front ++ [a,b] }

/-- Two segments that stand for themselves. -/
theorem below_pair (u : Url) {a b : String} (ha : Proper a) (hb : Proper b)
    (hwritten : written a = a ∧ written b = b) (hne : a ≠ "") :
    u.below [a,b] = u.behind a b := by
  have hbare : bare (u.front ++ [a]) = u.front ++ [a] := bare_of_ne (append_ne_singleton _ hne)
  have hopened : [a,b].foldl addSegment (openPath u.path) = u.front ++ [a,b] := by
    simp only [List.foldl_cons, List.foldl_nil]
    rw [addSegment_of_proper ha, addSegment_of_proper hb, hwritten.1, hwritten.2]
    change bare (u.front ++ [a]) ++ [b] = _
    rw [hbare, List.append_assoc]
    rfl
  unfold below behind
  simp [hopened]

end WorkloadLogin.Http.Url
