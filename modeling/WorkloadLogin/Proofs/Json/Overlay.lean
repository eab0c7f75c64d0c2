import WorkloadLogin.Json.Nested
import WorkloadLogin.Proofs.Entries

/-! # Trees put over one another

Where the members of all objects ascend by name, a tree that is put over another one is their deep
merge: two objects give the object with the members of both, and of anything else the upper value
alone is left. So what a path leads to in the merged tree is told by what it leads to in the two
trees, unless the upper one ends before the path does.
-/
namespace WorkloadLogin.Json
open Entries
variable {name n : String} {v w t u top base : Json} {ms os ws : List (String × Json)}
  {path p q : List String}

def IsObject (v : Json) : Prop := ∃ ms, v = .object ms

@[simp] theorem isObject_object : IsObject (.object ms) := ⟨ms,rfl⟩

/-! ## Ordered trees -/

/-- The members of every object ascend by name. -/
inductive Ordered : Json → Prop
  | object {ms : List (String × Json)} (ascending : Ascending ms)
      (values : ∀ m ∈ ms, Ordered m.2) : Ordered (.object ms)
  | other {v : Json} (h : ¬ IsObject v) : Ordered v

theorem ordered_object_nil : Ordered (.object []) := .object List.Pairwise.nil (by simp)

theorem Ordered.members (h : Ordered (.object ms)) : Ascending ms ∧ ∀ m ∈ ms, Ordered m.2 := by
  cases h with
  | object ha hv => exact ⟨ha,hv⟩
  | other hnot => exact absurd isObject_object hnot

theorem ordered_foldl_insert (hos : ∀ m ∈ os, Ordered m.2)
    (hms : Ordered (.object ms)) :
    Ordered (.object (os.foldl (fun sorted m => Entries.insert m.1 m.2 sorted) ms)) := by
  induction os generalizing ms with
  | nil => exact hms
  | cons m os ih =>
    obtain ⟨hm,hos⟩ := List.forall_mem_cons.mp hos
    obtain ⟨ha,hv⟩ := hms.members
    exact ih hos (.object (ascending_insert ha) (forall_mem_insert hm hv))

mutual
theorem ordered_normalize : (v : Json) → Ordered v.normalize
  | .object members => by
    rw [normalize]
    exact ordered_foldl_insert (ordered_normalizeMembers members) ordered_object_nil
  | .array items => .other (by rintro ⟨ms,h⟩; simp [normalize] at h)
  | .null | .bool _ | .integer _ | .decimal _ | .string _ | .unpaired _ | .illNamed _ =>
    .other (by rintro ⟨ms,h⟩; simp [normalize] at h)

theorem ordered_normalizeMembers :
    (ms : List (String × Json)) → ∀ m ∈ normalizeMembers ms, Ordered m.2
  | [] => nofun
  | (_,v) :: ms => by
    rw [normalizeMembers]
    exact List.forall_mem_cons.mpr ⟨ordered_normalize v,ordered_normalizeMembers ms⟩
end

/-! ## What a path leads to -/

/-- The value at the end of a path. -/
def at? : List String → Json → Option Json
  | [], v => some v
  | step :: path, v => (v.member? step).bind (at? path)

@[simp] theorem at?_nil (v : Json) : at? [] v = some v := rfl

theorem at?_singleton (n : String) (v : Json) : at? [n] v = v.member? n := by
  rw [at?]
  cases v.member? n <;> rfl

theorem mem_of_member? (h : (Json.object ms).member? n = some v) : (n,v) ∈ ms := by
  simp only [member?, Option.map_eq_some_iff] at h
  obtain ⟨m,hm,rfl⟩ := h
  have hname : m.1 = n := by simpa using List.find?_some hm
  subst hname
  exact List.mem_reverse.mp (List.mem_of_find?_eq_some hm)

theorem member?_eq_some_iff (h : Ascending ms) :
    (Json.object ms).member? n = some v ↔ (n,v) ∈ ms := by
  refine ⟨mem_of_member?,fun hmem => ?_⟩
  obtain ⟨m,hm⟩ : ∃ m, ms.reverse.find? (fun m => m.1 == n) = some m :=
    Option.isSome_iff_exists.mp (List.find?_isSome.mpr ⟨_,List.mem_reverse.mpr hmem,by simp⟩)
  have hin := List.mem_reverse.mp (List.mem_of_find?_eq_some hm)
  have hname : m.1 = n := by simpa using List.find?_some hm
  subst hname
  rw [member?, hm, Option.map_some, h.value_unique hin hmem]

theorem member?_eq_none_iff (h : Ascending ms) :
    (Json.object ms).member? n = none ↔ n ∉ ms.map Prod.fst := by
  rw [Option.eq_none_iff_forall_ne_some]
  simp [member?_eq_some_iff h]

theorem member?_of_not_isObject (h : ¬ IsObject v) : v.member? n = none := by
  cases v with
  | object ms => exact absurd isObject_object h
  | _ => rfl

theorem Ordered.of_member? (h : Ordered v) (hw : v.member? n = some w) : Ordered w := by
  cases h with
  | object ha hv => exact hv _ ((member?_eq_some_iff ha).mp hw)
  | other hnot => simp [member?_of_not_isObject hnot] at hw

theorem at?_append (p q : List String) (v : Json) : at? (p ++ q) v = (at? p v).bind (at? q) := by
  induction p generalizing v with
  | nil => rfl
  | cons step p ih =>
    simp only [List.cons_append, at?]
    cases v.member? step with
    | none => rfl
    | some u => exact ih u

/-! ## The deep merge -/

/-- A value overlaid by another one: objects keep the members of both, and the upper value replaces
anything else as a whole. -/
inductive Overlays : Json → Json → Json → Prop
  | objects {ms os ws : List (String × Json)} (ascending : Ascending ws)
      (names : ∀ n, n ∈ ws.map Prod.fst ↔ n ∈ ms.map Prod.fst ∨ n ∈ os.map Prod.fst)
      (lower : ∀ n v w, (n,v) ∈ ms → n ∉ os.map Prod.fst → (n,w) ∈ ws → w = v)
      (upper : ∀ n o w, n ∉ ms.map Prod.fst → (n,o) ∈ os → (n,w) ∈ ws → w = o)
      (both : ∀ n v o w, (n,v) ∈ ms → (n,o) ∈ os → (n,w) ∈ ws → Overlays v o w) :
      Overlays (.object ms) (.object os) (.object ws)
  | replaced {v top : Json} (h : ¬ (IsObject v ∧ IsObject top)) : Overlays v top top

theorem merge_of_not_isObject (h : ¬ (IsObject v ∧ IsObject top)) : v.merge top = top := by
  unfold merge
  split
  · exact absurd ⟨isObject_object,isObject_object⟩ h
  · rfl

theorem merge_object : (Json.object ms).merge (.object os) = .object (mergeMembers ms os) := by
  rw [merge]

theorem find?_eq_member? (h : Ascending ms) :
    (ms.find? fun m => m.1 == n).map Prod.snd = (Json.object ms).member? n := by
  ext v
  rw [member?_eq_some_iff h]
  exact find?_map_eq_some_iff h

theorem member?_insert (h : Ascending ms) :
    (Json.object (Entries.insert name v ms)).member? n =
      if n = name then some v else (Json.object ms).member? n := by
  ext w
  rw [member?_eq_some_iff (ascending_insert h), mem_insert_iff h]
  split
  · rename_i hn
    simp [hn, eq_comm]
  · rename_i hn
    simp [hn, member?_eq_some_iff h]

theorem member?_cons (h : Ascending ((name,v) :: ms)) :
    (Json.object ((name,v) :: ms)).member? n =
      if n = name then some v else (Json.object ms).member? n := by
  ext w
  rw [member?_eq_some_iff h, List.mem_cons, Prod.mk.injEq]
  obtain ⟨hk,hms⟩ := ascending_cons_iff.mp h
  split
  · rename_i hn
    subst hn
    have hnot : (n,w) ∉ ms := fun hmem => absurd (hk n (List.mem_map_of_mem hmem)) (lt_irrefl _)
    simp [hnot, eq_comm]
  · rename_i hn
    simp [hn, member?_eq_some_iff hms]

theorem mergeMembers_spec (hm : Ascending ms) (ho : Ascending os) :
    Ascending (mergeMembers ms os) ∧ ∀ n, (Json.object (mergeMembers ms os)).member? n =
      ((Json.object ms).member? n).merge merge ((Json.object os).member? n) := by
  induction os generalizing ms with
  | nil =>
    refine ⟨by rwa [mergeMembers],fun n => ?_⟩
    rw [mergeMembers]
    cases (Json.object ms).member? n <;> rfl
  | cons m os ih =>
    obtain ⟨k,o⟩ := m
    obtain ⟨hk,hos⟩ := ascending_cons_iff.mp ho
    rw [mergeMembers]
    obtain ⟨ha,hmember⟩ := ih (ascending_insert hm) hos
    refine ⟨ha,fun n => ?_⟩
    rw [hmember, member?_insert hm, member?_cons ho]
    split
    · rename_i hn
      subst hn
      have hnone : (Json.object os).member? n = none :=
        (member?_eq_none_iff hos).mpr fun hmem => absurd (hk n hmem) (lt_irrefl _)
      rw [hnone, ← find?_eq_member? hm]
      cases ms.find? fun m => m.1 == n <;> rfl
    · rfl

theorem ascending_mergeMembers (hm : Ascending ms) (ho : Ascending os) :
    Ascending (mergeMembers ms os) := (mergeMembers_spec hm ho).1

/-- A member of the merged object is one of either object, or comes of one of each. -/
theorem mem_mergeMembers_iff (hm : Ascending ms) (ho : Ascending os) :
    (n,w) ∈ mergeMembers ms os ↔
      (n,w) ∈ ms ∧ n ∉ os.map Prod.fst ∨ n ∉ ms.map Prod.fst ∧ (n,w) ∈ os ∨
        ∃ v o, (n,v) ∈ ms ∧ (n,o) ∈ os ∧ v.merge o = w := by
  obtain ⟨ha,hmember⟩ := mergeMembers_spec hm ho
  rw [← member?_eq_some_iff ha, hmember]
  simp only [← member?_eq_some_iff hm, ← member?_eq_some_iff ho, ← member?_eq_none_iff hm,
    ← member?_eq_none_iff ho]
  cases (Json.object ms).member? n <;> cases (Json.object os).member? n <;> simp [Option.merge]

theorem mem_names_mergeMembers_iff :
    n ∈ (mergeMembers ms os).map Prod.fst ↔ n ∈ ms.map Prod.fst ∨ n ∈ os.map Prod.fst := by
  induction os generalizing ms with
  | nil => simp [mergeMembers]
  | cons m os ih =>
    rw [mergeMembers, ih, mem_names_insert_iff, List.map_cons, List.mem_cons,
      or_comm (a := n = _), or_assoc]

theorem Ordered.merge (hv : Ordered v) (ht : Ordered top) : Ordered (v.merge top) := by
  induction ht generalizing v with
  | @object os ho hos ih =>
    by_cases hobj : IsObject v
    · obtain ⟨ms,rfl⟩ := hobj
      obtain ⟨hm,hms⟩ := hv.members
      rw [merge_object]
      refine .object (ascending_mergeMembers hm ho) fun ⟨n,w⟩ hmem => ?_
      rcases (mem_mergeMembers_iff hm ho).mp hmem with ⟨hw,-⟩ | ⟨-,hw⟩ | ⟨v,o,hv,ho,rfl⟩
      · exact hms _ hw
      · exact hos _ hw
      · exact ih _ ho (hms _ hv)
    · rw [merge_of_not_isObject fun h => hobj h.1]
      exact .object ho hos
  | other hnot =>
    rw [merge_of_not_isObject fun h => hnot h.2]
    exact .other hnot

theorem overlays_merge (hv : Ordered v) (ht : Ordered top) : Overlays v top (v.merge top) := by
  induction ht generalizing v with
  | @object os ho hos ih =>
    by_cases hobj : IsObject v
    · obtain ⟨ms,rfl⟩ := hobj
      obtain ⟨hm,hms⟩ := hv.members
      have ha := ascending_mergeMembers hm ho
      have hmem := fun n w => mem_mergeMembers_iff (n := n) (w := w) hm ho
      rw [merge_object]
      refine .objects ha (fun n => mem_names_mergeMembers_iff) ?_ ?_ ?_
      · intro n v w hv hn hw
        exact ha.value_unique hw ((hmem _ _).mpr (.inl ⟨hv,hn⟩))
      · intro n o w hn ho hw
        exact ha.value_unique hw ((hmem _ _).mpr (.inr (.inl ⟨hn,ho⟩)))
      · intro n v o w hv ho hw
        rw [ha.value_unique hw ((hmem _ _).mpr (.inr (.inr ⟨v,o,hv,ho,rfl⟩)))]
        exact ih _ ho (hms _ hv)
    · have hnot : ¬ (IsObject v ∧ IsObject (.object os)) := fun h => hobj h.1
      rw [merge_of_not_isObject hnot]
      exact .replaced hnot
  | other hnot =>
    have hnot : ¬ (IsObject v ∧ IsObject _) := fun h => hnot h.2
    rw [merge_of_not_isObject hnot]
    exact .replaced hnot

theorem Overlays.eq_merge (h : Overlays v top w) (hv : Ordered v) (ht : Ordered top) :
    w = v.merge top := by
  induction h with
  | @objects ms os ws ascending names lower upper both ih =>
    obtain ⟨hm,hms⟩ := hv.members
    obtain ⟨ho,hos⟩ := ht.members
    rw [merge_object]
    refine congrArg Json.object (ascending.ext (ascending_mergeMembers hm ho)
      (fun n => (names n).trans mem_names_mergeMembers_iff.symm) fun n w w' hw hw' => ?_)
    rcases (mem_mergeMembers_iff hm ho).mp hw' with ⟨hv,hn⟩ | ⟨hn,ho⟩ | ⟨v,o,hv,ho,rfl⟩
    · exact lower n w' w hv hn hw
    · exact upper n w' w hn ho hw
    · exact ih n v o w hv ho hw (hms _ hv) (hos _ ho)
  | replaced hnot => exact (merge_of_not_isObject hnot).symm

/-- The deep merge of two ordered trees is the one overlaid by the other, and nothing else is. -/
theorem overlays_iff (hv : Ordered v) (ht : Ordered top) :
    Overlays v top w ↔ w = v.merge top := by
  constructor
  · intro h
    exact h.eq_merge hv ht
  · rintro rfl
    exact overlays_merge hv ht

theorem isObject_normalize (h : IsObject v) : IsObject v.normalize := by
  obtain ⟨ms,rfl⟩ := h
  exact ⟨_,by rw [normalize]⟩

theorem merge_object_nil (h : IsObject v) : v.merge (.object []) = v := by
  obtain ⟨ms,rfl⟩ := h
  rw [merge_object, mergeMembers]

theorem object_nil_merge (h : IsObject v) (ho : Ordered v) : (Json.object []).merge v = v := by
  obtain ⟨ms,rfl⟩ := h
  have hm := ho.members.1
  have hoverlays : Overlays (.object []) (.object ms) (.object ms) :=
    .objects hm (by simp) nofun (fun _ _ _ _ hv hw => hm.value_unique hw hv) nofun
  exact ((overlays_iff ordered_object_nil ho).mp hoverlays).symm

/-- What a path leads to in the merged tree, where the upper tree does not end before the path. -/
theorem at?_merge (hv : Ordered v) (ht : Ordered top)
    (hway : ∀ q u, q <+: path → q ≠ path → at? q top = some u → IsObject u) :
    at? path (v.merge top) = (at? path v).merge merge (at? path top) := by
  induction path generalizing v top with
  | nil => rfl
  | cons step path ih =>
    obtain ⟨os,rfl⟩ := hway [] top List.nil_prefix nofun rfl
    by_cases hobj : IsObject v
    · obtain ⟨ms,rfl⟩ := hobj
      obtain ⟨hm,hms⟩ := hv.members
      obtain ⟨ho,hos⟩ := ht.members
      rw [merge_object, at?, (mergeMembers_spec hm ho).2, at?, at?]
      cases hlow : (Json.object ms).member? step with
      | none => simp
      | some w =>
        cases hup : (Json.object os).member? step with
        | none => simp
        | some o =>
          refine ih (hv.of_member? hlow) (ht.of_member? hup) fun q u hq hne hu => ?_
          refine hway (step :: q) u (by simpa using hq) (by simpa using hne) ?_
          rw [at?, hup]
          exact hu
    · rw [merge_of_not_isObject fun h => hobj h.1, at?, at?, member?_of_not_isObject hobj]
      simp

end WorkloadLogin.Json
