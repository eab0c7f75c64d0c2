import Mathlib.Data.List.Induction
import WorkloadLogin.Proofs.Json.Overlay

/-! # Trees of branches

Values behind paths of which none leads through another one make one tree, whichever order they are
put over one another in: at the end of each path stands its value, on the way there are objects, and
there is nothing else. Put over a base, such a tree leaves every place alone that is neither on the
way to one of its values nor behind one.
-/
namespace WorkloadLogin.Json
open Entries
variable {v w t t' base : Json} {p q path : List String}
  {branches branches' : List (List String × Json)} {ms : List (String × Json)}

/-- Neither path leads through the other one. -/
def Apart (p q : List String) : Prop := ¬ p <+: q ∧ ¬ q <+: p

instance (p q : List String) : Decidable (Apart p q) := inferInstanceAs (Decidable (_ ∧ _))

theorem Apart.symm (h : Apart p q) : Apart q p := ⟨h.2,h.1⟩

theorem Apart.ne_nil (h : Apart p q) : p ≠ [] := by
  rintro rfl
  exact h.1 List.nil_prefix

/-! ## A single branch -/

theorem at?_nest_cons (v : Json) (step other : String) (p q : List String) :
    at? (other :: q) (v.nest (step :: p)) = if other = step then at? q (v.nest p) else none := by
  rw [nest, at?]
  split
  · rename_i heq
    simp [member?, heq]
  · rename_i hne
    simp [member?, Ne.symm hne]

theorem at?_nest_append (p q : List String) (v : Json) : at? (p ++ q) (v.nest p) = at? q v := by
  induction p with
  | nil => rfl
  | cons step p ih => rw [List.cons_append, at?_nest_cons, if_pos rfl, ih]

theorem at?_nest_self (p : List String) (v : Json) : at? p (v.nest p) = some v := by
  have h := at?_nest_append p [] v
  rwa [List.append_nil] at h

theorem at?_nest_of_prefix (h : q <+: p) (hne : q ≠ p) (v : Json) :
    ∃ ms, at? q (v.nest p) = some (.object ms) := by
  induction q generalizing p with
  | nil =>
    cases p with
    | nil => exact absurd rfl hne
    | cons step p => exact ⟨_,rfl⟩
  | cons step q ih =>
    obtain ⟨rest,rfl⟩ := h
    rw [List.cons_append, at?_nest_cons, if_pos rfl]
    exact ih (List.prefix_append ..) (by simpa using hne)

theorem at?_nest_of_apart (h : Apart p q) (v : Json) : at? q (v.nest p) = none := by
  induction p generalizing q with
  | nil => exact absurd rfl h.ne_nil
  | cons step p ih =>
    cases q with
    | nil => exact absurd rfl h.symm.ne_nil
    | cons other q =>
      rw [at?_nest_cons]
      split
      · rename_i heq
        subst heq
        exact ih (by simpa [Apart] using h)
      · rfl

theorem ordered_nest (h : Ordered v) (p : List String) : Ordered (v.nest p) := by
  induction p with
  | nil => exact h
  | cons step p ih =>
    exact .object (by simp [Ascending]) (by simpa using ih)

/-- A place that the branch does not lead through, or ends at, shows it as it is. -/
theorem at?_merge_nest (ht : Ordered t) (hv : Ordered v) (h : p <+: q → p = q) :
    at? q (t.merge (v.nest p)) = (at? q t).merge merge (at? q (v.nest p)) := by
  refine at?_merge ht (ordered_nest hv p) fun r u hr hne hu => ?_
  by_cases hrp : r <+: p ∧ r ≠ p
  · obtain ⟨ms,hms⟩ := at?_nest_of_prefix hrp.1 hrp.2 v
    obtain rfl := Option.some.inj (hms.symm.trans hu)
    exact isObject_object
  · have hnot : ¬ p <+: r := by
      intro hpr
      obtain rfl := h (hpr.trans hr)
      exact hne (hr.eq_of_length_le hpr.length_le)
    have hapart : Apart p r :=
      ⟨hnot,fun hrp' => hrp ⟨hrp',fun heq => hnot (heq ▸ List.prefix_refl _)⟩⟩
    rw [at?_nest_of_apart hapart] at hu
    cases hu

/-! ## The tree of all branches -/

/-- The tree that has the values of the branches at the ends of their paths and nothing else but the
objects on the way. -/
structure TreeOf (branches : List (List String × Json)) (t : Json) : Prop where
  isObject : IsObject t
  ordered : Ordered t
  value : ∀ b ∈ branches, at? b.1 t = some b.2
  way : ∀ b ∈ branches, ∀ q, q <+: b.1 → q ≠ b.1 → ∃ ms, at? q t = some (.object ms)
  only : ∀ q ≠ [], (∀ b ∈ branches, Apart b.1 q) → at? q t = none

/-- One branch is put over a tree. -/
def put (t : Json) (b : List String × Json) : Json := t.merge (b.2.nest b.1)

theorem treeOf_nil : TreeOf [] (.object []) where
  isObject := isObject_object
  ordered := ordered_object_nil
  value := nofun
  way := nofun
  only q hq _ := by
    obtain ⟨step,q,rfl⟩ := List.exists_cons_of_ne_nil hq
    rfl

theorem TreeOf.put (h : TreeOf branches t) (hp : p ≠ []) (hv : Ordered v)
    (hapart : ∀ b ∈ branches, Apart b.1 p) : TreeOf ((p,v) :: branches) (put t (p,v)) := by
  have hat : ∀ q, (p <+: q → p = q) →
      at? q (Json.put t (p,v)) = (at? q t).merge merge (at? q (v.nest p)) :=
    fun q hq => at?_merge_nest h.ordered hv hq
  -- on the way to the new value there are objects, whatever the tree had there
  have hown : ∀ q, q <+: p → q ≠ p → ∃ ms, at? q (Json.put t (p,v)) = some (.object ms) := by
    intro q hq hne
    obtain ⟨os,hos⟩ := at?_nest_of_prefix hq hne v
    rw [hat q fun hpq => absurd (hq.eq_of_length_le hpq.length_le) hne, hos]
    cases hlow : at? q t with
    | none => exact ⟨os,rfl⟩
    | some w =>
      by_cases hw : IsObject w
      · obtain ⟨ms,rfl⟩ := hw
        exact ⟨_,congrArg some merge_object⟩
      · exact ⟨os,congrArg some (merge_of_not_isObject fun h => hw h.1)⟩
  refine ⟨?_,h.ordered.merge (ordered_nest hv p),?_,?_,?_⟩
  · obtain ⟨ms,hms⟩ := hown [] List.nil_prefix (Ne.symm hp)
    exact ⟨ms,Option.some.inj hms⟩
  · rintro b hb
    rcases List.mem_cons.mp hb with rfl | hb
    · rw [hat _ fun _ => rfl, at?_nest_self, h.only p hp hapart]
      rfl
    · have hb' := hapart b hb
      rw [hat _ fun hpb => absurd hpb hb'.2, at?_nest_of_apart hb'.symm, h.value b hb]
      rfl
  · intro b hb q hq hne
    rcases List.mem_cons.mp hb with rfl | hb
    · exact hown q hq hne
    · obtain ⟨ms,hms⟩ := h.way b hb q hq hne
      have hpq : ¬ p <+: q := fun hpq => (hapart b hb).2 (hpq.trans hq)
      by_cases hqp : q <+: p
      · exact hown q hqp fun heq => hpq (heq ▸ List.prefix_refl _)
      · rw [hat q fun hpq' => absurd hpq' hpq, hms, at?_nest_of_apart ⟨hpq,hqp⟩]
        exact ⟨ms,rfl⟩
  · intro q hq hq'
    obtain ⟨hpq,hrest⟩ := List.forall_mem_cons.mp hq'
    rw [hat q fun h => absurd h hpq.1, at?_nest_of_apart hpq, h.only q hq hrest]
    rfl

theorem TreeOf.perm (h : TreeOf branches t) (hperm : branches.Perm branches') :
    TreeOf branches' t where
  isObject := h.isObject
  ordered := h.ordered
  value b hb := h.value b (hperm.mem_iff.mpr hb)
  way b hb := h.way b (hperm.mem_iff.mpr hb)
  only q hq hapart := h.only q hq fun b hb => hapart b (hperm.mem_iff.mp hb)

/-- Branches of which none leads through another one, with ordered values. -/
structure Separate (branches : List (List String × Json)) : Prop where
  apart : (branches.map Prod.fst).Pairwise Apart
  proper : ∀ b ∈ branches, b.1 ≠ []
  ordered : ∀ b ∈ branches, Ordered b.2

theorem Separate.perm (h : Separate branches) (hperm : branches.Perm branches') :
    Separate branches' where
  apart := (hperm.map Prod.fst).pairwise h.apart fun hpq => hpq.symm
  proper b hb := h.proper b (hperm.mem_iff.mpr hb)
  ordered b hb := h.ordered b (hperm.mem_iff.mpr hb)

theorem separate_cons_iff {b : List String × Json} :
    Separate (b :: branches) ↔
      (b.1 ≠ [] ∧ Ordered b.2 ∧ ∀ c ∈ branches, Apart c.1 b.1) ∧ Separate branches := by
  constructor
  · rintro ⟨hapart,hproper,hordered⟩
    rw [List.map_cons, List.pairwise_cons] at hapart
    rw [List.forall_mem_cons] at hproper hordered
    exact ⟨⟨hproper.1,hordered.1,fun c hc => (hapart.1 _ (List.mem_map_of_mem hc)).symm⟩,
      hapart.2,hproper.2,hordered.2⟩
  · rintro ⟨⟨hp,ho,hc⟩,hapart,hproper,hordered⟩
    refine ⟨List.pairwise_cons.mpr ⟨fun p hp => ?_,hapart⟩,
      List.forall_mem_cons.mpr ⟨hp,hproper⟩,List.forall_mem_cons.mpr ⟨ho,hordered⟩⟩
    obtain ⟨c,hmem,rfl⟩ := List.mem_map.mp hp
    exact (hc c hmem).symm

theorem treeOf_foldl_put (h : Separate branches) :
    TreeOf branches (branches.foldl put (.object [])) := by
  induction branches using List.reverseRecOn with
  | nil => exact treeOf_nil
  | append_singleton branches b ih =>
    have hback := List.perm_append_singleton b branches
    obtain ⟨⟨hp,ho,hapart⟩,hrest⟩ := separate_cons_iff.mp (h.perm hback)
    rw [List.foldl_append]
    exact ((ih hrest).put hp ho hapart).perm hback.symm

/-! ## One tree for the branches -/

/-- The same is at the end of a path, or objects are there. -/
def Alike (x y : Option Json) : Prop :=
  x = y ∨ (∃ ms, x = some (.object ms)) ∧ ∃ ms, y = some (.object ms)

theorem eq_of_alike (ht : Ordered t) (ht' : Ordered t') (h : ∀ q, Alike (at? q t) (at? q t')) :
    t = t' := by
  induction ht generalizing t' with
  | @object ms hm hms ih =>
    obtain ⟨ms',rfl⟩ : IsObject t' := by
      rcases h [] with heq | ⟨-,ms',heq⟩
      · exact ⟨ms,(Option.some.inj heq).symm⟩
      · exact ⟨ms',Option.some.inj heq⟩
    obtain ⟨hm',hms'⟩ := ht'.members
    refine congrArg Json.object (hm.ext hm' (fun n => ?_) fun n v w hv hw => ?_)
    · have hn := h [n]
      rw [at?_singleton, at?_singleton] at hn
      rw [← not_iff_not, ← member?_eq_none_iff hm, ← member?_eq_none_iff hm']
      rcases hn with heq | ⟨⟨_,hl⟩,_,hr⟩
      · rw [heq]
      · simp [hl, hr]
    · refine ih _ hv (hms' _ hw) fun q => ?_
      have hq := h (n :: q)
      rwa [at?, at?, (member?_eq_some_iff hm).mpr hv, (member?_eq_some_iff hm').mpr hw] at hq
  | other hnot =>
    rcases h [] with heq | ⟨⟨ms,heq⟩,-⟩
    · exact Option.some.inj heq
    · exact absurd ⟨ms,Option.some.inj heq⟩ hnot

theorem TreeOf.unique (h : TreeOf branches t) (h' : TreeOf branches t') : t = t' := by
  refine eq_of_alike h.ordered h'.ordered fun q => ?_
  by_cases hbehind : ∃ b ∈ branches, b.1 <+: q
  · obtain ⟨b,hb,r,rfl⟩ := hbehind
    rw [at?_append, at?_append, h.value b hb, h'.value b hb]
    exact .inl rfl
  by_cases hway : ∃ b ∈ branches, q <+: b.1
  · obtain ⟨b,hb,hq⟩ := hway
    have hne : q ≠ b.1 := fun heq => hbehind ⟨b,hb,heq ▸ List.prefix_refl _⟩
    exact .inr ⟨h.way b hb q hq hne,h'.way b hb q hq hne⟩
  by_cases hq : q = []
  · subst hq
    obtain ⟨ms,rfl⟩ := h.isObject
    obtain ⟨ms',rfl⟩ := h'.isObject
    exact .inr ⟨⟨ms,rfl⟩,ms',rfl⟩
  · have hapart : ∀ b ∈ branches, Apart b.1 q :=
      fun b hb => ⟨fun hbq => hbehind ⟨b,hb,hbq⟩,fun hqb => hway ⟨b,hb,hqb⟩⟩
    rw [h.only q hq hapart, h'.only q hq hapart]
    exact .inl rfl

/-- Whichever order the branches are put over one another in, the tree is the same. -/
theorem foldl_put_perm (h : Separate branches) (hperm : branches'.Perm branches) :
    branches'.foldl put (.object []) = branches.foldl put (.object []) :=
  ((treeOf_foldl_put (h.perm hperm.symm)).perm hperm).unique (treeOf_foldl_put h)

/-! ## Branches over a base -/

/-- A place that is neither on the way to a branch's value nor behind one stays as it is. -/
theorem TreeOf.at?_merge_of_apart (h : TreeOf branches t) (hb : Ordered base) (hq : q ≠ [])
    (hapart : ∀ b ∈ branches, Apart b.1 q) : at? q (base.merge t) = at? q base := by
  rw [at?_merge hb h.ordered, h.only q hq hapart, Option.merge_none_right]
  intro r u hr hne hu
  by_cases hr' : r = []
  · subst hr'
    exact Option.some.inj hu ▸ h.isObject
  by_cases hway : ∃ b ∈ branches, r <+: b.1
  · obtain ⟨b,hb,hrb⟩ := hway
    obtain ⟨ms,hms⟩ := h.way b hb r hrb fun heq => (hapart b hb).1 (heq ▸ hr)
    exact ⟨ms,Option.some.inj (hu.symm.trans hms)⟩
  · have hnone := h.only r hr' fun b hb =>
      ⟨fun hbr => (hapart b hb).1 (hbr.trans hr),fun hrb => hway ⟨b,hb,hrb⟩⟩
    rw [hnone] at hu
    cases hu

/-- At the end of a branch stands its value, over that of the base if both are objects. -/
theorem TreeOf.at?_merge_value (h : TreeOf branches t) (hb : Ordered base)
    (hmem : (p,v) ∈ branches) :
    at? p (base.merge t) = (at? p base).merge merge (some v) := by
  rw [at?_merge hb h.ordered, h.value _ hmem]
  intro r u hr hne hu
  obtain ⟨ms,hms⟩ := h.way _ hmem r hr hne
  exact ⟨ms,Option.some.inj (hu.symm.trans hms)⟩

end WorkloadLogin.Json
