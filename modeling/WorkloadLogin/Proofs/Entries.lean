import Mathlib.Data.List.Sort
import Mathlib.Data.String.Basic
import WorkloadLogin.Entries

/-! # Entries at the places of their names

A list of entries whose names ascend has one value at most under each name, and is told by which
value that is. Putting a value under a name keeps the order and changes what is under that name
alone.
-/
namespace WorkloadLogin.Entries
variable {α : Type} {name n : String} {v w : α} {entry : String × α} {es fs : List (String × α)}

def Ascending (es : List (String × α)) : Prop := (es.map Prod.fst).Pairwise (· < ·)

theorem ascending_cons_iff :
    Ascending (entry :: es) ↔ (∀ k ∈ es.map Prod.fst, entry.1 < k) ∧ Ascending es :=
  List.pairwise_cons

theorem Ascending.nodup (h : Ascending es) : (es.map Prod.fst).Nodup :=
  List.Pairwise.imp (fun hlt => hlt.ne) h

theorem Ascending.value_unique (h : Ascending es) (hv : (n,v) ∈ es) (hw : (n,w) ∈ es) :
    v = w := by
  have heq := List.inj_on_of_nodup_map h.nodup hv hw rfl
  exact (Prod.mk.inj heq).2

/-- Lists with ascending names that have the same values under the same names are the same. -/
theorem Ascending.ext (he : Ascending es) (hf : Ascending fs)
    (names : ∀ n, n ∈ es.map Prod.fst ↔ n ∈ fs.map Prod.fst)
    (values : ∀ n v w, (n,v) ∈ es → (n,w) ∈ fs → v = w) : es = fs := by
  have hmem : ∀ e, e ∈ es ↔ e ∈ fs := by
    rintro ⟨n,v⟩
    constructor
    · intro hv
      obtain ⟨⟨_,w⟩,hw,rfl⟩ := List.mem_map.mp ((names n).mp (List.mem_map_of_mem hv))
      exact values _ v w hv hw ▸ hw
    · intro hw
      obtain ⟨⟨_,u⟩,hu,rfl⟩ := List.mem_map.mp ((names n).mpr (List.mem_map_of_mem hw))
      exact values _ u v hu hw ▸ hu
  have hperm : es.Perm fs := (List.perm_ext_iff_of_nodup he.nodup.of_map hf.nodup.of_map).mpr hmem
  have hes : es.Pairwise fun a b => a.1 < b.1 := List.pairwise_map.mp he
  have hfs : fs.Pairwise fun a b => a.1 < b.1 := List.pairwise_map.mp hf
  refine hperm.eq_of_pairwise ?_ hes hfs
  intro a b _ _ hab hba
  exact absurd hba hab.asymm

theorem Ascending.filter (h : Ascending es) (p : String × α → Bool) : Ascending (es.filter p) :=
  List.Pairwise.sublist (List.filter_sublist.map Prod.fst) h

/-- The value that is found under a name is the one that stands there. -/
theorem find?_map_eq_some_iff (h : Ascending es) :
    (es.find? fun e => e.1 == n).map Prod.snd = some v ↔ (n,v) ∈ es := by
  constructor
  · intro hv
    obtain ⟨e,he,rfl⟩ := Option.map_eq_some_iff.mp hv
    have hname : e.1 = n := by simpa using List.find?_some he
    subst hname
    exact List.mem_of_find?_eq_some he
  · intro hmem
    obtain ⟨e,he⟩ : ∃ e, es.find? (fun e => e.1 == n) = some e :=
      Option.isSome_iff_exists.mp (List.find?_isSome.mpr ⟨_,hmem,by simp⟩)
    have hname : e.1 = n := by simpa using List.find?_some he
    subst hname
    rw [he, Option.map_some, h.value_unique (List.mem_of_find?_eq_some he) hmem]

theorem mem_insert_iff (h : Ascending es) :
    (n,w) ∈ insert name v es ↔ n = name ∧ w = v ∨ n ≠ name ∧ (n,w) ∈ es := by
  induction es with
  | nil => simp [insert]
  | cons m es ih =>
    obtain ⟨k,u⟩ := m
    obtain ⟨hk,hes⟩ := ascending_cons_iff.mp h
    have hfresh : name ≤ k → (n,w) ∈ es → n ≠ name := by
      rintro hle hmem rfl
      exact absurd (hk n (List.mem_map_of_mem hmem)) (not_lt.mpr hle)
    unfold insert
    split
    · rename_i hlt
      have hne : (n,w) ∈ (k,u) :: es → n ≠ name := by
        intro hmem
        rcases List.mem_cons.mp hmem with heq | hmem
        · exact (Prod.mk.inj heq).1 ▸ hlt.ne'
        · exact hfresh hlt.le hmem
      rw [List.mem_cons, Prod.mk.injEq, and_iff_right_of_imp hne]
    · split
      · rename_i heq
        have hne := hfresh heq.le
        simp only [List.mem_cons, Prod.mk.injEq]
        grind
      · simp only [List.mem_cons, Prod.mk.injEq, ih hes]
        grind

theorem mem_names_insert_iff :
    n ∈ (insert name v es).map Prod.fst ↔ n = name ∨ n ∈ es.map Prod.fst := by
  induction es with
  | nil => simp [insert]
  | cons m es ih =>
    unfold insert
    split
    · simp
    · split
      · rename_i heq
        simp [heq]
      · simp only [List.map_cons, List.mem_cons, ih]
        exact or_left_comm

theorem forall_mem_insert {p : String × α → Prop} (hv : p (name,v)) (hes : ∀ e ∈ es, p e) :
    ∀ e ∈ insert name v es, p e := by
  induction es with
  | nil => simpa [insert] using hv
  | cons e es ih =>
    obtain ⟨he,hrest⟩ := List.forall_mem_cons.mp hes
    unfold insert
    split
    · exact List.forall_mem_cons.mpr ⟨hv,hes⟩
    · split
      · exact List.forall_mem_cons.mpr ⟨hv,hrest⟩
      · exact List.forall_mem_cons.mpr ⟨he,ih hrest⟩

theorem ascending_insert (h : Ascending es) : Ascending (insert name v es) := by
  induction es with
  | nil => simp [insert, Ascending]
  | cons m es ih =>
    obtain ⟨hk,hes⟩ := ascending_cons_iff.mp h
    unfold insert
    split
    · rename_i hlt
      refine ascending_cons_iff.mpr ⟨fun k hmem => ?_,h⟩
      rcases List.mem_cons.mp hmem with rfl | hmem
      · exact hlt
      · exact hlt.trans (hk k hmem)
    · rename_i hnot
      split
      · rename_i heq
        exact ascending_cons_iff.mpr ⟨fun k hmem => heq ▸ hk k hmem,hes⟩
      · rename_i hne
        refine ascending_cons_iff.mpr ⟨fun k hmem => ?_,ih hes⟩
        rcases mem_names_insert_iff.mp hmem with rfl | hmem
        · exact lt_of_le_of_ne (not_lt.mp hnot) (Ne.symm hne)
        · exact hk k hmem

end WorkloadLogin.Entries
