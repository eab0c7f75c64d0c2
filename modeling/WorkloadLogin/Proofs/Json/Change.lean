import WorkloadLogin.Proofs.Json.Overlay
import WorkloadLogin.Proofs.Json.Record

/-! # Objects with a member put in

A closed record that is read from an object has read every member of it, so a member that it does
not declare makes it fail. Where each field sets a part of its own, a member that is put into the
object, or put in another one's place, changes that part of the draft and no other; if it cannot be
read, it is the one problem of an object that had none before.
-/
namespace WorkloadLogin.Json
open Entries
variable {α σ : Type} {shape : Shape σ α} {f : Field σ} {surplus : Surplus} {seen : List String}
  {ms : List (String × Json)} {name n : String} {v : Json} {s s' : σ} {a : α} {e : DecodeError}

/-! ## Every member is read -/

theorem takeMembers_cons (hf : shape.field? n = some f) (hseen : n ∉ seen)
    (hread : f.read surplus v s = .ok s') :
    shape.takeMembers surplus seen s ((n,v) :: ms) =
      shape.takeMembers surplus (n :: seen) s' ms := by
  rw [Shape.takeMembers]
  simp [hf, hseen, within_ok_iff.mpr hread]

theorem takeMembers_cons_error (hf : shape.field? n = some f) (hseen : n ∉ seen)
    (hread : f.read surplus v s = .error e) :
    shape.takeMembers surplus seen s ((n,v) :: ms) = .error { e with path := n :: e.path } := by
  rw [Shape.takeMembers]
  simp [hf, hseen, hread, Decode.within]

theorem of_takeMembers_cons (hopen : shape.openEnded = false)
    (h : shape.takeMembers surplus seen s ((n,v) :: ms) = .ok s') :
    ∃ f t, shape.field? n = some f ∧ n ∉ seen ∧ f.read surplus v s = .ok t ∧
      shape.takeMembers surplus (n :: seen) t ms = .ok s' := by
  rw [Shape.takeMembers] at h
  cases hf : shape.field? n with
  | none => simp [hf, hopen] at h
  | some f =>
    simp only [hf] at h
    split at h
    · cases h
    · rename_i hseen
      split at h
      · cases h
      · rename_i t ht
        exact ⟨f,t,rfl,by simpa using hseen,within_ok_iff.mp ht,h⟩

theorem read_of_takeMembers (hopen : shape.openEnded = false)
    (h : shape.takeMembers surplus seen s ms = .ok s') :
    ∀ m ∈ ms, ∃ f, shape.field? m.1 = some f ∧ ∃ t u, f.read surplus m.2 t = .ok u := by
  induction ms generalizing seen s with
  | nil => nofun
  | cons m ms ih =>
    obtain ⟨f,t,hf,-,hread,hrest⟩ := of_takeMembers_cons hopen h
    exact List.forall_mem_cons.mpr ⟨⟨f,hf,s,t,hread⟩,ih hrest⟩

theorem Shape.decode_object_eq (shape : Shape σ α) (surplus : Surplus) (ms : List (String × Json)) :
    shape.decode surplus (.object ms) =
      match shape.takeMembers surplus [] shape.blank ms with
      | .error e => .error e
      | .ok s => match shape.close s with
        | .error m => Decode.fail m
        | .ok a => .ok a := rfl

theorem Shape.read_of_decode (hopen : shape.openEnded = false)
    (h : shape.decode surplus (.object ms) = .ok a) :
    ∀ m ∈ ms, ∃ f, shape.field? m.1 = some f ∧ ∃ t u, f.read surplus m.2 t = .ok u := by
  rw [decode_object_eq] at h
  split at h
  · cases h
  · rename_i s hs
    exact read_of_takeMembers hopen hs

/-- A closed record has no members but its own. -/
theorem Shape.declared_of_decode (hopen : shape.openEnded = false)
    (h : shape.decode surplus (.object ms) = .ok a) :
    ∀ n ∈ ms.map Prod.fst, n ∈ shape.fields.map Field.name := by
  intro n hn
  obtain ⟨m,hm,rfl⟩ := List.mem_map.mp hn
  obtain ⟨f,hf,-⟩ := read_of_decode hopen h m hm
  have hname : f.name = m.1 := by simpa using List.find?_some hf
  exact List.mem_map.mpr ⟨f,List.mem_of_find?_eq_some hf,hname⟩

/-- The value of a declared member is read by the decoder of its field. -/
theorem Shape.decode_of_member? {β : Type} {d : Decoder β} {set : σ → β → σ} {u : Json}
    (hopen : shape.openEnded = false) (hf : shape.field? n = some (.of n d set))
    (hu : v.member? n = some u) (h : shape.decode surplus v = .ok a) :
    ∃ b, d surplus u = .ok b := by
  cases v with
  | object ms =>
    obtain ⟨f,hfield,t,u,hread⟩ := read_of_decode hopen h _ (mem_of_member? hu)
    obtain rfl := Option.some.inj (hf.symm.trans hfield)
    obtain ⟨b,hb,-⟩ := Field.of_read_ok_iff.mp hread
    exact ⟨b,hb⟩
  | _ => simp [member?] at hu

theorem Decode.of_optional {d : Decoder α} {b : Option α} (hv : v ≠ .null)
    (h : optional d surplus v = .ok b) : ∃ a, d surplus v = .ok a := by
  simp only [optional] at h
  cases hd : d surplus v with
  | error e => simp [hd, Except.map] at h
  | ok a => exact ⟨a,rfl⟩

theorem Decode.of_entries {entry : Json → Except DecodeError α} {as : List (String × α)}
    (h : entries entry ms = .ok as) : ∀ m ∈ ms, ∃ a, entry m.2 = .ok a := by
  induction ms generalizing as with
  | nil => nofun
  | cons m ms ih =>
    obtain ⟨n,v⟩ := m
    simp only [entries, bind, Except.bind] at h
    split at h
    · cases h
    · rename_i b hb
      split at h
      · cases h
      · rename_i bs hbs
        exact List.forall_mem_cons.mpr ⟨⟨b,within_ok_iff.mp hb⟩,ih hbs⟩

theorem Decode.of_dictionary {d : Decoder α} {u : Json} {as : List (String × α)}
    (h : dictionary d surplus v = .ok as) (hu : v.member? n = some u) :
    ∃ a, d surplus u = .ok a := by
  cases v with
  | object ms => exact of_entries h _ (mem_of_member? hu)
  | _ => simp [member?] at hu

/-- A part that one field alone sets is as its member was read, or as it was. -/
theorem part_of_takeMembers {β : Type} {get : σ → β} (hopen : shape.openEnded = false)
    (hkeeps : ∀ f ∈ shape.fields, f.name ≠ name → ∀ v s t, f.read surplus v s = .ok t →
      get t = get s)
    (h : shape.takeMembers surplus seen s ms = .ok s') :
    get s' = get s ∨ ∃ f v t u, shape.field? name = some f ∧ (name,v) ∈ ms ∧
      f.read surplus v t = .ok u ∧ get s' = get u := by
  induction ms generalizing seen s with
  | nil =>
    obtain rfl : s = s' := by simpa [Shape.takeMembers] using h
    exact .inl rfl
  | cons m ms ih =>
    obtain ⟨n,v⟩ := m
    obtain ⟨f,t,hf,-,hread,hrest⟩ := of_takeMembers_cons hopen h
    rcases ih hrest with hkept | ⟨g,w,t',u,hg,hw,hread',hget⟩
    · by_cases hn : n = name
      · subst hn
        exact .inr ⟨f,v,s,t,hf,List.mem_cons_self ..,hread,hkept⟩
      · have hfn : f.name = n := by simpa using List.find?_some hf
        exact .inl (hkept.trans
          (hkeeps f (List.mem_of_find?_eq_some hf) (hfn ▸ hn) v s t hread))
    · exact .inr ⟨g,w,t',u,hg,List.mem_cons_of_mem _ hw,hread',hget⟩

/-! ## One member put in -/

/-- The change of the draft that setting the part under a name makes. -/
structure Sets (fields : List (Field σ)) (surplus : Surplus) (name : String) (g : σ → σ) :
    Prop where
  keeps : ∀ f ∈ fields, f.name ≠ name → ∀ v s t, f.read surplus v s = .ok t →
    f.read surplus v (g s) = .ok (g t)
  overrides : ∀ f ∈ fields, f.name = name → ∀ v s t, f.read surplus v s = .ok t → g t = g s

variable {g : σ → σ}

/-- What comes after a member does not depend on when the part was set. -/
theorem takeMembers_of_sets (hopen : shape.openEnded = false)
    (hg : Sets shape.fields surplus name g) {seen' : List String}
    (hseen' : ∀ k, k ∈ seen' ↔ k = name ∨ k ∈ seen) (hname : name ∉ ms.map Prod.fst)
    (h : shape.takeMembers surplus seen s ms = .ok s') :
    shape.takeMembers surplus seen' (g s) ms = .ok (g s') := by
  induction ms generalizing seen seen' s with
  | nil =>
    obtain rfl : s = s' := by simpa [Shape.takeMembers] using h
    rfl
  | cons m ms ih =>
    obtain ⟨k,u⟩ := m
    obtain ⟨f,t,hf,hk,hread,hrest⟩ := of_takeMembers_cons hopen h
    rw [List.map_cons, List.mem_cons, not_or] at hname
    have hfk : f.name = k := by simpa using List.find?_some hf
    have hread' := hg.keeps f (List.mem_of_find?_eq_some hf) (hfk ▸ Ne.symm hname.1) u s t hread
    have hk' : k ∉ seen' := by
      rw [hseen' k, not_or]
      exact ⟨Ne.symm hname.1,hk⟩
    rw [takeMembers_cons hf hk' hread']
    refine ih (fun j => ?_) hname.2 hrest
    rw [List.mem_cons, List.mem_cons, hseen' j]
    exact or_left_comm

theorem takeMembers_insert (hopen : shape.openEnded = false)
    (hg : Sets shape.fields surplus name g) (hf : shape.field? name = some f)
    (hread : ∀ t, f.read surplus v t = .ok (g t)) (hm : Ascending ms) (hseen : name ∉ seen)
    (h : shape.takeMembers surplus seen s ms = .ok s') :
    shape.takeMembers surplus seen s (Entries.insert name v ms) = .ok (g s') := by
  induction ms generalizing seen s with
  | nil =>
    obtain rfl : s = s' := by simpa [Shape.takeMembers] using h
    rw [Entries.insert, takeMembers_cons hf hseen (hread s)]
    rfl
  | cons m ms ih =>
    obtain ⟨k,u⟩ := m
    obtain ⟨hk,hms⟩ := ascending_cons_iff.mp hm
    unfold Entries.insert
    split
    · rename_i hlt
      rw [takeMembers_cons hf hseen (hread s)]
      refine takeMembers_of_sets hopen hg (fun _ => List.mem_cons) (fun hmem => ?_) h
      rcases List.mem_cons.mp hmem with heq | hmem
      · exact absurd hlt (heq ▸ lt_irrefl _)
      · exact absurd (hk _ hmem) hlt.asymm
    · obtain ⟨fk,t,hfk,hkseen,hreadk,hrest⟩ := of_takeMembers_cons hopen h
      split
      · rename_i heq
        subst heq
        have hname : fk.name = name := by simpa using List.find?_some hfk
        have hsame := hg.overrides fk (List.mem_of_find?_eq_some hfk) hname u s t hreadk
        rw [takeMembers_cons hf hseen (hread s), ← hsame]
        refine takeMembers_of_sets hopen hg (fun j => ?_) (fun hmem => ?_) hrest
        · rw [List.mem_cons]
          exact ⟨.inr,fun h => h.elim .inl id⟩
        · exact absurd (hk _ hmem) (lt_irrefl _)
      · rename_i hne
        rw [takeMembers_cons hfk hkseen hreadk]
        refine ih hms ?_ hrest
        rw [List.mem_cons, not_or]
        exact ⟨hne,hseen⟩

/-- A member that cannot be read is the problem of an object that had none before. -/
theorem takeMembers_insert_error (hopen : shape.openEnded = false)
    (hf : shape.field? name = some f) (hread : ∀ t, f.read surplus v t = .error e)
    (hseen : name ∉ seen) (h : shape.takeMembers surplus seen s ms = .ok s') :
    shape.takeMembers surplus seen s (Entries.insert name v ms) =
      .error { e with path := name :: e.path } := by
  induction ms generalizing seen s with
  | nil => exact takeMembers_cons_error hf hseen (hread s)
  | cons m ms ih =>
    obtain ⟨k,u⟩ := m
    unfold Entries.insert
    split
    · exact takeMembers_cons_error hf hseen (hread s)
    · split
      · exact takeMembers_cons_error hf hseen (hread s)
      · rename_i hne
        obtain ⟨fk,t,hfk,hkseen,hreadk,hrest⟩ := of_takeMembers_cons hopen h
        rw [takeMembers_cons hfk hkseen hreadk]
        refine ih ?_ hrest
        rw [List.mem_cons, not_or]
        exact ⟨hne,hseen⟩

/-- A closed record whose draft is the record itself. -/
structure Shape.Direct (shape : Shape σ σ) : Prop where
  closed : shape.openEnded = false
  close : ∀ s, shape.close s = .ok s

namespace Shape
variable {shape : Shape σ σ}

theorem Direct.decode_eq (h : shape.Direct) (surplus : Surplus) (ms : List (String × Json)) :
    shape.decode surplus (.object ms) = shape.takeMembers surplus [] shape.blank ms := by
  rw [decode_object_eq]
  cases shape.takeMembers surplus [] shape.blank ms with
  | error e => rfl
  | ok s => simp [h.close s]

theorem Direct.decode_insert (h : shape.Direct) (hg : Sets shape.fields surplus name g)
    (hf : shape.field? name = some f) (hread : ∀ t, f.read surplus v t = .ok (g t))
    (hm : Ascending ms) (hok : shape.decode surplus (.object ms) = .ok s) :
    shape.decode surplus (.object (Entries.insert name v ms)) = .ok (g s) := by
  rw [h.decode_eq] at hok ⊢
  exact takeMembers_insert h.closed hg hf hread hm List.not_mem_nil hok

theorem Direct.decode_insert_error (h : shape.Direct) (hf : shape.field? name = some f)
    (hread : ∀ t, f.read surplus v t = .error e)
    (hok : shape.decode surplus (.object ms) = .ok s) :
    shape.decode surplus (.object (Entries.insert name v ms)) =
      .error { e with path := name :: e.path } := by
  rw [h.decode_eq] at hok ⊢
  exact takeMembers_insert_error h.closed hf hread List.not_mem_nil hok

end Shape
end WorkloadLogin.Json
