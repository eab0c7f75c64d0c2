import Mathlib.Data.List.Nodup
import WorkloadLogin.Json.Decode

/-! # Records in JSON values

A record is given by an object with some of its members in any order, or by an array of its first
members in the declared order. A decoder whose shape admits no other members takes exactly the
values of these two forms whose members it can read, and each part of the record is then the value
of its member, or what it was before if the member is absent.
-/
namespace WorkloadLogin.Json
variable {α β σ : Type} {names : List String} {ms : List (String × Json)} {name : String} {v : Json}
  {fields : List (Field σ)} {f : Field σ} {s s' : σ}

/-- The members that a value gives of a record: declared ones, and none twice. -/
inductive Members (names : List String) : Json → List (String × Json) → Prop
  | object {ms : List (String × Json)} (distinct : (ms.map Prod.fst).Nodup)
      (declared : ∀ m ∈ ms, m.1 ∈ names) : Members names (.object ms) ms
  | array {items : List Json} (short : items.length ≤ names.length) :
      Members names (.array items) (names.zip items)

theorem map_fst_zip_sublist (names : List String) (items : List Json) :
    ((names.zip items).map Prod.fst).Sublist names := by
  induction names generalizing items with
  | nil => simp
  | cons name names ih =>
    cases items with
    | nil => simp
    | cons item items => simpa using ih items

namespace Members

theorem distinct (h : Members names v ms) (hn : names.Nodup) : (ms.map Prod.fst).Nodup := by
  cases h with
  | object hd _ => exact hd
  | array _ => exact hn.sublist (map_fst_zip_sublist ..)

theorem declared (h : Members names v ms) : ∀ m ∈ ms, m.1 ∈ names := by
  cases h with
  | object _ hd => exact hd
  | array _ => exact fun m hm => (map_fst_zip_sublist ..).subset (List.mem_map_of_mem hm)

end Members

theorem eq_of_mem_of_nodup {u : Json} (hd : (ms.map Prod.fst).Nodup) (hu : (name,u) ∈ ms)
    (hv : (name,v) ∈ ms) : u = v := by
  have heq := List.inj_on_of_nodup_map hd hu hv rfl
  exact (Prod.mk.inj heq).2

/-! ## What decoders read -/

/-- The draft after members were read one after another. -/
inductive Reads (fields : List (Field σ)) : σ → List (String × Json) → σ → Prop
  | nil (s : σ) : Reads fields s [] s
  | cons {f : Field σ} {v : Json} {ms : List (String × Json)} {s t u : σ} (hf : f ∈ fields)
      (hr : f.read .refused v s = .ok t) (h : Reads fields t ms u) :
      Reads fields s ((f.name,v) :: ms) u

@[simp] theorem reads_nil_iff : Reads fields s [] s' ↔ s = s' := by
  constructor
  · intro h
    cases h
    rfl
  · rintro rfl
    exact .nil s

theorem Reads.of_cons {m : String × Json} (h : Reads fields s (m :: ms) s') :
    ∃ f ∈ fields, f.name = m.1 ∧ ∃ t, f.read .refused m.2 s = .ok t ∧ Reads fields t ms s' := by
  cases h with
  | cons hf hr h => exact ⟨_,hf,rfl,_,hr,h⟩

theorem reads_cons_iff (hd : (fields.map Field.name).Nodup) (hf : f ∈ fields) :
    Reads fields s ((f.name,v) :: ms) s' ↔
      ∃ t, f.read .refused v s = .ok t ∧ Reads fields t ms s' := by
  constructor
  · intro h
    obtain ⟨g,hg,hname,t,hr,hrest⟩ := h.of_cons
    obtain rfl := List.inj_on_of_nodup_map hd hg hf hname
    exact ⟨t,hr,hrest⟩
  · rintro ⟨t,hr,h⟩
    exact .cons hf hr h

/-- Whether the field reads the value into every draft. -/
def Field.Takes (f : Field σ) (v : Json) : Prop := ∀ s, ∃ t, f.read .refused v s = .ok t

theorem exists_reads (hdeclared : ∀ m ∈ ms, m.1 ∈ fields.map Field.name)
    (htakes : ∀ f ∈ fields, ∀ v, (f.name,v) ∈ ms → f.Takes v) (s : σ) :
    ∃ t, Reads fields s ms t := by
  induction ms generalizing s with
  | nil => exact ⟨s,.nil s⟩
  | cons m ms ih =>
    obtain ⟨n,v⟩ := m
    obtain ⟨f,hf,rfl⟩ := List.mem_map.mp (hdeclared _ (List.mem_cons_self ..))
    obtain ⟨t,ht⟩ := htakes f hf v (List.mem_cons_self ..) s
    have hrest : ∀ f ∈ fields, ∀ v, (f.name,v) ∈ ms → f.Takes v :=
      fun f hf v hv => htakes f hf v (List.mem_cons_of_mem _ hv)
    obtain ⟨u,hu⟩ := ih (fun m hm => hdeclared m (List.mem_cons_of_mem _ hm)) hrest t
    exact ⟨u,.cons hf ht hu⟩

theorem Reads.declared (h : Reads fields s ms s') : ∀ m ∈ ms, m.1 ∈ fields.map Field.name := by
  induction h with
  | nil => simp
  | cons hf _ _ ih =>
    intro m hm
    rcases List.mem_cons.mp hm with rfl | hm
    · exact List.mem_map_of_mem hf
    · exact ih m hm

theorem within_ok_iff {step : String} {r : Except DecodeError α} {a : α} :
    Decode.within step r = .ok a ↔ r = .ok a := by
  cases r <;> simp [Decode.within]

theorem field?_eq_some_iff {shape : Shape σ α} (hd : (shape.fields.map Field.name).Nodup) :
    shape.field? name = some f ↔ f ∈ shape.fields ∧ f.name = name := by
  unfold Shape.field?
  constructor
  · intro h
    exact ⟨List.mem_of_find?_eq_some h,by simpa using List.find?_some h⟩
  · rintro ⟨hf,rfl⟩
    obtain ⟨g,hg⟩ : ∃ g, shape.fields.find? (fun g => g.name == f.name) = some g :=
      Option.isSome_iff_exists.mp (List.find?_isSome.mpr ⟨f,hf,by simp⟩)
    have hname : g.name = f.name := by simpa using List.find?_some hg
    rw [hg, List.inj_on_of_nodup_map hd (List.mem_of_find?_eq_some hg) hf hname]

/-- A shape that admits no members but its own, which have different names. -/
structure Shape.Strict (shape : Shape σ α) : Prop where
  distinct : (shape.fields.map Field.name).Nodup
  closed : shape.openEnded = false

theorem takeMembers_ok_iff {shape : Shape σ α} (h : shape.Strict) {seen : List String} :
    shape.takeMembers .refused seen s ms = .ok s' ↔
      (ms.map Prod.fst).Nodup ∧ (∀ n ∈ seen, n ∉ ms.map Prod.fst) ∧
        Reads shape.fields s ms s' := by
  induction ms generalizing seen s with
  | nil => simp [Shape.takeMembers]
  | cons m ms ih =>
    obtain ⟨n,v⟩ := m
    unfold Shape.takeMembers
    constructor
    · intro hok
      cases hf : shape.field? n with
      | none => simp [hf, h.closed] at hok
      | some f =>
        obtain ⟨hmem,rfl⟩ := (field?_eq_some_iff h.distinct).mp hf
        simp only [hf] at hok
        split at hok
        · cases hok
        · rename_i hseen
          split at hok
          · cases hok
          · rename_i t ht
            obtain ⟨hd,hs,hr⟩ := ih.mp hok
            have hn : f.name ∉ ms.map Prod.fst := hs _ (List.mem_cons_self ..)
            refine ⟨List.nodup_cons.mpr ⟨hn,hd⟩,fun n hold => ?_,
              .cons hmem (within_ok_iff.mp ht) hr⟩
            rw [List.map_cons, List.mem_cons, not_or]
            refine ⟨?_,hs n (List.mem_cons_of_mem _ hold)⟩
            rintro rfl
            exact hseen (List.contains_iff_mem.mpr hold)
    · rintro ⟨hd,hs,hr⟩
      obtain ⟨f,hmem,rfl,t,hread,hrest⟩ := hr.of_cons
      obtain ⟨hn,hd⟩ := List.nodup_cons.mp hd
      have hfield := (field?_eq_some_iff h.distinct).mpr ⟨hmem,rfl⟩
      have hseen : ¬ seen.contains f.name := fun hc =>
        hs _ (List.contains_iff_mem.mp hc) (List.mem_cons_self ..)
      simp only [hfield, hseen, within_ok_iff.mpr hread]
      refine ih.mpr ⟨hd,fun n hold => ?_,hrest⟩
      rcases List.mem_cons.mp hold with rfl | hold
      · exact hn
      · exact fun hc => hs n hold (List.mem_cons_of_mem _ hc)

theorem takeItems_ok_iff (hd : (fields.map Field.name).Nodup) {rest : List (Field σ)}
    (hsub : ∀ f ∈ rest, f ∈ fields) {index : Nat} {items : List Json} :
    Shape.takeItems .refused rest index s items = .ok s' ↔
      items.length ≤ rest.length ∧ Reads fields s ((rest.map Field.name).zip items) s' := by
  induction rest generalizing s index items with
  | nil =>
    cases items with
    | nil => simp [Shape.takeItems]
    | cons item items => simp [Shape.takeItems, Decode.fail]
  | cons f rest ih =>
    obtain ⟨hf,hrest⟩ := List.forall_mem_cons.mp hsub
    cases items with
    | nil => simp [Shape.takeItems]
    | cons item items =>
      simp only [Shape.takeItems, List.map_cons, List.zip_cons_cons, reads_cons_iff hd hf,
        List.length_cons, Nat.add_le_add_iff_right]
      cases hread : f.read .refused item s with
      | error e => simp [Decode.within]
      | ok t => simp [Decode.within, ih hrest]

namespace Shape
variable {shape : Shape σ α} {a : α}

theorem decode_object_ok_iff :
    shape.decode .refused (.object ms) = .ok a ↔
      ∃ s, shape.takeMembers .refused [] shape.blank ms = .ok s ∧ shape.close s = .ok a := by
  simp only [decode]
  cases shape.takeMembers .refused [] shape.blank ms with
  | error e => simp
  | ok s => cases hc : shape.close s <;> simp [Decode.fail, hc]

theorem decode_array_ok_iff {items : List Json} :
    shape.decode .refused (.array items) = .ok a ↔
      ∃ s, takeItems .refused shape.fields 0 shape.blank items = .ok s ∧
        shape.close s = .ok a := by
  simp only [decode]
  cases takeItems .refused shape.fields 0 shape.blank items with
  | error e => simp
  | ok s => cases hc : shape.close s <;> simp [Decode.fail, hc]

/-- A strict decoder takes a record if it can read its members and close the draft. -/
theorem decode_ok_iff (h : shape.Strict) :
    shape.decode .refused v = .ok a ↔
      ∃ ms, Members (shape.fields.map Field.name) v ms ∧
        ∃ s, Reads shape.fields shape.blank ms s ∧ shape.close s = .ok a := by
  cases v with
  | object members =>
    simp only [decode_object_ok_iff, takeMembers_ok_iff h]
    constructor
    · rintro ⟨s,⟨hd,-,hr⟩,ha⟩
      exact ⟨members,.object hd hr.declared,s,hr,ha⟩
    · rintro ⟨ms,hms,s,hr,ha⟩
      cases hms with
      | object hd _ => exact ⟨s,⟨hd,by simp,hr⟩,ha⟩
  | array items =>
    simp only [decode_array_ok_iff, takeItems_ok_iff h.distinct (fun _ hf => hf)]
    constructor
    · rintro ⟨s,⟨hl,hr⟩,ha⟩
      exact ⟨_,.array (by simpa using hl),s,hr,ha⟩
    · rintro ⟨ms,hms,s,hr,ha⟩
      cases hms with
      | array hl => exact ⟨s,⟨by simpa using hl,hr⟩,ha⟩
  | _ =>
    refine ⟨nofun,?_⟩
    rintro ⟨ms,hms,-⟩
    cases hms

end Shape

/-! ## Parts of a draft -/

theorem Field.of_name {d : Decoder α} {set : σ → α → σ} : (Field.of name d set).name = name := rfl

theorem Field.of_read_ok_iff {d : Decoder α} {set : σ → α → σ} {surplus : Surplus} :
    (Field.of name d set).read surplus v s = .ok s' ↔
      ∃ a, d surplus v = .ok a ∧ s' = set s a := by
  simp only [Field.of]
  cases d surplus v <;> simp [Except.map, eq_comm]

theorem Field.takes_of {d : Decoder α} {set : σ → α → σ} {a : α} (h : d .refused v = .ok a) :
    (Field.of name d set).Takes v := fun s => ⟨set s a,of_read_ok_iff.mpr ⟨a,h,rfl⟩⟩

/-- What a member stands for, or the default if it is absent. -/
def Defaulted (ms : List (String × Json)) (name : String) (R : Json → α → Prop)
    (default a : α) : Prop :=
  (∃ u, (name,u) ∈ ms ∧ R u a) ∨ name ∉ ms.map Prod.fst ∧ a = default

/-- The part of a draft that is set by the one member of that name. -/
structure Part (fields : List (Field σ)) (name : String) (d : Decoder α) (get : σ → β)
    (put : α → β) : Prop where
  sets : ∀ f ∈ fields, f.name = name → ∀ v s t, f.read .refused v s = .ok t →
    ∃ a, d .refused v = .ok a ∧ get t = put a
  keeps : ∀ f ∈ fields, f.name ≠ name → ∀ v s t, f.read .refused v s = .ok t → get t = get s

namespace Part
variable {d : Decoder α} {get : σ → β} {put : α → β}

/-- The part is what its member stands for, or as it was if there is none. -/
theorem given_or_kept (h : Part fields name d get put) (hr : Reads fields s ms s')
    (hd : (ms.map Prod.fst).Nodup) :
    (∃ v a, (name,v) ∈ ms ∧ d .refused v = .ok a ∧ get s' = put a) ∨
      name ∉ ms.map Prod.fst ∧ get s' = get s := by
  induction hr with
  | nil s => exact .inr ⟨by simp,rfl⟩
  | @cons f v ms s t u hf hread _ ih =>
    obtain ⟨hnot,hd⟩ := List.nodup_cons.mp hd
    by_cases hname : f.name = name
    · -- the names differ, so that nothing behind this member sets the part again
      subst hname
      obtain ⟨a,ha,hget⟩ := h.sets f hf rfl v s t hread
      rcases ih hd with ⟨v',a',hv',-,-⟩ | ⟨-,hkept⟩
      · exact absurd (List.mem_map_of_mem hv') hnot
      · exact .inl ⟨v,a,List.mem_cons_self ..,ha,hkept.trans hget⟩
    · rcases ih hd with ⟨v',a,hv',ha,hget⟩ | ⟨habsent,hkept⟩
      · exact .inl ⟨v',a,List.mem_cons_of_mem _ hv',ha,hget⟩
      · refine .inr ⟨?_,hkept.trans (h.keeps f hf hname v s t hread)⟩
        rw [List.map_cons, List.mem_cons, not_or]
        exact ⟨Ne.symm hname,habsent⟩

theorem eq_put_iff {b : β} (h : Part fields name d get put) (hr : Reads fields s ms s')
    (hd : (ms.map Prod.fst).Nodup) (hs : get s ≠ b) :
    get s' = b ↔ ∃ v a, (name,v) ∈ ms ∧ d .refused v = .ok a ∧ put a = b := by
  rcases h.given_or_kept hr hd with ⟨v,a,hv,ha,hget⟩ | ⟨habsent,hkept⟩
  · rw [hget]
    constructor
    · intro hb
      exact ⟨v,a,hv,ha,hb⟩
    · rintro ⟨v',a',hv',ha',hb⟩
      rw [eq_of_mem_of_nodup hd hv' hv, ha] at ha'
      rw [Except.ok.inj ha', hb]
  · rw [hkept]
    refine ⟨fun hb => absurd hb hs,?_⟩
    rintro ⟨v,-,hv,-⟩
    exact absurd (List.mem_map_of_mem hv) habsent

theorem eq_some_iff {get : σ → Option α} {a : α} (h : Part fields name d get some)
    (hr : Reads fields s ms s') (hd : (ms.map Prod.fst).Nodup) (hs : get s = none) :
    get s' = some a ↔ ∃ v, (name,v) ∈ ms ∧ d .refused v = .ok a := by
  simpa using h.eq_put_iff hr hd (b := some a) (by simp [hs])

/-- A part that starts out with a default keeps it unless its member is given. -/
theorem eq_iff {get : σ → α} {a : α} (h : Part fields name d get id)
    (hr : Reads fields s ms s') (hd : (ms.map Prod.fst).Nodup) :
    get s' = a ↔ Defaulted ms name (fun u a => d .refused u = .ok a) (get s) a := by
  rcases h.given_or_kept hr hd with ⟨v,b,hv,hb,hget⟩ | ⟨habsent,hkept⟩
  · rw [hget]
    constructor
    · rintro rfl
      exact .inl ⟨v,hv,hb⟩
    · rintro (⟨v',hv',ha⟩ | ⟨habsent,-⟩)
      · rw [eq_of_mem_of_nodup hd hv' hv, hb] at ha
        exact Except.ok.inj ha
      · exact absurd (List.mem_map_of_mem hv) habsent
  · rw [hkept]
    constructor
    · rintro rfl
      exact .inr ⟨habsent,rfl⟩
    · rintro (⟨v,hv,-⟩ | ⟨-,rfl⟩)
      · exact absurd (List.mem_map_of_mem hv) habsent
      · rfl

end Part

/-- What a strict decoder takes, told by the members: they can all be read, and the draft that comes
of them can be closed. -/
theorem Shape.decode_ok_iff_of {shape : Shape σ α} {a : α} {G : List (String × Json) → Prop}
    (h : shape.Strict)
    (htakes : ∀ ms, (ms.map Prod.fst).Nodup → G ms →
      ∀ f ∈ shape.fields, ∀ u, (f.name,u) ∈ ms → f.Takes u)
    (hclose : ∀ ms s, (ms.map Prod.fst).Nodup → Reads shape.fields shape.blank ms s →
      (shape.close s = .ok a ↔ G ms)) :
    shape.decode .refused v = .ok a ↔ ∃ ms, Members (shape.fields.map Field.name) v ms ∧ G ms := by
  rw [decode_ok_iff h]
  refine exists_congr fun ms => and_congr_right fun hm => ?_
  have hd := hm.distinct h.distinct
  constructor
  · rintro ⟨s,hr,ha⟩
    exact (hclose ms s hd hr).mp ha
  · intro hg
    obtain ⟨s,hr⟩ := exists_reads hm.declared (htakes ms hd hg) shape.blank
    exact ⟨s,hr,(hclose ms s hd hr).mpr hg⟩

theorem takes_of_given {d : Decoder α} {set : σ → α → σ} {a : α} (hd : (ms.map Prod.fst).Nodup)
    (h : ∃ u, (name,u) ∈ ms ∧ d .refused u = .ok a) (v : Json) (hv : (name,v) ∈ ms) :
    (Field.of name d set).Takes v := by
  obtain ⟨u,hu,ha⟩ := h
  rw [eq_of_mem_of_nodup hd hv hu]
  exact Field.takes_of ha

theorem takes_of_defaulted {d : Decoder α} {set : σ → α → σ} {a default : α}
    (hd : (ms.map Prod.fst).Nodup)
    (h : Defaulted ms name (fun u a => d .refused u = .ok a) default a) (v : Json)
    (hv : (name,v) ∈ ms) : (Field.of name d set).Takes v := by
  rcases h with hgiven | ⟨habsent,-⟩
  · exact takes_of_given hd hgiven v hv
  · exact absurd (List.mem_map_of_mem hv) habsent

end WorkloadLogin.Json
