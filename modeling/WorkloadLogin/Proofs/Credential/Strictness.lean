import WorkloadLogin.Proofs.Credential.Written

/-! # The stored form is lossless and strict

A credential is a record of records. A decoder that takes it takes every record inside, so that an
undeclared member, a missing one or a duration past the last second spoils the credential wherever
it stands.
-/
namespace WorkloadLogin
open Json
variable {v u : Json} {ms : List (String × Json)} {name : String}

/-! ## Records inside a credential -/

/-- The kinds of records that a credential is made of. -/
inductive Level where
  | credential
  | internalData
  | appAlias
  | metadata
  | token
  | duration
  deriving DecidableEq

/-- A member that a record declares, with the kind of record that it is, if it is one. -/
structure Declared where
  name : String
  required : Bool := true
  level : Option Level := none

namespace Level

def declared : Level → List Declared
  | credential => [{ name := "internal_data", level := some internalData },
      { name := "display_name" }, { name := "alias", level := some appAlias },
      { name := "token", required := false, level := some token }]
  | internalData => [{ name := "role" }, { name := "instance_id" }, { name := "ip_address" }]
  | appAlias => [{ name := "name" }, { name := "metadata", level := some metadata }]
  | metadata => [{ name := "org_id" }, { name := "app_id" }, { name := "space_id" },
      { name := "org_name" }, { name := "app_name" }, { name := "space_name" }]
  | token => [{ name := "policies", required := false },
      { name := "ttl", required := false, level := some duration },
      { name := "max_ttl", required := false, level := some duration },
      { name := "period", required := false, level := some duration },
      { name := "bound_cidrs", required := false }]
  | duration => [{ name := "secs" }, { name := "nanos" }]

def names (l : Level) : List String := l.declared.map Declared.name

/-- The members have one that is not declared, or lack one that is required. -/
def Faulty (l : Level) (ms : List (String × Json)) : Prop :=
  (∃ m ∈ ms, m.1 ∉ l.names) ∨ ∃ d ∈ l.declared, d.required = true ∧ d.name ∉ ms.map Prod.fst

/-- Whether a record of that kind is written as the value. -/
def Accepts : Level → Json → Prop
  | credential, v => ∃ c, Credential.Written v c
  | internalData, v => ∃ i, InternalData.Written v i
  | appAlias, v => ∃ a, Alias.Written v a
  | metadata, v => ∃ m, AliasMetadata.Written v m
  | token, v => ∃ t, TokenParams.Written v t
  | duration, v => ∃ d, Duration.Written v d

end Level

/-- In a value for one kind of record, the place of a record stands for another one. -/
inductive Inside : Level → Json → Level → Json → Prop
  | here (l : Level) (v : Json) : Inside l v l v
  | member {l l' l'' : Level} {ms : List (String × Json)} {d : Declared} {u w : Json}
      (hd : d ∈ l.declared) (hl : d.level = some l') (hu : (d.name,u) ∈ ms)
      (h : Inside l' u l'' w) : Inside l (.object ms) l'' w
  | item {l l' l'' : Level} {items : List Json} {d : Declared} {u w : Json}
      (hu : (d,u) ∈ l.declared.zip items) (hl : d.level = some l') (h : Inside l' u l'' w) :
      Inside l (.array items) l'' w

namespace Json

theorem Members.unique {names : List String} {ms' : List (String × Json)} (h : Members names v ms)
    (h' : Members names v ms') : ms' = ms := by
  cases h <;> cases h' <;> rfl

theorem nat_inj {m n : Nat} (h : Json.nat m = .nat n) : m = n :=
  Int.ofNat_inj.mp (integer.inj h)

theorem mem_of_given {P : Json → Prop} (h : ∃ u, (name,u) ∈ ms ∧ P u) :
    name ∈ ms.map Prod.fst := by
  obtain ⟨u,hu,-⟩ := h
  exact List.mem_map_of_mem hu

theorem all_of_given {P : Json → Prop} (hd : (ms.map Prod.fst).Nodup)
    (h : ∃ u, (name,u) ∈ ms ∧ P u) (u : Json) (hu : (name,u) ∈ ms) : P u := by
  obtain ⟨w,hw,hp⟩ := h
  rw [eq_of_mem_of_nodup hd hu hw]
  exact hp

theorem all_of_defaulted {α : Type} {R : Json → α → Prop} {default a : α}
    (hd : (ms.map Prod.fst).Nodup) (h : Defaulted ms name R default a) (u : Json)
    (hu : (name,u) ∈ ms) : R u a := by
  rcases h with hgiven | ⟨habsent,-⟩
  · exact all_of_given hd hgiven u hu
  · exact absurd (List.mem_map_of_mem hu) habsent

end Json

namespace Level

/-- A record that is taken has declared members only, those that are required among them, and the
records inside are taken. -/
theorem Accepts.members {l : Level} (h : l.Accepts v) : ∃ ms, Members l.names v ms ∧
    (∀ d ∈ l.declared, d.required = true → d.name ∈ ms.map Prod.fst) ∧
    ∀ d ∈ l.declared, ∀ l', d.level = some l' → ∀ u, (d.name,u) ∈ ms → l'.Accepts u := by
  cases l with
  | credential =>
    obtain ⟨c,ms,hm,hinternal,hdisplay,halias,htoken⟩ := h
    have hd := hm.distinct (by decide)
    refine ⟨ms,hm,?_,?_⟩
    · simp only [declared, List.forall_mem_cons]
      exact ⟨fun _ => mem_of_given hinternal,fun _ => List.mem_map_of_mem hdisplay,
        fun _ => mem_of_given halias,nofun,nofun⟩
    · simp only [declared, List.forall_mem_cons, Option.some.injEq, forall_eq']
      exact ⟨fun u hu => ⟨_,all_of_given hd hinternal u hu⟩,nofun,
        fun u hu => ⟨_,all_of_given hd halias u hu⟩,
        fun u hu => ⟨_,all_of_defaulted hd htoken u hu⟩,nofun⟩
  | internalData =>
    obtain ⟨i,ms,hm,h₁,h₂,h₃⟩ := h
    refine ⟨ms,hm,?_,?_⟩
    · simp only [declared, List.forall_mem_cons]
      exact ⟨fun _ => List.mem_map_of_mem h₁,fun _ => List.mem_map_of_mem h₂,
        fun _ => List.mem_map_of_mem h₃,nofun⟩
    · simp [declared]
  | appAlias =>
    obtain ⟨a,ms,hm,hname,hmetadata⟩ := h
    have hd := hm.distinct (by decide)
    refine ⟨ms,hm,?_,?_⟩
    · simp only [declared, List.forall_mem_cons]
      exact ⟨fun _ => List.mem_map_of_mem hname,fun _ => mem_of_given hmetadata,nofun⟩
    · simp only [declared, List.forall_mem_cons, Option.some.injEq, forall_eq']
      exact ⟨nofun,fun u hu => ⟨_,all_of_given hd hmetadata u hu⟩,nofun⟩
  | metadata =>
    obtain ⟨m,ms,hm,h₁,h₂,h₃,h₄,h₅,h₆⟩ := h
    refine ⟨ms,hm,?_,?_⟩
    · simp only [declared, List.forall_mem_cons]
      exact ⟨fun _ => List.mem_map_of_mem h₁,fun _ => List.mem_map_of_mem h₂,
        fun _ => List.mem_map_of_mem h₃,fun _ => List.mem_map_of_mem h₄,
        fun _ => List.mem_map_of_mem h₅,fun _ => List.mem_map_of_mem h₆,nofun⟩
    · simp [declared]
  | token =>
    obtain ⟨t,ms,hm,-,httl,hmax,hperiod,-⟩ := h
    have hd := hm.distinct (by decide)
    refine ⟨ms,hm,by simp [declared],?_⟩
    simp only [declared, List.forall_mem_cons, Option.some.injEq, forall_eq']
    exact ⟨nofun,fun u hu => ⟨_,all_of_defaulted hd httl u hu⟩,
      fun u hu => ⟨_,all_of_defaulted hd hmax u hu⟩,
      fun u hu => ⟨_,all_of_defaulted hd hperiod u hu⟩,nofun,nofun⟩
  | duration =>
    obtain ⟨d,ms,hm,secs,nanos,hsecs,hnanos,-⟩ := h
    refine ⟨ms,hm,?_,?_⟩
    · simp only [declared, List.forall_mem_cons]
      exact ⟨fun _ => List.mem_map_of_mem hsecs,fun _ => List.mem_map_of_mem hnanos,nofun⟩
    · simp [declared]

theorem Accepts.not_faulty {l : Level} (h : l.Accepts (.object ms)) : ¬ l.Faulty ms := by
  obtain ⟨_,hm,hrequired,-⟩ := h.members
  cases hm with
  | object _ hdeclared =>
    rintro (⟨m,hmem,hnot⟩ | ⟨d,hd,hreq,hnot⟩)
    · exact hnot (hdeclared m hmem)
    · exact hnot (hrequired d hd hreq)

theorem Accepts.inside {l l' : Level} (h : l.Accepts v) (hin : Inside l v l' u) : l'.Accepts u := by
  induction hin with
  | here => exact h
  | member hd hl hu _ ih =>
    obtain ⟨_,hm,-,hinside⟩ := h.members
    cases hm with
    | object => exact ih (hinside _ hd _ hl _ hu)
  | @item l _ _ items d u _ hu hl _ ih =>
    -- an array gives the names of its items by their places
    obtain ⟨_,hm,-,hinside⟩ := h.members
    cases hm with
    | array =>
      have hmem : (d.name,u) ∈ l.names.zip items := by
        rw [names, List.zip_map_left]
        exact List.mem_map.mpr ⟨_,hu,rfl⟩
      exact ih (hinside d (List.of_mem_zip hu).1 _ hl u hmem)

end Level

/-- Seconds and carried nanoseconds are past the last second of a duration. -/
def Duration.Overflows (v : Json) : Prop :=
  ∃ ms, Members ["secs","nanos"] v ms ∧ ∃ secs nanos : Nat, ("secs",.nat secs) ∈ ms ∧
    ("nanos",.nat nanos) ∈ ms ∧ UInt64.size ≤ secs + nanos / 1000000000

theorem Duration.Overflows.not_accepted (h : Overflows v) : ¬ Level.duration.Accepts v := by
  obtain ⟨ms,hm,secs,nanos,hsecs,hnanos,htotal⟩ := h
  rintro ⟨d,ms',hm',secs',nanos',hsecs',hnanos',-,-,hd,-⟩
  obtain rfl := hm.unique hm'
  have hdistinct := hm.distinct (by decide)
  have hs : secs = secs' := nat_inj (eq_of_mem_of_nodup hdistinct hsecs hsecs')
  have hn : nanos = nanos' := nat_inj (eq_of_mem_of_nodup hdistinct hnanos hnanos')
  have hlt := d.secs.toNat_lt_size
  omega

/-! ## Members that are left out -/

namespace Json

def keeping (keep : String → Bool) (ms : List (String × Json)) : List (String × Json) :=
  ms.filter fun m => keep m.1

variable {keep : String → Bool}

theorem mem_keeping : (name,v) ∈ keeping keep ms ↔ (name,v) ∈ ms ∧ keep name = true := by
  simp [keeping]

theorem Members.keeping {names : List String} (h : Members names (.object ms) ms) :
    Members names (.object (keeping keep ms)) (keeping keep ms) := by
  cases h with
  | object hd hdeclared =>
    exact .object (hd.sublist (List.filter_sublist.map _))
      fun m hm => hdeclared m (List.mem_filter.mp hm).1

theorem Defaulted.keeping {α : Type} {R : Json → α → Prop} {default a : α}
    (h : Defaulted ms name R default a) :
    Defaulted (keeping keep ms) name R default (if keep name then a else default) := by
  cases hk : keep name with
  | true =>
    rcases h with ⟨u,hu,hr⟩ | ⟨habsent,rfl⟩
    · exact .inl ⟨u,mem_keeping.mpr ⟨hu,hk⟩,by simpa using hr⟩
    · refine .inr ⟨fun hmem => habsent ?_,by simp⟩
      exact (List.filter_sublist.map _).subset hmem
  | false =>
    refine .inr ⟨fun hmem => ?_,by simp⟩
    obtain ⟨⟨_,u⟩,hu,rfl⟩ := List.mem_map.mp hmem
    have hkept := (mem_keeping.mp hu).2
    rw [hk] at hkept
    cases hkept

end Json

/-- The parameters with defaults for those whose members are left out. -/
def TokenParams.keeping (keep : String → Bool) (t : TokenParams) : TokenParams where
  policies := if keep "policies" then t.policies else []
  ttl := if keep "ttl" then t.ttl else {}
  maxTtl := if keep "max_ttl" then t.maxTtl else {}
  period := if keep "period" then t.period else {}
  boundCidrs := if keep "bound_cidrs" then t.boundCidrs else []

theorem TokenParams.decode_keeping {t : TokenParams} (keep : String → Bool)
    (h : shape.decode .refused (.object ms) = .ok t) :
    shape.decode .refused (.object (Json.keeping keep ms)) = .ok (t.keeping keep) := by
  obtain ⟨ms',hm,h₁,h₂,h₃,h₄,h₅⟩ := decode_ok_iff.mp h
  cases hm with
  | object hd hdeclared =>
    exact decode_ok_iff.mpr ⟨_,(Members.object hd hdeclared).keeping,h₁.keeping,h₂.keeping,
      h₃.keeping,h₄.keeping,h₅.keeping⟩

theorem Credential.decode_without_token {c : Credential} (h : decode (.object ms) = .ok c) :
    decode (.object (Json.keeping (· != "token") ms)) = .ok { c with token := {} } := by
  obtain ⟨ms',hm,⟨u,hu,hinternal⟩,hdisplay,⟨u',hu',halias⟩,htoken⟩ := decode_ok_iff.mp h
  cases hm with
  | object hd hdeclared =>
    exact decode_ok_iff.mpr ⟨_,(Members.object hd hdeclared).keeping,
      ⟨u,mem_keeping.mpr ⟨hu,rfl⟩,hinternal⟩,mem_keeping.mpr ⟨hdisplay,rfl⟩,
      ⟨u',mem_keeping.mpr ⟨hu',rfl⟩,halias⟩,htoken.keeping⟩

/-! ## The stored form -/

namespace Credential

theorem decode_encode (c : Credential) : decode c.encode = .ok c :=
  decode_ok_iff.mpr (written_encode c)

theorem error_of_inside {l : Level} (hin : Inside .credential v l u) (h : ¬ l.Accepts u) :
    ∃ e, decode v = .error e := by
  cases hv : decode v with
  | error e => exact ⟨e,rfl⟩
  | ok c =>
    have haccepts : Level.credential.Accepts v := ⟨c,decode_ok_iff.mp hv⟩
    exact absurd (haccepts.inside hin) h

end Credential

/-- Every credential is decoded from its encoding, and whatever is decoded is encoded and decoded
again to the same. The decoder takes the written forms of credentials and nothing else, so that an
undeclared member, a missing one or a duration past the last second is refused wherever it stands.
The token parameters, all of them or any one, may be left out and have their defaults then. -/
theorem stored_credentials_lossless_and_strict :
    (∀ c : Credential, Credential.decode c.encode = .ok c) ∧
    (∀ v c, Credential.decode v = .ok c → Credential.decode c.encode = .ok c) ∧
    (∀ v c, Credential.decode v = .ok c ↔ Credential.Written v c) ∧
    (∀ v l ms, Inside .credential v l (.object ms) → l.Faulty ms →
      ∃ e, Credential.decode v = .error e) ∧
    (∀ v u, Inside .credential v .duration u → Duration.Overflows u →
      ∃ e, Credential.decode v = .error e) ∧
    (∀ ms c, Credential.decode (.object ms) = .ok c →
      Credential.decode (.object (keeping (· != "token") ms)) = .ok { c with token := {} }) ∧
    ∀ ms t keep, TokenParams.shape.decode .refused (.object ms) = .ok t →
      TokenParams.shape.decode .refused (.object (keeping keep ms)) = .ok (t.keeping keep) := by
  refine ⟨Credential.decode_encode,fun _ c _ => c.decode_encode,fun _ _ => Credential.decode_ok_iff,
    ?_,?_,fun _ _ h => Credential.decode_without_token h,
    fun _ _ keep h => TokenParams.decode_keeping keep h⟩
  · intro v l ms hin hfaulty
    have hrefused : ¬ l.Accepts (.object ms) := fun h => h.not_faulty hfaulty
    exact Credential.error_of_inside hin hrefused
  · intro v u hin hoverflows
    exact Credential.error_of_inside hin hoverflows.not_accepted

/-- Two and a half seconds of nanoseconds are carried. -/
example : Duration.decode .refused
    (.object [("nanos",.nat 2500000000),("secs",.nat 1)]) = .ok ⟨3,⟨500000000,by decide⟩⟩ := by
  rfl

end WorkloadLogin
