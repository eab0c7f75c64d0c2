import WorkloadLogin.Credential.Codec
import WorkloadLogin.Proofs.Gates
import WorkloadLogin.Proofs.Json.Record

/-! # Written forms of credentials

Which JSON values stand for a credential and for each of its parts: the members that they give, what
is taken for members that are absent, and how the parts of a duration add up. The decoders take the
written forms of a value and nothing else, and the encoders write one of them.
-/
namespace WorkloadLogin
open Json
variable {v : Json} {ms : List (String × Json)} {name : String}

namespace Json

theorem text_ok_iff {s : String} : Decode.text .refused v = .ok s ↔ v = .string s := by
  cases v <;> simp [Decode.text, Decode.fail]

theorem given_text_iff {s : String} :
    (∃ v, (name,v) ∈ ms ∧ Decode.text .refused v = .ok s) ↔ (name,.string s) ∈ ms := by
  simp only [text_ok_iff, exists_eq_right]

theorem wholeBetween_ok_iff {low high n : Int} :
    Decode.wholeBetween low high .refused v = .ok n ↔ v = .integer n ∧ low ≤ n ∧ n ≤ high := by
  cases v with
  | integer m =>
    simp only [Decode.wholeBetween, Decode.fail, integer.injEq]
    constructor
    · intro h
      split at h
      · cases h
        exact ⟨rfl,‹_›⟩
      · cases h
    · rintro ⟨rfl,h⟩
      exact if_pos h
  | _ => simp [Decode.wholeBetween, Decode.fail]

theorem itemsFrom_text_ok_iff {index : Nat} {items : List Json} {ss : List String} :
    Decode.itemsFrom (Decode.text .refused) index items = .ok ss ↔ items = ss.map .string := by
  induction items generalizing index ss with
  | nil => cases ss <;> simp [Decode.itemsFrom]
  | cons item items ih =>
    simp only [Decode.itemsFrom, bind_ok_iff, within_ok_iff, text_ok_iff, ih]
    constructor
    · rintro ⟨s,rfl,rest,rfl,h⟩
      cases h
      rfl
    · intro h
      cases ss with
      | nil => cases h
      | cons s rest =>
        cases h
        exact ⟨s,rfl,rest,rfl,rfl⟩

theorem listOfTexts_ok_iff {ss : List String} :
    Decode.listOfTexts .refused v = .ok ss ↔ v = .strings ss := by
  cases v <;> simp [Decode.listOfTexts, Decode.list, Decode.fail, strings, itemsFrom_text_ok_iff]

theorem needed_ok_iff {α : Type} {a : α} {o : Option α} : needed name o = .ok a ↔ o = some a := by
  cases o <;> simp [needed]

end Json

/-! ## Durations -/

namespace Duration

/-- Seconds and nanoseconds, whole seconds among the nanoseconds carried over. -/
def Written (v : Json) (d : Duration) : Prop :=
  ∃ ms, Members ["secs","nanos"] v ms ∧ ∃ secs nanos : Nat,
    ("secs",.nat secs) ∈ ms ∧ ("nanos",.nat nanos) ∈ ms ∧ secs < UInt64.size ∧
    nanos < UInt32.size ∧
    d.secs.toNat = secs + nanos / 1000000000 ∧ d.nanos.val = nanos % 1000000000

theorem ofParts?_eq_some_iff {secs nanos : Nat} {d : Duration} :
    ofParts? secs nanos = some d ↔
      d.secs.toNat = secs + nanos / 1000000000 ∧ d.nanos.val = nanos % 1000000000 := by
  obtain ⟨s,n⟩ := d
  simp only [ofParts?]
  constructor
  · intro h
    split at h
    · rename_i hfits
      cases h
      exact ⟨UInt64.toNat_ofNat_of_lt' hfits,rfl⟩
    · cases h
  · rintro ⟨hs,hn⟩
    have hfits : secs + nanos / 1000000000 < UInt64.size := hs ▸ s.toNat_lt_size
    rw [if_pos hfits, Option.some.injEq, mk.injEq]
    exact ⟨by rw [← hs]; exact UInt64.ofNat_toNat,Fin.ext hn.symm⟩

theorem shape_strict : shape.Strict := ⟨by decide,rfl⟩

theorem parts :
    Part shape.fields "secs" (Decode.wholeBetween 0 0xffffffffffffffff) Draft.secs
      (fun n => some n.toNat) ∧
    Part shape.fields "nanos" (Decode.wholeBetween 0 0xffffffff) Draft.nanos
      fun n => some n.toNat := by
  refine ⟨?_,?_⟩ <;> constructor <;>
    simp +contextual [shape, Field.of_name, Field.of_read_ok_iff]

theorem given_nat_iff {high n : Nat} :
    (∃ v a, (name,v) ∈ ms ∧ Decode.wholeBetween 0 high .refused v = .ok a ∧
      some a.toNat = some n) ↔ (name,.nat n) ∈ ms ∧ n ≤ high := by
  simp only [wholeBetween_ok_iff, Option.some.injEq]
  constructor
  · rintro ⟨_,a,hmem,⟨rfl,hlow,hhigh⟩,rfl⟩
    have ha : (a.toNat : Int) = a := Int.toNat_of_nonneg hlow
    exact ⟨by rw [nat, ha]; exact hmem,by omega⟩
  · rintro ⟨hmem,hn⟩
    exact ⟨_,n,hmem,⟨rfl,by omega,by omega⟩,Int.toNat_natCast n⟩

theorem shape_decode_ok_iff {secs nanos : Nat} :
    shape.decode .refused v = .ok (secs,nanos) ↔ ∃ ms, Members ["secs","nanos"] v ms ∧
      (("secs",.nat secs) ∈ ms ∧ secs ≤ 0xffffffffffffffff) ∧
      ("nanos",.nat nanos) ∈ ms ∧ nanos ≤ 0xffffffff := by
  simp only [← given_nat_iff]
  refine Shape.decode_ok_iff_of shape_strict (fun ms hd => ?_) fun ms s hd hr => ?_
  · rintro ⟨⟨u,_,hu,hsecs,-⟩,⟨u',_,hu',hnanos,-⟩⟩
    simp only [shape, List.forall_mem_cons]
    exact ⟨takes_of_given hd ⟨u,hu,hsecs⟩,takes_of_given hd ⟨u',hu',hnanos⟩,nofun⟩
  · have hclose : shape.close s = .ok (secs,nanos) ↔ s.secs = some secs ∧ s.nanos = some nanos := by
      simp [shape, bind_ok_iff, needed_ok_iff, pure, Except.pure]
    have hsecs := parts.1.eq_put_iff (b := some secs) hr hd nofun
    have hnanos := parts.2.eq_put_iff (b := some nanos) hr hd nofun
    rw [hclose, hsecs, hnanos]
    rfl

theorem decode_ok_iff {d : Duration} : decode .refused v = .ok d ↔ Written v d := by
  have hparts : decode .refused v = .ok d ↔ ∃ secs nanos,
      shape.decode .refused v = .ok (secs,nanos) ∧ ofParts? secs nanos = some d := by
    unfold decode
    cases shape.decode .refused v with
    | error e => simp
    | ok parts =>
      obtain ⟨secs,nanos⟩ := parts
      cases ho : ofParts? secs nanos <;> simp [Decode.fail, ho]
  simp only [hparts, shape_decode_ok_iff, ofParts?_eq_some_iff, Written]
  constructor
  · rintro ⟨secs,nanos,⟨ms,hm,⟨hsecs,hs⟩,hnanos,hn⟩,htotal,hrest⟩
    exact ⟨ms,hm,secs,nanos,hsecs,hnanos,Nat.lt_succ_of_le hs,Nat.lt_succ_of_le hn,htotal,hrest⟩
  · rintro ⟨ms,hm,secs,nanos,hsecs,hnanos,hs,hn,htotal,hrest⟩
    exact ⟨secs,nanos,⟨ms,hm,⟨hsecs,Nat.le_of_lt_succ hs⟩,hnanos,Nat.le_of_lt_succ hn⟩,htotal,
      hrest⟩

theorem written_eq : Written = fun v d => decode .refused v = .ok d := by
  funext v d
  exact propext decode_ok_iff.symm

theorem written_encode (d : Duration) : Written d.encode d := by
  have hn : d.nanos.val < 1000000000 := d.nanos.isLt
  have hsize : 1000000000 < UInt32.size := by decide
  exact ⟨_,.object (by simp) (by simp),d.secs.toNat,d.nanos.val,by simp,by simp,
    d.secs.toNat_lt_size,by omega,by omega,by omega⟩

end Duration

/-! ## Internal data, metadata and alias -/

namespace InternalData

def Written (v : Json) (i : InternalData) : Prop :=
  ∃ ms, Members ["role","instance_id","ip_address"] v ms ∧ ("role",.string i.role) ∈ ms ∧
    ("instance_id",.string i.instanceId) ∈ ms ∧ ("ip_address",.string i.ipAddress) ∈ ms

theorem shape_strict : shape.Strict := ⟨by decide,rfl⟩

theorem parts : Part shape.fields "role" Decode.text Draft.role some ∧
    Part shape.fields "instance_id" Decode.text Draft.instanceId some ∧
    Part shape.fields "ip_address" Decode.text Draft.ipAddress some := by
  refine ⟨?_,?_,?_⟩ <;> constructor <;>
    simp +contextual [shape, Field.of_name, Field.of_read_ok_iff]

theorem close_ok_iff {s : Draft} {i : InternalData} :
    shape.close s = .ok i ↔ s.role = some i.role ∧ s.instanceId = some i.instanceId ∧
      s.ipAddress = some i.ipAddress := by
  simp only [shape, bind_ok_iff, needed_ok_iff]
  constructor
  · rintro ⟨_,h₁,_,h₂,_,h₃,hend⟩
    cases hend
    exact ⟨h₁,h₂,h₃⟩
  · rintro ⟨h₁,h₂,h₃⟩
    exact ⟨_,h₁,_,h₂,_,h₃,rfl⟩

theorem decode_ok_iff {i : InternalData} : shape.decode .refused v = .ok i ↔ Written v i := by
  simp only [Written, ← given_text_iff]
  refine Shape.decode_ok_iff_of shape_strict (fun ms hd => ?_) fun ms s hd hr => ?_
  · rintro ⟨hrole,hinstance,haddress⟩
    simp only [shape, List.forall_mem_cons]
    exact ⟨takes_of_given hd hrole,takes_of_given hd hinstance,takes_of_given hd haddress,nofun⟩
  · obtain ⟨hrole,hinstance,haddress⟩ := parts
    rw [close_ok_iff, hrole.eq_some_iff hr hd rfl, hinstance.eq_some_iff hr hd rfl,
      haddress.eq_some_iff hr hd rfl]

theorem written_encode (i : InternalData) : Written i.encode i :=
  ⟨_,.object (by simp) (by simp),by simp⟩

end InternalData

namespace AliasMetadata

def Written (v : Json) (m : AliasMetadata) : Prop :=
  ∃ ms, Members ["org_id","app_id","space_id","org_name","app_name","space_name"] v ms ∧
    ("org_id",.string m.orgId) ∈ ms ∧ ("app_id",.string m.appId) ∈ ms ∧
    ("space_id",.string m.spaceId) ∈ ms ∧ ("org_name",.string m.orgName) ∈ ms ∧
    ("app_name",.string m.appName) ∈ ms ∧ ("space_name",.string m.spaceName) ∈ ms

theorem shape_strict : shape.Strict := ⟨by decide,rfl⟩

theorem parts : Part shape.fields "org_id" Decode.text Draft.orgId some ∧
    Part shape.fields "app_id" Decode.text Draft.appId some ∧
    Part shape.fields "space_id" Decode.text Draft.spaceId some ∧
    Part shape.fields "org_name" Decode.text Draft.orgName some ∧
    Part shape.fields "app_name" Decode.text Draft.appName some ∧
    Part shape.fields "space_name" Decode.text Draft.spaceName some := by
  refine ⟨?_,?_,?_,?_,?_,?_⟩ <;> constructor <;>
    simp +contextual [shape, Field.of_name, Field.of_read_ok_iff]

theorem close_ok_iff {s : Draft} {m : AliasMetadata} :
    shape.close s = .ok m ↔ s.orgId = some m.orgId ∧ s.appId = some m.appId ∧
      s.spaceId = some m.spaceId ∧ s.orgName = some m.orgName ∧ s.appName = some m.appName ∧
      s.spaceName = some m.spaceName := by
  simp only [shape, bind_ok_iff, needed_ok_iff]
  constructor
  · rintro ⟨_,h₁,_,h₂,_,h₃,_,h₄,_,h₅,_,h₆,hend⟩
    cases hend
    exact ⟨h₁,h₂,h₃,h₄,h₅,h₆⟩
  · rintro ⟨h₁,h₂,h₃,h₄,h₅,h₆⟩
    exact ⟨_,h₁,_,h₂,_,h₃,_,h₄,_,h₅,_,h₆,rfl⟩

theorem decode_ok_iff {m : AliasMetadata} : shape.decode .refused v = .ok m ↔ Written v m := by
  simp only [Written, ← given_text_iff]
  refine Shape.decode_ok_iff_of shape_strict (fun ms hd => ?_) fun ms s hd hr => ?_
  · rintro ⟨h₁,h₂,h₃,h₄,h₅,h₆⟩
    simp only [shape, List.forall_mem_cons]
    exact ⟨takes_of_given hd h₁,takes_of_given hd h₂,takes_of_given hd h₃,takes_of_given hd h₄,
      takes_of_given hd h₅,takes_of_given hd h₆,nofun⟩
  · obtain ⟨h₁,h₂,h₃,h₄,h₅,h₆⟩ := parts
    rw [close_ok_iff, h₁.eq_some_iff hr hd rfl, h₂.eq_some_iff hr hd rfl,
      h₃.eq_some_iff hr hd rfl, h₄.eq_some_iff hr hd rfl, h₅.eq_some_iff hr hd rfl,
      h₆.eq_some_iff hr hd rfl]

theorem written_encode (m : AliasMetadata) : Written m.encode m :=
  ⟨_,.object (by simp) (by simp),by simp⟩

end AliasMetadata

namespace Alias

def Written (v : Json) (a : Alias) : Prop :=
  ∃ ms, Members ["name","metadata"] v ms ∧ ("name",.string a.name) ∈ ms ∧
    ∃ u, ("metadata",u) ∈ ms ∧ AliasMetadata.Written u a.metadata

theorem shape_strict : shape.Strict := ⟨by decide,rfl⟩

theorem parts : Part shape.fields "name" Decode.text Draft.name some ∧
    Part shape.fields "metadata" AliasMetadata.shape.decode Draft.metadata some := by
  refine ⟨?_,?_⟩ <;> constructor <;>
    simp +contextual [shape, Field.of_name, Field.of_read_ok_iff]

theorem close_ok_iff {s : Draft} {a : Alias} :
    shape.close s = .ok a ↔ s.name = some a.name ∧ s.metadata = some a.metadata := by
  simp only [shape, bind_ok_iff, needed_ok_iff]
  constructor
  · rintro ⟨_,h₁,_,h₂,hend⟩
    cases hend
    exact ⟨h₁,h₂⟩
  · rintro ⟨h₁,h₂⟩
    exact ⟨_,h₁,_,h₂,rfl⟩

theorem decode_ok_iff {a : Alias} : shape.decode .refused v = .ok a ↔ Written v a := by
  simp only [Written, ← given_text_iff, ← AliasMetadata.decode_ok_iff]
  refine Shape.decode_ok_iff_of shape_strict (fun ms hd => ?_) fun ms s hd hr => ?_
  · rintro ⟨hname,hmetadata⟩
    simp only [shape, List.forall_mem_cons]
    exact ⟨takes_of_given hd hname,takes_of_given hd hmetadata,nofun⟩
  · obtain ⟨hname,hmetadata⟩ := parts
    rw [close_ok_iff, hname.eq_some_iff hr hd rfl, hmetadata.eq_some_iff hr hd rfl]

theorem written_encode (a : Alias) : Written a.encode a :=
  ⟨_,.object (by simp) (by simp),by simp,_,by simp,AliasMetadata.written_encode _⟩

end Alias

/-! ## Lifetimes and scope -/

namespace TokenParams

def Written (v : Json) (t : TokenParams) : Prop :=
  ∃ ms, Members ["policies","ttl","max_ttl","period","bound_cidrs"] v ms ∧
    Defaulted ms "policies" (fun u ss => u = .strings ss) [] t.policies ∧
    Defaulted ms "ttl" Duration.Written {} t.ttl ∧
    Defaulted ms "max_ttl" Duration.Written {} t.maxTtl ∧
    Defaulted ms "period" Duration.Written {} t.period ∧
    Defaulted ms "bound_cidrs" (fun u ss => u = .strings ss) [] t.boundCidrs

theorem shape_strict : shape.Strict := ⟨by decide,rfl⟩

theorem parts : Part shape.fields "policies" Decode.listOfTexts TokenParams.policies id ∧
    Part shape.fields "ttl" Duration.decode TokenParams.ttl id ∧
    Part shape.fields "max_ttl" Duration.decode TokenParams.maxTtl id ∧
    Part shape.fields "period" Duration.decode TokenParams.period id ∧
    Part shape.fields "bound_cidrs" Decode.listOfTexts TokenParams.boundCidrs id := by
  refine ⟨?_,?_,?_,?_,?_⟩ <;> constructor <;>
    simp +contextual [shape, Field.of_name, Field.of_read_ok_iff]

theorem close_ok_iff {s t : TokenParams} :
    shape.close s = .ok t ↔ s.policies = t.policies ∧ s.ttl = t.ttl ∧ s.maxTtl = t.maxTtl ∧
      s.period = t.period ∧ s.boundCidrs = t.boundCidrs := by
  cases s
  cases t
  simp [shape]

theorem decode_ok_iff {t : TokenParams} : shape.decode .refused v = .ok t ↔ Written v t := by
  simp only [Written, ← listOfTexts_ok_iff, Duration.written_eq]
  refine Shape.decode_ok_iff_of shape_strict (fun ms hd => ?_) fun ms s hd hr => ?_
  · rintro ⟨h₁,h₂,h₃,h₄,h₅⟩
    simp only [shape, List.forall_mem_cons]
    exact ⟨takes_of_defaulted hd h₁,takes_of_defaulted hd h₂,takes_of_defaulted hd h₃,
      takes_of_defaulted hd h₄,takes_of_defaulted hd h₅,nofun⟩
  · obtain ⟨h₁,h₂,h₃,h₄,h₅⟩ := parts
    rw [close_ok_iff, h₁.eq_iff hr hd, h₂.eq_iff hr hd, h₃.eq_iff hr hd, h₄.eq_iff hr hd,
      h₅.eq_iff hr hd]
    rfl

theorem written_eq : Written = fun v t => shape.decode .refused v = .ok t := by
  funext v t
  exact propext decode_ok_iff.symm

theorem written_encode (t : TokenParams) : Written t.encode t := by
  refine ⟨_,.object (by simp) (by simp),.inl ⟨_,?_,rfl⟩,.inl ⟨_,?_,Duration.written_encode _⟩,
    .inl ⟨_,?_,Duration.written_encode _⟩,.inl ⟨_,?_,Duration.written_encode _⟩,
    .inl ⟨_,?_,rfl⟩⟩ <;> simp

end TokenParams

/-! ## Credentials -/

namespace Credential

def Written (v : Json) (c : Credential) : Prop :=
  ∃ ms, Members ["internal_data","display_name","alias","token"] v ms ∧
    (∃ u, ("internal_data",u) ∈ ms ∧ InternalData.Written u c.internalData) ∧
    ("display_name",.string c.displayName) ∈ ms ∧
    (∃ u, ("alias",u) ∈ ms ∧ Alias.Written u c.appAlias) ∧
    Defaulted ms "token" TokenParams.Written {} c.token

theorem shape_strict : shape.Strict := ⟨by decide,rfl⟩

theorem parts :
    Part shape.fields "internal_data" InternalData.shape.decode Draft.internalData some ∧
    Part shape.fields "display_name" Decode.text Draft.displayName some ∧
    Part shape.fields "alias" Alias.shape.decode Draft.appAlias some ∧
    Part shape.fields "token" TokenParams.shape.decode Draft.token id := by
  refine ⟨?_,?_,?_,?_⟩ <;> constructor <;>
    simp +contextual [shape, Field.of_name, Field.of_read_ok_iff]

theorem close_ok_iff {s : Draft} {c : Credential} :
    shape.close s = .ok c ↔ s.internalData = some c.internalData ∧
      s.displayName = some c.displayName ∧ s.appAlias = some c.appAlias ∧ s.token = c.token := by
  simp only [shape, bind_ok_iff, needed_ok_iff]
  constructor
  · rintro ⟨_,h₁,_,h₂,_,h₃,hend⟩
    cases hend
    exact ⟨h₁,h₂,h₃,rfl⟩
  · rintro ⟨h₁,h₂,h₃,h₄⟩
    exact ⟨_,h₁,_,h₂,_,h₃,by rw [h₄]; rfl⟩

theorem decode_ok_iff {c : Credential} : decode v = .ok c ↔ Written v c := by
  unfold decode
  simp only [Written, ← given_text_iff, ← InternalData.decode_ok_iff, ← Alias.decode_ok_iff,
    TokenParams.written_eq]
  refine Shape.decode_ok_iff_of shape_strict (fun ms hd => ?_) fun ms s hd hr => ?_
  · rintro ⟨h₁,h₂,h₃,h₄⟩
    simp only [shape, List.forall_mem_cons]
    exact ⟨takes_of_given hd h₁,takes_of_given hd h₂,takes_of_given hd h₃,
      takes_of_defaulted hd h₄,nofun⟩
  · obtain ⟨h₁,h₂,h₃,h₄⟩ := parts
    rw [close_ok_iff, h₁.eq_some_iff hr hd rfl, h₂.eq_some_iff hr hd rfl,
      h₃.eq_some_iff hr hd rfl, h₄.eq_iff hr hd]
    rfl

theorem written_encode (c : Credential) : Written c.encode c := by
  refine ⟨_,.object (by simp) (by simp),⟨_,?_,InternalData.written_encode _⟩,?_,
    ⟨_,?_,Alias.written_encode _⟩,.inl ⟨_,?_,TokenParams.written_encode _⟩⟩ <;> simp

end Credential
end WorkloadLogin
