import WorkloadLogin.Constraint
import WorkloadLogin.Proofs.Address.NetworkText
import WorkloadLogin.Proofs.Credential.Written
import WorkloadLogin.Role.Codec

/-! # Written forms of roles

Which JSON values stand for a role. Every member may be left out and has its default then; a written
role has all of them, and of its lifetimes the whole seconds. Its networks are texts there, as they
are in the credentials that are issued under it, and are read back from these texts.
-/
namespace WorkloadLogin
open Json
variable {v : Json}

namespace Json

theorem bool_ok_iff {b : Bool} : Decode.bool .refused v = .ok b ↔ v = .bool b := by
  cases v <;> simp [Decode.bool, Decode.fail]

/-- A machine word is written as its number. -/
theorem word64_ok_iff {n : UInt64} : Decode.word64 .refused v = .ok n ↔ v = .nat n.toNat := by
  have hlt := n.toNat_lt_size
  have hsize : UInt64.size = 0x10000000000000000 := rfl
  have hread : Decode.word64 .refused v = .ok n ↔ ∃ i : Int,
      (v = .integer i ∧ 0 ≤ i ∧ i ≤ 0xffffffffffffffff) ∧ UInt64.ofNat i.toNat = n := by
    simp only [← wholeBetween_ok_iff]
    unfold Decode.word64
    cases Decode.wholeBetween 0 0xffffffffffffffff .refused v <;> simp [Except.map]
  rw [hread]
  constructor
  · rintro ⟨i,⟨rfl,hlow,hhigh⟩,rfl⟩
    have hi : i.toNat < UInt64.size := by omega
    rw [UInt64.toNat_ofNat_of_lt' hi, nat, Int.toNat_of_nonneg hlow]
  · rintro rfl
    exact ⟨n.toNat,⟨rfl,by omega,by omega⟩,by simp⟩

end Json

namespace Duration

/-- The value is the number of seconds of a duration that has no fraction of one. -/
def WrittenSeconds (v : Json) (d : Duration) : Prop := v = .nat d.secs.toNat ∧ d.nanos = .zero

theorem decodeSeconds_ok_iff {d : Duration} :
    decodeSeconds .refused v = .ok d ↔ WrittenSeconds v d := by
  have hread : decodeSeconds .refused v = .ok d ↔
      ∃ n, Decode.word64 .refused v = .ok n ∧ ofSeconds n = d := by
    unfold decodeSeconds
    cases Decode.word64 .refused v <;> simp [Except.map]
  simp only [hread, word64_ok_iff]
  constructor
  · rintro ⟨n,rfl,rfl⟩
    exact ⟨rfl,rfl⟩
  · rintro ⟨rfl,hnanos⟩
    exact ⟨d.secs,rfl,by rw [ofSeconds, ← hnanos]⟩

end Duration

namespace Network

theorem decode_ok_iff {net : Network} :
    decode .refused v = .ok net ↔ ∃ s, v = .string s ∧ parse? s = some net := by
  have hread : decode .refused v = .ok net ↔
      ∃ s, Decode.text .refused v = .ok s ∧ parse? s = some net := by
    unfold decode
    cases Decode.text .refused v with
    | error e => simp
    | ok s => cases h : parse? s <;> simp [Decode.fail, h]
  simp only [hread, text_ok_iff]

theorem itemsFrom_ok_iff {index : Nat} {items : List Json} {networks : List Network} :
    Decode.itemsFrom (decode .refused) index items = .ok networks ↔
      ∃ ss : List String, items = ss.map .string ∧ ss.mapM parse? = some networks := by
  induction items generalizing index networks with
  | nil => simp [Decode.itemsFrom, eq_comm]
  | cons item items ih =>
    simp only [Decode.itemsFrom, bind_ok_iff, within_ok_iff, decode_ok_iff, ih]
    constructor
    · rintro ⟨net,⟨s,rfl,hnet⟩,rest,⟨ss,rfl,hrest⟩,hend⟩
      cases hend
      exact ⟨s :: ss,rfl,by simp [hnet, hrest]⟩
    · rintro ⟨ss,hitems,hread⟩
      cases ss with
      | nil => cases hitems
      | cons s ss =>
        cases hitems
        simp only [List.mapM_cons, Option.bind_eq_bind, Option.bind_eq_some_iff] at hread
        obtain ⟨net,hnet,rest,hrest,hend⟩ := hread
        cases hend
        exact ⟨net,⟨s,rfl,hnet⟩,rest,⟨ss,rfl,hrest⟩,rfl⟩

/-- The value is a list of texts that write these networks. -/
def WrittenList (v : Json) (networks : List Network) : Prop :=
  ∃ ss, v = .strings ss ∧ ss.mapM parse? = some networks

theorem list_ok_iff {networks : List Network} :
    Decode.list decode .refused v = .ok networks ↔ WrittenList v networks := by
  cases v <;> simp [Decode.list, Decode.fail, WrittenList, strings, itemsFrom_ok_iff]

end Network

namespace Role

/-- The members of a role in the declared order. -/
def memberNames : List String :=
  ["bound_org_ids","bound_space_ids","bound_app_ids","bound_instance_ids","token_bound_cidrs",
    "disable_ip_matching","token_policies","token_ttl","token_max_ttl","token_period"]

def Written (v : Json) (r : Role) : Prop :=
  ∃ ms, Members memberNames v ms ∧
    Defaulted ms "bound_org_ids" (fun u ss => u = .strings ss) [] r.boundOrgIds ∧
    Defaulted ms "bound_space_ids" (fun u ss => u = .strings ss) [] r.boundSpaceIds ∧
    Defaulted ms "bound_app_ids" (fun u ss => u = .strings ss) [] r.boundAppIds ∧
    Defaulted ms "bound_instance_ids" (fun u ss => u = .strings ss) [] r.boundInstanceIds ∧
    Defaulted ms "token_bound_cidrs" Network.WrittenList [] r.tokenBoundCidrs ∧
    Defaulted ms "disable_ip_matching" (fun u b => u = .bool b) false r.disableIpMatching ∧
    Defaulted ms "token_policies" (fun u ss => u = .strings ss) [] r.tokenPolicies ∧
    Defaulted ms "token_ttl" Duration.WrittenSeconds {} r.tokenTtl ∧
    Defaulted ms "token_max_ttl" Duration.WrittenSeconds {} r.tokenMaxTtl ∧
    Defaulted ms "token_period" Duration.WrittenSeconds {} r.tokenPeriod

theorem shape_strict : shape.Strict := ⟨by decide,rfl⟩

theorem parts : Part shape.fields "bound_org_ids" Decode.listOfTexts Role.boundOrgIds id ∧
    Part shape.fields "bound_space_ids" Decode.listOfTexts Role.boundSpaceIds id ∧
    Part shape.fields "bound_app_ids" Decode.listOfTexts Role.boundAppIds id ∧
    Part shape.fields "bound_instance_ids" Decode.listOfTexts Role.boundInstanceIds id ∧
    Part shape.fields "token_bound_cidrs" (Decode.list Network.decode) Role.tokenBoundCidrs id ∧
    Part shape.fields "disable_ip_matching" Decode.bool Role.disableIpMatching id ∧
    Part shape.fields "token_policies" Decode.listOfTexts Role.tokenPolicies id ∧
    Part shape.fields "token_ttl" Duration.decodeSeconds Role.tokenTtl id ∧
    Part shape.fields "token_max_ttl" Duration.decodeSeconds Role.tokenMaxTtl id ∧
    Part shape.fields "token_period" Duration.decodeSeconds Role.tokenPeriod id := by
  refine ⟨?_,?_,?_,?_,?_,?_,?_,?_,?_,?_⟩ <;> constructor <;>
    simp +contextual [shape, Field.of_name, Field.of_read_ok_iff, -Bool.exists_bool,
      -Bool.forall_bool]

theorem close_ok_iff {s r : Role} :
    shape.close s = .ok r ↔ s.boundOrgIds = r.boundOrgIds ∧ s.boundSpaceIds = r.boundSpaceIds ∧
      s.boundAppIds = r.boundAppIds ∧ s.boundInstanceIds = r.boundInstanceIds ∧
      s.tokenBoundCidrs = r.tokenBoundCidrs ∧ s.disableIpMatching = r.disableIpMatching ∧
      s.tokenPolicies = r.tokenPolicies ∧ s.tokenTtl = r.tokenTtl ∧ s.tokenMaxTtl = r.tokenMaxTtl ∧
      s.tokenPeriod = r.tokenPeriod := by
  cases s
  cases r
  simp [shape]

/-- The decoder takes the written forms of roles and nothing else. -/
theorem decode_ok_iff {r : Role} : decode v = .ok r ↔ Written v r := by
  unfold decode
  have hnetworks : Network.WrittenList =
      fun u ns => Decode.list Network.decode .refused u = .ok ns := by
    funext u ns
    exact propext Network.list_ok_iff.symm
  have hlifetimes : Duration.WrittenSeconds =
      fun u d => Duration.decodeSeconds .refused u = .ok d := by
    funext u d
    exact propext Duration.decodeSeconds_ok_iff.symm
  simp only [Written, hnetworks, hlifetimes, ← listOfTexts_ok_iff, ← bool_ok_iff]
  refine Shape.decode_ok_iff_of shape_strict (fun ms hd => ?_) fun ms s hd hr => ?_
  · rintro ⟨h₁,h₂,h₃,h₄,h₅,h₆,h₇,h₈,h₉,h₁₀⟩
    simp only [shape, List.forall_mem_cons]
    exact ⟨takes_of_defaulted hd h₁,takes_of_defaulted hd h₂,takes_of_defaulted hd h₃,
      takes_of_defaulted hd h₄,takes_of_defaulted hd h₅,takes_of_defaulted hd h₆,
      takes_of_defaulted hd h₇,takes_of_defaulted hd h₈,takes_of_defaulted hd h₉,
      takes_of_defaulted hd h₁₀,nofun⟩
  · obtain ⟨h₁,h₂,h₃,h₄,h₅,h₆,h₇,h₈,h₉,h₁₀⟩ := parts
    rw [close_ok_iff, h₁.eq_iff hr hd, h₂.eq_iff hr hd, h₃.eq_iff hr hd, h₄.eq_iff hr hd,
      h₅.eq_iff hr hd, h₆.eq_iff hr hd, h₇.eq_iff hr hd, h₈.eq_iff hr hd, h₉.eq_iff hr hd,
      h₁₀.eq_iff hr hd]
    rfl

/-! ## What is written -/

theorem writtenList_render (networks : List Network) :
    Network.WrittenList (.strings (networks.map Network.render)) networks :=
  ⟨_,rfl,Network.mapM_parse?_render networks⟩

/-- The role without fractions of a second in its lifetimes. -/
def inSeconds (r : Role) : Role :=
  { r with
    tokenTtl := .ofSeconds r.tokenTtl.secs
    tokenMaxTtl := .ofSeconds r.tokenMaxTtl.secs
    tokenPeriod := .ofSeconds r.tokenPeriod.secs }

theorem written_encode (r : Role) : Written r.encode r.inSeconds := by
  refine ⟨_,.object (by simp) (by simp [memberNames]),.inl ⟨_,?_,rfl⟩,.inl ⟨_,?_,rfl⟩,
    .inl ⟨_,?_,rfl⟩,.inl ⟨_,?_,rfl⟩,.inl ⟨_,?_,writtenList_render _⟩,.inl ⟨_,?_,rfl⟩,
    .inl ⟨_,?_,rfl⟩,.inl ⟨_,?_,rfl,rfl⟩,.inl ⟨_,?_,rfl,rfl⟩,.inl ⟨_,?_,rfl,rfl⟩⟩ <;>
    simp [Duration.encodeSeconds, Duration.ofSeconds, inSeconds]

theorem decode_encode (r : Role) : decode r.encode = .ok r.inSeconds :=
  decode_ok_iff.mpr (written_encode r)

theorem ofSeconds_of_defaulted {ms : List (String × Json)} {key : String} {d : Duration}
    (h : Defaulted ms key Duration.WrittenSeconds {} d) : .ofSeconds d.secs = d := by
  obtain ⟨_,-,-,hnanos⟩ | ⟨-,rfl⟩ := h
  · rw [Duration.ofSeconds, ← hnanos]
  · rfl

/-- What is decoded has no fractions of a second. -/
theorem inSeconds_of_decode {r : Role} (h : decode v = .ok r) : r.inSeconds = r := by
  obtain ⟨_,-,-,-,-,-,-,-,-,httl,hmax,hperiod⟩ := decode_ok_iff.mp h
  rw [inSeconds, ofSeconds_of_defaulted httl, ofSeconds_of_defaulted hmax,
    ofSeconds_of_defaulted hperiod]

/-- A value is decoded to a role from its written forms. The role is encoded with all its members,
its lifetimes as numbers of seconds and its networks as address and length, and decoded from that to
the same role, as far as it has no fractions of a second; a decoded role has none. A credential
issued under it has these networks in its token block, as texts that are read back to the role's
networks in order, so that they admit whom the role admits. -/
theorem networks_survive_text (r : Role) :
    (∀ v, decode v = .ok r ↔ Written v r) ∧
    (∃ ms, r.encode = .object ms ∧ ms.map Prod.fst = memberNames ∧
      ("token_ttl",.nat r.tokenTtl.secs.toNat) ∈ ms ∧
      ("token_max_ttl",.nat r.tokenMaxTtl.secs.toNat) ∈ ms ∧
      ("token_period",.nat r.tokenPeriod.secs.toNat) ∈ ms ∧
      ("token_bound_cidrs",.strings (r.tokenBoundCidrs.map fun net =>
        net.address.render ++ "/" ++ Text.decimal net.length)) ∈ ms) ∧
    decode r.encode = .ok r.inSeconds ∧
    (∀ v, decode v = .ok r → r.inSeconds = r ∧ decode r.encode = .ok r) ∧
    (∀ c, (r.populate c).token.boundCidrs.mapM Network.parse? = some r.tokenBoundCidrs) ∧
    ∀ c networks, (r.populate c).token.boundCidrs.mapM Network.parse? = some networks →
      ∀ remote, Constraint.withinAny remote networks =
        Constraint.withinAny remote r.tokenBoundCidrs := by
  have hread : ∀ c, (r.populate c).token.boundCidrs.mapM Network.parse? =
      some r.tokenBoundCidrs := fun _ => Network.mapM_parse?_render r.tokenBoundCidrs
  refine ⟨fun v => decode_ok_iff,⟨_,rfl,rfl,?_⟩,r.decode_encode,?_,hread,?_⟩
  · simp only [← Network.render_eq]
    simp [Duration.encodeSeconds]
  · intro v h
    have hwhole := inSeconds_of_decode h
    exact ⟨hwhole,r.decode_encode.trans (congrArg Except.ok hwhole)⟩
  · intro c networks hnetworks remote
    have hsame : networks = r.tokenBoundCidrs := by
      rw [hread c] at hnetworks
      exact (Option.some.inj hnetworks).symm
    rw [hsame]

/-- Zeros in front, host bits and a long gap are normalised by one decoding. -/
example : (decode (.object
    [("token_bound_cidrs",.strings ["010.1.2.3/8","0:0::FFFF:a00:1/104"])])).map Role.encode =
    .ok (encode { tokenBoundCidrs :=
      [.v4 (.ofNat 32 0x0a010203) 8,.v6 (.ofMapped (.ofNat 32 0x0a000001)) 104] }) := by
  rfl

end Role
end WorkloadLogin
