import WorkloadLogin.Proofs.X509.Trust

/-! # What an identity is read from

Five things of a certificate tell whom it names: its first common name, the units behind each of
three marks, and the entries of its alternative names that are addresses. Two certificates that are
alike in these name the same instance, or lack the same thing, whatever else they hold and in
whatever order.
-/
namespace WorkloadLogin.X509
variable {α : Type} {units units' : List String} {unit : UnitKind} {names names' : List AltName}
  {c c' : InstanceCertificate} {x x' : Certificate} {identity : Identity}

/-! ## The one address -/

/-- One of the names is an address of four or sixteen octets, and no other name is. -/
structure SoleAddress (names : List AltName) (ip : Ip) : Prop where
  sole : ∃ before octets after, names = before ++ .ip octets :: after ∧
    (octets.length = 4 ∨ octets.length = 16) ∧ Ip.ofBytes? octets = some ip ∧
    ∀ other, .ip other ∈ before ++ after → other.length ≠ 4 ∧ other.length ≠ 16

/-- The address that a name is, if it is one. -/
def AltName.address? : AltName → Option Ip
  | .ip octets => Ip.ofBytes? octets
  | .other => none

theorem addresses_eq (names : List AltName) :
    AltName.addresses names = names.filterMap AltName.address? := by
  unfold AltName.addresses
  congr 1

theorem ofBytes?_eq_none_iff {octets : Bytes} :
    Ip.ofBytes? octets = none ↔ octets.length ≠ 4 ∧ octets.length ≠ 16 := by
  unfold Ip.ofBytes?
  by_cases h₄ : octets.length = 4
  · simp [h₄]
  · by_cases h₁₆ : octets.length = 16
    · simp [h₁₆]
    · simp [h₄,h₁₆]

theorem length_of_ofBytes? {octets : Bytes} {ip : Ip} (h : Ip.ofBytes? octets = some ip) :
    octets.length = 4 ∨ octets.length = 16 := by
  by_cases hlength : octets.length = 4 ∨ octets.length = 16
  · exact hlength
  · have hnone := ofBytes?_eq_none_iff.mpr (not_or.mp hlength)
    cases h.symm.trans hnone

theorem addresses_eq_singleton_iff {ip : Ip} :
    AltName.addresses names = [ip] ↔ SoleAddress names ip := by
  have hno : ∀ part : List AltName, (∀ name ∈ part, name.address? = none) ↔
      ∀ other, .ip other ∈ part → other.length ≠ 4 ∧ other.length ≠ 16 := by
    intro part
    constructor
    · intro h other hother
      exact ofBytes?_eq_none_iff.mp (h _ hother)
    · intro h name hname
      cases name with
      | other => rfl
      | ip octets => exact ofBytes?_eq_none_iff.mpr (h octets hname)
  rw [addresses_eq,List.filterMap_eq_cons_iff]
  constructor
  · rintro ⟨before,name,after,rfl,hbefore,hname,hafter⟩
    have hrest := List.filterMap_eq_nil_iff.mp hafter
    cases name with
    | other => cases hname
    | ip octets =>
      refine ⟨before,octets,after,rfl,length_of_ofBytes? hname,hname,(hno _).mp ?_⟩
      intro name hmem
      exact (List.mem_append.mp hmem).elim (hbefore name) (hrest name)
  · rintro ⟨before,octets,after,rfl,-,hip,hothers⟩
    have hnone := (hno _).mpr hothers
    exact ⟨before,.ip octets,after,rfl,fun name h => hnone name (List.mem_append_left _ h),hip,
      List.filterMap_eq_nil_iff.mpr fun name h => hnone name (List.mem_append_right _ h)⟩

/-! ## Order does not matter -/

/-- Lists of the same elements are both empty, both one element, or both longer. -/
theorem perm_cases {as bs : List α} (h : as.Perm bs) :
    (as = [] ∧ bs = []) ∨ (∃ a, as = [a] ∧ bs = [a]) ∨
      ∃ a a' as' b b' bs', as = a :: a' :: as' ∧ bs = b :: b' :: bs' := by
  match as, bs, h with
  | [],bs,h => exact .inl ⟨rfl,h.nil_eq.symm⟩
  | [a],bs,h => exact .inr (.inl ⟨a,rfl,List.perm_singleton.mp h.symm⟩)
  | _ :: _ :: _,[],h => cases h.eq_nil
  | _ :: _ :: _,[b],h => cases List.perm_singleton.mp h
  | a :: a' :: as',b :: b' :: bs',_ => exact .inr (.inr ⟨a,a',as',b,b',bs',rfl,rfl⟩)

theorem singleUnit_congr
    (h : (units.filterMap (valueOf unit)).Perm (units'.filterMap (valueOf unit))) :
    singleUnit units unit = singleUnit units' unit := by
  unfold valueOf UnitKind.mark at h
  unfold singleUnit
  rcases perm_cases h with ⟨hu,hu'⟩ | ⟨v,hu,hu'⟩ | ⟨_,_,_,_,_,_,hu,hu'⟩
  · simp only [hu,hu']
  · simp only [hu,hu']
  · simp only [hu,hu']

/-- Both fail to read, or they hold the same addresses. -/
def SameAddresses : Option (List AltName) → Option (List AltName) → Prop :=
  Option.Rel fun names names' => (AltName.addresses names).Perm (AltName.addresses names')

theorem singleAddress_congr (h : SameAddresses x.altNames? x'.altNames?) :
    singleAddress x = singleAddress x' := by
  unfold singleAddress
  generalize x.altNames? = found at h ⊢
  generalize x'.altNames? = found' at h ⊢
  cases h with
  | none => rfl
  | some h =>
    rcases perm_cases h with ⟨hn,hn'⟩ | ⟨ip,hn,hn'⟩ | ⟨_,_,_,_,_,_,hn,hn'⟩
    · simp only [hn,hn']
    · simp only [hn,hn']
    · simp only [hn,hn']

/-- The certificates hold the same clues to an identity. -/
structure Alike (x x' : Certificate) : Prop where
  commonName : ((x.subject.attributesOf Name.commonName).head?.bind Attribute.text?) =
    (x'.subject.attributesOf Name.commonName).head?.bind Attribute.text?
  units : ∀ unit : UnitKind, (x.readableUnits.filterMap (valueOf unit)).Perm
    (x'.readableUnits.filterMap (valueOf unit))
  altNames : SameAddresses x.altNames? x'.altNames?

theorem identify_congr (hx : Certificate.parse? c.der = some x)
    (hx' : Certificate.parse? c'.der = some x') (h : Alike x x') : identify c = identify c' := by
  have hid : instanceId? x.subject = instanceId? x'.subject := by
    unfold instanceId?
    rw [h.commonName]
  have hunit : ∀ unit, singleUnit x.readableUnits unit = singleUnit x'.readableUnits unit :=
    fun unit => singleUnit_congr (h.units unit)
  have haddress := singleAddress_congr h.altNames
  unfold Certificate.readableUnits at hunit
  unfold identify
  rw [parse_ok_iff.mpr hx,parse_ok_iff.mpr hx']
  simp only [bind,Except.bind,hid,hunit,haddress]

/-! ## Errors -/

theorem stage_of_singleUnit {f : Fault} (h : singleUnit units unit = .error f) :
    f.stage = .identity := by
  simp only [singleUnit] at h
  split at h
  · cases h
    rfl
  · split at h <;> cases h
    rfl
  · cases h
    rfl

theorem stage_of_singleAddress {f : Fault} (h : singleAddress x = .error f) :
    f.stage = .identity := by
  unfold singleAddress at h
  split at h
  · cases h
    rfl
  · split at h
    · cases h
      rfl
    · cases h
    · cases h
      rfl

/-- A certificate that reads and yet names nobody is refused for its identity. -/
theorem stage_of_identify {f : Fault} (hx : Certificate.parse? c.der = some x)
    (h : identify c = .error f) : f.stage = .identity := by
  unfold identify at h
  rw [bind_error_iff] at h
  rcases h with hparse | ⟨x',-,h⟩
  · cases (parse_ok_iff.mpr hx).symm.trans hparse
  split at h
  · cases h
    rfl
  simp only [bind_error_iff] at h
  rcases h with horg | ⟨_,-,hspace | ⟨_,-,happ | ⟨_,-,haddress | ⟨_,-,hend⟩⟩⟩⟩
  · exact stage_of_singleUnit horg
  · exact stage_of_singleUnit hspace
  · exact stage_of_singleUnit happ
  · exact stage_of_singleAddress haddress
  · cases hend

/-- From a certificate that reads, an identity is read exactly when the first common name is text
and not empty, each of the three marks starts one readable unit and is followed by something, and
one of the alternative names is an address. The identity is made of these, with nothing empty; any
failure is one of identity; and certificates that are alike in these clues are read alike. -/
theorem identity_read_exactly :
    (∀ c x identity, Certificate.parse? c.der = some x →
      (verifier.identify c = .ok identity ↔
        (identity.instanceId ≠ "" ∧
          ∃ a, (x.subject.attributesOf Name.commonName).head? = some a ∧
            a.text? = some identity.instanceId) ∧
        SoleUnit x.readableUnits .organization identity.orgId ∧
        SoleUnit x.readableUnits .space identity.spaceId ∧
        SoleUnit x.readableUnits .app identity.appId ∧
        ∃ names ip, x.altNames? = some names ∧ SoleAddress names ip ∧
          identity.ipAddress = ip.render)) ∧
    (∀ c identity, verifier.identify c = .ok identity → Complete identity) ∧
    (∀ c x f, Certificate.parse? c.der = some x → verifier.identify c = .error f →
      f.stage = .identity) ∧
    (∀ c c' x x', Certificate.parse? c.der = some x → Certificate.parse? c'.der = some x' →
      Alike x x' → verifier.identify c = verifier.identify c') := by
  refine ⟨?_,?_,?_,?_⟩
  · intro c x identity hx
    rw [verifierWith_identify,mapError_ok_iff,identify_ok_iff]
    simp only [← addresses_eq_singleton_iff]
    constructor
    · rintro ⟨x',hx',h⟩
      obtain rfl : x = x' := Option.some.inj (hx.symm.trans hx')
      exact ⟨⟨h.instanceId_ne,h.instanceId⟩,h.orgId,h.spaceId,h.appId,h.ipAddress⟩
    · rintro ⟨⟨hne,hid⟩,horg,hspace,happ,haddress⟩
      exact ⟨x,hx,hne,hid,horg,hspace,happ,haddress⟩
  · intro c identity h
    rw [verifierWith_identify,mapError_ok_iff] at h
    exact complete_of_identify_ok h
  · intro c x f hx h
    rw [verifierWith_identify,mapError_error_iff] at h
    obtain ⟨e,he,rfl⟩ := h
    exact stage_of_identify hx he
  · intro c c' x x' hx hx' halike
    rw [verifierWith_identify,verifierWith_identify,identify_congr hx hx' halike]

/-! ## Two certificates of one instance -/

/-- A value in its encoding, when it has no more than 255 octets. -/
def encoded (tag : UInt8) (contents : Bytes) : Bytes :=
  if contents.length < 128 then tag :: contents.length.toUInt8 :: contents
  else tag :: 0x81 :: contents.length.toUInt8 :: contents

def encodedAttribute (oid : Bytes) (text : String) : Bytes :=
  encoded 0x31 (encoded 0x30 (encoded 6 oid ++ encoded 0x0c (Bytes.ofText text)))

/-- A certificate of little more than a subject and alternative names. -/
def sampleCertificate (attributes : List (Bytes × String)) (altNames : List Bytes) :
    InstanceCertificate :=
  let algorithm := encoded 0x30 (encoded 6 [0x2a])
  let bits := encoded 3 [0]
  let epoch := encoded 0x17 (Bytes.ofText "700101000000Z")
  let subject := encoded 0x30 (attributes.flatMap fun a => encodedAttribute a.1 a.2)
  let names := encoded 0x30
    (encoded 6 [0x55,0x1d,0x11] ++ encoded 4 (encoded 0x30 altNames.flatten))
  let body := encoded 0xa0 (encoded 2 [2]) ++ encoded 2 [1] ++ algorithm ++ encoded 0x30 [] ++
    encoded 0x30 (epoch ++ epoch) ++ subject ++ encoded 0x30 (algorithm ++ bits) ++
    encoded 0xa3 (encoded 0x30 names)
  ⟨encoded 0x30 (encoded 0x30 body ++ algorithm ++ bits)⟩

def sampleLeaf : InstanceCertificate :=
  sampleCertificate [(Name.commonName,"i"),(Name.organizationalUnit,"organization:o"),
    (Name.organizationalUnit,"space:s"),(Name.organizationalUnit,"app:a")]
    [encoded 0x87 [10,0,0,1]]

/-- The same clues in another order, between others that tell nothing. -/
def mixedLeaf : InstanceCertificate :=
  sampleCertificate [(Name.organizationalUnit,"app:a"),(Name.commonName,"i"),
    (Name.organizationalUnit,"team"),(Name.organizationalUnit,"space:s"),(Name.commonName,"j"),
    (Name.organizationalUnit,"organization:o")]
    [encoded 0x82 (Bytes.ofText "host"),encoded 0x87 [1],encoded 0x87 [10,0,0,1]]

theorem identity_read_exactly_sample :
    ∃ x x', Certificate.parse? sampleLeaf.der = some x ∧
      Certificate.parse? mixedLeaf.der = some x' ∧ Alike x x' ∧
      verifier.identify sampleLeaf = .ok ⟨"i","o","s","a","10.0.0.1"⟩ ∧
      verifier.identify mixedLeaf = .ok ⟨"i","o","s","a","10.0.0.1"⟩ ∧
      SoleUnit x'.readableUnits .space "s" := by
  obtain ⟨hexact,-,-,halike⟩ := identity_read_exactly
  have hx : (Certificate.parse? sampleLeaf.der).isSome = true := by decide +kernel
  have hx' : (Certificate.parse? mixedLeaf.der).isSome = true := by decide +kernel
  have hsame : Alike ((Certificate.parse? sampleLeaf.der).get hx)
      ((Certificate.parse? mixedLeaf.der).get hx') := by
    have hnames : ((Certificate.parse? sampleLeaf.der).get hx).altNames? =
        some [.ip [10,0,0,1]] := by decide +kernel +revert
    have hnames' : ((Certificate.parse? mixedLeaf.der).get hx').altNames? =
        some [.other,.ip [1],.ip [10,0,0,1]] := by decide +kernel +revert
    refine ⟨by decide +kernel +revert,?_,?_⟩
    · intro unit
      cases unit <;> decide +kernel +revert
    · rw [hnames,hnames']
      exact .some (by decide +kernel +revert)
  have hok : verifier.identify sampleLeaf = .ok ⟨"i","o","s","a","10.0.0.1"⟩ := by
    rw [verifierWith_identify]
    decide +kernel
  have hparse := (Option.some_get hx).symm
  have hparse' := (Option.some_get hx').symm
  have hok' := (halike _ _ _ _ hparse hparse' hsame).symm.trans hok
  obtain ⟨-,-,hspace,-⟩ := (hexact _ _ _ hparse').mp hok'
  exact ⟨_,_,hparse,hparse',hsame,hok,hok',hspace⟩

end WorkloadLogin.X509
