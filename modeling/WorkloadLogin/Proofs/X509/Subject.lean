import WorkloadLogin.Proofs.X509.Extraction

/-! # The identity that a certificate names

Each of the five fields is read from the one certificate: the instance from its first common name,
three identifiers from the units that carry their marks, each of which occurs once, and the address
from the one address among its alternative names.
-/
namespace WorkloadLogin.X509
variable {units : List String} {unit : UnitKind}

/-- What the unit that carries an identifier starts with. -/
def UnitKind.mark (unit : UnitKind) : String := unit.name ++ ":"

/-- The value follows the mark of one unit, and no other unit has that mark. -/
structure SoleUnit (units : List String) (unit : UnitKind) (value : String) : Prop where
  value_ne : value ≠ ""
  sole : ∃ before after, units = before ++ (unit.mark ++ value) :: after ∧
    ∀ u ∈ before ++ after, ¬ unit.mark.toList <+: u.toList

/-- The value that a unit gives, if it has the mark. -/
def valueOf (unit : UnitKind) (u : String) : Option String :=
  if unit.mark.toList.isPrefixOf u.toList then
    some (String.ofList (u.toList.drop unit.mark.toList.length))
  else none

theorem valueOf_eq_some_iff {u v : String} : valueOf unit u = some v ↔ u = unit.mark ++ v := by
  unfold valueOf
  split
  · rename_i h
    obtain ⟨rest,hrest⟩ := List.isPrefixOf_iff_prefix.mp h
    rw [← hrest, List.drop_left, Option.some.injEq, ← String.toList_inj, ← String.toList_inj,
      String.toList_append, ← hrest, String.toList_ofList]
    simp
  · rename_i h
    simp only [reduceCtorEq, false_iff]
    rintro rfl
    exact h (List.isPrefixOf_iff_prefix.mpr ⟨v.toList,by simp⟩)

theorem valueOf_eq_none_iff {u : String} :
    valueOf unit u = none ↔ ¬ unit.mark.toList <+: u.toList := by
  unfold valueOf
  rw [← List.isPrefixOf_iff_prefix]
  split <;> simp_all

theorem singleUnit_ok_iff {value : String} :
    singleUnit units unit = .ok value ↔ SoleUnit units unit value := by
  have hvalues : (units.filterMap (valueOf unit) = [value]) ↔
      ∃ before after, units = before ++ (unit.mark ++ value) :: after ∧
        ∀ u ∈ before ++ after, ¬ unit.mark.toList <+: u.toList := by
    simp only [List.filterMap_eq_cons_iff, List.filterMap_eq_nil_iff, valueOf_eq_some_iff,
      valueOf_eq_none_iff, List.mem_append]
    constructor
    · rintro ⟨before,_,after,rfl,hb,rfl,ha⟩
      exact ⟨before,after,rfl,fun u hu => hu.elim (hb u) (ha u)⟩
    · rintro ⟨before,after,rfl,h⟩
      exact ⟨before,_,after,rfl,fun u hu => h u (.inl hu),rfl,fun u hu => h u (.inr hu)⟩
  simp only [singleUnit]
  constructor
  · intro h
    split at h
    · cases h
    · rename_i v hv
      split at h
      · cases h
      · rename_i hne
        cases h
        exact ⟨by simpa using hne,hvalues.mp hv⟩
    · cases h
  · rintro ⟨hne,h⟩
    have hone := hvalues.mpr h
    split
    · rename_i hnone
      cases hone.symm.trans hnone
    · rename_i v hv
      cases hone.symm.trans hv
      simp [hne]
    · rename_i hmany
      exact absurd hone (hmany value)

theorem singleAddress_ok_iff {c : Certificate} {ip : Ip} :
    singleAddress c = .ok ip ↔
      ∃ names, c.altNames? = some names ∧ AltName.addresses names = [ip] := by
  unfold singleAddress
  cases c.altNames? with
  | none => simp
  | some names =>
    simp only [Option.some.injEq, exists_eq_left']
    split <;> simp_all

theorem instanceId?_eq_some_iff {subject : Name} {id : String} :
    instanceId? subject = some id ↔ id ≠ "" ∧
      ∃ a, (subject.attributesOf Name.commonName).head? = some a ∧ a.text? = some id := by
  simp [instanceId?, Option.filter_eq_some_iff, Option.bind_eq_some_iff, and_comm]

/-- The readable organizational units of a certificate, in order. -/
def Certificate.readableUnits (c : Certificate) : List String :=
  (c.subject.attributesOf Name.organizationalUnit).filterMap Attribute.text?

/-- The certificate names the identity, and no field of it is empty or comes from elsewhere. -/
structure Names (c : Certificate) (identity : Identity) : Prop where
  instanceId_ne : identity.instanceId ≠ ""
  instanceId : ∃ a, (c.subject.attributesOf Name.commonName).head? = some a ∧
    a.text? = some identity.instanceId
  orgId : SoleUnit c.readableUnits .organization identity.orgId
  spaceId : SoleUnit c.readableUnits .space identity.spaceId
  appId : SoleUnit c.readableUnits .app identity.appId
  ipAddress : ∃ names ip, c.altNames? = some names ∧ AltName.addresses names = [ip] ∧
    identity.ipAddress = ip.render

theorem identify_ok_iff {c : InstanceCertificate} {identity : Identity} :
    identify c = .ok identity ↔
      ∃ x, Certificate.parse? c.der = some x ∧ Names x identity := by
  unfold identify
  rw [bind_ok_iff]
  simp only [parse_ok_iff]
  refine exists_congr fun x => and_congr_right fun _ => ?_
  constructor
  · intro h
    split at h
    · cases h
    · rename_i id hid
      obtain ⟨hne,hcn⟩ := instanceId?_eq_some_iff.mp hid
      simp only [bind_ok_iff, singleUnit_ok_iff, singleAddress_ok_iff] at h
      obtain ⟨org,ho,space,hs,app,ha,ip,⟨names,hn,hip⟩,hend⟩ := h
      cases hend
      exact ⟨hne,hcn,ho,hs,ha,names,ip,hn,hip,rfl⟩
  · intro h
    obtain ⟨names,ip,hn,hip,hrender⟩ := h.ipAddress
    rw [instanceId?_eq_some_iff.mpr ⟨h.instanceId_ne,h.instanceId⟩]
    simp only [bind_ok_iff, singleUnit_ok_iff, singleAddress_ok_iff]
    refine ⟨_,h.orgId,_,h.spaceId,_,h.appId,ip,⟨names,hn,hip⟩,?_⟩
    rw [← hrender]
    rfl

/-! ## Nothing is left empty -/

theorem render_ne_empty (ip : Ip) : ip.render ≠ "" := by
  intro h
  have hlist := congrArg String.toList h
  cases ip with
  | v4 a => simp [Ip.render, Ipv4.render] at hlist
  | v6 a =>
    simp only [Ip.render, String.toList_ofList, Ipv6.render] at hlist
    split at hlist
    · simp at hlist
    · split at hlist
      · simp at hlist
      · simp [Ipv6.renderGroups, Ipv6.groups, List.range_succ] at hlist

/-- No field of the identity is empty. -/
structure Complete (identity : Identity) : Prop where
  instanceId : identity.instanceId ≠ ""
  orgId : identity.orgId ≠ ""
  spaceId : identity.spaceId ≠ ""
  appId : identity.appId ≠ ""
  ipAddress : identity.ipAddress ≠ ""

theorem Names.complete {c : Certificate} {identity : Identity} (h : Names c identity) :
    Complete identity where
  instanceId := h.instanceId_ne
  orgId := h.orgId.value_ne
  spaceId := h.spaceId.value_ne
  appId := h.appId.value_ne
  ipAddress := by
    obtain ⟨_,ip,-,-,hrender⟩ := h.ipAddress
    exact hrender ▸ render_ne_empty ip

theorem complete_of_identify_ok {c : InstanceCertificate} {identity : Identity}
    (h : identify c = .ok identity) : Complete identity := by
  obtain ⟨_,-,hnames⟩ := identify_ok_iff.mp h
  exact hnames.complete

end WorkloadLogin.X509
