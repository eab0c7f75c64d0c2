import Mathlib.Data.List.Permutation
import WorkloadLogin.Proofs.Encoding.Pem
import WorkloadLogin.Proofs.X509.Clues

/-! # Which bundles hold a pair

A bundle is taken exactly when two of its blocks are certificates, both read, and one of them alone
is marked as a CA's. Neither the order of the two nor what stands around them counts, so bundles of
the same two certificates give the same pair. Every other bundle is malformed.
-/
namespace WorkloadLogin.X509
open Text
variable {bundle bundle' : String} {blocks blocks' : List Pem.Block} {certs : InstanceCertificates}
  {first : InstanceCertificate} {x : Certificate}

/-- What the certificate blocks hold, in order. -/
def certificatesOf (blocks : List Pem.Block) : List InstanceCertificate :=
  (blocks.filter fun b => b.tag == "CERTIFICATE").map fun b => ⟨b.contents⟩

theorem blocks_iff (h : Pem.parse bundle = .ok blocks) {cs : List InstanceCertificate} :
    Blocks bundle cs ↔ certificatesOf blocks = cs := by
  constructor
  · rintro ⟨blocks',h',rfl⟩
    cases h.symm.trans h'
    rfl
  · intro hcs
    exact ⟨blocks,h,hcs⟩

/-- The certificate has a basic constraints extension that reads and says that it is a CA's. With a
second such extension it has none that could be read. -/
def MarkedCa (x : Certificate) : Prop :=
  ∃ e, x.extensionsOf Extension.basicConstraints = [e] ∧ BasicConstraints.marksCa e.value = true

theorem isCa_iff : x.isCa = true ↔ MarkedCa x := by
  unfold Certificate.isCa MarkedCa
  split
  · rename_i e he
    constructor
    · exact fun h => ⟨e,he,h⟩
    · rintro ⟨e',he',h⟩
      cases he.symm.trans he'
      exact h
  · rename_i hmany
    refine iff_of_false nofun ?_
    rintro ⟨e,he,-⟩
    exact hmany e he

theorem not_isCa_iff : x.isCa = false ↔ ¬ MarkedCa x := by
  rw [← isCa_iff, Bool.not_eq_true]

/-- Both certificates read, and the first one alone is marked as a CA's. -/
def CaAndLeaf (ca leaf : InstanceCertificate) : Prop :=
  ∃ x y, Certificate.parse? ca.der = some x ∧ Certificate.parse? leaf.der = some y ∧
    MarkedCa x ∧ ¬ MarkedCa y

theorem extract_ok_iff_perm (h : Pem.parse bundle = .ok blocks) :
    extract bundle = .ok certs ↔
      (certificatesOf blocks).Perm [certs.intermediate,certs.identity] ∧
        CaAndLeaf certs.intermediate certs.identity := by
  rw [extract_ok_iff, List.perm_pair, ← blocks_iff h, ← blocks_iff h]
  constructor
  · rintro ⟨leaf,ca,hpair⟩
    exact ⟨hpair.blocks,ca,leaf,hpair.intermediate,hpair.identity,isCa_iff.mp hpair.ca_is_ca,
      not_isCa_iff.mp hpair.leaf_not_ca⟩
  · rintro ⟨hblocks,ca,leaf,hca,hleaf,hmarked,hunmarked⟩
    exact ⟨leaf,ca,hblocks,hleaf,hca,not_isCa_iff.mpr hunmarked,isCa_iff.mpr hmarked⟩

/-- A list can be put in the order of a pair when it is two certificates, both of which read, and
exactly one of them is marked. -/
theorem exists_pair_iff {cs : List InstanceCertificate} :
    (∃ certs : InstanceCertificates, cs.Perm [certs.intermediate,certs.identity] ∧
      CaAndLeaf certs.intermediate certs.identity) ↔
      ∃ first second x y, cs = [first,second] ∧ Certificate.parse? first.der = some x ∧
        Certificate.parse? second.der = some y ∧ Xor (MarkedCa x) (MarkedCa y) := by
  constructor
  · rintro ⟨certs,hperm,x,y,hx,hy,hmarked,hunmarked⟩
    rcases List.perm_pair.mp hperm with hcs | hcs
    · exact ⟨_,_,x,y,hcs,hx,hy,.inl ⟨hmarked,hunmarked⟩⟩
    · exact ⟨_,_,y,x,hcs,hy,hx,.inr ⟨hmarked,hunmarked⟩⟩
  · rintro ⟨first,second,x,y,rfl,hx,hy,⟨hmarked,hunmarked⟩ | ⟨hmarked,hunmarked⟩⟩
    · exact ⟨⟨first,second⟩,.refl _,x,y,hx,hy,hmarked,hunmarked⟩
    · exact ⟨⟨second,first⟩,.swap ..,y,x,hy,hx,hmarked,hunmarked⟩

/-- Bundles of the same certificates in any order give the same pair. -/
theorem extract_ok_congr (h : Pem.parse bundle = .ok blocks) (h' : Pem.parse bundle' = .ok blocks')
    (hperm : (certificatesOf blocks).Perm (certificatesOf blocks')) :
    extract bundle = .ok certs ↔ extract bundle' = .ok certs := by
  rw [extract_ok_iff_perm h, extract_ok_iff_perm h']
  exact and_congr_left' ⟨hperm.symm.trans,hperm.trans⟩

theorem stage_of_parse {f : Fault} (h : parse first = .error f) : f.stage = .malformed := by
  unfold parse at h
  split at h
  · cases h
  · cases h
    rfl

theorem stage_of_extract {f : Fault} (h : extract bundle = .error f) : f.stage = .malformed := by
  unfold extract at h
  split at h
  · cases h
    rfl
  · simp only [bind_error_iff] at h
    rcases h with hfirst | ⟨x,-,hsecond | ⟨y,-,hpair⟩⟩
    · exact stage_of_parse hfirst
    · exact stage_of_parse hsecond
    · split at hpair
      · cases hpair
      · cases hpair
      · cases hpair
        rfl
  · cases h
    rfl

theorem extract_of_not_pem {bundle : String} {e : Pem.Error} (h : Pem.parse bundle = .error e) :
    extract bundle = .error (.bundle e) := by
  have hnone : pemCertificates bundle = .error e := by rw [pemCertificates, h]
  rw [extract, hnone]

/-- From a bundle that is PEM a pair is taken exactly when its certificate blocks are two that read
and exactly one of them is marked as a CA's; the marked one is the intermediate and the other one
the identity. In another order, and with any other blocks and any text without dashes between them,
the same certificates give the same pair. A bundle that is not PEM gives none, and whatever gives no
pair is malformed. -/
theorem pair_taken_exactly :
    (∀ bundle blocks, Pem.parse bundle = .ok blocks →
      ((∃ certs, verifier.extract bundle = .ok certs) ↔
        ∃ first second x y, certificatesOf blocks = [first,second] ∧
          Certificate.parse? first.der = some x ∧ Certificate.parse? second.der = some y ∧
          Xor (MarkedCa x) (MarkedCa y)) ∧
      ∀ certs, verifier.extract bundle = .ok certs ↔
        (certificatesOf blocks).Perm [certs.intermediate,certs.identity] ∧
          CaAndLeaf certs.intermediate certs.identity) ∧
    (∀ bundle bundle' blocks blocks', Pem.parse bundle = .ok blocks →
      Pem.parse bundle' = .ok blocks' → (certificatesOf blocks).Perm (certificatesOf blocks') →
      ∀ certs, verifier.extract bundle = .ok certs ↔ verifier.extract bundle' = .ok certs) ∧
    (∀ pieces pieces' : List Pem.Piece, (∀ p ∈ pieces, p.Proper) → (∀ p ∈ pieces', p.Proper) →
      (certificatesOf (pieces.filterMap Pem.Piece.block?)).Perm
        (certificatesOf (pieces'.filterMap Pem.Piece.block?)) →
      ∀ certs, verifier.extract (Pem.Piece.write pieces) = .ok certs ↔
        verifier.extract (Pem.Piece.write pieces') = .ok certs) ∧
    (∀ bundle e, Pem.parse bundle = .error e →
      ∃ f, verifier.extract bundle = .error f ∧ f.stage = .malformed) ∧
    ∀ bundle, (∃ certs, verifier.extract bundle = .ok certs) ∨
      ∃ f, verifier.extract bundle = .error f ∧ f.stage = .malformed := by
  have hcongr : ∀ bundle bundle' blocks blocks', Pem.parse bundle = .ok blocks →
      Pem.parse bundle' = .ok blocks' → (certificatesOf blocks).Perm (certificatesOf blocks') →
      ∀ certs, verifier.extract bundle = .ok certs ↔ verifier.extract bundle' = .ok certs := by
    intro bundle bundle' blocks blocks' h h' hperm certs
    rw [verifierWith_extract, verifierWith_extract, mapError_ok_iff, mapError_ok_iff]
    exact extract_ok_congr h h' hperm
  refine ⟨?_,hcongr,?_,?_,?_⟩
  · intro bundle blocks h
    have hexact : ∀ certs, verifier.extract bundle = .ok certs ↔
        (certificatesOf blocks).Perm [certs.intermediate,certs.identity] ∧
          CaAndLeaf certs.intermediate certs.identity := by
      intro certs
      rw [verifierWith_extract, mapError_ok_iff, extract_ok_iff_perm h]
    exact ⟨(exists_congr hexact).trans exists_pair_iff,hexact⟩
  · intro pieces pieces' h h' hperm
    exact hcongr _ _ _ _ (Pem.parse_write h) (Pem.parse_write h') hperm
  · intro bundle e h
    rw [verifierWith_extract, extract_of_not_pem h]
    exact ⟨_,rfl,rfl⟩
  · intro bundle
    rw [verifierWith_extract]
    cases hextract : extract bundle with
    | ok certs => exact .inl ⟨certs,rfl⟩
    | error f => exact .inr ⟨_,rfl,stage_of_extract hextract⟩

/-! ## The same pair in two bundles -/

/-- A certificate without names that was valid for one second, with this key and these extensions,
all encoded. -/
def sparseCertificate (key extensions : Bytes) : InstanceCertificate :=
  let algorithm := encoded 0x30 (encoded 6 [0x2a])
  let epoch := encoded 0x17 (Bytes.ofText "700101000000Z")
  let body := encoded 0xa0 (encoded 2 [2]) ++ encoded 2 [1] ++ algorithm ++ encoded 0x30 [] ++
    encoded 0x30 (epoch ++ epoch) ++ encoded 0x30 [] ++ key ++ extensions
  ⟨encoded 0x30 (encoded 0x30 body ++ algorithm ++ encoded 3 [0])⟩

def sampleCa : InstanceCertificate :=
  sparseCertificate (encoded 0x30 (encoded 0x30 (encoded 6 [0x2a]) ++ encoded 3 [0]))
    (encoded 0xa3 (encoded 0x30 (encoded 0x30 (encoded 6 Extension.basicConstraints ++
      encoded 4 (encoded 0x30 (encoded 1 [0xff]))))))

def certificatePiece (c : InstanceCertificate) : Pem.Piece := .oneLine ⟨"CERTIFICATE",c.der⟩

theorem certificatePiece_proper (c : InstanceCertificate) : (certificatePiece c).Proper :=
  Pem.Piece.proper_oneLine (show "CERTIFICATE".toList ≠ [] by decide)
    (show '-' ∉ "CERTIFICATE".toList by decide)

theorem proper_map_certificatePiece (cs : List InstanceCertificate) :
    ∀ p ∈ cs.map certificatePiece, p.Proper :=
  List.forall_mem_map.mpr fun c _ => certificatePiece_proper c

theorem certificatesOf_map_certificatePiece (cs : List InstanceCertificate) :
    certificatesOf ((cs.map certificatePiece).filterMap Pem.Piece.block?) = cs := by
  induction cs with
  | nil => rfl
  | cons c cs ih => exact congrArg (c :: ·) ih

/-- Certificates are found in the order in which they are written. -/
theorem blocks_write (cs : List InstanceCertificate) :
    Blocks (Pem.Piece.write (cs.map certificatePiece)) cs :=
  (blocks_iff (Pem.parse_write (proper_map_certificatePiece cs))).mpr
    (certificatesOf_map_certificatePiece cs)

/-- A chain with a key in front of its leaf. -/
def caFirst : List Pem.Piece :=
  [certificatePiece sampleCa,.text "chain\n".toList,.oneLine ⟨"PUBLIC KEY",[0]⟩,
    certificatePiece sampleLeaf]

def leafFirst : List Pem.Piece := [sampleLeaf,sampleCa].map certificatePiece

theorem pair_taken_exactly_sample :
    (∀ p ∈ caFirst, p.Proper) ∧ (∀ p ∈ leafFirst, p.Proper) ∧
      verifier.extract (Pem.Piece.write caFirst) = .ok ⟨sampleCa,sampleLeaf⟩ ∧
      verifier.extract (Pem.Piece.write leafFirst) = .ok ⟨sampleCa,sampleLeaf⟩ ∧
      (∃ f, verifier.extract (Pem.Piece.write ([sampleLeaf].map certificatePiece)) = .error f ∧
        f.stage = .malformed) ∧
      ∃ f, verifier.extract "-----BEGIN A----------END B-----" = .error f ∧
        f.stage = .malformed := by
  obtain ⟨hexact,-,hwritten,hrefused,hends⟩ := pair_taken_exactly
  have hbad : Pem.parse "-----BEGIN A----------END B-----" = .error (.mismatched "A" "B") := by
    decide +kernel
  have hkey : (Pem.Piece.oneLine ⟨"PUBLIC KEY",[0]⟩).Proper :=
    Pem.Piece.proper_oneLine (by decide) (by decide)
  have hfirst : ∀ p ∈ caFirst, p.Proper := by
    simp only [caFirst, List.forall_mem_cons]
    exact ⟨certificatePiece_proper _,.text (by decide),hkey,certificatePiece_proper _,nofun⟩
  have hsecond : ∀ p ∈ leafFirst, p.Proper := proper_map_certificatePiece _
  have halone := proper_map_certificatePiece [sampleLeaf]
  have hx : (Certificate.parse? sampleCa.der).isSome = true := by decide +kernel
  have hy : (Certificate.parse? sampleLeaf.der).isSome = true := by decide +kernel
  have hmarked : ((Certificate.parse? sampleCa.der).get hx).isCa = true := by
    decide +kernel +revert
  have hunmarked : ((Certificate.parse? sampleLeaf.der).get hy).isCa = false := by
    decide +kernel +revert
  have hpair : CaAndLeaf sampleCa sampleLeaf :=
    ⟨_,_,(Option.some_get hx).symm,(Option.some_get hy).symm,isCa_iff.mp hmarked,
      not_isCa_iff.mp hunmarked⟩
  have hcerts : certificatesOf (caFirst.filterMap Pem.Piece.block?) = [sampleCa,sampleLeaf] := by
    simp [certificatesOf, caFirst, certificatePiece, Pem.Piece.oneLine, Pem.Piece.block?,
      List.filterMap_cons]
  have hok := ((hexact _ _ (Pem.parse_write hfirst)).2 ⟨sampleCa,sampleLeaf⟩).mpr
    ⟨.of_eq hcerts,hpair⟩
  have hswap : (certificatesOf (caFirst.filterMap Pem.Piece.block?)).Perm
      (certificatesOf (leafFirst.filterMap Pem.Piece.block?)) := by
    rw [hcerts, leafFirst, certificatesOf_map_certificatePiece]
    exact .swap ..
  have hok' := (hwritten _ _ hfirst hsecond hswap _).mp hok
  refine ⟨hfirst,hsecond,hok,hok',(hends _).resolve_left ?_,hrefused _ _ hbad⟩
  rintro ⟨certs,hextract⟩
  obtain ⟨hperm,-⟩ := ((hexact _ _ (Pem.parse_write halone)).2 certs).mp hextract
  rw [certificatesOf_map_certificatePiece] at hperm
  exact absurd hperm.length_eq (by simp)

end WorkloadLogin.X509
