import WorkloadLogin.Proofs.Service.Admission
import WorkloadLogin.Proofs.X509.Chain
import WorkloadLogin.Proofs.X509.Subject

/-! # What a verified login is founded on

The four steps of the verifier look at the bundle separately. Together they speak of one leaf: it
signed the request, the CA certificate beside it in the bundle issued it, a configured root vouches
for that one, and the identity is read from nothing else.
-/
namespace WorkloadLogin.X509
open Service
variable {signed : SignatureCheck} {config : Config} {request : LoginRequest} {signedAt : Instant}
  {now : Timestamp} {certs : InstanceCertificates} {signing : InstanceCertificate}
  {identity : Identity}

/-- The foundation of a verified login: the leaf and the CA certificate of the bundle, and how they
are tied to the signature, the configured roots and the identity. -/
structure Founded (signed : SignatureCheck) (caTexts : List String) (signature : String)
    (data : SignatureData) (now : Int) (certs : InstanceCertificates) (identity : Identity)
    (leaf ca : Certificate) : Prop where
  pair : InstancePair data.bundle certs leaf ca
  signature : ∃ octets, decodeSignature signature = .ok octets ∧
    Signs leaf.key data.message octets ∧
    (Blocks data.bundle [certs.intermediate,certs.identity] →
      ¬ Signs ca.key data.message octets)
  leaf_valid : ValidAt leaf now
  ca_valid : ValidAt ca now
  issued : Issued signed ca leaf
  readable : ∀ text ∈ caTexts, ∃ cs, Blocks text cs
  anchored : ∃ root, Configured caTexts root ∧ Vouches signed root certs.intermediate ca now
  names : Names leaf identity

theorem Blocks.unique {text : String} {as bs : List InstanceCertificate} (ha : Blocks text as)
    (hb : Blocks text bs) : as = bs := by
  have h := pemCertificates_ok_iff.mpr ha
  rw [pemCertificates_ok_iff.mpr hb] at h
  cases h
  rfl

/-- Of the two certificates of a bundle the leaf is the signer exactly when it signed the text and
the CA certificate, standing first, did not. -/
theorem InstancePair.signer_iff {data : SignatureData} {leaf ca : Certificate}
    (h : InstancePair data.bundle certs leaf ca) (signature : String) :
    checkSignature signature data = .ok certs.identity ↔
      ∃ octets, decodeSignature signature = .ok octets ∧ Signs leaf.key data.message octets ∧
        (Blocks data.bundle [certs.intermediate,certs.identity] →
          ¬ Signs ca.key data.message octets) := by
  have hleaf : ∀ octets, Signed certs.identity data.message octets ↔
      Signs leaf.key data.message octets := by
    intro octets
    simp [Signed, h.identity]
  have hca : ∀ octets, Signed certs.intermediate data.message octets ↔
      Signs ca.key data.message octets := by
    intro octets
    simp [Signed, h.intermediate]
  rw [checkSignature_ok_iff]
  constructor
  · rintro ⟨octets,_,hd,hblocks,before,after,rfl,hs,hbefore⟩
    refine ⟨octets,hd,(hleaf octets).mp hs,fun hfirst => ?_⟩
    have heq := hblocks.unique hfirst
    rw [← hca]
    cases before with
    | nil => exact absurd (List.cons.inj heq).1.symm h.ne
    | cons b rest =>
      rw [← (List.cons.inj heq).1]
      exact hbefore b (List.mem_cons_self ..)
  · rintro ⟨octets,hd,hs,hfirst⟩
    rcases h.blocks with hb | hb
    · refine ⟨octets,_,hd,hb,[certs.intermediate],[],rfl,(hleaf octets).mpr hs,?_⟩
      intro b hmem
      cases List.mem_singleton.mp hmem
      exact fun hc => hfirst hb ((hca octets).mp hc)
    · exact ⟨octets,_,hd,hb,[],_,rfl,(hleaf octets).mpr hs,by simp⟩

theorem verifierWith_extract (bundle : String) :
    (verifierWith signed).extract bundle = (extract bundle).mapError Fault.toVerifierFault := by
  rw [verifierWith]

theorem verifierWith_checkSignature (signature : String) (data : SignatureData) :
    (verifierWith signed).checkSignature signature data =
      (checkSignature signature data).mapError Fault.toVerifierFault := by
  rw [verifierWith]

theorem verifierWith_checkChain (caTexts : List String) (certs : InstanceCertificates)
    (signing : InstanceCertificate) (now : Timestamp) :
    (verifierWith signed).checkChain caTexts certs signing now =
      (checkChainWith signed caTexts certs signing now).mapError Fault.toVerifierFault := by
  rw [verifierWith]

theorem verifierWith_identify (c : InstanceCertificate) :
    (verifierWith signed).identify c = (identify c).mapError Fault.toVerifierFault := by
  rw [verifierWith]

/-- The steps accept exactly the logins that are founded, and the certificate they agree on is the
leaf of the bundle. -/
theorem steps_iff_founded {caTexts : List String} {signature : String} {data : SignatureData} :
    (extract data.bundle = .ok certs ∧ checkSignature signature data = .ok signing ∧
      checkChainWith signed caTexts certs signing now = .ok () ∧ identify signing = .ok identity) ↔
      signing = certs.identity ∧ ∃ leaf ca,
        Founded signed caTexts signature data now.instant.seconds certs identity leaf ca := by
  rw [extract_ok_iff, checkChainWith_ok_iff, identify_ok_iff]
  constructor
  · rintro ⟨⟨leaf,ca,hpair⟩,hs,⟨rfl,leaf',ca',hc⟩,x,hx,hn⟩
    obtain rfl : leaf = leaf' := Option.some.inj (hpair.identity.symm.trans hc.identity)
    obtain rfl : ca = ca' := Option.some.inj (hpair.intermediate.symm.trans hc.intermediate)
    obtain rfl : leaf = x := Option.some.inj (hpair.identity.symm.trans hx)
    exact ⟨rfl,leaf,ca,hpair,(hpair.signer_iff signature).mp hs,hc.leaf_valid,hc.ca_valid,hc.issued,
      hc.readable,hc.anchored,hn⟩
  · rintro ⟨rfl,leaf,ca,hf⟩
    exact ⟨⟨leaf,ca,hf.pair⟩,(hf.pair.signer_iff signature).mpr hf.signature,⟨rfl,leaf,ca,
      hf.pair.identity,hf.pair.intermediate,hf.leaf_valid,hf.ca_valid,hf.issued,hf.readable,
      hf.anchored⟩,leaf,hf.pair.identity,hf.names⟩

/-- What the X.509 verifier accepts, over the four steps as a login takes them and whatever checks
the signatures of certificates. -/
theorem verified_iff_founded (signed : SignatureCheck) (config : Config) (request : LoginRequest)
    (signedAt : Instant) (now : Timestamp) (certs : InstanceCertificates)
    (signing : InstanceCertificate) (identity : Identity) :
    Verified (verifierWith signed) config request signedAt now certs signing identity ↔
      signing = certs.identity ∧ ∃ leaf ca,
        Founded signed config.identityCaCertificates request.signature
          ⟨signedAt,request.bundle,request.role⟩ now.instant.seconds certs identity leaf ca := by
  rw [← steps_iff_founded, verified_iff, verifierWith_extract, verifierWith_checkSignature,
    verifierWith_checkChain, verifierWith_identify, mapError_ok_iff, mapError_ok_iff,
    mapError_ok_iff, mapError_ok_iff]

end WorkloadLogin.X509
