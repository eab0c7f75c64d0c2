import WorkloadLogin.Proofs.X509.Extraction

/-! # Chains to a configured root

The leaf is issued by the certificate of the CA, and this one is a configured root or is issued by
one. All that have to be valid are so at the same second.
-/
namespace WorkloadLogin.X509
variable {signed : SignatureCheck} {caTexts : List String} {certs : InstanceCertificates}
  {signing : InstanceCertificate}

/-- Both ends of the validity are included. -/
def ValidAt (c : Certificate) (now : Int) : Prop :=
  c.validity.notBefore ≤ now ∧ now ≤ c.validity.notAfter

/-- The issuer has the name that the certificate gives, and its key the certificate's signature. -/
def Issued (signed : SignatureCheck) (issuer c : Certificate) : Prop :=
  c.issuer.encoded = issuer.subject.encoded ∧ signed c issuer.key = true

/-- A certificate of one of the configured texts. -/
def Configured (caTexts : List String) (root : InstanceCertificate) : Prop :=
  ∃ text ∈ caTexts, ∃ cs, Blocks text cs ∧ root ∈ cs

/-- The root is the intermediate, or a valid certificate that issued it. -/
def Vouches (signed : SignatureCheck) (root intermediate : InstanceCertificate) (ca : Certificate)
    (now : Int) : Prop :=
  root = intermediate ∨
    ∃ r, Certificate.parse? root.der = some r ∧ ValidAt r now ∧ Issued signed r ca

theorem checkValidity_ok_iff {c : Certificate} {link : Link} {now : Int} {a : Unit} :
    checkValidity c link now = .ok a ↔ ValidAt c now := by
  unfold checkValidity ValidAt
  split
  · simp
    omega
  · split
    · simp
      omega
    · simp
      omega

theorem checkValidity_isOk_iff {c : Certificate} {link : Link} {now : Int} :
    (checkValidity c link now).isOk = true ↔ ValidAt c now := by
  rw [← (checkValidity_ok_iff : checkValidity c link now = .ok () ↔ _)]
  cases checkValidity c link now <;> simp [Except.isOk, Except.toBool]

theorem issuedBy_iff {c issuer : Certificate} :
    c.issuedBy signed issuer = true ↔ Issued signed issuer c := by
  simp [Certificate.issuedBy, Issued]

theorem vouches_iff {root intermediate : InstanceCertificate} {ca : Certificate} {now : Int} :
    vouches signed root intermediate ca now = true ↔ Vouches signed root intermediate ca now := by
  unfold vouches Vouches
  rw [Bool.or_eq_true, beq_iff_eq]
  cases Certificate.parse? root.der with
  | none => simp
  | some r => simp [checkValidity_isOk_iff, issuedBy_iff]

/-! ## The configured roots -/

theorem rootsOf_cons (text : String) (texts : List String) :
    rootsOf (text :: texts) = (do
      let cs ← pemCertificates text
      let rest ← rootsOf texts
      return cs ++ rest) := by
  unfold rootsOf
  rw [List.mapM_cons]
  cases pemCertificates text with
  | error e => rfl
  | ok cs => cases texts.mapM pemCertificates <;> rfl

/-- All texts must be PEM; the roots are then the certificates of all of them. -/
theorem rootsOf_ok_iff {roots : List InstanceCertificate} :
    rootsOf caTexts = .ok roots ↔
      (∀ text ∈ caTexts, ∃ cs, Blocks text cs) ∧
        roots = caTexts.flatMap fun text => (pemCertificates text).toOption.getD [] := by
  simp only [← pemCertificates_ok_iff]
  induction caTexts generalizing roots with
  | nil => simp [rootsOf, pure, Except.pure, Except.map, eq_comm]
  | cons text texts ih =>
    rw [rootsOf_cons]
    cases hcs : pemCertificates text with
    | error e => simp [hcs, bind, Except.bind]
    | ok cs =>
      cases hrest : rootsOf texts with
      | error e =>
        have hno : ¬ ∀ text ∈ texts, ∃ cs, pemCertificates text = .ok cs := by
          intro hall
          have := ih.mpr ⟨hall,rfl⟩
          rw [hrest] at this
          cases this
        simp [bind, Except.bind, hno]
      | ok rest =>
        obtain ⟨hall,rfl⟩ := ih.mp hrest
        simp only [bind, Except.bind, pure, Except.pure, Except.ok.injEq, List.flatMap_cons, hcs]
        constructor
        · rintro rfl
          exact ⟨by simpa [hcs] using hall,rfl⟩
        · rintro ⟨-,rfl⟩
          rfl

theorem mem_roots_iff {roots : List InstanceCertificate} {root : InstanceCertificate}
    (h : rootsOf caTexts = .ok roots) : root ∈ roots ↔ Configured caTexts root := by
  obtain ⟨hall,rfl⟩ := rootsOf_ok_iff.mp h
  unfold Configured
  simp only [List.mem_flatMap, ← pemCertificates_ok_iff]
  refine exists_congr fun text => and_congr_right fun htext => ?_
  cases hcs : pemCertificates text <;> simp [Except.toOption]

/-- What a chain is made of: leaf, certificate of the CA and a root that vouches for it. -/
structure Chained (signed : SignatureCheck) (caTexts : List String) (certs : InstanceCertificates)
    (leaf ca : Certificate) (now : Int) : Prop where
  identity : Certificate.parse? certs.identity.der = some leaf
  intermediate : Certificate.parse? certs.intermediate.der = some ca
  leaf_valid : ValidAt leaf now
  ca_valid : ValidAt ca now
  issued : Issued signed ca leaf
  readable : ∀ text ∈ caTexts, ∃ cs, Blocks text cs
  anchored : ∃ root, Configured caTexts root ∧ Vouches signed root certs.intermediate ca now

theorem checkChainWith_ok_iff {now : Timestamp} :
    checkChainWith signed caTexts certs signing now = .ok () ↔
      signing = certs.identity ∧
        ∃ leaf ca, Chained signed caTexts certs leaf ca now.instant.seconds := by
  have hvouched : ∀ (roots : List InstanceCertificate) (ca : Certificate),
      (¬ (roots.any fun root =>
          vouches signed root certs.intermediate ca now.instant.seconds) = true →
        Except.error Fault.unknownAuthority = Except.ok ()) ↔
      ∃ root ∈ roots, Vouches signed root certs.intermediate ca now.instant.seconds := by
    intro roots ca
    simp [List.any_eq_true, vouches_iff]
  unfold checkChainWith
  rw [refusal_ok_iff, Decidable.not_not]
  refine and_congr_right fun hs => ?_
  cases h : rootsOf caTexts with
  | error e =>
    simp only [reduceCtorEq, false_iff, not_exists]
    intro leaf ca hc
    have := rootsOf_ok_iff.mpr ⟨hc.readable,rfl⟩
    rw [h] at this
    cases this
  | ok roots =>
    simp only [refusal_ok_iff, bind_ok_iff, parse_ok_iff, checkValidity_ok_iff, Bool.not_eq_true',
      ite_eq_left_iff, Bool.not_eq_false, issuedBy_iff, hvouched, exists_const]
    constructor
    · rintro ⟨-,leaf,hleaf,ca,hca,hlv,hcv,hi,root,hmem,hv⟩
      exact ⟨leaf,ca,hleaf,hca,hlv,hcv,hi,(rootsOf_ok_iff.mp h).1,root,
        (mem_roots_iff h).mp hmem,hv⟩
    · rintro ⟨leaf,ca,hc⟩
      obtain ⟨root,hroot,hv⟩ := hc.anchored
      have hmem := (mem_roots_iff h).mpr hroot
      refine ⟨?_,leaf,hc.identity,ca,hc.intermediate,hc.leaf_valid,hc.ca_valid,hc.issued,root,
        hmem,hv⟩
      intro hempty
      simp [List.isEmpty_iff.mp hempty] at hmem

end WorkloadLogin.X509
