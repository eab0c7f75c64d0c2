import WorkloadLogin.Proofs.Gates
import WorkloadLogin.X509.Verifier

/-! # The pair of a bundle and its signer

A bundle that is taken holds a CA certificate and a leaf, in either order, and no third
certificate. A login signature is attributed to the first certificate of the bundle whose key
verifies it.
-/
namespace WorkloadLogin.X509
variable {bundle text : String} {certs : InstanceCertificates} {c : InstanceCertificate}

/-- The certificate blocks of a text, in order, have these contents. -/
def Blocks (text : String) (cs : List InstanceCertificate) : Prop :=
  ∃ blocks, Pem.parse text = .ok blocks ∧
    (blocks.filter fun b => b.tag == "CERTIFICATE").map (fun b => ⟨b.contents⟩) = cs

theorem pemCertificates_ok_iff {cs : List InstanceCertificate} :
    pemCertificates text = .ok cs ↔ Blocks text cs := by
  unfold pemCertificates Blocks
  cases Pem.parse text <;> simp

theorem parse_ok_iff {x : Certificate} :
    parse c = .ok x ↔ Certificate.parse? c.der = some x := by
  unfold parse
  cases Certificate.parse? c.der <;> simp

/-- The two certificates of a bundle, read as a leaf and the certificate of a CA. -/
structure InstancePair (bundle : String) (certs : InstanceCertificates) (leaf ca : Certificate) :
    Prop where
  blocks : Blocks bundle [certs.intermediate,certs.identity] ∨
    Blocks bundle [certs.identity,certs.intermediate]
  identity : Certificate.parse? certs.identity.der = some leaf
  intermediate : Certificate.parse? certs.intermediate.der = some ca
  leaf_not_ca : leaf.isCa = false
  ca_is_ca : ca.isCa = true

theorem InstancePair.ne {leaf ca : Certificate} (h : InstancePair bundle certs leaf ca) :
    certs.intermediate ≠ certs.identity := by
  intro he
  have hsame : leaf = ca := by simpa [h.identity, he] using h.intermediate
  exact absurd (hsame ▸ h.leaf_not_ca) (by simp [h.ca_is_ca])

/-- The pair that two certificates make. -/
def pairOf (first second : InstanceCertificate) (firstIsCa secondIsCa : Bool) :
    Except Fault InstanceCertificates :=
  match firstIsCa, secondIsCa with
  | true, false => .ok ⟨first,second⟩
  | false, true => .ok ⟨second,first⟩
  | _, _ => .error .notPair

theorem pairOf_ok_iff {first second : InstanceCertificate} {a b : Bool} :
    pairOf first second a b = .ok certs ↔
      (a = true ∧ b = false ∧ certs = ⟨first,second⟩) ∨
      (a = false ∧ b = true ∧ certs = ⟨second,first⟩) := by
  cases a <;> cases b <;> simp [pairOf, eq_comm]

theorem extract_two {first second : InstanceCertificate}
    (h : pemCertificates bundle = .ok [first,second]) :
    extract bundle = (do
      let a ← parse first
      let b ← parse second
      pairOf first second a.isCa b.isCa) := by
  unfold extract
  rw [h]
  rfl

theorem extract_two_ok_iff {first second : InstanceCertificate}
    (h : pemCertificates bundle = .ok [first,second]) :
    extract bundle = .ok certs ↔
      ∃ a b, Certificate.parse? first.der = some a ∧ Certificate.parse? second.der = some b ∧
        pairOf first second a.isCa b.isCa = .ok certs := by
  rw [extract_two h]
  simp only [bind_ok_iff, parse_ok_iff, exists_and_left]

theorem exists_two_of_extract_ok (h : extract bundle = .ok certs) :
    ∃ first second, pemCertificates bundle = .ok [first,second] := by
  unfold extract at h
  split at h
  · cases h
  · exact ⟨_,_,‹_›⟩
  · cases h

theorem extract_ok_iff :
    extract bundle = .ok certs ↔ ∃ leaf ca, InstancePair bundle certs leaf ca := by
  constructor
  · intro h
    obtain ⟨first,second,htwo⟩ := exists_two_of_extract_ok h
    obtain ⟨a,b,ha,hb,hpair⟩ := (extract_two_ok_iff htwo).mp h
    rcases pairOf_ok_iff.mp hpair with ⟨hca,hleaf,rfl⟩ | ⟨hleaf,hca,rfl⟩
    · exact ⟨b,a,.inl (pemCertificates_ok_iff.mp htwo),hb,ha,hleaf,hca⟩
    · exact ⟨a,b,.inr (pemCertificates_ok_iff.mp htwo),ha,hb,hleaf,hca⟩
  · rintro ⟨leaf,ca,h⟩
    rcases h.blocks with htwo | htwo
    · rw [extract_two_ok_iff (pemCertificates_ok_iff.mpr htwo)]
      exact ⟨ca,leaf,h.intermediate,h.identity,
        pairOf_ok_iff.mpr (.inl ⟨h.ca_is_ca,h.leaf_not_ca,rfl⟩)⟩
    · rw [extract_two_ok_iff (pemCertificates_ok_iff.mpr htwo)]
      exact ⟨leaf,ca,h.identity,h.intermediate,
        pairOf_ok_iff.mpr (.inr ⟨h.leaf_not_ca,h.ca_is_ca,rfl⟩)⟩

/-! ## The signer -/

/-- The RSA key of a certificate verifies a signature over a text, with one of the salt lengths. -/
def Signs (key : PublicKeyInfo) (message : String) (signature : Bytes) : Prop :=
  ∃ k, loginKey? key.encoded = some k ∧
    ∃ salt ∈ saltLengths k,
      Rsa.verifyPss k salt (Sha256.hash (Bytes.ofText message)) signature = true

/-- The certificate reads, and its key verifies the signature. -/
def Signed (c : InstanceCertificate) (message : String) (signature : Bytes) : Prop :=
  ∃ x, Certificate.parse? c.der = some x ∧ Signs x.key message signature

theorem signs_iff {message : String} {signature : Bytes} :
    ((signingKey? c).any fun k => signsLogin k (Sha256.hash (Bytes.ofText message)) signature) =
      true ↔ Signed c message signature := by
  unfold signingKey? Signed Signs
  cases Certificate.parse? c.der with
  | none => simp
  | some x => simp [Option.any_eq_true, signsLogin, List.any_eq_true]

theorem checkSignature_ok_iff {signature : String} {data : SignatureData} :
    checkSignature signature data = .ok c ↔
      ∃ octets cs, decodeSignature signature = .ok octets ∧ Blocks data.bundle cs ∧
        ∃ before after, cs = before ++ c :: after ∧ Signed c data.message octets ∧
          ∀ b ∈ before, ¬ Signed b data.message octets := by
  simp only [← pemCertificates_ok_iff, ← signs_iff]
  unfold checkSignature
  cases decodeSignature signature with
  | error e => simp [bind, Except.bind]
  | ok octets =>
    cases pemCertificates data.bundle with
    | error e => simp [bind, Except.bind]
    | ok cs =>
      simp only [bind, Except.bind]
      constructor
      · intro h
        split at h
        · rename_i signer hfind
          cases h
          obtain ⟨hs,before,after,rfl,hb⟩ := List.find?_eq_some_iff_append.mp hfind
          exact ⟨octets,_,rfl,rfl,before,after,rfl,hs,fun b hm => by simpa using hb b hm⟩
        · cases h
      · rintro ⟨_,_,⟨⟩,⟨⟩,before,after,rfl,hs,hb⟩
        have hfind : (before ++ c :: after).find? (fun x => (signingKey? x).any fun k =>
            signsLogin k (Sha256.hash (Bytes.ofText data.message)) octets) = some c :=
          List.find?_eq_some_iff_append.mpr
            ⟨hs,before,after,rfl,fun b hm => by simpa using hb b hm⟩
        rw [hfind]

end WorkloadLogin.X509
