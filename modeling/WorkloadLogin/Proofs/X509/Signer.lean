import Mathlib.Data.Rat.Floor
import WorkloadLogin.Proofs.X509.Bundle

/-! # The search for the signer

A login signature belongs to the first certificate of its bundle that has an RSA key and signed it
with one of two salts. Certificates that do not read or have another key are passed over wherever
they stand. Where nobody signed, the signature is at fault; it is malformed only as a text, or
along with a bundle that is not PEM.
-/
namespace WorkloadLogin.X509
open Text
variable {α : Type} {c : InstanceCertificate} {cs : List InstanceCertificate} {k : Rsa.PublicKey}
  {signature message : String} {data : SignatureData} {octets spki : Bytes} {f : Fault}

/-- The first member of a list that has a property. -/
def FirstOf (p : α → Prop) (xs : List α) (x : α) : Prop :=
  ∃ before after, xs = before ++ x :: after ∧ p x ∧ ∀ b ∈ before, ¬ p b

theorem firstOf_iff_find? {p : α → Prop} {q : α → Bool} (h : ∀ x, q x = true ↔ p x) {xs : List α}
    {x : α} : FirstOf p xs x ↔ xs.find? q = some x := by
  simp only [List.find?_eq_some_iff_append, FirstOf, ← h, Bool.not_eq_true', Bool.not_eq_true]
  constructor
  · rintro ⟨before,after,hxs,hx,hbefore⟩
    exact ⟨hx,before,after,hxs,hbefore⟩
  · rintro ⟨hx,before,after,hxs,hbefore⟩
    exact ⟨before,after,hxs,hx,hbefore⟩

/-- Members that lack what the property asks for can be left out. -/
theorem firstOf_filter_iff {p : α → Prop} {q : α → Bool} (hq : ∀ x, p x → q x = true)
    {xs : List α} {x : α} : FirstOf p (xs.filter q) x ↔ FirstOf p xs x := by
  classical
  have hdecide : ∀ y, decide (p y) = true ↔ p y := fun y => decide_eq_true_iff
  have hboth : ∀ y, q y = true ∧ p y ↔ p y := fun y => and_iff_right_of_imp (hq y)
  rw [firstOf_iff_find? hdecide, firstOf_iff_find? hdecide, List.find?_filter]
  simp only [decide_eq_true_eq, hboth]

/-! ## Salts -/

/-- What is left of the octets that hold one bit fewer than the modulus, beside a hash and two
octets more; nothing where these do not fit. -/
def longestSalt (k : Rsa.PublicKey) : Int := max 0 (⌈((k.bits : ℚ) - 1) / 8⌉ - 34)

/-- A modulus is odd and above an odd exponent, which is not one. -/
theorem three_le_bits (h : loginKey? spki = some k) : 3 ≤ k.bits := by
  simp only [loginKey?, Option.bind_eq_bind, Option.bind_eq_some_iff] at h
  obtain ⟨_,-,_,-,_,-,_,-,_,-,h⟩ := h
  split at h
  · cases h
  split at h
  · cases h
  obtain ⟨⟨n,e⟩,-,h⟩ := Option.bind_eq_some_iff.mp h
  obtain ⟨⟨-,hlt,hn,he,htwo,-⟩,hk⟩ := Option.ite_none_right_eq_some.mp h
  cases hk
  have hne : n ≠ 0 := by omega
  have hlog : 2 ≤ n.log2 := (Nat.le_log2 hne).mpr (by omega)
  rw [Rsa.PublicKey.bits, if_neg hne]
  exact Nat.succ_le_succ hlog

theorem ceil_bits (h : 0 < k.bits) : ⌈((k.bits : ℚ) - 1) / 8⌉ = (Rsa.encodedLength k : Int) := by
  refine eq_of_forall_ge_iff fun y => ?_
  have hcast : ((k.bits : ℚ) - 1) / 8 ≤ (y : ℚ) ↔ (k.bits : Int) - 1 ≤ y * 8 := by
    rw [div_le_iff₀ (by norm_num)]
    norm_cast
  rw [Int.ceil_le, hcast, Rsa.encodedLength]
  omega

/-- A key that is accepted has no modulus so small that its salts would fall below nothing. -/
theorem mem_saltLengths_iff (h : loginKey? spki = some k) {n : Nat} :
    n ∈ saltLengths k ↔ (n : Int) = longestSalt k ∨ n = 32 := by
  have hbits : 0 < k.bits := Nat.lt_of_lt_of_le (by decide) (three_le_bits h)
  rw [longestSalt, ceil_bits hbits]
  simp only [saltLengths, List.mem_cons, List.not_mem_nil, or_false]
  omega

/-! ## Signers -/

/-- The certificate reads and has an RSA key, and this key verifies the signature over the hash of
the message, with the longest salt that it leaves room for or with one of the hash's size. -/
def Signer (message : String) (octets : Bytes) (c : InstanceCertificate) : Prop :=
  ∃ x k, Certificate.parse? c.der = some x ∧ loginKey? x.key.encoded = some k ∧
    ∃ salt : Nat, ((salt : Int) = longestSalt k ∨ salt = 32) ∧
      Rsa.verifyPss k salt (Sha256.hash (Bytes.ofText message)) octets = true

theorem signed_iff_signer : Signed c message octets ↔ Signer message octets c := by
  unfold Signed Signs Signer
  refine exists_congr fun x => ?_
  simp only [exists_and_left]
  refine and_congr_right fun _ => exists_congr fun k => and_congr_right fun hk => ?_
  exact exists_congr fun salt => and_congr_left' (mem_saltLengths_iff hk)

/-- What a certificate can sign logins with is a key of its own, if it reads. -/
theorem signingKey?_eq_some_iff : signingKey? c = some k ↔
    ∃ x, Certificate.parse? c.der = some x ∧ loginKey? x.key.encoded = some k :=
  Option.bind_eq_some_iff

theorem Signer.usable (h : Signer message octets c) : (signingKey? c).isSome = true := by
  obtain ⟨x,k,hx,hk,-⟩ := h
  rw [signingKey?_eq_some_iff.mpr ⟨x,hx,hk⟩, Option.isSome_some]

theorem signer_search (hs : decodeSignature signature = .ok octets) (hb : Blocks data.bundle cs) :
    (∃ c, checkSignature signature data = .ok c ∧ FirstOf (Signer data.message octets) cs c) ∨
      checkSignature signature data = .error .unsigned ∧
        ∀ c ∈ cs, ¬ Signer data.message octets c := by
  have hsigner : ∀ c, ((signingKey? c).any fun k =>
      signsLogin k (Sha256.hash (Bytes.ofText data.message)) octets) = true ↔
        Signer data.message octets c := fun c => signs_iff.trans signed_iff_signer
  unfold checkSignature
  rw [hs, pemCertificates_ok_iff.mpr hb]
  simp only [bind, Except.bind]
  split
  · rename_i c hfind
    exact .inl ⟨c,rfl,(firstOf_iff_find? hsigner).mpr hfind⟩
  · rename_i hfind
    refine .inr ⟨rfl,fun c hc hsigned => ?_⟩
    exact List.find?_eq_none.mp hfind c hc ((hsigner c).mpr hsigned)

theorem FirstOf.unique {p : α → Prop} {xs : List α} {x y : α} (hx : FirstOf p xs x)
    (hy : FirstOf p xs y) : x = y := by
  classical
  have hdecide : ∀ z, decide (p z) = true ↔ p z := fun z => decide_eq_true_iff
  rw [firstOf_iff_find? hdecide] at hx hy
  exact Option.some.inj (hx.symm.trans hy)

theorem FirstOf.mem {p : α → Prop} {xs : List α} {x : α} (h : FirstOf p xs x) :
    x ∈ xs ∧ p x := by
  obtain ⟨before,after,rfl,hx,-⟩ := h
  exact ⟨by simp,hx⟩

theorem checkSignature_ok_iff_firstOf (hs : decodeSignature signature = .ok octets)
    (hb : Blocks data.bundle cs) :
    checkSignature signature data = .ok c ↔ FirstOf (Signer data.message octets) cs c := by
  rcases signer_search hs hb with ⟨c',hc',hfirst⟩ | ⟨herror,hnone⟩
  · rw [hc', Except.ok.injEq]
    exact ⟨fun h => h ▸ hfirst,hfirst.unique⟩
  · rw [herror]
    exact ⟨nofun,fun h => absurd h.mem.2 (hnone c h.mem.1)⟩

theorem checkSignature_unsigned_iff (hs : decodeSignature signature = .ok octets)
    (hb : Blocks data.bundle cs) :
    checkSignature signature data = .error .unsigned ↔
      ∀ c ∈ cs, ¬ Signer data.message octets c := by
  rcases signer_search hs hb with ⟨c,hc,hfirst⟩ | ⟨herror,hnone⟩
  · rw [hc]
    exact ⟨nofun,fun h => absurd hfirst.mem.2 (h c hfirst.mem.1)⟩
  · exact iff_of_true herror hnone

/-! ## Faults -/

/-- The trimmed text is the encoding of some octets in one of the alphabets. -/
def Encoded (signature : String) : Prop :=
  ∃ a octets, Base64.decode a (Bytes.utf8 (trimBlank signature.toList)) = .ok octets

theorem decodeSignature_cases (signature : String) :
    (Encoded signature ∧ ∃ octets, decodeSignature signature = .ok octets) ∨
      (¬ Encoded signature ∧ ∃ e, decodeSignature signature = .error (.signatureText e)) := by
  unfold decodeSignature Encoded
  simp only
  split
  · rename_i octets hurl
    exact .inl ⟨⟨_,_,hurl⟩,octets,rfl⟩
  · rename_i hurl
    split
    · rename_i octets hstandard
      exact .inl ⟨⟨_,_,hstandard⟩,octets,rfl⟩
    · rename_i e hstandard
      refine .inr ⟨?_,e,rfl⟩
      rintro ⟨a,octets,h⟩
      cases a with
      | standard => simp [hstandard] at h
      | urlSafe => simp [hurl] at h

/-- A signature is malformed as a text, or along with a bundle that is not PEM; it is otherwise
judged by its signers. -/
theorem checkSignature_malformed_iff :
    (∃ f, checkSignature signature data = .error f ∧ f.stage = .malformed) ↔
      ¬ Encoded signature ∨ ¬ ∃ blocks, Pem.parse data.bundle = .ok blocks := by
  rcases decodeSignature_cases signature with ⟨hencoded,octets,hs⟩ | ⟨hno,e,hs⟩
  · by_cases hpem : ∃ blocks, Pem.parse data.bundle = .ok blocks
    · obtain ⟨blocks,hblocks⟩ := hpem
      refine iff_of_false ?_ (by simp [hencoded, hblocks])
      rintro ⟨f,hf,hstage⟩
      have hsearch := signer_search hs (⟨blocks,hblocks,rfl⟩ : Blocks data.bundle _)
      rcases hsearch with ⟨c,hc,-⟩ | ⟨herror,-⟩
      · cases hc.symm.trans hf
      · cases herror.symm.trans hf
        cases hstage
    · refine iff_of_true ?_ (.inr hpem)
      cases hparse : Pem.parse data.bundle with
      | ok blocks => exact absurd ⟨blocks,hparse⟩ hpem
      | error e =>
        refine ⟨.bundle e,?_,rfl⟩
        unfold checkSignature pemCertificates
        rw [hs, hparse]
        rfl
  · refine iff_of_true ⟨.signatureText e,?_,rfl⟩ (.inl hno)
    unfold checkSignature
    rw [hs]
    rfl

theorem stage_eq_signature_iff : f.stage = .signature ↔ f = .unsigned := by
  cases f <;> simp [Fault.stage]

/-- Faults keep their stage outside. -/
theorem exists_fault_iff {x : Except Fault α} {stage : Verifier.Stage} :
    (∃ f, x.mapError Fault.toVerifierFault = .error f ∧ f.stage = stage) ↔
      ∃ f, x = .error f ∧ f.stage = stage := by
  simp only [mapError_error_iff]
  constructor
  · rintro ⟨_,⟨f,hf,rfl⟩,hstage⟩
    exact ⟨f,hf,hstage⟩
  · rintro ⟨f,hf,hstage⟩
    exact ⟨_,⟨f,hf,rfl⟩,hstage⟩

/-- The signer of a login is the first certificate of its bundle that signed, whatever stands
between the certificates with RSA keys. The signature is refused exactly when no certificate
signed, and malformed exactly when it is no text in either alphabet or the bundle is not PEM; every
time can be written, so there is a message to sign. The least of the salts is not below nothing,
since a key that is accepted has three bits at least. -/
theorem signer_found_exactly :
    (∀ signature data octets cs, decodeSignature signature = .ok octets → Blocks data.bundle cs →
      (∀ c, verifier.checkSignature signature data = .ok c ↔
        FirstOf (Signer data.message octets) cs c) ∧
      (∀ c, verifier.checkSignature signature data = .ok c ↔
        FirstOf (Signer data.message octets) (cs.filter fun b => (signingKey? b).isSome) c) ∧
      ((∃ f, verifier.checkSignature signature data = .error f ∧ f.stage = .signature) ↔
        ∀ c ∈ cs, ¬ Signer data.message octets c)) ∧
    (∀ signature data,
      (∃ f, verifier.checkSignature signature data = .error f ∧ f.stage = .malformed) ↔
        ¬ Encoded signature ∨ ¬ ∃ blocks, Pem.parse data.bundle = .ok blocks) ∧
    (∀ spki k, loginKey? spki = some k →
      3 ≤ k.bits ∧ ∀ n : Nat, n ∈ saltLengths k ↔ (n : Int) = longestSalt k ∨ n = 32) := by
  refine ⟨?_,?_,?_⟩
  · intro signature data octets cs hs hb
    have hfirst : ∀ c, verifier.checkSignature signature data = .ok c ↔
        FirstOf (Signer data.message octets) cs c := by
      intro c
      rw [verifierWith_checkSignature, mapError_ok_iff, checkSignature_ok_iff_firstOf hs hb]
    refine ⟨hfirst,?_,?_⟩
    · intro c
      rw [hfirst, firstOf_filter_iff fun _ => Signer.usable]
    · rw [verifierWith_checkSignature, exists_fault_iff, ← checkSignature_unsigned_iff hs hb]
      simp only [stage_eq_signature_iff, exists_eq_right]
  · intro signature data
    rw [verifierWith_checkSignature, exists_fault_iff, checkSignature_malformed_iff]
  · intro spki k h
    exact ⟨three_le_bits h,fun _ => mem_saltLengths_iff h⟩

/-! ## A signer behind a certificate that does not read -/

def encodedKey (modulus exponent : Bytes) : Bytes :=
  encoded 0x30 (encoded 0x30 (encoded 6 rsaEncryption ++ encoded 5 []) ++
    encoded 3 (0 :: encoded 0x30 (encoded 2 modulus ++ encoded 2 exponent)))

/-- A signer whose modulus has 273 bits, so that its longest salt is none. -/
def sampleSigner : InstanceCertificate :=
  sparseCertificate (encodedKey (Bytes.ofNat 35 ((1 <<< 272) + 163)) [3]) []

def sampleData : SignatureData :=
  ⟨⟨0,.zero⟩,Pem.Piece.write ([⟨[0]⟩,sampleSigner].map certificatePiece),"role"⟩

/-- The cube of this number, modulo that of the signer, is the encoded message. -/
def sampleOctets : Bytes :=
  Bytes.ofNat 35 4272271936367002414685800724404519657787156674379530470847720272882180172993681923

def sampleSignature : String := String.ofList (Base64.encode .urlSafe sampleOctets)

/-- The message by its characters, which the octets of it are computed from. -/
theorem ofText_sampleMessage : Bytes.ofText sampleData.message =
    Bytes.utf8 ((SigningTime.canonical ⟨0,.zero⟩).toList ++
      (([⟨[0]⟩,sampleSigner].map certificatePiece).flatMap Pem.Piece.chars ++ "role".toList)) := by
  simp only [Bytes.ofText, SignatureData.message, sampleData, Pem.Piece.write, String.toList_append,
    String.toList_ofList, List.append_assoc]

theorem signer_found_exactly_sample :
    decodeSignature sampleSignature = .ok sampleOctets ∧
      Blocks sampleData.bundle [⟨[0]⟩,sampleSigner] ∧
      verifier.checkSignature sampleSignature sampleData = .ok sampleSigner ∧
      (∃ f, verifier.checkSignature "AA==" sampleData = .error f ∧ f.stage = .signature) ∧
      (∃ f, verifier.checkSignature "A" sampleData = .error f ∧ f.stage = .malformed) ∧
      loginKey? (encodedKey [5] [3]) = some ⟨5,3⟩ ∧ 0 ∈ saltLengths ⟨5,3⟩ := by
  obtain ⟨hsearch,hmalformed,hsalts⟩ := signer_found_exactly
  have hblocks : Blocks sampleData.bundle [⟨[0]⟩,sampleSigner] := blocks_write _
  have hs : decodeSignature sampleSignature = .ok sampleOctets := by decide +kernel
  have hother : decodeSignature "AA==" = .ok [0] := by decide +kernel
  have hkey : loginKey? (encodedKey [5] [3]) = some ⟨5,3⟩ := by decide +kernel
  have hunread : ∀ octets, ¬ Signer sampleData.message octets ⟨[0]⟩ := by
    have hnone : signingKey? ⟨[0]⟩ = none := by decide +kernel
    intro octets hsigner
    have husable := hsigner.usable
    rw [hnone] at husable
    cases husable
  have hsigner : Signer sampleData.message sampleOctets sampleSigner := by
    rw [← signed_iff_signer, ← signs_iff, ofText_sampleMessage]
    decide +kernel
  have hnot : ¬ Signer sampleData.message [0] sampleSigner := fun h =>
    absurd (signs_iff.mpr (signed_iff_signer.mpr h)) (by decide +kernel)
  refine ⟨hs,hblocks,?_,?_,?_,hkey,?_⟩
  · refine ((hsearch _ sampleData _ _ hs hblocks).1 sampleSigner).mpr ⟨[⟨[0]⟩],[],rfl,hsigner,?_⟩
    exact List.forall_mem_singleton.mpr (hunread _)
  · refine (hsearch _ sampleData _ _ hother hblocks).2.2.mpr ?_
    exact List.forall_mem_cons.mpr ⟨hunread _,List.forall_mem_singleton.mpr hnot⟩
  · refine (hmalformed _ sampleData).mpr (.inl ?_)
    rintro ⟨a,octets,h⟩
    have hfails : (Base64.decode a (Bytes.utf8 (trimBlank "A".toList))).isOk = false := by
      cases a <;> decide +kernel
    rw [h] at hfails
    cases hfails
  · have hnone : longestSalt ⟨5,3⟩ = 0 := by
      rw [longestSalt, ceil_bits (by decide)]
      decide
    exact ((hsalts _ _ hkey).2 0).mpr (.inl hnone.symm)

end WorkloadLogin.X509
