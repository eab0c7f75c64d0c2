import WorkloadLogin.Proofs.Encoding.Pem
import WorkloadLogin.Proofs.Service.CallCourses
import WorkloadLogin.Proofs.Service.LoginGates
import WorkloadLogin.Proofs.X509.Clues

/-! # The configured roots as a set

A chain is accepted by what is configured, not by how it is written down: texts may be repeated,
reordered or joined, and roots that vouch for nothing stand in nobody's way. Only a text that is not
PEM spoils all others, and every login with them.
-/
namespace WorkloadLogin.X509
open Service
variable {σ : Type} {signed : SignatureCheck} {as bs caTexts : List String}
  {certs : InstanceCertificates} {signing root : InstanceCertificate} {leaf ca : Certificate}
  {now : Timestamp}

/-- Each of the texts is PEM, whatever its blocks hold. -/
def Readable (caTexts : List String) : Prop :=
  ∀ text ∈ caTexts, ∃ blocks, Pem.parse text = .ok blocks

theorem readable_iff : Readable caTexts ↔ ∀ text ∈ caTexts, ∃ cs, Blocks text cs := by
  refine forall_congr' fun text => imp_congr_right fun _ => ?_
  constructor
  · rintro ⟨blocks,h⟩
    exact ⟨_,blocks,h,rfl⟩
  · rintro ⟨_,blocks,h,-⟩
    exact ⟨blocks,h⟩

theorem exists_rootsOf (h : Readable caTexts) : ∃ roots, rootsOf caTexts = .ok roots :=
  ⟨_,rootsOf_ok_iff.mpr ⟨readable_iff.mp h,rfl⟩⟩

theorem Configured.mono (h : as ⊆ bs) (hroot : Configured as root) : Configured bs root := by
  obtain ⟨text,htext,hblocks⟩ := hroot
  exact ⟨text,h htext,hblocks⟩

/-! ## Verdicts -/

/-- The two certificates of a bundle read, are valid, and one has issued the other. -/
structure Linked (signed : SignatureCheck) (certs : InstanceCertificates) (leaf ca : Certificate)
    (now : Int) : Prop where
  identity : Certificate.parse? certs.identity.der = some leaf
  intermediate : Certificate.parse? certs.intermediate.der = some ca
  leaf_valid : ValidAt leaf now
  ca_valid : ValidAt ca now
  issued : Issued signed ca leaf

/-- One of the configured roots vouches for the issuer. -/
def Anchored (signed : SignatureCheck) (caTexts : List String) (certs : InstanceCertificates)
    (ca : Certificate) (now : Int) : Prop :=
  ∃ root, Configured caTexts root ∧ Vouches signed root certs.intermediate ca now

theorem chained_iff {now : Int} :
    Chained signed caTexts certs leaf ca now ↔
      Linked signed certs leaf ca now ∧ Readable caTexts ∧
        Anchored signed caTexts certs ca now := by
  constructor
  · intro h
    exact ⟨⟨h.identity,h.intermediate,h.leaf_valid,h.ca_valid,h.issued⟩,readable_iff.mpr h.readable,
      h.anchored⟩
  · rintro ⟨h,hreadable,hanchored⟩
    exact ⟨h.identity,h.intermediate,h.leaf_valid,h.ca_valid,h.issued,readable_iff.mp hreadable,
      hanchored⟩

theorem verifierWith_checkChain_ok_iff :
    (verifierWith signed).checkChain caTexts certs signing now = .ok () ↔
      Readable caTexts ∧ signing = certs.identity ∧
        ∃ leaf ca, Linked signed certs leaf ca now.instant.seconds ∧
          Anchored signed caTexts certs ca now.instant.seconds := by
  rw [verifierWith_checkChain,mapError_ok_iff,checkChainWith_ok_iff]
  simp only [chained_iff]
  constructor
  · rintro ⟨hs,leaf,ca,hlinked,hreadable,hanchored⟩
    exact ⟨hreadable,hs,leaf,ca,hlinked,hanchored⟩
  · rintro ⟨hreadable,hs,leaf,ca,hlinked,hanchored⟩
    exact ⟨hs,leaf,ca,hlinked,hreadable,hanchored⟩

/-- Of the roots only those matter that vouch for the issuer. -/
theorem checkChain_ok_congr (hreadable : Readable as ↔ Readable bs)
    (h : ∀ ca, Certificate.parse? certs.intermediate.der = some ca → ∀ root,
      Vouches signed root certs.intermediate ca now.instant.seconds →
        (Configured as root ↔ Configured bs root)) :
    (verifierWith signed).checkChain as certs signing now = .ok () ↔
      (verifierWith signed).checkChain bs certs signing now = .ok () := by
  rw [verifierWith_checkChain_ok_iff,verifierWith_checkChain_ok_iff,hreadable]
  refine and_congr_right fun _ => and_congr_right fun _ => ?_
  refine exists_congr fun leaf => exists_congr fun ca => and_congr_right fun hlinked => ?_
  refine exists_congr fun root => ?_
  constructor
  · rintro ⟨hroot,hvouches⟩
    exact ⟨(h ca hlinked.intermediate root hvouches).mp hroot,hvouches⟩
  · rintro ⟨hroot,hvouches⟩
    exact ⟨(h ca hlinked.intermediate root hvouches).mpr hroot,hvouches⟩

/-- More texts do no harm as long as they are PEM. -/
theorem checkChain_ok_mono (h : as ⊆ bs) (hbs : Readable bs)
    (hok : (verifierWith signed).checkChain as certs signing now = .ok ()) :
    (verifierWith signed).checkChain bs certs signing now = .ok () := by
  obtain ⟨-,hs,leaf,ca,hlinked,root,hroot,hvouches⟩ := verifierWith_checkChain_ok_iff.mp hok
  have hanchored : Anchored signed bs certs ca now.instant.seconds := ⟨root,hroot.mono h,hvouches⟩
  exact verifierWith_checkChain_ok_iff.mpr ⟨hbs,hs,leaf,ca,hlinked,hanchored⟩

/-- Where all texts are PEM, errors too come from the set of the roots alone. -/
theorem checkChain_eq_of_configured (has : Readable as) (hbs : Readable bs)
    (h : ∀ root, Configured as root ↔ Configured bs root) :
    (verifierWith signed).checkChain as certs signing now =
      (verifierWith signed).checkChain bs certs signing now := by
  obtain ⟨ra,ha⟩ := exists_rootsOf has
  obtain ⟨rb,hb⟩ := exists_rootsOf hbs
  have hmem : ∀ root, root ∈ ra ↔ root ∈ rb := by
    intro root
    rw [mem_roots_iff ha,mem_roots_iff hb]
    exact h root
  have hempty : ra.isEmpty = rb.isEmpty := by
    rw [Bool.eq_iff_iff,List.isEmpty_iff,List.isEmpty_iff,List.eq_nil_iff_forall_not_mem,
      List.eq_nil_iff_forall_not_mem]
    exact forall_congr' fun root => not_congr (hmem root)
  have hany : ∀ f : InstanceCertificate → Bool, ra.any f = rb.any f := by
    intro f
    rw [Bool.eq_iff_iff,List.any_eq_true,List.any_eq_true]
    exact exists_congr fun root => and_congr_left fun _ => hmem root
  rw [verifierWith_checkChain,verifierWith_checkChain]
  unfold checkChainWith
  simp only [ha,hb,hempty,hany]

/-- A root vouches for nothing when it is another certificate and does not read, is not valid or has
not issued this one. -/
theorem not_vouches_iff {intermediate : InstanceCertificate} {now : Int} :
    ¬ Vouches signed root intermediate ca now ↔ root ≠ intermediate ∧
      ∀ r, Certificate.parse? root.der = some r → ¬ ValidAt r now ∨ ¬ Issued signed r ca := by
  unfold Vouches
  rw [not_or,not_exists]
  refine and_congr_right fun _ => forall_congr' fun r => ?_
  rw [not_and,not_and_or]

/-! ## A text that is not PEM -/

/-- One text that is not PEM is enough for the end of a chain. -/
theorem checkChain_unreadable (h : ¬ Readable caTexts) :
    ∃ f, (verifierWith signed).checkChain caTexts certs signing now = .error f ∧
      f.stage = .chain := by
  rw [verifierWith_checkChain]
  unfold checkChainWith
  by_cases hs : signing ≠ certs.identity
  · rw [if_pos hs]
    exact ⟨_,rfl,rfl⟩
  · rw [if_neg hs]
    cases hroots : rootsOf caTexts with
    | error e => exact ⟨_,rfl,rfl⟩
    | ok roots => exact absurd (readable_iff.mpr (rootsOf_ok_iff.mp hroots).1) h

variable {w : World σ} {task : TaskId} {s : State σ} {request : LoginRequest}
  {connection : Option Connection} {es : List (Exchange σ)} {c : Credential} {config : Config}

/-- A login that succeeds has had its chain checked against the configuration that it read. -/
theorem chain_of_login_ok (h : Course w task (login request connection).run es (.ok c))
    (hread : ⟨s,.readConfig,.ok (some config)⟩ ∈ es) :
    ∃ s' certs signing now,
      ⟨s',.checkChain config.identityCaCertificates certs signing now,.ok ()⟩ ∈ es := by
  obtain ⟨now,role,signedAt,_,_,_,_,_,inner,rfl,-,-,-,hinner⟩ := h.of_login_ok
  obtain ⟨stored,_,_,_,_,_,reached,_,_,rfl,-,hverify,hreach,hcheck,hname,-⟩ :=
    hinner.of_admission_ok
  obtain ⟨certs,signing,_,_,s',_,rfl⟩ := hverify.of_verify_ok
  obtain ⟨-,_,_,_,_,_,_,rfl,-⟩ := hcheck.of_crossCheck_ok
  obtain ⟨_,_,_,_,_,_,rfl⟩ := hname.of_lookupNames_ok
  have hstored : ⟨s,.readConfig,.ok (some config)⟩ ∉ reached :=
    fun hr => hreach.of_getOrConnect_ok _ hr
  simp [hstored] at hread
  obtain ⟨-,rfl⟩ := hread
  exact ⟨s',certs,signing,now,by simp⟩

/-- So its texts are all PEM, whatever else happened while the login ran. -/
theorem readable_of_login_ok (hw : ∀ world, w.verifier world = verifierWith signed)
    (h : Course w task (login request connection).run es (.ok c))
    (hread : ⟨s,.readConfig,.ok (some config)⟩ ∈ es) : Readable config.identityCaCertificates := by
  obtain ⟨s',certs,signing,now,hchecked⟩ := chain_of_login_ok h hread
  obtain ⟨t,ht⟩ := h.answered hchecked
  have hok : (w.verifier s'.world).checkChain config.identityCaCertificates certs signing now =
      .ok () := (Prod.mk.inj (Option.some.inj ht)).1
  rw [hw] at hok
  exact (verifierWith_checkChain_ok_iff.mp hok).1

/-- A login by itself does not succeed over a configuration with a text that is not PEM. -/
theorem login_unreadable {r : Except Error Credential} {t : State σ}
    (hw : w.verifier s.world = verifierWith signed) (hconfig : s.store.config = some config)
    (hno : ¬ Readable config.identityCaCertificates)
    (hrun : outcome? w task (login request connection) s = some (r,t)) : ∃ e, r = .error e := by
  obtain ⟨asked,-,hjudged⟩ := judges_login r t hrun
  cases r with
  | error e => exact ⟨e,rfl⟩
  | ok c =>
    obtain ⟨hpass,-⟩ := hjudged.passes
    cases htime : SigningTime.parse? request.signingTime with
    | none => exact absurd (.signingTime htime) (hpass .signingTime (by decide) _)
    | some signedAt =>
      cases hextract : (w.verifier s.world).extract request.bundle with
      | error f => exact absurd (.extraction hextract) (hpass .extraction (by decide) _)
      | ok certs =>
        cases hsigned : (w.verifier s.world).checkSignature request.signature
          ⟨signedAt,request.bundle,request.role⟩ with
        | error f => exact absurd (.signature htime hsigned) (hpass .signature (by decide) _)
        | ok signing =>
          obtain ⟨f,hchain,-⟩ := checkChain_unreadable hno
          rw [← hw] at hchain
          exact absurd (.chain hconfig htime hextract hsigned hchain) (hpass .chain (by decide) _)

/-- A chain is accepted exactly when leaf and issuer are linked and a configured root vouches for
the issuer. Of what is configured the set of roots decides, and of these the ones that vouch;
further texts can only help. A text that is not PEM ends every chain and every login. All this holds
whatever checks the signatures of certificates. -/
theorem chain_decided_by_root_set (signed : SignatureCheck) :
    (∀ caTexts certs signing now, Readable caTexts →
      ((verifierWith signed).checkChain caTexts certs signing now = .ok () ↔
        signing.der = certs.identity.der ∧ (∃ root, Configured caTexts root) ∧
          ∃ leaf ca, Linked signed certs leaf ca now.instant.seconds ∧
            Anchored signed caTexts certs ca now.instant.seconds)) ∧
    (∀ as bs certs signing now, (∀ text, text ∈ as ↔ text ∈ bs) →
      ((verifierWith signed).checkChain as certs signing now = .ok () ↔
        (verifierWith signed).checkChain bs certs signing now = .ok ())) ∧
    (∀ as bs certs signing now, Readable as → Readable bs →
      (∀ root, Configured as root ↔ Configured bs root) →
      (verifierWith signed).checkChain as certs signing now =
        (verifierWith signed).checkChain bs certs signing now) ∧
    (∀ as bs certs signing now, Readable as → Readable bs → as ⊆ bs →
      (verifierWith signed).checkChain as certs signing now = .ok () →
      (verifierWith signed).checkChain bs certs signing now = .ok ()) ∧
    (∀ as bs certs signing now, Readable as → Readable bs →
      (∀ ca, Certificate.parse? certs.intermediate.der = some ca → ∀ root,
        ¬ (Configured as root ↔ Configured bs root) → root ≠ certs.intermediate ∧
          ∀ r, Certificate.parse? root.der = some r →
            ¬ ValidAt r now.instant.seconds ∨ ¬ Issued signed r ca) →
      ((verifierWith signed).checkChain as certs signing now = .ok () ↔
        (verifierWith signed).checkChain bs certs signing now = .ok ())) ∧
    (∀ caTexts certs signing now, ¬ Readable caTexts →
      ∃ f, (verifierWith signed).checkChain caTexts certs signing now = .error f ∧
        f.stage = .chain) ∧
    (∀ {σ : Type} (w : World σ) (s : State σ) request connection config,
      w.verifier s.world = verifierWith signed → s.store.config = some config →
      ¬ Readable config.identityCaCertificates →
      ∀ r t, Schedule.alone w (login request connection).run s = (some r,t) → ∃ e, r = .error e) ∧
    (∀ {σ : Type} (w : World σ) (task : TaskId) (s : State σ) request connection config es r,
      (∀ world, w.verifier world = verifierWith signed) →
      Course w task (login request connection).run es r →
      ⟨s,.readConfig,.ok (some config)⟩ ∈ es → ¬ Readable config.identityCaCertificates →
      ∃ e, r = .error e) := by
  refine ⟨?_,?_,?_,?_,?_,?_,?_,?_⟩
  · intro caTexts certs signing now hreadable
    rw [verifierWith_checkChain_ok_iff]
    have hder : signing.der = certs.identity.der ↔ signing = certs.identity := by
      cases signing
      cases certs.identity
      simp
    rw [hder]
    constructor
    · rintro ⟨-,hs,leaf,ca,hlinked,root,hroot,hvouches⟩
      exact ⟨hs,⟨root,hroot⟩,leaf,ca,hlinked,root,hroot,hvouches⟩
    · rintro ⟨hs,-,hchain⟩
      exact ⟨hreadable,hs,hchain⟩
  · intro as bs certs signing now hmem
    have hreadable : Readable as ↔ Readable bs :=
      forall_congr' fun text => imp_congr_left (hmem text)
    refine checkChain_ok_congr hreadable fun ca _ root _ => ?_
    exact exists_congr fun text => and_congr_left fun _ => hmem text
  · exact fun as bs certs signing now => checkChain_eq_of_configured
  · exact fun as bs certs signing now _ hbs hsub => checkChain_ok_mono hsub hbs
  · intro as bs certs signing now has hbs hidle
    refine checkChain_ok_congr (iff_of_true has hbs) fun ca hca root hvouches => ?_
    by_contra hdiffer
    exact not_vouches_iff.mpr (hidle ca hca root hdiffer) hvouches
  · exact fun caTexts certs signing now => checkChain_unreadable
  · intro σ w s request connection config hw hconfig hno r t hrun
    exact login_unreadable hw hconfig hno (settle_of_alone hrun)
  · intro σ w task s request connection config es r hw hcourse hread hno
    cases r with
    | error e => exact ⟨e,rfl⟩
    | ok c => exact absurd (readable_of_login_ok hw hcourse hread) hno

/-! ## A chain of two -/

/-- The text of one certificate. -/
def pemText (c : InstanceCertificate) : String :=
  String.ofList ("-----BEGIN CERTIFICATE-----".toList ++ Base64.encode .standard c.der ++
    "-----END CERTIFICATE-----".toList)

theorem parse_pemText (c : InstanceCertificate) :
    Pem.parse (pemText c) = .ok [⟨"CERTIFICATE",c.der⟩] := by
  have hproper : (Pem.Piece.unbroken ⟨"CERTIFICATE",c.der⟩).Proper :=
    Pem.Piece.proper_unbroken (show "CERTIFICATE".toList ≠ [] by decide)
      (show '-' ∉ "CERTIFICATE".toList by decide)
  have hopen : "-----BEGIN CERTIFICATE-----".toList =
      "-----BEGIN ".toList ++ ("CERTIFICATE".toList ++ "-----".toList) := by decide
  have hclose : "-----END CERTIFICATE-----".toList =
      "-----END ".toList ++ ("CERTIFICATE".toList ++ "-----".toList) := by decide
  have hwrite : pemText c = Pem.Piece.write [.unbroken ⟨"CERTIFICATE",c.der⟩] := by
    unfold pemText Pem.Piece.write
    rw [hopen, hclose, List.flatMap_singleton]
    unfold Pem.Piece.unbroken Pem.Piece.chars Pem.boundText
    simp only [List.append_assoc]
  rw [hwrite, Pem.parse_write (List.forall_mem_singleton.mpr hproper)]
  rfl

/-- What is signed of a certificate without names that is valid for one second. -/
def namelessPart (key : Bytes) : Bytes :=
  let algorithm := encoded 0x30 (encoded 6 [0x2a])
  let epoch := encoded 0x17 (Bytes.ofText "7001010000Z")
  encoded 0x30 (encoded 2 [1] ++ algorithm ++ encoded 0x30 [] ++ encoded 0x30 (epoch ++ epoch) ++
    encoded 0x30 [] ++ encoded 0x30 (algorithm ++ encoded 3 (0 :: key)))

def namelessCertificate (key signature : Bytes) : InstanceCertificate :=
  ⟨encoded 0x30 (namelessPart key ++ encoded 0x30 (encoded 6 olderSha1WithRsa) ++
    encoded 3 (0 :: signature))⟩

/-- A leaf whose signature has the cube `2 ^ 1023`. -/
def cubicLeaf : InstanceCertificate := namelessCertificate [] (Bytes.ofNat 128 (1 <<< 341))

/-- The modulus that leaves of this cube the block that the leaf's issuer has to sign. -/
def cubicModulus : Nat := (1 <<< 1023) - Bytes.toNat (Rsa.block .sha1 128 (namelessPart []))

def cubicIssuer : InstanceCertificate :=
  namelessCertificate
    (encoded 0x30 (encoded 2 (Bytes.ofNat 128 cubicModulus) ++ encoded 2 [3])) []

def cubicChain : InstanceCertificates := ⟨cubicIssuer,cubicLeaf⟩

theorem blocks_cubicIssuer : Blocks (pemText cubicIssuer) [cubicIssuer] :=
  ⟨_,parse_pemText cubicIssuer,by simp⟩

theorem exists_linked_cubicChain :
    ∃ leaf ca, Linked Certificate.signedUnder cubicChain leaf ca 0 := by
  have hleaf : (Certificate.parse? cubicLeaf.der).isSome = true := by decide +kernel
  have hca : (Certificate.parse? cubicIssuer.der).isSome = true := by decide +kernel
  refine ⟨_,_,(Option.some_get hleaf).symm,(Option.some_get hca).symm,?_,?_,?_⟩
  · exact (@checkValidity_isOk_iff _ .identity 0).mp (by decide +kernel +revert)
  · exact (@checkValidity_isOk_iff _ .intermediate 0).mp (by decide +kernel +revert)
  · exact issuedBy_iff.mp (by decide +kernel +revert)

theorem chain_decided_by_root_set_sample :
    verifier.checkChain [pemText cubicIssuer] cubicChain cubicLeaf ⟨⟨0,.zero⟩,0⟩ = .ok () ∧
      verifier.checkChain [pemText ⟨[0]⟩,pemText cubicIssuer] cubicChain cubicLeaf
        ⟨⟨0,.zero⟩,0⟩ = .ok () ∧
      ∃ f, verifier.checkChain [pemText cubicIssuer,"-----BEGIN A----------END B-----"] cubicChain
        cubicLeaf ⟨⟨0,.zero⟩,0⟩ = .error f ∧ f.stage = .chain := by
  obtain ⟨hexact,-,-,hmono,-,hspoilt,-⟩ := chain_decided_by_root_set Certificate.signedUnder
  have hother : Pem.parse (pemText ⟨[0]⟩) = .ok [⟨"CERTIFICATE",[0]⟩] := by decide +kernel
  have hbad : Pem.parse "-----BEGIN A----------END B-----" = .error (.mismatched "A" "B") := by
    decide +kernel
  have hblocks := blocks_cubicIssuer
  have hone : Readable [pemText cubicIssuer] :=
    readable_iff.mpr (List.forall_mem_singleton.mpr ⟨_,hblocks⟩)
  have htwo : Readable [pemText ⟨[0]⟩,pemText cubicIssuer] :=
    List.forall_mem_cons.mpr ⟨⟨_,hother⟩,hone⟩
  have hroot : Configured [pemText cubicIssuer] cubicIssuer :=
    ⟨_,List.mem_singleton_self _,_,hblocks,List.mem_singleton_self _⟩
  obtain ⟨leaf,ca,hlinked⟩ := exists_linked_cubicChain
  have hok := (hexact _ cubicChain cubicLeaf ⟨⟨0,.zero⟩,0⟩ hone).mpr
    ⟨rfl,⟨_,hroot⟩,leaf,ca,hlinked,_,hroot,.inl rfl⟩
  refine ⟨hok,hmono _ _ _ _ _ hone htwo (List.subset_cons_self ..) hok,hspoilt _ _ _ _ ?_⟩
  intro hreadable
  obtain ⟨blocks,hread⟩ := hreadable _ (List.mem_cons_of_mem _ (List.mem_singleton_self _))
  cases hbad.symm.trans hread

end WorkloadLogin.X509
