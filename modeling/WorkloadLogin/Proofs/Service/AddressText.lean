import WorkloadLogin.Proofs.RemoteAddress
import WorkloadLogin.Proofs.Service.CrossVerdict
import WorkloadLogin.Proofs.Service.Lifetime
import WorkloadLogin.Proofs.X509.Clues

/-! # The address of a certificate as text

A certificate holds its address as octets, an identity as text. The text goes from the identity into
the credential that a login issues, stays there through every renewal, and is read again whenever a
caller is compared with it. Nothing is lost on the way: a caller matches the text exactly when it
names the address of the octets, wrapped or not.
-/
namespace WorkloadLogin.Service
open Text X509
variable {σ : Type} {w : World σ} {task : TaskId} {t : State σ} {es : List (Exchange σ)}
  {connection : Option Connection} {request : LoginRequest} {issued : Credential}
  {certificate : InstanceCertificate} {identity : Identity} {remote : String} {ip ip' : Ip}
  {names : List AltName} {octets : Bytes}

/-! ## From the octets to the identity -/

/-- The one address of a certificate is that of its entry of four or sixteen octets. -/
theorem octets_of_soleAddress (h : SoleAddress names ip) (hmem : .ip octets ∈ names)
    (hlength : octets.length = 4 ∨ octets.length = 16) : Ip.Octets octets ip := by
  obtain ⟨before,sole,after,rfl,-,hip,hothers⟩ := h
  have hsame : sole = octets := by
    simp only [List.mem_append, List.mem_cons, AltName.ip.injEq] at hmem
    rcases hmem with hbefore | rfl | hafter
    · have hother := hothers octets (List.mem_append_left _ hbefore)
      omega
    · rfl
    · have hother := hothers octets (List.mem_append_right _ hafter)
      omega
  rw [hsame] at hip
  exact Ip.ofBytes?_eq_some_iff.mp hip

theorem ipAddress_of_identify {x : X509.Certificate}
    (hx : Certificate.parse? certificate.der = some x) (hnames : x.altNames? = some names)
    (hmem : .ip octets ∈ names) (hoctets : Ip.Octets octets ip)
    (h : verifier.identify certificate = .ok identity) : identity.ipAddress = ip.render := by
  rw [verifierWith_identify, mapError_ok_iff, identify_ok_iff] at h
  obtain ⟨x',hx',hread⟩ := h
  cases hx.symm.trans hx'
  obtain ⟨names',ip',hnames',haddresses,hrender⟩ := hread.ipAddress
  cases hnames.symm.trans hnames'
  have hsole := addresses_eq_singleton_iff.mp haddresses
  have hlength := length_of_ofBytes? (Ip.ofBytes?_eq_some_iff.mpr hoctets)
  rw [hrender, (octets_of_soleAddress hsole hmem hlength).unique hoctets]

/-! ## From the identity to the credential -/

/-- A login that succeeds identifies one certificate, and its credential has the address of that
identity. -/
theorem Course.ipAddress_of_login_ok
    (h : Course w task (login request connection).run es (.ok issued))
    (hidentify : ⟨t,.identify certificate,.ok identity⟩ ∈ es) :
    issued.internalData.ipAddress = identity.ipAddress := by
  obtain ⟨_,_,_,_,_,_,_,_,inner,rfl,-,-,-,hinner⟩ := h.of_login_ok
  obtain ⟨_,found,_,_,_,_,reached,_,_,rfl,-,hverify,hreach,hcheck,hname,rfl⟩ :=
    hinner.of_admission_ok
  obtain ⟨_,_,_,_,_,_,rfl⟩ := hverify.of_verify_ok
  obtain ⟨-,_,_,_,_,_,_,rfl,-⟩ := hcheck.of_crossCheck_ok
  obtain ⟨_,_,_,_,_,_,rfl⟩ := hname.of_lookupNames_ok
  have hreached : ⟨t,.identify certificate,.ok identity⟩ ∉ reached :=
    fun hr => hreach.of_getOrConnect_ok _ hr
  simp [hreached] at hidentify
  obtain ⟨-,-,rfl⟩ := hidentify
  rfl

/-- The text stands in the identity of a certificate and in every credential that was issued for it,
as long as that is renewed, and renewals read it from there. -/
structure Kept (w : World σ) (certificate : InstanceCertificate) (identity : Identity)
    (text : String) : Prop where
  stored : identity.ipAddress = text
  carried : ∀ {task : TaskId} {request : LoginRequest} {connection : Option Connection}
    {es : List (Exchange σ)} {issued c : Credential} {s t : State σ},
    Course w task (login request connection).run es (.ok issued) →
    ⟨t,.identify certificate,.ok identity⟩ ∈ es → Life w issued s c →
      c.internalData.ipAddress = text ∧ ∀ renewal : RenewalIdentity,
        RenewalIdentity.ofCredential c = .ok renewal → renewal.identity.ipAddress = text

theorem kept_of_ipAddress {text : String} (h : identity.ipAddress = text) :
    Kept w certificate identity text where
  stored := h
  carried := by
    intro task request connection es issued c s t hlogin hidentify hlife
    have hissued := hlogin.ipAddress_of_login_ok hidentify
    have hinternal := (lifelong_of_life hlife).internalData
    rw [← hinternal, h] at hissued
    refine ⟨hissued,fun renewal hrenewal => ?_⟩
    obtain ⟨-,-,-,-,-,-,rfl⟩ := ofCredential_ok_iff.mp hrenewal
    exact hissued

/-! ## From the text to the caller -/

theorem matchesIp_render_iff : Constraint.matchesIp remote ip.render = true ↔
    ∃ a, Constraint.Names remote a ∧ a.canonical = ip.canonical := by
  have hblank := (Ip.written_render ip).solid.1
  have htrim : trimBlank ip.render.toList = ip.render.toList := (trims_self hblank).trimWhere_eq
  rw [matchesIp_iff]
  unfold SameAddress
  rw [htrim, Ip.parse?_render]
  simp [Constraint.remoteIp?_eq_some_iff]

theorem matchesIp_render (h : ip'.canonical = ip.canonical) :
    Constraint.matchesIp ip'.render ip.render = true ∧
      ∀ suffix, Constraint.matchesIp (ip'.render ++ "/" ++ suffix) ip.render = true := by
  obtain ⟨hnames,hsuffix⟩ := Constraint.names_render ip'
  exact ⟨matchesIp_render_iff.mpr ⟨ip',hnames,h⟩,
    fun suffix => matchesIp_render_iff.mpr ⟨ip',hsuffix suffix,h⟩⟩

/-- The address of an entry of four or sixteen octets is kept as a text which a caller matches
exactly when it names an address of the same canonical form. So the text matches itself, with or
without a suffix, and that of its counterpart; and nobody matches the texts of two entries but when
these are the same octets, unwrapped. -/
theorem address_survives_text (w : World σ) {octets : Bytes}
    (hlength : octets.length = 4 ∨ octets.length = 16) :
    ∃ ip, Ip.Octets octets ip ∧
      (∀ certificate x names identity, Certificate.parse? certificate.der = some x →
        x.altNames? = some names → .ip octets ∈ names →
        verifier.identify certificate = .ok identity → Kept w certificate identity ip.render) ∧
      (∀ remote, Constraint.matchesIp remote ip.render = true ↔
        ∃ a, Constraint.Names remote a ∧ a.canonical = ip.canonical) ∧
      (∀ ip', ip' = ip ∨ Ip.Counterpart ip' ip →
        Constraint.matchesIp ip'.render ip.render = true ∧
          ∀ suffix, Constraint.matchesIp (ip'.render ++ "/" ++ suffix) ip.render = true) ∧
      ∀ octets' ip', Ip.Octets octets' ip' →
        (Constraint.matchesIp ip'.render ip.render = true ↔
          Ip.unwrapped octets' = Ip.unwrapped octets) ∧
        ∀ remote, Constraint.matchesIp remote ip'.render = true →
          Constraint.matchesIp remote ip.render = true →
          Ip.unwrapped octets' = Ip.unwrapped octets := by
  obtain ⟨ip,hip⟩ : ∃ ip, Ip.ofBytes? octets = some ip := by
    refine Option.ne_none_iff_exists'.mp fun hnone => ?_
    have hneither := ofBytes?_eq_none_iff.mp hnone
    omega
  have hoctets := Ip.ofBytes?_eq_some_iff.mp hip
  refine ⟨ip,hoctets,?_,fun _ => matchesIp_render_iff,?_,?_⟩
  · intro certificate x names identity hx hnames hmem hidentify
    exact kept_of_ipAddress (ipAddress_of_identify hx hnames hmem hoctets hidentify)
  · intro ip' hsame
    exact matchesIp_render (Ip.canonical_eq_canonical_iff.mpr hsame)
  · intro octets' ip' hoctets'
    have hunwrapped := Ip.canonical_eq_iff hoctets' hoctets
    refine ⟨?_,fun remote hleft hright => ?_⟩
    · rw [← hunwrapped]
      refine ⟨fun hmatch => ?_,fun hsame => (matchesIp_render hsame).1⟩
      obtain ⟨a,ha,hsame⟩ := matchesIp_render_iff.mp hmatch
      rw [(Constraint.names_render ip').1.unique ha, hsame]
    · obtain ⟨a,ha,hleft⟩ := matchesIp_render_iff.mp hleft
      obtain ⟨b,hb,hright⟩ := matchesIp_render_iff.mp hright
      rw [← hunwrapped, ← hleft, ha.unique hb, hright]

/-- A certificate whose address wraps an IPv4 one. -/
def wrappedLeaf : InstanceCertificate :=
  sampleCertificate [(Name.commonName,"i"),(Name.organizationalUnit,"organization:o"),
    (Name.organizationalUnit,"space:s"),(Name.organizationalUnit,"app:a")]
    [encoded 0x87 (Ip.wrapping ++ [10,0,0,1])]

def wrappedIdentity : Identity := ⟨"i","o","s","a","::ffff:10.0.0.1"⟩

/-- The sample surroundings, with a verifier that finds this certificate. -/
def wrappedState : State Script :=
  { sampleState with
    world := { sampleScript with
      verifier := .given
        { extract := fun _ => .ok ⟨default,wrappedLeaf⟩
          checkSignature := fun _ _ => .ok wrappedLeaf
          checkChain := fun _ _ _ _ => .ok ()
          identify := fun _ => .ok wrappedIdentity } } }

theorem address_survives_text_wrapped :
    verifier.identify wrappedLeaf = .ok wrappedIdentity ∧
      (∃ issued s, Life Script.world issued s issued ∧
        issued.internalData.ipAddress = "::ffff:10.0.0.1") ∧
      Constraint.matchesIp "::ffff:10.0.0.1/128" "::ffff:10.0.0.1" = true ∧
      Constraint.matchesIp "10.0.0.1" "::ffff:10.0.0.1" = true := by
  have hlength : (Ip.wrapping ++ [10,0,0,1]).length = 16 := rfl
  obtain ⟨ip,hoctets,hkept,-,htwin,-⟩ := address_survives_text Script.world (.inr hlength)
  obtain rfl : ip = .v6 (.ofMapped (.ofOctets 10 0 0 1)) :=
    hoctets.unique (Ip.ofBytes?_eq_some_iff.mp (by decide +kernel))
  have htext : (Ip.v6 (.ofMapped (.ofOctets 10 0 0 1))).render = "::ffff:10.0.0.1" := by
    decide +kernel
  have hplain : (Ip.v4 (.ofOctets 10 0 0 1)).render = "10.0.0.1" := by decide +kernel
  rw [htext] at hkept htwin
  -- the certificate reads, and its identity keeps the text
  have hidentify : verifier.identify wrappedLeaf = .ok wrappedIdentity := by
    rw [verifierWith_identify]
    decide +kernel
  have hx : (Certificate.parse? wrappedLeaf.der).isSome = true := by decide +kernel
  have hnames : ((Certificate.parse? wrappedLeaf.der).get hx).altNames? =
      some [.ip (Ip.wrapping ++ [10,0,0,1])] := by decide +kernel +revert
  have hold : Kept Script.world wrappedLeaf wrappedIdentity "::ffff:10.0.0.1" :=
    hkept _ _ _ _ (Option.some_get hx).symm hnames List.mem_cons_self hidentify
  -- a login identifies the certificate in its ninth request
  have hlogin : (Schedule.alone Script.world (login sampleRequest (some ⟨"10.0.0.1"⟩)).run
      wrappedState).1 = some (.ok
        { sampleCredential with internalData := ⟨"web","i","::ffff:10.0.0.1"⟩ }) := by rfl
  have hcourse := course_of_alone hlogin
  have hasked : ∃ t, ⟨t,.identify wrappedLeaf,.ok wrappedIdentity⟩ ∈ exchanges Script.world 0
      (login sampleRequest (some ⟨"10.0.0.1"⟩)).run wrappedState :=
    ⟨_,List.mem_of_getElem? (i := 8) rfl⟩
  obtain ⟨t,hasked⟩ := hasked
  obtain ⟨s,hlife⟩ := exists_life_issued hcourse
  obtain ⟨-,hsuffix⟩ := htwin _ (.inl rfl)
  obtain ⟨hcounterpart,-⟩ := htwin _ (.inr (.wrap _))
  rw [htext] at hsuffix
  rw [hplain] at hcounterpart
  exact ⟨hidentify,⟨_,s,hlife,(hold.carried hcourse hasked hlife).1⟩,hsuffix "128",hcounterpart⟩

end WorkloadLogin.Service
