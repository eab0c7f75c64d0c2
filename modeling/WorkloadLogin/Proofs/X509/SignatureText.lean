import WorkloadLogin.Proofs.Encoding.Canonical
import WorkloadLogin.Proofs.Text.Blank
import WorkloadLogin.Proofs.X509.Signer

/-! # Signatures as texts

A signature may be written in either base64 alphabet, with blanks around it. Each text stands for
one octet string at most, and a text is taken only if it is the encoding of what it stands for;
every other text is malformed.
-/
namespace WorkloadLogin.X509
open Text
variable {a : Base64.Alphabet} {octets : Bytes} {text : String} {before after : List Char}

/-- What is left of a text without the blanks around it. -/
def core (text : String) : List Char := trimBlank text.toList

def Malformed (text : String) : Prop :=
  ∃ f, decodeSignature text = .error f ∧ f.stage = .malformed

/-! ## Blanks around an encoding -/

theorem isBlank_encode (a : Base64.Alphabet) (octets : Bytes) :
    ∀ c ∈ Base64.encode a octets, isBlank c = false := by
  have hsymbol : ∀ n < 64, isBlank (a.symbol n) = false := by cases a <;> decide
  intro c hc
  rcases Base64.mem_encode a octets c hc with rfl | ⟨n,hn,rfl⟩
  · decide
  · exact hsymbol n hn

theorem core_encode (hbefore : ∀ c ∈ before, isBlank c = true)
    (hafter : ∀ c ∈ after, isBlank c = true) :
    core (String.ofList (before ++ (Base64.encode a octets ++ after))) =
      Base64.encode a octets := by
  have hself := trims_self (isBlank_encode a octets)
  have htrims : Trims isBlank (before ++ (Base64.encode a octets ++ after))
      (Base64.encode a octets) :=
    ⟨⟨before,after,rfl,hbefore,hafter⟩,hself.head,hself.last⟩
  rw [core, String.toList_ofList]
  exact htrims.trimWhere_eq

/-! ## What is read -/

theorem encode_of_decodeSignature (h : decodeSignature text = .ok octets) :
    ∃ a, core text = Base64.encode a octets := by
  unfold decodeSignature at h
  simp only at h
  split at h
  · rename_i hurl
    cases h
    exact ⟨.urlSafe,Bytes.utf8_inj.mp (Base64.eq_encode_of_decode hurl)⟩
  split at h
  · rename_i hstandard
    cases h
    exact ⟨.standard,Bytes.utf8_inj.mp (Base64.eq_encode_of_decode hstandard)⟩
  · cases h

theorem encoded_iff : Encoded text ↔ ∃ a octets, core text = Base64.encode a octets := by
  refine exists_congr fun a => exists_congr fun octets => ?_
  rw [Base64.decode_ok_iff, Bytes.utf8_inj, core]

theorem decodeSignature_ok_iff :
    decodeSignature text = .ok octets ↔ ∃ a, core text = Base64.encode a octets := by
  constructor
  · exact encode_of_decodeSignature
  · rintro ⟨a,htext⟩
    rcases decodeSignature_cases text with ⟨-,read,hread⟩ | ⟨hno,-⟩
    · obtain ⟨b,hb⟩ := encode_of_decodeSignature hread
      have hsame : read = octets := Base64.encode_inj (hb.symm.trans htext)
      rw [hread, hsame]
    · exact absurd (encoded_iff.mpr ⟨a,octets,htext⟩) hno

theorem malformed_iff : Malformed text ↔ ∀ a octets, core text ≠ Base64.encode a octets := by
  have hnone : (∀ a octets, core text ≠ Base64.encode a octets) ↔ ¬ Encoded text := by
    rw [encoded_iff]
    simp only [not_exists, ne_eq]
  rw [hnone]
  rcases decodeSignature_cases text with ⟨hencoded,read,hread⟩ | ⟨hno,e,herror⟩
  · refine iff_of_false ?_ (not_not_intro hencoded)
    rintro ⟨f,hf,-⟩
    cases hread.symm.trans hf
  · exact iff_of_true ⟨_,herror,rfl⟩ hno

/-- An encoding in either alphabet is read as its octets whatever blanks stand around it, and what
is read is the encoding of its octets. So a text that mixes the alphabets, one whose last group is
not filled up and one whose spare bits are not zero are malformed, and where both alphabets can read
a text they read the same. -/
theorem signature_text_read_exactly :
    (∀ a octets before after, (∀ c ∈ before, isBlank c = true) → (∀ c ∈ after, isBlank c = true) →
      decodeSignature (String.ofList (before ++ (Base64.encode a octets ++ after))) =
        .ok octets) ∧
    (∀ text octets, decodeSignature text = .ok octets ↔
      ∃ a, core text = Base64.encode a octets) ∧
    (∀ text, Malformed text ↔ ∀ a octets, core text ≠ Base64.encode a octets) ∧
    (∀ text, Base64.Mixed (core text) ∨ (core text).length % 4 ≠ 0 ∨ Base64.Loose (core text) →
      Malformed text) ∧
    (∀ bs octets octets', Base64.decode .urlSafe bs = .ok octets →
      Base64.decode .standard bs = .ok octets' → octets = octets') := by
  refine ⟨?_,fun _ _ => decodeSignature_ok_iff,fun _ => malformed_iff,?_,?_⟩
  · intro a octets before after hbefore hafter
    exact decodeSignature_ok_iff.mpr ⟨a,core_encode hbefore hafter⟩
  · intro text hwrong
    refine malformed_iff.mpr fun a octets htext => ?_
    rw [htext] at hwrong
    rcases hwrong with hmixed | hlength | hloose
    · exact Base64.not_mixed_encode a octets hmixed
    · exact hlength (Base64.length_encode a octets)
    · exact Base64.not_loose_encode a octets hloose
  · intro bs octets octets' hurl hstandard
    exact Base64.decode_agree hurl hstandard

/-- The last two symbols are those in which the alphabets differ, and the group lacks an octet. -/
theorem signature_text_read_exactly_sample :
    decodeSignature " -_8=\n" = .ok [251,255] ∧ decodeSignature "+/8=" = .ok [251,255] ∧
      Malformed "-/8=" ∧ Malformed "-_8" ∧ Malformed "+/9=" ∧
      Base64.decode .urlSafe (Bytes.ofText "AAAA") = .ok [0,0,0] ∧
      Base64.decode .standard (Bytes.ofText "AAAA") = .ok [0,0,0] := by
  obtain ⟨hread,-,-,hmalformed,hagree⟩ := signature_text_read_exactly
  have hurl : " -_8=\n" =
      String.ofList ([' '] ++ (Base64.encode .urlSafe [251,255] ++ ['\n'])) := by
    decide +kernel
  have hstandard : "+/8=" = String.ofList ([] ++ (Base64.encode .standard [251,255] ++ [])) := by
    decide +kernel
  have hloose : core "+/9=" = ['+','/'] ++ [Base64.Alphabet.standard.symbol 61,'='] := by
    decide +kernel
  obtain ⟨octets,hzero⟩ : ∃ octets, Base64.decode .standard (Bytes.ofText "AAAA") = .ok octets :=
    ⟨[0,0,0],by decide +kernel⟩
  have hzeros : Base64.decode .urlSafe (Bytes.ofText "AAAA") = .ok [0,0,0] := by decide +kernel
  have hblank : ∀ {c : Char}, isBlank c = true → ∀ d ∈ [c], isBlank d = true :=
    fun hc => List.forall_mem_singleton.mpr hc
  refine ⟨?_,?_,?_,?_,?_,hzeros,?_⟩
  · rw [hurl]
    exact hread _ _ _ _ (hblank (by decide)) (hblank (by decide))
  · rw [hstandard]
    exact hread _ _ _ _ nofun nofun
  · exact hmalformed _ (.inl ⟨.inl (by decide +kernel),.inr (by decide +kernel)⟩)
  · exact hmalformed _ (.inr (.inl (by decide +kernel)))
  · refine hmalformed _ (.inr (.inr ?_))
    rw [hloose]
    exact .one .standard ['+','/'] (by decide) (by decide)
  · rw [hagree _ _ _ hzeros hzero]
    exact hzero

end WorkloadLogin.X509
