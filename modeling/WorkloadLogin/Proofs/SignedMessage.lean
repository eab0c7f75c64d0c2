import WorkloadLogin.Proofs.SigningTime
import WorkloadLogin.Verifier

/-! # What a signed message determines

A message fixes the second of its signing time and what the bundle and the role are in a row. Where
the bundle ends and the role starts is not part of it: an end of one bundle may stand at the start
of another role.
-/
namespace WorkloadLogin
open SigningTime

variable {d₁ d₂ : SignatureData}

namespace SignatureData

/-- The signing time is in a year that four digits show. -/
def InRange (d : SignatureData) : Prop := FourDigits (utcDate d.signingTime.seconds)

/-- The bundle of `d₂` goes further than that of `d₁`, by what its role lacks at the start. -/
def Shifted (d₁ d₂ : SignatureData) : Prop :=
  ∃ moved, d₂.bundle = d₁.bundle ++ moved ∧ d₁.role = moved ++ d₂.role

theorem append_eq_append_iff {a b c e : String} :
    a ++ b = c ++ e ↔
      (∃ m, c = a ++ m ∧ b = m ++ e) ∨ ∃ m, a = c ++ m ∧ e = m ++ b := by
  simp only [← String.toList_inj, String.toList_append, List.append_eq_append_iff]
  constructor
  · rintro (⟨m,h⟩ | ⟨m,h⟩)
    · exact .inl ⟨String.ofList m,by simpa using h⟩
    · exact .inr ⟨String.ofList m,by simpa using h⟩
  · rintro (⟨m,h⟩ | ⟨m,h⟩)
    · exact .inl ⟨m.toList,h⟩
    · exact .inr ⟨m.toList,h⟩

theorem message_toList (d : SignatureData) : d.message.toList =
    (canonical d.signingTime).toList ++ (d.bundle ++ d.role).toList := by
  simp [message]

/-- The canonical times have one length, so that equal messages split after them. -/
theorem message_eq_iff_append (h₁ : d₁.InRange) (h₂ : d₂.InRange) :
    d₁.message = d₂.message ↔ d₁.signingTime.seconds = d₂.signingTime.seconds ∧
      d₁.bundle ++ d₁.role = d₂.bundle ++ d₂.role := by
  have hl := (length_canonical h₁).trans (length_canonical h₂).symm
  rw [← canonical_eq_iff h₁ h₂, ← String.toList_inj, message_toList, message_toList]
  constructor
  · intro h
    obtain ⟨ht,hr⟩ := List.append_inj h hl
    exact ⟨String.toList_inj.mp ht,String.toList_inj.mp hr⟩
  · rintro ⟨ht,hr⟩
    rw [ht, hr]

/-- Equal messages are those of one second in which a part at most has moved between the end of the
bundle and the start of the role; then the roles are the same only if the bundles are. -/
theorem message_eq_iff_shifted (d₁ d₂ : SignatureData) (h₁ : d₁.InRange) (h₂ : d₂.InRange) :
    (d₁.message = d₂.message ↔ d₁.signingTime.seconds = d₂.signingTime.seconds ∧
      (Shifted d₁ d₂ ∨ Shifted d₂ d₁)) ∧
    (d₁.message = d₂.message → (d₁.role = d₂.role ↔ d₁.bundle = d₂.bundle)) := by
  rw [message_eq_iff_append h₁ h₂]
  refine ⟨and_congr_right fun _ => append_eq_append_iff,?_⟩
  rintro ⟨-,h⟩
  constructor
  · intro hr
    rw [hr] at h
    exact String.append_left_inj _ |>.mp h
  · intro hb
    rw [hb] at h
    exact String.append_right_inj _ |>.mp h

theorem message_eq_shifted_role :
    message ⟨⟨0,.zero⟩,"bundle-a","role"⟩ = message ⟨⟨0,.zero⟩,"bundle","-arole"⟩ :=
  (message_eq_iff_shifted _ _ ⟨by decide,by decide⟩ ⟨by decide,by decide⟩).1.mpr
    ⟨rfl,.inr ⟨"-a",rfl,rfl⟩⟩

/-- Neither the bundle nor the role can be told from a message. -/
theorem exists_message_eq_role_ne :
    ¬ ∀ d₁ d₂ : SignatureData, d₁.InRange → d₂.InRange → d₁.message = d₂.message →
      d₁.role = d₂.role ∧ d₁.bundle = d₂.bundle ∧
        d₁.signingTime.seconds = d₂.signingTime.seconds := by
  intro h
  have hr : InRange ⟨⟨0,.zero⟩,"bundle-a","role"⟩ := ⟨by decide,by decide⟩
  have hs : InRange ⟨⟨0,.zero⟩,"bundle","-arole"⟩ := ⟨by decide,by decide⟩
  exact absurd (h _ _ hr hs ((message_eq_iff_append hr hs).mpr ⟨rfl,rfl⟩)).1 (by decide)

end SignatureData
end WorkloadLogin
