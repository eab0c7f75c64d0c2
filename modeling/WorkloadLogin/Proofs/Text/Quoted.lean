import WorkloadLogin.Text.Quoted

/-! # Quoting plain texts

The characters of ASCII from the space to the tilde are printable, so a text of these without the
two characters that are escaped stands between the quotation marks as it is.
-/
namespace WorkloadLogin.Text

/-- Such a character is written as itself. -/
def Plain (c : Char) : Prop := 0x20 ≤ c.toNat ∧ c.toNat ≤ 0x7E ∧ c ≠ '"' ∧ c ≠ '\\'

instance (c : Char) : Decidable (Plain c) :=
  inferInstanceAs (Decidable (_ ∧ _ ∧ _ ∧ _))

/-- The first range ends below the space and every other one starts above the tilde. -/
theorem unprintableRanges_apart :
    unprintableRanges.toList.all (fun r => decide (r.2 < 0x20) || decide (0x7E < r.1)) = true := by
  decide +kernel

theorem isPrintable_ascii {c : Char} (hlow : 0x20 ≤ c.toNat) (hhigh : c.toNat ≤ 0x7E) :
    isPrintable c = true := by
  unfold isPrintable
  rw [Bool.not_eq_true', ← Array.any_toList, List.any_eq_false]
  intro r hr
  have hapart := List.all_eq_true.mp unprintableRanges_apart r hr
  simp only [Bool.or_eq_true, decide_eq_true_eq] at hapart
  simp only [Bool.and_eq_true, decide_eq_true_eq]
  omega

theorem quotedChar_plain {c : Char} (h : Plain c) : quotedChar c = [c] := by
  obtain ⟨hlow,hhigh,hquote,hsolidus⟩ := h
  have hprintable : isPrintable c = true := isPrintable_ascii hlow hhigh
  unfold quotedChar
  split
  · exact absurd rfl hquote
  · exact absurd rfl hsolidus
  -- the four controls stand below the space
  iterate 4 exact absurd hlow (by decide)
  rw [if_pos hprintable]

theorem flatMap_quotedChar {cs : List Char} (h : ∀ c ∈ cs, Plain c) :
    cs.flatMap quotedChar = cs := by
  induction cs with
  | nil => rfl
  | cons c cs ih =>
    rw [List.flatMap_cons, quotedChar_plain (h c List.mem_cons_self),
      ih fun d hd => h d (List.mem_cons_of_mem c hd)]
    rfl

theorem quote_plain {s : String} (h : ∀ c ∈ s.toList, Plain c) : quote s = "\"" ++ s ++ "\"" := by
  apply String.toList_injective
  simp [quote, flatMap_quotedChar h]

end WorkloadLogin.Text
