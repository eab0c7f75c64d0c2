import WorkloadLogin.Text.Decimal

/-! # Numerals that are written and read back

A numeral of fixed width holds digits only and folds back to its number, so that a reader of that
many digits takes exactly what was written. Digits without a zero in front of them are in turn those
of the number that they fold to.
-/
namespace WorkloadLogin.Text

theorem foldDigits_eq_ofDigitChars (cs : List Char) : foldDigits cs = Nat.ofDigitChars 10 cs 0 :=
  rfl

@[simp] theorem foldDigits_digits (n : Nat) : foldDigits (digits n) = n :=
  Nat.ofDigitChars_ten_toDigits

@[simp] theorem foldDigits_digitsPadded (width n : Nat) :
    foldDigits (digitsPadded width n) = n := by
  rw [foldDigits_eq_ofDigitChars, digitsPadded, Nat.ofDigitChars_append,
    Nat.ofDigitChars_replicate_zero, Nat.mul_zero]
  exact foldDigits_digits n

theorem isDigit_eq (c : Char) : isDigit c = c.isDigit := by
  simp only [isDigit, Char.isDigit, Char.le_def]

theorem toNat_of_isDigit {c : Char} (h : isDigit c = true) : 48 ≤ c.toNat ∧ c.toNat ≤ 57 := by
  simp only [isDigit, Bool.and_eq_true, decide_eq_true_eq] at h
  exact ⟨h.1,h.2⟩

theorem digitValue_eq (c : Char) : digitValue c = c.toNat - 48 := rfl

theorem digitValue_le_nine {c : Char} (h : isDigit c = true) : digitValue c ≤ 9 := by
  have hc := toNat_of_isDigit h
  rw [digitValue_eq]
  omega

theorem digits_ne_nil (n : Nat) : digits n ≠ [] := Nat.toDigits_ne_nil

theorem all_isDigit_digits (n : Nat) : (digits n).all isDigit = true := by
  rw [List.all_eq_true]
  intro c hc
  rw [isDigit_eq]
  exact Nat.isDigit_of_mem_toDigits (by decide) (by decide) hc

theorem all_isDigit_digitsPadded (width n : Nat) : (digitsPadded width n).all isDigit = true := by
  rw [digitsPadded, List.all_append, all_isDigit_digits, List.all_replicate]
  simp [isDigit]

theorem length_digitsPadded {width n : Nat} (hw : 0 < width) (hn : n < Nat.pow 10 width) :
    (digitsPadded width n).length = width := by
  have h := (Nat.length_toDigits_le_iff (by decide : 1 < 10) hw).mpr hn
  simp only [digitsPadded, digits, List.length_append, List.length_replicate]
  omega

/-! ## Digits of the number that they write -/

theorem digits_digitValue {c : Char} (h : isDigit c = true) : digits (digitValue c) = [c] := by
  have hc := toNat_of_isDigit h
  have hle := digitValue_le_nine h
  have hchar : Nat.digitChar (digitValue c) = c := by
    apply Char.toNat_inj.mp
    rw [Nat.toNat_digitChar_of_lt_ten (by omega), digitValue_eq]
    omega
  unfold digits
  rw [Nat.toDigits_of_lt_base (by omega), hchar]

theorem digits_append {cs : List Char} {n : Nat} (hn : 0 < n) (h : ∀ c ∈ cs, isDigit c = true) :
    digits n ++ cs = digits (cs.foldl (fun n c => 10 * n + digitValue c) n) := by
  induction cs generalizing n with
  | nil => simp
  | cons c cs ih =>
    have hc := h c List.mem_cons_self
    have hle := digitValue_le_nine hc
    have hstep : digits n ++ digits (digitValue c) = digits (10 * n + digitValue c) :=
      Nat.toDigits_append_toDigits (by decide) hn (by omega)
    have hrest := ih (n := 10 * n + digitValue c) (by omega)
      fun d hd => h d (List.mem_cons_of_mem _ hd)
    rw [List.foldl_cons, ← hrest, ← hstep, digits_digitValue hc]
    simp

theorem digits_foldDigits {cs : List Char} (hne : cs ≠ []) (h : ∀ c ∈ cs, isDigit c = true)
    (hzero : cs.length ≤ 1 ∨ cs.head? ≠ some '0') : digits (foldDigits cs) = cs := by
  obtain ⟨c,cs,rfl⟩ := List.exists_cons_of_ne_nil hne
  have hc := h c List.mem_cons_self
  have hone := digits_digitValue hc
  have hfold : foldDigits (c :: cs) =
      cs.foldl (fun n c => 10 * n + digitValue c) (digitValue c) := by
    simp [foldDigits]
  rw [hfold]
  by_cases hpos : 0 < digitValue c
  · rw [← digits_append hpos fun d hd => h d (List.mem_cons_of_mem _ hd), hone]
    simp
  · have hvalue : digitValue c = 0 := by omega
    have hchar : c = '0' := by
      rw [hvalue] at hone
      exact (List.cons.inj hone).1.symm
    have hcs : cs = [] := by
      rcases hzero with hlen | hhead
      · simpa using hlen
      · simp [hchar] at hhead
    rw [hcs]
    exact hone

end WorkloadLogin.Text
