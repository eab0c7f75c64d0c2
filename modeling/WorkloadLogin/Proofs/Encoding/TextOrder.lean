import Mathlib.Data.Char
import Mathlib.Data.List.Lex
import WorkloadLogin.Encoding.Bytes

/-! # The order of texts and the order of their octets

UTF-8 keeps the order of the code points: at the first character in which two texts differ, the
octets of the smaller one are smaller. So texts are sorted by their characters exactly when they are
sorted by their octets.
-/
namespace WorkloadLogin.Bytes
variable {b k m n : Nat} {u v : Bytes} {c d : Char} {cs ds : List Char}

/-! ## Digits -/

/-- Numbers of two digits in base `b` are compared by the first digit before the second. -/
theorem digit_lt (h : m % (b * k) < n % (b * k)) :
    m / b % k < n / b % k ∨ m / b % k = n / b % k ∧ m % b < n % b := by
  rw [Nat.mod_mul, Nat.mod_mul] at h
  rcases Nat.lt_trichotomy (m / b % k) (n / b % k) with hlt | heq | hgt
  · exact .inl hlt
  · rw [heq] at h
    exact .inr ⟨heq,Nat.lt_of_add_lt_add_right h⟩
  · have hb : 0 < b := by
      rcases Nat.eq_zero_or_pos b with rfl | hb
      · simp at hgt
      · exact hb
    have hn : n % b < b := Nat.mod_lt n hb
    have hmul : b * (n / b % k + 1) ≤ b * (m / b % k) := Nat.mul_le_mul_left b hgt
    rw [Nat.mul_succ] at hmul
    omega

/-- The digits of the longest form: three bits, and three times six. -/
theorem digits_lt (h : m < n) (hn : n < 0x200000) :
    m / 262144 % 8 < n / 262144 % 8 ∨ m / 262144 % 8 = n / 262144 % 8 ∧
      (m / 4096 % 64 < n / 4096 % 64 ∨ m / 4096 % 64 = n / 4096 % 64 ∧
        (m / 64 % 64 < n / 64 % 64 ∨ m / 64 % 64 = n / 64 % 64 ∧ m % 64 < n % 64)) := by
  have hwhole : m % (262144 * 8) < n % (262144 * 8) := by
    rwa [Nat.mod_eq_of_lt (h.trans hn), Nat.mod_eq_of_lt hn]
  have hthree : m % (4096 * 64) < n % (4096 * 64) →
      m / 4096 % 64 < n / 4096 % 64 ∨ m / 4096 % 64 = n / 4096 % 64 ∧
        (m / 64 % 64 < n / 64 % 64 ∨ m / 64 % 64 = n / 64 % 64 ∧ m % 64 < n % 64) :=
    fun h => (digit_lt h).imp_right fun ⟨heq,hlt⟩ => ⟨heq,digit_lt (b := 64) (k := 64) hlt⟩
  exact (digit_lt hwhole).imp_right fun ⟨heq,hlt⟩ => ⟨heq,hthree hlt⟩

/-! ## Characters -/

theorem cons_ofNat_lt_iff (hm : m < 256) (hn : n < 256) :
    UInt8.ofNat m :: u < UInt8.ofNat n :: v ↔ m < n ∨ m = n ∧ u < v := by
  rw [List.cons_lt_cons_iff, UInt8.lt_iff_toNat_lt, ← UInt8.toNat_inj, UInt8.toNat_ofNat_of_lt' hm,
    UInt8.toNat_ofNat_of_lt' hn]

theorem encodeChar_append_lt (h : c < d) (u v : Bytes) :
    String.utf8EncodeChar c ++ u < String.utf8EncodeChar d ++ v := by
  have hlt : c.val.toNat < d.val.toNat := h
  have hmax : d.val.toNat < 0x110000 := by
    rcases d.valid with hlow | ⟨-,hhigh⟩
    · exact hlow.trans (by decide)
    · exact hhigh
  have hdigits := digits_lt hlt (hmax.trans (by decide))
  unfold String.utf8EncodeChar
  generalize c.val.toNat = m at *
  generalize d.val.toNat = n at *
  dsimp only
  -- a longer form starts with a larger octet, and forms of one length are compared digit by digit
  split_ifs <;>
    simp (disch := omega) only [List.cons_append, List.nil_append, cons_ofNat_lt_iff] <;> omega

/-! ## Texts -/

theorem utf8_lt (h : cs < ds) : utf8 cs < utf8 ds := by
  induction h with
  | @nil d ds =>
    have hne : utf8 (d :: ds) ≠ [] := by
      simp [utf8, String.utf8EncodeChar_ne_nil]
    obtain ⟨octet,octets,hoctets⟩ := List.exists_cons_of_ne_nil hne
    rw [hoctets]
    exact .nil
  | rel h =>
    simp only [utf8, List.flatMap_cons]
    exact encodeChar_append_lt h _ _
  | @cons c cs ds _ ih =>
    simp only [utf8, List.flatMap_cons] at ih ⊢
    exact List.append_left_lt ih

theorem utf8_lt_iff : utf8 cs < utf8 ds ↔ cs < ds := by
  refine ⟨fun h => ?_,utf8_lt⟩
  rcases lt_trichotomy cs ds with hlt | rfl | hgt
  · exact hlt
  · exact absurd h (List.lt_irrefl _)
  · exact absurd h (List.lt_asymm (utf8_lt hgt))

theorem ofText_lt_iff {s t : String} : ofText s < ofText t ↔ s < t := by
  rw [String.lt_iff]
  exact utf8_lt_iff

end WorkloadLogin.Bytes
