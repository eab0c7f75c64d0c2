import Mathlib.Data.List.Basic
import Mathlib.Data.List.Induction
import WorkloadLogin.Address.Reader
import WorkloadLogin.Proofs.Text.Blank

/-! # Octets and groups

An octet has one spelling, its decimal digits, and so an IPv4 address has one. A group has several:
up to four hexadecimal digits of either case, with or without zeros in front. Each is read wherever
it stands in front of a character that is no digit, and nothing else is.
-/
namespace WorkloadLogin
open Text

namespace Ip
variable {digit? : Char → Option Nat} {base most bound n : Nat} {ds cs rest : List Char}

/-! ## Numerals -/

/-- The number that digits write. -/
def numeral (digit? : Char → Option Nat) (base : Nat) (ds : List Char) : Nat :=
  ds.foldl (fun n c => base * n + (digit? c).getD 0) 0

theorem readNumeral_eq_some_iff :
    readNumeral digit? base most bound cs = some (ds, n, rest) ↔
      (cs = ds ++ rest ∧ (∀ c ∈ ds, (digit? c).isSome = true) ∧
        ∀ c ∈ rest.head?, (digit? c).isSome = false) ∧
      ds ≠ [] ∧ ds.length ≤ most ∧ n = numeral digit? base ds ∧ n < bound := by
  simp only [readNumeral]
  constructor
  · intro h
    split at h
    · cases h
    · rename_i hok
      cases h
      simp only [Bool.or_eq_true, List.isEmpty_iff, decide_eq_true_eq, not_or, Nat.not_lt,
        ge_iff_le, Nat.not_le] at hok
      obtain ⟨⟨hne,hlen⟩,hlt⟩ := hok
      refine ⟨⟨List.takeWhile_append_dropWhile.symm,?_,?_⟩,hne,hlen,rfl,hlt⟩
      · intro c hc
        exact of_mem_takeWhile hc
      · intro c hc
        exact of_mem_head?_dropWhile hc
  · rintro ⟨⟨rfl,hds,hrest⟩,hne,hlen,rfl,hlt⟩
    rw [takeWhile_run hds hrest, dropWhile_run hds hrest]
    unfold numeral at *
    rw [if_neg]
    simp only [Bool.or_eq_true, List.isEmpty_iff, decide_eq_true_eq, not_or, Nat.not_lt,
      ge_iff_le, Nat.not_le]
    exact ⟨⟨hne,hlen⟩,hlt⟩

/-! ## Octets -/

theorem isSome_decimalDigit? (c : Char) : (decimalDigit? c).isSome = isDigit c := by
  unfold decimalDigit?
  split <;> simp [*]

theorem numeral_decimal (h : ∀ c ∈ ds, isDigit c = true) :
    numeral decimalDigit? 10 ds = foldDigits ds := by
  refine List.foldl_ext _ _ _ fun n c hc => ?_
  rw [decimalDigit?, if_pos (h c hc), Option.getD_some]

/-- An octet has at most three digits and no zero in front of another digit. -/
theorem digits_octet : ∀ n < 256, (digits n).length ≤ 3 ∧
    ((digits n).length ≤ 1 ∨ (digits n).head? ≠ some '0') := by
  decide +kernel

theorem readOctet_eq_some_iff :
    readOctet .plain cs = some (n, rest) ↔
      n < 256 ∧ cs = digits n ++ rest ∧ ∀ c ∈ rest.head?, isDigit c = false := by
  unfold readOctet
  constructor
  · intro h
    split at h
    · rename_i ds m rest' hread
      obtain ⟨⟨hcs,hds,hrest⟩,hne,-,hm,hlt⟩ := readNumeral_eq_some_iff.mp hread
      simp only [isSome_decimalDigit?] at hds hrest
      rw [numeral_decimal hds] at hm
      split at h
      · cases h
      · rename_i hok
        cases h
        have hzero : ds.length ≤ 1 ∨ ds.head? ≠ some '0' := by
          simp [AddressSpelling.plain] at hok
          by_cases hlen : ds.length ≤ 1
          · exact .inl hlen
          · exact .inr (hok (by omega))
        rw [hm, digits_foldDigits hne hds hzero]
        exact ⟨hm ▸ hlt,hcs,hrest⟩
    · cases h
  · rintro ⟨hlt,rfl,hrest⟩
    obtain ⟨hlen,hzero⟩ := digits_octet n hlt
    have hds : ∀ c ∈ digits n, isDigit c = true := List.all_eq_true.mp (all_isDigit_digits n)
    have hread : readNumeral decimalDigit? 10 3 256 (digits n ++ rest) =
        some (digits n, n, rest) := by
      refine readNumeral_eq_some_iff.mpr ⟨⟨rfl,?_,?_⟩,Nat.toDigits_ne_nil,hlen,?_,hlt⟩
      · simpa only [isSome_decimalDigit?] using hds
      · simpa only [isSome_decimalDigit?] using hrest
      · rw [numeral_decimal hds, foldDigits_digits]
    rw [hread]
    dsimp only
    rw [if_neg]
    simp [AddressSpelling.plain]
    intro h
    exact hzero.resolve_left (by omega)

/-- An octet is read where a plain one is, however octets may be spelled. -/
theorem readOctet_of_plain {sp : AddressSpelling} (h : readOctet .plain cs = some (n, rest)) :
    readOctet sp cs = some (n, rest) := by
  unfold readOctet at h ⊢
  split at h
  · split at h
    · cases h
    · rename_i hok
      rw [if_neg]
      · exact h
      · simp only [AddressSpelling.plain, Bool.not_false, Bool.true_and] at hok
        simp only [Bool.and_assoc, hok, Bool.and_false]
        exact Bool.false_ne_true
  · cases h

theorem exists_digits_of_readOctet {sp : AddressSpelling} (h : readOctet sp cs = some (n, rest)) :
    ∃ ds, cs = ds ++ rest ∧ ∀ c ∈ ds, isDigit c = true := by
  unfold readOctet at h
  split at h
  · rename_i ds m rest' hread
    obtain ⟨⟨hcs,hds,-⟩,-⟩ := readNumeral_eq_some_iff.mp hread
    simp only [isSome_decimalDigit?] at hds
    split at h
    · cases h
    · cases h
      exact ⟨ds,hcs,hds⟩
  · cases h

/-! ## IPv4 addresses -/

theorem readChar_eq_some_iff {c : Char} : readChar c cs = some rest ↔ cs = c :: rest := by
  unfold readChar
  cases cs with
  | nil => simp
  | cons d cs =>
    by_cases h : c = d
    · simp [h]
    · simp [h, Ne.symm h]

end Ip

namespace Ipv4
variable {a b c d : Nat}

theorem toNat_ofOctets (ha : a < 256) (hb : b < 256) (hc : c < 256) (hd : d < 256) :
    (ofOctets a b c d).toNat = ((a * 256 + b) * 256 + c) * 256 + d := by
  unfold ofOctets
  rw [BitVec.toNat_ofNat]
  omega

theorem octet_eq (x : Ipv4) (i : Nat) : x.octet i = x.toNat / Nat.pow 256 (3 - i) % 256 := by
  unfold octet
  rw [Nat.shiftRight_eq_div_pow, Nat.pow_mul]
  rfl

theorem octet_lt (x : Ipv4) (i : Nat) : x.octet i < 256 := Nat.mod_lt _ (by decide)

theorem octets_ofOctets (ha : a < 256) (hb : b < 256) (hc : c < 256) (hd : d < 256) :
    (ofOctets a b c d).octet 0 = a ∧ (ofOctets a b c d).octet 1 = b ∧
      (ofOctets a b c d).octet 2 = c ∧ (ofOctets a b c d).octet 3 = d := by
  simp only [octet_eq, toNat_ofOctets ha hb hc hd]
  refine ⟨?_,?_,?_,?_⟩
  · change _ / 16777216 % 256 = a
    omega
  · change _ / 65536 % 256 = b
    omega
  · change _ / 256 % 256 = c
    omega
  · change _ / 1 % 256 = d
    omega

theorem ofOctets_octets (x : Ipv4) :
    ofOctets (x.octet 0) (x.octet 1) (x.octet 2) (x.octet 3) = x := by
  have hlt := x.isLt
  apply BitVec.eq_of_toNat_eq
  rw [toNat_ofOctets (octet_lt x 0) (octet_lt x 1) (octet_lt x 2) (octet_lt x 3)]
  simp only [octet_eq]
  change ((x.toNat / 16777216 % 256 * 256 + x.toNat / 65536 % 256) * 256 +
    x.toNat / 256 % 256) * 256 + x.toNat / 1 % 256 = x.toNat
  omega

end Ipv4

namespace Ip
variable {cs rest : List Char}

/-- An IPv4 address is read from its octets, and from no other text. -/
theorem readV4_eq_some_iff {a : Ipv4} :
    readV4 .plain cs = some (a, rest) ↔
      cs = a.render ++ rest ∧ ∀ c ∈ rest.head?, isDigit c = false := by
  simp only [readV4, Option.bind_eq_bind, Option.bind_eq_some_iff, readOctet_eq_some_iff,
    readChar_eq_some_iff, Prod.exists]
  have hdot : isDigit '.' = false := rfl
  constructor
  · rintro ⟨o₀,_,⟨h₀,rfl,-⟩,_,rfl,o₁,_,⟨h₁,rfl,-⟩,_,rfl,o₂,_,⟨h₂,rfl,-⟩,_,rfl,o₃,_,
      ⟨h₃,rfl,hrest⟩,hend⟩
    cases hend
    obtain ⟨e₀,e₁,e₂,e₃⟩ := Ipv4.octets_ofOctets h₀ h₁ h₂ h₃
    unfold Ipv4.render
    rw [e₀, e₁, e₂, e₃]
    exact ⟨by simp,hrest⟩
  · rintro ⟨rfl,hrest⟩
    have hfront : ∀ tail : List Char, ∀ c ∈ ('.' :: tail).head?, isDigit c = false := by
      intro tail c hc
      cases hc
      exact hdot
    refine ⟨a.octet 0,_,⟨a.octet_lt 0,?_,hfront _⟩,_,rfl,a.octet 1,_,⟨a.octet_lt 1,rfl,hfront _⟩,
      _,rfl,a.octet 2,_,⟨a.octet_lt 2,rfl,hfront _⟩,_,rfl,a.octet 3,rest,
      ⟨a.octet_lt 3,rfl,hrest⟩,?_⟩
    · simp [Ipv4.render]
    · rw [Ipv4.ofOctets_octets]
      rfl

theorem readV4_of_plain {sp : AddressSpelling} {a : Ipv4} (h : readV4 .plain cs = some (a, rest)) :
    readV4 sp cs = some (a, rest) := by
  simp only [readV4, Option.bind_eq_bind, Option.bind_eq_some_iff, Prod.exists] at h ⊢
  obtain ⟨o₀,_,h₀,_,hdot₀,o₁,_,h₁,_,hdot₁,o₂,_,h₂,_,hdot₂,o₃,_,h₃,hend⟩ := h
  exact ⟨o₀,_,readOctet_of_plain h₀,_,hdot₀,o₁,_,readOctet_of_plain h₁,_,hdot₁,o₂,_,
    readOctet_of_plain h₂,_,hdot₂,o₃,_,readOctet_of_plain h₃,hend⟩

/-- An IPv4 address starts with digits and a point. -/
theorem exists_digits_of_readV4 {sp : AddressSpelling} {r : Ipv4 × List Char}
    (h : readV4 sp cs = some r) :
    ∃ ds behind, cs = ds ++ '.' :: behind ∧ ∀ c ∈ ds, isDigit c = true := by
  simp only [readV4, Option.bind_eq_bind, Option.bind_eq_some_iff, Prod.exists,
    readChar_eq_some_iff] at h
  obtain ⟨_,_,h₀,_,rfl,-⟩ := h
  obtain ⟨ds,rfl,hds⟩ := exists_digits_of_readOctet h₀
  exact ⟨ds,_,rfl,hds⟩

/-! ## Groups -/

variable {ds : List Char} {g : Nat}

theorem hexValue?_lt {c : Char} {d : Nat} (h : hexValue? c = some d) : d < 16 := by
  unfold hexValue? at h
  split at h
  · rename_i hc
    cases h
    have hle := digitValue_le_nine hc
    omega
  · split at h
    · rename_i hc
      simp only [Bool.and_eq_true, decide_eq_true_eq] at hc
      have hle : c.toNat ≤ 102 := hc.2
      cases h
      simp
      omega
    · split at h
      · rename_i hc
        simp only [Bool.and_eq_true, decide_eq_true_eq] at hc
        have hle : c.toNat ≤ 70 := hc.2
        cases h
        simp
        omega
      · cases h

theorem hexNumber?_append (ds : List Char) (c : Char) :
    hexNumber? (ds ++ [c]) = (hexNumber? ds).bind fun n => (hexValue? c).map (n * 16 + ·) := by
  unfold hexNumber?
  rw [List.foldlM_append]
  simp

theorem numeral_append (digit? : Char → Option Nat) (base : Nat) (ds : List Char) (c : Char) :
    numeral digit? base (ds ++ [c]) = base * numeral digit? base ds + (digit? c).getD 0 := by
  simp [numeral]

/-- Digits that are all hexadecimal write one number, which has no more of them. -/
theorem hexNumber?_eq_some_iff : hexNumber? ds = some g ↔
    (∀ c ∈ ds, (hexValue? c).isSome = true) ∧ g = numeral hexValue? 16 ds := by
  induction ds using List.reverseRecOn generalizing g with
  | nil =>
    simp only [hexNumber?, numeral, List.foldlM_nil, List.foldl_nil]
    simp [eq_comm (a := g)]
  | append_singleton ds c ih =>
    rw [hexNumber?_append, Option.bind_eq_some_iff]
    simp only [ih, numeral_append, List.mem_append, List.mem_singleton, Option.map_eq_some_iff]
    constructor
    · rintro ⟨n,⟨hds,rfl⟩,d,hd,rfl⟩
      refine ⟨?_,?_⟩
      · rintro b (hb | rfl)
        · exact hds b hb
        · simp [hd]
      · rw [hd, Option.getD_some, Nat.mul_comm]
    · rintro ⟨hall,rfl⟩
      obtain ⟨d,hd⟩ := Option.isSome_iff_exists.mp (hall c (.inr rfl))
      refine ⟨_,⟨fun b hb => hall b (.inl hb),rfl⟩,d,hd,?_⟩
      rw [hd, Option.getD_some, Nat.mul_comm]

theorem numeral_hex_lt (h : ∀ c ∈ ds, (hexValue? c).isSome = true) :
    numeral hexValue? 16 ds < Nat.pow 16 ds.length := by
  induction ds using List.reverseRecOn with
  | nil => simp [numeral]
  | append_singleton ds c ih =>
    obtain ⟨d,hd⟩ := Option.isSome_iff_exists.mp (h c (by simp))
    have hlt := ih fun b hb => h b (List.mem_append_left _ hb)
    have hdigit := hexValue?_lt hd
    have hpow : Nat.pow 16 (ds ++ [c]).length = Nat.pow 16 ds.length * 16 := by
      rw [List.length_append]
      rfl
    rw [numeral_append, hd, Option.getD_some, hpow]
    omega

/-- One to four hexadecimal digits write a group. -/
structure GroupText (ds : List Char) (g : Nat) : Prop where
  ne_nil : ds ≠ []
  length_le : ds.length ≤ 4
  value : hexNumber? ds = some g

theorem GroupText.hex (h : GroupText ds g) : ∀ c ∈ ds, (hexValue? c).isSome = true :=
  (hexNumber?_eq_some_iff.mp h.value).1

theorem GroupText.lt (h : GroupText ds g) : g < 65536 := by
  obtain ⟨hds,rfl⟩ := hexNumber?_eq_some_iff.mp h.value
  have hlt := numeral_hex_lt hds
  have hpow : Nat.pow 16 ds.length ≤ Nat.pow 16 4 := Nat.pow_le_pow_right (by decide) h.length_le
  exact Nat.lt_of_lt_of_le hlt hpow

theorem readGroup_eq_some_iff :
    readGroup cs = some (g, rest) ↔
      ∃ ds, GroupText ds g ∧ cs = ds ++ rest ∧ ∀ c ∈ rest.head?, (hexValue? c).isSome = false := by
  simp only [readGroup, Option.map_eq_some_iff, Prod.exists, readNumeral_eq_some_iff]
  constructor
  · rintro ⟨ds,_,_,⟨⟨rfl,hds,hrest⟩,hne,hlen,rfl,-⟩,heq⟩
    cases heq
    exact ⟨ds,⟨hne,hlen,hexNumber?_eq_some_iff.mpr ⟨hds,rfl⟩⟩,rfl,hrest⟩
  · rintro ⟨ds,h,rfl,hrest⟩
    have hvalue := (hexNumber?_eq_some_iff.mp h.value).2
    exact ⟨ds,g,rest,⟨⟨rfl,h.hex,hrest⟩,h.ne_nil,h.length_le,hvalue,h.lt⟩,rfl⟩

end Ip
end WorkloadLogin
