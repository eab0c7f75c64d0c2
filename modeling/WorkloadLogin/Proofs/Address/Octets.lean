import WorkloadLogin.Encoding.Bytes
import WorkloadLogin.Proofs.Address.Printed

/-! # Addresses as octets

The octets of an address are its number, so other octets make another address. Sixteen octets wrap
an IPv4 address when ten zeros and two full ones stand before the four of that one; the canonical
form of an address is the one that is left without these twelve.
-/
namespace WorkloadLogin

namespace Bytes
variable {bs bs' : Bytes}

/-! ## Numbers in base 256 -/

theorem toNat_concat (bs : Bytes) (b : UInt8) : toNat (bs ++ [b]) = toNat bs * 256 + b.toNat := by
  simp [toNat]

theorem toNat_lt (bs : Bytes) : toNat bs < Nat.pow 256 bs.length := by
  induction bs using List.reverseRecOn with
  | nil => decide
  | append_singleton bs b ih =>
    have hb := b.toNat_lt
    have hpow : Nat.pow 256 (bs ++ [b]).length = Nat.pow 256 bs.length * 256 := by
      rw [List.length_append]
      rfl
    rw [toNat_concat, hpow]
    omega

theorem toNat_append (bs bs' : Bytes) :
    toNat (bs ++ bs') = toNat bs * Nat.pow 256 bs'.length + toNat bs' := by
  induction bs' using List.reverseRecOn with
  | nil => simp [toNat]
  | append_singleton bs' b ih =>
    have hpow : Nat.pow 256 (bs' ++ [b]).length = Nat.pow 256 bs'.length * 256 := by
      rw [List.length_append]
      rfl
    rw [← List.append_assoc, toNat_concat, toNat_concat, ih, hpow, ← Nat.mul_assoc]
    omega

/-- As many octets that make the same number are the same, from the last one on. -/
theorem toNat_inj (hlength : bs.length = bs'.length) (h : toNat bs = toNat bs') : bs = bs' := by
  induction bs using List.reverseRecOn generalizing bs' with
  | nil => exact (List.length_eq_zero_iff.mp hlength.symm).symm
  | append_singleton bs b ih =>
    rcases List.eq_nil_or_concat' bs' with rfl | ⟨bs',b',rfl⟩
    · simp at hlength
    · have hb := b.toNat_lt
      have hb' := b'.toNat_lt
      rw [toNat_concat, toNat_concat] at h
      have hfront : bs = bs' := ih (by simpa using hlength) (by omega)
      have hlast : b = b' := UInt8.toNat_inj.mp (by omega)
      rw [hfront, hlast]

end Bytes

namespace Ip
variable {octets octets' : Bytes} {ip ip' : Ip}

/-! ## Canonical addresses -/

theorem canonical_ofMapped (b : Ipv4) : (v6 (.ofMapped b)).canonical = v4 b := by
  have hb : (Ipv6.ofMapped b).mapped? = some b := Ipv6.mapped?_eq_some_iff.mpr rfl
  simp only [canonical, hb]

theorem canonical_v6 {a : Ipv6} (h : ∀ b, a ≠ .ofMapped b) : (v6 a).canonical = v6 a := by
  have hnone : a.mapped? = none :=
    Option.eq_none_iff_forall_ne_some.mpr fun b hb => h b (Ipv6.mapped?_eq_some_iff.mp hb)
  simp only [canonical, hnone]

/-- An IPv6 address wraps one IPv4 address, or none. -/
theorem wraps_or_not (a : Ipv6) : (∃ b, a = .ofMapped b) ∨ ∀ b, a ≠ .ofMapped b := by
  by_cases hmapped : ∃ b, a = .ofMapped b
  · exact .inl hmapped
  · exact .inr fun b hb => hmapped ⟨b,hb⟩

theorem canonical_eq_v4_iff {b : Ipv4} :
    ip.canonical = v4 b ↔ ip = v4 b ∨ ip = v6 (.ofMapped b) := by
  constructor
  · intro h
    cases ip with
    | v4 a => exact .inl h
    | v6 a =>
      rcases wraps_or_not a with ⟨c,rfl⟩ | hplain
      · rw [canonical_ofMapped] at h
        cases h
        exact .inr rfl
      · rw [canonical_v6 hplain] at h
        cases h
  · rintro (rfl | rfl)
    · rfl
    · exact canonical_ofMapped b

theorem canonical_eq_v6_iff {a : Ipv6} :
    ip.canonical = v6 a ↔ ip = v6 a ∧ ∀ b, a ≠ .ofMapped b := by
  constructor
  · intro h
    cases ip with
    | v4 b => cases h
    | v6 a' =>
      rcases wraps_or_not a' with ⟨b,rfl⟩ | hplain
      · rw [canonical_ofMapped] at h
        cases h
      · rw [canonical_v6 hplain] at h
        cases h
        exact ⟨rfl,hplain⟩
  · rintro ⟨rfl,hplain⟩
    exact canonical_v6 hplain

/-- An IPv4 address and the address that wraps it, either way. -/
inductive Counterpart : Ip → Ip → Prop
  | wrap (b : Ipv4) : Counterpart (v4 b) (v6 (.ofMapped b))
  | unwrap (b : Ipv4) : Counterpart (v6 (.ofMapped b)) (v4 b)

/-- Addresses have one canonical form when they are the same or counterparts. -/
theorem canonical_eq_canonical_iff :
    ip.canonical = ip'.canonical ↔ ip = ip' ∨ Counterpart ip ip' := by
  constructor
  · intro h
    cases hc : ip'.canonical with
    | v4 b =>
      rw [hc] at h
      rcases canonical_eq_v4_iff.mp h with rfl | rfl <;>
        rcases canonical_eq_v4_iff.mp hc with rfl | rfl
      · exact .inl rfl
      · exact .inr (.wrap b)
      · exact .inr (.unwrap b)
      · exact .inl rfl
    | v6 a =>
      rw [hc] at h
      exact .inl ((canonical_eq_v6_iff.mp h).1.trans (canonical_eq_v6_iff.mp hc).1.symm)
  · rintro (rfl | hcounterpart)
    · rfl
    · cases hcounterpart with
      | wrap b => exact (canonical_ofMapped b).symm
      | unwrap b => exact canonical_ofMapped b

/-! ## Unwrapped octets -/

/-- Four or sixteen octets that make the number of the address. -/
inductive Octets : Bytes → Ip → Prop
  | v4 {octets : Bytes} {a : Ipv4} (hlength : octets.length = 4) (h : a.toNat = octets.toNat) :
      Octets octets (.v4 a)
  | v6 {octets : Bytes} {a : Ipv6} (hlength : octets.length = 16) (h : a.toNat = octets.toNat) :
      Octets octets (.v6 a)

theorem toNat_ofNat_octets (w : Nat) (h : Nat.pow 256 octets.length = Nat.pow 2 w) :
    (BitVec.ofNat w octets.toNat).toNat = octets.toNat := by
  have hlt := octets.toNat_lt
  rw [h] at hlt
  rw [BitVec.toNat_ofNat]
  exact Nat.mod_eq_of_lt hlt

theorem ofBytes?_eq_some_iff : ofBytes? octets = some ip ↔ Octets octets ip := by
  change (if octets.length = 4 then some (v4 (.ofNat 32 octets.toNat))
    else if octets.length = 16 then some (v6 (.ofNat 128 octets.toNat)) else none) = some ip ↔ _
  by_cases h₄ : octets.length = 4
  · have hnumber : (BitVec.ofNat 32 octets.toNat).toNat = octets.toNat :=
      toNat_ofNat_octets 32 (by rw [h₄])
    rw [if_pos h₄, Option.some.injEq]
    constructor
    · rintro rfl
      exact .v4 h₄ hnumber
    · rintro (⟨-,h⟩ | ⟨h₁₆,-⟩)
      · rw [← h, BitVec.ofNat_toNat, BitVec.setWidth_eq]
      · omega
  · rw [if_neg h₄]
    by_cases h₁₆ : octets.length = 16
    · have hnumber : (BitVec.ofNat 128 octets.toNat).toNat = octets.toNat :=
        toNat_ofNat_octets 128 (by rw [h₁₆])
      rw [if_pos h₁₆, Option.some.injEq]
      constructor
      · rintro rfl
        exact .v6 h₁₆ hnumber
      · rintro (⟨h,-⟩ | ⟨-,h⟩)
        · exact absurd h h₄
        · rw [← h, BitVec.ofNat_toNat, BitVec.setWidth_eq]
    · rw [if_neg h₁₆]
      constructor
      · nofun
      · rintro (⟨h,-⟩ | ⟨h,-⟩)
        · exact absurd h h₄
        · exact absurd h h₁₆

theorem Octets.inj (h : Octets octets ip) (h' : Octets octets' ip) : octets = octets' := by
  cases h with
  | v4 hlength h =>
    cases h' with
    | v4 hlength' h' => exact Bytes.toNat_inj (hlength.trans hlength'.symm) (h.symm.trans h')
  | v6 hlength h =>
    cases h' with
    | v6 hlength' h' => exact Bytes.toNat_inj (hlength.trans hlength'.symm) (h.symm.trans h')

theorem Octets.unique (h : Octets octets ip) (h' : Octets octets ip') : ip = ip' :=
  Option.some.inj ((ofBytes?_eq_some_iff.mpr h).symm.trans (ofBytes?_eq_some_iff.mpr h'))

/-- What stands before the octets of a wrapped IPv4 address. -/
def wrapping : Bytes := List.replicate 10 0 ++ [0xFF,0xFF]

def unwrapped (octets : Bytes) : Bytes :=
  if octets.length = 16 ∧ octets.take 12 = wrapping then octets.drop 12 else octets

theorem toNat_take_drop (h : octets.length = 16) :
    octets.toNat = Bytes.toNat (octets.take 12) * 4294967296 + Bytes.toNat (octets.drop 12) ∧
      Bytes.toNat (octets.drop 12) < 4294967296 := by
  have hlength : (octets.drop 12).length = 4 := by
    rw [List.length_drop]
    omega
  have hlt := Bytes.toNat_lt (octets.drop 12)
  have happend := Bytes.toNat_append (octets.take 12) (octets.drop 12)
  rw [hlength] at hlt happend
  rw [List.take_append_drop] at happend
  exact ⟨happend,hlt⟩

/-- The canonical form of an address has the unwrapped octets. -/
theorem Octets.unwrapped (h : Octets octets ip) : Octets (unwrapped octets) ip.canonical := by
  unfold Ip.unwrapped
  cases h with
  | v4 hlength h =>
    rw [if_neg (by omega)]
    exact .v4 hlength h
  | @v6 a hlength h =>
    obtain ⟨hsplit,hlow⟩ := toNat_take_drop hlength
    have hmark : Bytes.toNat wrapping = 0xFFFF := by decide
    by_cases hfront : octets.take 12 = wrapping
    · have hb : (BitVec.ofNat 32 (Bytes.toNat (octets.drop 12))).toNat =
          Bytes.toNat (octets.drop 12) := by
        rw [BitVec.toNat_ofNat]
        exact Nat.mod_eq_of_lt hlow
      have ha : a = Ipv6.ofMapped (.ofNat 32 (Bytes.toNat (octets.drop 12))) := by
        apply BitVec.eq_of_toNat_eq
        rw [h, hsplit, hfront, hmark, Ipv6.toNat_ofMapped, hb]
      rw [if_pos ⟨hlength,hfront⟩, ha, canonical_ofMapped]
      refine .v4 ?_ hb
      rw [List.length_drop]
      omega
    · have hplain : ∀ b, a ≠ .ofMapped b := by
        rintro b rfl
        have hb := b.isLt
        rw [Ipv6.toNat_ofMapped] at h
        refine hfront (Bytes.toNat_inj ?_ ?_)
        · rw [List.length_take, hlength]
          decide
        · rw [hmark]
          omega
      rw [if_neg fun hwrapped => hfront hwrapped.2, canonical_v6 hplain]
      exact .v6 hlength h

/-- Addresses are the same, wrapped or not, when their octets are. -/
theorem canonical_eq_iff (h : Octets octets ip) (h' : Octets octets' ip') :
    ip.canonical = ip'.canonical ↔ Ip.unwrapped octets = Ip.unwrapped octets' := by
  have hcanonical := h.unwrapped
  have hcanonical' := h'.unwrapped
  constructor
  · intro heq
    rw [heq] at hcanonical
    exact hcanonical.inj hcanonical'
  · intro heq
    rw [heq] at hcanonical
    exact hcanonical.unique hcanonical'

end Ip
end WorkloadLogin
