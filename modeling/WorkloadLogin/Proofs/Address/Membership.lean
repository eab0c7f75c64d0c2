import WorkloadLogin.Address.Network
import WorkloadLogin.Proofs.Address.Printed

/-! # Addresses of a network

An address belongs to a network of its family when the leading bits of the two are the same, as many
as the network's length says. The other bits of the network's address say nothing, whatever they
are. A network of wrapped IPv4 addresses holds the same addresses as the IPv4 network, wrapped.
-/
namespace WorkloadLogin

/-! ## Leading bits -/

/-- The first `n` bits are the same. -/
def SameLead {w : Nat} (n : Nat) (a b : BitVec w) : Prop := ∀ i < n, a.getMsbD i = b.getMsbD i

instance {w n : Nat} {a b : BitVec w} : Decidable (SameLead n a b) :=
  inferInstanceAs (Decidable (∀ i < n, a.getMsbD i = b.getMsbD i))

theorem SameLead.symm {w n : Nat} {a b : BitVec w} (h : SameLead n a b) : SameLead n b a :=
  fun i hi => (h i hi).symm

theorem SameLead.trans {w n : Nat} {a b c : BitVec w} (hab : SameLead n a b)
    (hbc : SameLead n b c) : SameLead n a c := fun i hi => (hab i hi).trans (hbc i hi)

/-- Without the bits behind them, leading bits are the same as numbers, too. -/
theorem ushiftRight_eq_iff {w n : Nat} (hn : n ≤ w) (a b : BitVec w) :
    a >>> (w - n) = b >>> (w - n) ↔ SameLead n a b := by
  rw [BitVec.eq_of_getLsbD_eq_iff]
  simp only [BitVec.getLsbD_ushiftRight]
  constructor
  · intro h i hi
    have hbit := h (n - 1 - i) (by omega)
    rw [show w - n + (n - 1 - i) = w - 1 - i by omega] at hbit
    rw [BitVec.getMsbD_eq_getLsbD, BitVec.getMsbD_eq_getLsbD, hbit]
  · intro h j hj
    by_cases hlow : j < n
    · have hbit := h (n - 1 - j) (by omega)
      rw [BitVec.getMsbD_eq_getLsbD, BitVec.getMsbD_eq_getLsbD,
        show w - 1 - (n - 1 - j) = w - n + j by omega] at hbit
      simpa [show n - 1 - j < w by omega] using hbit
    · rw [BitVec.getLsbD_of_ge _ _ (by omega), BitVec.getLsbD_of_ge _ _ (by omega)]

namespace Network
variable {net net' : Network} {ip : Ip}

/-! ## Membership -/

/-- The address is of the network's family and starts with the bits that the network sets. -/
inductive Covers : Network → Ip → Prop
  | v4 {a b : Ipv4} {n : Fin 33} (h : SameLead n.val a b) : Covers (.v4 a n) (.v4 b)
  | v6 {a b : Ipv6} {n : Fin 129} (h : SameLead n.val a b) : Covers (.v6 a n) (.v6 b)

theorem covers_v4_iff {a b : Ipv4} {n : Fin 33} :
    Covers (.v4 a n) (.v4 b) ↔ SameLead n.val a b :=
  ⟨fun h => by cases h; assumption,.v4⟩

theorem covers_v6_iff {a b : Ipv6} {n : Fin 129} :
    Covers (.v6 a n) (.v6 b) ↔ SameLead n.val a b :=
  ⟨fun h => by cases h; assumption,.v6⟩

theorem contains_iff : net.contains ip = true ↔ net.Covers ip := by
  cases net with
  | v4 a n =>
    cases ip with
    | v4 b =>
      rw [covers_v4_iff, ← ushiftRight_eq_iff (Nat.le_of_lt_succ n.isLt)]
      exact beq_iff_eq
    | v6 b => exact ⟨nofun,nofun⟩
  | v6 a n =>
    cases ip with
    | v4 b => exact ⟨nofun,nofun⟩
    | v6 b =>
      rw [covers_v6_iff, ← ushiftRight_eq_iff (Nat.le_of_lt_succ n.isLt)]
      exact beq_iff_eq

instance : Decidable (net.Covers ip) := decidable_of_iff (net.contains ip = true) contains_iff

/-- Networks that differ in their host bits at most. -/
inductive Agrees : Network → Network → Prop
  | v4 {a b : Ipv4} {n : Fin 33} (h : SameLead n.val a b) : Agrees (.v4 a n) (.v4 b n)
  | v6 {a b : Ipv6} {n : Fin 129} (h : SameLead n.val a b) : Agrees (.v6 a n) (.v6 b n)

theorem Agrees.refl (net : Network) : Agrees net net := by
  cases net with
  | v4 a n => exact .v4 fun i hi => rfl
  | v6 a n => exact .v6 fun i hi => rfl

theorem Agrees.symm (h : Agrees net net') : Agrees net' net := by
  cases h with
  | v4 h => exact .v4 h.symm
  | v6 h => exact .v6 h.symm

theorem Covers.of_agrees (hcovers : net.Covers ip) (h : Agrees net net') : net'.Covers ip := by
  cases h with
  | v4 h =>
    cases hcovers with
    | v4 hlead => exact .v4 (h.symm.trans hlead)
  | v6 h =>
    cases hcovers with
    | v6 hlead => exact .v6 (h.symm.trans hlead)

/-! ## Wrapped networks -/

/-- The network of the wrapped addresses of an IPv4 network. -/
def mapped (a : Ipv4) (n : Fin 33) : Network := .v6 (.ofMapped a) ⟨n.val + 96,by omega⟩

theorem ofMapped_ushiftRight_eq_iff {k : Nat} (hk : k ≤ 32) (a b : Ipv4) :
    Ipv6.ofMapped a >>> k = Ipv6.ofMapped b >>> k ↔ a >>> k = b >>> k := by
  obtain ⟨p,q,hp,hpq,hshift⟩ : ∃ p q, 0 < p ∧ 4294967296 = p * q ∧
      ∀ x : Nat, x >>> k = x / p := by
    refine ⟨Nat.pow 2 k,Nat.pow 2 (32 - k),Nat.pow_pos (by decide),?_,
      fun x => Nat.shiftRight_eq_div_pow x k⟩
    have hadd : Nat.pow 2 (k + (32 - k)) = Nat.pow 2 k * Nat.pow 2 (32 - k) := Nat.pow_add 2 k _
    rw [← hadd, show k + (32 - k) = 32 by omega]
  have hdiv : ∀ c : Ipv4, (4294967296 * 0xFFFF + c.toNat) / p = q * 0xFFFF + c.toNat / p := by
    intro c
    rw [hpq, Nat.mul_assoc, Nat.mul_add_div hp]
  rw [← BitVec.toNat_inj, ← BitVec.toNat_inj]
  simp only [BitVec.toNat_ushiftRight, hshift, Ipv6.toNat_ofMapped, hdiv]
  omega

/-- The wrapped network covers what the network covers, wrapped. -/
theorem covers_mapped_iff {a b : Ipv4} {n : Fin 33} :
    (mapped a n).Covers (.v6 (.ofMapped b)) ↔ Covers (.v4 a n) (.v4 b) := by
  have hn := n.isLt
  unfold mapped
  rw [covers_v6_iff, covers_v4_iff, ← ushiftRight_eq_iff (by dsimp only; omega),
    ← ushiftRight_eq_iff (by omega)]
  rw [show 128 - (n.val + 96) = 32 - n.val by omega]
  exact ofMapped_ushiftRight_eq_iff (by omega) a b

end Network
end WorkloadLogin
