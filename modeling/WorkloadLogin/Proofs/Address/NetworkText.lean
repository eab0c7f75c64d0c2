import WorkloadLogin.Address.Network
import WorkloadLogin.Proofs.Address.Printed

/-! # Printed networks

A network is printed as its address, host bits included, and its length behind a solidus. What is
printed is read back as the same network, of either family and whatever form the address takes.
-/
namespace WorkloadLogin.Network
open Text
variable {bound most n : Nat}

/-- The address with its host bits. -/
def address : Network → Ip
  | v4 a _ => .v4 a
  | v6 a _ => .v6 a

/-- How many leading bits count. -/
def length : Network → Nat
  | v4 _ n => n.val
  | v6 _ n => n.val

theorem render_eq (net : Network) :
    net.render = net.address.render ++ "/" ++ decimal net.length := by
  apply String.toList_injective
  cases net <;> simp [render, address, Ip.render, decimal, length]

/-- A length is read from its digits to the end of the text. -/
theorem readLength_digits (h : n < bound) (hmost : (digits n).length ≤ most) :
    readLength bound most ('/' :: digits n) = some (n, []) := by
  have hdigits : ∀ c ∈ digits n, (Ip.decimalDigit? c).isSome = true := by
    intro c hc
    rw [Ip.isSome_decimalDigit?]
    exact List.all_eq_true.mp (all_isDigit_digits n) c hc
  have hread : Ip.readNumeral Ip.decimalDigit? 10 most bound (digits n) =
      some (digits n, n, []) := by
    refine Ip.readNumeral_eq_some_iff.mpr ⟨⟨(List.append_nil _).symm,hdigits,nofun⟩,
      Nat.toDigits_ne_nil,hmost,?_,h⟩
    rw [Ip.numeral_decimal (List.all_eq_true.mp (all_isDigit_digits n)), foldDigits_digits]
  simp [readLength, Ip.readChar, hread]

theorem head_solidus (cs : List Char) : ∀ c ∈ ('/' :: cs).head?, c = ':' ∨ c = '/' := by
  intro c hc
  cases hc
  exact .inr rfl

theorem length_digits_le (h : n < 129) : (digits n).length ≤ 3 :=
  (Nat.length_toDigits_le_iff (by decide : 1 < 10) (by decide)).mpr (Nat.lt_trans h (by decide))

theorem readV4_render (a : Ipv4) (n : Fin 33) :
    readV4 (v4 a n).render.toList = some (v4 a n, []) := by
  have hlength : (digits n.val).length ≤ 2 :=
    (Nat.length_toDigits_le_iff (by decide : 1 < 10) (by decide)).mpr
      (Nat.lt_trans n.isLt (by decide))
  rw [render, String.toList_ofList]
  simp only [readV4, Ip.readV4_octets (head_solidus _), readLength_digits n.isLt hlength,
    Option.bind_eq_bind, Option.bind_some]
  exact congrArg (fun m => some (v4 a m, [])) (Fin.ofNat_val_eq_self n)

theorem readV6_render (a : Ipv6) (n : Fin 129) :
    readV4 (v6 a n).render.toList = none ∧ readV6 (v6 a n).render.toList = some (v6 a n, []) := by
  have hwritten := Ip.written_renderV6 a
  have hread : Ip.readV6 .network (a.render ++ '/' :: digits n.val) =
      some (a, '/' :: digits n.val) := Ip.readV6_append hwritten (by decide) (.inr ⟨_,rfl⟩)
  rw [render, String.toList_ofList]
  constructor
  · simp only [readV4, Ip.readV4_written hwritten (head_solidus _)]
    rfl
  · simp only [readV6, hread, readLength_digits n.isLt (length_digits_le n.isLt),
      Option.bind_eq_bind, Option.bind_some]
    exact congrArg (fun m => some (v6 a m, [])) (Fin.ofNat_val_eq_self n)

/-- What is printed of a network is read back. -/
theorem parse?_render (net : Network) : parse? net.render = some net := by
  unfold parse?
  cases net with
  | v4 a n => simp [readV4_render a n]
  | v6 a n =>
    obtain ⟨hnone,hread⟩ := readV6_render a n
    simp [hnone, hread]

/-- Networks of a list are read back in order. -/
theorem mapM_parse?_render (networks : List Network) :
    (networks.map render).mapM parse? = some networks := by
  induction networks with
  | nil => rfl
  | cons net networks ih => simp [parse?_render, ih]

end WorkloadLogin.Network
