import WorkloadLogin.Proofs.Address.Spelling

/-! # Printed addresses

What is printed of an address is one of the texts that write it: groups are printed without zeros in
front, the gap stands where a run of zeros is left out, wherever that is and however many runs are
as long, and the last two groups are octets where the address wraps an IPv4 one. So it is read back.
-/
namespace WorkloadLogin
open Text

namespace Ipv6
variable {a : Ipv6} {b : Ipv4} {gs : List Nat}

/-! ## Groups -/

theorem group_eq (a : Ipv6) (i : Nat) : a.group i = a.toNat / Nat.pow 65536 (7 - i) % 65536 := by
  unfold group
  rw [Nat.shiftRight_eq_div_pow, Nat.pow_mul]
  rfl

theorem lt_of_mem_groups {g : Nat} (h : g ∈ a.groups) : g < 65536 := by
  obtain ⟨i,-,rfl⟩ := List.mem_map.mp h
  exact Nat.mod_lt _ (by decide)

/-- The first groups make up what is left of the address without its last ones. -/
theorem foldl_groups (a : Ipv6) {k : Nat} (hk : k ≤ 8) :
    ((List.range k).map a.group).foldl (fun n g => n * 65536 + g) 0 =
      a.toNat / Nat.pow 65536 (8 - k) := by
  induction k with
  | zero => exact (Nat.div_eq_of_lt a.isLt).symm
  | succ k ih =>
    have hpow : Nat.pow 65536 (8 - k) = Nat.pow 65536 (7 - k) * 65536 := by
      rw [show 8 - k = (7 - k) + 1 by omega]
      rfl
    rw [List.range_succ, List.map_append, List.foldl_append, ih (by omega), hpow,
      ← Nat.div_div_eq_div_mul]
    simp only [List.map_cons, List.map_nil, List.foldl_cons, List.foldl_nil, group_eq]
    rw [show 8 - (k + 1) = 7 - k by omega]
    omega

theorem ofGroups_groups (a : Ipv6) : ofGroups a.groups = a := by
  have hlt := a.isLt
  have hfold : a.groups.foldl (fun n g => n * 65536 + g) 0 = a.toNat / 1 :=
    foldl_groups a (k := 8) (by decide)
  apply BitVec.eq_of_toNat_eq
  rw [ofGroups, hfold, BitVec.toNat_ofNat]
  omega

/-! ## Wrapped addresses -/

theorem toNat_ofMapped (b : Ipv4) : (ofMapped b).toNat = 4294967296 * 0xFFFF + b.toNat := by
  have hb := b.isLt
  unfold ofMapped
  rw [BitVec.toNat_ofNat]
  omega

theorem mapped?_eq_some_iff : a.mapped? = some b ↔ a = ofMapped b := by
  have hb := b.isLt
  have ha := a.isLt
  unfold mapped?
  constructor
  · intro h
    split at h
    · rename_i hhigh
      cases h
      apply BitVec.eq_of_toNat_eq
      rw [toNat_ofMapped, BitVec.toNat_ofNat]
      omega
    · cases h
  · rintro rfl
    have hvalue := toNat_ofMapped b
    rw [if_pos (by omega), Option.some.injEq]
    apply BitVec.eq_of_toNat_eq
    rw [BitVec.toNat_ofNat]
    omega

/-! ## Runs of zeros -/

theorem zerosAtHead_run (gs : List Nat) :
    gs = List.replicate (zerosAtHead gs) 0 ++ gs.dropWhile (· == 0) := by
  have hzeros : gs.takeWhile (· == 0) = List.replicate (zerosAtHead gs) 0 := by
    refine List.eq_replicate_iff.mpr ⟨rfl,fun g hg => ?_⟩
    exact beq_iff_eq.mp (List.all_eq_true.mp List.all_takeWhile g hg)
  rw [← hzeros, List.takeWhile_append_dropWhile]

/-- The run that is found is one of zeros. -/
theorem exists_longestZeros_run (start : Nat) (gs : List Nat) :
    ∃ before behind, gs = before ++ List.replicate (longestZeros start gs).2 0 ++ behind ∧
      (longestZeros start gs).1 = start + before.length := by
  induction gs generalizing start with
  | nil => exact ⟨[],[],rfl,rfl⟩
  | cons g gs ih =>
    simp only [longestZeros]
    split
    · obtain ⟨before,behind,hgs,hstart⟩ := ih (start + 1)
      refine ⟨g :: before,behind,?_,?_⟩
      · rw [List.cons_append, List.cons_append, ← hgs]
      · rw [hstart, List.length_cons]
        omega
    · exact ⟨[],_,zerosAtHead_run (g :: gs),rfl⟩

end Ipv6

namespace Ip
variable {cs : List Char} {gs : List Nat}

/-! ## What is printed is written -/

theorem hexValue?_digitChar : ∀ d < 16, hexValue? (Nat.digitChar d) = some d := by decide

theorem hexNumber?_toDigits (n : Nat) : hexNumber? (Nat.toDigits 16 n) = some n := by
  induction n using Nat.strongRecOn with
  | ind n ih =>
    by_cases hlt : n < 16
    · rw [Nat.toDigits_of_lt_base hlt]
      simp [hexNumber?, hexValue?_digitChar n hlt]
    · have hlast : n % 16 < 16 := Nat.mod_lt _ (by decide)
      have hsplit := Nat.toDigits_append_toDigits (b := 16) (n := n / 16) (d := n % 16)
        (by decide) (by omega) hlast
      rw [Nat.toDigits_of_lt_base hlast, show 16 * (n / 16) + n % 16 = n by omega] at hsplit
      rw [← hsplit, hexNumber?_append, ih (n / 16) (by omega), Option.bind_some,
        hexValue?_digitChar _ hlast, Option.map_some, Option.some.injEq]
      omega

theorem groupText_toDigits {g : Nat} (h : g < 65536) : GroupText (Nat.toDigits 16 g) g where
  ne_nil := Nat.toDigits_ne_nil
  length_le := (Nat.length_toDigits_le_iff (by decide : 1 < 16) (by decide)).mpr h
  value := hexNumber?_toDigits g

theorem side_renderGroups (gs : List Nat) (h : ∀ g ∈ gs, g < 65536) :
    Side false (Ipv6.renderGroups gs) gs := by
  induction gs with
  | nil => exact .inl ⟨rfl,rfl⟩
  | cons g gs ih =>
    have hg := groupText_toDigits (h g List.mem_cons_self)
    have hrest := ih fun g hg => h g (List.mem_cons_of_mem _ hg)
    right
    cases gs with
    | nil =>
      have hone : Ipv6.renderGroups [g] = Nat.toDigits 16 g := by
        simp [Ipv6.renderGroups, List.intercalate]
      rw [hone]
      exact .group hg
    | cons g' gs =>
      have hmore : Ipv6.renderGroups (g :: g' :: gs) =
          Nat.toDigits 16 g ++ ':' :: Ipv6.renderGroups (g' :: gs) := by
        simp [Ipv6.renderGroups, List.intercalate]
      rw [hmore]
      exact .cons hg (hrest.resolve_left nofun)

theorem ofGroups_mapped (b : Ipv4) :
    Ipv6.ofGroups (List.replicate 5 0 ++ [0xFFFF,b.toNat / 65536,b.toNat % 65536]) =
      Ipv6.ofMapped b := by
  refine congrArg (BitVec.ofNat 128) ?_
  simp only [List.replicate, List.cons_append, List.nil_append, List.foldl_cons, List.foldl_nil]
  omega

theorem written_mapped (b : Ipv4) :
    Written ("::ffff:".toList ++ b.render) (.v6 (.ofMapped b)) := by
  have hmark : GroupText "ffff".toList 0xFFFF := ⟨by decide,by decide,by decide⟩
  have hrow : Row true ("ffff".toList ++ ':' :: b.render)
      [0xFFFF,b.toNat / 65536,b.toNat % 65536] := .cons hmark (.octets b)
  have hwritten := Written.gap (.inl ⟨rfl,rfl⟩) (.inr hrow) (by simp)
  rw [← ofGroups_mapped b]
  exact hwritten

/-- Whatever run of zeros is left out, the groups around it and the gap write the address. -/
theorem written_gap {a : Ipv6} {before behind : List Nat} {n : Nat}
    (h : a.groups = before ++ List.replicate n 0 ++ behind) (hn : 0 < n) :
    Written (Ipv6.renderGroups before ++ ':' :: ':' :: Ipv6.renderGroups behind) (.v6 a) := by
  have hlength := congrArg List.length h
  simp only [List.length_append, List.length_replicate] at hlength
  have height : a.groups.length = 8 := rfl
  have hlt : ∀ g ∈ before ++ List.replicate n 0 ++ behind, g < 65536 := by
    rw [← h]
    exact fun g hg => Ipv6.lt_of_mem_groups hg
  have hfront := side_renderGroups before fun g hg => hlt g (by simp [hg])
  have hback := side_renderGroups behind fun g hg => hlt g (by simp [hg])
  have hwritten := Written.gap hfront hback (by omega)
  rw [show 8 - before.length - behind.length = n by omega, ← h, Ipv6.ofGroups_groups] at hwritten
  exact hwritten

theorem written_renderV6 (a : Ipv6) : Written a.render (.v6 a) := by
  unfold Ipv6.render
  split
  · rename_i b hb
    obtain rfl := Ipv6.mapped?_eq_some_iff.mp hb
    exact written_mapped b
  · obtain ⟨before,behind,hgroups,hstart⟩ := Ipv6.exists_longestZeros_run 0 a.groups
    cases hrun : Ipv6.longestZeros 0 a.groups with
    | mk start n =>
      rw [hrun] at hgroups hstart
      dsimp only at hgroups hstart ⊢
      rw [Nat.zero_add] at hstart
      split
      · rename_i hn
        have hfront : a.groups.take start = before := by
          rw [hgroups, hstart, List.append_assoc, List.take_left]
        have hback : a.groups.drop (start + n) = behind := by
          rw [hgroups, hstart]
          simp
        rw [hfront, hback, List.append_assoc]
        exact written_gap hgroups (by omega)
      · have hrow := side_renderGroups a.groups fun g hg => Ipv6.lt_of_mem_groups hg
        have hwritten := Written.whole (hrow.resolve_left nofun) rfl
        rwa [Ipv6.ofGroups_groups] at hwritten

theorem written_render (ip : Ip) : Written ip.render.toList ip := by
  unfold render
  cases ip with
  | v4 a =>
    rw [String.toList_ofList]
    exact .octets a
  | v6 a =>
    rw [String.toList_ofList]
    exact written_renderV6 a

/-- What is printed is read back. -/
theorem parse?_render (ip : Ip) : parse? ip.render.toList = some ip :=
  parse?_eq_some_iff.mpr (written_render ip)

end Ip
end WorkloadLogin
