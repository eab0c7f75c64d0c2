import WorkloadLogin.Proofs.Address.Parts

/-! # How addresses are written

The groups of an IPv6 address stand in a row of eight, or in two shorter rows with a gap between
them; the last two groups of such a text may be written as an IPv4 address. A plain address is read
from exactly these texts and those of IPv4 addresses, and as the address that they write.
-/
namespace WorkloadLogin.Ip
open Text
variable {first dotted : Bool} {limit : Nat} {text cs rest : List Char} {values : List Nat}

/-! ## Rows of groups -/

/-- Groups in a row, parted by colons; of a dotted row the last two are written as octets. -/
inductive Row : Bool → List Char → List Nat → Prop
  | group {ds : List Char} {g : Nat} (h : GroupText ds g) : Row false ds [g]
  | octets (a : Ipv4) : Row true a.render [a.toNat / 65536,a.toNat % 65536]
  | cons {dotted : Bool} {ds text : List Char} {g : Nat} {gs : List Nat} (h : GroupText ds g)
      (hrow : Row dotted text gs) : Row dotted (ds ++ ':' :: text) (g :: gs)

/-- What stands in front of a row that is read from its first or from a later group on. -/
def lead (first : Bool) : List Char := if first then [] else [':']

theorem start_eq_some_iff :
    (if first then some cs else readChar ':' cs) = some text ↔ cs = lead first ++ text := by
  cases first with
  | true => simp [lead]
  | false => simp [lead, readChar_eq_some_iff]

/-- What is read is a row, if anything is. -/
theorem row_of_readGroups {gs : Groups}
    (h : readGroups .plain first limit cs = (gs, rest)) :
    gs.values.length ≤ limit ∧ (gs = {} ∧ rest = cs ∨
      ∃ text, Row gs.dotted text gs.values ∧ cs = lead first ++ (text ++ rest)) := by
  induction limit generalizing first cs gs rest with
  | zero =>
    cases h
    exact ⟨Nat.le_refl 0,.inl ⟨rfl,rfl⟩⟩
  | succ limit ih =>
    rw [readGroups] at h
    split at h
    · rename_i a rest' hread
      cases h
      split at hread
      · cases hread
      · rename_i hlimit
        obtain ⟨t,ht,hread⟩ := Option.bind_eq_some_iff.mp hread
        obtain ⟨rfl,-⟩ := readV4_eq_some_iff.mp hread
        refine ⟨?_,.inr ⟨a.render,.octets a,start_eq_some_iff.mp ht⟩⟩
        simp only [List.length_cons, List.length_nil]
        omega
    · split at h
      · rename_i g rest' hread
        obtain ⟨t,ht,hread⟩ := Option.bind_eq_some_iff.mp hread
        obtain ⟨ds,hds,rfl,-⟩ := readGroup_eq_some_iff.mp hread
        cases hmore : readGroups .plain false limit rest' with
        | mk more rest'' =>
          rw [hmore] at h
          cases h
          obtain ⟨hlen,hrow⟩ := ih hmore
          have hcs := start_eq_some_iff.mp ht
          refine ⟨by simpa using hlen,.inr ?_⟩
          rcases hrow with ⟨rfl,rfl⟩ | ⟨text,hrow,rfl⟩
          · exact ⟨ds,.group hds,hcs⟩
          · exact ⟨ds ++ ':' :: text,.cons hds hrow,by simpa [lead] using hcs⟩
      · cases h
        exact ⟨Nat.zero_le _,.inl ⟨rfl,rfl⟩⟩

/-! ## A row is read to its end -/

/-- What can stand behind a row: nothing, the gap, or the length of a network. -/
def Ends (rest : List Char) : Prop :=
  rest = [] ∨ (∃ behind, rest = ':' :: ':' :: behind) ∨ ∃ behind, rest = '/' :: behind

theorem Ends.head (h : Ends rest) : ∀ c ∈ rest.head?, c = ':' ∨ c = '/' := by
  rcases h with rfl | ⟨behind,rfl⟩ | ⟨behind,rfl⟩
  · nofun
  · intro c hc
    cases hc
    exact .inl rfl
  · intro c hc
    cases hc
    exact .inr rfl

theorem not_hex_of_head (h : ∀ c ∈ rest.head?, c = ':' ∨ c = '/') :
    ∀ c ∈ rest.head?, (hexValue? c).isSome = false := by
  intro c hc
  rcases h c hc with rfl | rfl <;> decide

variable {sp : AddressSpelling}

/-- No IPv4 address starts with digits, or none, and a colon or a solidus. -/
theorem readV4_colon {ds : List Char} (h : ∀ c ∈ ds, (hexValue? c).isSome = true)
    (hrest : ∀ c ∈ rest.head?, c = ':' ∨ c = '/') : readV4 sp (ds ++ rest) = none := by
  refine Option.eq_none_iff_forall_ne_some.mpr fun r hread => ?_
  obtain ⟨front,behind,heq,hfront⟩ := exists_digits_of_readV4 hread
  have hdigits : ∀ c ∈ front, (hexValue? c).isSome = true := by
    intro c hc
    simp [hexValue?, hfront c hc]
  have hleft := dropWhile_run h (not_hex_of_head hrest)
  rw [heq, dropWhile_run hdigits (by intro c hc; cases hc; decide)] at hleft
  rw [← hleft] at hrest
  exact absurd (hrest '.' rfl) (by decide)

theorem readV4_nothing (h : ∀ c ∈ cs.head?, c = ':' ∨ c = '/') : readV4 sp cs = none := by
  have hdigits : ∀ c ∈ ([] : List Char), (hexValue? c).isSome = true := nofun
  exact readV4_colon hdigits h

theorem readGroup_nothing (h : ∀ c ∈ cs.head?, c = ':' ∨ c = '/') : readGroup cs = none := by
  refine Option.eq_none_iff_forall_ne_some.mpr ?_
  rintro ⟨g,behind⟩ hread
  obtain ⟨ds,hds,rfl,-⟩ := readGroup_eq_some_iff.mp hread
  obtain ⟨d,ds,rfl⟩ := List.exists_cons_of_ne_nil hds.ne_nil
  have hno := not_hex_of_head h d rfl
  rw [hds.hex d List.mem_cons_self] at hno
  cases hno

/-- No row is read where none stands. -/
theorem readGroups_nothing (h : Ends rest) (first : Bool) :
    readGroups sp first limit rest = ({}, rest) := by
  cases limit with
  | zero => rfl
  | succ limit =>
    have hstart : ∀ start, (if first then some rest else readChar ':' rest) = some start →
        ∀ c ∈ start.head?, c = ':' ∨ c = '/' := by
      intro start hstart
      cases first with
      | true =>
        cases hstart
        exact h.head
      | false =>
        have hlead := readChar_eq_some_iff.mp hstart
        rcases h with rfl | ⟨behind,rfl⟩ | ⟨behind,rfl⟩
        · cases hlead
        · cases hlead
          intro c hc
          cases hc
          exact .inl rfl
        · cases hlead
    rw [readGroups]
    cases hs : (if first then some rest else readChar ':' rest) with
    | none => simp
    | some start =>
      have hhead := hstart start hs
      simp [readV4_nothing hhead, readGroup_nothing hhead]

theorem readGroups_group {ds : List Char} {g : Nat} (h : GroupText ds g)
    (hrest : ∀ c ∈ rest.head?, c = ':' ∨ c = '/') (first : Bool) (limit : Nat) :
    readGroups sp first (limit + 1) (lead first ++ (ds ++ rest)) =
      (⟨g :: (readGroups sp false limit rest).1.values,
        (readGroups sp false limit rest).1.dotted⟩,(readGroups sp false limit rest).2) := by
  have hstart : (if first then some (lead first ++ (ds ++ rest)) else
      readChar ':' (lead first ++ (ds ++ rest))) = some (ds ++ rest) := start_eq_some_iff.mpr rfl
  have hgroup : readGroup (ds ++ rest) = some (g, rest) :=
    readGroup_eq_some_iff.mpr ⟨ds,h,rfl,not_hex_of_head hrest⟩
  rw [readGroups, hstart]
  simp only [Option.bind_some, readV4_colon h.hex hrest, ite_self, hgroup]

theorem readV4_octets {a : Ipv4} (hrest : ∀ c ∈ rest.head?, c = ':' ∨ c = '/') :
    readV4 sp (a.render ++ rest) = some (a, rest) := by
  refine readV4_of_plain (readV4_eq_some_iff.mpr ⟨rfl,fun c hc => ?_⟩)
  rcases hrest c hc with rfl | rfl <;> decide

/-- A row that is no longer than the limit is read to its end. -/
theorem readGroups_row (h : Row dotted text values) (hlimit : values.length ≤ limit)
    (hrest : Ends rest) (first : Bool) :
    readGroups sp first limit (lead first ++ (text ++ rest)) = (⟨values,dotted⟩, rest) := by
  induction h generalizing first limit with
  | group h =>
    obtain ⟨limit,rfl⟩ : ∃ l, limit = l + 1 := ⟨limit - 1,by simp at hlimit; omega⟩
    rw [readGroups_group h hrest.head, readGroups_nothing hrest]
  | octets a =>
    obtain ⟨limit,rfl⟩ : ∃ l, limit = l + 1 + 1 := ⟨limit - 2,by simp at hlimit; omega⟩
    have hstart : (if first then some (lead first ++ (a.render ++ rest)) else
        readChar ':' (lead first ++ (a.render ++ rest))) = some (a.render ++ rest) :=
      start_eq_some_iff.mpr rfl
    rw [readGroups, hstart, if_neg (Nat.succ_ne_zero limit), Option.bind_some,
      readV4_octets hrest.head]
  | cons h hrow ih =>
    obtain ⟨limit,rfl⟩ : ∃ l, limit = l + 1 := ⟨limit - 1,by simp at hlimit; omega⟩
    have hmore := ih (Nat.le_of_succ_le_succ hlimit) false
    rw [List.append_assoc, List.cons_append,
      readGroups_group h (fun c hc => by cases hc; exact .inl rfl)]
    unfold lead at hmore
    simp only [Bool.false_eq_true, if_false, List.singleton_append] at hmore
    rw [hmore]

/-! ## Whole texts -/

/-- A row, or nothing. -/
def Side (dotted : Bool) (text : List Char) (values : List Nat) : Prop :=
  text = [] ∧ values = [] ∨ Row dotted text values

/-- A text that writes an address: four octets, or eight groups, or fewer groups around a gap which
stands for the groups that are missing. Octets stand for the last two groups. -/
inductive Written : List Char → Ip → Prop
  | octets (a : Ipv4) : Written a.render (.v4 a)
  | whole {dotted : Bool} {text : List Char} {values : List Nat} (h : Row dotted text values)
      (hlength : values.length = 8) : Written text (.v6 (.ofGroups values))
  | gap {dotted : Bool} {front back : List Char} {before behind : List Nat}
      (hfront : Side false front before) (hback : Side dotted back behind)
      (hlength : before.length + behind.length < 8) :
      Written (front ++ ':' :: ':' :: back) (.v6 (.ofGroups (before ++
        List.replicate (8 - before.length - behind.length) 0 ++ behind)))

theorem side_of_readGroups {gs : Groups} (h : readGroups .plain true limit cs = (gs, rest)) :
    gs.values.length ≤ limit ∧ ∃ text, Side gs.dotted text gs.values ∧ cs = text ++ rest := by
  obtain ⟨hlen,⟨rfl,rfl⟩ | ⟨text,hrow,rfl⟩⟩ := row_of_readGroups h
  · exact ⟨hlen,[],.inl ⟨rfl,rfl⟩,rfl⟩
  · exact ⟨hlen,text,.inr hrow,rfl⟩

theorem readGroups_side (h : Side dotted text values) (limit : Nat)
    (hlimit : values.length ≤ limit) (hrest : Ends rest) :
    ∃ gs, readGroups sp true limit (text ++ rest) = (gs, rest) ∧ gs.values = values ∧
      (gs.dotted = true → dotted = true) := by
  rcases h with ⟨rfl,rfl⟩ | hrow
  · exact ⟨{},readGroups_nothing hrest true,rfl,nofun⟩
  · exact ⟨_,readGroups_row hrow hlimit hrest true,rfl,id⟩

theorem readV6_whole {front : Groups} (h : readGroups .plain true 8 cs = (front, rest))
    (hlength : front.values.length = 8) :
    readV6 .plain cs = some (.ofGroups front.values, rest) := by
  simp only [readV6, h, if_pos hlength]
  rfl

theorem readV6_gap_iff {front : Groups} {a : Ipv6}
    (h : readGroups .plain true 8 cs = (front, rest)) (hlength : front.values.length ≠ 8) :
    readV6 .plain cs = some (a, []) ↔ front.dotted = false ∧
      ∃ behind back, rest = ':' :: ':' :: behind ∧
        readGroups .plain true (8 - front.values.length - 1) behind = (back, []) ∧
        a = .ofGroups (front.values ++
          List.replicate (8 - front.values.length - back.values.length) 0 ++ back.values) := by
  simp only [readV6, h, if_neg hlength]
  cases hdotted : front.dotted with
  | true => simp
  | false =>
    simp only [Bool.false_eq_true, if_false, Option.bind_eq_bind, Option.bind_eq_some_iff,
      readChar_eq_some_iff, true_and]
    constructor
    · rintro ⟨_,rfl,behind,rfl,hend⟩
      simp only [Option.pure_def, Option.some.injEq, Prod.mk.injEq] at hend
      exact ⟨behind,_,rfl,Prod.ext rfl hend.2,hend.1.symm⟩
    · rintro ⟨behind,back,rfl,hback,rfl⟩
      have hback' : readGroups .plain true (8 - front.values.length -
          AddressSpelling.plain.shortestGap) behind = (back, []) := hback
      refine ⟨_,rfl,behind,rfl,?_⟩
      rw [hback']
      rfl

/-- An address is read wherever nothing or the length of a network stands behind it, if its gap is
not too short to be one. -/
theorem readV6_append {a : Ipv6} (h : Written cs (.v6 a)) (hgap : sp.shortestGap ≤ 1)
    (hrest : rest = [] ∨ ∃ behind, rest = '/' :: behind) :
    readV6 sp (cs ++ rest) = some (a, rest) := by
  have hends : Ends rest := hrest.imp_right .inr
  cases h with
  | whole h hlength =>
    have hread : readGroups sp true 8 (cs ++ rest) = (⟨_,_⟩, rest) :=
      readGroups_row h (Nat.le_of_eq hlength) hends true
    simp only [readV6, hread, if_pos hlength]
    rfl
  | @gap dotted front back before behind hfront hback hlength =>
    have hgapped : Ends (':' :: ':' :: (back ++ rest)) := .inr (.inl ⟨_,rfl⟩)
    obtain ⟨gs,(hread : readGroups sp _ _ _ = _),rfl,hplain⟩ :=
      readGroups_side hfront 8 (by omega) hgapped
    obtain ⟨gs',(hread' : readGroups sp _ _ _ = _),rfl,-⟩ :=
      readGroups_side hback (8 - gs.values.length - sp.shortestGap) (by omega) hends
    have hdotted : gs.dotted = false := by
      cases hd : gs.dotted with
      | false => rfl
      | true => cases hplain hd
    have hshort : gs.values.length ≠ 8 := by omega
    rw [List.append_assoc, List.cons_append, List.cons_append]
    simp only [readV6, hread, if_neg hshort, hdotted]
    simp [readChar, hread']

theorem readV6_eq_some_iff {a : Ipv6} :
    readV6 .plain cs = some (a, []) ↔ Written cs (.v6 a) := by
  constructor
  · intro h
    cases hfront : readGroups .plain true 8 cs with
    | mk front rest =>
      obtain ⟨hlen,text,hside,rfl⟩ := side_of_readGroups hfront
      by_cases hlength : front.values.length = 8
      · rw [readV6_whole hfront hlength] at h
        cases h
        rcases hside with ⟨-,hnil⟩ | hrow
        · rw [hnil] at hlength
          cases hlength
        · rw [List.append_nil]
          exact .whole hrow hlength
      · obtain ⟨hdotted,behind,back,rfl,hback,rfl⟩ := (readV6_gap_iff hfront hlength).mp h
        obtain ⟨hlen',text',hside',rfl⟩ := side_of_readGroups hback
        rw [hdotted] at hside
        rw [List.append_nil]
        exact .gap hside hside' (by omega)
  · intro h
    have hread : readV6 .plain (cs ++ []) = some (a, []) :=
      readV6_append h (Nat.le_refl 1) (.inl rfl)
    rwa [List.append_nil] at hread

/-- Behind the digits of its first group a text of an IPv6 address goes on with a colon. -/
theorem readV4_row (h : Row dotted text values) (hlength : dotted = true → values.length ≠ 2)
    (hrest : ∀ c ∈ rest.head?, c = ':' ∨ c = '/') : readV4 sp (text ++ rest) = none := by
  cases h with
  | group h => exact readV4_colon h.hex hrest
  | octets a => exact absurd rfl (hlength rfl)
  | cons h hrow =>
    rw [List.append_assoc, List.cons_append]
    exact readV4_colon h.hex fun c hc => by cases hc; exact .inl rfl

/-- No text writes addresses of both families. -/
theorem readV4_written {a : Ipv6} (h : Written cs (.v6 a))
    (hrest : ∀ c ∈ rest.head?, c = ':' ∨ c = '/') : readV4 sp (cs ++ rest) = none := by
  cases h with
  | whole h hlength => exact readV4_row h (fun _ => by omega) hrest
  | gap hfront hback hlength =>
    rw [List.append_assoc, List.cons_append]
    rcases hfront with ⟨rfl,-⟩ | hrow
    · exact readV4_nothing fun c hc => by cases hc; exact .inl rfl
    · exact readV4_row hrow nofun fun c hc => by cases hc; exact .inl rfl

/-- A plain address is read from the texts that write it, and from no others. -/
theorem parse?_eq_some_iff {ip : Ip} : parse? cs = some ip ↔ Written cs ip := by
  unfold parse?
  constructor
  · intro h
    split at h
    · rename_i a rest hread
      obtain ⟨rfl,-⟩ := readV4_eq_some_iff.mp hread
      split at h
      · rename_i hrest
        cases h
        rw [List.isEmpty_iff.mp hrest, List.append_nil]
        exact .octets a
      · cases h
    · split at h
      · rename_i a rest hread
        split at h
        · rename_i hrest
          cases h
          rw [List.isEmpty_iff.mp hrest] at hread
          exact readV6_eq_some_iff.mp hread
        · cases h
      · cases h
  · intro h
    cases ip with
    | v4 a =>
      cases h
      have hread : readV4 .plain a.render = some (a, []) :=
        readV4_eq_some_iff.mpr ⟨(List.append_nil _).symm,nofun⟩
      rw [hread]
      rfl
    | v6 a =>
      have hnone : readV4 .plain (cs ++ []) = none := readV4_written h nofun
      rw [List.append_nil] at hnone
      rw [hnone, readV6_eq_some_iff.mpr h]
      rfl

/-! ## The characters of an address -/

/-- A point, a colon or a hexadecimal digit, and some letters more. -/
def isAddressChar (c : Char) : Bool := c == '.' || (48 ≤ c.toNat && c.toNat ≤ 102)

theorem isAddressChar_of_hex {c : Char} (h : (hexValue? c).isSome = true) :
    isAddressChar c = true := by
  have hrange : 48 ≤ c.toNat ∧ c.toNat ≤ 102 := by
    unfold hexValue? at h
    split at h
    · rename_i hc
      have hdigit := toNat_of_isDigit hc
      omega
    · split at h
      · rename_i hc
        simp only [Bool.and_eq_true, decide_eq_true_eq] at hc
        exact ⟨Nat.le_trans (by decide) (show 97 ≤ c.toNat from hc.1),hc.2⟩
      · split at h
        · rename_i hc
          simp only [Bool.and_eq_true, decide_eq_true_eq] at hc
          exact ⟨Nat.le_trans (by decide) (show 65 ≤ c.toNat from hc.1),
            Nat.le_trans (show c.toNat ≤ 70 from hc.2) (by decide)⟩
        · cases h
  simp [isAddressChar, hrange]

theorem all_render (a : Ipv4) : a.render.all isAddressChar = true := by
  have hdigits : ∀ n, (digits n).all isAddressChar = true := by
    intro n
    refine List.all_eq_true.mpr fun c hc => isAddressChar_of_hex ?_
    simp [hexValue?, List.all_eq_true.mp (all_isDigit_digits n) c hc]
  have hdot : isAddressChar '.' = true := rfl
  simp [Ipv4.render, hdigits, hdot]

theorem Row.all (h : Row dotted text values) : text.all isAddressChar = true := by
  have hcolon : isAddressChar ':' = true := rfl
  induction h with
  | group h => exact List.all_eq_true.mpr fun c hc => isAddressChar_of_hex (h.hex c hc)
  | octets a => exact all_render a
  | cons h hrow ih =>
    have hds := List.all_eq_true.mpr fun c hc => isAddressChar_of_hex (h.hex c hc)
    simp [hds, hcolon, ih]

theorem Side.all (h : Side dotted text values) : text.all isAddressChar = true := by
  rcases h with ⟨rfl,-⟩ | hrow
  · rfl
  · exact hrow.all

theorem Written.all {ip : Ip} (h : Written cs ip) : cs.all isAddressChar = true := by
  have hcolon : isAddressChar ':' = true := rfl
  cases h with
  | octets a => exact all_render a
  | whole h hlength => exact h.all
  | gap hfront hback hlength => simp [hfront.all, hcolon, hback.all]

/-- An address is written without blanks and without a solidus. -/
theorem Written.solid {ip : Ip} (h : Written cs ip) :
    (∀ c ∈ cs, isBlank c = false) ∧ '/' ∉ cs := by
  constructor
  · intro c hc
    have hchar := List.all_eq_true.mp h.all c hc
    simp only [isAddressChar, Bool.or_eq_true, beq_iff_eq, Bool.and_eq_true,
      decide_eq_true_eq] at hchar
    rcases hchar with rfl | hrange
    · decide
    · exact isBlank_eq_false (by omega)
  · intro hslash
    cases List.all_eq_true.mp h.all '/' hslash

end WorkloadLogin.Ip
