import WorkloadLogin.Encoding.Base64
import WorkloadLogin.Proofs.Http.Percent

/-! # Base64 is read back

An encoding is whole groups of four symbols and a last group, which alone may be padded. The
symbols of whole groups give back their octets three at a time, and the last group the one, two or
three octets that are left.
-/
namespace WorkloadLogin.Base64
open Bytes
variable {a : Alphabet} {bs front last out : Bytes} {vs : List Nat} {t : Tail}

/-- A symbol as it stands in a text. -/
def Alphabet.octet (a : Alphabet) (n : Nat) : UInt8 := UInt8.ofNat (a.symbol n).toNat

theorem value?_octet (a : Alphabet) : ∀ n < 64, a.value? (a.octet n) = some n := by
  cases a <;> decide

theorem octet_ne_pad (a : Alphabet) : ∀ n < 64, a.octet n ≠ pad := by
  cases a <;> decide

theorem symbol_ascii (a : Alphabet) : ∀ n < 64, (a.symbol n).toNat < 128 := by
  cases a <;> decide

/-- Octets in groups of three. -/
inductive Whole : Bytes → Prop
  | nil : Whole []
  | group (x y z : UInt8) {rest : Bytes} (h : Whole rest) : Whole (x :: y :: z :: rest)

/-- What is not empty ends in a group of one to three octets. -/
theorem exists_groups : ∀ {bs : Bytes}, bs ≠ [] →
    ∃ front last, bs = front ++ last ∧ Whole front ∧ last ≠ [] ∧ last.length ≤ 3
  | [x], _ => ⟨[],[x],rfl,.nil,nofun,by simp⟩
  | [x,y], _ => ⟨[],[x,y],rfl,.nil,nofun,by simp⟩
  | [x,y,z], _ => ⟨[],[x,y,z],rfl,.nil,nofun,by simp⟩
  | x :: y :: z :: w :: rest, _ => by
    obtain ⟨front,last,hbs,hfront,hlast⟩ := exists_groups (List.cons_ne_nil w rest)
    exact ⟨x :: y :: z :: front,last,by rw [hbs]; rfl,.group x y z hfront,hlast⟩

/-- The six-bit values of a group. -/
def quad (x y z : UInt8) : List Nat :=
  [x.toNat / 4,x.toNat % 4 * 16 + y.toNat / 16,y.toNat % 16 * 4 + z.toNat / 64,z.toNat % 64]

theorem quad_lt (x y z : UInt8) : ∀ n ∈ quad x y z, n < 64 := by
  have hx := x.toNat_lt
  have hy := y.toNat_lt
  have hz := z.toNat_lt
  simp only [quad, List.forall_mem_cons]
  exact ⟨by omega,by omega,by omega,by omega,nofun⟩

theorem joinQuads_quad (x y z : UInt8) (ns : List Nat) :
    joinQuads (quad x y z ++ ns) = x :: y :: z :: joinQuads ns := by
  have hx := x.toNat_lt
  have hy := y.toNat_lt
  have hz := z.toNat_lt
  have h₁ : x.toNat / 4 * 4 + (x.toNat % 4 * 16 + y.toNat / 16) / 16 = x.toNat := by omega
  have h₂ : (x.toNat % 4 * 16 + y.toNat / 16) % 16 * 16 +
      (y.toNat % 16 * 4 + z.toNat / 64) / 4 = y.toNat := by omega
  have h₃ : (y.toNat % 16 * 4 + z.toNat / 64) % 4 * 64 + z.toNat % 64 = z.toNat := by omega
  simp only [quad, List.cons_append, List.nil_append, joinQuads, h₁, h₂, h₃, UInt8.ofNat_toNat]

/-- The six-bit values of whole groups. -/
def sextets : Bytes → List Nat
  | x :: y :: z :: rest => quad x y z ++ sextets rest
  | _ => []

theorem Whole.sextets_lt (h : Whole front) : ∀ n ∈ sextets front, n < 64 := by
  induction h with
  | nil => nofun
  | group x y z _ ih => exact List.forall_mem_append.mpr ⟨quad_lt x y z,ih⟩

theorem Whole.length_sextets (h : Whole front) : (sextets front).length % 4 = 0 := by
  induction h with
  | nil => rfl
  | group x y z _ ih =>
    rw [sextets, List.length_append, quad]
    simpa using ih

theorem Whole.joinQuads_sextets (h : Whole front) : joinQuads (sextets front) = front := by
  induction h with
  | nil => rfl
  | group x y z _ ih => rw [sextets, joinQuads_quad, ih]

theorem Whole.encode_append (h : Whole front) (a : Alphabet) (last : Bytes) :
    encode a (front ++ last) = (sextets front).map a.symbol ++ encode a last := by
  induction h with
  | nil => rfl
  | group x y z _ ih =>
    simp only [List.cons_append, encode, sextets, quad, List.map_cons, List.nil_append, ih]

theorem utf8_map_symbol (a : Alphabet) (h : ∀ n ∈ vs, n < 64) :
    utf8 (vs.map a.symbol) = vs.map a.octet := by
  induction vs with
  | nil => rfl
  | cons n vs ih =>
    have hn := symbol_ascii a n (h n (List.mem_cons_self ..))
    have hrest := ih fun m hm => h m (List.mem_cons_of_mem _ hm)
    simp only [utf8, List.map_cons, List.flatMap_cons, utf8EncodeChar_ascii hn] at hrest ⊢
    rw [hrest]
    rfl

theorem values_map_octet (a : Alphabet) (h : ∀ n ∈ vs, n < 64) (offset : Nat) :
    values a offset (vs.map a.octet) = .ok vs := by
  induction vs generalizing offset with
  | nil => rfl
  | cons n vs ih =>
    have hrest := ih (fun m hm => h m (List.mem_cons_of_mem _ hm)) (offset + 1)
    rw [List.map_cons, values, value?_octet a n (h n (List.mem_cons_self ..))]
    simp only [hrest]
    rfl

theorem decode_groups (hfront : values a 0 front = .ok vs) (hwhole : front.length % 4 = 0)
    (hlast : last.length = 4) (htail : readTail a front.length 0 {} last = .ok t)
    (hclose : closeTail front.length t = .ok out) :
    decode a (front ++ last) = .ok (joinQuads vs ++ out) := by
  have hlen : (front ++ last).length = front.length + 4 := by rw [List.length_append, hlast]
  have hstart : tailStart (front.length + 4) = front.length := by
    unfold tailStart
    split <;> omega
  have hne : (front ++ last).isEmpty = false := by
    rw [List.isEmpty_eq_false_iff]
    intro h
    simp [h] at hlen
  have hstray : ¬ (front.length + 4) % 4 = 1 := by omega
  rw [decode]
  simp only [hlen, hstray, if_false, hne, Bool.false_eq_true, hstart, List.take_left,
    List.drop_left, hfront, htail, hclose]
  rfl

theorem readTail_octets (a : Alphabet) (h : ∀ n ∈ vs, n < 64) (start index : Nat)
    (hpads : t.pads = 0) (rest : Bytes) :
    readTail a start index t (vs.map a.octet ++ rest) = readTail a start (index + vs.length)
      { t with symbols := t.symbols ++ vs.map a.octet, values := t.values ++ vs } rest := by
  induction vs generalizing index t with
  | nil => simp
  | cons n vs ih =>
    have hn := h n (List.mem_cons_self ..)
    rw [List.map_cons, List.cons_append, readTail, if_neg (octet_ne_pad a n hn), if_neg (by omega),
      value?_octet a n hn]
    simp only
    rw [ih (fun m hm => h m (List.mem_cons_of_mem _ hm)) (index + 1) (by exact hpads)]
    simp only [List.append_assoc, List.singleton_append, List.length_cons]
    congr 1
    omega

theorem exists_readTail_pads (a : Alphabet) (start pads : Nat) {index : Nat} (hi : 2 ≤ index) :
    ∃ t', readTail a start index t (List.replicate pads pad) = .ok t' ∧ t'.values = t.values ∧
      t'.pads = t.pads + pads := by
  induction pads generalizing index t with
  | zero => exact ⟨t,rfl,rfl,rfl⟩
  | succ pads ih =>
    rw [List.replicate_succ, readTail, if_pos rfl, if_neg (by omega)]
    obtain ⟨t',hread,hvalues,hpads⟩ := ih (Nat.le_succ_of_le hi)
      (t := { t with pads := t.pads + 1, firstPad := if t.pads = 0 then index else t.firstPad })
    exact ⟨t',hread,hvalues,by rw [hpads, Nat.add_assoc, Nat.add_comm 1]⟩

/-- A last group of symbols and padding is read as its values. -/
theorem exists_readTail (a : Alphabet) (h : ∀ n ∈ vs, n < 64) (htwo : 2 ≤ vs.length)
    (start pads : Nat) :
    ∃ t, readTail a start 0 {} (vs.map a.octet ++ List.replicate pads pad) = .ok t ∧
      t.values = vs ∧ t.pads = pads := by
  rw [readTail_octets a h start 0 rfl]
  obtain ⟨t,hread,hvalues,hpads⟩ := exists_readTail_pads (t := ⟨vs.map a.octet,vs,0,0⟩) a start pads
    (show 2 ≤ 0 + vs.length by omega)
  exact ⟨t,by simpa using hread,hvalues,by simpa using hpads⟩

theorem closeTail_one {p q : Nat} (start : Nat) (hv : t.values = [p,q]) (hp : t.pads = 2)
    (hq : q % 16 = 0) : closeTail start t = .ok [UInt8.ofNat (p * 4 + q / 16)] := by
  simp [closeTail, hv, hp, hq, joinQuads]

theorem closeTail_two {p q r : Nat} (start : Nat) (hv : t.values = [p,q,r]) (hp : t.pads = 1)
    (hr : r % 4 = 0) : closeTail start t =
      .ok [UInt8.ofNat (p * 4 + q / 16),UInt8.ofNat (q % 16 * 16 + r / 4)] := by
  simp [closeTail, hv, hp, hr, joinQuads]

theorem closeTail_three {p q r s : Nat} (start : Nat) (hv : t.values = [p,q,r,s])
    (hp : t.pads = 0) : closeTail start t = .ok (joinQuads [p,q,r,s]) := by
  simp [closeTail, hv, hp, joinQuads]

theorem utf8_pads (n : Nat) : utf8 (List.replicate n '=') = List.replicate n pad := by
  induction n with
  | zero => rfl
  | succ n ih =>
    rw [List.replicate_succ, List.replicate_succ, ← ih]
    exact utf8_append ['='] _

/-- A group of symbols and padding as it stands in a text. -/
theorem utf8_group (a : Alphabet) (h : ∀ n ∈ vs, n < 64) (pads : Nat) :
    utf8 (vs.map a.symbol ++ List.replicate pads '=') =
      vs.map a.octet ++ List.replicate pads pad := by
  rw [utf8_append, utf8_map_symbol a h, utf8_pads]

/-- The last group of an encoding is read as the octets that it encodes. -/
theorem exists_tail (a : Alphabet) (start : Nat) : ∀ {last : Bytes}, last ≠ [] → last.length ≤ 3 →
    (utf8 (encode a last)).length = 4 ∧ ∃ t, readTail a start 0 {} (utf8 (encode a last)) = .ok t ∧
      closeTail start t = .ok last
  | [x], _, _ => by
    have hx := x.toNat_lt
    have hlt : ∀ n ∈ [x.toNat / 4,x.toNat % 4 * 16], n < 64 := by
      simp only [List.forall_mem_cons]
      exact ⟨by omega,by omega,nofun⟩
    have htext : utf8 (encode a [x]) =
        [x.toNat / 4,x.toNat % 4 * 16].map a.octet ++ List.replicate 2 pad := utf8_group a hlt 2
    obtain ⟨t,hread,hv,hp⟩ := exists_readTail a hlt (Nat.le_refl 2) start 2
    have hjoin : x.toNat / 4 * 4 + x.toNat % 4 * 16 / 16 = x.toNat := by omega
    rw [htext]
    refine ⟨rfl,t,hread,?_⟩
    rw [closeTail_one start hv hp (by omega), hjoin, UInt8.ofNat_toNat]
  | [x,y], _, _ => by
    have hx := x.toNat_lt
    have hy := y.toNat_lt
    have hlt : ∀ n ∈ [x.toNat / 4,x.toNat % 4 * 16 + y.toNat / 16,y.toNat % 16 * 4], n < 64 := by
      simp only [List.forall_mem_cons]
      exact ⟨by omega,by omega,by omega,nofun⟩
    have htext : utf8 (encode a [x,y]) =
        [x.toNat / 4,x.toNat % 4 * 16 + y.toNat / 16,y.toNat % 16 * 4].map a.octet ++
          List.replicate 1 pad := utf8_group a hlt 1
    obtain ⟨t,hread,hv,hp⟩ := exists_readTail a hlt (by decide : 2 ≤ 3) start 1
    have hfirst : x.toNat / 4 * 4 + (x.toNat % 4 * 16 + y.toNat / 16) / 16 = x.toNat := by omega
    have hsecond : (x.toNat % 4 * 16 + y.toNat / 16) % 16 * 16 + y.toNat % 16 * 4 / 4 =
        y.toNat := by omega
    rw [htext]
    refine ⟨rfl,t,hread,?_⟩
    rw [closeTail_two start hv hp (by omega), hfirst, hsecond, UInt8.ofNat_toNat,
      UInt8.ofNat_toNat]
  | [x,y,z], _, _ => by
    have hlt := quad_lt x y z
    have htext : utf8 (encode a [x,y,z]) = (quad x y z).map a.octet ++ List.replicate 0 pad :=
      utf8_group a hlt 0
    obtain ⟨t,hread,hv,hp⟩ := exists_readTail a hlt (by decide : 2 ≤ 4) start 0
    rw [htext]
    exact ⟨rfl,t,hread,(closeTail_three start hv hp).trans (congrArg _ (joinQuads_quad x y z []))⟩

theorem mem_encode (a : Alphabet) (bs : Bytes) :
    ∀ c ∈ encode a bs, c = '=' ∨ ∃ n < 64, c = a.symbol n := by
  fun_induction encode a bs with
  | case1 => nofun
  | case2 x =>
    have hx := x.toNat_lt
    simp only [List.forall_mem_cons]
    exact ⟨.inr ⟨_,by omega,rfl⟩,.inr ⟨_,by omega,rfl⟩,.inl trivial,.inl trivial,nofun⟩
  | case3 x y =>
    have hx := x.toNat_lt
    have hy := y.toNat_lt
    simp only [List.forall_mem_cons]
    exact ⟨.inr ⟨_,by omega,rfl⟩,.inr ⟨_,by omega,rfl⟩,.inr ⟨_,by omega,rfl⟩,.inl trivial,nofun⟩
  | case4 x y z rest ih =>
    have hlt := quad_lt x y z
    simp only [quad, List.forall_mem_cons] at hlt
    obtain ⟨hp,hq,hr,hs,-⟩ := hlt
    simp only [List.forall_mem_cons]
    exact ⟨.inr ⟨_,hp,rfl⟩,.inr ⟨_,hq,rfl⟩,.inr ⟨_,hr,rfl⟩,.inr ⟨_,hs,rfl⟩,ih⟩

/-- What is encoded in an alphabet is decoded in it. -/
theorem decode_encode (a : Alphabet) (bs : Bytes) : decode a (utf8 (encode a bs)) = .ok bs := by
  by_cases hne : bs = []
  · subst hne
    rfl
  · obtain ⟨front,last,rfl,hfront,hlast,hle⟩ := exists_groups hne
    obtain ⟨hlen,t,hread,hclose⟩ := exists_tail a ((sextets front).map a.octet).length hlast hle
    rw [hfront.encode_append, utf8_append, utf8_map_symbol a hfront.sextets_lt,
      decode_groups (values_map_octet a hfront.sextets_lt 0)
        (by rw [List.length_map]; exact hfront.length_sextets) hlen hread hclose,
      hfront.joinQuads_sextets]

end WorkloadLogin.Base64
