import WorkloadLogin.Proofs.Encoding.Base64
import WorkloadLogin.Proofs.Gates

/-! # Base64 has one text for each octet string

A text is decoded only if it is the encoding of what it is decoded to, so padding that is missing
and bits that are left over are refused. The two alphabets differ in two symbols alone: a text that
can be read in both stands for the same octets in both.
-/
namespace WorkloadLogin.Base64
open Bytes
variable {a b : Alphabet} {bs front last out octets : Bytes} {vs : List Nat} {t t' : Tail}
  {start index offset n : Nat} {cs : List Char}

/-! ## Symbols that are read -/

theorem lt_and_eq_octet_of_value? (a : Alphabet) :
    ∀ m < 256, ∀ n ∈ a.value? (UInt8.ofNat m), n < 64 ∧ UInt8.ofNat m = a.octet n := by
  cases a <;> decide +kernel

theorem value?_eq_some_iff {octet : UInt8} :
    a.value? octet = some n ↔ n < 64 ∧ octet = a.octet n := by
  constructor
  · intro h
    have hall := lt_and_eq_octet_of_value? a octet.toNat octet.toNat_lt
    rw [UInt8.ofNat_toNat] at hall
    exact hall n h
  · rintro ⟨hn,rfl⟩
    exact value?_octet a n hn

theorem values_ok_iff : values a offset bs = .ok vs ↔ (∀ n ∈ vs, n < 64) ∧ bs = vs.map a.octet := by
  constructor
  · intro h
    induction bs generalizing offset vs with
    | nil =>
      cases h
      exact ⟨nofun,rfl⟩
    | cons octet bs ih =>
      rw [values] at h
      cases hv : a.value? octet with
      | none => simp [hv] at h
      | some n =>
        simp only [hv] at h
        obtain ⟨ns,hrest,rfl⟩ := map_ok_iff.mp h
        obtain ⟨hn,rfl⟩ := value?_eq_some_iff.mp hv
        obtain ⟨hns,rfl⟩ := ih hrest
        exact ⟨List.forall_mem_cons.mpr ⟨hn,hns⟩,rfl⟩
  · rintro ⟨hvs,rfl⟩
    exact values_map_octet a hvs offset

/-! ## The last group -/

/-- What is read of a last group is symbols and then padding; behind padding nothing but more of
it is taken. -/
theorem readTail_ok (h : readTail a start index t bs = .ok t') :
    ∃ vs pads, bs = vs.map a.octet ++ List.replicate pads pad ∧ (∀ n ∈ vs, n < 64) ∧
      t'.values = t.values ++ vs ∧ t'.pads = t.pads + pads ∧ (0 < t.pads → vs = []) := by
  fun_induction readTail a start index t bs with
  | case1 index t =>
    cases h
    exact ⟨[],0,rfl,nofun,by simp,rfl,fun _ => rfl⟩
  | case2 | case4 | case5 => cases h
  | case3 index t bs hindex ih =>
    obtain ⟨vs,pads,rfl,hvs,hvalues,hpads,hnone⟩ := ih h
    obtain rfl := hnone (Nat.succ_pos _)
    refine ⟨[],pads + 1,by simp [List.replicate_succ],nofun,hvalues,?_,fun _ => rfl⟩
    rw [hpads]
    exact Nat.add_right_comm ..
  | case6 index t octet bs hpad hpads v hv ih =>
    obtain ⟨vs,pads,rfl,hvs,hvalues,hmore,-⟩ := ih h
    obtain ⟨hlt,rfl⟩ := value?_eq_some_iff.mp hv
    refine ⟨v :: vs,pads,rfl,List.forall_mem_cons.mpr ⟨hlt,hvs⟩,?_,hmore,?_⟩
    · rw [hvalues]
      simp
    · intro hsome
      exact absurd hsome hpads

/-- The bits of the values of a last group that encode nothing. -/
def spare : List Nat → Nat
  | [_,q] => q % 16
  | [_,_,r] => r % 4
  | _ => 0

theorem closeTail_eq (start : Nat) (t : Tail) : closeTail start t =
    if t.values.length < 2 then .error (.length (start + t.values.length))
    else if (t.pads + t.values.length) % 4 ≠ 0 then .error .padding
    else if spare t.values ≠ 0 then
      .error (.lastSymbol (t.symbols.getLast?.getD pad) (start + t.values.length - 1))
    else .ok ((joinQuads (t.values ++ List.replicate t.pads 0)).take (3 - t.pads)) := rfl

theorem closeTail_ok (h : closeTail start t = .ok out) :
    2 ≤ t.values.length ∧ (t.pads + t.values.length) % 4 = 0 ∧ spare t.values = 0 ∧
      out = (joinQuads (t.values ++ List.replicate t.pads 0)).take (3 - t.pads) := by
  rw [closeTail_eq] at h
  split at h
  · cases h
  rename_i hmany
  split at h
  · cases h
  rename_i hwhole
  split at h
  · cases h
  rename_i hzero
  cases h
  exact ⟨Nat.not_lt.mp hmany,Decidable.not_not.mp hwhole,Decidable.not_not.mp hzero,rfl⟩

/-- Four values are those of three octets. -/
theorem exists_quad (h : ∀ n ∈ vs, n < 64) (hlen : vs.length = 4) :
    ∃ x y z, quad x y z = vs := by
  match vs, hlen with
  | [p,q,r,s], _ =>
    simp only [List.forall_mem_cons] at h
    obtain ⟨hp,hq,hr,hs,-⟩ := h
    have hoctet : ∀ {n : Nat}, n < 256 → (UInt8.ofNat n).toNat = n := UInt8.toNat_ofNat_of_lt'
    have hx : (UInt8.ofNat (p * 4 + q / 16)).toNat = p * 4 + q / 16 := hoctet (by omega)
    have hy : (UInt8.ofNat (q % 16 * 16 + r / 4)).toNat = q % 16 * 16 + r / 4 := hoctet (by omega)
    have hz : (UInt8.ofNat (r % 4 * 64 + s)).toNat = r % 4 * 64 + s := hoctet (by omega)
    refine ⟨UInt8.ofNat (p * 4 + q / 16),UInt8.ofNat (q % 16 * 16 + r / 4),
      UInt8.ofNat (r % 4 * 64 + s),?_⟩
    simp only [quad, hx, hy, hz, List.cons.injEq, and_true]
    omega

theorem exists_whole : ∀ {vs : List Nat}, vs.length % 4 = 0 → (∀ n ∈ vs, n < 64) →
    ∃ front, Whole front ∧ sextets front = vs
  | [], _, _ => ⟨[],.nil,rfl⟩
  | p :: q :: r :: s :: rest, hlen, hvs => by
    have hfirst : ∀ n ∈ [p,q,r,s], n < 64 := fun n hn => hvs n (List.mem_append_left rest hn)
    have hrest : ∀ n ∈ rest, n < 64 := fun n hn => hvs n (List.mem_append_right [p,q,r,s] hn)
    have hlater : rest.length % 4 = 0 := by
      simp only [List.length_cons] at hlen
      omega
    obtain ⟨x,y,z,hquad⟩ := exists_quad hfirst rfl
    obtain ⟨front,hfront,rfl⟩ := exists_whole hlater hrest
    exact ⟨x :: y :: z :: front,.group x y z hfront,by rw [sextets, hquad]; rfl⟩

/-- A group whose spare bits are zero is the encoding of its octets. -/
theorem encode_group {pads : Nat} (hvs : ∀ n ∈ vs, n < 64) (htwo : 2 ≤ vs.length)
    (hfour : vs.length + pads = 4) (hspare : spare vs = 0) (a : Alphabet) :
    encode a ((joinQuads (vs ++ List.replicate pads 0)).take (3 - pads)) =
      vs.map a.symbol ++ List.replicate pads '=' := by
  have hall : ∀ n ∈ vs ++ List.replicate pads 0, n < 64 := by
    intro n hn
    rcases List.mem_append.mp hn with hn | hn
    · exact hvs n hn
    · rw [List.eq_of_mem_replicate hn]
      decide
  obtain ⟨x,y,z,hquad⟩ := exists_quad hall (by simpa using hfour)
  have hjoin : joinQuads (vs ++ List.replicate pads 0) = [x,y,z] := by
    rw [← hquad]
    exact joinQuads_quad x y z []
  have hgroup : vs = (quad x y z).take vs.length := by rw [hquad, List.take_left]
  rw [hjoin]
  have hy := y.toNat_lt
  have hz := z.toNat_lt
  have hpads : pads = 0 ∨ pads = 1 ∨ pads = 2 := by omega
  rcases hpads with rfl | rfl | rfl
  · obtain rfl : quad x y z = vs := by simpa using hquad
    rfl
  · have hthree : vs.length = 3 := Nat.succ.inj hfour
    rw [hthree] at hgroup
    rw [hgroup] at hspare ⊢
    have hlow : z.toNat / 64 = 0 := by
      have hbits : (y.toNat % 16 * 4 + z.toNat / 64) % 4 = 0 := hspare
      omega
    simp [quad, encode, hlow]
  · have hlength : vs.length = 2 := Nat.succ.inj (Nat.succ.inj hfour)
    rw [hlength] at hgroup
    rw [hgroup] at hspare ⊢
    have hlow : y.toNat / 16 = 0 := by
      have hbits : (x.toNat % 4 * 16 + y.toNat / 16) % 16 = 0 := hspare
      omega
    simp [quad, encode, hlow]

/-! ## What is accepted -/

theorem length_drop_tailStart (h : bs ≠ []) :
    (bs.take (tailStart bs.length)).length % 4 = 0 ∧ 1 ≤ (bs.drop (tailStart bs.length)).length ∧
      (bs.drop (tailStart bs.length)).length ≤ 4 := by
  have hlen : 0 < bs.length := List.length_pos_iff.mpr h
  rw [List.length_take, List.length_drop]
  unfold tailStart
  split <;> omega

/-- What is decoded is the encoding of the octets that it is decoded to. -/
theorem eq_encode_of_decode (h : decode a bs = .ok out) : bs = utf8 (encode a out) := by
  unfold decode at h
  simp only at h
  split at h
  · cases h
  split at h
  · rename_i hempty
    cases h
    exact List.isEmpty_iff.mp hempty
  rename_i hne
  split at h
  · cases h
  rename_i front hfront
  split at h
  · cases h
  rename_i t htail
  obtain ⟨hwhole,hone,hfour⟩ := length_drop_tailStart (fun hnil => hne (List.isEmpty_iff.mpr hnil))
  obtain ⟨last,hclose,rfl⟩ := map_ok_iff.mp h
  obtain ⟨hsextets,hfrontText⟩ := values_ok_iff.mp hfront
  obtain ⟨vs,pads,htailText,hvs,hvalues,hpads,-⟩ := readTail_ok htail
  rw [List.nil_append] at hvalues
  rw [Nat.zero_add] at hpads
  obtain ⟨htwo,hlen,hspare,rfl⟩ := closeTail_ok hclose
  rw [hvalues] at htwo hlen hspare ⊢
  rw [hpads] at hlen ⊢
  rw [htailText, List.length_append, List.length_map, List.length_replicate] at hone hfour
  have hgroup : vs.length + pads = 4 := by omega
  rw [hfrontText, List.length_map] at hwhole
  obtain ⟨octets,hoctets,rfl⟩ := exists_whole hwhole hsextets
  rw [hoctets.joinQuads_sextets, hoctets.encode_append, encode_group hvs htwo hgroup hspare,
    utf8_append, utf8_map_symbol a hsextets, utf8_group a hvs, ← hfrontText, ← htailText,
    List.take_append_drop]

theorem decode_ok_iff : decode a bs = .ok out ↔ bs = utf8 (encode a out) :=
  ⟨eq_encode_of_decode,fun h => h ▸ decode_encode a out⟩

/-! ## The two alphabets -/

/-- The symbol that stands in the standard alphabet for this one. -/
def inStandard (c : Char) : Char := if c = '-' then '+' else if c = '_' then '/' else c

theorem inStandard_symbol (a : Alphabet) :
    ∀ n < 64, inStandard (a.symbol n) = Alphabet.standard.symbol n := by
  cases a <;> decide

theorem inStandard_pad : inStandard '=' = '=' := by decide

/-- The alphabets write the same octets with the same values. -/
theorem map_inStandard_encode (a : Alphabet) (bs : Bytes) :
    (encode a bs).map inStandard = encode .standard bs := by
  fun_induction encode a bs with
  | case1 => rfl
  | case2 x =>
    have hx := x.toNat_lt
    simp only [encode, List.map_cons, List.map_nil, inStandard_pad]
    rw [inStandard_symbol a _ (by omega), inStandard_symbol a _ (by omega)]
  | case3 x y =>
    have hx := x.toNat_lt
    have hy := y.toNat_lt
    simp only [encode, List.map_cons, List.map_nil, inStandard_pad]
    rw [inStandard_symbol a _ (by omega), inStandard_symbol a _ (by omega),
      inStandard_symbol a _ (by omega)]
  | case4 x y z rest ih =>
    have hlt := quad_lt x y z
    simp only [quad, List.forall_mem_cons] at hlt
    obtain ⟨hp,hq,hr,hs,-⟩ := hlt
    simp only [encode, List.map_cons, ih, inStandard_symbol a _ hp, inStandard_symbol a _ hq,
      inStandard_symbol a _ hr, inStandard_symbol a _ hs]

/-- A text encodes one octet string, in whichever alphabets it is an encoding. -/
theorem encode_inj (h : encode a octets = encode b bs) : octets = bs := by
  have hsame : encode .standard octets = encode .standard bs := by
    rw [← map_inStandard_encode a octets, ← map_inStandard_encode b bs, h]
  have hdecoded := decode_encode .standard octets
  rw [hsame, decode_encode] at hdecoded
  exact (Except.ok.inj hdecoded).symm

theorem decode_agree (ha : decode a bs = .ok octets) (hb : decode b bs = .ok out) :
    octets = out := by
  have htexts := (eq_encode_of_decode ha).symm.trans (eq_encode_of_decode hb)
  exact encode_inj (utf8_inj.mp htexts)

/-! ## Texts that encode nothing -/

theorem length_encode (a : Alphabet) (bs : Bytes) : (encode a bs).length % 4 = 0 := by
  fun_induction encode a bs with
  | case1 => rfl
  | case2 x => simp only [List.length_cons, List.length_nil]
  | case3 x y => simp only [List.length_cons, List.length_nil]
  | case4 x y z rest ih =>
    simp only [List.length_cons]
    omega

/-- The text holds symbols that only the one alphabet has and symbols that only the other has. -/
def Mixed (cs : List Char) : Prop := ('-' ∈ cs ∨ '_' ∈ cs) ∧ ('+' ∈ cs ∨ '/' ∈ cs)

theorem not_mem_encode {c : Char} (hpad : c ≠ '=') (hc : ∀ n < 64, c ≠ a.symbol n) :
    c ∉ encode a bs := by
  intro hmem
  rcases mem_encode a bs c hmem with hequal | ⟨n,hn,hsymbol⟩
  · exact hpad hequal
  · exact hc n hn hsymbol

theorem not_mixed_encode (a : Alphabet) (bs : Bytes) : ¬ Mixed (encode a bs) := by
  rintro ⟨hurl,hstandard⟩
  cases a with
  | standard =>
    rcases hurl with hc | hc
    · exact not_mem_encode (by decide) (by decide) hc
    · exact not_mem_encode (by decide) (by decide) hc
  | urlSafe =>
    rcases hstandard with hc | hc
    · exact not_mem_encode (by decide) (by decide) hc
    · exact not_mem_encode (by decide) (by decide) hc

theorem symbol_ne_pad (a : Alphabet) : ∀ n < 64, a.symbol n ≠ '=' := by
  cases a <;> decide

/-- A symbol has one value, in whichever alphabets it is. -/
theorem symbol_inj {m : Nat} (hm : m < 64) (hn : n < 64) (h : a.symbol m = b.symbol n) :
    m = n := by
  have hsame : Alphabet.standard.symbol m = Alphabet.standard.symbol n := by
    rw [← inStandard_symbol a m hm, h, inStandard_symbol b n hn]
  have hoctet : Alphabet.standard.octet m = Alphabet.standard.octet n := by
    rw [Alphabet.octet, hsame, Alphabet.octet]
  have hvalue := value?_octet .standard m hm
  rw [hoctet, value?_octet .standard n hn] at hvalue
  exact (Option.some.inj hvalue).symm

/-- The symbol in front of the padding has bits that encode nothing and are not all zero. -/
inductive Loose : List Char → Prop
  | two (a : Alphabet) (front : List Char) {n : Nat} (hn : n < 64) (h : n % 16 ≠ 0) :
      Loose (front ++ [a.symbol n,'=','='])
  | one (a : Alphabet) (front : List Char) {n : Nat} (hn : n < 64) (h : n % 4 ≠ 0) :
      Loose (front ++ [a.symbol n,'='])

/-- How an encoding ends, read backwards. -/
inductive Ending (a : Alphabet) : List Char → Prop
  | two {n : Nat} (hn : n < 64) (h : n % 16 = 0) (rest : List Char) :
      Ending a ('=' :: '=' :: a.symbol n :: rest)
  | one {n : Nat} (hn : n < 64) (h : n % 4 = 0) (rest : List Char) :
      Ending a ('=' :: a.symbol n :: rest)
  | none {n : Nat} (hn : n < 64) (rest : List Char) : Ending a (a.symbol n :: rest)

theorem ending_encode (a : Alphabet) (h : bs ≠ []) : Ending a (encode a bs).reverse := by
  obtain ⟨front,last,rfl,hfront,hlast,hle⟩ := exists_groups h
  rw [hfront.encode_append, List.reverse_append]
  match last, hlast, hle with
  | [x], _, _ => exact .two (by omega) (by omega) _
  | [x,y], _, _ => exact .one (by omega) (by omega) _
  | [x,y,z], _, _ => exact .none (by omega) _

theorem Ending.bits_two (h : Ending a ('=' :: '=' :: b.symbol n :: cs)) (hn : n < 64) :
    n % 16 = 0 := by
  generalize htext : '=' :: '=' :: b.symbol n :: cs = text at h
  cases h with
  | two hm hbits _ =>
    obtain ⟨hsymbol,-⟩ := List.cons.inj (List.cons.inj (List.cons.inj htext).2).2
    rw [symbol_inj hn hm hsymbol]
    exact hbits
  | one hm _ _ =>
    obtain ⟨hsymbol,-⟩ := List.cons.inj (List.cons.inj htext).2
    exact absurd hsymbol.symm (symbol_ne_pad a _ hm)
  | none hm _ =>
    obtain ⟨hsymbol,-⟩ := List.cons.inj htext
    exact absurd hsymbol.symm (symbol_ne_pad a _ hm)

theorem Ending.bits_one (h : Ending a ('=' :: b.symbol n :: cs)) (hn : n < 64) : n % 4 = 0 := by
  generalize htext : '=' :: b.symbol n :: cs = text at h
  cases h with
  | two _ _ _ =>
    obtain ⟨hsymbol,-⟩ := List.cons.inj (List.cons.inj htext).2
    exact absurd hsymbol (symbol_ne_pad b _ hn)
  | one hm hbits _ =>
    obtain ⟨hsymbol,-⟩ := List.cons.inj (List.cons.inj htext).2
    rw [symbol_inj hn hm hsymbol]
    exact hbits
  | none hm _ =>
    obtain ⟨hsymbol,-⟩ := List.cons.inj htext
    exact absurd hsymbol.symm (symbol_ne_pad a _ hm)

theorem not_loose_encode (a : Alphabet) (bs : Bytes) : ¬ Loose (encode a bs) := by
  intro hloose
  have hne : bs ≠ [] := by
    rintro rfl
    generalize htext : encode a [] = cs at hloose
    cases hloose <;> simp [encode] at htext
  have hending := ending_encode a hne
  generalize encode a bs = cs at hloose hending
  cases hloose with
  | two b front hn hbits =>
    rw [List.reverse_append] at hending
    exact hbits (hending.bits_two hn)
  | one b front hn hbits =>
    rw [List.reverse_append] at hending
    exact hbits (hending.bits_one hn)

end WorkloadLogin.Base64
