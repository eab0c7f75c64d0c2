import WorkloadLogin.Http.Percent

/-! # Escapes are read back

What is written with escapes stands for the octets of the text, provided that the percent sign is
among the escaped characters and that nothing but ASCII is written as it is. So a written text
determines the text behind it.
-/
namespace WorkloadLogin.Bytes

theorem utf8_append (cs ds : List Char) : utf8 (cs ++ ds) = utf8 cs ++ utf8 ds :=
  List.flatMap_append

theorem utf8_inj {cs ds : List Char} : utf8 cs = utf8 ds ↔ cs = ds := by
  constructor
  · intro h
    have hbytes : cs.utf8Encode = ds.utf8Encode := congrArg List.toByteArray h
    have htext : String.ofList cs = String.ofList ds := String.toByteArray_inj.mp hbytes
    exact String.ofList_inj.mp htext
  · exact congrArg utf8

theorem ofText_inj {s t : String} : ofText s = ofText t ↔ s = t := by
  rw [ofText, ofText, utf8_inj]
  exact String.toList_inj

theorem ofText_ofList (cs : List Char) : ofText (String.ofList cs) = utf8 cs := by
  simp [ofText]

/-- A character of ASCII is one octet. -/
theorem utf8EncodeChar_ascii {c : Char} (h : c.toNat < 128) :
    String.utf8EncodeChar c = [UInt8.ofNat c.toNat] :=
  if_pos (Nat.le_of_lt_succ h)

end WorkloadLogin.Bytes

namespace WorkloadLogin.Http.Percent
open Bytes
variable {reserved : Char → Bool} {cs ds : List Char}

theorem decode_cons_of_ne {b : UInt8} (h : b ≠ 37) (bs : Bytes) :
    decode (b :: bs) = b :: decode bs := by
  match bs with
  | [] => rfl
  | [_] => rfl
  | _ :: _ :: _ => rw [decode, if_neg h]

theorem hexValue?_upperHexDigit : ∀ n < 16,
    String.utf8EncodeChar (upperHexDigit n) = [UInt8.ofNat (upperHexDigit n).toNat] ∧
      hexValue? (UInt8.ofNat (upperHexDigit n).toNat) = some n := by
  decide

theorem decode_escapeOctet (b : UInt8) (bs : Bytes) :
    decode (utf8 (escapeOctet b) ++ bs) = b :: decode bs := by
  have hb : b.toNat < 256 := b.toNat_lt
  obtain ⟨henc₁,hval₁⟩ := hexValue?_upperHexDigit (b.toNat / 16) (by omega)
  obtain ⟨henc₂,hval₂⟩ := hexValue?_upperHexDigit (b.toNat % 16) (by omega)
  have hwritten : utf8 (escapeOctet b) =
      [37,UInt8.ofNat (upperHexDigit (b.toNat / 16)).toNat,
        UInt8.ofNat (upperHexDigit (b.toNat % 16)).toNat] := by
    have hmark : String.utf8EncodeChar '%' = [37] := rfl
    simp only [utf8, escapeOctet, List.flatMap_cons, List.flatMap_nil, hmark, henc₁, henc₂]
    rfl
  have hvalue : UInt8.ofNat (b.toNat / 16 * 16 + b.toNat % 16) = b := by
    rw [Nat.div_add_mod']
    exact UInt8.ofNat_toNat
  simp only [hwritten, List.cons_append, List.nil_append]
  rw [decode, if_pos rfl, hval₁, hval₂]
  simp only [hvalue]

theorem decode_escapeOctets (octets bs : Bytes) :
    decode (utf8 (octets.flatMap escapeOctet) ++ bs) = octets ++ decode bs := by
  induction octets with
  | nil => rfl
  | cons b octets ih =>
    rw [List.flatMap_cons, utf8_append, List.append_assoc, decode_escapeOctet, ih]
    rfl

/-- What stands for itself is ASCII and no percent sign. -/
structure Faithful (reserved : Char → Bool) : Prop where
  ascii : ∀ c, reserved c = false → c.toNat < 128
  mark : reserved '%' = true

theorem decode_encode_append (hr : Faithful reserved) (cs : List Char) (bs : Bytes) :
    decode (utf8 (encode reserved cs) ++ bs) = utf8 cs ++ decode bs := by
  induction cs with
  | nil => rfl
  | cons c cs ih =>
    have hsplit : encode reserved (c :: cs) =
        (if reserved c then escapeChar c else [c]) ++ encode reserved cs := rfl
    have htext : utf8 (c :: cs) = String.utf8EncodeChar c ++ utf8 cs := rfl
    rw [hsplit, htext, utf8_append, List.append_assoc]
    cases hc : reserved c with
    | true =>
      simp only [if_true]
      rw [escapeChar, decode_escapeOctets, ih, List.append_assoc]
    | false =>
      have hlt : c.toNat < 128 := hr.ascii c hc
      have hone : utf8 [c] = [UInt8.ofNat c.toNat] := by
        simp [utf8, utf8EncodeChar_ascii hlt]
      have hne : UInt8.ofNat c.toNat ≠ 37 := by
        intro heq
        have hnat : c.toNat = 37 := by
          have := congrArg UInt8.toNat heq
          simp only [UInt8.toNat_ofNat'] at this
          rw [Nat.mod_eq_of_lt (by omega)] at this
          exact this
        have hmark : c = '%' := Char.toNat_inj.mp hnat
        rw [hmark, hr.mark] at hc
        cases hc
      simp only [Bool.false_eq_true, if_false, hone, List.cons_append, List.nil_append,
        utf8EncodeChar_ascii hlt]
      rw [decode_cons_of_ne hne, ih]

theorem decode_encode (hr : Faithful reserved) (cs : List Char) :
    decode (utf8 (encode reserved cs)) = utf8 cs := by
  simpa [decode] using decode_encode_append hr cs []

theorem faithful_inSegment : Faithful inSegment where
  ascii c hc := by
    have hprintable : isUnprintable c = false := by
      simp only [inSegment, inPath, inFragment, Bool.or_eq_false_iff] at hc
      exact hc.1.1.1
    simp only [isUnprintable, Bool.or_eq_false_iff, decide_eq_false_iff_not] at hprintable
    omega
  mark := rfl

end WorkloadLogin.Http.Percent
