import WorkloadLogin.Proofs.SigningSecond
import WorkloadLogin.Proofs.Text.Blank
import WorkloadLogin.Proofs.Text.Fields

/-! # The two layouts of a signing time

Writing an instant canonically and reading it back takes nothing from it but the fraction of its
second. The layout of the shell's clock shows the same dates and times as the canonical one, in
another order and with any blanks between its fields; a text of the one layout is never a text of
the other, since the one starts with a year and the other with a weekday.
-/
namespace WorkloadLogin
open Text

namespace Text

theorem isField_digits (n : Nat) : IsField (digits n) where
  ne_nil := digits_ne_nil n
  solid c hc := isBlank_of_isDigit (List.all_eq_true.mp (all_isDigit_digits n) c hc)

theorem isField_digitsPadded (width n : Nat) : IsField (digitsPadded width n) where
  ne_nil h := digits_ne_nil n (List.append_eq_nil_iff.mp h).2
  solid c hc := isBlank_of_isDigit (List.all_eq_true.mp (all_isDigit_digitsPadded width n) c hc)

end Text

namespace SigningTime
variable {d : Date} {c : ClockTime} {t u : Instant} {cs zone : List Char} {weekday : String}

/-! ## Writing and reading back -/

theorem parse?_canonical (hy : FourDigits (utcDate t.seconds)) :
    parse? (canonical t) = some t.floor := by
  rw [parse?, parseIso_canonical hy, Option.some_or]

/-- What is written is read back, in UTC, but for the fraction, whatever offset is carried. Writing
again what was read changes nothing, and texts are the same only for instants of one second. -/
theorem canonical_read_back :
    (∀ t : Timestamp, FourDigits (utcDate t.instant.seconds) →
      (format t).length = 20 ∧ parse? (format t) = some t.instant.floor) ∧
    (∀ raw t, parse? raw = some t → FourDigits (utcDate t.seconds) →
      ∃ u, parse? (format (.utc t)) = some u ∧ format (.utc u) = format (.utc t)) ∧
    (∀ t u : Timestamp,
      FourDigits (utcDate t.instant.seconds) → FourDigits (utcDate u.instant.seconds) →
        (format t = format u ↔ t.instant.seconds = u.instant.seconds)) := by
  refine ⟨?_,?_,?_⟩
  · intro t hy
    rw [format_eq_canonical]
    exact ⟨String.length_toList ▸ length_canonical hy,parse?_canonical hy⟩
  · intro raw t _ hy
    exact ⟨t.floor,parse?_canonical hy,rfl⟩
  · intro t u ht hu
    rw [format_eq_canonical, format_eq_canonical]
    exact canonical_eq_iff ht hu

/-- Two spellings of one second of 2006, the one shown in UTC and the other an hour further west,
and the last nanosecond before 1970 shown an hour further east. -/
theorem canonical_read_back_sample : ∃ t u,
    parse? "2006-01-02T15:04:05.25Z" = some t ∧ parse? "Mon Jan  2 15:04:05 MST 2006" = some u ∧
      t ≠ u ∧ format (.utc t) = format ⟨u,-3600⟩ ∧
      (∃ v, parse? (format (.utc t)) = some v ∧ format (.utc v) = format (.utc t)) ∧
      (format ⟨⟨-1,⟨999999999,by decide⟩⟩,3600⟩).length = 20 ∧
      parse? (format ⟨⟨-1,⟨999999999,by decide⟩⟩,3600⟩) = some ⟨-1,.zero⟩ := by
  obtain ⟨hback,hagain,hsame⟩ := canonical_read_back
  have ht : parse? "2006-01-02T15:04:05.25Z" = some ⟨1136214245,⟨250000000,by decide⟩⟩ := by
    decide +kernel
  have hu : parse? "Mon Jan  2 15:04:05 MST 2006" = some ⟨1136214245,.zero⟩ := by decide +kernel
  have hy : FourDigits (utcDate 1136214245) := ⟨by decide,by decide⟩
  have hone := (hsame (.utc ⟨1136214245,⟨250000000,by decide⟩⟩)
    ⟨⟨1136214245,.zero⟩,-3600⟩ hy hy).mpr rfl
  have hnew := hback ⟨⟨-1,⟨999999999,by decide⟩⟩,3600⟩ ⟨by decide,by decide⟩
  exact ⟨_,_,ht,hu,by decide,hone,hagain _ _ ht hy,hnew⟩

/-! ## The layout of the shell's clock -/

/-- The abbreviation of a month. -/
def monthText (m : Nat) : List Char := (months.getD (m - 1) "").toList

/-- What the shell's clock shows of a date and a time of day, beside a weekday and a zone. -/
def shellFields (weekday : String) (d : Date) (c : ClockTime) (zone : List Char) :
    List (List Char) :=
  [weekday.toList,monthText d.month,digits d.day,clockText c,zone,digitsPadded 4 d.year.natAbs]

/-- Three to five upper-case letters. -/
structure IsZone (zone : List Char) : Prop where
  length : 3 ≤ zone.length ∧ zone.length ≤ 5
  upper : ∀ c ∈ zone, 'A' ≤ c ∧ c ≤ 'Z'

theorem month?_monthText : ∀ m ∈ List.range' 1 12, month? (monthText m) = some m := by decide

theorem isField_monthText : ∀ m ∈ List.range' 1 12, IsField (monthText m) := by
  simp only [isField_iff_all]
  decide

theorem isField_weekday : ∀ w ∈ weekdays, IsField w.toList := by
  simp only [isField_iff_all]
  decide

theorem mem_months (h : d.Valid) : d.month ∈ List.range' 1 12 := by
  have hpos := h.month_pos
  have hle := h.month_le
  rw [List.mem_range'_1]
  omega

theorem IsZone.isField (h : IsZone zone) : IsField zone where
  ne_nil he := by
    have hlen := h.length.1
    simp [he] at hlen
  solid c hc := by
    have hupper := h.upper c hc
    have hA : 65 ≤ c.toNat := hupper.1
    have hZ : c.toNat ≤ 90 := hupper.2
    exact isBlank_eq_false (by omega)

theorem isZone_eq_true_iff : isZone zone = true ↔ IsZone zone := by
  simp only [isZone, isUpper, Bool.and_eq_true, decide_eq_true_eq, List.all_eq_true]
  exact ⟨fun h => ⟨h.1,h.2⟩,fun h => ⟨h.length,h.upper⟩⟩

theorem isField_clockText (c : ClockTime) : IsField (clockText c) where
  ne_nil h := by simp [clockText] at h
  solid x hx := by
    have hdigit : ∀ n, x ∈ digitsPadded 2 n → isBlank x = false :=
      fun n => (isField_digitsPadded 2 n).solid x
    have hcolon : x = ':' → isBlank x = false := by
      rintro rfl
      rfl
    simp only [clockText, List.mem_append, List.mem_cons] at hx
    rcases hx with hx | hx | hx | hx | hx
    · exact hdigit _ hx
    · exact hcolon hx
    · exact hdigit _ hx
    · exact hcolon hx
    · exact hdigit _ hx

theorem isField_shellFields (hd : d.Valid) (hw : weekday ∈ weekdays) (hz : IsZone zone) :
    ∀ f ∈ shellFields weekday d c zone, IsField f := by
  simp only [shellFields, List.forall_mem_cons]
  exact ⟨isField_weekday _ hw,isField_monthText _ (mem_months hd),isField_digits _,
    isField_clockText c,hz.isField,isField_digitsPadded _ _,nofun⟩

theorem day?_digits (h : d.Valid) : day? (digits d.day) = some d.day := by
  have hday : d.day < Nat.pow 10 2 := Nat.lt_of_le_of_lt h.day_le_thirtyOne (by decide)
  have hlen : (digits d.day).length ≤ 2 :=
    (Nat.length_toDigits_le_iff (by decide : 1 < 10) (by decide)).mpr hday
  rw [day?, if_pos hlen, natOfDigits?, all_isDigit_digits, foldDigits_digits]
  simp [digits_ne_nil]

theorem whole_eq_some {α : Type} {scan : Scan α} {a : α} (h : scan cs = some (a, [])) :
    whole scan cs = some a := by
  rw [whole, h]

/-- The shell's layout is read as the date and the time of day that it shows, whatever the weekday,
the zone and the blanks are. -/
theorem parseShell_spread {gap : Nat → List Char} (hd : d.Valid) (hy : FourDigits d) (hc : c.Valid)
    (hw : weekday ∈ weekdays) (hz : IsZone zone) (hgap : Spacing gap 6) :
    parseShell (spread gap 0 (shellFields weekday d c zone)) = some (utc d c .zero) := by
  have hfields : blankFields (spread gap 0 (shellFields weekday d c zone)) =
      shellFields weekday d c zone := hgap.blankFields_eq (isField_shellFields hd hw hz)
  have hweekday : weekdays.any (fun w => w.toList == weekday.toList) = true :=
    List.any_eq_true.mpr ⟨weekday,hw,beq_self_eq_true _⟩
  have hclock : whole clock (clockText c) = some c :=
    whole_eq_some (by simpa using clock_clockText hc [])
  have hyear : whole year (digitsPadded 4 d.year.natAbs) = some d.year := by
    have hread := year_digitsPadded hy.natAbs_lt []
    rw [List.append_nil, Int.natAbs_of_nonneg hy.1] at hread
    exact whole_eq_some hread
  rw [parseShell, hfields, shellFields]
  simp only [hweekday, isZone_eq_true_iff.mpr hz, Bool.and_self, if_true,
    month?_monthText _ (mem_months hd), day?_digits hd, hclock, hyear, Option.bind_eq_bind,
    Option.bind_some, Date.ofParts?_eq_some_of_valid hd, Option.pure_def]

/-! ## No text in both layouts -/

/-- Whether a year can start with this character. -/
def startsYear (c : Char) : Bool := c == '+' || c == '-' || isDigit c

theorem exists_cons_of_year {r : Int × List Char} (h : year cs = some r) :
    ∃ x rest, cs = x :: rest ∧ startsYear x = true := by
  unfold year at h
  split at h
  · exact ⟨_,_,rfl,rfl⟩
  · exact ⟨_,_,rfl,rfl⟩
  · obtain ⟨r,hr,-⟩ := Option.map_eq_some_iff.mp h
    simp only [fixedDigits, Option.ite_none_right_eq_some] at hr
    obtain ⟨⟨hlen,hdigits⟩,-⟩ := hr
    cases cs with
    | nil => simp at hlen
    | cons x rest =>
      have hx : isDigit x = true := List.all_eq_true.mp hdigits x (by simp)
      exact ⟨x,rest,rfl,by simp [startsYear, hx]⟩

theorem startsYear_weekday : ∀ w ∈ weekdays, w.toList.head?.any startsYear = false := by decide

theorem isBlank_of_startsYear {x : Char} (h : startsYear x = true) : isBlank x = false := by
  simp only [startsYear, Bool.or_eq_true, beq_iff_eq] at h
  rcases h with (rfl | rfl) | h
  · rfl
  · rfl
  · exact isBlank_of_isDigit h

theorem exists_cons_of_parseIso (h : parseIso cs = some t) :
    ∃ x rest, cs = x :: rest ∧ startsYear x = true := by
  simp only [parseIso, Option.bind_eq_bind, Option.bind_eq_some_iff] at h
  obtain ⟨_,hy,-⟩ := h
  exact exists_cons_of_year hy

theorem exists_weekday_of_parseShell (h : parseShell cs = some t) :
    ∃ w ∈ weekdays, ∃ fields, blankFields cs = w.toList :: fields := by
  unfold parseShell at h
  split at h
  · rename_i hfields
    split at h
    · rename_i hgood
      obtain ⟨w,hw,heq⟩ := List.any_eq_true.mp (Bool.and_eq_true_iff.mp hgood).1
      exact ⟨w,hw,_,by rw [hfields, eq_of_beq heq]⟩
    · cases h
  · cases h

/-- A text of the first layout starts with a year, one of the second with a weekday. -/
theorem not_both (h : parseIso cs = some t) (h' : parseShell cs = some u) : False := by
  obtain ⟨x,rest,rfl,hx⟩ := exists_cons_of_parseIso h
  obtain ⟨w,hw,fields,hfields⟩ := exists_weekday_of_parseShell h'
  obtain ⟨_,_,hhead⟩ := exists_blankFields_cons (isBlank_of_startsYear hx) rest
  obtain ⟨hword,-⟩ := List.cons.inj (hhead.symm.trans hfields)
  have hno := startsYear_weekday w hw
  rw [← hword, List.head?_cons, Option.any_some, hx] at hno
  cases hno

theorem or_comm_of_not_both {α : Type} {x y : Option α}
    (h : ∀ a b, x = some a → y = some b → False) : x.or y = y.or x := by
  cases x with
  | none => simp
  | some a =>
    cases y with
    | none => rfl
    | some b => exact (h a b rfl rfl).elim

theorem parse?_eq_shell_or_iso (raw : String) :
    parse? raw = (parseShell raw.toList).or (parseIso raw.toList) :=
  or_comm_of_not_both fun _ _ => not_both

theorem parse?_isoText (hd : d.Valid) (hy : FourDigits d) (hc : c.Valid) :
    parse? (String.ofList (isoText d c)) = some (utc d c .zero) := by
  rw [parse?, String.toList_ofList, parseIso_isoText hd hy hc, Option.some_or]

/-- Both layouts of a date and a time of day are read as one instant, whatever the weekday, the zone
and the blanks of the second are. No text is taken in both, so it is the same which of them is
tried first. -/
theorem layouts_agree_apart :
    (∀ (d : Date) (c : ClockTime) (weekday : String) (zone : List Char) (gap : Nat → List Char),
      d.Valid → FourDigits d → c.Valid → weekday ∈ weekdays → IsZone zone → Spacing gap 6 →
      parse? (String.ofList (spread gap 0 (shellFields weekday d c zone))) = some (utc d c .zero) ∧
        parse? (String.ofList (isoText d c)) = some (utc d c .zero)) ∧
    (∀ cs, ¬ ((parseIso cs).isSome = true ∧ (parseShell cs).isSome = true)) ∧
    (∀ raw, parse? raw = (parseShell raw.toList).or (parseIso raw.toList)) := by
  refine ⟨?_,?_,parse?_eq_shell_or_iso⟩
  · intro d c weekday zone gap hd hy hc hw hz hgap
    refine ⟨?_,parse?_isoText hd hy hc⟩
    rw [parse?_eq_shell_or_iso, String.toList_ofList, parseShell_spread hd hy hc hw hz hgap,
      Option.some_or]
  · rintro cs ⟨hiso,hshell⟩
    obtain ⟨_,hiso⟩ := Option.isSome_iff_exists.mp hiso
    obtain ⟨_,hshell⟩ := Option.isSome_iff_exists.mp hshell
    exact not_both hiso hshell

/-- Blanks of several kinds and lengths, none in front. -/
def mixedGap (i : Nat) : List Char :=
  (["", " ", "  ", "\u3000", "\t", "\n", " "].getD i "").toList

/-- A leap day, under a weekday that it was not. -/
theorem layouts_agree_apart_leapDay : ∃ t,
    parse? "Tue Feb  29\u300023:59:59\tLOCAL\n2000 " = some t ∧
      parse? "2000-02-29T23:59:59Z" = some t ∧
      (parseShell "2000-02-29T23:59:59Z".toList).isSome = false := by
  obtain ⟨hagree,hapart,-⟩ := layouts_agree_apart
  have hblank : ∀ i ≤ 6, (mixedGap i).all isBlank = true := by decide
  have hgap : Spacing mixedGap 6 := ⟨fun i hi => List.all_eq_true.mp (hblank i hi),by decide⟩
  have hzone : IsZone "LOCAL".toList := isZone_eq_true_iff.mp (by decide)
  obtain ⟨hshell,hiso⟩ := hagree ⟨2000,2,29⟩ ⟨23,59,59⟩ "Tue" "LOCAL".toList mixedGap
    ⟨by decide,by decide,by decide,by decide⟩ ⟨by decide,by decide⟩
    ⟨by decide,by decide,by decide⟩ (by decide) hzone hgap
  have hread : (parseIso "2000-02-29T23:59:59Z".toList).isSome = true := by decide +kernel
  exact ⟨_,hshell,hiso,Bool.eq_false_iff.mpr fun hboth => hapart _ ⟨hread,hboth⟩⟩

end SigningTime
end WorkloadLogin
