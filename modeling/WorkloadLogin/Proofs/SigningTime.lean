import WorkloadLogin.Proofs.Calendar.Civil
import WorkloadLogin.Proofs.Text.Decimal
import WorkloadLogin.SigningTime

/-! # Canonical signing times

In the years that four digits show, the canonical text of an instant has a fixed width, and the
reader of the first layout takes it back to the start of its second. Each part of the text is read
back by the scanner of that part, whatever follows it.
-/
namespace WorkloadLogin.SigningTime
open Text

theorem fixedDigits_digitsPadded {width n : Nat} (hw : 0 < width) (hn : n < Nat.pow 10 width)
    (cs : List Char) : fixedDigits width (digitsPadded width n ++ cs) = some (n, cs) := by
  have hl := length_digitsPadded hw hn
  rw [fixedDigits, List.take_append_of_le_length (by omega),
    List.drop_append_of_le_length (by omega), List.take_of_length_le (by omega),
    List.drop_of_length_le (by omega)]
  rw [if_pos ⟨hl,all_isDigit_digitsPadded width n⟩, foldDigits_digitsPadded, List.nil_append]

@[simp] theorem char_cons_self (c : Char) (cs : List Char) : char c (c :: cs) = some ((), cs) := by
  simp [char]

theorem year_digitsPadded {n : Nat} (hn : n < 10000) (cs : List Char) :
    year (digitsPadded 4 n ++ cs) = some ((n : Int), cs) := by
  have hread := fixedDigits_digitsPadded (by decide : 0 < 4) hn cs
  have hdigits := all_isDigit_digitsPadded 4 n
  have hl := length_digitsPadded (by decide : 0 < 4) hn
  cases hd : digitsPadded 4 n with
  | nil => simp [hd] at hl
  | cons d ds =>
    rw [hd] at hread hdigits
    have hdigit : isDigit d = true := by simp_all
    unfold year
    split
    · rename_i heq
      cases heq
      simp [isDigit] at hdigit
    · rename_i heq
      cases heq
      simp [isDigit] at hdigit
    · rw [hread]
      rfl

/-- The text of a time of day. -/
def clockText (c : ClockTime) : List Char :=
  digitsPadded 2 c.hour ++ ':' :: (digitsPadded 2 c.minute ++ ':' :: digitsPadded 2 c.second)

theorem clock_clockText {c : ClockTime} (hc : c.Valid) (cs : List Char) :
    clock (clockText c ++ cs) = some (c, cs) := by
  simp only [clockText, List.append_assoc, List.cons_append, clock]
  rw [fixedDigits_digitsPadded (by decide) (Nat.lt_trans hc.hour (by decide))]
  simp only [Option.bind_eq_bind, Option.bind_some, char_cons_self]
  rw [fixedDigits_digitsPadded (by decide) (Nat.lt_trans hc.minute (by decide))]
  simp only [Option.bind_some, char_cons_self]
  rw [fixedDigits_digitsPadded (by decide) (Nat.lt_trans hc.second (by decide))]
  simp [ClockTime.ofParts?_eq_some_of_valid hc]

theorem length_clockText {c : ClockTime} (hc : c.Valid) : (clockText c).length = 8 := by
  have hh := length_digitsPadded (by decide : 0 < 2) (Nat.lt_trans hc.hour (by decide))
  have hm := length_digitsPadded (by decide : 0 < 2) (Nat.lt_trans hc.minute (by decide))
  have hs := length_digitsPadded (by decide : 0 < 2) (Nat.lt_trans hc.second (by decide))
  simp only [clockText, List.length_append, List.length_cons, hh, hm, hs]

/-- The text of a date in a year of at most four digits. -/
def dateText (d : Date) : List Char :=
  digitsPadded 4 d.year.natAbs ++ '-' :: (digitsPadded 2 d.month ++ '-' :: digitsPadded 2 d.day)

/-- Whether a date lies in a year that four digits show without a sign. -/
def FourDigits (d : Date) : Prop := 0 ≤ d.year ∧ d.year ≤ 9999

theorem FourDigits.natAbs_lt {d : Date} (hy : FourDigits d) : d.year.natAbs < 10000 := by
  have h₀ := hy.1
  have h₁ := hy.2
  omega

theorem length_dateText {d : Date} (h : d.Valid) (hy : FourDigits d) :
    (dateText d).length = 10 := by
  have hyear := length_digitsPadded (by decide : 0 < 4) hy.natAbs_lt
  have hmonth := length_digitsPadded (by decide : 0 < 2) (Nat.lt_of_le_of_lt h.month_le (by decide))
  have hday := length_digitsPadded (by decide : 0 < 2)
    (Nat.lt_of_le_of_lt h.day_le_thirtyOne (by decide))
  simp only [dateText, List.length_append, List.length_cons, hyear, hmonth, hday]

/-- A date and a time of day in the first layout, to the second. -/
def isoText (d : Date) (c : ClockTime) : List Char := dateText d ++ 'T' :: (clockText c ++ ['Z'])

theorem length_isoText {d : Date} {c : ClockTime} (hd : d.Valid) (hy : FourDigits d)
    (hc : c.Valid) : (isoText d c).length = 20 := by
  rw [isoText, List.length_append, List.length_cons, List.length_append, length_dateText hd hy,
    length_clockText hc]
  rfl

/-- The first layout is read back as the date and the time of day that it shows. -/
theorem parseIso_isoText {d : Date} {c : ClockTime} (hd : d.Valid) (hy : FourDigits d)
    (hc : c.Valid) : parseIso (isoText d c) = some (utc d c .zero) := by
  rw [isoText, parseIso]
  simp only [dateText, List.append_assoc, List.cons_append]
  rw [year_digitsPadded hy.natAbs_lt]
  simp only [Option.bind_eq_bind, Option.bind_some, char_cons_self]
  rw [fixedDigits_digitsPadded (by decide) (Nat.lt_of_le_of_lt hd.month_le (by decide))]
  simp only [Option.bind_some, char_cons_self]
  rw [fixedDigits_digitsPadded (by decide) (Nat.lt_of_le_of_lt hd.day_le_thirtyOne (by decide))]
  simp only [Option.bind_some, char_cons_self]
  rw [clock_clockText hc, Int.natAbs_of_nonneg hy.1]
  simp [fraction, Date.ofParts?_eq_some_of_valid hd]

theorem format_eq_canonical (t : Timestamp) : format t = canonical t.instant := rfl

/-- What stands behind the year of a canonical text. -/
def behindYear (t : Instant) : List Char :=
  digitsPadded 2 (utcDate t.seconds).month ++ '-' :: (digitsPadded 2 (utcDate t.seconds).day ++
    'T' :: (clockText (utcClock t.seconds) ++ ['Z']))

theorem canonical_eq_append (t : Instant) : (canonical t).toList =
    Timestamp.yearText (utcDate t.seconds).year ++ '-' :: behindYear t := by
  simp only [canonical, format, localText, Timestamp.localSeconds_toUtc, Timestamp.utc, behindYear,
    String.toList_ofList, clockText, List.append_assoc, List.cons_append]

theorem canonical_toList {t : Instant} (hy : FourDigits (utcDate t.seconds)) :
    (canonical t).toList = isoText (utcDate t.seconds) (utcClock t.seconds) := by
  rw [canonical_eq_append, Timestamp.yearText, if_neg (Int.not_lt.mpr hy.1), List.nil_append]
  simp only [behindYear, isoText, dateText, List.append_assoc, List.cons_append]

/-- Four digits of the year, two of everything else, five separators and the zone. -/
theorem length_canonical {t : Instant} (hy : FourDigits (utcDate t.seconds)) :
    (canonical t).toList.length = 20 := by
  rw [canonical_toList hy, length_isoText (valid_utcDate _) hy (valid_utcClock _)]

/-- The canonical text is read back as the start of the second. -/
theorem parseIso_canonical {t : Instant} (hy : FourDigits (utcDate t.seconds)) :
    parseIso (canonical t).toList = some t.floor := by
  rw [canonical_toList hy, parseIso_isoText (valid_utcDate _) hy (valid_utcClock _), utc,
    utcSeconds_utcDate_utcClock, Instant.floor]

/-- Two canonical texts are the same exactly for instants of the same second. -/
theorem canonical_eq_iff {t u : Instant} (ht : FourDigits (utcDate t.seconds))
    (hu : FourDigits (utcDate u.seconds)) : canonical t = canonical u ↔ t.seconds = u.seconds := by
  constructor
  · intro h
    have hread := parseIso_canonical ht
    rw [h, parseIso_canonical hu] at hread
    have hfloor : t.floor = u.floor := Option.some.inj hread.symm
    exact (congrArg Instant.seconds hfloor : t.floor.seconds = u.floor.seconds)
  · intro h
    rw [← String.toList_inj, canonical_eq_append, canonical_eq_append, behindYear, behindYear, h]

end WorkloadLogin.SigningTime
