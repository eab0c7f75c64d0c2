import WorkloadLogin.Proofs.Calendar.Years
import WorkloadLogin.Proofs.SigningTime
import WorkloadLogin.Verifier

/-! # The second of a signing time

Whatever the layout, an instant that is read lies in a year that a text can show. A canonical text
shows its second in a way that can be told from whatever follows it: the year ends at the first
character that is no digit, and everything else has a fixed width.
-/
namespace WorkloadLogin
open Text

namespace Text

theorem foldl_digits_lt {cs : List Char} (h : cs.all isDigit = true) (n : Nat) :
    cs.foldl (fun n c => 10 * n + digitValue c) n < (n + 1) * Nat.pow 10 cs.length := by
  induction cs generalizing n with
  | nil => simp
  | cons c cs ih =>
    simp only [List.all_cons, Bool.and_eq_true] at h
    have hdigit := digitValue_le_nine h.1
    have hrest := ih h.2 (10 * n + digitValue c)
    have hle : (10 * n + digitValue c + 1) * Nat.pow 10 cs.length ≤
        (n + 1) * 10 * Nat.pow 10 cs.length := Nat.mul_le_mul_right _ (by omega)
    have hpow : (n + 1) * 10 * Nat.pow 10 cs.length = (n + 1) * Nat.pow 10 (c :: cs).length := by
      change _ = (n + 1) * (Nat.pow 10 cs.length * 10)
      rw [Nat.mul_assoc, Nat.mul_comm 10]
    exact Nat.lt_of_lt_of_le hrest (hpow ▸ hle)

theorem foldDigits_lt {cs : List Char} (h : cs.all isDigit = true) :
    foldDigits cs < Nat.pow 10 cs.length := by
  simpa [foldDigits] using foldl_digits_lt h 0

end Text

namespace SigningTime

/-! ## What is read -/

theorem fixedDigits_lt {n value : Nat} {cs rest : List Char}
    (h : fixedDigits n cs = some (value, rest)) : value < Nat.pow 10 n := by
  simp only [fixedDigits] at h
  split at h
  · rename_i hds
    cases h
    have hlt := foldDigits_lt hds.2
    rw [hds.1] at hlt
    exact hlt
  · cases h

theorem year_bounds {cs rest : List Char} {y : Int} (h : year cs = some (y, rest)) :
    -9999 ≤ y ∧ y ≤ 9999 := by
  have hfour : Nat.pow 10 4 = 10000 := rfl
  unfold year at h
  split at h
  all_goals
    obtain ⟨⟨n,_⟩,hn,heq⟩ := Option.map_eq_some_iff.mp h
    have hlt := fixedDigits_lt hn
    cases heq
    omega

/-- A date and a time of day that the calendar has, the date in a year that a text can show. -/
def Readable (t : Instant) : Prop :=
  ∃ d c nanos, d.Valid ∧ ClockTime.Valid c ∧ d.inRange = true ∧ t = utc d c nanos

theorem valid_of_dateParts {y : Int} {m day : Nat} {d : Date}
    (h : Date.ofParts? y m day = some d) : d.Valid ∧ d.year = y := by
  unfold Date.ofParts? at h
  split at h
  · rename_i hd
    cases h
    exact ⟨⟨hd.1,hd.2.1,hd.2.2.1,hd.2.2.2⟩,rfl⟩
  · cases h

theorem valid_of_clock {cs rest : List Char} {c : ClockTime} (h : clock cs = some (c, rest)) :
    c.Valid := by
  simp only [clock, Option.bind_eq_bind, Option.bind_eq_some_iff] at h
  obtain ⟨_,-,_,-,_,-,_,-,_,-,c,hc,hend⟩ := h
  cases hend
  unfold ClockTime.ofParts? at hc
  split at hc
  · rename_i hv
    cases hc
    exact ⟨hv.1,hv.2.1,hv.2.2⟩
  · cases hc

theorem readable_of_parseIso {cs : List Char} {t : Instant} (h : parseIso cs = some t) :
    Readable t := by
  simp only [parseIso, Option.bind_eq_bind, Option.bind_eq_some_iff] at h
  obtain ⟨⟨y,_⟩,hy,_,-,_,-,_,-,_,-,_,-,⟨c,_⟩,hc,_,-,date,hdate,hend⟩ := h
  obtain ⟨hd,rfl⟩ := valid_of_dateParts hdate
  split at hend
  · cases hend
    exact ⟨date,c,_,hd,valid_of_clock hc,inRange_iff.mpr (year_bounds hy),rfl⟩
  · cases hend

theorem eq_of_whole {α : Type} {scan : Scan α} {cs : List Char} {a : α}
    (h : whole scan cs = some a) : scan cs = some (a, []) := by
  unfold whole at h
  split at h
  · cases h
    assumption
  · cases h

theorem readable_of_parseShell {cs : List Char} {t : Instant} (h : parseShell cs = some t) :
    Readable t := by
  unfold parseShell at h
  split at h
  · split at h
    · simp only [Option.bind_eq_bind, Option.bind_eq_some_iff] at h
      obtain ⟨_,-,_,-,c,hc,y,hy,date,hdate,hend⟩ := h
      obtain ⟨hd,rfl⟩ := valid_of_dateParts hdate
      cases hend
      exact ⟨date,c,_,hd,valid_of_clock (eq_of_whole hc),
        inRange_iff.mpr (year_bounds (eq_of_whole hy)),rfl⟩
    · cases h
  · cases h

/-- An instant that is read, in either layout, lies in a year that a text can show. -/
theorem inRange_of_parse {raw : String} {t : Instant} (h : parse? raw = some t) :
    (utcDate t.seconds).inRange = true := by
  have hreadable : Readable t := by
    rcases Option.or_eq_some_iff.mp h with hiso | ⟨-,hshell⟩
    · exact readable_of_parseIso hiso
    · exact readable_of_parseShell hshell
  obtain ⟨d,c,nanos,hd,hc,hrange,rfl⟩ := hreadable
  have hyear : (utcDate (utc d c nanos).seconds).year = d.year := year_utcDate_utcSeconds hd hc
  rw [inRange_iff, hyear]
  exact inRange_iff.mp hrange

/-! ## What a text starts with -/

/-- A run of digits ends at the first character that is none. -/
theorem digits_append_inj {ds es xs ys : List Char} {c : Char} (hd : ds.all isDigit = true)
    (he : es.all isDigit = true) (hc : isDigit c = false) (h : ds ++ c :: xs = es ++ c :: ys) :
    ds = es ∧ xs = ys := by
  have htake : ∀ (run rest : List Char), run.all isDigit = true →
      (run ++ c :: rest).takeWhile isDigit = run := by
    intro run rest hrun
    rw [List.takeWhile_append_of_pos (List.all_eq_true.mp hrun)]
    simp [hc]
  have heq : ds = es := by rw [← htake ds xs hd, h, htake es ys he]
  subst heq
  exact ⟨rfl,(List.cons.inj (List.append_cancel_left h)).2⟩

theorem digitsPadded_inj {width n m : Nat} (h : digitsPadded width n = digitsPadded width m) :
    n = m := by
  rw [← foldDigits_digitsPadded width n, h, foldDigits_digitsPadded]

theorem digitsPadded_four_ne_cons {n : Nat} {c : Char} {xs ys : List Char}
    (hc : isDigit c = false) : digitsPadded 4 n ++ xs ≠ c :: ys := by
  intro h
  have hdigits := all_isDigit_digitsPadded 4 n
  cases hd : digitsPadded 4 n with
  | nil =>
    have hlen := congrArg List.length hd
    simp only [digitsPadded, List.length_append, List.length_replicate, List.length_nil] at hlen
    omega
  | cons d ds =>
    rw [hd] at h hdigits
    cases h
    simp [hc] at hdigits

theorem yearText_append_inj {y z : Int} {xs ys : List Char}
    (h : Timestamp.yearText y ++ '-' :: xs = Timestamp.yearText z ++ '-' :: ys) :
    y = z ∧ xs = ys := by
  have hminus : isDigit '-' = false := rfl
  unfold Timestamp.yearText at h
  by_cases hy : y < 0
  · by_cases hz : z < 0
    · simp only [hy, hz, if_true, List.cons_append, List.nil_append, List.cons.injEq,
        true_and] at h
      obtain ⟨hdigits,hrest⟩ := digits_append_inj (all_isDigit_digitsPadded _ _)
        (all_isDigit_digitsPadded _ _) hminus h
      have habs := digitsPadded_inj hdigits
      exact ⟨by omega,hrest⟩
    · simp only [hy, hz, if_true, if_false, List.cons_append, List.nil_append] at h
      exact absurd h.symm (digitsPadded_four_ne_cons hminus)
  · by_cases hz : z < 0
    · simp only [hy, hz, if_true, if_false, List.cons_append, List.nil_append] at h
      exact absurd h (digitsPadded_four_ne_cons hminus)
    · simp only [hy, hz, if_false, List.nil_append] at h
      obtain ⟨hdigits,hrest⟩ := digits_append_inj (all_isDigit_digitsPadded _ _)
        (all_isDigit_digitsPadded _ _) hminus h
      have habs := digitsPadded_inj hdigits
      exact ⟨by omega,hrest⟩

/-- Reads month, day and time of day as they stand behind a year. -/
def readBehindYear (cs : List Char) : Option (Nat × Nat × ClockTime) := do
  let (month, cs) ← fixedDigits 2 cs
  let (_, cs) ← char '-' cs
  let (day, cs) ← fixedDigits 2 cs
  let (_, cs) ← char 'T' cs
  let (c, _) ← clock cs
  return (month,day,c)

theorem readBehindYear_append (t : Instant) (cs : List Char) :
    readBehindYear (behindYear t ++ cs) =
      some ((utcDate t.seconds).month,(utcDate t.seconds).day,utcClock t.seconds) := by
  have hd := valid_utcDate t.seconds
  simp only [readBehindYear, behindYear, List.append_assoc, List.cons_append]
  rw [fixedDigits_digitsPadded (by decide) (Nat.lt_of_le_of_lt hd.month_le (by decide))]
  simp only [Option.bind_eq_bind, Option.bind_some, char_cons_self]
  rw [fixedDigits_digitsPadded (by decide) (Nat.lt_of_le_of_lt hd.day_le_thirtyOne (by decide))]
  simp only [Option.bind_some, char_cons_self]
  rw [clock_clockText (valid_utcClock _)]
  rfl

/-- Two texts that start with canonical times and are the same start with the same second. -/
theorem seconds_eq_of_canonical_append {t u : Instant} {x y : String}
    (h : canonical t ++ x = canonical u ++ y) : t.seconds = u.seconds := by
  have hlist := congrArg String.toList h
  simp only [String.toList_append, canonical_eq_append, List.append_assoc,
    List.cons_append] at hlist
  obtain ⟨hyear,hrest⟩ := yearText_append_inj hlist
  have hread := readBehindYear_append t x.toList
  rw [hrest, readBehindYear_append] at hread
  simp only [Option.some.injEq, Prod.mk.injEq] at hread
  obtain ⟨hmonth,hday,hclock⟩ := hread
  have hdate : utcDate t.seconds = utcDate u.seconds := by
    cases ht : utcDate t.seconds
    cases hu : utcDate u.seconds
    simp_all
  rw [← utcSeconds_utcDate_utcClock t.seconds, hdate, ← hclock, utcSeconds_utcDate_utcClock]

/-- The text starts with the canonical text of a second. -/
def Heads (s : Int) (text : String) : Prop := ∃ rest, text = canonical ⟨s,.zero⟩ ++ rest

/-- A text starts with one second at most. -/
theorem Heads.unique {s s' : Int} {text : String} (h : Heads s text) (h' : Heads s' text) :
    s' = s := by
  obtain ⟨x,rfl⟩ := h
  obtain ⟨y,hy⟩ := h'
  exact (seconds_eq_of_canonical_append hy).symm

/-- A signed message starts with the second of its signing time. -/
theorem heads_message (d : SignatureData) : Heads d.signingTime.seconds d.message :=
  ⟨d.bundle ++ d.role,String.append_assoc ..⟩

end SigningTime
end WorkloadLogin
