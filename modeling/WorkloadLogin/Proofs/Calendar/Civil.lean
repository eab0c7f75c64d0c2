import WorkloadLogin.Calendar.Timestamp

/-! # Days, dates and back

A day of a cycle lies in a century, a group of four years, a year and a day of that year, years
being counted from March. The date of a day is read off from these parts, and counting the days up
to it gives the day again.
-/
namespace WorkloadLogin
namespace Date

/-- The day of the cycle on which a year of the cycle starts. -/
def yearStart (y : Nat) : Nat := 365 * y + y / 4 - y / 100

/-- The year of the cycle that a day of the cycle is in. -/
def yearOfDay (d : Nat) : Nat := (d - d / 1460 + d / 36524 - d / 146096) / 365

/-- Century, group of years, year and day that occur together: a year has a day 365 only as the
last of its group, and as the last of its century only in the last century. -/
structure Parts (c k j s : Nat) : Prop where
  century : c < 4
  group : k < 25
  year : j < 4
  day : s ≤ 365
  leap : s = 365 → j = 3 ∧ (k = 24 → c = 3)

theorem exists_parts {d : Nat} (h : d < 146097) :
    ∃ c k j s, Parts c k j s ∧ d = 36524 * c + 1461 * k + 365 * j + s := by
  obtain ⟨c,r,hd,hc,hr⟩ : ∃ c r, d = 36524 * c + r ∧ c < 4 ∧ (r < 36524 ∨ r = 36524 ∧ c = 3) :=
    if hl : d = 146096 then ⟨3,36524,by omega⟩ else ⟨d / 36524,d % 36524,by omega⟩
  obtain ⟨k,t,ht,hk,htl⟩ : ∃ k t, r = 1461 * k + t ∧ k < 25 ∧ t < 1461 :=
    ⟨r / 1461,r % 1461,by omega⟩
  obtain ⟨j,s,hs,hj,hsl⟩ : ∃ j s, t = 365 * j + s ∧ j < 4 ∧ (s < 365 ∨ s = 365 ∧ j = 3) :=
    if hl : t = 1460 then ⟨3,365,by omega⟩ else ⟨t / 365,t % 365,by omega⟩
  exact ⟨c,k,j,s,⟨hc,hk,hj,by omega,by omega⟩,by omega⟩

theorem yearOfDay_parts {c k j s : Nat} (h : Parts c k j s) :
    yearOfDay (36524 * c + 1461 * k + 365 * j + s) = 100 * c + 4 * k + j := by
  obtain ⟨hc,hk,hj,hs,hl⟩ := h
  generalize hd : 36524 * c + 1461 * k + 365 * j + s = d
  unfold yearOfDay
  by_cases hlast : d = 146096
  · omega
  obtain ⟨δ,hδ,hδs,hsδ⟩ : ∃ δ, d / 1460 = 25 * c + k + δ ∧ δ ≤ s ∧ s < 365 + δ :=
    ⟨(24 * c + k + 365 * j + s) / 1460,by omega,by omega,by omega⟩
  have h₁ : d / 36524 = c := by omega
  have h₂ : d / 146096 = 0 := by omega
  rw [hδ, h₁, h₂, Nat.sub_zero]
  clear hδ h₁ h₂ hl
  omega

theorem yearStart_parts {c k j s : Nat} (h : Parts c k j s) :
    yearStart (100 * c + 4 * k + j) = 36524 * c + 1461 * k + 365 * j := by
  obtain ⟨hc,hk,hj,hs,hl⟩ := h
  have h₁ : (100 * c + 4 * k + j) / 4 = 25 * c + k := by omega
  have h₂ : (100 * c + 4 * k + j) / 100 = c := by omega
  unfold yearStart
  omega

/-- The month, counted from March, that a day of the year is in. -/
def monthOfDay (s : Nat) : Nat := (5 * s + 2) / 153

theorem monthOfDay_le {s : Nat} (h : s ≤ 365) : monthOfDay s ≤ 11 := by
  unfold monthOfDay
  omega

theorem daysBeforeMonth_le (s : Nat) : daysBeforeMonth (monthOfDay s) ≤ s := by
  unfold daysBeforeMonth monthOfDay
  omega

theorem lt_daysBeforeMonth_succ (s : Nat) : s < daysBeforeMonth (monthOfDay s + 1) := by
  unfold daysBeforeMonth monthOfDay
  omega

/-- Months are counted from March up to February of the next calendar year. -/
def calendarMonth (m : Nat) : Nat := if m < 10 then m + 3 else m - 9

/-- The date of day `s` of the year `y` of a cycle. -/
def ofParts (cycle : Int) (y s : Nat) : Date where
  year := cycle * 400 + y + (if calendarMonth (monthOfDay s) ≤ 2 then 1 else 0)
  month := calendarMonth (monthOfDay s)
  day := s - daysBeforeMonth (monthOfDay s) + 1

/-- Every day is given by its cycle and its parts. -/
theorem exists_ofDays_eq (n : Int) :
    ∃ cycle c k j s, Parts c k j s ∧
      n = cycle * daysPerCycle + ((36524 * c + 1461 * k + 365 * j + s : Nat) : Int) - epochDay ∧
      ofDays n = ofParts cycle (100 * c + 4 * k + j) s := by
  have hlt : ((n + epochDay) % daysPerCycle).toNat < 146097 := by
    unfold daysPerCycle
    omega
  obtain ⟨c,k,j,s,hp,hd⟩ := exists_parts hlt
  refine ⟨(n + epochDay) / daysPerCycle,c,k,j,s,hp,?_,?_⟩
  · rw [← hd]
    unfold daysPerCycle
    omega
  · have hy := yearOfDay_parts hp
    have hs := yearStart_parts hp
    rw [← hd] at hy
    have hday : ((n + epochDay) % daysPerCycle).toNat - yearStart (100 * c + 4 * k + j) = s := by
      omega
    change ofParts _ (yearOfDay ((n + epochDay) % daysPerCycle).toNat)
      (((n + epochDay) % daysPerCycle).toNat -
        yearStart (yearOfDay ((n + epochDay) % daysPerCycle).toNat)) = _
    rw [hy, hday]

theorem calendarMonth_add_nine_mod {m : Nat} (h : m ≤ 11) : (calendarMonth m + 9) % 12 = m := by
  unfold calendarMonth
  split <;> omega

/-- The year that starts in March is the calendar year but for its last two months. -/
theorem marchYear_ofParts (cycle : Int) (y s : Nat) :
    (if (ofParts cycle y s).month ≤ 2 then (ofParts cycle y s).year - 1
      else (ofParts cycle y s).year) = cycle * 400 + y := by
  unfold ofParts
  split <;> simp_all

theorem toDays_ofParts {cycle : Int} {c k j s : Nat} (h : Parts c k j s) :
    (ofParts cycle (100 * c + 4 * k + j) s).toDays =
      cycle * daysPerCycle + ((36524 * c + 1461 * k + 365 * j + s : Nat) : Int) - epochDay := by
  have hs := daysBeforeMonth_le s
  have hstart := yearStart_parts h
  have hlt : 100 * c + 4 * k + j < 400 := by
    have := h.century; have := h.group; have := h.year
    omega
  rw [← hstart]
  generalize 100 * c + 4 * k + j = y at hlt
  have hcycle : (cycle * 400 + (y : Int)) / 400 = cycle := by omega
  have hyear : ((cycle * 400 + (y : Int)) % 400).toNat = y := by omega
  have hmonth : ((ofParts cycle y s).month + 9) % 12 = monthOfDay s :=
    calendarMonth_add_nine_mod (monthOfDay_le h.day)
  have hday : daysBeforeMonth (monthOfDay s) + ((ofParts cycle y s).day - 1) = s := by
    simp only [ofParts]
    omega
  unfold toDays
  simp only [marchYear_ofParts, hcycle, hyear, hmonth, hday]
  unfold yearStart
  omega

/-- Counting the days up to the date of a day gives the day. -/
@[simp] theorem toDays_ofDays (n : Int) : (ofDays n).toDays = n := by
  obtain ⟨cycle,c,k,j,s,hp,hn,hd⟩ := exists_ofDays_eq n
  rw [hd, toDays_ofParts hp, ← hn]

/-! ## The date of a day is a date of the calendar -/

/-- A month that the calendar has and a day that the month has. -/
structure Valid (d : Date) : Prop where
  month_pos : 1 ≤ d.month
  month_le : d.month ≤ 12
  day_pos : 1 ≤ d.day
  day_le : d.day ≤ daysInMonth d.year d.month

theorem Valid.day_le_thirtyOne {d : Date} (h : d.Valid) : d.day ≤ 31 := by
  refine Nat.le_trans h.day_le ?_
  unfold daysInMonth
  split
  · split <;> decide
  · split <;> decide

theorem ofParts?_eq_some_of_valid {d : Date} (h : d.Valid) :
    ofParts? d.year d.month d.day = some d := by
  rw [ofParts?, if_pos ⟨h.month_pos,h.month_le,h.day_pos,h.day_le⟩]

theorem isLeap_of_leapDay {cycle : Int} {c k j : Nat} (h : Parts c k j 365) :
    isLeap (cycle * 400 + (100 * c + 4 * k + j : Nat) + 1) = true := by
  obtain ⟨rfl,hlast⟩ := h.leap rfl
  have hc := h.century
  have hk := h.group
  simp only [isLeap, Bool.and_eq_true, Bool.or_eq_true, beq_iff_eq, bne_iff_ne]
  omega

/-- From March to January the lengths of the months add up to the days before a month. -/
theorem daysBeforeMonth_succ (year : Int) {m : Nat} (h : m < 11) :
    daysBeforeMonth (m + 1) = daysBeforeMonth m + daysInMonth year (calendarMonth m) :=
  match m, h with
  | 0, _ | 1, _ | 2, _ | 3, _ | 4, _ | 5, _ | 6, _ | 7, _ | 8, _ | 9, _ | 10, _ => rfl

theorem valid_ofParts {cycle : Int} {c k j s : Nat} (h : Parts c k j s) :
    (ofParts cycle (100 * c + 4 * k + j) s).Valid := by
  have hm := monthOfDay_le h.day
  have hs := lt_daysBeforeMonth_succ s
  have hd := h.day
  refine ⟨?_,?_,Nat.le_add_left ..,?_⟩
  · simp only [ofParts, calendarMonth]
    split <;> omega
  · simp only [ofParts, calendarMonth]
    split <;> omega
  · simp only [ofParts]
    rcases Nat.lt_or_eq_of_le hm with hlt | heq
    · rw [daysBeforeMonth_succ _ hlt] at hs
      exact Nat.sub_lt_left_of_lt_add (daysBeforeMonth_le s) hs
    · rw [heq]
      change s - 337 + 1 ≤ daysInMonth (cycle * 400 + (100 * c + 4 * k + j : Nat) + 1) 2
      by_cases hleap : s = 365
      · subst hleap
        have hlen : daysInMonth (cycle * 400 + (100 * c + 4 * k + j : Nat) + 1) 2 = 29 := by
          rw [daysInMonth, if_pos rfl, if_pos (isLeap_of_leapDay h)]
        omega
      · unfold daysInMonth
        rw [if_pos rfl]
        split <;> omega

theorem valid_ofDays (n : Int) : (ofDays n).Valid := by
  obtain ⟨cycle,c,k,j,s,hp,-,hd⟩ := exists_ofDays_eq n
  exact hd ▸ valid_ofParts hp

end Date

/-! ## Seconds of a day -/

namespace ClockTime

/-- An hour, a minute and a second that a clock shows. -/
structure Valid (c : ClockTime) : Prop where
  hour : c.hour < 24
  minute : c.minute < 60
  second : c.second < 60

@[simp] theorem toSeconds_ofSeconds (n : Nat) : (ofSeconds n).toSeconds = n := by
  simp only [toSeconds, ofSeconds]
  omega

theorem valid_ofSeconds {n : Nat} (h : n < 86400) : (ofSeconds n).Valid := by
  constructor <;> simp only [ofSeconds] <;> omega

theorem ofParts?_eq_some_of_valid {c : ClockTime} (h : c.Valid) :
    ofParts? c.hour c.minute c.second = some c := by
  rw [ofParts?, if_pos ⟨h.hour,h.minute,h.second⟩]

end ClockTime

theorem valid_utcDate (seconds : Int) : (utcDate seconds).Valid := Date.valid_ofDays _

theorem valid_utcClock (seconds : Int) : (utcClock seconds).Valid :=
  ClockTime.valid_ofSeconds (by omega)

/-- Date and time of day in UTC stand for the seconds they are read off from. -/
@[simp] theorem utcSeconds_utcDate_utcClock (seconds : Int) :
    utcSeconds (utcDate seconds) (utcClock seconds) = seconds := by
  simp only [utcSeconds, utcDate, utcClock, Date.toDays_ofDays, ClockTime.toSeconds_ofSeconds]
  omega

/-- In UTC the local date and time of day are those of the instant, whatever offset is carried. -/
@[simp] theorem Timestamp.localSeconds_toUtc (t : Timestamp) :
    t.toUtc.localSeconds = t.instant.seconds := Int.add_zero _

end WorkloadLogin
