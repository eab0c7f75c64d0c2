import WorkloadLogin.Proofs.Calendar.Civil

/-! # Years and their days

The days of a year follow one another and lie before those of the next one. So dates go through the
years in the order of their days, and a day lies in the year of any date that counts up to it.
-/
namespace WorkloadLogin
namespace Date
variable {d e : Date} {n m year : Int}

/-- Days from the first of March of year zero to the first of March of a year. -/
def marchDay (year : Int) : Int := 365 * year + year / 4 - year / 100 + year / 400

/-- The day on which a year starts. -/
def yearDay (year : Int) : Int := marchDay (year - 1) + 306 - epochDay

theorem marchDay_eq (year : Int) :
    year / 400 * daysPerCycle + (yearStart (year % 400).toNat : Int) = marchDay year := by
  have hcycle : year = year / 400 * 400 + (year % 400).toNat := by omega
  generalize year / 400 = cycle at hcycle
  have hlt : (year % 400).toNat < 400 := by omega
  generalize (year % 400).toNat = y at hcycle hlt
  unfold marchDay yearStart daysPerCycle
  omega

/-- From March on the days are counted within the year; January and February end the year before. -/
theorem toDays_eq (d : Date) :
    d.toDays = marchDay (if d.month ≤ 2 then d.year - 1 else d.year) +
      (daysBeforeMonth ((d.month + 9) % 12) + (d.day - 1) : Nat) - epochDay := by
  rw [← marchDay_eq]
  simp only [toDays, yearStart]
  omega

theorem daysBeforeMonth_add_day_lt (h : d.Valid) (hm : 2 < d.month) :
    daysBeforeMonth ((d.month + 9) % 12) + (d.day - 1) < 306 := by
  have hle := h.month_le
  have hday := h.day_le
  have hpos := h.day_pos
  have hshift : (d.month + 9) % 12 = d.month - 3 := by omega
  have hmonth : calendarMonth (d.month - 3) = d.month := by
    unfold calendarMonth
    split <;> omega
  have hsucc := daysBeforeMonth_succ d.year (by omega : d.month - 3 < 11)
  rw [hmonth] at hsucc
  have hlast : daysBeforeMonth (d.month - 3 + 1) ≤ 306 := by
    unfold daysBeforeMonth
    omega
  rw [hshift]
  omega

/-- A date lies between the start of its year and the start of the next one. -/
theorem toDays_bounds (h : d.Valid) :
    yearDay d.year ≤ d.toDays ∧ d.toDays < yearDay (d.year + 1) := by
  have hpos := h.month_pos
  have hday := h.day_le_thirtyOne
  rw [toDays_eq]
  unfold yearDay marchDay
  by_cases hm : d.month ≤ 2
  · rw [if_pos hm]
    have hbefore : daysBeforeMonth ((d.month + 9) % 12) = 306 + 31 * (d.month - 1) := by
      unfold daysBeforeMonth
      omega
    rw [hbefore]
    omega
  · rw [if_neg hm]
    have hlt := daysBeforeMonth_add_day_lt h (by omega)
    omega

theorem yearDay_mono (h : n ≤ m) : yearDay n ≤ yearDay m := by
  unfold yearDay marchDay
  omega

/-- A day lies in the only year whose start it has reached and whose end it has not. -/
theorem year_ofDays_eq (hstart : yearDay year ≤ n) (hend : n < yearDay (year + 1)) :
    (ofDays n).year = year := by
  have hbounds := toDays_bounds (valid_ofDays n)
  rw [toDays_ofDays] at hbounds
  refine Int.le_antisymm (Int.not_lt.mp fun hlt => ?_) (Int.not_lt.mp fun hgt => ?_)
  · have hle := yearDay_mono (show year + 1 ≤ (ofDays n).year by omega)
    omega
  · have hle := yearDay_mono (show (ofDays n).year + 1 ≤ year by omega)
    omega

theorem year_ofDays_toDays (h : d.Valid) : (ofDays d.toDays).year = d.year :=
  year_ofDays_eq (toDays_bounds h).1 (toDays_bounds h).2

theorem year_ofDays_mono (h : n ≤ m) : (ofDays n).year ≤ (ofDays m).year := by
  have hn := toDays_bounds (valid_ofDays n)
  have hm := toDays_bounds (valid_ofDays m)
  rw [toDays_ofDays] at hn hm
  refine Int.not_lt.mp fun hlt => ?_
  have hle := yearDay_mono (show (ofDays m).year + 1 ≤ (ofDays n).year by omega)
  omega

end Date

/-! ## The years that a text can show -/

variable {a b : Int}

theorem year_utcDate_mono (h : a ≤ b) : (utcDate a).year ≤ (utcDate b).year :=
  Date.year_ofDays_mono (by omega)

theorem year_utcDate_utcSeconds {d : Date} {c : ClockTime} (hd : d.Valid) (hc : c.Valid) :
    (utcDate (utcSeconds d c)).year = d.year := by
  have hlt : c.toSeconds < 86400 := by
    have hh := hc.hour
    have hm := hc.minute
    have hs := hc.second
    unfold ClockTime.toSeconds
    omega
  have hday : utcSeconds d c / 86400 = d.toDays := by
    unfold utcSeconds
    omega
  unfold utcDate
  rw [hday]
  exact Date.year_ofDays_toDays hd

theorem inRange_iff {d : Date} : d.inRange = true ↔ -9999 ≤ d.year ∧ d.year ≤ 9999 := by
  simp [Date.inRange]

theorem inRange_of_between {x : Int} (ha : (utcDate a).inRange = true)
    (hb : (utcDate b).inRange = true) (hax : a ≤ x) (hxb : x ≤ b) :
    (utcDate x).inRange = true := by
  have hlow := year_utcDate_mono hax
  have hhigh := year_utcDate_mono hxb
  have hfirst := (inRange_iff.mp ha).1
  have hlast := (inRange_iff.mp hb).2
  exact inRange_iff.mpr ⟨by omega,by omega⟩

/-- Two seconds in these years are no further apart than a signed 64-bit count of seconds. -/
theorem sub_lt_of_inRange (ha : (utcDate a).inRange = true) (hb : (utcDate b).inRange = true) :
    b - a < 9223372036854775808 := by
  have hstart := Date.toDays_bounds (Date.valid_ofDays (a / 86400))
  have hend := Date.toDays_bounds (Date.valid_ofDays (b / 86400))
  rw [Date.toDays_ofDays] at hstart hend
  have hlow := Date.yearDay_mono (inRange_iff.mp ha).1
  have hhigh := Date.yearDay_mono (show (utcDate b).year + 1 ≤ 10000 by
    have := (inRange_iff.mp hb).2
    omega)
  have hfirst : Date.yearDay (-9999) = -4371587 := by decide
  have hlast : Date.yearDay 10000 = 2932897 := by decide
  unfold utcDate at hlow hhigh
  omega

end WorkloadLogin
