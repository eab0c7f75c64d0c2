import WorkloadLogin.Proofs.Calendar.Years
import WorkloadLogin.SigningWindow

/-! # The signing window as a span

Where the clock is carried in UTC, a signing time that the window accepts is no older than the age
and no further ahead than the skew, even where an end of the window lies beyond the calendar and
bounds nothing: no instant that can be shown lies beyond it either.
-/
namespace WorkloadLogin

/-! ## A clock in UTC -/

namespace Timestamp
variable {now t : Timestamp} {n : Int}

/-- The local time is UTC, and it is one that can be shown. -/
structure InUtc (t : Timestamp) : Prop where
  offset : t.offset = 0
  inRange : t.inRange = true

theorem InUtc.utcDate_inRange (h : t.InUtc) : (utcDate t.instant.seconds).inRange = true := by
  have hrange := h.inRange
  unfold Timestamp.inRange localSeconds at hrange
  rw [h.offset, Int.add_zero] at hrange
  exact hrange

theorem toNanos_ofNanos (n : Int) : (Instant.ofNanos n).toNanos = n := by
  simp only [Instant.toNanos, Instant.ofNanos, Nanos.ofNat]
  omega

theorem toNanos_shift (h : now.shift? n = some t) :
    t.instant.toNanos = now.instant.toNanos + n := by
  simp only [shift?] at h
  split at h
  · cases h
    exact toNanos_ofNanos _
  · cases h

/-- A shift fails only out of the years that can be shown. -/
theorem not_inRange_of_shift_none (hnow : now.InUtc) (h : now.shift? n = none) :
    (utcDate ((now.instant.toNanos + n) / 1000000000)).inRange = false := by
  simp only [shift?] at h
  split at h
  · cases h
  · rename_i hrange
    unfold Timestamp.inRange localSeconds at hrange
    simpa [hnow.offset, Instant.ofNanos] using hrange

end Timestamp

/-! ## Accepted signing times -/

namespace SigningWindow
variable {now : Timestamp} {t : Instant} {n : Int} {window : SigningWindow}

theorem check_ok_iff {window : SigningWindow} {signedAt now : Timestamp} :
    window.check signedAt now = .ok () ↔
      (∀ t ∈ window.earliest? now, t.instant.toNanos ≤ signedAt.instant.toNanos) ∧
        ∀ t ∈ window.latest? now, signedAt.instant.toNanos ≤ t.instant.toNanos := by
  unfold SigningWindow.check
  split
  · rename_i hb
    obtain ⟨t,ht,hlt⟩ := by simpa [Option.any_eq_true] using hb
    exact ⟨nofun,fun h => absurd (h.1 t ht) (by omega)⟩
  · rename_i hb
    split
    · rename_i ha
      obtain ⟨t,ht,hlt⟩ := by simpa [Option.any_eq_true] using ha
      exact ⟨nofun,fun h => absurd (h.2 t ht) (by omega)⟩
    · rename_i ha
      simp only [Option.any_eq_true, decide_eq_true_eq, not_exists, not_and, Int.not_lt] at hb ha
      exact ⟨fun _ => ⟨fun t ht => hb t ht,fun t ht => ha t ht⟩,fun _ => rfl⟩

theorem seconds_eq_div (t : Instant) : t.toNanos / 1000000000 = t.seconds := by
  have hlt := t.nanos.isLt
  unfold Instant.toNanos
  omega

theorem signedNanos?_eq_some_iff {d : Duration} :
    signedNanos? d = some n ↔ d.secs.toNat < 9223372036854775808 ∧ n = d.toNanos := by
  unfold signedNanos?
  split
  · rename_i hlt
    constructor
    · rintro ⟨⟩
      exact ⟨hlt,rfl⟩
    · rintro ⟨-,rfl⟩
      rfl
  · rename_i hge
    exact ⟨nofun,fun h => absurd h.1 hge⟩

/-- A bound before the first year that can be shown lies before every instant that can. -/
theorem le_of_shift_back (hnow : now.InUtc) (ht : (utcDate t.seconds).inRange = true)
    (hn : 0 ≤ n) (h : ∀ u ∈ now.shift? (-n), u.instant.toNanos ≤ t.toNanos) :
    now.instant.toNanos - n ≤ t.toNanos := by
  cases hshift : now.shift? (-n) with
  | some u =>
    have hle := h u hshift
    have heq := Timestamp.toNanos_shift hshift
    omega
  | none =>
    have hout := Timestamp.not_inRange_of_shift_none hnow hshift
    refine Int.not_lt.mp fun hlt => ?_
    have hlow : t.seconds ≤ (now.instant.toNanos + -n) / 1000000000 := by
      rw [← seconds_eq_div]
      omega
    have hhigh : (now.instant.toNanos + -n) / 1000000000 ≤ now.instant.seconds := by
      rw [← seconds_eq_div]
      omega
    rw [inRange_of_between ht hnow.utcDate_inRange hlow hhigh] at hout
    cases hout

theorem le_of_shift_forth (hnow : now.InUtc) (ht : (utcDate t.seconds).inRange = true)
    (hn : 0 ≤ n) (h : ∀ u ∈ now.shift? n, t.toNanos ≤ u.instant.toNanos) :
    t.toNanos ≤ now.instant.toNanos + n := by
  cases hshift : now.shift? n with
  | some u =>
    have hle := h u hshift
    have heq := Timestamp.toNanos_shift hshift
    omega
  | none =>
    have hout := Timestamp.not_inRange_of_shift_none hnow hshift
    refine Int.not_lt.mp fun hlt => ?_
    have hlow : now.instant.seconds ≤ (now.instant.toNanos + n) / 1000000000 := by
      rw [← seconds_eq_div]
      omega
    have hhigh : (now.instant.toNanos + n) / 1000000000 ≤ t.seconds := by
      rw [← seconds_eq_div]
      omega
    rw [inRange_of_between hnow.utcDate_inRange ht hlow hhigh] at hout
    cases hout

/-- Two instants of the years that can be shown are closer than any length that has no sign. -/
theorem toNanos_sub_le {t u : Instant} {d : Duration} (ht : (utcDate t.seconds).inRange = true)
    (hu : (utcDate u.seconds).inRange = true) (hd : signedNanos? d = none) :
    u.toNanos - t.toNanos ≤ d.toNanos := by
  have hsecs : 9223372036854775808 ≤ d.secs.toNat := by
    refine Nat.not_lt.mp fun hlt => ?_
    rw [signedNanos?_eq_some_iff.mpr ⟨hlt,rfl⟩] at hd
    cases hd
  have hapart := sub_lt_of_inRange ht hu
  have hlt := u.nanos.isLt
  unfold Instant.toNanos Duration.toNanos
  omega

/-! ## The ends of the window -/

/-- The first instant that is not too old, on the line of all integers. -/
def opens (window : SigningWindow) (now : Timestamp) : Int :=
  now.instant.toNanos - window.maxAge.toNanos

/-- The last instant that is not too far in the future, on the line of all integers. -/
def closes (window : SigningWindow) (now : Timestamp) : Int :=
  now.instant.toNanos + window.maxSkew.toNanos

theorem opens_le_closes (window : SigningWindow) (now : Timestamp) :
    window.opens now ≤ window.closes now := by
  unfold opens closes
  omega

theorem toNanos_earliest {u : Timestamp} (h : window.earliest? now = some u) :
    u.instant.toNanos = window.opens now := by
  obtain ⟨n,hn,hshift⟩ := Option.bind_eq_some_iff.mp h
  obtain ⟨-,rfl⟩ := signedNanos?_eq_some_iff.mp hn
  exact Timestamp.toNanos_shift hshift

theorem toNanos_latest {u : Timestamp} (h : window.latest? now = some u) :
    u.instant.toNanos = window.closes now := by
  obtain ⟨n,hn,hshift⟩ := Option.bind_eq_some_iff.mp h
  obtain ⟨-,rfl⟩ := signedNanos?_eq_some_iff.mp hn
  exact Timestamp.toNanos_shift hshift

/-- A start that is skipped is one that no instant that can be shown comes before. -/
theorem opens_le_of_skipped (hnow : now.InUtc) (h : window.earliest? now = none)
    (ht : (utcDate t.seconds).inRange = true) : window.opens now ≤ t.toNanos := by
  unfold opens
  cases hd : signedNanos? window.maxAge with
  | none =>
    have hapart := toNanos_sub_le ht hnow.utcDate_inRange hd
    omega
  | some n =>
    unfold earliest? at h
    rw [hd, Option.bind_some] at h
    obtain ⟨-,rfl⟩ := signedNanos?_eq_some_iff.mp hd
    exact le_of_shift_back hnow ht (by omega) fun u hu => by rw [h] at hu; cases hu

/-- An end that is skipped is one that no instant that can be shown comes after. -/
theorem le_closes_of_skipped (hnow : now.InUtc) (h : window.latest? now = none)
    (ht : (utcDate t.seconds).inRange = true) : t.toNanos ≤ window.closes now := by
  unfold closes
  cases hd : signedNanos? window.maxSkew with
  | none =>
    have hapart := toNanos_sub_le hnow.utcDate_inRange ht hd
    omega
  | some n =>
    unfold latest? at h
    rw [hd, Option.bind_some] at h
    obtain ⟨-,rfl⟩ := signedNanos?_eq_some_iff.mp hd
    exact le_of_shift_forth hnow ht (by omega) fun u hu => by rw [h] at hu; cases hu

theorem any_earliest_iff (hnow : now.InUtc) (ht : (utcDate t.seconds).inRange = true) :
    ((window.earliest? now).any fun u => t.toNanos < u.instant.toNanos) = true ↔
      t.toNanos < window.opens now := by
  cases h : window.earliest? now with
  | none =>
    have hle := opens_le_of_skipped hnow h ht
    simp only [Option.any_none, Bool.false_eq_true, false_iff]
    omega
  | some u =>
    have hu := toNanos_earliest h
    simp only [Option.any_some, decide_eq_true_eq, hu]

theorem any_latest_iff (hnow : now.InUtc) (ht : (utcDate t.seconds).inRange = true) :
    ((window.latest? now).any fun u => u.instant.toNanos < t.toNanos) = true ↔
      window.closes now < t.toNanos := by
  cases h : window.latest? now with
  | none =>
    have hle := le_closes_of_skipped hnow h ht
    simp only [Option.any_none, Bool.false_eq_true, false_iff]
    omega
  | some u =>
    have hu := toNanos_latest h
    simp only [Option.any_some, decide_eq_true_eq, hu]

/-! ## The verdict -/

/-- In UTC the check compares integers, whether or not the ends of the window can be shown. -/
theorem check_eq {signedAt : Timestamp} (hsigned : signedAt.InUtc) (hnow : now.InUtc) :
    window.check signedAt now =
      if signedAt.instant.toNanos < window.opens now then
        .error ⟨.tooOld,signedAt,now,window.maxAge.secs⟩
      else if window.closes now < signedAt.instant.toNanos then
        .error ⟨.tooFarInFuture,signedAt,now,window.maxSkew.secs⟩
      else .ok () := by
  have ht := hsigned.utcDate_inRange
  unfold SigningWindow.check
  simp only [any_earliest_iff hnow ht, any_latest_iff hnow ht]

/-- In UTC an accepted signing time lies within the window, whether or not its ends can be shown. -/
theorem span_of_check (hnow : now.InUtc) (ht : (utcDate t.seconds).inRange = true)
    (h : window.check ⟨t,0⟩ now = .ok ()) :
    now.instant.toNanos - window.maxAge.toNanos ≤ t.toNanos ∧
      t.toNanos ≤ now.instant.toNanos + window.maxSkew.toNanos := by
  have hsigned : Timestamp.InUtc ⟨t,0⟩ := ⟨rfl,by simpa [Timestamp.inRange, Timestamp.localSeconds]⟩
  rw [check_eq hsigned hnow] at h
  split at h
  · cases h
  · rename_i hopens
    split at h
    · cases h
    · rename_i hcloses
      exact ⟨Int.not_lt.mp hopens,Int.not_lt.mp hcloses⟩

/-- In UTC each verdict is the comparison of unbounded integers that it stands for, whatever the age
and the skew: what is accepted lies between the ends of the window, what is too old lies before the
first and what is too far in the future behind the last. An end that cannot be shown is skipped, and
no time that can be shown lies beyond it. -/
theorem check_decides_exactly (window : SigningWindow) {signedAt now : Timestamp}
    (hsigned : signedAt.InUtc) (hnow : now.InUtc) :
    (window.check signedAt now = .ok () ↔
      now.instant.toNanos - window.maxAge.toNanos ≤ signedAt.instant.toNanos ∧
        signedAt.instant.toNanos ≤ now.instant.toNanos + window.maxSkew.toNanos) ∧
    (window.check signedAt now = .error ⟨.tooOld,signedAt,now,window.maxAge.secs⟩ ↔
      signedAt.instant.toNanos < now.instant.toNanos - window.maxAge.toNanos) ∧
    (window.check signedAt now = .error ⟨.tooFarInFuture,signedAt,now,window.maxSkew.secs⟩ ↔
      now.instant.toNanos + window.maxSkew.toNanos < signedAt.instant.toNanos) ∧
    (window.earliest? now = none → ∀ t : Timestamp, t.InUtc →
      now.instant.toNanos - window.maxAge.toNanos ≤ t.instant.toNanos) ∧
    (window.latest? now = none → ∀ t : Timestamp, t.InUtc →
      t.instant.toNanos ≤ now.instant.toNanos + window.maxSkew.toNanos) := by
  have horder := opens_le_closes window now
  have hskipped : window.earliest? now = none → ∀ t : Timestamp, t.InUtc →
      window.opens now ≤ t.instant.toNanos :=
    fun h t ht => opens_le_of_skipped hnow h ht.utcDate_inRange
  have hskipped' : window.latest? now = none → ∀ t : Timestamp, t.InUtc →
      t.instant.toNanos ≤ window.closes now :=
    fun h t ht => le_closes_of_skipped hnow h ht.utcDate_inRange
  rw [check_eq hsigned hnow]
  unfold opens closes at *
  refine ⟨?_,?_,?_,hskipped,hskipped'⟩
  all_goals
    split
    · simp
      omega
    · split
      · simp
        omega
      · simp
        omega

/-- A window whose ends cannot be shown, the first for want of a sign and the last for want of a
year 10000, between the first and the last instant that can. -/
theorem check_decides_exactly_widest :
    let window : SigningWindow := ⟨⟨18446744073709551615,999999999⟩,⟨0,1⟩⟩
    let first : Timestamp := { instant := ⟨-377705116800,0⟩ }
    let last : Timestamp := { instant := ⟨253402300799,999999999⟩ }
    first.InUtc ∧ last.InUtc ∧ window.earliest? last = none ∧ window.latest? last = none ∧
      window.check first last = .ok () ∧ window.check last last = .ok () ∧
      window.check last first = .error ⟨.tooFarInFuture,last,first,0⟩ ∧
      first.instant.toNanos ≤ last.instant.toNanos + window.maxSkew.toNanos := by
  intro window first last
  have hfirst : first.InUtc := ⟨rfl,by decide⟩
  have hlast : last.InUtc := ⟨rfl,by decide +kernel⟩
  have hlatest : window.latest? last = none := by decide +kernel
  obtain ⟨hok,-,-,-,hskipped⟩ := check_decides_exactly window hfirst hlast
  obtain ⟨hsame,-⟩ := check_decides_exactly window hlast hlast
  obtain ⟨-,-,hfuture,-⟩ := check_decides_exactly window hlast hfirst
  exact ⟨hfirst,hlast,by decide +kernel,hlatest,hok.mpr (by decide),hsame.mpr (by decide),
    hfuture.mpr (by decide),hskipped hlatest first hfirst⟩

end SigningWindow
end WorkloadLogin
