import Mathlib.Tactic.Common

/-!
# Hours and weekdays

A time is a number of seconds since the beginning of 1970, a Thursday, without leap seconds.  What
is said about it here is the hour of the day and the weekday, 0 being Sunday, and that every hour
of every weekday comes again within a week.  An hour has 3600 seconds, a day 86400, and a week
604800.
-/

namespace Week

/-- The hour of the day, from 0 to 23. -/
def hourOfDay (t : Int) : Int := t % 86400 / 3600

/-- The weekday, from 0 to 6. -/
def weekday (t : Int) : Int := (t / 86400 + 4) % 7

variable {t u : Int}

theorem hourOfDay_lt (t : Int) : hourOfDay t < 24 := by
  unfold hourOfDay
  omega

theorem weekday_nonneg (t : Int) : 0 ≤ weekday t := Int.emod_nonneg _ (by decide)

theorem weekday_lt (t : Int) : weekday t < 7 := Int.emod_lt_of_pos _ (by decide)

/-- Both are the same during an hour. -/
theorem eq_of_sameHour (h : t / 3600 = u / 3600) :
    hourOfDay t = hourOfDay u ∧ weekday t = weekday u := by
  unfold hourOfDay weekday
  omega

/-- Both are the same after any number of weeks. -/
theorem add_weeks (t n : Int) :
    hourOfDay (t + 604800 * n) = hourOfDay t ∧ weekday (t + 604800 * n) = weekday t := by
  unfold hourOfDay weekday
  omega

/-- **Every hour of every weekday begins within a week.** -/
theorem exists_hour {d h : Int} (hd : 0 ≤ d ∧ d < 7) (hh : 0 ≤ h ∧ h < 24) (t : Int) :
    ∃ a, t ≤ a ∧ a < t + 604800 ∧ a % 3600 = 0 ∧ hourOfDay a = h ∧ weekday a = d := by
  -- hours are counted from a Sunday at midnight, and the one sought for has a known remainder
  obtain ⟨n, hn⟩ : ∃ n, n = (t + 3599) / 3600 + 96 := ⟨_, rfl⟩
  obtain ⟨m, hm⟩ : ∃ m, m = n + (24 * d + h - n) % 168 := ⟨_, rfl⟩
  have hmod : m % 168 = 24 * d + h := by omega
  refine ⟨(m - 96) * 3600, by omega, by omega, by omega, ?_, ?_⟩
  · unfold hourOfDay
    omega
  · unfold weekday
    omega

end Week
