import Mathlib.Data.Nat.Bitwise
import RuuviGateway.GwCfgJson.Config
import RuuviGateway.Lib.Week

/-!
# When firmware updates are checked for

`main_loop.c` checks for a new firmware only at the weekdays and in the hours that the user has
chosen, by the local time of the configured time zone.  The chosen hours come again every week,
unless the choice is one that no time satisfies: no weekday, or a range of hours that is empty, as
is one across midnight.
-/

namespace RuuviGateway
namespace AutoUpdate

open GwCfgJson (AutoUpdate)

/-- `struct tm`, as far as it is read. -/
structure Tm where
  tmHour : Int
  tmWday : Int

/-- `gmtime_r`. -/
def gmtimeR (t : Int) : Tm := ⟨Week.hourOfDay t, Week.weekday t⟩

/-- `unix_time + tz_offset_seconds`. -/
def curTime (cfg : AutoUpdate) (unixTime : Int) : Int :=
  unixTime + cfg.autoUpdateTzOffsetHours.toInt * (60 * 60)

/-- `check_if_checking_for_fw_updates_allowed2`, where `unix_time` is the result of
`os_time_get`. -/
def checkIfCheckingForFwUpdatesAllowed2 (cfg : AutoUpdate) (unixTime : Int) : Bool :=
  let tmTime := gmtimeR (curTime cfg unixTime)
  if cfg.autoUpdateCycle = .manual then false
  else
    let curDayBitMask : UInt32 := 1 <<< UInt32.ofNat tmTime.tmWday.toNat
    if cfg.autoUpdateWeekdaysBitmask.toUInt32 &&& curDayBitMask = 0 then false
    else if ¬(tmTime.tmHour ≥ cfg.autoUpdateIntervalFrom.toNat ∧
        tmTime.tmHour < cfg.autoUpdateIntervalTo.toNat) then false
    else true

/-- `check_if_checking_for_fw_updates_allowed`: of the network and of the clock it is asked whether
they are ready. -/
def checkIfCheckingForFwUpdatesAllowed (isConnected isSynchronized : Bool) (cfg : AutoUpdate)
    (unixTime : Int) : Bool :=
  if !isConnected then false
  else if !isSynchronized then false
  else checkIfCheckingForFwUpdatesAllowed2 cfg unixTime

/-! ## The hours that are chosen -/

/-- The weekday is chosen. -/
def hasWeekday (cfg : AutoUpdate) (d : Nat) : Bool := cfg.autoUpdateWeekdaysBitmask.toNat.testBit d

/-- The test of a bit of the mask. -/
theorem and_shiftLeft_eq_zero {mask : UInt8} {d : Nat} (hd : d < 32) :
    mask.toUInt32 &&& (1 <<< UInt32.ofNat d) = 0 ↔ mask.toNat.testBit d = false := by
  have hlt : (2 : Nat) ^ d < 2 ^ 32 := Nat.pow_lt_pow_right (by decide) hd
  have hbit : (1 <<< UInt32.ofNat d : UInt32).toNat = 2 ^ d := by
    rw [UInt32.toNat_shiftLeft, UInt32.toNat_ofNat_of_lt' (Nat.lt_trans hd (by decide)),
      Nat.mod_eq_of_lt hd, UInt32.toNat_one, Nat.one_shiftLeft, Nat.mod_eq_of_lt hlt]
  rw [← UInt32.toNat_inj, UInt32.toNat_and, hbit, UInt8.toNat_toUInt32, UInt32.toNat_zero,
    Nat.and_two_pow]
  cases mask.toNat.testBit d <;> simp

/-- An hour of the week that is chosen. -/
structure Chosen (cfg : AutoUpdate) (t : Int) : Prop where
  cycle : cfg.autoUpdateCycle ≠ .manual
  weekday : hasWeekday cfg (Week.weekday (curTime cfg t)).toNat = true
  fromHour : cfg.autoUpdateIntervalFrom.toNat ≤ Week.hourOfDay (curTime cfg t)
  toHour : Week.hourOfDay (curTime cfg t) < cfg.autoUpdateIntervalTo.toNat

theorem allowed2_iff {cfg : AutoUpdate} {t : Int} :
    checkIfCheckingForFwUpdatesAllowed2 cfg t = true ↔ Chosen cfg t := by
  have hd : (gmtimeR (curTime cfg t)).tmWday < 7 := Week.weekday_lt _
  unfold checkIfCheckingForFwUpdatesAllowed2
  by_cases hcycle : cfg.autoUpdateCycle = .manual
  · rw [if_pos hcycle]
    exact iff_of_false Bool.false_ne_true fun h => h.cycle hcycle
  rw [if_neg hcycle]
  by_cases hday : hasWeekday cfg (gmtimeR (curTime cfg t)).tmWday.toNat = true
  · have hbit : ¬cfg.autoUpdateWeekdaysBitmask.toUInt32 &&&
        (1 <<< UInt32.ofNat (gmtimeR (curTime cfg t)).tmWday.toNat) = 0 := fun h =>
      absurd (((and_shiftLeft_eq_zero (by omega)).mp h).symm.trans hday) Bool.false_ne_true
    rw [if_neg hbit]
    by_cases hhour : (gmtimeR (curTime cfg t)).tmHour ≥ cfg.autoUpdateIntervalFrom.toNat ∧
        (gmtimeR (curTime cfg t)).tmHour < cfg.autoUpdateIntervalTo.toNat
    · rw [if_neg (not_not.mpr hhour)]
      exact iff_of_true rfl ⟨hcycle, hday, hhour.1, hhour.2⟩
    · rw [if_pos hhour]
      exact iff_of_false Bool.false_ne_true fun h => hhour ⟨h.fromHour, h.toHour⟩
  · rw [if_pos ((and_shiftLeft_eq_zero (by omega)).mpr (Bool.eq_false_iff.mpr hday))]
    exact iff_of_false Bool.false_ne_true fun h => hday h.weekday

theorem allowed_iff {isConnected isSynchronized : Bool} {cfg : AutoUpdate} {t : Int} :
    checkIfCheckingForFwUpdatesAllowed isConnected isSynchronized cfg t = true ↔
      isConnected = true ∧ isSynchronized = true ∧ Chosen cfg t := by
  rw [← allowed2_iff]
  cases isConnected <;> cases isSynchronized <;> simp [checkIfCheckingForFwUpdatesAllowed]

/-- Local time goes on as time does. -/
theorem curTime_add (cfg : AutoUpdate) (t n : Int) : curTime cfg (t + n) = curTime cfg t + n := by
  unfold curTime
  omega

/-- Local hours begin with the hours. -/
theorem curTime_emod (cfg : AutoUpdate) (t : Int) : curTime cfg t % 3600 = t % 3600 := by
  unfold curTime
  omega

/-- A choice is the same for a whole hour. -/
theorem Chosen.of_sameHour {cfg : AutoUpdate} {t u : Int} (h : Chosen cfg t)
    (hu : u / 3600 = t / 3600) : Chosen cfg u := by
  have hsame : curTime cfg u / 3600 = curTime cfg t / 3600 := by
    unfold curTime
    omega
  obtain ⟨hhour, hday⟩ := Week.eq_of_sameHour hsame
  exact ⟨h.cycle, by rw [hday]; exact h.weekday, by rw [hhour]; exact h.fromHour,
    by rw [hhour]; exact h.toHour⟩

/-- And for the same hour of every week. -/
theorem Chosen.add_weeks {cfg : AutoUpdate} {t : Int} (h : Chosen cfg t) (n : Int) :
    Chosen cfg (t + 604800 * n) := by
  obtain ⟨hhour, hday⟩ := Week.add_weeks (curTime cfg t) n
  rw [← curTime_add] at hhour hday
  exact ⟨h.cycle, by rw [hday]; exact h.weekday, by rw [hhour]; exact h.fromHour,
    by rw [hhour]; exact h.toHour⟩

/-- The choice is one of some hours. -/
structure HasHours (cfg : AutoUpdate) : Prop where
  cycle : cfg.autoUpdateCycle ≠ .manual
  weekday : ∃ d < 7, hasWeekday cfg d = true
  fromTo : cfg.autoUpdateIntervalFrom < cfg.autoUpdateIntervalTo
  fromHour : cfg.autoUpdateIntervalFrom.toNat < 24

/-- With some hours chosen, one of them begins within a week. -/
theorem HasHours.exists_chosen {cfg : AutoUpdate} (h : HasHours cfg) (t : Int) :
    ∃ a, t ≤ a ∧ a < t + 604800 ∧ a % 3600 = 0 ∧ Chosen cfg a := by
  obtain ⟨d, hd, hday⟩ := h.weekday
  have hfrom := h.fromHour
  obtain ⟨a, hle, hlt, hmod, hhour, hwday⟩ :=
    Week.exists_hour (d := d) (h := cfg.autoUpdateIntervalFrom.toNat) (by omega) (by omega)
      (curTime cfg t)
  -- the same hour, by the clock of the gateway
  obtain ⟨u, hu⟩ : ∃ u, curTime cfg u = a := ⟨t + (a - curTime cfg t), by
    rw [curTime_add]
    omega⟩
  have hshift : u = t + (a - curTime cfg t) := by
    rw [← hu]
    unfold curTime
    omega
  refine ⟨u, by omega, by omega, ?_, h.cycle, ?_, ?_, ?_⟩
  · rw [← curTime_emod cfg, hu]
    exact hmod
  · rw [hu, hwday, Int.toNat_natCast]
    exact hday
  · exact Int.le_of_eq (by rw [hu, hhour])
  · rw [hu, hhour]
    exact Int.ofNat_lt.mpr (UInt8.lt_iff_toNat_lt.mp h.fromTo)

theorem Chosen.hasHours {cfg : AutoUpdate} {t : Int} (h : Chosen cfg t) : HasHours cfg where
  cycle := h.cycle
  weekday := ⟨_, by
    have := Week.weekday_nonneg (curTime cfg t)
    have := Week.weekday_lt (curTime cfg t)
    omega, h.weekday⟩
  fromTo := UInt8.lt_iff_toNat_lt.mpr (Int.ofNat_lt.mp (Int.lt_of_le_of_lt h.fromHour h.toHour))
  fromHour := Int.ofNat_lt.mp (Int.lt_of_le_of_lt h.fromHour (Week.hourOfDay_lt _))

/-- A whole hour by the local clock is allowed or it is not. -/
theorem allowed2_of_sameHour {cfg : AutoUpdate} {t u : Int}
    (h : curTime cfg u / 3600 = curTime cfg t / 3600) :
    checkIfCheckingForFwUpdatesAllowed2 cfg u = checkIfCheckingForFwUpdatesAllowed2 cfg t := by
  have hsame : u / 3600 = t / 3600 := by
    unfold curTime at h
    omega
  rw [Bool.eq_iff_iff, allowed2_iff, allowed2_iff]
  exact ⟨fun hu => hu.of_sameHour hsame.symm, fun ht => ht.of_sameHour hsame⟩

/-- **The hours that are chosen come again every week.**  They are whole hours, and there is no
other time than these: without a weekday or with an empty range of hours a check is never
allowed. -/
theorem allowed2_weekly (cfg : AutoUpdate) :
    ((∃ t, checkIfCheckingForFwUpdatesAllowed2 cfg t = true) ↔ HasHours cfg) ∧
      (∀ t u, curTime cfg u / 3600 = curTime cfg t / 3600 →
        checkIfCheckingForFwUpdatesAllowed2 cfg u = checkIfCheckingForFwUpdatesAllowed2 cfg t) ∧
      (∀ t n, checkIfCheckingForFwUpdatesAllowed2 cfg (t + 604800 * n) =
        checkIfCheckingForFwUpdatesAllowed2 cfg t) ∧
      (HasHours cfg → ∀ t, ∃ a, t ≤ a ∧ a < t + 604800 ∧ ∀ u, a ≤ u → u < a + 3600 →
        checkIfCheckingForFwUpdatesAllowed2 cfg u = true) := by
  refine ⟨⟨fun h => ?_, fun h => ?_⟩, fun t u => allowed2_of_sameHour, fun t n => ?_,
    fun h t => ?_⟩
  · obtain ⟨t, ht⟩ := h
    exact (allowed2_iff.mp ht).hasHours
  · obtain ⟨a, -, -, -, ha⟩ := h.exists_chosen 0
    exact ⟨a, allowed2_iff.mpr ha⟩
  · rw [Bool.eq_iff_iff, allowed2_iff, allowed2_iff]
    refine ⟨fun h => ?_, fun h => h.add_weeks n⟩
    have hback := h.add_weeks (-n)
    rwa [Int.mul_neg, Int.add_neg_cancel_right] at hback
  · obtain ⟨a, hle, hlt, hmod, ha⟩ := h.exists_chosen t
    refine ⟨a, hle, hlt, fun u hau hua => allowed2_iff.mpr (ha.of_sameHour ?_)⟩
    omega

end AutoUpdate
end RuuviGateway
