import Mathlib.Algebra.Order.Field.Rat

/-!
# Integer types and the numbers they hold

A machine integer type holds the integers of an interval; `IntType` is the interval with the
two maps between the integers and the type.  `ofInt?` is a conversion with a check of the range,
and the lemmas say which checks before a conversion amount to it: one on the integer itself, and
one on an integer that has been cut to an interval that reaches further than the type.

Rationals are converted by way of their integer part, without the fraction.
-/

/-- A machine integer type. -/
structure IntType (α : Type*) where
  lo : Int
  hi : Int
  toInt : α → Int
  ofInt : Int → α
  toInt_mem : ∀ v, lo ≤ toInt v ∧ toInt v ≤ hi
  toInt_ofInt : ∀ n, lo ≤ n → n ≤ hi → toInt (ofInt n) = n
  ofInt_toInt : ∀ v, ofInt (toInt v) = v

namespace IntType

variable {α : Type*} (r : IntType α)

/-- The value of the type, for an integer in its range. -/
def ofInt? (n : Int) : Option α :=
  if r.lo ≤ n ∧ n ≤ r.hi then some (r.ofInt n) else none

theorem ofInt?_eq_some_iff {n : Int} {v : α} : r.ofInt? n = some v ↔ n = r.toInt v := by
  unfold ofInt?
  constructor
  · intro h
    obtain ⟨hrange, rfl⟩ := Option.ite_some_none_eq_some.mp h
    exact (r.toInt_ofInt n hrange.1 hrange.2).symm
  · rintro rfl
    rw [if_pos (r.toInt_mem v), r.ofInt_toInt]

/-- The range may be checked after the integer has been cut to a larger one. -/
theorem ofInt?_clamp {n lo hi : Int} (hlo : lo < r.lo) (hhi : r.hi < hi) :
    r.ofInt? (max lo (min hi n)) = r.ofInt? n := by
  unfold ofInt?
  by_cases hrange : r.lo ≤ n ∧ n ≤ r.hi
  · have heq : max lo (min hi n) = n := by omega
    rw [heq]
  · rw [if_neg hrange, if_neg (by omega)]

/-! ## The types of C -/

def uint8 : IntType UInt8 where
  lo := 0
  hi := 255
  toInt v := v.toNat
  ofInt n := UInt8.ofNat n.toNat
  toInt_mem v := by
    have := v.toNat_lt
    omega
  toInt_ofInt n hlo hhi := by
    rw [UInt8.toNat_ofNat']
    omega
  ofInt_toInt v := by simp

def uint16 : IntType UInt16 where
  lo := 0
  hi := 65535
  toInt v := v.toNat
  ofInt n := UInt16.ofNat n.toNat
  toInt_mem v := by
    have := v.toNat_lt
    omega
  toInt_ofInt n hlo hhi := by
    rw [UInt16.toNat_ofNat']
    omega
  ofInt_toInt v := by simp

def uint32 : IntType UInt32 where
  lo := 0
  hi := 4294967295
  toInt v := v.toNat
  ofInt n := UInt32.ofNat n.toNat
  toInt_mem v := by
    have := v.toNat_lt
    omega
  toInt_ofInt n hlo hhi := by
    rw [UInt32.toNat_ofNat']
    omega
  ofInt_toInt v := by simp

def int8 : IntType Int8 where
  lo := -128
  hi := 127
  toInt := Int8.toInt
  ofInt := Int8.ofInt
  toInt_mem v := by
    have hlo := v.le_toInt
    have hhi := v.toInt_lt
    omega
  toInt_ofInt n hlo hhi := Int8.toInt_ofInt_of_le (by omega) (by omega)
  ofInt_toInt v := Int8.ofInt_toInt v

/-! ## The integer part of a rational -/

/-- A rational without its fraction. -/
def integerPart (q : ℚ) : Int := q.num.tdiv q.den

theorem integerPart_neg (q : ℚ) : integerPart (-q) = -integerPart q := by
  rw [integerPart, integerPart, Rat.num_neg_eq_neg_num, Rat.den_neg_eq_den, Int.neg_tdiv]

theorem intCast_le_iff_mul_le {q : ℚ} {n : Int} : (n : ℚ) ≤ q ↔ n * q.den ≤ q.num := by
  rw [Rat.le_iff]
  simp

theorem le_integerPart {q : ℚ} {n : Int} (hn : 0 ≤ n) (h : (n : ℚ) ≤ q) : n ≤ integerPart q := by
  have hden : (0 : Int) < q.den := by exact_mod_cast q.den_pos
  have hmul := intCast_le_iff_mul_le.mp h
  have hnum : 0 ≤ q.num := le_trans (Int.mul_nonneg hn hden.le) hmul
  rw [integerPart, Int.tdiv_eq_ediv_of_nonneg hnum]
  exact Int.le_ediv_of_mul_le hden hmul

theorem integerPart_lt {q : ℚ} {n : Int} (hn : 0 < n) (h : q < n) : integerPart q < n := by
  have hden : (0 : Int) < q.den := by exact_mod_cast q.den_pos
  have hmul : q.num < n * q.den := by
    rw [← not_le, ← intCast_le_iff_mul_le, not_le]
    exact h
  rcases le_total 0 q.num with hnum | hnum
  · rw [integerPart, Int.tdiv_eq_ediv_of_nonneg hnum]
    exact Int.ediv_lt_of_lt_mul hden hmul
  · have hneg := Int.tdiv_nonneg (neg_nonneg.mpr hnum) hden.le
    rw [Int.neg_tdiv] at hneg
    rw [integerPart]
    omega

/-- The integer part of what is cut to an interval around 0. -/
theorem clamp_integerPart {q : ℚ} {lo hi : Int} (hlo : lo < 0) (hhi : 0 < hi) :
    (if (hi : ℚ) ≤ q then hi else if q ≤ (lo : ℚ) then lo else integerPart q) =
      max lo (min hi (integerPart q)) := by
  by_cases hle : (hi : ℚ) ≤ q
  · have hpart := le_integerPart hhi.le hle
    rw [if_pos hle]
    omega
  · have hpart := integerPart_lt hhi (not_le.mp hle)
    rw [if_neg hle]
    by_cases hge : q ≤ (lo : ℚ)
    · have hneg : ((-lo : Int) : ℚ) ≤ -q := by
        rw [Int.cast_neg]
        exact neg_le_neg hge
      have hpart' := le_integerPart (by omega) hneg
      rw [integerPart_neg] at hpart'
      rw [if_pos hge]
      omega
    · have hneg : -q < ((-lo : Int) : ℚ) := by
        rw [Int.cast_neg]
        exact neg_lt_neg (not_le.mp hge)
      have hpart' := integerPart_lt (by omega) hneg
      rw [integerPart_neg] at hpart'
      rw [if_neg hge]
      omega

end IntType
