import Mathlib.Algebra.Order.Field.Power
import Mathlib.Data.Int.Log
import Mathlib.Data.Rat.Floor
import Mathlib.Tactic.Linarith
import Mathlib.Tactic.Positivity

/-
This file rounds exact sizes to floating-point numbers of double precision.
-/

namespace Double

/-- Half of a unit goes to the even neighbour. -/
def roundEven (value : ℚ) : ℤ :=
  let low := ⌊value⌋
  if value - low < 1 / 2 then low
  else if 1 / 2 < value - low then low + 1
  else if low % 2 = 0 then low
  else low + 1

/-- The unit of the last place keeps fifty-three binary digits. -/
def lastPlace (size : ℚ) : ℤ := max (Int.log 2 size - 52) (-1074)

/-- A size beyond the largest number keeps its digits, so it stays beyond every whole number
that is exact. -/
def ofSize (size : ℚ) : ℚ := roundEven (size / 2 ^ lastPlace size) * 2 ^ lastPlace size

/-- The whole numbers up to this one are exact. -/
def maxSafe : Nat := 2 ^ 53 - 1

@[simp] theorem roundEven_intCast (value : ℤ) : roundEven value = value := by
  simp [roundEven]

theorem le_roundEven {bound : ℤ} {value : ℚ} (bounded : (bound : ℚ) ≤ value) :
    bound ≤ roundEven value := by
  have floor : bound ≤ ⌊value⌋ := Int.le_floor.mpr bounded
  unfold roundEven
  dsimp only
  split_ifs <;> omega

theorem ofSize_nonneg {size : ℚ} (nonneg : 0 ≤ size) : 0 ≤ ofSize size := by
  have unit : (0 : ℚ) < 2 ^ lastPlace size := by positivity
  have scaled : ((0 : ℤ) : ℚ) ≤ size / 2 ^ lastPlace size := by
    rw [Int.cast_zero]
    exact div_nonneg nonneg unit.le
  have rounded : (0 : ℚ) ≤ roundEven (size / 2 ^ lastPlace size) := by
    exact_mod_cast le_roundEven scaled
  exact mul_nonneg rounded unit.le

theorem lastPlace_natCast (value : Nat) :
    lastPlace value = max ((Nat.log 2 value : ℤ) - 52) (-1074) := by
  rw [lastPlace, Int.log_natCast]

/-- A safe whole number is exact. -/
theorem ofSize_safe {value : Nat} (safe : value ≤ maxSafe) : ofSize value = value := by
  have short : Nat.log 2 value ≤ 52 := by
    by_cases zero : value = 0
    · simp [zero]
    · have below : Nat.log 2 value < 53 := Nat.log_lt_of_lt_pow zero (by unfold maxSafe at safe; omega)
      omega
  obtain ⟨shift, place⟩ : ∃ shift : Nat, lastPlace value = -(shift : ℤ) := by
    refine ⟨52 - Nat.log 2 value, ?_⟩
    rw [lastPlace_natCast]
    omega
  have scaled : (value : ℚ) / 2 ^ lastPlace value = ((value * 2 ^ shift : ℤ) : ℚ) := by
    rw [place, zpow_neg, div_inv_eq_mul, zpow_natCast]
    push_cast
    rfl
  have unit : (2 : ℚ) ^ shift ≠ 0 := by positivity
  rw [ofSize, scaled, roundEven_intCast, place, zpow_neg, zpow_natCast]
  push_cast
  rw [mul_assoc, mul_inv_cancel₀ unit, mul_one]

/-- A greater whole number stays beyond the safe ones. -/
theorem maxSafe_lt_ofSize {value : Nat} (beyond : maxSafe < value) : (maxSafe : ℚ) < ofSize value := by
  have large : 2 ^ 53 ≤ value := by unfold maxSafe at beyond; omega
  have digits : 53 ≤ Nat.log 2 value := (Nat.le_log_iff_pow_le one_lt_two (by omega)).mpr large
  obtain ⟨place, shape, positive⟩ : ∃ place : Nat, lastPlace value = place ∧ 1 ≤ place := by
    refine ⟨Nat.log 2 value - 52, ?_, by omega⟩
    rw [lastPlace_natCast]
    omega
  have least : (2 : ℚ) ^ (52 + place) ≤ value := by
    have log : 52 + place = Nat.log 2 value := by
      rw [lastPlace_natCast] at shape
      omega
    have power : 2 ^ (52 + place) ≤ value := by
      rw [log]
      exact Nat.pow_log_le_self 2 (by omega)
    exact_mod_cast power
  have unit : (0 : ℚ) < 2 ^ place := by positivity
  have scaled : (((2 : ℤ) ^ 52 : ℤ) : ℚ) ≤ (value : ℚ) / 2 ^ place := by
    rw [le_div_iff₀ unit, Int.cast_pow, Int.cast_ofNat, ← pow_add]
    exact least
  have rounded : ((2 : ℚ)) ^ 52 ≤ roundEven ((value : ℚ) / 2 ^ place) := by
    exact_mod_cast le_roundEven scaled
  have two : (2 : ℚ) ≤ 2 ^ place := by
    calc (2 : ℚ) = 2 ^ 1 := (pow_one 2).symm
      _ ≤ 2 ^ place := pow_le_pow_right₀ one_le_two positive
  have size : (2 : ℚ) ^ 52 * 2 ≤ ofSize value := by
    rw [ofSize, shape, zpow_natCast]
    exact mul_le_mul rounded two zero_le_two (le_trans (by positivity) rounded)
  refine lt_of_lt_of_le ?_ size
  unfold maxSafe
  norm_num

end Double
