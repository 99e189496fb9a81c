import Mathlib.Data.Int.Log
import Mathlib.Data.Rat.Floor

/-!
# Binary floating formats

A format holds the numbers of a given count of binary digits, and none that are finer than its
least digit. A number is rounded to the nearest one of its size, and to the even one of two.
-/

namespace BinaryRounding

/-- The nearest integer, and the even one of two. -/
def roundEven (q : ℚ) : ℤ :=
  if q - ⌊q⌋ < 1 / 2 then ⌊q⌋
  else if 1 / 2 < q - ⌊q⌋ then ⌊q⌋ + 1
  else if ⌊q⌋ % 2 = 0 then ⌊q⌋
  else ⌊q⌋ + 1

lemma roundEven_intCast (n : ℤ) : roundEven n = n := by
  rw [roundEven, Int.floor_intCast, sub_self, if_pos (by norm_num)]

lemma roundEven_near (q : ℚ) : |(roundEven q : ℚ) - q| ≤ 1 / 2 := by
  have hlow := Int.floor_le q
  have hhigh := Int.lt_floor_add_one q
  rw [roundEven, abs_le]
  split_ifs <;> push_cast <;> constructor <;> linarith

structure Format where
  digits : ℕ
  /-- The exponent of the finest digit. -/
  least : ℤ

namespace Format

variable (F : Format) {q : ℚ}

/-- The exponent of the last digit of a number of this size. -/
def exponent (q : ℚ) : ℤ := max (Int.log 2 |q| + 1 - F.digits) F.least

def round (q : ℚ) : ℚ := roundEven (q / 2 ^ F.exponent q) * 2 ^ F.exponent q

def Holds (q : ℚ) : Prop :=
  ∃ m e : ℤ, |m| < 2 ^ F.digits ∧ F.least ≤ e ∧ q = m * 2 ^ e

variable {F}

/-- The digits of a number of the format are not finer than those of its size. -/
lemma exponent_le {m e : ℤ} (hm : |m| < 2 ^ F.digits) (he : F.least ≤ e)
    (hne : (m : ℚ) * 2 ^ e ≠ 0) : F.exponent (m * 2 ^ e) ≤ e := by
  refine max_le ?_ he
  have hsize : |(m : ℚ) * 2 ^ e| < 2 ^ ((F.digits : ℤ) + e) := by
    have hpos : (0 : ℚ) < 2 ^ e := zpow_pos (by norm_num) e
    rw [abs_mul, abs_of_pos hpos, zpow_add₀ (by norm_num), zpow_natCast]
    refine mul_lt_mul_of_pos_right ?_ hpos
    exact_mod_cast hm
  have hlog := (Int.lt_zpow_iff_log_lt (R := ℚ) (b := 2) (by norm_num) (abs_pos.mpr hne)).mp
    (by exact_mod_cast hsize)
  omega

/-- A number of the format is not rounded. -/
theorem round_eq_self (h : F.Holds q) : F.round q = q := by
  obtain ⟨m, e, hm, he, rfl⟩ := h
  by_cases hzero : (m : ℚ) * 2 ^ e = 0
  · have hround : roundEven 0 = 0 := by exact_mod_cast roundEven_intCast 0
    rw [hzero, round, zero_div, hround, Int.cast_zero, zero_mul]
  have hle := exponent_le hm he hzero
  obtain ⟨k, hk⟩ := Int.eq_ofNat_of_zero_le (sub_nonneg.mpr hle)
  have hunit : (2 : ℚ) ^ F.exponent (m * 2 ^ e) ≠ 0 := zpow_ne_zero _ (by norm_num)
  have hscaled : (m : ℚ) * 2 ^ e / 2 ^ F.exponent (m * 2 ^ e) = ((m * 2 ^ k : ℤ) : ℚ) := by
    have hsplit : e = k + F.exponent (m * 2 ^ e) := by omega
    rw [div_eq_iff hunit]
    calc (m : ℚ) * 2 ^ e = m * 2 ^ (k + F.exponent (m * 2 ^ e)) := by rw [← hsplit]
      _ = ((m * 2 ^ k : ℤ) : ℚ) * 2 ^ F.exponent (m * 2 ^ e) := by
        rw [zpow_add₀ (by norm_num), zpow_natCast, ← mul_assoc]
        push_cast
        rfl
  rw [round, hscaled, roundEven_intCast, ← hscaled, div_mul_cancel₀ _ hunit]

/-- The digits of a number that is not too large are fine. -/
lemma exponent_le_of_lt {a : ℤ} (ha : 1 ≤ a) (hleast : F.least ≤ a - F.digits)
    (h : |q| < 2 ^ a) : F.exponent q ≤ a - F.digits := by
  refine max_le ?_ hleast
  by_cases hzero : q = 0
  · rw [hzero, abs_zero, Int.log_zero_right]
    omega
  · have hlog := (Int.lt_zpow_iff_log_lt (R := ℚ) (b := 2) (by norm_num) (abs_pos.mpr hzero)).mp
      (by exact_mod_cast h)
    omega

/-- A number is rounded by half a digit at most. -/
theorem round_near {a : ℤ} (ha : 1 ≤ a) (hleast : F.least ≤ a - F.digits) (h : |q| < 2 ^ a) :
    |F.round q - q| ≤ 2 ^ (a - F.digits) / 2 := by
  have hunit : (0 : ℚ) < 2 ^ F.exponent q := zpow_pos (by norm_num) _
  have hscaled : q = q / 2 ^ F.exponent q * 2 ^ F.exponent q :=
    (div_mul_cancel₀ _ hunit.ne').symm
  calc |F.round q - q|
      = |(roundEven (q / 2 ^ F.exponent q) : ℚ) - q / 2 ^ F.exponent q| * 2 ^ F.exponent q := by
        rw [← abs_of_pos hunit, ← abs_mul, abs_of_pos hunit, sub_mul, ← hscaled, round]
    _ ≤ 1 / 2 * 2 ^ F.exponent q := by
        gcongr
        exact roundEven_near _
    _ ≤ 1 / 2 * 2 ^ (a - F.digits) := by
        gcongr
        · norm_num
        · exact exponent_le_of_lt ha hleast h
    _ = 2 ^ (a - F.digits) / 2 := by ring

end Format

/-- The type `float` of IEEE 754. A number that is too large for it is not told apart. -/
def binary32 : Format := ⟨24, -149⟩

/-- The type `double`. -/
def binary64 : Format := ⟨53, -1074⟩

end BinaryRounding
