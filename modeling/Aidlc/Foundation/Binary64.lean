import Mathlib.Algebra.Order.Field.Power
import Mathlib.Data.Int.Log
import Mathlib.Data.Rat.Floor
import Mathlib.Tactic.Linarith
import Mathlib.Tactic.NormNum
import Mathlib.Tactic.Positivity

/-! # Binary64 numbers

A finite number of the format is a significand of 53 bits times a power of two.
Rounding goes to the nearest such number, ties to the even significand, and what
is rounded already stays as it is. Both zeros are one number here.
-/

namespace Foundation

/-- The nearest integer, and of two the even one. -/
def roundHalfEven (value : Rat) : Int :=
  let low := ⌊value⌋
  if value - low < 1 / 2 then low
  else if 1 / 2 < value - low then low + 1
  else if low % 2 = 0 then low
  else low + 1

theorem roundHalfEven_intCast (value : Int) : roundHalfEven value = value := by
  unfold roundHalfEven
  simp

theorem abs_roundHalfEven_sub_le (value : Rat) : |(roundHalfEven value : Rat) - value| ≤ 1 / 2 := by
  have hlow := Int.floor_le value
  have hhigh := Int.lt_floor_add_one value
  unfold roundHalfEven
  dsimp only
  rw [abs_le]
  split
  · constructor <;> linarith
  · rename_i hhalf
    rw [not_lt] at hhalf
    split
    · push_cast
      constructor <;> linarith
    · rename_i hnot
      rw [not_lt] at hnot
      split
      · constructor <;> linarith
      · push_cast
        constructor <;> linarith

theorem abs_roundHalfEven_lt {value : Rat} {bound : Int} (hvalue : |value| < bound - 1 / 2) :
    |roundHalfEven value| < bound := by
  have hclose := abs_roundHalfEven_sub_le value
  have htriangle := abs_sub_abs_le_abs_sub (roundHalfEven value : Rat) value
  have hlt : |(roundHalfEven value : Rat)| < bound := by linarith
  exact_mod_cast hlt

theorem le_abs_roundHalfEven {value : Rat} {bound : Int} (hvalue : bound - 1 / 2 < |value|) :
    bound ≤ |roundHalfEven value| := by
  have hclose := abs_roundHalfEven_sub_le value
  rw [abs_sub_comm] at hclose
  have htriangle := abs_sub_abs_le_abs_sub value (roundHalfEven value : Rat)
  have hlt : (bound : Rat) - 1 < |(roundHalfEven value : Rat)| := by linarith
  have hint : bound - 1 < |roundHalfEven value| := by exact_mod_cast hlt
  omega

/-- Half a step below an even integer is rounded to it. -/
theorem abs_roundHalfEven_tie {value : Rat} (htie : |value| = 2 ^ 53 - 1 / 2) :
    |roundHalfEven value| = 2 ^ 53 := by
  rcases le_total 0 value with hsign | hsign
  · rw [abs_of_nonneg hsign] at htie
    have hlow : ⌊value⌋ = 2 ^ 53 - 1 := by
      rw [Int.floor_eq_iff, htie]
      norm_num
    have hround : roundHalfEven value = 2 ^ 53 := by
      simp only [roundHalfEven, htie]
      norm_num
    rw [hround]
    norm_num
  · rw [abs_of_nonpos hsign] at htie
    have hvalue : value = -(2 ^ 53 - 1 / 2) := by rw [← htie, neg_neg]
    have hlow : ⌊value⌋ = -2 ^ 53 := by
      rw [Int.floor_eq_iff, hvalue]
      norm_num
    have hround : roundHalfEven value = -2 ^ 53 := by
      simp only [roundHalfEven, hvalue]
      norm_num
    rw [hround]
    norm_num

/-- The exponent of the last place of a number. -/
def lastPlace (value : Rat) : Int := max (Int.log 2 |value| - 52) (-1074)

/-- The nearest number of 53 significant bits. -/
def nearest (value : Rat) : Rat :=
  roundHalfEven (value / 2 ^ lastPlace value) * 2 ^ lastPlace value

/-- The numbers of the format, and those beyond its largest exponent. -/
def Representable (value : Rat) : Prop :=
  ∃ (significand exponent : Int), value = significand * 2 ^ exponent ∧
    |significand| < 2 ^ 53 ∧ -1074 ≤ exponent

theorem abs_lt_lastPlace (value : Rat) : |value / 2 ^ lastPlace value| < 2 ^ 53 := by
  have hpos : (0 : Rat) < 2 ^ lastPlace value := by positivity
  have hlog : Int.log 2 |value| + 1 ≤ 53 + lastPlace value := by
    unfold lastPlace
    omega
  have hbound : |value| < 2 ^ (Int.log 2 |value| + 1) := by
    exact_mod_cast Int.lt_zpow_succ_log_self (by decide : 1 < 2) |value|
  rw [abs_div, abs_of_pos hpos, div_lt_iff₀ hpos]
  calc |value| < 2 ^ (Int.log 2 |value| + 1) := hbound
    _ ≤ 2 ^ (53 + lastPlace value) := zpow_le_zpow_right₀ (by norm_num) hlog
    _ = 2 ^ 53 * 2 ^ lastPlace value := by
      rw [zpow_add₀ (by norm_num)]
      norm_num

theorem representable_nearest (value : Rat) : Representable (nearest value) := by
  have hclose := abs_roundHalfEven_sub_le (value / 2 ^ lastPlace value)
  have hsmall := abs_lt_lastPlace value
  have hplace : -1074 ≤ lastPlace value := le_max_right _ _
  unfold nearest
  generalize value / 2 ^ lastPlace value = scaled at hclose hsmall ⊢
  generalize lastPlace value = place at hplace ⊢
  generalize roundHalfEven scaled = rounded at hclose ⊢
  have hle : |rounded| ≤ 2 ^ 53 := by
    have hreal : (|rounded| : Rat) < 2 ^ 53 + 1 := by
      have htriangle := abs_sub_abs_le_abs_sub (rounded : Rat) scaled
      linarith
    have hint : |rounded| < 2 ^ 53 + 1 := by exact_mod_cast hreal
    omega
  rcases lt_or_eq_of_le hle with hlt | heq
  · exact ⟨rounded, place, rfl, hlt, hplace⟩
  · -- the significand was rounded up to the next power of two
    have hcases : rounded = 2 ^ 53 ∨ rounded = -2 ^ 53 := eq_or_eq_neg_of_abs_eq heq
    refine ⟨rounded / 2, place + 1, ?_, ?_, by omega⟩
    · have hdouble : rounded = rounded / 2 * 2 := by omega
      rw [zpow_add₀ (by norm_num), zpow_one]
      have hcast : (rounded : Rat) = (rounded / 2 : Int) * 2 := by exact_mod_cast hdouble
      rw [hcast]
      ring
    · rcases hcases with rfl | rfl <;> decide

theorem nearest_zero : nearest 0 = 0 := by
  rw [nearest, zero_div, ← Int.cast_zero, roundHalfEven_intCast, Int.cast_zero, zero_mul]

/-- The last place of a number is at most the exponent it can be written with. -/
theorem lastPlace_le {significand exponent : Int} (hnonzero : significand ≠ 0)
    (hsignificand : |significand| < 2 ^ 53) (hexponent : -1074 ≤ exponent) :
    lastPlace (significand * 2 ^ exponent) ≤ exponent := by
  have hpower : (0 : Rat) < 2 ^ exponent := by positivity
  have hmagnitude : |(significand : Rat) * 2 ^ exponent| = |(significand : Rat)| * 2 ^ exponent := by
    rw [abs_mul, abs_of_pos hpower]
  have hpos : 0 < |(significand : Rat) * 2 ^ exponent| := by
    rw [hmagnitude]
    positivity
  have hlt : |(significand : Rat) * 2 ^ exponent| < 2 ^ (53 + exponent) := by
    rw [hmagnitude, zpow_add₀ (by norm_num)]
    exact mul_lt_mul_of_pos_right (by exact_mod_cast hsignificand) hpower
  have hlog : Int.log 2 |(significand : Rat) * 2 ^ exponent| < 53 + exponent :=
    (Int.lt_zpow_iff_log_lt (by decide) hpos).mp (by exact_mod_cast hlt)
  unfold lastPlace
  omega

theorem nearest_of_representable {value : Rat} (hvalue : Representable value) :
    nearest value = value := by
  obtain ⟨significand, exponent, rfl, hsignificand, hexponent⟩ := hvalue
  by_cases hnonzero : significand = 0
  · rw [hnonzero, Int.cast_zero, zero_mul, nearest_zero]
  have hplace := lastPlace_le hnonzero hsignificand hexponent
  generalize hnumber : (significand : Rat) * 2 ^ exponent = value at hplace ⊢
  -- the number is a multiple of its last place
  obtain ⟨steps, hsteps⟩ := Int.le.dest hplace
  have hpower : (2 : Rat) ^ lastPlace value ≠ 0 := by positivity
  have hscaled : value / 2 ^ lastPlace value = ((significand * 2 ^ steps : Int) : Rat) := by
    rw [div_eq_iff hpower]
    calc value = significand * 2 ^ exponent := hnumber.symm
      _ = ((significand * 2 ^ steps : Int) : Rat) * 2 ^ lastPlace value := by
        rw [← hsteps, zpow_add₀ (by norm_num), zpow_natCast]
        push_cast
        ring
  rw [nearest, hscaled, roundHalfEven_intCast, ← hscaled, div_mul_cancel₀ _ hpower]

theorem nearest_nearest (value : Rat) : nearest (nearest value) = nearest value :=
  nearest_of_representable (representable_nearest value)

section Limit

variable {scaled power large : Rat}

theorem scaled_lt_iff_of_le (hscaled : |scaled| < 2 ^ 53) (hpos : 0 < power)
    (hpower : power ≤ large) :
    |scaled| * power < 2 ^ 54 * large - large ↔
      |(roundHalfEven scaled : Rat)| * power < 2 ^ 54 * large := by
  have hround : |roundHalfEven scaled| < 2 ^ 53 + 1 := by
    apply abs_roundHalfEven_lt
    push_cast
    linarith
  have hrounded : |(roundHalfEven scaled : Rat)| ≤ 2 ^ 53 := by
    exact_mod_cast Int.lt_add_one_iff.mp hround
  have hbefore := mul_le_mul hscaled.le hpower hpos.le (by positivity)
  have hafter := mul_le_mul hrounded hpower hpos.le (by positivity)
  apply iff_of_true <;> linarith

/-- Half a place below the power of two, the numbers round to it. -/
theorem scaled_lt_iff_of_eq (hlarge : 0 < large) (hpower : power = 2 * large) :
    |scaled| * power < 2 ^ 54 * large - large ↔
      |(roundHalfEven scaled : Rat)| * power < 2 ^ 54 * large := by
  have hpos : 0 < power := by linarith
  have hbelow : 2 ^ 54 * large - large = (2 ^ 53 - 1 / 2) * power := by
    rw [hpower]
    ring
  have htop : 2 ^ 54 * large = 2 ^ 53 * power := by
    rw [hpower]
    ring
  have hround : |(roundHalfEven scaled : Rat)| < 2 ^ 53 ↔ |roundHalfEven scaled| < 2 ^ 53 := by
    exact_mod_cast Iff.rfl
  rw [hbelow, htop, mul_lt_mul_iff_left₀ hpos, mul_lt_mul_iff_left₀ hpos, hround]
  rcases lt_trichotomy |scaled| (2 ^ 53 - 1 / 2) with hlow | htie | hhigh
  · apply iff_of_true hlow
    apply abs_roundHalfEven_lt
    exact_mod_cast hlow
  · rw [htie, abs_roundHalfEven_tie htie]
    norm_num
  · apply iff_of_false hhigh.not_gt
    rw [not_lt]
    apply le_abs_roundHalfEven
    exact_mod_cast hhigh

theorem scaled_lt_iff_of_ge (hscaled : 2 ^ 52 ≤ |scaled|) (hlarge : 0 < large)
    (hpower : 4 * large ≤ power) :
    |scaled| * power < 2 ^ 54 * large - large ↔
      |(roundHalfEven scaled : Rat)| * power < 2 ^ 54 * large := by
  have hround : 2 ^ 52 ≤ |roundHalfEven scaled| := by
    apply le_abs_roundHalfEven
    push_cast
    linarith
  have hrounded : (2 : Rat) ^ 52 ≤ |(roundHalfEven scaled : Rat)| := by exact_mod_cast hround
  have hbefore := mul_le_mul hscaled hpower (by positivity) (abs_nonneg _)
  have hafter := mul_le_mul hrounded hpower (by positivity) (abs_nonneg _)
  apply iff_of_false <;> linarith

end Limit

/-- A number is rounded to a finite one unless it reaches the largest finite number and
half its last place. -/
theorem abs_nearest_lt_iff (value : Rat) :
    |nearest value| < 2 ^ 1024 ↔ |value| < 2 ^ 1024 - 2 ^ 970 := by
  have hplace : lastPlace value = max (Int.log 2 |value| - 52) (-1074) := rfl
  have hpos : (0 : Rat) < 2 ^ lastPlace value := by positivity
  have hscaled := abs_lt_lastPlace value
  have hlimit : (2 : Rat) ^ 1024 = 2 ^ 54 * 2 ^ 970 := by rw [← pow_add]
  have hlarge : (0 : Rat) < 2 ^ 970 := by positivity
  have hcast : (2 : Rat) ^ 970 = 2 ^ (970 : Int) := (zpow_ofNat 2 970).symm
  have hvalue : |value| = |value / 2 ^ lastPlace value| * 2 ^ lastPlace value := by
    rw [abs_div, abs_of_pos hpos, div_mul_cancel₀ _ hpos.ne']
  rw [hvalue, nearest, abs_mul, abs_of_pos hpos, hlimit, iff_comm]
  rcases lt_trichotomy (lastPlace value) 971 with hlow | heq | hhigh
  · apply scaled_lt_iff_of_le hscaled hpos
    rw [hcast]
    exact zpow_le_zpow_right₀ (by norm_num) (by omega)
  · apply scaled_lt_iff_of_eq hlarge
    rw [heq, hcast, ← zpow_one_add₀ (by norm_num)]
    norm_num
  · apply scaled_lt_iff_of_ge _ hlarge
    · rw [hcast, show (4 : Rat) = 2 ^ (2 : Int) by norm_num, ← zpow_add₀ (by norm_num)]
      exact zpow_le_zpow_right₀ (by norm_num) (by omega)
    · -- the leading bit of a large number is the last bit of its significand
      have hlog : Int.log 2 |value| = 52 + lastPlace value := by omega
      have hnonzero : 0 < |value| := by
        rw [abs_pos]
        rintro rfl
        simp at hlog
        omega
      have hlead := Int.zpow_log_le_self (by decide : 1 < 2) hnonzero
      rw [hlog] at hlead
      rw [abs_div, abs_of_pos hpos, le_div_iff₀ hpos]
      calc (2 : Rat) ^ 52 * 2 ^ lastPlace value = 2 ^ (52 + lastPlace value) := by
            rw [zpow_add₀ (by norm_num)]
            norm_num
        _ ≤ |value| := by exact_mod_cast hlead

/-- A finite number of the format. -/
structure Binary64 where
  value : Rat
  finite : |value| < 2 ^ 1024
  rounded : nearest value = value
  deriving DecidableEq

namespace Binary64

/-- The number a value is rounded to, unless it is too large. -/
def ofRat (value : Rat) : Option Binary64 :=
  if hfinite : |nearest value| < 2 ^ 1024 then
    some ⟨nearest value, hfinite, nearest_nearest value⟩
  else none

/-- Numbers of the format stay as they are. -/
@[simp] theorem ofRat_value (number : Binary64) : ofRat number.value = some number := by
  obtain ⟨value, hfinite, hrounded⟩ := number
  simp only [ofRat, hrounded, dif_pos hfinite]

/-- An integer of 53 bits is a number of the format. -/
theorem ofRat_intCast {value : Int} (hsmall : |value| < 2 ^ 53) :
    (ofRat value).map Binary64.value = some (value : Rat) := by
  have hnearest : nearest (value : Rat) = value :=
    nearest_of_representable ⟨value, 0, by simp, hsmall, by decide⟩
  have hfinite : |nearest (value : Rat)| < 2 ^ 1024 := by
    rw [hnearest]
    have hcast : |(value : Rat)| < 2 ^ 53 := by exact_mod_cast hsmall
    exact hcast.trans (pow_lt_pow_right₀ (by norm_num) (by decide))
  rw [ofRat, dif_pos hfinite, Option.map_some]
  exact congrArg some hnearest

end Binary64

end Foundation
