import Mathlib.Algebra.Ring.Rat
import Mathlib.Data.List.Sort
import Aidlc.Domain.Values
import Aidlc.Foundation.Binary64
import Aidlc.Foundation.Effects

/-! # Built-in arithmetic

The conversions and the division of numbers, with the exceptions they raise. What
the conversions make of a text is a parameter; it may raise as well.
-/

namespace Aidlc

open Foundation

/-- `int` and `float` of a text, and `str` of what is no text. -/
structure Conversions where
  intText : String → Except PyError Int
  floatText : String → Except PyError Rat
  repr : Json → String

/-- A value that a floating-point number can stand for. -/
def InRange (value : Rat) : Prop := |nearest value| < 2 ^ 1024

theorem inRange_iff {value : Rat} : InRange value ↔ |value| < 2 ^ 1024 - 2 ^ 970 :=
  abs_nearest_lt_iff value

instance (value : Rat) : Decidable (InRange value) := decidable_of_iff _ inRange_iff.symm

attribute [irreducible] InRange

def overflowError {α : Type} (message : String) : Except PyError α :=
  .error ⟨.overflowError, message⟩

/-- The floating-point number of an integer. -/
def floatOfInt (value : Int) : Except PyError Rat :=
  if InRange value then .ok (nearest value)
  else overflowError "int too large to convert to float"

/-- `first / second` of integers, of which the second is not zero. -/
def divideInts (first second : Int) (_ : second ≠ 0) : Except PyError Rat :=
  if InRange ((first : Rat) / second) then .ok (nearest ((first : Rat) / second))
  else overflowError "integer division result too large for a float"

/-- A number of one of the two types. -/
inductive Number where
  | int (value : Int)
  | float (value : Rat)
  deriving DecidableEq, Repr

def Number.value : Number → Rat
  | .int value => value
  | .float value => value

/-- What a division of floating-point numbers gives; a quotient that is too large is
infinite. -/
inductive Quotient where
  | finite (value : Rat)
  | infinite (negative : Bool)
  deriving DecidableEq, Repr

def divideFloats (first second : Rat) : Quotient :=
  if InRange (first / second) then .finite (nearest (first / second))
  else .infinite (first / second < 0)

/-- `first / second` of numbers, of which the second is positive. -/
def divide : (first second : Number) → 0 < second.value → Except PyError Quotient
  | .int first, .int second, hpositive =>
    Quotient.finite <$> divideInts first second fun hzero => by
      simp [Number.value, hzero] at hpositive
  | .int first, .float second, _ => do return divideFloats (← floatOfInt first) second
  | .float first, .int second, _ => do return divideFloats first (← floatOfInt second)
  | .float first, .float second, _ => .ok (divideFloats first second)

/-- `statistics.median(data)` of integers -/
def median (data : List Int) : Except PyError Number :=
  let ordered := data.insertionSort (· ≤ ·)
  let middle := ordered.length / 2
  if hempty : ordered.length = 0 then valueError "no median for empty data"
  else if ordered.length % 2 = 1 then .ok (.int (ordered.get ⟨middle, by omega⟩))
  else
    let sum := ordered.get ⟨middle - 1, by omega⟩ + ordered.get ⟨middle, by omega⟩
    Number.float <$> divideInts sum 2 (by decide)

/-- The exact median of integers, before it is made a floating-point number. -/
def exactMedian (data : List Int) : Rat :=
  let ordered := data.insertionSort (· ≤ ·)
  let sum := ordered.getD ((ordered.length - 1) / 2) 0 + ordered.getD (ordered.length / 2) 0
  sum / 2

theorem divideInts_returns_iff {first second : Int} (hnonzero : second ≠ 0) :
    (∃ value, divideInts first second hnonzero = .ok value) ↔
      InRange ((first : Rat) / second) := by
  unfold divideInts
  split
  next hrange => simp [hrange]
  next hrange => simp [hrange, overflowError]

theorem getD_of_lt {data : List Int} {index : Nat} (hindex : index < data.length) :
    data.getD index 0 = data.get ⟨index, hindex⟩ := by
  rw [List.getD_eq_getElem?_getD, List.getElem?_eq_getElem hindex, Option.getD_some,
    List.get_eq_getElem]

/-- The median of an odd number of integers is one of them. -/
theorem median_of_odd {data : List Int} (hodd : data.length % 2 = 1) :
    ∃ value ∈ data, median data = .ok (.int value) ∧ (value : Rat) = exactMedian data := by
  have hlength := List.length_insertionSort (· ≤ ·) data
  unfold median exactMedian
  dsimp only
  rw [dif_neg (by omega), if_pos (by omega)]
  refine ⟨_, (List.mem_insertionSort _).mp (List.get_mem _ _), rfl, ?_⟩
  have hmiddle : ((data.insertionSort (· ≤ ·)).length - 1) / 2 =
      (data.insertionSort (· ≤ ·)).length / 2 := by omega
  rw [hmiddle, getD_of_lt (by omega)]
  push_cast
  ring

/-- The median of an even number of integers is a float, which their exact median may be
too large for. -/
theorem median_of_even {data : List Int} (hnonempty : data ≠ []) (heven : data.length % 2 = 0) :
    (InRange (exactMedian data) → median data = .ok (.float (nearest (exactMedian data)))) ∧
    (¬ InRange (exactMedian data) → ∃ error, median data = .error error) := by
  have hlength := List.length_insertionSort (· ≤ ·) data
  have hpositive := List.length_pos_of_ne_nil hnonempty
  have hmiddle : ((data.insertionSort (· ≤ ·)).length - 1) / 2 =
      (data.insertionSort (· ≤ ·)).length / 2 - 1 := by omega
  unfold median exactMedian
  dsimp only
  rw [dif_neg (by omega), if_neg (by omega), hmiddle, getD_of_lt (by omega), getD_of_lt (by omega)]
  generalize (data.insertionSort (· ≤ ·)).get _ + (data.insertionSort (· ≤ ·)).get _ = sum
  rw [divideInts, Int.cast_ofNat]
  constructor
  · intro hrange
    rw [if_pos hrange]
    rfl
  · intro hrange
    rw [if_neg hrange]
    exact ⟨_, rfl⟩

/-- When the median of some integers can be taken. -/
theorem median_returns_iff {data : List Int} (hnonempty : data ≠ []) :
    (∃ middle, median data = .ok middle) ↔
      (data.length % 2 = 0 → InRange (exactMedian data)) := by
  rcases Nat.mod_two_eq_zero_or_one data.length with heven | hodd
  · obtain ⟨hreturned, hraised⟩ := median_of_even hnonempty heven
    constructor
    · rintro ⟨middle, hmedian⟩ -
      by_contra hrange
      obtain ⟨error, herror⟩ := hraised hrange
      rw [hmedian] at herror
      cases herror
    · exact fun hrange => ⟨_, hreturned (hrange heven)⟩
  · obtain ⟨value, -, hmedian, -⟩ := median_of_odd hodd
    simp [hmedian, hodd]

theorem float_of_median {data : List Int} {middle : Number} (hnonempty : data ≠ [])
    (heven : data.length % 2 = 0) (hmedian : median data = .ok middle) :
    ∃ value, middle = .float value := by
  have hrange := (median_returns_iff hnonempty).mp ⟨middle, hmedian⟩ heven
  rw [(median_of_even hnonempty heven).1 hrange] at hmedian
  exact ⟨_, (Except.ok.inj hmedian).symm⟩

/-- When the median of some integers can be divided by that of as many others. -/
theorem divide_returns_iff {data base : List Int} {middle divisor : Number}
    (hnonempty : data ≠ []) (hlength : data.length = base.length)
    (hmiddle : median data = .ok middle) (hdivisor : median base = .ok divisor) :
    (∀ hpositive : 0 < divisor.value, ∃ quotient, divide middle divisor hpositive = .ok quotient) ↔
      (data.length % 2 = 1 → 0 < exactMedian base →
        InRange (exactMedian data / exactMedian base)) := by
  rcases Nat.mod_two_eq_zero_or_one data.length with heven | hodd
  · have hbase : base ≠ [] := by
      rintro rfl
      exact hnonempty (List.length_eq_zero_iff.mp hlength)
    obtain ⟨first, rfl⟩ := float_of_median hnonempty heven hmiddle
    obtain ⟨second, rfl⟩ := float_of_median hbase (hlength ▸ heven) hdivisor
    exact ⟨fun _ hodd => by omega, fun _ _ => ⟨_, rfl⟩⟩
  · obtain ⟨first, -, hfirst, hexact⟩ := median_of_odd hodd
    obtain ⟨second, -, hsecond, hexactBase⟩ := median_of_odd (hlength ▸ hodd)
    rw [hfirst] at hmiddle
    rw [hsecond] at hdivisor
    cases hmiddle
    cases hdivisor
    rw [← hexact, ← hexactBase]
    have hnonzero (hpositive : (0 : Rat) < second) : second ≠ 0 := by
      rintro rfl
      exact absurd hpositive (by simp)
    constructor
    · intro hreturns _ hpositive
      obtain ⟨quotient, hquotient⟩ := hreturns hpositive
      rw [← divideInts_returns_iff (hnonzero hpositive)]
      obtain ⟨value, hvalue, -⟩ := except_map_eq_ok.mp hquotient
      exact ⟨value, hvalue⟩
    · intro hrange hpositive
      obtain ⟨value, hvalue⟩ :=
        (divideInts_returns_iff (hnonzero hpositive)).mpr (hrange hodd hpositive)
      exact ⟨.finite value, except_map_eq_ok.mpr ⟨value, hvalue, rfl⟩⟩

/-- `round(value, 2)` -/
def roundCents (value : Rat) : Rat := nearest ((roundHalfEven (value * 100) : Rat) / 100)

namespace Conversions

variable (conversions : Conversions)

/-- `str(value)` -/
def text : Json → String
  | .str value => value
  | value => conversions.repr value

/-- `int(value)` -/
def int : Json → Except PyError Int
  | .bool value => .ok (if value then 1 else 0)
  | .int value => .ok value
  | .float value => .ok (value.num.tdiv value.den)
  | .str value => conversions.intText value
  | value => typeError ("int() argument must be a string, a bytes-like object or a real number, not '"
      ++ Json.typeName value ++ "'")

/-- `float(value)` -/
def float : Json → Except PyError Rat
  | .bool value => .ok (if value then 1 else 0)
  | .int value => floatOfInt value
  | .float value => .ok value
  | .str value => conversions.floatText value
  | value => typeError ("float() argument must be a string or a real number, not '"
      ++ Json.typeName value ++ "'")

end Conversions

/-- One step of the compensated summation of `sum`: the total, and what rounding lost. -/
def addCompensated (total : Rat × Rat) (value : Rat) : Rat × Rat :=
  let next := nearest (total.1 + value)
  let lost := if |value| ≤ |total.1| then nearest (nearest (total.1 - next) + value)
    else nearest (nearest (value - next) + total.1)
  (next, nearest (total.2 + lost))

/-- `sum(values)` of floating-point numbers -/
def sumFloats (values : List Rat) : Rat :=
  let total := values.foldl addCompensated (0, 0)
  if total.2 = 0 then total.1 else nearest (total.1 + total.2)

end Aidlc
