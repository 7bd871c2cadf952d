import Mathlib.Algebra.Ring.Nat
import Mathlib.Data.Nat.Basic
import Mathlib.Tactic.Tauto

/-! # Texts of dates

A date is counted in days, and written as fields with a fixed number of digits from
the year down to the day. Where two such texts differ they are compared as their
fields are, so the order of the texts is the order of the dates.
-/

namespace Foundation

/-! ## Fields of a fixed width -/

section Fields

variable {width first second : Nat} {left right : List Char}

/-- `f"{value:0{width}d}"` of a number that has no more digits. -/
def digits : Nat → Nat → List Char
  | 0, _ => []
  | width + 1, value => digits width (value / 10) ++ [(value % 10).digitChar]

@[simp] theorem length_digits (width value : Nat) : (digits width value).length = width := by
  induction width generalizing value with
  | zero => rfl
  | succ width ih => rw [digits, List.length_append, ih, List.length_singleton]

/-- Texts that start with parts of one length are compared by these parts first. -/
theorem append_lt_append_iff {one other : List Char} (hlength : one.length = other.length) :
    one ++ left < other ++ right ↔ one < other ∨ one = other ∧ left < right := by
  induction one generalizing other with
  | nil =>
      obtain rfl := List.length_eq_zero_iff.mp hlength.symm
      simp
  | cons c rest ih =>
      cases other with
      | nil => cases hlength
      | cons d tail =>
          have htail := ih (Nat.succ.inj hlength)
          rw [List.cons_append, List.cons_append, List.cons_lt_cons_iff, List.cons_lt_cons_iff,
            htail, List.cons.injEq]
          tauto

theorem append_left_lt_iff {one : List Char} : one ++ left < one ++ right ↔ left < right := by
  rw [append_lt_append_iff rfl]
  exact (or_iff_right (List.lt_irrefl one)).trans (and_iff_right rfl)

theorem digitChar_lt_iff (hfirst : first < 10) (hsecond : second < 10) :
    first.digitChar < second.digitChar ↔ first < second := by
  have hall : ∀ left right : Fin 10,
      left.val.digitChar < right.val.digitChar ↔ left.val < right.val := by decide
  exact hall ⟨first, hfirst⟩ ⟨second, hsecond⟩

theorem digitChar_eq_iff (hfirst : first < 10) (hsecond : second < 10) :
    first.digitChar = second.digitChar ↔ first = second := by
  have hall : ∀ left right : Fin 10,
      left.val.digitChar = right.val.digitChar ↔ left.val = right.val := by decide
  exact hall ⟨first, hfirst⟩ ⟨second, hsecond⟩

theorem digits_inj (hfirst : first < 10 ^ width) (hsecond : second < 10 ^ width)
    (heq : digits width first = digits width second) : first = second := by
  induction width generalizing first second with
  | zero => omega
  | succ width ih =>
      rw [Nat.pow_succ] at hfirst hsecond
      obtain ⟨hfront, hlast⟩ := List.append_inj' heq rfl
      have htens : first / 10 = second / 10 := ih (by omega) (by omega) hfront
      have hones := (digitChar_eq_iff (by omega) (by omega)).mp (List.singleton_inj.mp hlast)
      omega

theorem digits_lt_iff (hfirst : first < 10 ^ width) (hsecond : second < 10 ^ width) :
    digits width first < digits width second ↔ first < second := by
  induction width generalizing first second with
  | zero =>
      have hnot : ¬first < second := by omega
      simp [digits, hnot]
  | succ width ih =>
      rw [Nat.pow_succ] at hfirst hsecond
      have htens : first / 10 < 10 ^ width := by omega
      have htens' : second / 10 < 10 ^ width := by omega
      have hones : [(first % 10).digitChar] < [(second % 10).digitChar] ↔
          first % 10 < second % 10 := by
        rw [List.cons_lt_cons_iff, digitChar_lt_iff (by omega) (by omega)]
        simp
      have hsame : digits width (first / 10) = digits width (second / 10) ↔
          first / 10 = second / 10 := ⟨digits_inj htens htens', fun heq => by rw [heq]⟩
      rw [digits, digits, append_lt_append_iff (by simp), ih htens htens', hsame, hones]
      omega

/-- A field is compared before what follows it. -/
theorem field_lt_iff (hfirst : first < 10 ^ width) (hsecond : second < 10 ^ width) :
    digits width first ++ left < digits width second ++ right ↔
      first < second ∨ first = second ∧ left < right := by
  have hsame : digits width first = digits width second ↔ first = second :=
    ⟨digits_inj hfirst hsecond, fun heq => by rw [heq]⟩
  rw [append_lt_append_iff (by simp), digits_lt_iff hfirst hsecond, hsame]

theorem digits_add (front back value : Nat) :
    digits (front + back) value = digits front (value / 10 ^ back) ++ digits back value := by
  induction back generalizing value with
  | zero => simp [digits]
  | succ back ih =>
      rw [← Nat.add_assoc, digits, digits, ih, List.append_assoc, Nat.pow_succ',
        Nat.div_div_eq_div_mul]

/-- A field holds the last digits of its number. -/
theorem digits_mod (width value : Nat) : digits width (value % 10 ^ width) = digits width value := by
  induction width generalizing value with
  | zero => rfl
  | succ width ih =>
      have hfront : value % 10 ^ (width + 1) / 10 = value / 10 % 10 ^ width := by
        rw [Nat.pow_succ', Nat.mod_mul_right_div_self]
      have hlast : value % 10 ^ (width + 1) % 10 = value % 10 := by
        rw [Nat.pow_succ', Nat.mod_mul_right_mod]
      rw [digits, digits, hfront, hlast, ih]

end Fields

/-! ## Dates -/

section Dates

/-- The days of so many years of the calendar. -/
def daysBefore (years : Nat) : Nat := 365 * years + years / 4 - years / 100 + years / 400

/-- The years completed after so many days. -/
def elapsedYears (day : Nat) : Nat :=
  let century := min (day % 146097 / 36524) 3
  let rest := day % 146097 - century * 36524
  400 * (day / 146097) + 100 * century + 4 * (rest / 1461) + min (rest % 1461 / 365) 3

def isLeap (year : Nat) : Bool := year % 4 == 0 && (year % 100 != 0 || year % 400 == 0)

/-- The years of a cycle, in centuries, spans of four years, and the rest. -/
theorem daysBefore_eq {cycle century four year : Nat} (hcentury : century < 4) (hfour : four < 25)
    (hyear : year < 4) :
    daysBefore (400 * cycle + 100 * century + 4 * four + year) =
      146097 * cycle + 36524 * century + 1461 * four + 365 * year := by
  have h4 : (400 * cycle + 100 * century + 4 * four + year) / 4 =
      100 * cycle + 25 * century + four := by omega
  have h100 : (400 * cycle + 100 * century + 4 * four + year) / 100 = 4 * cycle + century := by
    omega
  have h400 : (400 * cycle + 100 * century + 4 * four + year) / 400 = cycle := by omega
  rw [daysBefore, h4, h100, h400]
  omega

/-- A quotient grows at the multiples. -/
theorem succ_div_eq (value divisor : Nat) :
    (value + 1) / divisor = value / divisor + if (value + 1) % divisor = 0 then 1 else 0 := by
  rw [Nat.succ_div]
  simp only [Nat.dvd_iff_mod_eq_zero]

theorem daysBefore_succ (years : Nat) :
    daysBefore (years + 1) = daysBefore years + 365 + (isLeap (years + 1)).toNat := by
  have hfewer : years / 100 ≤ years / 4 := by omega
  have h100 : (years + 1) % 100 = 0 → (years + 1) % 4 = 0 := by omega
  have h400 : (years + 1) % 400 = 0 → (years + 1) % 100 = 0 := by omega
  simp only [daysBefore, isLeap, succ_div_eq]
  generalize years / 4 = fours at hfewer ⊢
  generalize years / 100 = centuries at hfewer ⊢
  generalize years / 400 = cycles
  generalize (years + 1) % 4 = four at h100 ⊢
  generalize (years + 1) % 100 = century at h100 h400 ⊢
  generalize (years + 1) % 400 = cycle at h400 ⊢
  by_cases hcycle : cycle = 0
  · have hcentury := h400 hcycle
    simp [hcycle, hcentury, h100 hcentury]
    omega
  · have hnot := beq_eq_false_iff_ne.mpr hcycle
    by_cases hcentury : century = 0
    · simp [hcycle, hnot, hcentury, h100 hcentury]
      omega
    · have hnotCentury := bne_iff_ne.mpr hcentury
      by_cases hfour : four = 0
      · simp [hcycle, hnotCentury, hcentury, hfour]
        omega
      · have hnotFour := beq_eq_false_iff_ne.mpr hfour
        simp [hcycle, hnotFour, hcentury, hfour]
        omega

theorem elapsedYears_spec (day : Nat) :
    daysBefore (elapsedYears day) ≤ day ∧ day < daysBefore (elapsedYears day + 1) := by
  rw [daysBefore_succ]
  unfold elapsedYears
  dsimp only
  have hday := Nat.div_add_mod day 146097
  have hrest := Nat.mod_lt day (show 146097 > 0 by omega)
  generalize day / 146097 = cycle at hday ⊢
  generalize day % 146097 = rest at hday hrest ⊢
  obtain ⟨century, hcentury⟩ : ∃ century, min (rest / 36524) 3 = century := ⟨_, rfl⟩
  rw [hcentury]
  obtain ⟨later, hlater⟩ : ∃ later, rest - century * 36524 = later := ⟨_, rfl⟩
  rw [hlater]
  have hspan := Nat.div_add_mod later 1461
  have hmonths := Nat.mod_lt later (show 1461 > 0 by omega)
  generalize later / 1461 = four at hspan ⊢
  generalize later % 1461 = months at hspan hmonths ⊢
  obtain ⟨year, hyear⟩ : ∃ year, min (months / 365) 3 = year := ⟨_, rfl⟩
  rw [hyear, daysBefore_eq (by omega) (by omega) (by omega)]
  refine ⟨by omega, ?_⟩
  by_cases hend : months = 1460
  · -- the last day of a span of four years, which ends with a leap year
    have hleap : isLeap (400 * cycle + 100 * century + 4 * four + year + 1) = true := by
      simp only [isLeap, Bool.and_eq_true, Bool.or_eq_true, beq_iff_eq, bne_iff_ne]
      omega
    rw [hleap]
    simp only [Bool.toNat_true]
    omega
  · omega

theorem daysBefore_mono {first second : Nat} (hle : first ≤ second) :
    daysBefore first ≤ daysBefore second := by
  induction second, hle using Nat.le_induction with
  | base => exact Nat.le_refl _
  | succ second _ ih =>
      rw [daysBefore_succ]
      omega

theorem elapsedYears_mono {first second : Nat} (hle : first ≤ second) :
    elapsedYears first ≤ elapsedYears second := by
  by_contra hlt
  have hfirst := (elapsedYears_spec first).1
  have hsecond := (elapsedYears_spec second).2
  have hmono := daysBefore_mono (show elapsedYears second + 1 ≤ elapsedYears first by omega)
  omega

def monthLengths (leap : Bool) : List Nat :=
  [31, if leap then 29 else 28, 31, 30, 31, 30, 31, 31, 30, 31, 30, 31]

theorem sum_monthLengths (leap : Bool) : (monthLengths leap).sum = 365 + leap.toNat := by
  cases leap <;> rfl

/-- The month and the day of the month, counted from this month on. -/
def monthDay : Nat → List Nat → Nat → Nat × Nat
  | month, [], day => (month, day + 1)
  | month, length :: rest, day =>
    if day < length then (month, day + 1) else monthDay (month + 1) rest (day - length)

theorem le_monthDay (month day : Nat) (lengths : List Nat) :
    month ≤ (monthDay month lengths day).1 := by
  induction lengths generalizing month day with
  | nil => exact Nat.le_refl _
  | cons length rest ih =>
      rw [monthDay]
      split
      next => exact Nat.le_refl _
      next => exact Nat.le_of_succ_le (ih (month + 1) (day - length))

theorem monthDay_bounds {month day bound : Nat} {lengths : List Nat} (hday : day < lengths.sum)
    (hlengths : ∀ length ∈ lengths, length ≤ bound) :
    (monthDay month lengths day).1 < month + lengths.length ∧
      (monthDay month lengths day).2 ≤ bound := by
  induction lengths generalizing month day with
  | nil => exact absurd hday (Nat.not_lt_zero _)
  | cons length rest ih =>
      rw [List.sum_cons] at hday
      rw [monthDay, List.length_cons]
      split
      next hlt =>
        have hlength := hlengths length List.mem_cons_self
        exact ⟨by omega, by omega⟩
      next hge =>
        have hrest := @ih (month + 1) (day - length) (by omega)
          fun other hother => hlengths other (List.mem_cons_of_mem _ hother)
        exact ⟨by omega, hrest.2⟩

/-- Later days of a year are later in the months. -/
theorem monthDay_lt {month first second : Nat} {lengths : List Nat} (hlt : first < second) :
    (monthDay month lengths first).1 < (monthDay month lengths second).1 ∨
      (monthDay month lengths first).1 = (monthDay month lengths second).1 ∧
        (monthDay month lengths first).2 < (monthDay month lengths second).2 := by
  induction lengths generalizing month first second with
  | nil => exact Or.inr ⟨rfl, Nat.succ_lt_succ hlt⟩
  | cons length rest ih =>
      rw [monthDay, monthDay]
      by_cases hsecond : second < length
      · rw [if_pos hsecond, if_pos (Nat.lt_trans hlt hsecond)]
        exact Or.inr ⟨rfl, Nat.succ_lt_succ hlt⟩
      · rw [if_neg hsecond]
        by_cases hfirst : first < length
        · rw [if_pos hfirst]
          exact Or.inl (le_monthDay _ _ _)
        · rw [if_neg hfirst]
          exact ih (by omega)

/-- The date of a day, counted from the first day of the first year. -/
def dateText (day : Nat) : List Char :=
  let years := elapsedYears day
  let date := monthDay 1 (monthLengths (isLeap (years + 1))) (day - daysBefore years)
  digits 4 (years + 1) ++ '-' :: (digits 2 date.1 ++ '-' :: digits 2 date.2)

@[simp] theorem length_dateText (day : Nat) : (dateText day).length = 10 := by
  simp [dateText]

theorem date_bounds (day : Nat) :
    (monthDay 1 (monthLengths (isLeap (elapsedYears day + 1)))
        (day - daysBefore (elapsedYears day))).1 < 100 ∧
      (monthDay 1 (monthLengths (isLeap (elapsedYears day + 1)))
        (day - daysBefore (elapsedYears day))).2 < 100 := by
  obtain ⟨hfirst, hlast⟩ := elapsedYears_spec day
  rw [daysBefore_succ] at hlast
  have hday : day - daysBefore (elapsedYears day) <
      (monthLengths (isLeap (elapsedYears day + 1))).sum := by
    rw [sum_monthLengths]
    omega
  have hlengths : ∀ length ∈ monthLengths (isLeap (elapsedYears day + 1)), length ≤ 31 := by
    cases isLeap (elapsedYears day + 1) <;> decide
  obtain ⟨hmonth, hdate⟩ := @monthDay_bounds 1 _ 31 _ hday hlengths
  have hlength : (monthLengths (isLeap (elapsedYears day + 1))).length = 12 := rfl
  omega

theorem dateText_lt {first second : Nat} (hlt : first < second)
    (hbound : second < daysBefore 9999) : dateText first < dateText second := by
  have hyears := elapsedYears_mono (Nat.le_of_lt hlt)
  have hlast : elapsedYears second < 9999 := by
    by_contra hge
    have hspec := (elapsedYears_spec second).1
    have hmono := daysBefore_mono (Nat.not_lt.mp hge)
    omega
  unfold dateText
  dsimp only
  rw [field_lt_iff (by omega) (by omega)]
  rcases Nat.lt_or_eq_of_le hyears with hyear | hyear
  · exact Or.inl (by omega)
  · refine Or.inr ⟨by omega, ?_⟩
    have hfirst := date_bounds first
    have hsecond := date_bounds second
    have hspec := (elapsedYears_spec first).1
    rw [← hyear] at hsecond ⊢
    have hday : first - daysBefore (elapsedYears first) <
        second - daysBefore (elapsedYears first) := by omega
    have hlater := @monthDay_lt 1 _ _ (monthLengths (isLeap (elapsedYears first + 1))) hday
    rw [List.cons_lt_cons_self, field_lt_iff hfirst.1 hsecond.1]
    refine hlater.imp_right fun hday => ⟨hday.1, ?_⟩
    rw [List.cons_lt_cons_self, digits_lt_iff hfirst.2 hsecond.2]
    exact hday.2

end Dates

end Foundation
