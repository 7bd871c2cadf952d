import Aidlc.Foundation.Calendar

/-! # Timestamps and their texts

A timestamp has seconds and nanoseconds. Its text has no fraction, or one of three,
six or nine digits, whichever is the first that is exact. Up to the seconds the order
of the texts is the order of the times; the letter that ends a text comes after every
digit, so the earlier of two times has the later text exactly when it is the other one
cut to a coarser unit.
-/

namespace Foundation

/-! ## The time of the day -/

section Clock

variable {first second : Nat}

/-- `HH:MM:SS` of a second of the day. -/
def clockText (second : Nat) : List Char :=
  digits 2 (second / 3600) ++
    ':' :: (digits 2 (second / 60 % 60) ++ ':' :: digits 2 (second % 60))

@[simp] theorem length_clockText (second : Nat) : (clockText second).length = 8 := by
  simp [clockText]

theorem clockText_lt (hlt : first < second) (hsecond : second < 86400) :
    clockText first < clockText second := by
  unfold clockText
  rw [field_lt_iff (by omega) (by omega), List.cons_lt_cons_self,
    field_lt_iff (by omega) (by omega), List.cons_lt_cons_self,
    digits_lt_iff (by omega) (by omega)]
  omega

end Clock

/-! ## Fractions of a second -/

section Fractions

variable {earlier later : Nat}

/-- The fraction of a timestamp's text. -/
def fraction (nanos : Nat) : List Char :=
  if nanos % 1000000000 = 0 then []
  else if nanos % 1000000 = 0 then '.' :: digits 3 (nanos / 1000000)
  else if nanos % 1000 = 0 then '.' :: digits 6 (nanos / 1000)
  else '.' :: digits 9 nanos

/-- The groups of three digits of a fraction, without the last ones that are zero. -/
def groups : Nat → Nat → List Char
  | 0, _ => ['Z']
  | count + 1, value =>
    if value = 0 then ['Z']
    else digits 3 (value / 1000 ^ count) ++ groups count (value % 1000 ^ count)

theorem groups_zero (count : Nat) : groups count 0 = ['Z'] := by
  cases count <;> rfl

theorem fraction_eq_groups {nanos : Nat} (hnanos : nanos < 1000000000) :
    fraction nanos ++ ['Z'] = if nanos = 0 then ['Z'] else '.' :: groups 3 nanos := by
  unfold fraction
  by_cases hzero : nanos = 0
  · subst hzero
    rfl
  · rw [if_neg hzero, if_neg (show ¬nanos % 1000000000 = 0 by omega), groups, if_neg hzero]
    split
    next hmillis => rw [show 1000 ^ 2 = 1000000 from rfl, hmillis, groups_zero, List.cons_append]
    next hmillis =>
      have hsecond : digits 3 (nanos % 1000 ^ 2 / 1000 ^ 1) = digits 3 (nanos / 1000) := by
        rw [← digits_mod 3 (nanos / 1000)]
        congr 1
        omega
      have hthird : digits 3 (nanos % 1000 ^ 2 % 1000 ^ 1) = digits 3 nanos := by
        rw [← digits_mod 3 nanos]
        congr 1
        omega
      rw [groups, if_neg (show ¬nanos % 1000 ^ 2 = 0 by omega), hsecond]
      split
      next hmicros =>
        have hdigits : digits 6 (nanos / 1000) =
            digits 3 (nanos / 1000000) ++ digits 3 (nanos / 1000) := by
          rw [digits_add 3 3, Nat.div_div_eq_div_mul, show 1000 * 10 ^ 3 = 1000000 from rfl]
        rw [hdigits, show nanos % 1000 ^ 2 % 1000 ^ 1 = 0 by omega, groups_zero, List.cons_append,
          List.append_assoc, show 1000 ^ 2 = 1000000 from rfl]
      next hmicros =>
        have hdigits : digits 9 nanos =
            digits 3 (nanos / 1000000) ++ (digits 3 (nanos / 1000) ++ digits 3 nanos) := by
          rw [digits_add 3 6, digits_add 3 3]
          rfl
        rw [hdigits, groups, if_neg (show ¬nanos % 1000 ^ 2 % 1000 ^ 1 = 0 by omega), Nat.pow_zero,
          Nat.div_one, hthird, groups, List.cons_append, List.append_assoc, List.append_assoc,
          show 1000 ^ 2 = 1000000 from rfl]

theorem digit_lt_end {value : Nat} {rest : List Char} :
    digits 3 value ++ rest < ['Z'] := by
  have hall : ∀ digit : Fin 10, digit.val.digitChar < 'Z' := by decide
  have hdigit := hall ⟨value / 10 / 10 % 10, Nat.mod_lt _ (by omega)⟩
  simp only [digits, List.nil_append, List.cons_append]
  exact List.cons_lt_cons_iff.mpr (Or.inl hdigit)

/-- A number cut to a unit, in a coarser unit and the rest. -/
theorem cut_eq {value dropped count : Nat} (hle : dropped ≤ count) :
    value / 1000 ^ dropped * 1000 ^ dropped = value / 1000 ^ count * 1000 ^ count +
      value % 1000 ^ count / 1000 ^ dropped * 1000 ^ dropped := by
  have hunit : 0 < 1000 ^ dropped := Nat.pow_pos (by omega)
  have hpow : 1000 ^ count = 1000 ^ (count - dropped) * 1000 ^ dropped := by
    rw [← Nat.pow_add, Nat.sub_add_cancel hle]
  have hvalue : value = value / 1000 ^ count * 1000 ^ (count - dropped) * 1000 ^ dropped +
      value % 1000 ^ count := by
    rw [Nat.mul_assoc, ← hpow, Nat.div_add_mod']
  have hquotient : value / 1000 ^ dropped = value / 1000 ^ count * 1000 ^ (count - dropped) +
      value % 1000 ^ count / 1000 ^ dropped :=
    calc value / 1000 ^ dropped
        = (value / 1000 ^ count * 1000 ^ (count - dropped) * 1000 ^ dropped +
            value % 1000 ^ count) / 1000 ^ dropped := congrArg (· / 1000 ^ dropped) hvalue
      _ = _ := by rw [Nat.add_comm, Nat.add_mul_div_right _ _ hunit, Nat.add_comm]
  rw [hquotient, Nat.add_mul, Nat.mul_assoc, ← hpow]

/-- Of two fractions the smaller one has the later text exactly when it is the other
one without its last groups of digits. -/
theorem groups_lt {count : Nat} (hlt : earlier < later) (hlater : later < 1000 ^ count) :
    ((∃ dropped ≤ count, later / 1000 ^ dropped * 1000 ^ dropped = earlier) →
        groups count later < groups count earlier) ∧
      ((¬∃ dropped ≤ count, later / 1000 ^ dropped * 1000 ^ dropped = earlier) →
        groups count earlier < groups count later) := by
  -- The induction is on the groups that are left to print.
  induction count generalizing earlier later with
  | zero => omega
  | succ count ih =>
      rw [groups, groups, if_neg (show ¬later = 0 by omega)]
      by_cases hzero : earlier = 0
      · rw [if_pos hzero]
        refine ⟨fun _ => digit_lt_end, fun hnone => absurd ?_ hnone⟩
        exact ⟨count + 1, Nat.le_refl _, by rw [Nat.div_eq_of_lt hlater, hzero, Nat.zero_mul]⟩
      · have hunit : 0 < 1000 ^ count := Nat.pow_pos (by omega)
        have hfirst : later / 1000 ^ count < 10 ^ 3 := by
          rw [Nat.div_lt_iff_lt_mul hunit, show 10 ^ 3 = 1000 from rfl, ← Nat.pow_succ']
          exact hlater
        have hmono : earlier / 1000 ^ count ≤ later / 1000 ^ count :=
          Nat.div_le_div_right (Nat.le_of_lt hlt)
        have hearlier := Nat.lt_of_le_of_lt hmono hfirst
        have hwhole := Nat.div_add_mod' earlier (1000 ^ count)
        have hwhole' := Nat.div_add_mod' later (1000 ^ count)
        rw [if_neg hzero, field_lt_iff hfirst hearlier, field_lt_iff hearlier hfirst]
        -- The first groups decide unless they are the same, and then the rest does.
        rcases Nat.lt_or_eq_of_le hmono with hless | hsame
        · refine ⟨fun hcut => absurd hcut ?_, fun _ => Or.inl hless⟩
          rintro ⟨dropped, hdropped, hcut⟩
          rcases Nat.lt_or_eq_of_le hdropped with hcount | rfl
          · -- a number keeps its first group when later ones are dropped
            have hrest : later % 1000 ^ count / 1000 ^ dropped * 1000 ^ dropped < 1000 ^ count :=
              Nat.lt_of_le_of_lt (Nat.div_mul_le_self _ _) (Nat.mod_lt _ hunit)
            rw [cut_eq (Nat.le_of_lt_succ hcount)] at hcut
            rw [← hcut, Nat.mul_comm, Nat.mul_add_div hunit, Nat.div_eq_of_lt hrest] at hless
            exact Nat.lt_irrefl _ hless
          · rw [Nat.div_eq_of_lt hlater] at hcut
            omega
        · rw [hsame] at hwhole ⊢
          obtain ⟨hdrop, hkeep⟩ := @ih (earlier % 1000 ^ count) (later % 1000 ^ count)
            (by omega) (Nat.mod_lt _ hunit)
          refine ⟨fun hcut => Or.inr ⟨rfl, hdrop ?_⟩, fun hnone => Or.inr ⟨rfl, hkeep ?_⟩⟩
          · obtain ⟨dropped, hdropped, hcut⟩ := hcut
            rcases Nat.lt_or_eq_of_le hdropped with hcount | rfl
            · rw [cut_eq (Nat.le_of_lt_succ hcount)] at hcut
              exact ⟨dropped, Nat.le_of_lt_succ hcount, by omega⟩
            · rw [Nat.div_eq_of_lt hlater] at hcut
              omega
          · rintro ⟨dropped, hdropped, hcut⟩
            refine hnone ⟨dropped, Nat.le_succ_of_le hdropped, ?_⟩
            rw [cut_eq hdropped]
            omega

end Fractions

/-! ## Timestamps -/

/-- A valid `google.protobuf.Timestamp`: the seconds since 1970, from the year 1 to the
year 9999, and the nanoseconds that follow them. -/
@[ext] structure Timestamp where
  seconds : Int
  nanos : Nat
  seconds_range : -62135596800 ≤ seconds ∧ seconds < 253402300800
  nanos_lt : nanos < 1000000000
  deriving DecidableEq

namespace Timestamp

/-- The nanoseconds since 1970. -/
def instant (time : Timestamp) : Int := time.seconds * 1000000000 + time.nanos

/-- The seconds since the year 1 began. -/
def elapsed (time : Timestamp) : Nat := (time.seconds + 62135596800).toNat

def toJsonChars (time : Timestamp) : List Char :=
  dateText (time.elapsed / 86400) ++ 'T' :: (clockText (time.elapsed % 86400) ++
    (fraction time.nanos ++ ['Z']))

/-- `Timestamp.ToJsonString`. -/
def toJsonString (time : Timestamp) : String := String.ofList time.toJsonChars

/-- One time is the other, later one cut to milliseconds less: to microseconds,
milliseconds or seconds. -/
def CutFrom (earlier later : Timestamp) : Prop :=
  earlier.seconds = later.seconds ∧ earlier.nanos < later.nanos ∧
    ∃ unit ∈ [1000, 1000000, 1000000000], later.nanos / unit * unit = earlier.nanos

instance (earlier later : Timestamp) : Decidable (earlier.CutFrom later) :=
  inferInstanceAs (Decidable (_ ∧ _ ∧ ∃ unit ∈ [1000, 1000000, 1000000000],
    later.nanos / unit * unit = earlier.nanos))

variable {first second : Timestamp}

theorem instant_lt_iff : first.instant < second.instant ↔
    first.seconds < second.seconds ∨
      first.seconds = second.seconds ∧ first.nanos < second.nanos := by
  have hfirst := first.nanos_lt
  have hsecond := second.nanos_lt
  unfold instant
  omega

theorem instant_inj (heq : first.instant = second.instant) : first = second := by
  have hfirst := first.nanos_lt
  have hsecond := second.nanos_lt
  unfold instant at heq
  ext
  · omega
  · omega

theorem CutFrom.instant_lt (hcut : first.CutFrom second) : first.instant < second.instant :=
  instant_lt_iff.mpr (Or.inr ⟨hcut.1, hcut.2.1⟩)

theorem toJsonChars_lt_of_seconds (hlt : first.seconds < second.seconds) :
    first.toJsonChars < second.toJsonChars := by
  have hfirst := first.seconds_range
  have hsecond := second.seconds_range
  have helapsed : first.elapsed < second.elapsed := by
    unfold elapsed
    omega
  have hbound : second.elapsed / 86400 < daysBefore 9999 := by
    rw [show daysBefore 9999 = 3652059 from rfl]
    unfold elapsed
    omega
  unfold toJsonChars
  rw [append_lt_append_iff (by rw [length_dateText, length_dateText]), List.cons_lt_cons_self,
    append_lt_append_iff (by rw [length_clockText, length_clockText])]
  have hdays : first.elapsed / 86400 ≤ second.elapsed / 86400 := by omega
  rcases Nat.lt_or_eq_of_le hdays with hday | hday
  · exact Or.inl (dateText_lt hday hbound)
  · exact Or.inr ⟨by rw [hday], Or.inl (clockText_lt (by omega) (by omega))⟩

theorem cutFrom_iff (hseconds : first.seconds = second.seconds)
    (hlt : first.nanos < second.nanos) : first.CutFrom second ↔
      ∃ dropped ≤ 3, second.nanos / 1000 ^ dropped * 1000 ^ dropped = first.nanos := by
  constructor
  · rintro ⟨_, _, unit, hunit, hcut⟩
    simp only [List.mem_cons, List.not_mem_nil, or_false] at hunit
    obtain rfl | rfl | rfl := hunit
    · exact ⟨1, by omega, hcut⟩
    · exact ⟨2, by omega, hcut⟩
    · exact ⟨3, by omega, hcut⟩
  · rintro ⟨dropped, hdropped, hcut⟩
    refine ⟨hseconds, hlt, 1000 ^ dropped, ?_, hcut⟩
    obtain rfl | rfl | rfl | rfl : dropped = 0 ∨ dropped = 1 ∨ dropped = 2 ∨ dropped = 3 := by
      omega
    · omega
    all_goals simp

/-- Within one second the texts are in order unless one time is the other one cut. -/
theorem toJsonChars_of_nanos (hseconds : first.seconds = second.seconds)
    (hlt : first.nanos < second.nanos) :
    (first.CutFrom second → second.toJsonChars < first.toJsonChars) ∧
      (¬first.CutFrom second → first.toJsonChars < second.toJsonChars) := by
  have helapsed : first.elapsed = second.elapsed := by rw [elapsed, hseconds, elapsed]
  rw [cutFrom_iff hseconds hlt]
  unfold toJsonChars
  simp only [helapsed, fraction_eq_groups first.nanos_lt, fraction_eq_groups second.nanos_lt,
    append_left_lt_iff, List.cons_lt_cons_self, if_neg (show ¬second.nanos = 0 by omega)]
  by_cases hzero : first.nanos = 0
  · -- a full second ends with a letter where the other text has its point
    rw [if_pos hzero]
    have hpoint : '.' :: groups 3 second.nanos < ['Z'] :=
      List.cons_lt_cons_iff.mpr (Or.inl (by decide))
    refine ⟨fun _ => hpoint, fun hnone => absurd ⟨3, Nat.le_refl _, ?_⟩ hnone⟩
    rw [show 1000 ^ 3 = 1000000000 from rfl, Nat.div_eq_of_lt second.nanos_lt, hzero, Nat.zero_mul]
  · rw [if_neg hzero, List.cons_lt_cons_self, List.cons_lt_cons_self]
    exact groups_lt hlt second.nanos_lt

/-- Texts are ordered like their times, unless one time is the other one cut. -/
theorem toJsonString_lt_iff : first.toJsonString < second.toJsonString ↔
    first.instant < second.instant ∧ ¬first.CutFrom second ∨ second.CutFrom first := by
  have hasymm {one other : List Char} (hless : one < other) : ¬other < one :=
    fun hmore => List.lt_asymm hless hmore
  have hnotcut {one other : Timestamp} (hseconds : one.seconds ≠ other.seconds) :
      ¬one.CutFrom other := fun hcut => hseconds hcut.1
  rw [String.lt_iff, toJsonString, toJsonString, String.toList_ofList, String.toList_ofList,
    instant_lt_iff]
  rcases Int.lt_trichotomy first.seconds second.seconds with hless | hsame | hmore
  · have hcut : ¬first.CutFrom second := hnotcut (by omega)
    exact iff_of_true (toJsonChars_lt_of_seconds hless) (Or.inl ⟨Or.inl hless, hcut⟩)
  · rcases Nat.lt_trichotomy first.nanos second.nanos with hnanos | hnanos | hnanos
    · have hnot : ¬second.CutFrom first := fun hcut => Nat.lt_asymm hnanos hcut.2.1
      obtain ⟨hcut, hkept⟩ := toJsonChars_of_nanos hsame hnanos
      by_cases hcase : first.CutFrom second
      · exact iff_of_false (hasymm (hcut hcase)) fun hor => hor.elim (fun h => h.2 hcase) hnot
      · exact iff_of_true (hkept hcase) (Or.inl ⟨Or.inr ⟨hsame, hnanos⟩, hcase⟩)
    · obtain rfl : first = second := Timestamp.ext hsame hnanos
      have hnot : ¬first.CutFrom first := fun hcut => Nat.lt_irrefl _ hcut.2.1
      refine iff_of_false (List.lt_irrefl _) fun hor => hor.elim (fun h => ?_) hnot
      omega
    · obtain ⟨hcut, hkept⟩ := toJsonChars_of_nanos hsame.symm hnanos
      by_cases hcase : second.CutFrom first
      · exact iff_of_true (hcut hcase) (Or.inr hcase)
      · refine iff_of_false (hasymm (hkept hcase)) fun hor => hor.elim (fun h => ?_) hcase
        omega
  · have hcut : ¬second.CutFrom first := hnotcut (by omega)
    refine iff_of_false (hasymm (toJsonChars_lt_of_seconds hmore)) fun hor =>
      hor.elim (fun h => ?_) hcut
    omega

theorem toJsonString_inj (heq : first.toJsonString = second.toJsonString) : first = second := by
  have hfirst : ¬first.toJsonString < second.toJsonString := by
    rw [heq]
    exact String.lt_irrefl _
  have hsecond : ¬second.toJsonString < first.toJsonString := by
    rw [heq]
    exact String.lt_irrefl _
  rw [toJsonString_lt_iff, not_or] at hfirst hsecond
  apply instant_inj
  by_contra hne
  rcases Int.lt_or_gt_of_ne hne with hless | hmore
  · exact hsecond.2 (not_not.mp fun hcut => hfirst.1 ⟨hless, hcut⟩)
  · exact hfirst.2 (not_not.mp fun hcut => hsecond.1 ⟨hmore, hcut⟩)

end Timestamp

end Foundation
