import Mathlib.Data.List.Basic

/-! # Totals by key

A total is gathered from a list with an associative and commutative operation. It is
the total of the totals of the items with each key, where an item whose key is not
listed contributes nothing.
-/

namespace Foundation

section Gather

variable {α κ M : Type} (op : M → M → M) (unit : M)

def gather (values : List M) : M := values.foldr op unit

@[simp] theorem gather_nil : gather op unit [] = unit := rfl

@[simp] theorem gather_cons (value : M) (rest : List M) :
    gather op unit (value :: rest) = op value (gather op unit rest) := rfl

section Update

variable [Std.Associative op] [Std.Commutative op] [DecidableEq κ]

/-- A value added at one key is added to the total. -/
theorem gather_update {keys : List κ} (hnodup : keys.Nodup) {chosen : κ} (hmem : chosen ∈ keys)
    (value : M) (share : κ → M) :
    gather op unit (keys.map fun key => if chosen = key then op value (share key) else share key) =
      op value (gather op unit (keys.map share)) := by
  induction keys with
  | nil => cases hmem
  | cons key rest ih =>
      obtain ⟨hkey, hrest⟩ := List.nodup_cons.mp hnodup
      by_cases hchosen : chosen = key
      · subst hchosen
        have hothers : (rest.map fun key =>
            if chosen = key then op value (share key) else share key) = rest.map share := by
          apply List.map_congr_left
          intro other hother
          apply if_neg
          rintro rfl
          exact hkey hother
        simp [hothers, Std.Associative.assoc]
      · have hmem' : chosen ∈ rest := (List.mem_cons.mp hmem).resolve_left hchosen
        simp only [List.map_cons, gather_cons, if_neg hchosen, ih hrest hmem']
        -- the value moves past the share of the first key
        ac_rfl

end Update

variable [Std.LawfulIdentity op unit]

theorem gather_append [Std.Associative op] (first second : List M) :
    gather op unit (first ++ second) = op (gather op unit first) (gather op unit second) := by
  induction first with
  | nil => simp [Std.LawfulLeftIdentity.left_id]
  | cons value rest ih => simp [ih, Std.Associative.assoc]

/-- What contributes nothing may be left out. -/
theorem gather_filter (items : List α) (test : α → Bool) (value : α → M) :
    gather op unit ((items.filter test).map value) =
      gather op unit (items.map fun item => if test item then value item else unit) := by
  induction items with
  | nil => rfl
  | cons item rest ih =>
      by_cases htest : test item = true
      · simp [htest, ih]
      · simp [htest, ih, Std.LawfulLeftIdentity.left_id]

theorem gather_unit (keys : List κ) : gather op unit (keys.map fun _ => unit) = unit := by
  induction keys with
  | nil => rfl
  | cons key rest ih =>
      rw [List.map_cons, gather_cons, ih]
      exact Std.LawfulLeftIdentity.left_id unit

/-- Totals of two values are taken together or apart. -/
theorem gather_op [Std.Associative op] [Std.Commutative op] (items : List α) (first second : α → M) :
    gather op unit (items.map fun item => op (first item) (second item)) =
      op (gather op unit (items.map first)) (gather op unit (items.map second)) := by
  induction items with
  | nil => simp [Std.LawfulLeftIdentity.left_id]
  | cons item rest ih =>
      simp only [List.map_cons, gather_cons, ih]
      ac_rfl

/-- The total is gathered from the totals of the keys. -/
theorem gather_partition [Std.Associative op] [Std.Commutative op] [DecidableEq κ]
    {items : List α} {keys : List κ} (hnodup : keys.Nodup) (key : α → κ)
    (value : α → M) (hkeys : ∀ item ∈ items, key item ∈ keys ∨ value item = unit) :
    gather op unit (items.map value) =
      gather op unit (keys.map fun chosen =>
        gather op unit ((items.filter fun item => key item = chosen).map value)) := by
  induction items with
  | nil => exact (gather_unit op unit keys).symm
  | cons item rest ih =>
      have hrest := ih fun other hother => hkeys other (List.mem_cons_of_mem _ hother)
      have hshares : (keys.map fun chosen => gather op unit
            (((item :: rest).filter fun item => key item = chosen).map value)) =
          keys.map fun chosen => if key item = chosen then
            op (value item) (gather op unit ((rest.filter fun item => key item = chosen).map value))
          else gather op unit ((rest.filter fun item => key item = chosen).map value) := by
        apply List.map_congr_left
        intro chosen _
        by_cases hchosen : key item = chosen <;> simp [hchosen]
      rw [hshares, List.map_cons, gather_cons, hrest]
      by_cases hmem : key item ∈ keys
      · rw [gather_update op unit hnodup hmem]
      · have hnothing := (hkeys item List.mem_cons_self).resolve_left hmem
        have hidentity : ∀ total, op unit total = total := Std.LawfulLeftIdentity.left_id
        rw [hnothing, hidentity]
        congr 1
        apply List.map_congr_left
        intro chosen hchosen
        exact (if_neg fun heq => hmem (by rw [heq]; exact hchosen)).symm

end Gather

end Foundation
