import Mathlib.Data.List.Infix

/-! # Pieces of a text replaced by a marker

A scan goes over a text once and replaces what it finds by a marker. A pattern that
cannot overlap the marker is in the result only where it was in the text, and it is
not in the result at all if the scan finds every occurrence of it.
-/

namespace Foundation

variable {α : Type}

/-- The result is the source with some pieces replaced. -/
inductive Replaces (marker : List α) : List α → List α → Prop
  | nil : Replaces marker [] []
  | keep (item : α) {source result : List α} :
      Replaces marker source result → Replaces marker (item :: source) (item :: result)
  | put (piece : List α) {source result : List α} :
      Replaces marker source result → Replaces marker (piece ++ source) (marker ++ result)

/-- One pass over a text. What is found at a place depends on the item before it and on
what follows; what was found is passed over. -/
def substitute (found : Option α → List α → Nat) (marker : List α) :
    Nat → Option α → List α → List α
  | _, _, [] => []
  | skip + 1, _, item :: rest => substitute found marker skip (some item) rest
  | 0, before, item :: rest =>
    match found before (item :: rest) with
    | 0 => item :: substitute found marker 0 (some item) rest
    | count + 1 => marker ++ substitute found marker count (some item) rest

theorem replaces_substitute (found : Option α → List α → Nat) (marker : List α) (skip : Nat)
    (before : Option α) (text : List α) :
    Replaces marker (text.drop skip) (substitute found marker skip before text) := by
  induction text generalizing skip before with
  | nil =>
      rw [List.drop_nil, substitute]
      exact .nil
  | cons item rest ih =>
      cases skip with
      | succ skip => exact ih skip (some item)
      | zero =>
          rw [List.drop_zero, substitute]
          split
          next => exact .keep item (ih 0 (some item))
          next count _ =>
            have hput := Replaces.put (item :: rest.take count) (ih count (some item))
            rwa [List.cons_append, List.take_append_drop] at hput

section Overlap

variable [BEq α] [LawfulBEq α]

/-- An occurrence of the second may begin inside one of the first. -/
def meets (first second : List α) : Bool :=
  first.tails.any fun tail => !tail.isEmpty && (tail.isPrefixOf second || second.isPrefixOf tail)

/-- In some text, an occurrence of the one and an occurrence of the other share a place. -/
def overlaps (first second : List α) : Bool := meets first second || meets second first

variable {pattern marker source result tail : List α}

theorem apart_of_not_meets {first second : List α} (hmeets : meets first second = false)
    (htail : tail <:+ first) (hnonempty : tail ≠ []) : ¬ tail <+: second ∧ ¬ second <+: tail := by
  simp only [meets, List.any_eq_false, List.mem_tails] at hmeets
  simpa [hnonempty] using hmeets tail htail

/-- What a tail of the pattern is at the beginning of, it was at the beginning of. -/
theorem prefix_of_replaces (hreplaces : Replaces marker source result)
    (hmeets : meets pattern marker = false) (htail : tail <:+ pattern) (hstart : tail <+: result) :
    tail <+: source := by
  induction hreplaces generalizing tail with
  | nil => exact hstart
  | keep item _ ih =>
      cases tail with
      | nil => exact List.nil_prefix
      | cons first rest =>
          obtain ⟨rfl, hrest⟩ := List.cons_prefix_cons.mp hstart
          exact List.cons_prefix_cons.mpr ⟨rfl, ih ((List.suffix_cons _ _).trans htail) hrest⟩
  | put piece _ ih =>
      by_cases hnonempty : tail = []
      · rw [hnonempty]
        exact List.nil_prefix
      · -- the tail and the marker would begin at one place
        obtain ⟨hbefore, hafter⟩ := apart_of_not_meets hmeets htail hnonempty
        rcases List.prefix_or_prefix_of_prefix hstart (List.prefix_append marker _) with h | h
        · exact absurd h hbefore
        · exact absurd h hafter

/-- Behind a tail of the marker, the pattern is where it is in the rest. -/
theorem infix_of_marker_tail (hmeets : meets marker pattern = false) (htail : tail <:+ marker)
    (hoccurs : pattern <:+: tail ++ result) : pattern <:+: result := by
  induction tail with
  | nil => exact hoccurs
  | cons first rest ih =>
      rcases List.infix_cons_iff.mp hoccurs with hstart | hrest
      · obtain ⟨hbefore, hafter⟩ := apart_of_not_meets hmeets htail (List.cons_ne_nil _ _)
        rcases List.prefix_or_prefix_of_prefix hstart (List.prefix_append (first :: rest) result)
          with h | h
        · exact absurd h hafter
        · exact absurd h hbefore
      · exact ih ((List.suffix_cons _ _).trans htail) hrest

/-- A pattern that cannot overlap the marker is in the result only if it was in the source. -/
theorem infix_of_replaces (hreplaces : Replaces marker source result)
    (hoverlaps : overlaps pattern marker = false) (hoccurs : pattern <:+: result) :
    pattern <:+: source := by
  obtain ⟨hpattern, hmarker⟩ := Bool.or_eq_false_iff.mp hoverlaps
  induction hreplaces with
  | nil => exact hoccurs
  | keep item hrest ih =>
      rcases List.infix_cons_iff.mp hoccurs with hstart | hoccurs
      · have hsource := prefix_of_replaces (.keep item hrest) hpattern (List.suffix_refl _) hstart
        exact hsource.isInfix
      · exact (ih hoccurs).trans (List.suffix_cons _ _).isInfix
  | put piece _ ih =>
      have hsource := ih (infix_of_marker_tail hmarker (List.suffix_refl _) hoccurs)
      exact hsource.trans (List.suffix_append _ _).isInfix

/-- A scan that finds every occurrence of a pattern leaves none. -/
theorem not_infix_substitute {found : Option α → List α → Nat} (hnonempty : pattern ≠ [])
    (hoverlaps : overlaps pattern marker = false)
    (hfound : ∀ before text, pattern <+: text → found before text ≠ 0) (skip : Nat)
    (before : Option α) (text : List α) :
    ¬ pattern <:+: substitute found marker skip before text := by
  obtain ⟨hpattern, hmarker⟩ := Bool.or_eq_false_iff.mp hoverlaps
  induction text generalizing skip before with
  | nil =>
      rw [substitute, List.infix_nil]
      exact hnonempty
  | cons item rest ih =>
      cases skip with
      | succ skip => exact ih skip (some item)
      | zero =>
          have hreplaces := replaces_substitute found marker 0 before (item :: rest)
          rw [substitute] at hreplaces ⊢
          split at hreplaces
          next hnone =>
            intro hoccurs
            rcases List.infix_cons_iff.mp hoccurs with hstart | hrest
            · -- it would have been found here
              have hhere := prefix_of_replaces hreplaces hpattern (List.suffix_refl _) hstart
              exact hfound before _ hhere hnone
            · exact ih 0 (some item) hrest
          next count _ =>
            intro hoccurs
            exact ih count (some item)
              (infix_of_marker_tail hmarker (List.suffix_refl _) hoccurs)

end Overlap

end Foundation
