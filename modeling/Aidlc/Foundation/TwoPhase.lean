import Mathlib.Data.Set.Insert
import Mathlib.Data.List.Nodup
import Mathlib.Logic.Relation

/-! # Two-phase publication

A publisher first writes a record, which takes the record's storage and clears
the storage of everything the record overwrites. Later, in a separate step, it
indexes the record, which removes the index entries the record displaces. Any
number of publishers may interleave their two steps. The rules below say when
the two kinds of removal fit together well enough for storage and index to
agree once every publisher is done.
-/

namespace Foundation.TwoPhase

universe u

variable {ρ : Type u}

/-- Which records lose their storage and which lose their index entry. -/
structure Rules (ρ : Type u) where
  overwrites : ρ → ρ → Prop
  displaces : ρ → ρ → Prop
  displaces_of_overwrites : ∀ {later earlier}, overwrites later earlier → displaces later earlier
  displaces_trans : ∀ {later middle earlier}, overwrites later middle →
    displaces middle earlier → displaces later earlier

/-- `pending` holds the records whose publisher has not tried to index them. -/
@[ext] structure State (ρ : Type u) where
  written : List ρ
  live : Set ρ
  indexed : Set ρ
  pending : Set ρ

def State.empty : State ρ := ⟨[], ∅, ∅, ∅⟩

/-- Storage after `record` was written. -/
def Rules.store (rules : Rules ρ) (record : ρ) (live : Set ρ) : Set ρ :=
  insert record {other | other ∈ live ∧ ¬ rules.overwrites record other}

/-- The index after `record` was indexed. -/
def Rules.enter (rules : Rules ρ) (record : ρ) (indexed : Set ρ) : Set ρ :=
  insert record {other | other ∈ indexed ∧ ¬ rules.displaces record other}

/-- Steps of cooperating publishers. A publisher gives up only when its record
is no longer stored, or when indexing it would have displaced nothing. -/
inductive Step (rules : Rules ρ) : State ρ → State ρ → Prop
  | write {state : State ρ} (record : ρ) (hfresh : record ∉ state.written) :
      Step rules state
        { state with
          written := state.written ++ [record]
          live := rules.store record state.live
          pending := insert record state.pending }
  | index {state : State ρ} (record : ρ) (hpending : record ∈ state.pending)
      (hlive : record ∈ state.live) :
      Step rules state
        { state with
          indexed := rules.enter record state.indexed
          pending := state.pending \ {record} }
  | abandon {state : State ρ} (record : ρ)
      (hharmless : record ∈ state.live → ∀ other ∈ state.indexed, ¬ rules.displaces record other) :
      Step rules state { state with pending := state.pending \ {record} }

/-- Publishers may also fail for a reason of their own after they have written,
and storage may be cleared by others. -/
inductive LossyStep (rules : Rules ρ) : State ρ → State ρ → Prop
  | step {state next : State ρ} (hstep : Step rules state next) : LossyStep rules state next
  | lose {state : State ρ} (record : ρ) :
      LossyStep rules state { state with pending := state.pending \ {record} }
  | evict {state : State ρ} (kept : Set ρ) :
      LossyStep rules state { state with live := state.live ∩ kept }

/-- One record was written before another. -/
def State.Before (state : State ρ) (earlier later : ρ) : Prop :=
  [earlier, later].Sublist state.written

/-- What holds in every state, whatever fails. -/
structure State.Ordered (rules : Rules ρ) (state : State ρ) : Prop where
  nodup : state.written.Nodup
  live_written : ∀ record ∈ state.live, record ∈ state.written
  pending_written : ∀ record ∈ state.pending, record ∈ state.written
  indexed_written : ∀ record ∈ state.indexed, record ∈ state.written
  live_newest : ∀ record ∈ state.live, ∀ other, state.Before record other →
    ¬ rules.overwrites other record
  indexed_ordered : ∀ earlier ∈ state.indexed, ∀ later ∈ state.indexed, earlier ≠ later →
    rules.overwrites earlier later → state.Before earlier later
  indexed_apart : ∀ first ∈ state.indexed, ∀ second ∈ state.indexed, first ≠ second →
    rules.displaces first second → ¬ rules.displaces second first

/-- Every index entry without storage is due to be displaced by a publisher
that has written and not yet tried to index. -/
def State.Covered (rules : Rules ρ) (state : State ρ) : Prop :=
  ∀ record ∈ state.indexed, record ∈ state.live ∨
    ∃ other ∈ state.pending, other ∈ state.live ∧ rules.displaces other record

theorem before_append {state : State ρ} {earlier later record : ρ} {live indexed pending : Set ρ}
    (hbefore : state.Before earlier later) :
    State.Before ⟨state.written ++ [record], live, indexed, pending⟩ earlier later :=
  List.Sublist.trans hbefore (List.sublist_append_left _ _)

/-- A pair newly in order after a write ends with the new record. -/
theorem before_of_append {state : State ρ} {earlier later record : ρ}
    {live indexed pending : Set ρ}
    (hbefore : State.Before ⟨state.written ++ [record], live, indexed, pending⟩ earlier later) :
    state.Before earlier later ∨ earlier ∈ state.written ∧ later = record := by
  obtain ⟨front, back, hsplit, hfront, hback⟩ := List.sublist_append_iff.mp hbefore
  rcases List.sublist_singleton.mp hback with rfl | rfl
  · left
    rw [List.append_nil] at hsplit
    subst hsplit
    exact hfront
  · right
    have hlast : [earlier] ++ [later] = front ++ [record] := hsplit
    obtain ⟨rfl, hrecord⟩ := List.append_inj' hlast rfl
    exact ⟨List.singleton_sublist.mp hfront, List.singleton_inj.mp hrecord⟩

theorem before_total {state : State ρ} {first second : ρ}
    (hfirst : first ∈ state.written) (hsecond : second ∈ state.written) (hne : first ≠ second) :
    state.Before first second ∨ state.Before second first := by
  obtain ⟨front, back, hsplit⟩ := List.append_of_mem hfirst
  rw [hsplit] at hsecond
  rcases List.mem_append.mp hsecond with hmem | hmem
  · right
    unfold State.Before
    rw [hsplit]
    exact (List.singleton_sublist.mpr hmem).append
      (List.singleton_sublist.mpr List.mem_cons_self)
  · left
    unfold State.Before
    rw [hsplit]
    have hback : second ∈ back := (List.mem_cons.mp hmem).resolve_left hne.symm
    exact ((List.singleton_sublist.mpr hback).cons_cons first).trans (List.sublist_append_right _ _)

variable {rules : Rules ρ}

theorem ordered_empty : (State.empty : State ρ).Ordered rules := by
  constructor <;> simp [State.empty]

theorem covered_empty : (State.empty : State ρ).Covered rules := by
  simp [State.empty, State.Covered]

theorem ordered_forget {state : State ρ} (hstate : state.Ordered rules) (record : ρ) :
    State.Ordered rules { state with pending := state.pending \ {record} } where
  nodup := hstate.nodup
  live_written := hstate.live_written
  pending_written := fun other hother => hstate.pending_written other hother.1
  indexed_written := hstate.indexed_written
  live_newest := hstate.live_newest
  indexed_ordered := hstate.indexed_ordered
  indexed_apart := hstate.indexed_apart

theorem ordered_write {state : State ρ} (hstate : state.Ordered rules) {record : ρ}
    (hfresh : record ∉ state.written) :
    State.Ordered rules
      { state with
        written := state.written ++ [record]
        live := rules.store record state.live
        pending := insert record state.pending } where
  nodup := by
    refine List.nodup_append.mpr ⟨hstate.nodup, List.nodup_singleton _, ?_⟩
    intro other hother last hlast heq
    rw [List.mem_singleton] at hlast
    exact hfresh (hlast ▸ heq ▸ hother)
  live_written := by
    rintro other (rfl | ⟨hother, _⟩)
    · exact List.mem_append_right _ List.mem_cons_self
    · exact List.mem_append_left _ (hstate.live_written other hother)
  pending_written := by
    rintro other (rfl | hother)
    · exact List.mem_append_right _ List.mem_cons_self
    · exact List.mem_append_left _ (hstate.pending_written other hother)
  indexed_written := fun other hother =>
    List.mem_append_left _ (hstate.indexed_written other hother)
  live_newest := by
    intro other hother newer hnewer
    rcases before_of_append hnewer with hbefore | ⟨hwritten, rfl⟩
    · rcases hother with rfl | ⟨hlive, _⟩
      · exact absurd (List.Sublist.subset hbefore List.mem_cons_self) hfresh
      · exact hstate.live_newest other hlive newer hbefore
    · rcases hother with rfl | ⟨_, hkept⟩
      · exact absurd hwritten hfresh
      · exact hkept
  indexed_ordered := fun earlier hearlier later hlater hne hoverwrites =>
    before_append (hstate.indexed_ordered earlier hearlier later hlater hne hoverwrites)
  indexed_apart := hstate.indexed_apart

theorem ordered_index {state : State ρ} (hstate : state.Ordered rules) {record : ρ}
    (hlive : record ∈ state.live) :
    State.Ordered rules
      { state with
        indexed := rules.enter record state.indexed
        pending := state.pending \ {record} } where
  nodup := hstate.nodup
  live_written := hstate.live_written
  pending_written := fun other hother => hstate.pending_written other hother.1
  indexed_written := by
    rintro other (rfl | ⟨hother, _⟩)
    · exact hstate.live_written _ hlive
    · exact hstate.indexed_written other hother
  live_newest := hstate.live_newest
  indexed_ordered := by
    rintro earlier (rfl | ⟨hearlier, _⟩) later (rfl | ⟨hlater, hkept⟩) hne hoverwrites
    · exact absurd rfl hne
    · exact absurd (rules.displaces_of_overwrites hoverwrites) hkept
    · -- The new entry is still stored, so nothing overwriting it was written since.
      rcases before_total (hstate.indexed_written _ hearlier)
        (hstate.live_written _ hlive) hne with hbefore | hbefore
      · exact hbefore
      · exact absurd hoverwrites (hstate.live_newest _ hlive _ hbefore)
    · exact hstate.indexed_ordered _ hearlier _ hlater hne hoverwrites
  indexed_apart := by
    rintro first (rfl | ⟨hfirst, hkeptFirst⟩) second (rfl | ⟨hsecond, hkept⟩) hne hdisplaces
    · exact absurd rfl hne
    · exact absurd hdisplaces hkept
    · exact hkeptFirst
    · exact hstate.indexed_apart _ hfirst _ hsecond hne hdisplaces

theorem ordered_evict {state : State ρ} (hstate : state.Ordered rules) (kept : Set ρ) :
    State.Ordered rules { state with live := state.live ∩ kept } where
  nodup := hstate.nodup
  live_written := fun record hrecord => hstate.live_written record hrecord.1
  pending_written := hstate.pending_written
  indexed_written := hstate.indexed_written
  live_newest := fun record hrecord => hstate.live_newest record hrecord.1
  indexed_ordered := hstate.indexed_ordered
  indexed_apart := hstate.indexed_apart

theorem ordered_lossyStep {state next : State ρ} (hstate : state.Ordered rules)
    (hstep : LossyStep rules state next) : next.Ordered rules := by
  cases hstep with
  | lose record => exact ordered_forget hstate record
  | evict kept => exact ordered_evict hstate kept
  | step hstep =>
      cases hstep with
      | write record hfresh => exact ordered_write hstate hfresh
      | index record _ hlive => exact ordered_index hstate hlive
      | abandon record _ => exact ordered_forget hstate record

theorem covered_step {state next : State ρ} (hstate : state.Covered rules)
    (hstep : Step rules state next) : next.Covered rules := by
  cases hstep with
  | write record _ =>
      intro entry hentry
      by_cases hover : rules.overwrites record entry
      · exact Or.inr ⟨record, Or.inl rfl, Or.inl rfl, rules.displaces_of_overwrites hover⟩
      rcases hstate entry hentry with hlive | ⟨other, hpending, hlive, hdisplaces⟩
      · exact Or.inl (Or.inr ⟨hlive, hover⟩)
      · by_cases hother : rules.overwrites record other
        · -- The new record takes over the obligation of the publisher it overwrites.
          exact Or.inr ⟨record, Or.inl rfl, Or.inl rfl, rules.displaces_trans hother hdisplaces⟩
        · exact Or.inr ⟨other, Or.inr hpending, Or.inr ⟨hlive, hother⟩, hdisplaces⟩
  | index record hpending hlive =>
      rintro entry (rfl | ⟨hentry, hkept⟩)
      · exact Or.inl hlive
      rcases hstate entry hentry with hstored | ⟨other, hother, hstored, hdisplaces⟩
      · exact Or.inl hstored
      · refine Or.inr ⟨other, ⟨hother, ?_⟩, hstored, hdisplaces⟩
        rintro rfl
        exact hkept hdisplaces
  | abandon record hharmless =>
      intro entry hentry
      rcases hstate entry hentry with hstored | ⟨other, hother, hstored, hdisplaces⟩
      · exact Or.inl hstored
      · refine Or.inr ⟨other, ⟨hother, ?_⟩, hstored, hdisplaces⟩
        rintro rfl
        exact hharmless hstored entry hentry hdisplaces

/-- Entries of the index never precede what overwrites them, and no two of
them displace each other, whatever publishers fail. -/
theorem ordered_of_reachable {state : State ρ}
    (hreach : Relation.ReflTransGen (LossyStep rules) State.empty state) :
    state.Ordered rules := by
  induction hreach with
  | refl => exact ordered_empty
  | tail _ hstep ih => exact ordered_lossyStep ih hstep

theorem covered_of_reachable {state : State ρ}
    (hreach : Relation.ReflTransGen (Step rules) State.empty state) : state.Covered rules := by
  induction hreach with
  | refl => exact covered_empty
  | tail _ hstep ih => exact covered_step ih hstep

/-- Once every publisher has tried to index, everything indexed is stored. -/
theorem indexed_live_of_quiescent {state : State ρ}
    (hreach : Relation.ReflTransGen (Step rules) State.empty state)
    (hquiet : state.pending = ∅) : state.indexed ⊆ state.live := by
  intro record hrecord
  rcases covered_of_reachable hreach record hrecord with hlive | ⟨other, hother, _⟩
  · exact hlive
  · simp [hquiet] at hother

end Foundation.TwoPhase
