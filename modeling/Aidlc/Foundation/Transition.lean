import Mathlib.Logic.Relation

/-! # Systems with labelled steps

A label carries every choice its step makes, so a list of labels determines a
run. Invariants, frame relations, and simulations are established for one step
and lifted to complete runs here.
-/

namespace Foundation

universe u v w

/-- A transition system whose steps are partial functions of their label. -/
structure System (σ : Type u) (ℓ : Type v) where
  step : σ → ℓ → Option σ

namespace System

variable {σ : Type u} {ℓ : Type v} (system : System σ ℓ)

/-- Execute the labels from left to right; a disabled step ends the run. -/
def run : σ → List ℓ → Option σ
  | state, [] => some state
  | state, label :: rest => (system.step state label).bind fun next => run next rest

@[simp] theorem run_nil (state : σ) : system.run state [] = some state := rfl

theorem run_cons_eq_some {state last : σ} {label : ℓ} {rest : List ℓ} :
    system.run state (label :: rest) = some last ↔
      ∃ next, system.step state label = some next ∧ system.run next rest = some last := by
  simp only [run, Option.bind_eq_some_iff]

theorem run_append_eq_some {state last : σ} {first second : List ℓ} :
    system.run state (first ++ second) = some last ↔
      ∃ middle, system.run state first = some middle ∧
        system.run middle second = some last := by
  induction first generalizing state with
  | nil => simp
  | cons label rest ih =>
      simp only [List.cons_append, run_cons_eq_some, ih]
      constructor
      · rintro ⟨next, hstep, middle, hfirst, hsecond⟩
        exact ⟨middle, ⟨next, hstep, hfirst⟩, hsecond⟩
      · rintro ⟨middle, ⟨next, hstep, hfirst⟩, hsecond⟩
        exact ⟨next, hstep, middle, hfirst, hsecond⟩

/-- An invariant preserved by every step whose label is allowed holds at the
end of every run made of allowed labels. -/
theorem run_invariant_of (invariant : σ → Prop) (allowed : ℓ → Prop)
    (hstep : ∀ state label next, allowed label → invariant state →
      system.step state label = some next → invariant next)
    {labels : List ℓ} {state last : σ} (hallowed : ∀ label ∈ labels, allowed label)
    (hstate : invariant state) (hrun : system.run state labels = some last) :
    invariant last := by
  induction labels generalizing state with
  | nil =>
      rw [run_nil, Option.some.injEq] at hrun
      exact hrun ▸ hstate
  | cons label rest ih =>
      obtain ⟨next, hnext, hrest⟩ := (system.run_cons_eq_some).mp hrun
      have hlabel := hallowed label List.mem_cons_self
      exact ih (fun other hmem => hallowed other (List.mem_cons_of_mem _ hmem))
        (hstep state label next hlabel hstate hnext) hrest

theorem run_invariant (invariant : σ → Prop)
    (hstep : ∀ state label next, invariant state →
      system.step state label = some next → invariant next)
    {labels : List ℓ} {state last : σ}
    (hstate : invariant state) (hrun : system.run state labels = some last) :
    invariant last :=
  system.run_invariant_of invariant (fun _ => True)
    (fun state label next _ => hstep state label next) (fun _ _ => trivial) hstate hrun

/-- Every step of a run is taken from a state that meets the condition. -/
def along (condition : σ → ℓ → Bool) : σ → List ℓ → Bool
  | _, [] => true
  | state, label :: rest =>
    condition state label && match system.step state label with
      | some next => along condition next rest
      | none => true

/-- An invariant preserved by every step that meets the condition holds at the
end of every run all of whose steps meet it. -/
theorem run_invariant_along (invariant : σ → Prop) (condition : σ → ℓ → Bool)
    (hstep : ∀ state label next, condition state label = true → invariant state →
      system.step state label = some next → invariant next)
    {labels : List ℓ} {state last : σ} (halong : system.along condition state labels = true)
    (hstate : invariant state) (hrun : system.run state labels = some last) :
    invariant last := by
  induction labels generalizing state with
  | nil =>
      rw [run_nil, Option.some.injEq] at hrun
      exact hrun ▸ hstate
  | cons label rest ih =>
      obtain ⟨next, hnext, hrest⟩ := (system.run_cons_eq_some).mp hrun
      simp only [along, hnext, Bool.and_eq_true] at halong
      obtain ⟨hcondition, halong⟩ := halong
      exact ih halong (hstep state label next hcondition hstate hnext) hrest

theorem along_true (state : σ) (labels : List ℓ) :
    system.along (fun _ _ => true) state labels = true := by
  induction labels generalizing state with
  | nil => rfl
  | cons label rest ih =>
      simp only [along, Bool.true_and]
      split
      · exact ih _
      · rfl

/-- How often an event happens in the steps of a run. -/
def occurrences (event : σ → ℓ → Bool) : σ → List ℓ → Nat
  | _, [] => 0
  | state, label :: rest =>
    (event state label).toNat + match system.step state label with
      | some next => occurrences event next rest
      | none => 0

/-- An event that needs the system armed, and disarms it, happens at most once
where no step arms the system again. -/
theorem occurrences_le_one (event : σ → ℓ → Bool) (invariant armed : σ → Prop)
    (allowed : ℓ → Prop)
    (hstep : ∀ state label next, invariant state →
      system.step state label = some next → invariant next)
    (hevent : ∀ state label next, invariant state → event state label = true →
      system.step state label = some next → armed state ∧ ¬armed next)
    (hquiet : ∀ state label next, allowed label → invariant state →
      system.step state label = some next → armed next → armed state)
    {labels : List ℓ} {state last : σ} (hallowed : ∀ label ∈ labels, allowed label)
    (hstate : invariant state) (hrun : system.run state labels = some last) :
    system.occurrences event state labels ≤ 1 ∧
      (¬armed state → system.occurrences event state labels = 0) := by
  induction labels generalizing state with
  | nil => exact ⟨Nat.zero_le _, fun _ => rfl⟩
  | cons label rest ih =>
      obtain ⟨next, hnext, hrest⟩ := (system.run_cons_eq_some).mp hrun
      obtain ⟨hone, hnone⟩ := ih
        (fun other hmem => hallowed other (List.mem_cons_of_mem _ hmem))
        (hstep state label next hstate hnext) hrest
      simp only [occurrences, hnext]
      cases hhappens : event state label with
      | true =>
          obtain ⟨harmed, hdisarmed⟩ := hevent state label next hstate hhappens hnext
          have hnever := hnone hdisarmed
          simp only [Bool.toNat_true, hnever]
          exact ⟨by omega, fun hnot => absurd harmed hnot⟩
      | false =>
          simp only [Bool.toNat_false, Nat.zero_add]
          refine ⟨hone, fun hnot => hnone fun hagain => hnot ?_⟩
          exact hquiet state label next (hallowed label List.mem_cons_self) hstate hnext hagain

/-- A reflexive and transitive relation respected by every allowed step relates
the two ends of every run made of allowed labels. -/
theorem run_relation_of (relation : σ → σ → Prop) (allowed : ℓ → Prop)
    (hrefl : ∀ state, relation state state)
    (htrans : ∀ first second third, relation first second → relation second third →
      relation first third)
    (hstep : ∀ state label next, allowed label →
      system.step state label = some next → relation state next)
    {labels : List ℓ} {state last : σ} (hallowed : ∀ label ∈ labels, allowed label)
    (hrun : system.run state labels = some last) : relation state last :=
  system.run_invariant_of (relation state) allowed
    (fun middle label next hlabel hmiddle hnext =>
      htrans _ _ _ hmiddle (hstep middle label next hlabel hnext))
    hallowed (hrefl state) hrun

/-- A property of the labels executed so far and the state they led to. -/
theorem run_history (holds : List ℓ → σ → Prop)
    (hstep : ∀ past state label next, holds past state →
      system.step state label = some next → holds (past ++ [label]) next)
    {past labels : List ℓ} {state last : σ} (hstate : holds past state)
    (hrun : system.run state labels = some last) : holds (past ++ labels) last := by
  induction labels generalizing past state with
  | nil =>
      rw [run_nil, Option.some.injEq] at hrun
      subst hrun
      rw [List.append_nil]
      exact hstate
  | cons label rest ih =>
      obtain ⟨next, hnext, hrest⟩ := (system.run_cons_eq_some).mp hrun
      rw [← List.singleton_append, ← List.append_assoc]
      exact ih (hstep past state label next hstate hnext) hrest

/-- The labels of a run that are visible where they are executed. -/
def purge (visible : σ → ℓ → Bool) : σ → List ℓ → List ℓ
  | _, [] => []
  | state, label :: rest =>
    match system.step state label with
    | some next =>
      if visible state label then label :: purge visible next rest else purge visible next rest
    | none => []

/-- Unwinding: where visible steps keep two states related, and a hidden step of
the first state alone does as well, the visible part of a run is a run. -/
theorem run_purge (visible : σ → ℓ → Bool) (related : σ → σ → Prop) (condition : σ → ℓ → Bool)
    (hvisible : ∀ state label next view, condition state label = true → related state view →
      visible state label = true → system.step state label = some next →
      ∃ following, system.step view label = some following ∧ related next following)
    (hhidden : ∀ state label next view, condition state label = true → related state view →
      visible state label = false → system.step state label = some next → related next view)
    {labels : List ℓ} {state last view : σ} (halong : system.along condition state labels = true)
    (hrelated : related state view) (hrun : system.run state labels = some last) :
    ∃ final, system.run view (system.purge visible state labels) = some final ∧
      related last final := by
  induction labels generalizing state view with
  | nil =>
      rw [run_nil, Option.some.injEq] at hrun
      exact ⟨view, rfl, hrun ▸ hrelated⟩
  | cons label rest ih =>
      obtain ⟨next, hnext, hrest⟩ := (system.run_cons_eq_some).mp hrun
      simp only [along, hnext, Bool.and_eq_true] at halong
      obtain ⟨hcondition, halong⟩ := halong
      simp only [purge, hnext]
      cases hsees : visible state label with
      | true =>
          obtain ⟨following, hfollowing, hkept⟩ :=
            hvisible state label next view hcondition hrelated hsees hnext
          obtain ⟨final, hfinal, hlast⟩ := ih halong hkept hrest
          refine ⟨final, ?_, hlast⟩
          rw [if_pos rfl, run_cons_eq_some]
          exact ⟨following, hfollowing, hfinal⟩
      | false =>
          rw [if_neg (by decide)]
          exact ih halong (hhidden state label next view hcondition hrelated hsees hnext) hrest

/-- A forward simulation: every allowed step is matched by a finite number of
abstract steps, so every run made of allowed labels is. -/
theorem run_simulates {τ : Type w} (abstractStep : τ → τ → Prop) (related : σ → τ → Prop)
    (allowed : ℓ → Prop)
    (hstep : ∀ state label next image, allowed label → related state image →
      system.step state label = some next →
      ∃ final, Relation.ReflTransGen abstractStep image final ∧ related next final)
    {labels : List ℓ} {state last : σ} {image : τ}
    (hallowed : ∀ label ∈ labels, allowed label)
    (hrelated : related state image) (hrun : system.run state labels = some last) :
    ∃ final, Relation.ReflTransGen abstractStep image final ∧ related last final := by
  refine system.run_invariant_of
    (fun current => ∃ final,
      Relation.ReflTransGen abstractStep image final ∧ related current final)
    allowed ?_ hallowed ⟨image, .refl, hrelated⟩ hrun
  rintro current label next hlabel ⟨middle, hmiddle, hcurrent⟩ hnext
  obtain ⟨final, hfinal, hrelatedNext⟩ := hstep current label next middle hlabel hcurrent hnext
  exact ⟨final, hmiddle.trans hfinal, hrelatedNext⟩

end System

end Foundation
