import Aidlc.Foundation.Effects

/-! # Operations that may fail

A computation on a state whose single operations may fail: each either takes
effect, fails without effect, or fails after its effect. The faults are a list
that the operations consume, so every pattern of failures is a run.
-/

namespace Foundation

inductive Fault where
  | none | before | after
  deriving DecidableEq

/-- A state together with the faults still to come. -/
abbrev Faulty (ε σ α : Type) : Type := EStateM ε (σ × List Fault) α

variable {ε σ α β : Type}

/-- One operation with the given effect. -/
def attempt (error : ε) (effect : σ → σ) : Faulty ε σ Unit
  | (state, []) => .ok () (effect state, [])
  | (state, .none :: rest) => .ok () (effect state, rest)
  | (state, .before :: rest) => .error error (state, rest)
  | (state, .after :: rest) => .error error (effect state, rest)

/-- Look at the state. -/
def observe (view : σ → α) : Faulty ε σ α := fun (state, faults) => .ok (view state) (state, faults)

/-- Go on whether the computation returned or raised. -/
def tolerate (computation : Faulty ε σ Unit) : Faulty ε σ Unit := fun state =>
  .ok () (finalState (computation state))

/-- The computation keeps the property of the state, also where it raises. -/
def Keeps (property : σ → Prop) (computation : Faulty ε σ α) : Prop :=
  ∀ state faults, property state → property (finalState (computation (state, faults))).1

namespace Keeps

variable {property : σ → Prop}

theorem pure (value : α) : Keeps property (Pure.pure value : Faulty ε σ α) :=
  fun _ _ hstate => hstate

theorem throw (error : ε) : Keeps property (MonadExcept.throw error : Faulty ε σ α) :=
  fun _ _ hstate => hstate

theorem observe (view : σ → α) : Keeps property (observe view : Faulty ε σ α) :=
  fun _ _ hstate => hstate

/-- The next computation only runs where the first returned, and may use what it
returned. -/
theorem bind {first : Faulty ε σ α} {rest : α → Faulty ε σ β} (hfirst : Keeps property first)
    (hrest : ∀ value, Keeps property (rest value)) : Keeps property (first >>= rest) := by
  intro state faults hstate
  have hkept := hfirst state faults hstate
  cases hresult : first (state, faults) with
  | ok value next =>
      rw [hresult] at hkept
      rw [bind_of_ok hresult]
      exact hrest value next.1 next.2 hkept
  | error error next =>
      rw [hresult] at hkept
      rw [bind_of_error hresult]
      exact hkept

/-- A computation that looks at the state first. -/
theorem observing {view : σ → α} {rest : α → Faulty ε σ β}
    (hrest : ∀ state faults, property state →
      property (finalState (rest (view state) (state, faults))).1) :
    Keeps property (Foundation.observe view >>= rest) :=
  fun state faults hstate => hrest state faults hstate

theorem attempt (error : ε) {effect : σ → σ}
    (heffect : ∀ state, property state → property (effect state)) :
    Keeps property (attempt error effect) := by
  intro state faults hstate
  cases faults with
  | nil => exact heffect state hstate
  | cons fault rest =>
      cases fault with
      | none | after => exact heffect state hstate
      | before => exact hstate

theorem tolerate {computation : Faulty ε σ Unit} (hkeeps : Keeps property computation) :
    Keeps property (tolerate computation) := hkeeps

theorem forM {items : List β} {body : β → Faulty ε σ Unit}
    (hbody : ∀ item, Keeps property (body item)) : Keeps property (items.forM body) := by
  induction items with
  | nil => exact pure _
  | cons item rest ih =>
      change Keeps property (body item >>= fun _ => rest.forM body)
      exact (hbody item).bind fun _ => ih

end Keeps

end Foundation
