import Aidlc.A2a.Client
import Aidlc.Storage.Events

/-! # An invocation writes for its own run

Whatever statement of an invocation runs, it changes no row of a run and no artifact,
its events are events of the run it was made for, and it goes on for that run with the
same request. Only an interruption of its cancellation leaves something behind that
goes on alone.
-/

namespace Aidlc

open Foundation

namespace Invocation

variable {settings : ClientSettings} {invocation : Invocation} {database next : Database}
  {origin : Invocation} {runId : RunId} {accepted : Bool} {returning abandoned : Prop}

/-- A statement on behalf of one run that changes no row of a run. -/
structure Logs (runId : RunId) (database next : Database) : Prop where
  writes : database.Writes runId next
  runs : next.runs = database.runs

/-- Neither does it touch an artifact. -/
structure Confined (runId : RunId) (database next : Database) : Prop
    extends Logs runId database next where
  artifacts : next.artifacts = database.artifacts

theorem Confined.refl (runId : RunId) (database : Database) : Confined runId database database :=
  ⟨⟨.refl _ _, rfl⟩, rfl⟩

/-- Saving a mapping touches the delegated tasks of its own run. -/
theorem confined_saveDelegatedTask {mapping : DelegatedTask}
    (hsave : written accepted (database.saveDelegatedTask mapping) = .ok next) :
    Confined runId database next := by
  cases accepted with
  | false => cases hsave
  | true =>
      have hsame := Database.sameRuns_saveDelegatedTask hsave
      refine ⟨⟨hsame.writes runId, hsame.runs⟩, ?_⟩
      replace hsave : database.saveDelegatedTask mapping = .ok next := hsave
      unfold Database.saveDelegatedTask at hsave
      split at hsave
      · cases hsave
        rfl
      · split at hsave
        · cases hsave
          rfl
        · cases hsave

/-- An event of a run is confined to it. -/
theorem confined_appendEvent {eventType : String} {payload : List (String × Json)}
    (hevent : written accepted (database.appendEvent runId eventType payload) = .ok next) :
    Confined runId database next := by
  cases accepted with
  | false => cases hevent
  | true =>
      have hwrites := Database.writes_appendEvent hevent
      obtain ⟨-, rfl⟩ := Database.appendEvent_eq_ok.mp hevent
      exact ⟨⟨hwrites, rfl⟩, rfl⟩

/-- What one statement of `_cancel` leaves as it was. -/
theorem confined_cancelStep {delegation : Delegation} {phase : CancelPhase} {event : ClientEvent}
    {turn : CancelTurn} (hstep : cancelStep database delegation phase event = some turn) :
    Confined delegation.mapping.runId database turn.database ∧
      turn.delegation.spec = delegation.spec ∧
      turn.delegation.mapping.runId = delegation.mapping.runId := by
  unfold cancelStep at hstep
  dsimp only at hstep
  split at hstep
  case h_2 =>
    split at hstep <;>
    · cases hstep
      exact ⟨.refl _ _, rfl, rfl⟩
  case h_5 =>
    split at hstep
    next hsave =>
      cases hstep
      exact ⟨confined_saveDelegatedTask hsave, rfl, rfl⟩
    next =>
      cases hstep
      exact ⟨.refl _ _, rfl, rfl⟩
  case h_6 =>
    split at hstep
    next hevent =>
      cases hstep
      exact ⟨confined_appendEvent hevent, rfl, rfl⟩
    next =>
      cases hstep
      exact ⟨.refl _ _, rfl, rfl⟩
  case h_7 =>
    split at hstep
    next hevent =>
      cases hstep
      exact ⟨confined_appendEvent hevent, rfl, rfl⟩
    next =>
      cases hstep
      exact ⟨.refl _ _, rfl, rfl⟩
  case h_11 => cases hstep
  all_goals
    cases hstep
    exact ⟨.refl _ _, rfl, rfl⟩

/-- A statement of an invocation stays with its run, and leaves a cancellation to
itself only where it says so. -/
structure Owns (runId : RunId) (database : Database) (abandoned : Prop) (turn : Turn) : Prop where
  logs : Logs runId database turn.database
  running : ∀ next, turn.progress = .running next → next.mapping.runId = runId
  left : ∀ ending left, turn.progress = .raised ending (some left) → abandoned

/-- The same request goes on. -/
def Pursues (origin invocation : Invocation) : Prop :=
  invocation.spec = origin.spec ∧ invocation.context = origin.context ∧
    invocation.mapping.runId = origin.mapping.runId

theorem Pursues.refl (origin : Invocation) : Pursues origin origin := ⟨rfl, rfl, rfl⟩

/-- Resuming at another point pursues the same request. -/
theorem Pursues.resumeAt (hsame : Pursues origin invocation) (task : AgentTask)
    (resume : Resume) : Pursues origin (invocation.resumeAt task resume) := by
  cases resume <;> exact hsame

/-- What every statement of an invocation leaves as it was; what else it may do is named. -/
structure Proceeds (origin : Invocation) (database : Database) (returning abandoned : Prop)
    (turn : Turn) : Prop where
  confined : Confined origin.mapping.runId database turn.database
  running : ∀ next, turn.progress = .running next → Pursues origin next
  returned : ∀ result, turn.progress = .returned result → returning
  left : ∀ ending left, turn.progress = .raised ending (some left) → abandoned

/-- A turn that goes on with the same request proceeds. -/
theorem proceeds_running {posted : List Packet}
    (hconfined : Confined origin.mapping.runId database next) (hsame : Pursues origin invocation) :
    Proceeds origin database returning abandoned ⟨next, posted, .running invocation⟩ where
  confined := hconfined
  running other hother := by
    cases hother
    exact hsame
  returned result hresult := by cases hresult
  left ending left hleft := by cases hleft

/-- A returned result proceeds where results may be returned. -/
theorem proceeds_returned {posted : List Packet} {result : AgentResult} (hreturning : returning) :
    Proceeds origin database returning abandoned ⟨database, posted, .returned result⟩ where
  confined := .refl _ _
  running other hother := by cases hother
  returned _ _ := hreturning
  left ending left hleft := by cases hleft

theorem proceeds_raised {posted : List Packet} {ending : Ending}
    (hconfined : Confined origin.mapping.runId database next) :
    Proceeds origin database returning abandoned ⟨next, posted, .raised ending none⟩ where
  confined := hconfined
  running other hother := by cases hother
  returned result hresult := by cases hresult
  left ending left hleft := by cases hleft

/-- Starting to cancel the remote task keeps to the request. -/
theorem proceeds_startCancel (hsame : Pursues origin invocation) (ending : Ending) :
    Proceeds origin database returning abandoned (invocation.startCancel database ending) :=
  proceeds_running (.refl _ _) hsame

/-- Escalating an error keeps to the request. -/
theorem proceeds_escalate (hsame : Pursues origin invocation) (error : PyError) :
    Proceeds origin database returning abandoned (invocation.escalate database error) := by
  unfold escalate
  split
  next => exact proceeds_startCancel hsame _
  next =>
    split
    next => exact proceeds_startCancel hsame _
    next => exact proceeds_running (.refl _ _) hsame

/-- A failed attempt is retried or escalated, and keeps to the request. -/
theorem proceeds_fail (hsame : Pursues origin invocation) (error : PyError) (transient : Bool) :
    Proceeds origin database returning abandoned
      (invocation.fail settings database error transient) := by
  unfold fail
  split
  next => exact proceeds_escalate hsame error
  next => exact proceeds_running (.refl _ _) hsame

/-- Updating the mapping writes its own row. -/
theorem proceeds_update (hsame : Pursues origin invocation) (task : AgentTask)
    (resume : Resume) :
    Proceeds origin database returning abandoned
      (invocation.update settings database task resume accepted) := by
  unfold update
  dsimp only
  split
  next => exact proceeds_fail hsame _ _
  next =>
    split
    next => exact proceeds_fail hsame _ _
    next =>
      split
      next => exact proceeds_fail (by exact hsame) _ _
      next hsave =>
        split
        next =>
          exact proceeds_running (confined_saveDelegatedTask hsave)
            (Pursues.resumeAt (by exact hsame) _ _)
        next => exact proceeds_running (confined_saveDelegatedTask hsave) hsame

/-- Examining a reply decides between going on, failing and returning. -/
theorem proceeds_examine (hsame : Pursues origin invocation) (hreturning : returning)
    (task : AgentTask) :
    Proceeds origin database returning abandoned (invocation.examine settings database task) := by
  unfold examine
  split
  next =>
    split
    next => exact proceeds_fail hsame _ _
    next =>
      split
      next => exact proceeds_fail hsame _ _
      next => exact proceeds_running (.refl _ _) hsame
  next =>
    split
    next =>
      split
      next => exact proceeds_fail hsame _ _
      next => exact proceeds_returned hreturning
    next => exact proceeds_running (.refl _ _) hsame

/-- One step of the client's own code keeps to the request. -/
theorem proceeds_advance (hsame : Pursues origin invocation) (hreturning : returning)
    {turn : Turn}
    (hadvance : invocation.advance settings database accepted = some turn) :
    Proceeds origin database returning abandoned turn := by
  unfold advance emit at hadvance
  rw [hsame.2.2] at hadvance
  cases hpoint : invocation.point with
  | attempting =>
      simp only [hpoint] at hadvance
      split at hadvance
      next =>
        cases hadvance
        exact proceeds_escalate (by exact hsame) _
      next hsave =>
        cases hadvance
        exact proceeds_running (confined_saveDelegatedTask hsave) hsame
  | discovered | noting =>
      simp only [hpoint] at hadvance
      split at hadvance
      next =>
        cases hadvance
        exact proceeds_fail hsame _ _
      next hevent =>
        cases hadvance
        exact proceeds_running (confined_appendEvent hevent) hsame
  | sending =>
      simp only [hpoint] at hadvance
      split at hadvance
      · cases hadvance
        exact proceeds_running (.refl _ _) hsame
      · cases hadvance
        exact proceeds_running (.refl _ _) hsame
  | updating task resume =>
      simp only [hpoint] at hadvance
      cases hadvance
      exact proceeds_update hsame task resume
  | announcing task resume =>
      simp only [hpoint] at hadvance
      split at hadvance
      next =>
        cases hadvance
        exact proceeds_fail hsame _ _
      next hevent =>
        cases hadvance
        exact proceeds_running (confined_appendEvent hevent) (hsame.resumeAt _ _)
  | examining task =>
      simp only [hpoint] at hadvance
      cases hadvance
      exact proceeds_examine hsame hreturning task
  | retrying error =>
      simp only [hpoint] at hadvance
      split at hadvance
      next =>
        cases hadvance
        exact proceeds_escalate hsame _
      next hevent =>
        cases hadvance
        exact proceeds_running (confined_appendEvent hevent) hsame
  | canceling phase ending =>
      simp only [hpoint] at hadvance
      cases phase with
      | done =>
          cases ending with
          | interrupted =>
              cases hadvance
              exact proceeds_raised (.refl _ _)
          | failed error =>
              cases hadvance
              exact proceeds_running (.refl _ _) hsame
      | broken =>
          cases hadvance
          exact proceeds_raised (.refl _ _)
      | recovering | canceling | fetching | saving | announcing | failing => cases hadvance
  | marking error =>
      simp only [hpoint] at hadvance
      split at hadvance
      next =>
        split at hadvance
        next =>
          cases hadvance
          exact proceeds_raised (.refl _ _)
        next hsave =>
          cases hadvance
          exact proceeds_running (confined_saveDelegatedTask hsave) hsame
      next =>
        cases hadvance
        exact proceeds_running (.refl _ _) hsame
  | reporting error =>
      simp only [hpoint] at hadvance
      split at hadvance
      next =>
        cases hadvance
        exact proceeds_raised (.refl _ _)
      next hevent =>
        cases hadvance
        exact proceeds_raised (confined_appendEvent hevent)
  | discovering | streaming | fetching | asking | continuing | sleeping | backoff =>
      simp only [hpoint] at hadvance
      cases hadvance

/-- A point of an invocation whose cancellation has begun. -/
def canceling : Point → Bool
  | .canceling .. => true
  | _ => false

/-- Every event an invocation takes keeps to the request. -/
theorem proceeds_step {event : ClientEvent} {turn : Turn}
    (hstep : invocation.step settings database event = some turn) :
    Proceeds invocation database (∃ accepted, event = .advance accepted)
      (event = .interrupted ∧ canceling invocation.point = true) turn := by
  have hsame := Pursues.refl invocation
  unfold step at hstep
  dsimp only at hstep
  split at hstep
  case h_13 =>
    split at hstep
    next hcancel =>
      cases hstep
      have hkept := confined_cancelStep hcancel
      exact proceeds_running hkept.1 ⟨hkept.2.1, rfl, hkept.2.2⟩
    next =>
      split at hstep
      next => exact proceeds_advance hsame ⟨_, rfl⟩ hstep
      next => cases hstep
  case h_16 => exact proceeds_advance hsame ⟨_, rfl⟩ hstep
  case h_2 =>
    cases hstep
    exact proceeds_fail (by exact hsame) _ _
  case h_4 | h_5 =>
    split at hstep
    next =>
      cases hstep
      exact proceeds_fail hsame _ _
    next =>
      cases hstep
      exact proceeds_running (.refl _ _) hsame
  case h_7 =>
    split at hstep
    next =>
      cases hstep
      exact proceeds_fail hsame _ _
    next =>
      cases hstep
      exact proceeds_running (.refl _ _) hsame
  case h_12 phase ending hpoint =>
    cases hstep
    refine ⟨.refl _ _, fun other hother => ?_, fun result hresult => ?_, fun _ _ _ => ⟨rfl, ?_⟩⟩
    · cases hother
    · cases hresult
    · rw [hpoint]
      rfl
  case h_14 =>
    split at hstep
    next =>
      split at hstep
      next =>
        cases hstep
        exact proceeds_escalate hsame _
      next =>
        cases hstep
        exact proceeds_fail hsame _ _
    next => cases hstep
  case h_15 =>
    split at hstep
    next =>
      cases hstep
      exact proceeds_startCancel hsame _
    next => cases hstep
  case h_17 => cases hstep
  all_goals
    cases hstep
    exact proceeds_running (.refl _ _) hsame

/-- The rows an invocation writes belong to its own run. -/
theorem owns_step (howner : invocation.mapping.runId = runId) {event : ClientEvent} {turn : Turn}
    (hstep : invocation.step settings database event = some turn) :
    Owns runId database (event = .interrupted ∧ canceling invocation.point = true) turn := by
  have hproceeds := proceeds_step hstep
  subst howner
  exact ⟨hproceeds.confined.toLogs, fun next hnext => (hproceeds.running next hnext).2.2,
    hproceeds.left⟩

end Invocation

end Aidlc
