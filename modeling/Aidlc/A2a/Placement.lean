import Aidlc.A2a.Client

/-! # The place of an invocation

Whatever an agent answers, the row of an invocation stays with the run, the stage and
the agent it was made for, and what is shown to a person or returned is of the kind its
agent produces.
-/

namespace Aidlc

open Foundation

namespace Invocation

variable {settings : ClientSettings} {invocation origin : Invocation} {database next : Database}

/-- The same request at a later point of its program. -/
structure Placed (origin invocation : Invocation) : Prop where
  spec : invocation.spec = origin.spec
  context : invocation.context = origin.context
  runId : invocation.mapping.runId = origin.mapping.runId
  stage : invocation.mapping.stage = origin.mapping.stage
  agent : invocation.mapping.agent = origin.mapping.agent
  draft : ∀ task draft, invocation.point = .asking task draft →
    draft.artifactKind = origin.spec.artifactKind

theorem placed_initial (baseUrl : String) (spec : AgentSpec) (context : AgentContext Json) :
    Placed (initial baseUrl spec context) (initial baseUrl spec context) :=
  ⟨rfl, rfl, rfl, rfl, rfl, fun _ _ hpoint => by cases hpoint⟩

/-- A point at which nobody is asked. -/
theorem Placed.goto (hplaced : Placed origin invocation) {point : Point}
    (hpoint : ∀ task draft, point ≠ .asking task draft) : Placed origin (invocation.goto point) :=
  ⟨hplaced.spec, hplaced.context, hplaced.runId, hplaced.stage, hplaced.agent,
    fun task draft hasking => absurd hasking (hpoint task draft)⟩

theorem Placed.resumeAt (hplaced : Placed origin invocation) (task : AgentTask)
    (resume : Resume) : Placed origin (invocation.resumeAt task resume) := by
  cases resume with
  | stream | poll | continuation => exact hplaced.goto fun _ _ hpoint => by cases hpoint

/-- A decoded result has the kind of its agent. -/
theorem kind_of_decodeResult {spec : AgentSpec} {task : AgentTask} {result : AgentResult}
    (hdecode : decodeResult spec task = .ok result) : result.artifactKind = spec.artifactKind := by
  unfold decodeResult at hdecode
  split at hdecode
  next => cases hdecode
  next =>
    split at hdecode
    next => cases hdecode
    next hkind =>
      cases hdecode
      exact not_not.mp hkind

theorem kind_of_taskResult {spec : AgentSpec} {task : AgentTask} {result : AgentResult}
    (hresult : taskResult spec task = .ok result) : result.artifactKind = spec.artifactKind := by
  unfold taskResult at hresult
  split at hresult
  next => cases hresult
  next =>
    split at hresult
    next => cases hresult
    next => exact kind_of_decodeResult hresult

/-- How a statement of an invocation leaves it. -/
structure Places (origin : Invocation) (turn : Turn) : Prop where
  running : ∀ invocation, turn.progress = .running invocation → Placed origin invocation
  returned : ∀ result, turn.progress = .returned result →
    result.artifactKind = origin.spec.artifactKind

theorem places_running {posted : List Packet} (hplaced : Placed origin invocation) :
    Places origin ⟨database, posted, .running invocation⟩ where
  running other hother := by
    cases hother
    exact hplaced
  returned result hresult := by cases hresult

theorem places_raised {posted : List Packet} {ending : Ending}
    {left : Option (Delegation × CancelPhase)} :
    Places origin ⟨database, posted, .raised ending left⟩ where
  running other hother := by cases hother
  returned result hresult := by cases hresult

theorem places_startCancel (hplaced : Placed origin invocation) (ending : Ending) :
    Places origin (invocation.startCancel database ending) :=
  places_running ⟨hplaced.spec, hplaced.context, hplaced.runId, hplaced.stage, hplaced.agent,
    fun _ _ hpoint => by cases hpoint⟩

theorem places_escalate (hplaced : Placed origin invocation) (error : PyError) :
    Places origin (invocation.escalate database error) := by
  unfold escalate
  split
  next => exact places_startCancel hplaced _
  next =>
    split
    next => exact places_startCancel hplaced _
    next => exact places_running (hplaced.goto fun _ _ hpoint => by cases hpoint)

/-- Failing keeps the placement. -/
theorem places_fail (hplaced : Placed origin invocation) (error : PyError) (transient : Bool) :
    Places origin (invocation.fail settings database error transient) := by
  unfold fail
  split
  next => exact places_escalate hplaced error
  next => exact places_running (hplaced.goto fun _ _ hpoint => by cases hpoint)

/-- The row of an invocation changes its task and its state only. -/
theorem Placed.withMapping (hplaced : Placed origin invocation) {mapping : DelegatedTask}
    (hrun : mapping.runId = invocation.mapping.runId)
    (hstage : mapping.stage = invocation.mapping.stage)
    (hagent : mapping.agent = invocation.mapping.agent) :
    Placed origin (invocation.withMapping mapping) :=
  ⟨hplaced.spec, hplaced.context, hrun.trans hplaced.runId, hstage.trans hplaced.stage,
    hagent.trans hplaced.agent, hplaced.draft⟩

theorem places_update (hplaced : Placed origin invocation) (task : AgentTask) (resume : Resume)
    (accepted : Bool) :
    Places origin (invocation.update settings database task resume accepted) := by
  unfold update
  dsimp only
  split
  next => exact places_fail hplaced _ _
  next =>
    split
    next => exact places_fail hplaced _ _
    next =>
      have hupdated : Placed origin (invocation.withMapping { invocation.mapping with
          taskId := some task.id, state := .reported task.state }) :=
        hplaced.withMapping rfl rfl rfl
      split
      next => exact places_fail hupdated _ _
      next =>
        split
        next => exact places_running (hupdated.resumeAt _ _)
        next => exact places_running (hupdated.goto fun _ _ hpoint => by cases hpoint)

/-- Examining a reply keeps the placement. -/
theorem places_examine (hplaced : Placed origin invocation) (task : AgentTask) :
    Places origin (invocation.examine settings database task) := by
  unfold examine
  split
  next =>
    split
    next => exact places_fail hplaced _ _
    next draft hdecode =>
      split
      next => exact places_fail hplaced _ _
      next =>
        refine places_running ⟨hplaced.spec, hplaced.context, hplaced.runId, hplaced.stage,
          hplaced.agent, fun other shown hpoint => ?_⟩
        cases hpoint
        rw [← hplaced.spec]
        exact kind_of_decodeResult hdecode
  next =>
    split
    next =>
      split
      next => exact places_fail hplaced _ _
      next result hresult =>
        refine ⟨fun other hother => (by cases hother), fun other hother => ?_⟩
        cases hother
        rw [← hplaced.spec]
        exact kind_of_taskResult hresult
    next => exact places_running (hplaced.goto fun _ _ hpoint => by cases hpoint)

/-- One step of the client's own code keeps the placement. -/
theorem places_advance (hplaced : Placed origin invocation) {accepted : Bool} {turn : Turn}
    (hadvance : invocation.advance settings database accepted = some turn) :
    Places origin turn := by
  unfold advance at hadvance
  cases hpoint : invocation.point with
  | attempting =>
      simp only [hpoint] at hadvance
      have hstarted : Placed origin (invocation.withMapping { invocation.mapping with
          attempts := invocation.mapping.attempts + 1 }) := hplaced.withMapping rfl rfl rfl
      split at hadvance
      next =>
        cases hadvance
        exact places_escalate hstarted _
      next =>
        cases hadvance
        refine places_running (hstarted.goto fun _ _ hasking => ?_)
        split at hasking <;> cases hasking
  | discovered | noting | retrying =>
      simp only [hpoint] at hadvance
      split at hadvance
      next =>
        cases hadvance
        first
        | exact places_fail hplaced _ _
        | exact places_escalate hplaced _
      next =>
        cases hadvance
        exact places_running (hplaced.goto fun _ _ hasking => by cases hasking)
  | announcing task resume =>
      simp only [hpoint] at hadvance
      split at hadvance
      next =>
        cases hadvance
        exact places_fail hplaced _ _
      next =>
        cases hadvance
        exact places_running (hplaced.resumeAt _ _)
  | sending =>
      simp only [hpoint] at hadvance
      split at hadvance
      next =>
        cases hadvance
        exact places_running ⟨hplaced.spec, hplaced.context, hplaced.runId, hplaced.stage,
          hplaced.agent, fun _ _ hasking => by cases hasking⟩
      next =>
        cases hadvance
        exact places_running (hplaced.goto fun _ _ hasking => by cases hasking)
  | updating task resume =>
      simp only [hpoint] at hadvance
      cases hadvance
      exact places_update hplaced task resume accepted
  | examining task =>
      simp only [hpoint] at hadvance
      cases hadvance
      exact places_examine hplaced task
  | canceling phase ending =>
      simp only [hpoint] at hadvance
      cases phase with
      | done =>
          cases ending with
          | interrupted =>
              cases hadvance
              exact places_raised
          | failed error =>
              cases hadvance
              exact places_running (hplaced.goto fun _ _ hasking => by cases hasking)
      | broken =>
          cases hadvance
          exact places_raised
      | recovering | canceling | fetching | saving | announcing | failing => cases hadvance
  | marking error =>
      simp only [hpoint] at hadvance
      have hmarked : Placed origin (invocation.withMapping { invocation.mapping with
          state := .reported .failed }) := hplaced.withMapping rfl rfl rfl
      split at hadvance
      next =>
        split at hadvance
        next =>
          cases hadvance
          exact places_raised
        next =>
          cases hadvance
          exact places_running (hmarked.goto fun _ _ hasking => by cases hasking)
      next =>
        cases hadvance
        exact places_running (hplaced.goto fun _ _ hasking => by cases hasking)
  | reporting error =>
      simp only [hpoint] at hadvance
      split at hadvance <;>
      · cases hadvance
        exact places_raised
  | discovering | streaming | fetching | asking | continuing | sleeping | backoff =>
      simp only [hpoint] at hadvance
      cases hadvance

/-- A statement of a cancellation keeps the place of its row. -/
theorem place_of_cancelStep {delegation : Delegation} {phase : CancelPhase} {event : ClientEvent}
    {turn : CancelTurn} (hstep : cancelStep database delegation phase event = some turn) :
    turn.delegation.spec = delegation.spec ∧
      turn.delegation.mapping.runId = delegation.mapping.runId ∧
      turn.delegation.mapping.stage = delegation.mapping.stage ∧
      turn.delegation.mapping.agent = delegation.mapping.agent := by
  unfold cancelStep at hstep
  dsimp only at hstep
  split at hstep
  case h_2 =>
    split at hstep <;>
    · cases hstep
      exact ⟨rfl, rfl, rfl, rfl⟩
  case h_5 | h_6 | h_7 =>
    split at hstep <;>
    · cases hstep
      exact ⟨rfl, rfl, rfl, rfl⟩
  case h_11 => cases hstep
  all_goals
    cases hstep
    exact ⟨rfl, rfl, rfl, rfl⟩

/-- Whatever an invocation is told, it keeps its place. -/
theorem places_step (hplaced : Placed origin invocation) {event : ClientEvent} {turn : Turn}
    (hstep : invocation.step settings database event = some turn) : Places origin turn := by
  unfold step at hstep
  dsimp only at hstep
  split at hstep
  case h_13 =>
    split at hstep
    next cancel hcancel =>
      cases hstep
      obtain ⟨hspec, hrun, hstage, hagent⟩ := place_of_cancelStep hcancel
      exact places_running ⟨hspec.trans hplaced.spec, hplaced.context, hrun.trans hplaced.runId,
        hstage.trans hplaced.stage, hagent.trans hplaced.agent,
        fun _ _ hasking => by cases hasking⟩
    next =>
      split at hstep
      next => exact places_advance hplaced hstep
      next => cases hstep
  case h_16 => exact places_advance hplaced hstep
  case h_1 =>
    cases hstep
    exact places_running ⟨hplaced.spec, hplaced.context, hplaced.runId, hplaced.stage,
      hplaced.agent, fun _ _ hasking => by cases hasking⟩
  case h_2 =>
    cases hstep
    exact places_fail (by exact ⟨hplaced.spec, hplaced.context, hplaced.runId, hplaced.stage,
      hplaced.agent, hplaced.draft⟩) _ _
  case h_4 | h_5 =>
    split at hstep
    next =>
      cases hstep
      exact places_fail hplaced _ _
    next =>
      cases hstep
      exact places_running (hplaced.goto fun _ _ hasking => by cases hasking)
  case h_7 =>
    split at hstep
    next =>
      cases hstep
      exact places_fail hplaced _ _
    next =>
      cases hstep
      exact places_running (hplaced.goto fun _ _ hasking => by cases hasking)
  case h_12 =>
    cases hstep
    exact places_raised
  case h_14 =>
    split at hstep
    next =>
      split at hstep
      next =>
        cases hstep
        exact places_escalate hplaced _
      next =>
        cases hstep
        exact places_fail hplaced _ _
    next => cases hstep
  case h_15 =>
    split at hstep
    next =>
      cases hstep
      exact places_startCancel hplaced _
    next => cases hstep
  case h_17 => cases hstep
  all_goals
    cases hstep
    exact places_running (hplaced.goto fun _ _ hasking => by cases hasking)

end Invocation

end Aidlc
