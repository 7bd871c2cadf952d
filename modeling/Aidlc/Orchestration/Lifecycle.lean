import Aidlc.Orchestration.Workflow

/-! # The life of a run

A run is over once its status is terminal, and the event that tells so is the
last of its log. The status and the event are two statements; no program of the
orchestrator pauses between them, and none writes an event afterwards.
-/

namespace Aidlc

open Foundation

/-- `TERMINAL_RUN_STATUSES` -/
def terminalRunStatuses : List RunStatus := [.completed, .failed, .canceled, .blocked]

/-- The event with which a run takes on a terminal status. -/
def finalEvent (status : RunStatus) : String := "run." ++ status.value

/-- What can be seen of a run between two statements. -/
structure RunView where
  status : Option RunStatus
  /-- A workflow of the run is in `_tasks` and not done. -/
  attended : Bool
  /-- That workflow was not asked to stop. -/
  cancelable : Bool
  /-- The type of the last event. -/
  last : Option String
  deriving DecidableEq, Repr

namespace RunView

def update (view : RunView) (status : RunStatus) : RunView :=
  { view with status := view.status.map fun _ => status }

def record (view : RunView) (eventType : String) : RunView := { view with last := some eventType }

/-- Whether a workflow is active, or even one that can be canceled. -/
def active (view : RunView) : Bool → Bool
  | true => view.cancelable
  | false => view.attended

/-- The run exists and is not over. -/
def Open (view : RunView) : Prop := ∃ status, view.status = some status ∧ status ∉ terminalRunStatuses

/-- A run that is over has told so. -/
def Rested (view : RunView) : Prop :=
  ∀ status, view.status = some status → status ∈ terminalRunStatuses →
    view.last = some (finalEvent status)

/-- What holds of a run whenever nobody executes a statement of it. -/
structure Stable (view : RunView) : Prop where
  rested : view.Rested
  active : ∀ cancelable, view.active cancelable = true → view.Open

/-- An open run is at rest. -/
theorem Open.rested {view : RunView} (hopen : view.Open) : view.Rested := by
  intro status hstatus hterminal
  obtain ⟨other, hother, hlive⟩ := hopen
  rw [hstatus, Option.some.injEq] at hother
  exact absurd (hother ▸ hterminal) hlive

/-- An open run is stable, whether or not an execution attends it. -/
theorem Open.stable {view : RunView} (hopen : view.Open) : view.Stable := ⟨hopen.rested, fun _ _ => hopen⟩

/-- The run took on its last status and told so. -/
structure Ended (view : RunView) (outcome : RunStatus) : Prop where
  status : view.status = some outcome
  last : view.last = some (finalEvent outcome)

/-- An ended run is at rest. -/
theorem Ended.rested {view : RunView} {outcome : RunStatus} (hended : view.Ended outcome) :
    view.Rested := by
  intro status hstatus _
  rw [hended.status, Option.some.injEq] at hstatus
  exact hstatus ▸ hended.last

/-- A run that does not exist yet is at rest. -/
theorem rested_of_none {view : RunView} (hnone : view.status = none) : view.Rested := by
  intro status hstatus
  rw [hnone] at hstatus
  cases hstatus

/-- Moving an open run to a live status keeps it open. -/
theorem Open.update {view : RunView} {status : RunStatus} (hopen : view.Open)
    (hlive : status ∉ terminalRunStatuses) : (view.update status).Open := by
  obtain ⟨other, hother, -⟩ := hopen
  exact ⟨status, by simp [RunView.update, hother], hlive⟩

/-- Events leave an open run open. -/
theorem Open.record {view : RunView} {eventType : String} (hopen : view.Open) :
    (view.record eventType).Open := hopen

end RunView

namespace Request

/-- The requests that only the interface of the hub makes. -/
def ofInterface : Request → Bool
  | initializeProject _ | createRun .. | acceptAction _ | activeTask _ | createTask _
  | cancelTask => true
  | _ => false

/-- The statements with which a run comes to its end. -/
def final : Request → Bool
  | updateRun status _ _ => status ∈ terminalRunStatuses
  | appendEvent eventType _ => eventType ∈ terminalRunStatuses.map finalEvent
  | _ => false

/-- What a request presumes of the run it is made for. -/
def Concerns (runId : RunId) (view : RunView) : Request → Prop
  | runAgents job => job.run.runId = runId
  | invoke _ context => context.runId = runId
  | createTask _ => view.Open ∧ view.attended = false
  | _ => True

/-- What a request does to the run it is made for. A statement with which the run
comes to its end does not fail. -/
def Effect (runId : RunId) (view next : RunView) : (request : Request) → request.Answer → Prop
  | getRun, answer =>
      next = view ∧ ∀ found : Option WorkflowRun, answer = .ok found →
        found.map WorkflowRun.status = view.status ∧ ∀ run ∈ found, run.runId = runId
  | updateRun status _ _, answer =>
      (answer = .ok () ∧ next = view.update status) ∨
        (status ∉ terminalRunStatuses ∧ (∃ raised, answer = .error raised) ∧
          (next = view ∨ next = view.update status))
  | appendEvent eventType _, answer =>
      (answer = .ok () ∧ view.status.isSome = true ∧ next = view.record eventType) ∨
        ((eventType ∈ terminalRunStatuses.map finalEvent → view.status = none) ∧
          (∃ raised, answer = .error raised) ∧ (next = view ∨ next = view.record eventType))
  | createRun _ _, answer =>
      (view.status = none ∧ next = { view with status := some .pending }) ∨
        (next = view ∧ ∃ raised, answer = .error raised)
  | acceptAction _, answer =>
      next = view ∧ ∀ interaction : HumanInteraction, answer = .ok (interaction, true) →
        view.status = some .inputRequired
  | activeTask cancelable, answer =>
      next = view ∧ answer = .ok (view.active cancelable)
  | createTask _, answer =>
      answer = .ok () ∧ next = { view with attended := true, cancelable := true }
  | cancelTask, answer => answer = .ok () ∧ next = { view with cancelable := false }
  | _, _ => next = view

end Request

namespace Request

/-- The requests that leave an open run open. -/
def Ordinary (runId : RunId) : Request → Prop
  | updateRun status _ _ => status ∉ terminalRunStatuses
  | runAgents job => job.run.runId = runId
  | invoke _ context => context.runId = runId
  | request => request.ofInterface = false

variable {runId : RunId} {view next : RunView}

theorem Ordinary.ofInterface {request : Request} (hordinary : request.Ordinary runId) :
    request.ofInterface = false := by
  cases request <;> first | rfl | exact hordinary

theorem Ordinary.concerns {request : Request} (hordinary : request.Ordinary runId) :
    request.Concerns runId view := by
  cases request <;> trivial

/-- Ordinary requests keep an open run open, whatever they are answered. -/
theorem Ordinary.open {request : Request} (hordinary : request.Ordinary runId)
    {answer : request.Answer} (heffect : request.Effect runId view next answer)
    (hopen : view.Open) : next.Open := by
  cases request with
  | updateRun status currentStage error =>
      rcases heffect with ⟨-, rfl⟩ | ⟨-, -, rfl | rfl⟩
      · exact hopen.update hordinary
      · exact hopen
      · exact hopen.update hordinary
  | appendEvent eventType payload =>
      rcases heffect with ⟨-, -, rfl⟩ | ⟨-, -, rfl | rfl⟩
      · exact hopen.record
      · exact hopen
      · exact hopen.record
  | getRun => exact heffect.1 ▸ hopen
  | createRun idea now => cases hordinary
  | acceptAction action => cases hordinary
  | activeTask cancelable => cases hordinary
  | createTask retryAttempt => cases hordinary
  | cancelTask => cases hordinary
  | _ =>
      have hsame : next = view := heffect
      exact hsame ▸ hopen

end Request

/-- How the programs for a run share it: who waits presumes that the run is open,
and finds it open again. The interface of the hub never waits. -/
def lifecycle (runId : RunId) (interface : Bool) : Protocol RunView Request Request.Answer where
  requires request view :=
    (request.suspends = true → interface = false ∧ view.Open) ∧
      (request.ofInterface = true → interface = true) ∧ request.Concerns runId view
  drifts request view drifted := if request.suspends then drifted.Open else drifted = view
  answers request view answer next := request.Effect runId view next answer
  guarantees _ _ := True

namespace Workflow

variable {runId : RunId} {ε α β : Type}

/-- The program finds the run open and leaves it open. -/
abbrev Lively (runId : RunId) (program : Program Request Request.Answer ε α) : Prop :=
  program.Keeps (lifecycle runId false) RunView.Open

/-- What a request finds when it is answered. -/
theorem open_of_drift {request : Request} {view drifted : RunView} (hopen : view.Open)
    (hdrift : (lifecycle runId false).drifts request view drifted) : drifted.Open := by
  change (if request.suspends = true then drifted.Open else drifted = view) at hdrift
  split at hdrift
  next => exact hdrift
  next => exact hdrift ▸ hopen

/-- One ordinary request is lively. -/
theorem lively_ask {request : Request} (hordinary : request.Ordinary runId) :
    Lively runId (ask request) := by
  intro view hopen
  refine .ask ⟨fun _ => ⟨rfl, hopen⟩, ?_, hordinary.concerns⟩ ?_
  · intro hinterface
    rw [hordinary.ofInterface] at hinterface
    cases hinterface
  · intro drifted hdrift answer next heffect
    exact ⟨trivial, hordinary.open heffect (open_of_drift hopen hdrift)⟩

theorem lively_fail (type : ErrorType) (message : String) :
    Lively runId (fail type message : Routine α) := .raise _

@[simp] theorem lift_ok (value : α) : lift (.ok value) = (.done value : Routine α) := rfl

theorem lively_lift (computed : Except PyError α) : Lively runId (lift computed) := by
  cases computed with
  | ok value => exact .done value
  | error error => exact .raise _

theorem lively_event (eventType : String) (payload : List (String × Json)) :
    Lively runId (event eventType payload) := lively_ask rfl

theorem lively_updateRun {status : RunStatus} {currentStage : Option StageName}
    {error : Option String} (hlive : status ∉ terminalRunStatuses) :
    Lively runId (ask (.updateRun status currentStage error)) := lively_ask hlive

theorem lively_updateStage (stage : StageName) (status : RunStatus) (error : Option String) :
    Lively runId (ask (.updateStage stage status error)) := lively_ask rfl

theorem lively_stageStarted (stage : StageName) : Lively runId (stageStarted stage) :=
  .bind (lively_ask rfl) fun _ => lively_event _ _

theorem lively_stageCompleted (stage : StageName) : Lively runId (stageCompleted stage) :=
  .bind (lively_ask rfl) fun _ => lively_event _ _

theorem lively_publish (request : WriteRequest) : Lively runId (publish request) :=
  .bind (lively_ask rfl) fun _ => .bind (lively_ask rfl) fun _ => .done _

theorem lively_artifactContext : Lively runId artifactContext :=
  .bind (lively_ask rfl) fun _ => .bind (lively_ask rfl) fun _ => .done _

theorem lively_savedOutputs (run : WorkflowRun) (stage : StageName) (repairAttempt : Nat) :
    Lively runId (savedOutputs run stage repairAttempt) := by
  refine .bind (lively_ask rfl) fun events => .bind (lively_ask rfl) fun artifacts =>
    .bind (lively_ask rfl) fun _ => ?_
  split
  next =>
    refine .bind (lively_ask rfl) fun current => ?_
    split <;> exact .done _
  next => exact .done _

/-! ## Delegation -/

/-- Reconciling a delegated task leaves the run open. -/
theorem lively_reconcileTask (mapping : DelegatedTask) :
    Lively runId (reconcileTask mapping) := by
  unfold reconcileTask
  split
  next => exact .done _
  next =>
    split
    next => exact lively_fail _ _
    next taskId _ =>
      refine .bind (lively_ask rfl) fun valid => ?_
      extract_lets conclude examine
      have hconclude (state : TaskState) : Lively runId (conclude state) := by
        refine .bind (lively_ask rfl) fun _ => .bind (lively_event _ _) fun _ => ?_
        split
        next => exact lively_fail _ _
        next => exact .done _
      have hexamine (checked : Unit) : Lively runId (examine checked) := by
        refine .bind (lively_ask rfl) fun found => ?_
        split
        next => exact hconclude found
        next => exact .bind (lively_ask rfl) fun _ => .bind (lively_ask rfl) hconclude
      split
      next => exact .bind (lively_fail _ _) hexamine
      next => exact hexamine ()

theorem lively_reconcileRun : Lively runId reconcileRun :=
  .bind (lively_ask rfl) fun mappings => .forM lively_reconcileTask mappings

variable {platform : Platform} (tools : HubTools platform) (settings : HubSettings)

/-- Filing a result leaves the run open. -/
theorem lively_recordExecution (agent : String) (result : AgentResult) (phase : StageName)
    (selection : Option Selection) :
    Lively runId (recordExecution settings agent result phase selection) := by
  unfold recordExecution
  refine .bind (lively_ask rfl) fun events => ?_
  split
  next => exact .done _
  next =>
    extract_lets total check record
    have hcheck (checked : Unit) : Lively runId (check checked) := by
      show Lively runId (if _ then _ else _)
      split
      next => exact lively_fail _ _
      next => exact .done _
    have hrecord (announced : List EventRecord) : Lively runId (record announced) := by
      refine .bind (lively_event _ _) fun _ => ?_
      split
      next => exact .bind (lively_fail _ _) hcheck
      next => exact hcheck ()
    split
    next => exact .bind (lively_ask rfl) hrecord
    next => exact hrecord []

/-- Opening a question leaves the run open. -/
theorem lively_openSurface (mapping : DelegatedTask) (draft : AgentResult) (prompt : HumanPrompt)
    (taskId : TaskId) : Lively runId (openSurface tools settings mapping draft prompt taskId) := by
  unfold openSurface
  refine .bind (lively_ask rfl) fun interactions => ?_
  extract_lets clarifications draw
  have hdraw (allowed : Unit) : Lively runId (draw allowed) :=
    .bind (lively_ask rfl) fun _ => .bind (lively_publish _) fun _ => .bind (lively_publish _)
      fun _ => .bind (lively_ask rfl) fun _ => .done _
  split
  next => exact .bind (lively_fail _ _) hdraw
  next => exact hdraw ()

/-- A run that waits for a decision is still open. -/
theorem lively_humanInput (mapping : DelegatedTask) (draft : AgentResult) :
    Lively runId (humanInput tools settings mapping draft) := by
  unfold humanInput
  refine .bind (lively_recordExecution settings _ _ _ _) fun _ => ?_
  split
  next prompt taskId _ _ =>
    refine .bind (lively_ask rfl) fun interactions => ?_
    extract_lets finish request
    have hfinish (answered : HumanInteraction) : Lively runId (finish answered) :=
      .bind (lively_ask rfl) fun _ => .bind (lively_updateRun (by decide)) fun _ =>
        .bind (lively_ask rfl) fun _ => .bind (lively_lift _) fun _ => .done _
    have hrequest (interaction : HumanInteraction) : Lively runId (request interaction) := by
      refine .bind (lively_ask rfl) fun _ => .bind (lively_updateRun (by decide)) fun _ =>
        .bind (lively_event _ _) fun _ => ?_
      split
      next => exact hfinish interaction
      next => exact .bind (lively_ask rfl) hfinish
    split
    next interaction _ => exact hrequest interaction
    next => exact .bind (lively_openSurface tools settings _ _ _ _) hrequest
  next => exact lively_fail _ _

theorem lively_cachedOutput (spec : AgentSpec) (cacheKey : String) (inputIds : List ArtifactId) :
    Lively runId (cachedOutput spec cacheKey inputIds) := by
  refine .bind (lively_ask rfl) fun artifacts => ?_
  split
  next => exact .done _
  next => exact .bind (lively_ask rfl) fun _ => .done _

/-- Delegating to the agent of the same run leaves it open. -/
theorem lively_delegate {context : AgentContext ContextItem} (hcontext : context.runId = runId)
    (job : StageJob) (spec : AgentSpec) : Lively runId (delegate tools settings job spec context) :=
  .bind (lively_event _ _) fun _ => .bind (lively_ask hcontext) fun _ =>
    .bind (lively_recordExecution settings _ _ _ _) fun _ => .bind (lively_publish _) fun _ =>
      .bind (lively_event _ _) fun _ => .bind (lively_event _ _) fun _ => .done _

/-- The context of an agent belongs to the run it was built for. -/
theorem runId_of_buildAgentContext {spec : AgentSpec} {run : RunId} {idea : String}
    {artifacts : List ContextItem} {repairAttempt : Nat} {feedback : Option Json}
    {retryAttempt : Nat} {context : AgentContext ContextItem}
    (hbuild : buildAgentContext spec run idea artifacts repairAttempt feedback retryAttempt =
      .ok context) : context.runId = run := by
  unfold buildAgentContext at hbuild
  obtain ⟨selected, -, hbuild⟩ := except_bind_eq_ok.mp hbuild
  cases hbuild
  rfl

/-- Invoking an agent leaves the run open. -/
theorem lively_invokeAgent {job : StageJob} (hjob : job.run.runId = runId) (spec : AgentSpec) :
    Lively runId (invokeAgent tools settings job spec) := by
  unfold invokeAgent
  split
  next => exact .bind (lively_event _ _) fun _ => .done _
  next =>
    refine .bind (lively_ask rfl) fun _ => ?_
    cases hbuild : buildAgentContext spec job.run.runId job.run.idea job.context.artifacts
        job.repairAttempt job.repairFeedback job.retryAttempt with
    | error error => exact .raise _
    | ok context =>
        have hcontext := (runId_of_buildAgentContext hbuild).trans hjob
        rw [lift_ok, Program.done_bind]
        refine .bind (lively_event _ _) fun _ => ?_
        extract_lets reuse
        have hreuse (cached : Option ArtifactRecord) : Lively runId (reuse cached) := by
          cases cached with
          | some artifact => exact .bind (lively_event _ _) fun _ => .done _
          | none => exact lively_delegate tools settings hcontext job spec
        split
        next => exact .bind (lively_cachedOutput _ _ _) hreuse
        next => exact hreuse none

/-! ## Stages -/

theorem lively_integrate (run : WorkflowRun) (parentIds : List ArtifactId) :
    Lively runId (integrate tools run parentIds) :=
  .bind lively_artifactContext fun _ => .bind (lively_lift _) fun _ => .bind (lively_publish _)
    fun _ => .bind (lively_event _ _) fun _ => .done _

theorem lively_runGates (run : WorkflowRun) (context : AgentContext ContextItem) :
    Lively runId (runGates tools settings run context) :=
  .bind (lively_lift _) fun _ => .bind (lively_publish _) fun _ => .bind lively_artifactContext
    fun _ => .bind (lively_event _ _) fun _ => .bind (lively_event _ _) fun _ => .done _

/-- A stage leaves the run open. -/
theorem lively_runStage {run : WorkflowRun} (hrun : run.runId = runId) (stage : StageName)
    (parentIds : List ArtifactId) (repairAttempt : Nat) (repairFeedback : Option Json)
    (retryAttempt : Nat) (reuseOutputs : Bool) :
    Lively runId (runStage tools settings run stage parentIds repairAttempt repairFeedback
      retryAttempt reuseOutputs) := by
  unfold runStage
  extract_lets start
  have hstart (saved : List (String × ArtifactRecord)) : Lively runId (start saved) := by
    refine .bind (lively_updateRun (by decide)) fun _ => .bind (lively_stageStarted _) fun _ => ?_
    extract_lets perform check
    have hperform (integrated : Unit) : Lively runId (perform integrated) := by
      refine .bind lively_artifactContext fun artifacts => ?_
      extract_lets context gated agents
      have hagents (artifacts : List ContextItem) : Lively runId (agents artifacts) :=
        .bind (lively_ask hrun) fun _ => .bind (lively_stageCompleted _) fun _ => .done _
      split
      next => exact .bind (lively_runGates tools settings _ _) hagents
      next => exact hagents artifacts
    have hcheck (current : List ArtifactRecord) : Lively runId (check current) := by
      show Lively runId (if _ then _ else _)
      split
      next => exact .bind (lively_integrate tools _ _) fun _ => hperform ()
      next => exact hperform ()
    split
    next =>
      split
      next => exact .bind (lively_ask rfl) hcheck
      next => exact hcheck []
    next => exact hperform ()
  split
  next => exact .bind (lively_savedOutputs _ _ _) hstart
  next => exact hstart []

/-- Opening a stage leaves the run open. -/
theorem lively_openStage {run : WorkflowRun} (hrun : run.runId = runId) (attempt : Nat)
    (feedback : Option Json) (retryAttempt : Nat) (parentIds : List ArtifactId)
    (stage : StageName) :
    Lively runId (openStage tools settings run attempt feedback retryAttempt parentIds stage) := by
  unfold openStage
  extract_lets stageAttempt choose
  have hchoose (saved : List (String × ArtifactRecord)) : Lively runId (choose saved) := by
    show Lively runId (if _ then _ else _)
    split
    next => exact .bind (lively_event _ _) fun _ => .done _
    next => exact lively_runStage tools settings hrun _ _ _ _ _ _
  split
  next => exact .bind (lively_savedOutputs _ _ _) hchoose
  next => exact hchoose []

/-- A stage's failure handler leaves the run open, and raises again. -/
theorem lively_during {routine : Routine α} (hroutine : Lively runId routine) (stage : StageName) :
    Lively runId (during stage routine) :=
  .handle hroutine fun _ => .raise _

/-- The loop over stages leaves the run open if each turn does. -/
theorem lively_stageLoop {body : List ArtifactId → StageName → Routine (List ArtifactId)}
    (hbody : ∀ parentIds stage, Lively runId (body parentIds stage)) (stages : List StageName)
    (parentIds : List ArtifactId) : Lively runId (stageLoop body stages parentIds) := by
  induction stages generalizing parentIds with
  | nil => exact .done _
  | cons stage rest ih => exact .bind (lively_during (hbody _ _) _) ih

/-- Judging a repair attempt leaves the run open. -/
theorem lively_judge {run : WorkflowRun} (hrun : run.runId = runId) (attempt : Nat)
    (feedback : Option Json) (retryAttempt : Nat) (parentIds : List ArtifactId) :
    Lively runId (judge tools settings run attempt feedback retryAttempt parentIds) :=
  .bind (lively_runStage tools settings hrun _ _ _ _ _ _) fun _ => .bind lively_artifactContext
    fun _ => .bind (lively_lift _) fun _ => .bind (lively_lift _) fun _ => .bind (lively_lift _)
      fun _ => .bind (lively_lift _) fun _ => .bind (lively_ask rfl) fun _ =>
        .bind (lively_lift _) fun _ => .bind (lively_event _ _) fun _ => .done _

theorem lively_requestRepair (run : WorkflowRun) (attempt : Nat) (judgment : Judgment platform) :
    Lively runId (requestRepair run attempt judgment) :=
  .bind (lively_publish _) fun _ => .bind (lively_event _ _) fun _ => .bind (lively_event _ _)
    fun _ => .done _

/-- The end of an evaluation that may not be repaired. -/
def exhaust (attempt : Nat) : Staged (List ArtifactId) :=
  during .evaluation do
    event "repair.exhausted" [("repair_attempts", .int attempt)]
    fail .runtimeError "Evaluation repair limit exhausted; release withheld"

/-- One round of the evaluation loop: judge, then stop, give up or repair. -/
theorem evaluationLoop_eq (run : WorkflowRun) (retryAttempt left attempt : Nat)
    (feedback : Option Json) (parentIds : List ArtifactId) :
    evaluationLoop tools settings run retryAttempt left attempt feedback parentIds =
      (do
        let judgment ← during .evaluation
          (judge tools settings run attempt feedback retryAttempt parentIds)
        match judgment.decision, left with
        | .passed, _ | .deferred, _ => return judgment.parentIds
        | .exhausted, _ | .repair, 0 => exhaust attempt
        | .repair, left + 1 =>
          let parentIds ← during .evaluation (requestRepair run (attempt + 1) judgment)
          let parentIds ← stageLoop
            (fun parentIds stage =>
              runStage tools settings run stage parentIds (attempt + 1)
                (some (repairFeedback (attempt + 1) judgment)) retryAttempt false)
            repairedStages parentIds
          evaluationLoop tools settings run retryAttempt left (attempt + 1)
            (some (repairFeedback (attempt + 1) judgment)) parentIds) := by
  cases left <;>
  · delta evaluationLoop
    refine congrArg (during StageName.evaluation
      (judge tools settings run attempt feedback retryAttempt parentIds) >>= ·)
      (funext fun judgment => ?_)
    cases judgment.decision <;> rfl

/-- Giving up on repairs leaves the conclusion to the execution. -/
theorem lively_exhaust (attempt : Nat) : Lively runId (exhaust attempt) :=
  lively_during (.bind (lively_event _ _) fun _ => lively_fail _ _) _

/-- Every number of repair rounds leaves the run open. -/
theorem lively_evaluationLoop {run : WorkflowRun} (hrun : run.runId = runId) (retryAttempt left : Nat)
    (attempt : Nat) (feedback : Option Json) (parentIds : List ArtifactId) :
    Lively runId
      (evaluationLoop tools settings run retryAttempt left attempt feedback parentIds) := by
  induction left generalizing attempt feedback parentIds with
  | zero =>
      rw [evaluationLoop_eq]
      refine .bind (lively_during (lively_judge tools settings hrun _ _ _ _) _) fun judgment => ?_
      split
      next => exact .done _
      next => exact .done _
      next => exact lively_exhaust attempt
      next => exact lively_exhaust attempt
      next heq => cases heq
  | succ left ih =>
      rw [evaluationLoop_eq]
      refine .bind (lively_during (lively_judge tools settings hrun _ _ _ _) _) fun judgment => ?_
      split
      next => exact .done _
      next => exact .done _
      next => exact lively_exhaust attempt
      next heq => cases heq
      next other _ heq =>
        obtain rfl : left = other := Nat.succ.inj heq
        exact .bind (lively_during (lively_requestRepair run _ judgment) _) fun _ =>
          .bind (lively_stageLoop (fun _ _ => lively_runStage tools settings hrun _ _ _ _ _ _) _ _)
            fun _ => ih _ _ _

/-! ## The end of an execution -/

variable {interface : Bool} {view : RunView}

/-- A request that is answered at once. -/
theorem meets_ask {request : Request} {post : Except Raised request.Value → RunView → Prop}
    (hsuspends : request.suspends = false)
    (hinterface : request.ofInterface = true → interface = true)
    (hconcerns : request.Concerns runId view)
    (hpost : ∀ answer next, request.Effect runId view next answer → post answer next) :
    (ask request).Meets (lifecycle runId interface) post view := by
  refine .ask ⟨?_, hinterface, hconcerns⟩ fun drifted hdrift answer next heffect => ⟨trivial, ?_⟩
  · intro hwaits
    rw [hsuspends] at hwaits
    cases hwaits
  · change (if request.suspends = true then drifted.Open else drifted = view) at hdrift
    rw [hsuspends, if_neg Bool.false_ne_true] at hdrift
    subst hdrift
    exact hpost answer next heffect

/-- The two statements with which a run ends. -/
theorem meets_end {status : RunStatus} (hterminal : status ∈ terminalRunStatuses)
    (stage : Option StageName) (error : Option String) (payload : List (String × Json)) :
    (do
      ask (.updateRun status stage error)
      event (finalEvent status) payload : Routine Unit).Meets (lifecycle runId false)
      (fun result final => (result = .ok () ∧ final.Ended status) ∨
        (view.status = none ∧ final.status = none)) view := by
  refine .bind (meets_ask rfl nofun trivial fun answer next heffect => ?_)
  rcases heffect with ⟨rfl, rfl⟩ | ⟨hlive, -⟩
  · refine meets_ask rfl nofun trivial fun answer next heffect => ?_
    have hstatus : (view.update status).status.isSome = view.status.isSome := Option.isSome_map
    rcases heffect with ⟨rfl, hsome, rfl⟩ | ⟨hnone, -, hnext⟩
    · rw [hstatus] at hsome
      obtain ⟨other, hother⟩ := Option.isSome_iff_exists.mp hsome
      exact Or.inl ⟨rfl, by simp [RunView.update, RunView.record, hother], rfl⟩
    · have hgone := hnone (List.mem_map_of_mem hterminal)
      refine Or.inr ⟨?_, ?_⟩
      · rw [← Option.not_isSome_iff_eq_none, ← hstatus, hgone]
        exact Bool.false_ne_true
      · rcases hnext with rfl | rfl
        · exact hgone
        · exact hgone
  · exact absurd hterminal hlive

/-- Either way an execution ends, its run is at rest. -/
theorem rested_of_end {status : RunStatus} {result : Except Raised Unit} {final : RunView}
    (hend : (result = .ok () ∧ final.Ended status) ∨ (view.status = none ∧ final.status = none)) :
    final.Rested := by
  rcases hend with ⟨-, hended⟩ | ⟨-, hnone⟩
  · exact hended.rested
  · exact RunView.rested_of_none hnone

/-- From a run at rest the handlers of an execution lead to one that is over. -/
theorem meets_concludeFailure (hrested : view.Rested) (stage : StageName) (raised : Raised) :
    (concludeFailure stage raised).Meets (lifecycle runId false) (fun _ final => final.Rested)
      view := by
  cases raised with
  | cancelled =>
      refine .bind (meets_ask rfl nofun trivial fun answer next heffect => ?_)
      obtain rfl : next = view := heffect
      cases answer with
      | error raised => exact hrested
      | ok value => exact (meets_end (by decide) _ _ _).mono fun _ _ => rested_of_end
  | failed errors =>
      refine .bind (meets_ask rfl nofun trivial fun answer next heffect => ?_)
      obtain rfl : next = view := heffect
      cases answer with
      | error raised => exact hrested
      | ok value =>
          refine (meets_end ?_ _ _ _).mono fun _ _ => rested_of_end
          split <;> decide

variable (platform) in
/-- The preflight leaves the run open, or blocks it. -/
theorem meets_preflight (run : WorkflowRun) (hopen : view.Open) :
    (preflight platform settings run).Meets (lifecycle runId false) (fun result final =>
      final.Open ∨ (result = .ok () ∧ final.Ended .blocked)) view := by
  unfold preflight
  refine (lively_stageStarted _).meets_bind hopen (fun _ view hopen => ?_) fun _ _ => Or.inl
  refine Program.Keeps.meets_bind (lively_ask rfl) hopen (fun report view hopen => ?_)
    fun _ _ => Or.inl
  refine (lively_publish _).meets_bind hopen (fun artifact view hopen => ?_) fun _ _ => Or.inl
  refine (lively_event _ _).meets_bind hopen (fun _ view hopen => ?_) fun _ _ => Or.inl
  split
  next =>
    refine (lively_updateStage _ _ _).meets_bind hopen (fun _ view hopen => ?_) fun _ _ => Or.inl
    refine (meets_end (by decide) _ _ _).mono fun result final hend => ?_
    rcases hend with hended | ⟨hnone, -⟩
    · exact Or.inr hended
    · obtain ⟨status, hstatus, -⟩ := hopen
      rw [hnone] at hstatus
      cases hstatus
  next =>
    refine Program.Meets.mono (fun _ _ => Or.inl) ?_
    split
    next => exact Program.Keeps.bind (lively_event _ _) (fun _ => lively_stageCompleted _) view hopen
    next => exact lively_stageCompleted .preflight view hopen

/-- The stages leave the run open, or complete it. -/
theorem meets_executeStages {run : WorkflowRun} (hrun : run.runId = runId) (retryAttempt : Nat)
    (hopen : view.Open) :
    (executeStages tools settings run retryAttempt).Meets (lifecycle runId false)
      (fun _ final => final.Rested) view := by
  unfold executeStages
  have hlist : Lively runId (ask .listArtifacts) := lively_ask rfl
  refine (lively_during hlist _).meets_bind hopen (fun _ view hopen => ?_)
    fun _ _ => RunView.Open.rested
  refine (lively_during ?_ _).meets_bind hopen (fun repairs view hopen => ?_)
    fun _ _ => RunView.Open.rested
  · split
    next => exact .done _
    next => exact lively_artifactContext
  refine (lively_during (lively_lift _) _).meets_bind hopen (fun latest view hopen => ?_)
    fun _ _ => RunView.Open.rested
  refine (lively_stageLoop (fun _ _ => lively_openStage tools settings hrun _ _ _ _ _) _ _).meets_bind
    hopen (fun parentIds view hopen => ?_) fun _ _ => RunView.Open.rested
  refine (lively_evaluationLoop tools settings hrun _ _ _ _ _).meets_bind hopen
    (fun parentIds view hopen => ?_) fun _ _ => RunView.Open.rested
  refine (lively_during (lively_runStage tools settings hrun _ _ _ _ _ _) _).meets_bind hopen
    (fun _ view hopen => ?_) fun _ _ => RunView.Open.rested
  refine .handle ((meets_end (by decide) _ _ _).mono fun result final hend => ?_)
  have hrested := rested_of_end hend
  cases result with
  | ok value => exact hrested
  | error raised => exact hrested

/-- Where an execution stands once it has read its run after the preflight. -/
structure Refreshed (view : RunView) (refreshed : Option WorkflowRun) : Prop where
  rested : view.Rested
  run : ∀ run ∈ refreshed, run.status = .blocked ∨ view.Open

/-- Reading the run after its body changes nothing and tells whether it is still running. -/
theorem meets_getRun (hview : view.Open ∨ view.Ended .blocked) :
    (ask .getRun).Meets (lifecycle runId false) (fun result final =>
      final.Rested ∧ ∀ refreshed, result = .ok refreshed → Refreshed final refreshed) view := by
  refine meets_ask rfl nofun trivial fun answer next heffect => ?_
  obtain ⟨rfl, hfound⟩ := heffect
  have hrested : next.Rested := hview.elim RunView.Open.rested RunView.Ended.rested
  refine ⟨hrested, fun refreshed hanswer => ⟨hrested, fun run hrun => ?_⟩⟩
  refine hview.symm.imp_left fun hended => ?_
  have hstatus := (hfound refreshed hanswer).1
  rw [Option.mem_def] at hrun
  rw [hrun, Option.map_some, hended.status, Option.some.injEq] at hstatus
  exact hstatus

variable (platform) in
/-- The first steps of an execution: reconcile, reopen and read the run again. -/
theorem meets_refresh (run : WorkflowRun) (retryAttempt : Nat) (hopen : view.Open) :
    (do
      if retryAttempt ≠ 0 then reconcileRun
      ask (.updateRun .running (some .preflight) none)
      preflight platform settings run
      ask .getRun : Routine (Option WorkflowRun)).Meets (lifecycle runId false) (fun result final =>
        final.Rested ∧ ∀ refreshed, result = .ok refreshed → Refreshed final refreshed)
      view := by
  extract_lets enter
  have henter (reconciled : Unit) {view : RunView} (hopen : view.Open) :
      (enter reconciled).Meets (lifecycle runId false) (fun result final =>
        final.Rested ∧ ∀ refreshed, result = .ok refreshed → Refreshed final refreshed)
        view := by
    refine (lively_updateRun (by decide)).meets_bind hopen (fun _ view hopen => ?_)
      fun _ _ hopen => ⟨hopen.rested, nofun⟩
    refine .bind ((meets_preflight platform settings run hopen).mono fun result final hfinal => ?_)
    cases result with
    | ok value => exact meets_getRun (hfinal.imp_right And.right)
    | error raised =>
        rcases hfinal with hopen | ⟨⟨⟩, -⟩
        exact ⟨hopen.rested, nofun⟩
  split
  next =>
    exact lively_reconcileRun.meets_bind hopen (fun reconciled view hopen => henter reconciled hopen)
      fun _ _ hopen => ⟨hopen.rested, nofun⟩
  next => exact henter () hopen

/-- An execution's body takes an open run to rest. -/
theorem meets_executeBody {run : WorkflowRun} (hrun : run.runId = runId) (retryAttempt : Nat)
    (hopen : view.Open) :
    (executeBody tools settings run retryAttempt).Meets (lifecycle runId false)
      (fun _ final => final.Rested) view := by
  refine .bind (.handle ((meets_refresh platform settings run retryAttempt hopen).mono
    fun result final hfinal => ?_))
  cases result with
  | error raised => exact hfinal.1
  | ok refreshed =>
      have hrefreshed := hfinal.2 refreshed rfl
      cases refreshed with
      | none => exact hrefreshed.rested
      | some current =>
          show Program.Meets _ _ (if current.status = .blocked then pure () else _) final
          split
          next => exact hrefreshed.rested
          next hgoes =>
            have hopen := (hrefreshed.run current rfl).resolve_left hgoes
            exact meets_executeStages tools settings hrun retryAttempt hopen

/-- An execution finds its run open and leaves it open, or over with its final event told. -/
theorem meets_execute (retryAttempt : Nat) (hopen : view.Open) :
    (execute tools settings retryAttempt).Meets (lifecycle runId false)
      (fun _ final => final.Rested) view := by
  refine .bind (meets_ask rfl nofun trivial fun answer next heffect => ?_)
  obtain ⟨rfl, hfound⟩ := heffect
  cases answer with
  | error raised => exact hopen.rested
  | ok found =>
      cases found with
      | none => exact hopen.rested
      | some run =>
          have hrun := (hfound (some run) rfl).2 run rfl
          refine .handle ((meets_executeBody tools settings hrun retryAttempt hopen).mono
            fun result final hrested => ?_)
          cases result with
          | ok value => exact hrested
          | error stopped => exact meets_concludeFailure hrested stopped.1 stopped.2

/-! ## The interface -/

/-- The interface starts an execution only where none attends the run. -/
theorem meets_createTask {attempt : Nat} (hopen : view.Open) (hidle : view.attended = false) :
    (ask (.createTask attempt)).Meets (lifecycle runId true) (fun _ final => final.Stable) view := by
  refine meets_ask rfl (fun _ => rfl) ⟨hopen, hidle⟩ fun answer next heffect => ?_
  obtain ⟨-, rfl⟩ := heffect
  have hstill : RunView.Open { view with attended := true, cancelable := true } := hopen
  exact hstill.stable

/-- What an open run tells leaves it open. -/
theorem meets_event {eventType : String} {payload : List (String × Json)} (hopen : view.Open) :
    (event eventType payload).Meets (lifecycle runId interface)
      (fun _ final => final.Open ∧ final.attended = view.attended) view := by
  refine meets_ask rfl nofun trivial fun answer next heffect => ?_
  rcases heffect with ⟨-, -, rfl⟩ | ⟨-, -, rfl | rfl⟩
  · exact ⟨hopen.record, rfl⟩
  · exact ⟨hopen, rfl⟩
  · exact ⟨hopen.record, rfl⟩

/-- An open run without a workflow is announced and given one. -/
theorem meets_schedule {eventType : String} {payload : List (String × Json)} {attempt : Nat}
    (hopen : view.Open) (hidle : view.attended = false) :
    (do
      event eventType payload
      ask (.createTask attempt) : Routine Unit).Meets (lifecycle runId true)
      (fun _ final => final.Stable) view := by
  refine .bind ((meets_event hopen).mono fun result final hfinal => ?_)
  cases result with
  | error raised => exact hfinal.1.stable
  | ok value => exact meets_createTask hfinal.1 (hfinal.2.trans hidle)

theorem idle_of_none (hstable : view.Stable) (hnone : view.status = none) :
    view.attended = false := by
  rw [← Bool.not_eq_true]
  intro hattended
  obtain ⟨status, hstatus, -⟩ := hstable.active false hattended
  rw [hnone] at hstatus
  cases hstatus

/-- Creating a run leaves it stable. -/
theorem meets_createRun (idea : String) (now : Nat) (hstable : view.Stable) :
    (createRun idea now).Meets (lifecycle runId true) (fun _ final => final.Stable) view := by
  refine .bind (meets_ask rfl (fun _ => rfl) trivial fun answer next heffect => ?_)
  obtain rfl : next = view := heffect
  cases answer with
  | error raised => exact hstable
  | ok value =>
      refine .bind (meets_ask rfl (fun _ => rfl) trivial fun answer created heffect => ?_)
      rcases heffect with ⟨hnone, rfl⟩ | ⟨rfl, raised, rfl⟩
      · have hopen : RunView.Open { next with status := some .pending } := ⟨.pending, rfl, by decide⟩
        cases answer with
        | error raised => exact hopen.stable
        | ok value =>
            have hidle : next.attended = false := idle_of_none hstable hnone
            exact meets_schedule hopen hidle
      · exact hstable

/-- A request that only reads. -/
theorem keeps_read {request : Request} (hsuspends : request.suspends = false)
    (hinterface : request.ofInterface = true → interface = true)
    (hconcerns : request.Concerns runId view)
    (hread : ∀ answer next, request.Effect runId view next answer → next = view) :
    (ask request).Keeps (lifecycle runId interface) (· = view) := by
  rintro current rfl
  exact meets_ask hsuspends hinterface hconcerns hread

theorem keeps_artifactContext : artifactContext.Keeps (lifecycle runId interface) (· = view) :=
  .bind (keeps_read rfl nofun trivial fun _ _ => id) fun _ =>
    .bind (keeps_read rfl nofun trivial fun _ _ => id) fun _ => .done _

/-- The statements of a retry once nothing stands against it. -/
theorem meets_restart {run : WorkflowRun} (hidle : view.attended = false) (hstable : view.Stable)
    (hstatus : view.status = some run.status) (attemptOf : List EventRecord → Nat) :
    (do
      let _ ← artifactContext
      let events ← ask .eventsAfter
      let attempt := attemptOf events
      ask (.updateRun .pending run.currentStage none)
      event "run.retry_requested" [("retry_attempt", .int attempt)]
      ask (.createTask attempt) : Routine Unit).Meets (lifecycle runId true)
      (fun _ final => final.Stable) view := by
  have hpending : (view.update .pending).Open :=
    ⟨.pending, by rw [RunView.update, hstatus]; rfl, by decide⟩
  refine keeps_artifactContext.meets_bind rfl ?_ fun _ final hsame => hsame ▸ hstable
  rintro contents _ rfl
  refine .bind (meets_ask rfl nofun trivial fun answer next heffect => ?_)
  obtain rfl : next = _ := heffect
  cases answer with
  | error raised => exact hstable
  | ok events =>
      refine .bind (meets_ask rfl nofun trivial fun answer updated heffect => ?_)
      rcases heffect with ⟨rfl, rfl⟩ | ⟨-, ⟨raised, rfl⟩, rfl | rfl⟩
      · exact meets_schedule hpending hidle
      · exact hstable
      · exact hpending.stable

/-- The retry call keeps the run stable. -/
theorem meets_retry (hstable : view.Stable) :
    retry.Meets (lifecycle runId true) (fun _ final => final.Stable) view := by
  refine .bind (meets_ask rfl nofun trivial fun answer next heffect => ?_)
  obtain ⟨rfl, hfound⟩ := heffect
  cases answer with
  | error raised => exact hstable
  | ok found =>
      cases found with
      | none => exact hstable
      | some run =>
          have hstatus := (hfound (some run) rfl).1
          dsimp -zeta only
          extract_lets start check
          split
          next => exact hstable
          next =>
            refine .bind (meets_ask rfl (fun _ => rfl) trivial fun answer same heffect => ?_)
            obtain ⟨rfl, rfl⟩ := heffect
            dsimp -zeta only
            split
            next => exact hstable
            next hidle => exact meets_restart (Bool.not_eq_true _ ▸ hidle) hstable hstatus.symm _

/-- The cancel call keeps the run stable, provided it was started before. -/
theorem meets_cancel (hstable : view.Stable)
    (hstarted : view.cancelable = true → view.status ≠ some .pending) :
    cancel.Meets (lifecycle runId true) (fun _ final => final.Stable) view := by
  refine .bind (meets_ask rfl (fun _ => rfl) trivial fun answer next heffect => ?_)
  obtain ⟨rfl, rfl⟩ := heffect
  dsimp -zeta only
  split
  next hactive =>
    refine .bind (meets_ask rfl nofun trivial fun answer same heffect => ?_)
    obtain ⟨rfl, hfound⟩ := heffect
    have hopen := hstable.active true hactive
    cases answer with
    | error raised => exact hstable
    | ok found =>
        dsimp -zeta only
        extract_lets stop
        have hstop (pending : Unit) :
            (stop pending).Meets (lifecycle runId true) (fun _ final => final.Stable) same := by
          refine .bind ((meets_event hopen).mono fun result final hfinal => ?_)
          cases result with
          | error raised => exact hfinal.1.stable
          | ok value =>
              refine meets_ask rfl (fun _ => rfl) trivial fun answer next heffect => ?_
              obtain ⟨-, rfl⟩ := heffect
              have hstill : RunView.Open { final with cancelable := false } := hfinal.1
              exact hstill.stable
        cases found with
        | none => exact hstop ()
        | some run =>
            have hstatus := (hfound (some run) rfl).1
            dsimp only
            split
            next hpending => exact absurd (hpending ▸ hstatus.symm) (hstarted hactive)
            next => exact hstop ()
  next => exact hstable

/-- A human answer keeps the run stable. -/
theorem meets_respond (action : HumanAction) (hstable : view.Stable) :
    (respond action).Meets (lifecycle runId true) (fun _ final => final.Stable) view := by
  refine .bind (meets_ask rfl nofun trivial fun answer next heffect => ?_)
  obtain rfl : next = view := heffect
  cases answer with
  | error raised => exact hstable
  | ok interactions =>
      dsimp -zeta only
      extract_lets found accept
      clear_value found
      have haccept (fresh : Unit) :
          (accept fresh).Meets (lifecycle runId true) (fun _ final => final.Stable) next := by
        refine .bind (meets_ask rfl (fun _ => rfl) trivial fun answer same heffect => ?_)
        obtain ⟨rfl, hcreated⟩ := heffect
        rcases answer with raised | ⟨interaction, created⟩
        · exact hstable
        · dsimp only
          split
          next hnew =>
            have hopen : same.Open := ⟨_, hcreated interaction (hnew ▸ rfl), by decide⟩
            exact (meets_event hopen).mono fun _ _ hfinal => hfinal.1.stable
          next => exact hstable
      split
      next interaction _ =>
        split
        next =>
          refine .bind (meets_ask rfl nofun trivial fun answer same heffect => ?_)
          obtain rfl : same = next := heffect
          cases answer with
          | error raised => exact hstable
          | ok mappings =>
              dsimp only
              split
              next => exact hstable
              next => exact haccept ()
        next => exact haccept ()
      next => exact haccept ()

end Workflow

end Aidlc
