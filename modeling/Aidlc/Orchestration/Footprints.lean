import Aidlc.Foundation.Footprint
import Aidlc.Orchestration.Workflow

/-! # What the orchestrator asks where

Few statements of the orchestrator concern more than the artifacts and the log of its
own run: those that mark a run or a stage, those that hand work to agents, and those of
the interface. The parts of a workflow that make none of them are listed here.
-/

namespace Aidlc

open Foundation

namespace Request

/-- Requests that read, tell, or ask the world outside. -/
def incidental : Request → Bool
  | getRun | appendEvent .. | eventsAfter | listArtifacts | listInteractions
  | listDelegatedTasks | saveInteraction _ | saveDelegatedTask _ | readContents _ | agentCard _
  | getTask .. | cancelRemoteTask .. | inspectHost | acquireSlot | humanResponse _ => true
  | _ => false

/-- Those, and the publication of artifacts. -/
def publishes : Request → Bool
  | write _ | addArtifact _ => true
  | request => request.incidental

/-- Those, and the marks on runs and stages. -/
def solitary : Request → Bool
  | updateRun .. | updateStage .. => true
  | request => request.publishes

/-- The requests of a call of the interface that neither begins nor ends anything. -/
def converses : Request → Bool
  | initializeProject _ | acceptAction _ | activeTask _ => true
  | request => request.incidental

/-- Incidental requests are among the publishing ones. -/
theorem publishes_of_incidental {request : Request} (hincidental : request.incidental = true) :
    request.publishes = true := by
  cases request <;> first | rfl | exact hincidental

/-- Publishing requests are among those made alone. -/
theorem solitary_of_publishes {request : Request} (hpublishes : request.publishes = true) :
    request.solitary = true := by
  cases request <;> first | rfl | exact hpublishes

theorem converses_of_incidental {request : Request} (hincidental : request.incidental = true) :
    request.converses = true := by
  cases request <;> first | rfl | exact hincidental

end Request

namespace Workflow

variable {ε α β : Type} {platform : Platform} (tools : HubTools platform) (settings : HubSettings)

/-- The program reads, tells and asks, and does nothing else. -/
abbrev Incidental (program : Program Request Request.Answer ε α) : Prop :=
  program.Asks fun request => request.incidental = true

abbrev Publishing (program : Program Request Request.Answer ε α) : Prop :=
  program.Asks fun request => request.publishes = true

/-- The program hands no work to agents and is none of the interface. -/
abbrev Solitary (program : Program Request Request.Answer ε α) : Prop :=
  program.Asks fun request => request.solitary = true

/-- The program is a call of the interface that leaves the runs as they are. -/
abbrev Conversing (program : Program Request Request.Answer ε α) : Prop :=
  program.Asks fun request => request.converses = true

/-- An incidental program publishes at most. -/
theorem Incidental.publishing {program : Program Request Request.Answer ε α}
    (hincidental : Incidental program) : Publishing program :=
  hincidental.mono fun _ => Request.publishes_of_incidental

theorem Incidental.conversing {program : Program Request Request.Answer ε α}
    (hincidental : Incidental program) : Conversing program :=
  hincidental.mono fun _ => Request.converses_of_incidental

/-- A publishing program starts no group of agents. -/
theorem Publishing.solitary {program : Program Request Request.Answer ε α}
    (hpublishing : Publishing program) : Solitary program :=
  hpublishing.mono fun _ => Request.solitary_of_publishes

/-- A computed value asks for nothing. -/
theorem asks_lift {allowed : Request → Prop} (computed : Except PyError α) :
    (lift computed).Asks allowed := by
  cases computed with
  | ok value => exact .done value
  | error error => exact .raise _

theorem asks_fail {allowed : Request → Prop} (type : ErrorType) (message : String) :
    (fail type message : Routine α).Asks allowed := .raise _

/-- A stage's failure handler raises without a request of its own. -/
theorem asks_during {allowed : Request → Prop} {routine : Routine α} (hasks : routine.Asks allowed)
    (stage : StageName) : (during stage routine).Asks allowed :=
  .handle hasks fun _ => .raise _

theorem incidental_ask {request : Request} (hincidental : request.incidental = true) :
    Incidental (ask request) := ⟨hincidental, fun _ => .ofExcept _⟩

theorem publishing_ask {request : Request} (hpublishes : request.publishes = true) :
    Publishing (ask request) := ⟨hpublishes, fun _ => .ofExcept _⟩

theorem solitary_ask {request : Request} (hsolitary : request.solitary = true) :
    Solitary (ask request) := ⟨hsolitary, fun _ => .ofExcept _⟩

theorem conversing_ask {request : Request} (hconverses : request.converses = true) :
    Conversing (ask request) := ⟨hconverses, fun _ => .ofExcept _⟩

theorem incidental_event (eventType : String) (payload : List (String × Json)) :
    Incidental (event eventType payload) := incidental_ask rfl

/-- Reading the artifact context is incidental. -/
theorem incidental_artifactContext : Incidental artifactContext :=
  .bind (incidental_ask rfl) fun _ => .bind (incidental_ask rfl) fun _ => .done _

theorem incidental_savedOutputs (run : WorkflowRun) (stage : StageName) (repairAttempt : Nat) :
    Incidental (savedOutputs run stage repairAttempt) := by
  refine .bind (incidental_ask rfl) fun events => .bind (incidental_ask rfl) fun artifacts =>
    .bind (incidental_ask rfl) fun _ => ?_
  split
  next =>
    refine .bind (incidental_ask rfl) fun current => ?_
    split <;> exact .done _
  next => exact .done _

/-- Reconciling one task is incidental. -/
theorem incidental_reconcileTask (mapping : DelegatedTask) :
    Incidental (reconcileTask mapping) := by
  unfold reconcileTask
  split
  next => exact .done _
  next =>
    split
    next => exact asks_fail _ _
    next taskId _ =>
      refine .bind (incidental_ask rfl) fun valid => ?_
      extract_lets conclude examine
      have hconclude (state : TaskState) : Incidental (conclude state) := by
        refine .bind (incidental_ask rfl) fun _ => .bind (incidental_event _ _) fun _ => ?_
        split
        next => exact asks_fail _ _
        next => exact .done _
      have hexamine (checked : Unit) : Incidental (examine checked) := by
        refine .bind (incidental_ask rfl) fun found => ?_
        split
        next => exact hconclude found
        next => exact .bind (incidental_ask rfl) fun _ => .bind (incidental_ask rfl) hconclude
      split
      next => exact .bind (asks_fail _ _) hexamine
      next => exact hexamine ()

theorem incidental_reconcileRun : Incidental reconcileRun :=
  .bind (incidental_ask rfl) fun mappings => .forM incidental_reconcileTask mappings

theorem incidental_recordExecution (agent : String) (result : AgentResult) (phase : StageName)
    (selection : Option Selection) :
    Incidental (recordExecution settings agent result phase selection) := by
  unfold recordExecution
  refine .bind (incidental_ask rfl) fun events => ?_
  split
  next => exact .done _
  next =>
    extract_lets total check record
    have hcheck (checked : Unit) : Incidental (check checked) := by
      show Incidental (if _ then _ else _)
      split
      next => exact asks_fail _ _
      next => exact .done _
    have hrecord (announced : List EventRecord) : Incidental (record announced) := by
      refine .bind (incidental_event _ _) fun _ => ?_
      split
      next => exact .bind (asks_fail _ _) hcheck
      next => exact hcheck ()
    split
    next => exact .bind (incidental_ask rfl) hrecord
    next => exact hrecord []

theorem incidental_cachedOutput (spec : AgentSpec) (cacheKey : String)
    (inputIds : List ArtifactId) : Incidental (cachedOutput spec cacheKey inputIds) := by
  refine .bind (incidental_ask rfl) fun artifacts => ?_
  split
  next => exact .done _
  next => exact .bind (incidental_ask rfl) fun _ => .done _

theorem conversing_respond (action : HumanAction) : Conversing (respond action) := by
  refine .bind (conversing_ask rfl) fun interactions => ?_
  extract_lets found accept
  clear_value found
  have haccept (fresh : Unit) : Conversing (accept fresh) := by
    refine .bind (conversing_ask rfl) fun answered => ?_
    obtain ⟨interaction, created⟩ := answered
    dsimp only
    split
    next => exact (incidental_event _ _).conversing
    next => exact .done _
  split
  next interaction _ =>
    split
    next =>
      refine .bind (conversing_ask rfl) fun mappings => ?_
      split
      next => exact .bind (asks_fail _ _) haccept
      next => exact haccept ()
    next => exact haccept ()
  next => exact haccept ()

/-! ## Publications -/

theorem publishing_publish (request : WriteRequest) : Publishing (publish request) :=
  .bind (publishing_ask rfl) fun _ => .bind (publishing_ask rfl) fun _ => .done _

/-- Opening a question publishes its draft. -/
theorem publishing_openSurface (mapping : DelegatedTask) (draft : AgentResult)
    (prompt : HumanPrompt) (taskId : TaskId) :
    Publishing (openSurface tools settings mapping draft prompt taskId) := by
  unfold openSurface
  refine .bind (publishing_ask rfl) fun interactions => ?_
  extract_lets clarifications draw
  have hdraw (allowed : Unit) : Publishing (draw allowed) :=
    .bind (publishing_ask rfl) fun _ => .bind (publishing_publish _) fun _ =>
      .bind (publishing_publish _) fun _ => .bind (publishing_ask rfl) fun _ => .done _
  split
  next => exact .bind (asks_fail _ _) hdraw
  next => exact hdraw ()

theorem publishing_integrate (run : WorkflowRun) (parentIds : List ArtifactId) :
    Publishing (integrate tools run parentIds) :=
  .bind incidental_artifactContext.publishing fun _ => .bind (asks_lift _) fun _ =>
    .bind (publishing_publish _) fun _ => .bind (incidental_event _ _).publishing fun _ => .done _

theorem publishing_runGates (run : WorkflowRun) (context : AgentContext ContextItem) :
    Publishing (runGates tools settings run context) :=
  .bind (asks_lift _) fun _ => .bind (publishing_publish _) fun _ =>
    .bind incidental_artifactContext.publishing fun _ =>
      .bind (incidental_event _ _).publishing fun _ =>
        .bind (incidental_event _ _).publishing fun _ => .done _

/-- A repair request is published with its events. -/
theorem publishing_requestRepair (run : WorkflowRun) (attempt : Nat)
    (judgment : Judgment platform) : Publishing (requestRepair run attempt judgment) :=
  .bind (publishing_publish _) fun _ => .bind (incidental_event _ _).publishing fun _ =>
    .bind (incidental_event _ _).publishing fun _ => .done _

/-! ## Marks -/

theorem solitary_stageStarted (stage : StageName) : Solitary (stageStarted stage) :=
  .bind (solitary_ask rfl) fun _ => (incidental_event _ _).publishing.solitary

theorem solitary_stageCompleted (stage : StageName) : Solitary (stageCompleted stage) :=
  .bind (solitary_ask rfl) fun _ => (incidental_event _ _).publishing.solitary

/-- Waiting for a decision starts no group of agents. -/
theorem solitary_humanInput (mapping : DelegatedTask) (draft : AgentResult) :
    Solitary (humanInput tools settings mapping draft) := by
  unfold humanInput
  refine .bind (incidental_recordExecution settings _ _ _ _).publishing.solitary fun _ => ?_
  split
  next prompt taskId _ _ =>
    refine .bind (solitary_ask rfl) fun interactions => ?_
    extract_lets finish request
    have hfinish (answered : HumanInteraction) : Solitary (finish answered) :=
      .bind (solitary_ask rfl) fun _ => .bind (solitary_ask rfl) fun _ =>
        .bind (solitary_ask rfl) fun _ => .bind (asks_lift _) fun _ => .done _
    have hrequest (interaction : HumanInteraction) : Solitary (request interaction) := by
      refine .bind (solitary_ask rfl) fun _ => .bind (solitary_ask rfl) fun _ =>
        .bind (incidental_event _ _).publishing.solitary fun _ => ?_
      split
      next => exact hfinish interaction
      next => exact .bind (solitary_ask rfl) hfinish
    split
    next interaction _ => exact hrequest interaction
    next => exact .bind (publishing_openSurface tools settings _ _ _ _).solitary hrequest
  next => exact asks_fail _ _

variable (platform) in
theorem solitary_preflight (run : WorkflowRun) : Solitary (preflight platform settings run) := by
  unfold preflight
  refine .bind (solitary_stageStarted _) fun _ => .bind (solitary_ask rfl) fun report =>
    .bind (publishing_publish _).solitary fun _ =>
      .bind (incidental_event _ _).publishing.solitary fun _ => ?_
  split
  next =>
    exact .bind (solitary_ask rfl) fun _ => .bind (solitary_ask rfl) fun _ =>
      (incidental_event _ _).publishing.solitary
  next =>
    split
    next =>
      exact .bind (incidental_event _ _).publishing.solitary fun _ => solitary_stageCompleted _
    next => exact solitary_stageCompleted _

theorem solitary_concludeFailure (stage : StageName) (raised : Raised) :
    Solitary (concludeFailure stage raised) := by
  cases raised with
  | cancelled =>
      exact .bind (solitary_ask rfl) fun _ => .bind (solitary_ask rfl) fun _ =>
        (incidental_event _ _).publishing.solitary
  | failed errors =>
      exact .bind (solitary_ask rfl) fun _ => .bind (solitary_ask rfl) fun _ =>
        (incidental_event _ _).publishing.solitary

end Workflow

end Aidlc
