import Aidlc.A2a.Client
import Aidlc.Evaluation.Models
import Aidlc.Foundation.Program
import Aidlc.Orchestration.Context
import Aidlc.Storage.Decisions

/-! # What the hub asks of its surroundings

Every statement of the orchestrator that touches storage, the table of running
workflows, or the world outside is a request. Storage answers at once and may
fail; the requests of the last group suspend the coroutine that makes them.
-/

namespace Aidlc

open Foundation

structure HubSettings where
  client : ClientSettings := {}
  a2aBaseUrl : String := "http://127.0.0.1:8001"
  model : String := "provider:model"
  enforceHostPreflight : Bool := true
  maxParallelAgents : Nat := 3
  maxEvaluationRepairAttempts : Nat := 2
  evaluationScoreThreshold : Rat := 4 / 5
  maxClarificationRounds : Nat := 2
  tokenBudgetPerPhasePerRun : Int := 100000
  reasoningEffort : String := "medium"
  maxModelOutputTokens : Int := 16384
  maxImplementationOutputTokens : Int := 32768
  sandboxBackend : String := "runc"
  sandboxImage : String := ""
  sandboxExecutionEnabled : Bool := true
  analysisBackend : String := "sandbox"
  mcpEnabled : Bool := true

structure CapabilityCheck where
  name : String
  status : String
  detail : String
  required : Bool
  deriving DecidableEq, Repr

structure HostReport where
  generatedAt : Nat
  ready : Bool
  degraded : Bool
  osId : String
  osVersion : String
  architecture : String
  kernel : String
  checks : List CapabilityCheck
  deriving DecidableEq, Repr

/-- What stops a coroutine: its cancellation, or the leaf errors of an exception. -/
inductive Raised where
  | cancelled
  | failed (errors : List PyError)
  deriving DecidableEq, Repr

/-- The specialists of one stage and what they are given. -/
structure StageJob where
  run : WorkflowRun
  stage : StageName
  context : AgentContext ContextItem
  saved : List (String × ArtifactRecord)
  repairAttempt : Nat
  repairFeedback : Option Json
  retryAttempt : Nat
  deriving DecidableEq

inductive Request where
  | getRun
  | updateRun (status : RunStatus) (currentStage : Option StageName) (error : Option String)
  | updateStage (stage : StageName) (status : RunStatus) (error : Option String)
  | appendEvent (eventType : String) (payload : List (String × Json))
  | eventsAfter
  | listArtifacts
  | listInteractions
  | listDelegatedTasks
  | saveInteraction (interaction : HumanInteraction)
  | saveDelegatedTask (mapping : DelegatedTask)
  | readContents (records : List ArtifactRecord)
  | write (request : WriteRequest)
  | addArtifact (record : ArtifactRecord)
  | initializeProject (idea : String)
  | createRun (idea : String) (now : Nat)
  | acceptAction (action : HumanAction)
  /-- Whether `_tasks` holds a task of the run that is not done, or not even cancelling. -/
  | activeTask (cancelable : Bool)
  | createTask (retryAttempt : Nat)
  | cancelTask
  | agentCard (agent : String)
  | getTask (agent : String) (taskId : TaskId)
  | cancelRemoteTask (agent : String) (taskId : TaskId)
  | inspectHost
  | runAgents (job : StageJob)
  | acquireSlot
  | invoke (spec : AgentSpec) (context : AgentContext ContextItem)
  | humanResponse (surfaceId : String)
  deriving DecidableEq

namespace Request

/-- What an answered request returns. -/
def Value : Request → Type
  | getRun => Option WorkflowRun
  | eventsAfter => List EventRecord
  | listArtifacts => List ArtifactRecord
  | listInteractions => List HumanInteraction
  | listDelegatedTasks => List DelegatedTask
  | readContents _ => List Json
  | write _ => ArtifactRecord
  | acceptAction _ => HumanInteraction × Bool
  | activeTask _ | agentCard _ => Bool
  | getTask .. => TaskState
  | inspectHost => HostReport
  | runAgents _ => List ArtifactId
  | invoke .. => AgentResult
  | humanResponse _ => HumanInteraction
  | updateRun .. | updateStage .. | appendEvent .. | saveInteraction _ | saveDelegatedTask _
  | addArtifact _ | initializeProject _ | createRun .. | createTask _ | cancelTask
  | cancelRemoteTask .. | acquireSlot => Unit

abbrev Answer (request : Request) : Type := Except Raised request.Value

/-- The requests at which a coroutine is suspended. -/
def suspends : Request → Bool
  | agentCard _ | getTask .. | cancelRemoteTask .. | inspectHost | runAgents _ | acquireSlot
  | invoke .. | humanResponse _ => true
  | _ => false

end Request

abbrev Routine (α : Type) : Type := Program Request Request.Answer Raised α

/-- Make a request and return the value that answers it. -/
def ask (request : Request) : Routine request.Value := Program.ask request id

def fail {α : Type} (type : ErrorType) (message : String) : Routine α :=
  .raise (.failed [⟨type, message⟩])

/-- Continue with the value of a pure computation that may raise. -/
def lift {α : Type} (computed : Except PyError α) : Routine α :=
  match computed with
  | .ok value => .done value
  | .error error => .raise (.failed [error])

/-! ## Storage -/

/-- How storage fails: before or after the statement took effect, or in the
middle of a write, which may leave files of the replaced and of the invalidated
snapshots behind in a state in which they cannot be read. -/
inductive StorageFault where
  | none
  | before
  | after
  | torn (lost : List Location)
  deriving DecidableEq

def storageFailure : PyError := ⟨.storageError, "database is locked"⟩

/-- The files after a write that failed halfway. -/
def FileStore.damage (store : FileStore) (lost : List Location) : FileStore :=
  { store with
    files := fun location =>
      if location.isCurrent ∧ location ∈ lost then none else store.files location }

variable (platform : Platform) (clock : Nat → Nat)

/-- The time of the next write: the clock is read once for each. -/
def Stores.now (stores : Stores) : Nat := clock stores.written.length

def Stores.withDatabase (stores : Stores) (database : Database) : Stores := { stores with database }

/-- The outcome of a computation that changes the stores only when it returns. -/
def outcome {α : Type} (result : EStateM.Result PyError Stores α) : Except PyError α × Stores :=
  match result with
  | .ok value next => (.ok value, next)
  | .error error next => (.error error, next)

/-- The outcome of a statement of the database. -/
def statement (stores : Stores) (change : Except PyError Database) : Except PyError Unit × Stores :=
  match change with
  | .ok database => (.ok (), stores.withDatabase database)
  | .error error => (.error error, stores)

/-- How storage answers a request of the given run; other requests are not its business. -/
def Stores.serve (stores : Stores) (runId : RunId) :
    (request : Request) → Option (Except PyError request.Value × Stores)
  | .getRun => some (.ok (stores.database.getRun runId), stores)
  | .updateRun status currentStage error =>
    some (.ok (), stores.withDatabase (stores.database.updateRun runId status currentStage error))
  | .updateStage stage status error =>
    some (.ok (), stores.withDatabase (stores.database.updateStage runId stage status error))
  | .appendEvent eventType payload =>
    some (statement stores (stores.database.appendEvent runId eventType payload))
  | .eventsAfter => some (.ok (stores.database.eventsAfter runId 0), stores)
  | .listArtifacts => some (.ok (stores.database.listArtifacts runId), stores)
  | .listInteractions => some (.ok (stores.database.listInteractions runId), stores)
  | .listDelegatedTasks => some (.ok (stores.database.listDelegatedTasks runId), stores)
  | .saveInteraction interaction =>
    some (statement stores (stores.database.saveInteraction interaction))
  | .saveDelegatedTask mapping =>
    some (statement stores (stores.database.saveDelegatedTask mapping))
  | .readContents records => some (records.mapM (stores.files.readContent platform), stores)
  | .write request => some (outcome (writeArtifact platform request (stores.now clock) stores))
  | .addArtifact record => some (outcome (Aidlc.addArtifact platform record stores))
  | .initializeProject idea =>
    some (.ok (), { stores with files := stores.files.initializeProject platform runId idea })
  | .createRun idea now => some (statement stores (stores.database.createRun runId idea now))
  | .acceptAction action =>
    some (outcome (acceptCall platform runId action (stores.now clock) .none stores))
  | .activeTask _ | .createTask _ | .cancelTask | .agentCard _ | .getTask .. | .cancelRemoteTask ..
  | .inspectHost | .runAgents _ | .acquireSlot | .invoke .. | .humanResponse _ => none

/-- What a statement that fails halfway leaves behind. -/
def Stores.torn (stores : Stores) (runId : RunId) (lost : List Location) : Request → Stores
  | .write _ => { stores with files := stores.files.damage lost }
  | .acceptAction action =>
    (outcome (acceptCall platform runId action (stores.now clock) (.published storageFailure)
      stores)).2
  | _ => stores

def raisedBy {α : Type} : Except PyError α → Except Raised α
  | .ok value => .ok value
  | .error error => .error (.failed [error])

/-- Storage answers, or fails as the fault says. -/
def Stores.answer (stores : Stores) (runId : RunId) (request : Request) (fault : StorageFault) :
    Option (request.Answer × Stores) :=
  (stores.serve platform clock runId request).map fun (value, next) =>
    match fault with
    | .none => (raisedBy value, next)
    | .before => (.error (.failed [storageFailure]), stores)
    | .after => (.error (.failed [storageFailure]), next)
    | .torn lost =>
      (.error (.failed [storageFailure]), stores.torn platform clock runId lost request)

end Aidlc
