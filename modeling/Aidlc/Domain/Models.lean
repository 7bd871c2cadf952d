import Aidlc.Foundation.Json

/-! # Domain contracts

The typed records shared by the store, the hub, and the specialists. Identifiers
are opaque: an artifact identifier is a token of which only equality matters.
-/

namespace Aidlc

open Foundation

abbrev RunId := String
abbrev ProjectId := String
abbrev ArtifactId := Nat
abbrev TaskId := Nat

/-- A lower-case hexadecimal digit. -/
def hexDigit (c : Char) : Bool := c.isDigit || ('a' ≤ c && c ≤ 'f')

/-- The thirty-two digits of `uuid4().hex`. -/
structure Uuid where
  hex : String
  length_hex : hex.length = 32
  digits_hex : hex.toList.all hexDigit = true
  deriving DecidableEq

/-- The identifier of the runs in examples. -/
def sampleUuid : Uuid := ⟨"0123456789abcdef0123456789abcdef", by decide, by decide⟩

inductive RunStatus where
  | pending | running | inputRequired | completed | failed | canceled | blocked
  deriving DecidableEq, Repr

inductive StageName where
  | preflight | intake | requirements | discovery | planning | implementation | integration
  | evaluation | release
  deriving DecidableEq, Repr

def stageOrder : List StageName :=
  [.preflight, .intake, .requirements, .discovery, .planning, .implementation, .integration,
    .evaluation, .release]

def StageName.value : StageName → String
  | .preflight => "preflight"
  | .intake => "intake"
  | .requirements => "requirements"
  | .discovery => "discovery"
  | .planning => "planning"
  | .implementation => "implementation"
  | .integration => "integration"
  | .evaluation => "evaluation"
  | .release => "release"

inductive ArtifactKind where
  | hostCapabilityReport | sandboxQualificationReport | sandboxRecoveryReport | projectBrief
  | requirementsSpec | architectureDecision | uxSpecification | threatModel | testPlan
  | implementationPlan | codeChange | integratedSource | buildReport | testReport
  | staticAnalysisReport | qualityGateReport | repairRequest | evaluationReport | releaseBundle
  | humanRequest | humanResponse
  deriving DecidableEq, Repr

def ArtifactKind.value : ArtifactKind → String
  | .hostCapabilityReport => "host_capability_report"
  | .sandboxQualificationReport => "sandbox_qualification_report"
  | .sandboxRecoveryReport => "sandbox_recovery_report"
  | .projectBrief => "project_brief"
  | .requirementsSpec => "requirements_spec"
  | .architectureDecision => "architecture_decision"
  | .uxSpecification => "ux_specification"
  | .threatModel => "threat_model"
  | .testPlan => "test_plan"
  | .implementationPlan => "implementation_plan"
  | .codeChange => "code_change"
  | .integratedSource => "integrated_source"
  | .buildReport => "build_report"
  | .testReport => "test_report"
  | .staticAnalysisReport => "static_analysis_report"
  | .qualityGateReport => "quality_gate_report"
  | .repairRequest => "repair_request"
  | .evaluationReport => "evaluation_report"
  | .releaseBundle => "release_bundle"
  | .humanRequest => "human_request"
  | .humanResponse => "human_response"

/-- The exceptions the code raises or handles by type. -/
inductive ErrorType where
  | valueError | validationError | keyError | runtimeError | stopIteration | osError
  | integrityError | storageError | timeoutError | remoteTaskError | remoteTaskCanceled
  | invalidParamsError | contentTypeNotSupportedError | taskNotFoundError
  | taskNotCancelableError | typeError | attributeError | toolError | cancelledError
  | overflowError | recursionError
  deriving DecidableEq, Repr

/-- `type(error).__name__`. -/
def ErrorType.name : ErrorType → String
  | .valueError => "ValueError"
  | .validationError => "ValidationError"
  | .keyError => "KeyError"
  | .runtimeError => "RuntimeError"
  | .stopIteration => "StopIteration"
  | .osError => "OSError"
  | .integrityError => "IntegrityError"
  | .storageError => "DatabaseError"
  | .timeoutError => "TimeoutError"
  | .remoteTaskError => "RemoteTaskError"
  | .remoteTaskCanceled => "RemoteTaskCanceled"
  | .invalidParamsError => "InvalidParamsError"
  | .contentTypeNotSupportedError => "ContentTypeNotSupportedError"
  | .taskNotFoundError => "TaskNotFoundError"
  | .taskNotCancelableError => "TaskNotCancelableError"
  | .typeError => "TypeError"
  | .attributeError => "AttributeError"
  | .toolError => "ToolError"
  | .cancelledError => "CancelledError"
  | .overflowError => "OverflowError"
  | .recursionError => "RecursionError"

structure PyError where
  type : ErrorType
  message : String
  deriving DecidableEq, Repr

/-- Where an artifact lives below the artifact root: the slot of a current
snapshot, or the directory of an individual record. -/
inductive Location where
  | current (project : ProjectId) (stage : StageName) (producer : String) (kind : ArtifactKind)
  | record (project : ProjectId) (stage : StageName) (artifactId : ArtifactId)
  deriving DecidableEq

def Location.project : Location → ProjectId
  | .current project _ _ _ => project
  | .record project _ _ => project

def Location.isCurrent : Location → Bool
  | .current .. => true
  | .record .. => false

structure ArtifactMetadata where
  projectId : ProjectId
  currentSnapshot : Bool
  artifactId : ArtifactId
  kind : ArtifactKind
  workflowRunId : RunId
  stageId : StageName
  parentArtifactIds : List ArtifactId
  producingAgent : String
  modelId : Option String
  promptVersion : Option String
  execution : Json
  createdAt : Nat
  contentSha256 : String
  deriving DecidableEq

structure ArtifactRecord where
  metadata : ArtifactMetadata
  contentPath : Location
  deriving DecidableEq

structure StageRecord where
  name : StageName
  status : RunStatus
  error : Option String
  deriving DecidableEq, Repr

structure WorkflowRun where
  runId : RunId
  idea : String
  status : RunStatus
  currentStage : Option StageName
  createdAt : Nat
  error : Option String
  stages : List StageRecord
  deriving DecidableEq, Repr

/-- A row of the event log; the payload is the JSON object of the event. -/
structure EventRecord where
  eventId : Nat
  runId : RunId
  eventType : String
  payload : Json
  deriving DecidableEq

/-- The states of a task at its agent. -/
inductive TaskState where
  | unspecified | submitted | working | completed | failed | canceled | inputRequired
  | rejected | authRequired
  deriving DecidableEq, Repr

/-- The state of a delegated task: `pending` until the agent reported one. -/
inductive DelegationState where
  | pending
  | reported (state : TaskState)
  deriving DecidableEq, Repr

/-- The parts an invocation identifier is written from. Run identifiers and agent
names hold no colon, so the text and its parts determine each other. -/
structure InvocationId where
  runId : RunId
  stage : StageName
  agent : String
  repairAttempt : Nat
  retryAttempt : Nat
  deriving DecidableEq, Repr

/-- `repair_suffix` -/
def repairSuffix (repairAttempt retryAttempt : Nat) : String :=
  (if repairAttempt = 0 then "" else ":repair:" ++ toString repairAttempt) ++
    (if retryAttempt = 0 then "" else ":retry:" ++ toString retryAttempt)

def InvocationId.text (id : InvocationId) : String :=
  id.runId ++ ":" ++ id.stage.value ++ ":" ++ id.agent ++
    repairSuffix id.repairAttempt id.retryAttempt

structure DelegatedTask where
  invocationId : InvocationId
  runId : RunId
  stage : StageName
  agent : String
  endpoint : String
  contextId : String
  taskId : Option TaskId
  state : DelegationState
  attempts : Nat
  repairAttempt : Nat
  deriving DecidableEq, Repr

/-- An artifact as a specialist sees it. -/
structure ContextItem where
  metadata : ArtifactMetadata
  content : Json
  deriving DecidableEq

/-- The input of a specialist. The hub puts typed items into it; what arrives
from outside holds arbitrary objects. -/
structure AgentContext (Item : Type) where
  runId : RunId
  idea : String
  stage : StageName
  artifacts : List Item
  retryAttempt : Nat
  humanResponse : Option Json
  repairAttempt : Nat
  repairFeedback : Option Json
  repairArtifactId : Option ArtifactId
  repairArtifactSha256 : Option String
  deriving DecidableEq

inductive PromptKind where
  | clarification | approval | evaluationDecision
  deriving DecidableEq, Repr

structure HumanPrompt where
  kind : PromptKind
  question : String
  deriving DecidableEq, Repr

structure ExecutionMetadata where
  executionId : Option String
  modelId : String
  promptVersion : String
  inputTokens : Option Int
  outputTokens : Option Int
  costUsd : Option Rat
  costBasis : String
  deriving DecidableEq

inductive Decision where
  | submit | approve | reject | accept | repair
  deriving DecidableEq, Repr

def Decision.value : Decision → String
  | .submit => "submit"
  | .approve => "approve"
  | .reject => "reject"
  | .accept => "accept"
  | .repair => "repair"

structure HumanAction where
  actionId : String
  surfaceId : String
  artifactSha256 : String
  version : Int
  decision : Decision
  answer : String
  deriving DecidableEq, Repr

structure HumanInteraction where
  surfaceId : String
  runId : RunId
  stage : StageName
  agent : String
  taskId : TaskId
  contextId : String
  prompt : HumanPrompt
  artifactId : ArtifactId
  artifactSha256 : String
  version : Int
  response : Option Json
  deriving DecidableEq

structure AgentResult where
  artifactKind : ArtifactKind
  content : Json
  markdown : String
  humanPrompt : Option HumanPrompt
  execution : ExecutionMetadata
  deriving DecidableEq

/-- An artifact identifier inside a JSON document. -/
def idJson (artifactId : ArtifactId) : Json := .int (Int.ofNat artifactId)

/-- How an identifier stands in a JSON document: a token of the hub, or the text that a
decoded document holds. -/
class Identifier (Id : Type) where
  json : Id → Json

instance : Identifier ArtifactId := ⟨idJson⟩

instance : Identifier String := ⟨.str⟩

/-- An optional field of a dumped model: absent values are written as null. -/
def Json.ofOption {α : Type} (encode : α → Json) : Option α → Json
  | none => .null
  | some value => encode value

def HumanAction.modelDump (action : HumanAction) : Json :=
  .obj [("action_id", .str action.actionId), ("surface_id", .str action.surfaceId),
    ("artifact_sha256", .str action.artifactSha256), ("version", .int action.version),
    ("decision", .str action.decision.value), ("answer", .str action.answer)]

def ExecutionMetadata.modelDump (execution : ExecutionMetadata) : List (String × Json) :=
  [("execution_id", Json.ofOption .str execution.executionId),
    ("model_id", .str execution.modelId), ("prompt_version", .str execution.promptVersion),
    ("input_tokens", Json.ofOption .int execution.inputTokens),
    ("output_tokens", Json.ofOption .int execution.outputTokens),
    ("cost_usd", Json.ofOption .float execution.costUsd),
    ("cost_basis", .str execution.costBasis)]

/-- What the code takes from outside: the digest of the key-sorted compact text
of a JSON value, the project that belongs to a run, the text of a time, the
nearest floating-point number, and the bytes of a file name. -/
structure Platform where
  sha256 : Json → String
  projectIdForRun : RunId → ProjectId
  isoformat : Nat → String
  roundFloat : Rat → Rat
  nameMax : Nat := 255

end Aidlc
