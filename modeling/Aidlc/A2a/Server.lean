import Aidlc.Foundation.Transition
import Aidlc.A2a.TaskStore

/-! # Specialists and their human gates

An agent server reserves a task for every message, runs the specialist, and
publishes its result. A stage with a human gate publishes a draft that waits
for input; only a bound approval of that draft lets its task complete.
-/

namespace Aidlc

open Foundation TaskStore

/-- The human gates of the settings. -/
structure GateSettings where
  humanGatesEnabled : Bool := true
  requireRequirementsApproval : Bool := true
  requirePlanApproval : Bool := true
  requireReleaseApproval : Bool := true
  deriving DecidableEq, Repr

namespace GateSettings

/-- The stages whose draft waits for an approval. -/
def gates (settings : GateSettings) : List (StageName × Bool) :=
  [(.requirements, settings.requireRequirementsApproval),
    (.planning, settings.requirePlanApproval)]

def approvalPrompt (stage : StageName) : HumanPrompt :=
  ⟨.approval, "Approve the " ++ stage.value ++ " artifact?"⟩

def evaluationPrompt : HumanPrompt :=
  ⟨.evaluationDecision,
    "Review the quality gates and model evaluation. Your decision is final: accept the " ++
    "evaluated result and continue to release, or send it to repair."⟩

/-- The prompts the executor puts on the result of a handler. -/
def withGate (settings : GateSettings) (stage : StageName) (result : AgentResult) : AgentResult :=
  let result :=
    if settings.humanGatesEnabled ∧ (settings.gates.lookup stage).getD false then
      { result with humanPrompt := some (approvalPrompt stage) }
    else result
  if settings.humanGatesEnabled ∧ stage = .evaluation ∧ settings.requireReleaseApproval then
    { result with humanPrompt := some evaluationPrompt }
  else result

/-- The stage has a human gate, and the gate is enabled. -/
def gated (settings : GateSettings) (stage : StageName) : Bool :=
  settings.humanGatesEnabled && match stage with
    | .requirements => settings.requireRequirementsApproval
    | .planning => settings.requirePlanApproval
    | .evaluation => settings.requireReleaseApproval
    | _ => false

end GateSettings

/-- What a specialist takes from outside: the digest of canonical JSON, the
digest of a message, and the passage of JSON through a protocol message. -/
structure AgentPlatform where
  sha256 : Json → String
  fingerprint : AgentMessage → String
  wire : Json → Except PyError Json

/-- `model_dump(exclude={"human_response"})` of two contexts compared. -/
def AgentContext.sameRequest (left right : AgentContext Json) : Bool :=
  left.runId == right.runId && left.idea == right.idea && left.stage == right.stage &&
    Json.pyEqItems left.artifacts right.artifacts && left.retryAttempt == right.retryAttempt &&
    left.repairAttempt == right.repairAttempt &&
    Json.pyEq (Json.ofOption id left.repairFeedback) (Json.ofOption id right.repairFeedback) &&
    left.repairArtifactId == right.repairArtifactId &&
    left.repairArtifactSha256 == right.repairArtifactSha256

/-- What a human response decides about a draft that it is about: `none` when the draft is
rejected. -/
def verdict (response : Json) (draft : AgentResult) (handled : Except PyError AgentResult) :
    Except PyError (Option AgentResult) :=
  if response.get? "decision" = some (.str "reject") then .ok none
  else match draft.humanPrompt.map HumanPrompt.kind with
    | some .approval =>
      if response.get? "decision" ≠ some (.str "approve") then
        .error ⟨.valueError, "Approval requires an approve or reject decision"⟩
      else .ok (some { draft with humanPrompt := none })
    | some .evaluationDecision =>
      if response.get? "decision" ≠ some (.str "accept") ∧
          response.get? "decision" ≠ some (.str "repair") then
        .error ⟨.valueError, "Evaluation requires an accept or repair decision"⟩
      else .ok (some { draft with humanPrompt := none })
    | some .clarification | none => handled.map some

/-- A human response to the stored draft. -/
def review (platform : AgentPlatform) (context : AgentContext Json) (response : Json)
    (prior : AgentTask) (draft : AgentResult) (handled : Except PyError AgentResult) :
    Except PyError (Option AgentResult) :=
  if response.get? "artifact_sha256" ≠ some (.str (platform.sha256 draft.content)) then
    .error ⟨.valueError, "Human response does not match the waiting artifact hash"⟩
  else match prior.history.head?.bind AgentMessage.payload with
    | none => .error ⟨.validationError, ""⟩
    | some original =>
      if !context.sameRequest original then
        .error ⟨.valueError, "Continuation changed the original agent context"⟩
      else verdict response draft handled

/-- The result an execution publishes. What the handler of the specialist
returned or raised is only looked at where the handler runs. -/
def execute (platform : AgentPlatform) (settings : GateSettings) (stage : StageName)
    (message : AgentMessage) (prior : AgentTask) (handled : Except PyError AgentResult) :
    Except PyError (Option AgentResult) :=
  match message.payload with
  | none => .error ⟨.validationError, ""⟩
  | some context =>
    match context.humanResponse, prior.artifact with
    | some response, some draft =>
      if Json.truthy (some response) then review platform context response prior draft handled
      else handled.map fun result => some (settings.withGate stage result)
    | _, _ => handled.map fun result => some (settings.withGate stage result)

/-- `json_part` of a result, as it is read back from the stored artifact. -/
def jsonPart (platform : AgentPlatform) (result : AgentResult) : Except PyError AgentResult :=
  (platform.wire result.content).map fun content => { result with content }

/-- The result added to a task, `none` for a rejected draft. -/
def addResult (platform : AgentPlatform) :
    Option AgentResult → Except PyError (Option AgentResult)
  | none => .ok none
  | some result => (jsonPart platform result).map some

/-- What the executor adds to its task. -/
def published (platform : AgentPlatform) (settings : GateSettings) (stage : StageName)
    (message : AgentMessage) (prior : AgentTask) (handled : Except PyError AgentResult) :
    Except PyError (Option AgentResult) :=
  (execute platform settings stage message prior handled).bind (addResult platform)

structure SendRequest where
  owner : String
  acceptedOutputModes : List String
  message : AgentMessage
  deriving DecidableEq

/-- `IdempotentHandler._prepare`. -/
def prepare (platform : AgentPlatform) (stage : StageName) (store : TaskStore)
    (request : SendRequest) (freshContext : String) :
    Except PyError ((AgentTask × Bool) × TaskStore) :=
  if request.acceptedOutputModes ≠ [] ∧ "application/json" ∉ request.acceptedOutputModes then
    .error ⟨.contentTypeNotSupportedError, "This specialist produces application/json"⟩
  else match request.message.parts with
    | .unsupported =>
      .error ⟨.contentTypeNotSupportedError, "Expected one application/json data part"⟩
    | .data none => .error ⟨.invalidParamsError, "Invalid AgentContext payload"⟩
    | .data (some payload) =>
      if payload.stage ≠ stage then
        .error ⟨.invalidParamsError, "This specialist does not support the requested stage"⟩
      else if request.message.taskId.isSome ∧ payload.humanResponse = none then
        .error ⟨.invalidParamsError, "A continuation requires a human response"⟩
      else store.reserve platform.fingerprint request.owner request.message freshContext

/-- How far the execution of a task has come: reserved, running with the task it
was handed, or published with or without a prompt. -/
inductive Phase where
  | reserved
  | working (prior : AgentTask)
  | published (prompted : Bool)
  deriving DecidableEq

structure Execution where
  owner : String
  message : AgentMessage
  phase : Phase
  deriving DecidableEq

/-- The record of one call of the executor: the message it was given and the
result that its task held then. -/
structure Handling where
  owner : String
  taskId : TaskId
  message : AgentMessage
  stored : Option AgentResult
  deriving DecidableEq

structure AgentServer where
  store : TaskStore
  executions : TaskId → Option Execution
  handlings : List Handling

namespace AgentServer

def empty : AgentServer := ⟨.empty, fun _ => none, []⟩

def setExecution (server : AgentServer) (taskId : TaskId) (execution : Option Execution) :
    AgentServer :=
  { server with executions := Function.update server.executions taskId execution }

def save (server : AgentServer) (owner : String) (task : AgentTask) : AgentServer :=
  { server with store := server.store.save owner task }

def terminal : List TaskState := [.completed, .canceled, .failed, .rejected]

/-- The reservation of a message, followed by the start of its execution. A
refused request changes nothing. -/
def send (platform : AgentPlatform) (stage : StageName) (server : AgentServer)
    (request : SendRequest) (freshContext : String) : AgentServer :=
  match prepare platform stage server.store request freshContext with
  | .error _ => server
  | .ok ((task, created), store) =>
    if created then
      setExecution { server with store } task.id
        (some ⟨request.owner, request.message, .reserved⟩)
    else { server with store }

/-- `updater.start_work()`, on the stored task. -/
def start (server : AgentServer) (taskId : TaskId) (execution : Execution) (task : AgentTask) :
    AgentServer :=
  (server.save execution.owner { task with state := .working, detail := "" }).setExecution taskId
    (some { execution with phase := .working task })

def fail (server : AgentServer) (taskId : TaskId) (execution : Execution) (task : AgentTask)
    (detail : String) : AgentServer :=
  (server.save execution.owner { task with state := .failed, detail }).setExecution taskId none

def publish (server : AgentServer) (taskId : TaskId) (execution : Execution) (task : AgentTask)
    (result : AgentResult) : AgentServer :=
  (server.save execution.owner { task with artifact := some result }).setExecution taskId
    (some { execution with phase := .published result.humanPrompt.isSome })

/-- Remember the call of the executor for a task. -/
def record (server : AgentServer) (taskId : TaskId) (execution : Execution) (task : AgentTask) :
    AgentServer :=
  { server with
    handlings := server.handlings ++
      [⟨execution.owner, taskId, execution.message, task.artifact⟩] }

/-- The body of the executor up to the publication of its result. -/
def handle (platform : AgentPlatform) (settings : GateSettings) (stage : StageName)
    (server : AgentServer) (taskId : TaskId) (execution : Execution) (prior task : AgentTask)
    (handled : Except PyError AgentResult) : AgentServer :=
  match published platform settings stage execution.message prior handled with
  | .error error =>
    (server.record taskId execution task).fail taskId execution task
      (error.type.name ++ ": " ++ error.message)
  | .ok none =>
    (server.record taskId execution task).fail taskId execution task "Human rejected draft"
  | .ok (some result) =>
    (server.record taskId execution task).publish taskId execution task result

/-- `updater.requires_input()` or `updater.complete()`. -/
def conclude (server : AgentServer) (taskId : TaskId) (execution : Execution) (task : AgentTask)
    (prompted : Bool) : AgentServer :=
  let state := if prompted then TaskState.inputRequired else .completed
  (server.save execution.owner { task with state, detail := "" }).setExecution taskId none

/-- `on_cancel_task`: a terminal task is not cancelable. -/
def cancel (server : AgentServer) (owner : String) (task : AgentTask) : AgentServer :=
  if task.state ∈ terminal then server
  else (server.save owner { task with state := .canceled, detail := "" }).setExecution task.id none

def restart (server : AgentServer) : AgentServer :=
  { server with store := server.store.recover, executions := fun _ => none }

end AgentServer

inductive ServerLabel where
  | send (request : SendRequest) (freshContext : String)
  | start (taskId : TaskId)
  | handle (taskId : TaskId) (handled : Except PyError AgentResult)
  | conclude (taskId : TaskId)
  | cancel (owner : String) (taskId : TaskId)
  | restart

/-- The server of one specialist. Requests arrive in any order, and an execution
advances at any time. -/
def agentServer (platform : AgentPlatform) (settings : GateSettings) (stage : StageName) :
    System AgentServer ServerLabel where
  step server
    | .send request freshContext => some (server.send platform stage request freshContext)
    | .start taskId =>
      match server.executions taskId with
      | some execution =>
        match execution.phase, server.store.tasks (execution.owner, taskId) with
        | .reserved, some task => some (server.start taskId execution task)
        | _, _ => none
      | none => none
    | .handle taskId handled =>
      match server.executions taskId with
      | some execution =>
        match execution.phase, server.store.tasks (execution.owner, taskId) with
        | .working prior, some task =>
          some (server.handle platform settings stage taskId execution prior task handled)
        | _, _ => none
      | none => none
    | .conclude taskId =>
      match server.executions taskId with
      | some execution =>
        match execution.phase, server.store.tasks (execution.owner, taskId) with
        | .published prompted, some task =>
          some (server.conclude taskId execution task prompted)
        | _, _ => none
      | none => none
    | .cancel owner taskId =>
      match server.store.tasks (owner, taskId) with
      | some task => some (server.cancel owner task)
      | none => some server
    | .restart => some server.restart

section Steps

variable {platform : AgentPlatform} {settings : GateSettings} {stage : StageName}

/-- What one step of the server does. -/
inductive ServerOutcome (platform : AgentPlatform) (settings : GateSettings) (stage : StageName)
    (server : AgentServer) : ServerLabel → AgentServer → Prop
  | unchanged (label : ServerLabel) : ServerOutcome platform settings stage server label server
  | reserved (request : SendRequest) (freshContext : String) (task : AgentTask)
      (store : TaskStore)
      (hreserved : Reserved platform.fingerprint server.store request.owner request.message
        server.store.nextTaskId (server.store.nextTaskId + 1) freshContext task true store) :
      ServerOutcome platform settings stage server (.send request freshContext)
        (AgentServer.setExecution { server with store } task.id
          (some ⟨request.owner, request.message, .reserved⟩))
  | started (taskId : TaskId) (execution : Execution) (task : AgentTask)
      (hexecution : server.executions taskId = some execution)
      (hphase : execution.phase = .reserved)
      (htask : server.store.tasks (execution.owner, taskId) = some task) :
      ServerOutcome platform settings stage server (.start taskId)
        (server.start taskId execution task)
  | failed (taskId : TaskId) (handled : Except PyError AgentResult) (execution : Execution)
      (prior task : AgentTask) (detail : String)
      (hexecution : server.executions taskId = some execution)
      (hphase : execution.phase = .working prior)
      (htask : server.store.tasks (execution.owner, taskId) = some task) :
      ServerOutcome platform settings stage server (.handle taskId handled)
        ((server.record taskId execution task).fail taskId execution task detail)
  | published (taskId : TaskId) (handled : Except PyError AgentResult) (execution : Execution)
      (prior task : AgentTask) (result : AgentResult)
      (hexecution : server.executions taskId = some execution)
      (hphase : execution.phase = .working prior)
      (htask : server.store.tasks (execution.owner, taskId) = some task)
      (hresult : published platform settings stage execution.message prior handled =
        .ok (some result)) :
      ServerOutcome platform settings stage server (.handle taskId handled)
        ((server.record taskId execution task).publish taskId execution task result)
  | concluded (taskId : TaskId) (execution : Execution) (task : AgentTask) (prompted : Bool)
      (hexecution : server.executions taskId = some execution)
      (hphase : execution.phase = .published prompted)
      (htask : server.store.tasks (execution.owner, taskId) = some task) :
      ServerOutcome platform settings stage server (.conclude taskId)
        (server.conclude taskId execution task prompted)
  | canceled (owner : String) (taskId : TaskId) (task : AgentTask)
      (htask : server.store.tasks (owner, taskId) = some task)
      (hactive : task.state ∉ AgentServer.terminal) :
      ServerOutcome platform settings stage server (.cancel owner taskId)
        ((server.save owner { task with state := .canceled, detail := "" }).setExecution
          task.id none)
  | restarted : ServerOutcome platform settings stage server .restart server.restart

theorem reserved_of_prepare {store next : TaskStore} {request : SendRequest}
    {freshContext : String} {task : AgentTask} {created : Bool}
    (hprepare : prepare platform stage store request freshContext = .ok ((task, created), next)) :
    Reserved platform.fingerprint store request.owner request.message store.nextTaskId
      (store.nextTaskId + 1) freshContext task created next := by
  unfold prepare at hprepare
  split at hprepare
  · cases hprepare
  · split at hprepare
    · cases hprepare
    · cases hprepare
    · split at hprepare
      · cases hprepare
      · split at hprepare
        · cases hprepare
        · exact reserved_of_reserve hprepare

theorem outcome_of_serverStep {server next : AgentServer} {label : ServerLabel}
    (hstep : (agentServer platform settings stage).step server label = some next) :
    ServerOutcome platform settings stage server label next := by
  cases label with
  | send request freshContext =>
      simp only [agentServer, Option.some.injEq] at hstep
      subst hstep
      unfold AgentServer.send
      cases hprepare : prepare platform stage server.store request freshContext with
      | error error => exact .unchanged _
      | ok prepared =>
          obtain ⟨⟨task, created⟩, store⟩ := prepared
          have hreserved := reserved_of_prepare hprepare
          cases created with
          | true => exact .reserved request freshContext task store hreserved
          | false =>
              cases hreserved
              exact .unchanged _
  | start taskId =>
      simp only [agentServer] at hstep
      split at hstep
      · rename_i execution hexecution
        split at hstep
        · rename_i task hphase htask
          cases hstep
          exact .started taskId execution task hexecution hphase htask
        · cases hstep
      · cases hstep
  | handle taskId handled =>
      simp only [agentServer] at hstep
      split at hstep
      · rename_i execution hexecution
        split at hstep
        · rename_i prior task hphase htask
          cases hstep
          unfold AgentServer.handle
          cases hresult : published platform settings stage execution.message prior handled with
          | error error => exact .failed taskId handled execution prior task _ hexecution hphase htask
          | ok output =>
              cases output with
              | none => exact .failed taskId handled execution prior task _ hexecution hphase htask
              | some result =>
                  exact .published taskId handled execution prior task result hexecution hphase
                    htask hresult
        · cases hstep
      · cases hstep
  | conclude taskId =>
      simp only [agentServer] at hstep
      split at hstep
      · rename_i execution hexecution
        split at hstep
        · rename_i prompted task hphase htask
          cases hstep
          exact .concluded taskId execution task prompted hexecution hphase htask
        · cases hstep
      · cases hstep
  | cancel owner taskId =>
      simp only [agentServer] at hstep
      split at hstep
      · rename_i task htask
        cases hstep
        unfold AgentServer.cancel
        split
        · exact .unchanged _
        · exact .canceled owner taskId task htask ‹_›
      · cases hstep
        exact .unchanged _
  | restart =>
      simp only [agentServer, Option.some.injEq] at hstep
      subst hstep
      exact .restarted

end Steps

end Aidlc
