import Aidlc.A2a.Server
import Aidlc.Agents.Catalog
import Aidlc.Storage.Database

/-! # The client of the hub

An invocation is a program that stops at every statement with an effect: a
database write, a message, or an answer it waits for. Whoever runs it supplies
the answers, the errors, and the interruptions.
-/

namespace Aidlc

open Foundation

structure ClientSettings where
  a2aMaxRetries : Nat := 2
  deriving DecidableEq, Repr

/-- `TERMINAL`, the states in which polling ends. -/
def pollingTerminal : List TaskState :=
  [.completed, .failed, .canceled, .rejected, .inputRequired, .authRequired]

/-- The states `reconcile_run` takes for the end of a task. -/
def DelegationState.settled : DelegationState → Bool
  | .pending => false
  | .reported state => state ∈ AgentServer.terminal

def TaskState.value : TaskState → String
  | .unspecified => "unspecified"
  | .submitted => "submitted"
  | .working => "working"
  | .completed => "completed"
  | .failed => "failed"
  | .canceled => "canceled"
  | .inputRequired => "input_required"
  | .rejected => "rejected"
  | .authRequired => "auth_required"

def DelegationState.value : DelegationState → String
  | .pending => "pending"
  | .reported state => state.value

def DelegatedTask.modelDump (mapping : DelegatedTask) : List (String × Json) :=
  [("invocation_id", .str mapping.invocationId.text), ("run_id", .str mapping.runId),
    ("stage", .str mapping.stage.value), ("agent", .str mapping.agent),
    ("endpoint", .str mapping.endpoint), ("context_id", .str mapping.contextId),
    ("task_id", Json.ofOption idJson mapping.taskId), ("state", .str mapping.state.value),
    ("attempts", .int mapping.attempts), ("repair_attempt", .int mapping.repairAttempt)]

/-- What the hub sends to an agent. -/
inductive Packet where
  | message (spec : AgentSpec) (message : AgentMessage)
  | cancel (spec : AgentSpec) (taskId : TaskId)
  deriving DecidableEq

/-- The record of one invocation: the message it delegates, the row it keeps, and
whether the card was fetched and a client created from it. -/
structure Delegation where
  spec : AgentSpec
  request : AgentMessage
  mapping : DelegatedTask
  card : Bool
  client : Bool
  deriving DecidableEq

/-- A database write that the storage may refuse. -/
def written (accepted : Bool) (write : Except PyError Database) : Except PyError Database :=
  if accepted then write else .error ⟨.storageError, "database is locked"⟩

inductive ClientEvent where
  /-- The next statement runs; a database write in it is accepted or refused. -/
  | advance (accepted : Bool)
  /-- The agent card arrived, and it does or does not match the contract. -/
  | card (valid : Bool)
  /-- A task or status update of the task of this invocation arrived. -/
  | receive (task : AgentTask)
  /-- A stream announced the artifact of a task. -/
  | artifact (task : AgentTask)
  /-- The stream ended. -/
  | closed
  /-- The awaited call returned. -/
  | returned
  | answered (response : Json)
  | raised (error : PyError) (transient : Bool)
  /-- The task is cancelled, or its timeout expires. -/
  | interrupted
  deriving DecidableEq

/-! ## Cancellation -/

/-- Where `_cancel` stands. -/
inductive CancelPhase where
  | recovering
  | canceling
  | fetching
  | saving
  | announcing
  | failing (reason : String)
  | done
  | broken
  deriving DecidableEq, Repr

/-- The first statements of `_cancel`. -/
def Delegation.beginCancel (delegation : Delegation) : CancelPhase × List Packet :=
  if delegation.client && delegation.card then
    match delegation.mapping.taskId with
    | none => (.recovering, [.message delegation.spec delegation.request])
    | some taskId => (.canceling, [.cancel delegation.spec taskId])
  else (.done, [])

/-- The effects of a statement of `_cancel`. -/
structure CancelTurn where
  database : Database
  posted : List Packet
  delegation : Delegation
  phase : CancelPhase

def cancelStep (database : Database) (delegation : Delegation) (phase : CancelPhase)
    (event : ClientEvent) : Option CancelTurn :=
  let mapping := delegation.mapping
  match phase, event with
  | .recovering, .receive task =>
    some ⟨database, [], { delegation with mapping := { mapping with taskId := some task.id } },
      .recovering⟩
  | .recovering, .closed =>
    match mapping.taskId with
    | none => some ⟨database, [], delegation, .done⟩
    | some taskId => some ⟨database, [.cancel delegation.spec taskId], delegation, .canceling⟩
  -- a task that is not cancelable answers as well
  | .canceling, .returned => some ⟨database, [], delegation, .fetching⟩
  | .fetching, .receive task =>
    some ⟨database, [], { delegation with mapping := { mapping with state := .reported task.state } },
      .saving⟩
  | .saving, .advance accepted =>
    match written accepted (database.saveDelegatedTask mapping) with
    | .ok database => some ⟨database, [], delegation, .announcing⟩
    | .error error => some ⟨database, [], delegation, .failing error.message⟩
  | .announcing, .advance accepted =>
    match written accepted (database.appendEvent mapping.runId "a2a.cancellation_result"
      mapping.modelDump) with
    | .ok database => some ⟨database, [], delegation, .done⟩
    | .error error => some ⟨database, [], delegation, .failing error.message⟩
  | .failing reason, .advance accepted =>
    match written accepted (database.appendEvent mapping.runId "a2a.cancellation_failed"
      [("agent", .str mapping.agent), ("reason", .str reason)]) with
    | .ok database => some ⟨database, [], delegation, .done⟩
    | .error _ => some ⟨database, [], delegation, .broken⟩
  | .recovering, .raised error _ | .canceling, .raised error _ | .fetching, .raised error _ =>
    some ⟨database, [], delegation, .failing error.message⟩
  | _, _ => none

/-! ## Invocation -/

/-- Where the program continues after `update`. -/
inductive Resume where
  | stream | poll | continuation
  deriving DecidableEq, Repr

/-- Why an invocation ends without a result. -/
inductive Ending where
  | interrupted
  | failed (error : PyError)
  deriving DecidableEq, Repr

inductive Point where
  | attempting
  | discovering
  | discovered
  | sending
  | streaming
  | noting (task : AgentTask)
  | fetching
  | updating (task : AgentTask) (resume : Resume)
  | announcing (task : AgentTask) (resume : Resume)
  | examining (task : AgentTask)
  | asking (task : AgentTask) (draft : AgentResult)
  | continuing
  | sleeping
  | retrying (error : PyError)
  | backoff
  | canceling (phase : CancelPhase) (ending : Ending)
  | marking (error : PyError)
  | reporting (error : PyError)
  deriving DecidableEq

/-- A running invocation. `sent` remembers that its message was sent. -/
structure Invocation extends Delegation where
  context : AgentContext Json
  point : Point
  sent : Bool
  deriving DecidableEq

inductive Progress where
  | running (invocation : Invocation)
  | returned (result : AgentResult)
  /-- Ended without a result, perhaps leaving a cancellation that goes on alone. -/
  | raised (ending : Ending) (left : Option (Delegation × CancelPhase))

/-- The effects of a statement of `invoke`. -/
structure Turn where
  database : Database
  posted : List Packet
  progress : Progress

namespace Invocation

def invocationId (spec : AgentSpec) (context : AgentContext Json) : InvocationId :=
  ⟨context.runId, context.stage, spec.name, context.repairAttempt, context.retryAttempt⟩

/-- The mapping and the request `invoke` starts with. -/
def initial (baseUrl : String) (spec : AgentSpec) (context : AgentContext Json) : Invocation where
  spec
  request :=
    { messageId := .invocation (invocationId spec context)
      taskId := none
      contextId := context.runId ++ ":" ++ context.stage.value ++
        repairSuffix context.repairAttempt context.retryAttempt
      parts := .data (some context) }
  mapping :=
    { invocationId := invocationId spec context
      runId := context.runId
      stage := context.stage
      agent := spec.name
      endpoint := baseUrl ++ "/agents/" ++ spec.name ++ "/rpc"
      contextId := context.runId ++ ":" ++ context.stage.value ++
        repairSuffix context.repairAttempt context.retryAttempt
      taskId := none
      state := .pending
      attempts := 0
      repairAttempt := context.repairAttempt }
  card := false
  client := false
  context
  point := .attempting
  sent := false

/-- `_decode_result` of the only artifact a task can have. -/
def decodeResult (spec : AgentSpec) (task : AgentTask) : Except PyError AgentResult :=
  match task.artifact with
  | none => .error ⟨.valueError, "Expected exactly one structured result artifact"⟩
  | some result =>
    if result.artifactKind ≠ spec.artifactKind then
      .error ⟨.valueError, "Unexpected artifact kind from " ++ spec.name⟩
    else .ok result

/-- `_result` -/
def taskResult (spec : AgentSpec) (task : AgentTask) : Except PyError AgentResult :=
  if task.state = .canceled then
    .error ⟨.remoteTaskCanceled,
      spec.name ++ " task " ++ toString task.id ++ " was canceled"⟩
  else if task.state ≠ .completed then
    .error ⟨.remoteTaskError, spec.name ++ ": " ++ task.state.value ++ " " ++ task.detail⟩
  else decodeResult spec task

def goto (invocation : Invocation) (point : Point) : Invocation := { invocation with point }

def withMapping (invocation : Invocation) (mapping : DelegatedTask) : Invocation :=
  { invocation with mapping }

def emit (invocation : Invocation) (database : Database) (accepted : Bool) (eventType : String)
    (payload : List (String × Json)) : Except PyError Database :=
  written accepted (database.appendEvent invocation.mapping.runId eventType payload)

/-- Run `_cancel` under the shield of the handler. -/
def startCancel (invocation : Invocation) (database : Database) (ending : Ending) : Turn :=
  let (phase, posted) := invocation.beginCancel
  ⟨database, posted,
    .running { invocation with
      point := .canceling phase ending
      sent := invocation.sent || (phase = .recovering) }⟩

/-- The handlers around the retry loop. -/
def escalate (invocation : Invocation) (database : Database) (error : PyError) : Turn :=
  if error.type = .timeoutError then invocation.startCancel database .interrupted
  else if invocation.mapping.state ∈
      [.reported .submitted, .reported .working, .reported .inputRequired] then
    invocation.startCancel database (.failed error)
  else ⟨database, [], .running (invocation.goto (.marking error))⟩

/-- The handler inside the retry loop. -/
def fail (settings : ClientSettings) (invocation : Invocation) (database : Database)
    (error : PyError) (transient : Bool) : Turn :=
  if !transient || invocation.mapping.attempts > settings.a2aMaxRetries then
    invocation.escalate database error
  else ⟨database, [], .running (invocation.goto (.retrying error))⟩

def resumeAt (invocation : Invocation) (task : AgentTask) : Resume → Invocation
  | .stream => invocation.goto .streaming
  | .poll => invocation.goto (.examining task)
  | .continuation => invocation.goto .continuing

/-- The message that answers a request for human input. -/
def continuation (invocation : Invocation) (task : AgentTask) (response : Json)
    (actionId : String) : AgentMessage where
  messageId := .human invocation.mapping.invocationId actionId
  taskId := some task.id
  contextId := task.contextId
  parts := .data (some { invocation.context with humanResponse := some response })

/-- `update`, up to the emission of its event. -/
def update (settings : ClientSettings) (invocation : Invocation) (database : Database)
    (task : AgentTask) (resume : Resume) (accepted : Bool) : Turn :=
  let mapping := invocation.mapping
  if task.contextId ≠ mapping.contextId then
    invocation.fail settings database ⟨.valueError, "A2A task/context identity mismatch"⟩ false
  else if mapping.taskId.isSome ∧ mapping.taskId ≠ some task.id then
    invocation.fail settings database ⟨.valueError, "Agent changed the delegated task ID"⟩ false
  else
    let updated := invocation.withMapping
      { mapping with taskId := some task.id, state := .reported task.state }
    match written accepted (database.saveDelegatedTask updated.mapping) with
    | .error error => updated.fail settings database error false
    | .ok database =>
      if mapping.state = .reported task.state then
        ⟨database, [], .running (updated.resumeAt task resume)⟩
      else ⟨database, [], .running (updated.goto (.announcing task resume))⟩

/-- The body of the polling loop after a task was fetched. -/
def examine (settings : ClientSettings) (invocation : Invocation) (database : Database)
    (task : AgentTask) : Turn :=
  if task.state = .inputRequired then
    match decodeResult invocation.spec task with
    | .error error => invocation.fail settings database error false
    | .ok draft =>
      if draft.humanPrompt = none then
        invocation.fail settings database
          ⟨.remoteTaskError, "Agent requested unsupported human input"⟩ false
      else ⟨database, [], .running (invocation.goto (.asking task draft))⟩
  else if task.state ∈ pollingTerminal then
    match taskResult invocation.spec task with
    | .error error => invocation.fail settings database error false
    | .ok result => ⟨database, [], .returned result⟩
  else ⟨database, [], .running (invocation.goto .sleeping)⟩

/-- The statements between two awaited answers, one at a time. -/
def advance (settings : ClientSettings) (invocation : Invocation) (database : Database)
    (accepted : Bool) : Option Turn :=
  let mapping := invocation.mapping
  match invocation.point with
  | .attempting =>
    let started := invocation.withMapping { mapping with attempts := mapping.attempts + 1 }
    match written accepted (database.saveDelegatedTask started.mapping) with
    | .error error => some (started.escalate database error)
    | .ok database =>
      some ⟨database, [], .running (started.goto (if started.client then .sending else .discovering))⟩
  | .discovered =>
    match invocation.emit database accepted "a2a.agent_discovered"
      [("agent", .str mapping.agent), ("endpoint", .str mapping.endpoint),
        ("protocol", .str "1.0")] with
    | .error error => some (invocation.fail settings database error false)
    | .ok database => some ⟨database, [], .running (invocation.goto .sending)⟩
  | .sending =>
    match mapping.taskId with
    | none =>
      some ⟨database, [.message invocation.spec invocation.request],
        .running { invocation with point := .streaming, sent := true }⟩
    | some _ => some ⟨database, [], .running (invocation.goto .fetching)⟩
  | .noting task =>
    match invocation.emit database accepted "a2a.artifact_received"
      [("agent", .str mapping.agent), ("task_id", idJson task.id),
        ("artifact_id", .str (toString task.id ++ ":result"))] with
    | .error error => some (invocation.fail settings database error false)
    | .ok database => some ⟨database, [], .running (invocation.goto .streaming)⟩
  | .updating task resume => some (invocation.update settings database task resume accepted)
  | .announcing task resume =>
    match invocation.emit database accepted "a2a.task_status" mapping.modelDump with
    | .error error => some (invocation.fail settings database error false)
    | .ok database => some ⟨database, [], .running (invocation.resumeAt task resume)⟩
  | .examining task => some (invocation.examine settings database task)
  | .retrying error =>
    match invocation.emit database accepted "a2a.retry"
      [("agent", .str mapping.agent), ("attempt", .int (mapping.attempts + 1)),
        ("invocation_id", .str mapping.invocationId.text), ("reason", .str error.message)] with
    | .error refused => some (invocation.escalate database refused)
    | .ok database => some ⟨database, [], .running (invocation.goto .backoff)⟩
  | .canceling .done .interrupted => some ⟨database, [], .raised .interrupted none⟩
  | .canceling .done (.failed error) =>
    some ⟨database, [], .running (invocation.goto (.marking error))⟩
  | .canceling .broken ending => some ⟨database, [], .raised ending none⟩
  | .marking error =>
    if mapping.state = .pending then
      let marked := invocation.withMapping { mapping with state := .reported .failed }
      match written accepted (database.saveDelegatedTask marked.mapping) with
      | .error refused => some ⟨database, [], .raised (.failed refused) none⟩
      | .ok database => some ⟨database, [], .running (marked.goto (.reporting error))⟩
    else some ⟨database, [], .running (invocation.goto (.reporting error))⟩
  | .reporting error =>
    match invocation.emit database accepted "a2a.invocation_failed"
      [("agent", .str mapping.agent), ("reason", .str error.message),
        ("task_id", Json.ofOption idJson mapping.taskId)] with
    | .error refused => some ⟨database, [], .raised (.failed refused) none⟩
    | .ok database => some ⟨database, [], .raised (.failed error) none⟩
  | _ => none

/-- The points that wait inside the retry loop, where an interruption is delivered. -/
def awaiting : Point → Bool
  | .discovering | .streaming | .fetching | .asking .. | .continuing | .sleeping | .backoff => true
  | _ => false

def step (settings : ClientSettings) (invocation : Invocation) (database : Database)
    (event : ClientEvent) : Option Turn :=
  let mapping := invocation.mapping
  match invocation.point, event with
  | .discovering, .card true =>
    some ⟨database, [],
      .running { invocation with card := true, client := true, point := .discovered }⟩
  | .discovering, .card false =>
    some (fail settings { invocation with card := true } database
      ⟨.valueError, "Agent Card does not match the pinned A2A contract"⟩ false)
  | .streaming, .receive task =>
    some ⟨database, [], .running (invocation.goto (.updating task .stream))⟩
  | .streaming, .artifact task =>
    if mapping.taskId ≠ some task.id ∨ task.contextId ≠ mapping.contextId then
      some (invocation.fail settings database
        ⟨.valueError, "Artifact task/context identity mismatch"⟩ false)
    else some ⟨database, [], .running (invocation.goto (.noting task))⟩
  | .streaming, .closed =>
    if mapping.taskId = none then
      some (invocation.fail settings database
        ⟨.valueError, "Agent stream ended without a task"⟩ false)
    else some ⟨database, [], .running (invocation.goto .fetching)⟩
  | .fetching, .receive task =>
    some ⟨database, [], .running (invocation.goto (.updating task .poll))⟩
  | .asking task _, .answered response =>
    match (response.get? "action_id").bind Json.str? with
    | none => some (invocation.fail settings database ⟨.keyError, "action_id"⟩ false)
    | some actionId =>
      some ⟨database, [.message invocation.spec (invocation.continuation task response actionId)],
        .running (invocation.goto .continuing)⟩
  | .continuing, .receive task =>
    some ⟨database, [], .running (invocation.goto (.updating task .continuation))⟩
  | .continuing, .closed => some ⟨database, [], .running (invocation.goto .fetching)⟩
  | .sleeping, .returned => some ⟨database, [], .running (invocation.goto .fetching)⟩
  | .backoff, .returned => some ⟨database, [], .running (invocation.goto .attempting)⟩
  -- the shielded cancellation goes on when its waiter is interrupted
  | .canceling phase _, .interrupted =>
    some ⟨database, [], .raised .interrupted (some (invocation.toDelegation, phase))⟩
  | .canceling phase ending, event =>
    match cancelStep database invocation.toDelegation phase event with
    | some turn =>
      some ⟨turn.database, turn.posted,
        .running { invocation with
          toDelegation := turn.delegation
          point := .canceling turn.phase ending }⟩
    | none =>
      match event with
      | .advance accepted => invocation.advance settings database accepted
      | _ => none
  | point, .raised error transient =>
    if awaiting point then
      -- an error while sleeping between two attempts is outside the inner handler
      match point with
      | .backoff => some (invocation.escalate database error)
      | _ => some (invocation.fail settings database error transient)
    else none
  | point, .interrupted =>
    if awaiting point then some (invocation.startCancel database .interrupted) else none
  | _, .advance accepted => invocation.advance settings database accepted
  | _, _ => none

end Invocation

end Aidlc
