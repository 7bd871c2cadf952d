import Aidlc.A2a.Client

/-! # The hub, its agents, and the messages between them

Any number of runs delegate to the specialists. Messages wait in the network
until they arrive or are lost; what an agent says about a task may reach the
hub late. A retry reconciles the rows of its run before it delegates again.
-/

namespace Aidlc

open Foundation

/-- The owner under which an agent keeps the tasks of the hub. -/
def hubOwner : String := ""

/-- Where `reconcile_run` stands with the first mapping of its queue. -/
inductive ReconcilePoint where
  | examining | discovering | fetching | canceling | refetching | saving | announcing | checking
  deriving DecidableEq, Repr

/-- The execution of a run: none, one that reconciles the rows listed when it
began, or one that delegates. It remembers which agents failed it. -/
inductive RunPhase where
  | idle
  | reconciling (queue : List DelegatedTask) (point : ReconcilePoint)
  | executing (failed : List (String × StageName))
  deriving DecidableEq

structure World where
  database : Database
  phases : RunId → RunPhase
  invocations : InvocationId → Option Invocation
  detached : InvocationId → Option (Delegation × CancelPhase)
  /-- The identifiers of all invocations that were ever started. -/
  started : List InvocationId
  servers : String → AgentServer
  packets : List Packet
  /-- What the agents said about their tasks. -/
  replies : List (String × AgentTask)

inductive WorldLabel where
  | create (runId : RunId) (idea : String) (now : Nat)
  | retry (runId : RunId)
  | reconcile (runId : RunId) (event : ClientEvent)
  | finish (runId : RunId)
  | invoke (spec : AgentSpec) (context : AgentContext Json)
  | client (id : InvocationId) (event : ClientEvent)
  | detached (id : InvocationId) (event : ClientEvent)
  | deliver (packet : Packet) (freshContext : String)
  | lose (packet : Packet)
  | serve (agent : String) (label : ServerLabel)
  | report (agent : String) (taskId : TaskId)
  /-- The process of the hub dies and starts again. -/
  | crash

structure WorldSettings where
  client : ClientSettings := {}
  gates : GateSettings := {}
  baseUrl : String := "http://127.0.0.1:8001"

namespace World

def empty : World where
  database := .empty
  phases _ := .idle
  invocations _ := none
  detached _ := none
  started := []
  servers _ := .empty
  packets := []
  replies := []

/-- The reservation of the message of an invocation. -/
def reservation (world : World) (id : InvocationId) : Option Reservation :=
  (world.servers id.agent).store.messages (hubOwner, .invocation id)

/-- The remote task of an invocation. -/
def remoteTask (world : World) (id : InvocationId) : Option AgentTask :=
  (world.reservation id).bind fun row =>
    (world.servers id.agent).store.tasks (hubOwner, row.taskId)

/-- An answer about the task of this invocation. -/
def reported (world : World) (id : InvocationId) (task : AgentTask) : Bool :=
  (id.agent, task) ∈ world.replies ∧
    (world.reservation id).map Reservation.taskId = some task.id

/-- The answers an invocation can be given now. -/
def answers (world : World) (id : InvocationId) : ClientEvent → Bool
  | .receive task | .artifact task => world.reported id task
  | _ => true

/-- Whether an invocation of this agent runs for the stage of the run. -/
def busy (world : World) (runId : RunId) (agent : String) (stage : StageName) : Bool :=
  world.started.any fun id =>
    id.runId == runId && id.agent == agent && id.stage == stage &&
      (world.invocations id).isSome

def running (world : World) (runId : RunId) : Bool :=
  world.started.any fun id => id.runId == runId && (world.invocations id).isSome

def setPhase (world : World) (runId : RunId) (phase : RunPhase) : World :=
  { world with phases := Function.update world.phases runId phase }

def setInvocation (world : World) (id : InvocationId) (invocation : Option Invocation) : World :=
  { world with invocations := Function.update world.invocations id invocation }

/-- The effects of a statement of a client on what the hub shares. -/
def after (world : World) (database : Database) (posted : List Packet) : World :=
  { world with database, packets := world.packets ++ posted }

/-- A failed invocation fails its agent for this execution. -/
def markFailed (world : World) (id : InvocationId) : World :=
  match world.phases id.runId with
  | .executing failed => world.setPhase id.runId (.executing ((id.agent, id.stage) :: failed))
  | _ => world

/-- What becomes of an invocation after one of its statements. -/
def proceed (world : World) (id : InvocationId) : Progress → World
  | .running invocation => world.setInvocation id (some invocation)
  | .returned _ => world.setInvocation id none
  | .raised _ none => (world.setInvocation id none).markFailed id
  | .raised _ (some left) =>
    { (world.setInvocation id none).markFailed id with
      detached := Function.update world.detached id (some left) }

/-- One statement of `reconcile_run`; any exception ends the execution. -/
def reconcile (world : World) (runId : RunId) (queue : List DelegatedTask)
    (point : ReconcilePoint) (event : ClientEvent) : Option World :=
  match point, queue, event with
  | .examining, [], .advance _ => some (world.setPhase runId (.executing []))
  | .examining, mapping :: rest, .advance _ =>
    if mapping.state.settled then some (world.setPhase runId (.reconciling rest .examining))
    else if mapping.taskId = none then some (world.setPhase runId .idle)
    else some (world.setPhase runId (.reconciling (mapping :: rest) .discovering))
  | .discovering, queue, .card true =>
    some (world.setPhase runId (.reconciling queue .fetching))
  | .discovering, _, .card false => some (world.setPhase runId .idle)
  | .fetching, mapping :: rest, .receive task =>
    if world.reported mapping.invocationId task then
      let fetched := { mapping with state := .reported task.state }
      if fetched.state.settled then
        some (world.setPhase runId (.reconciling (fetched :: rest) .saving))
      else
        match agentSpecs.find? fun spec => spec.name == mapping.agent with
        | some spec =>
          some ((world.after world.database [.cancel spec task.id]).setPhase runId
            (.reconciling (fetched :: rest) .canceling))
        | none => none
    else none
  | .canceling, queue, .returned =>
    some (world.setPhase runId (.reconciling queue .refetching))
  | .refetching, mapping :: rest, .receive task =>
    if world.reported mapping.invocationId task then
      some (world.setPhase runId
        (.reconciling ({ mapping with state := .reported task.state } :: rest) .saving))
    else none
  | .saving, mapping :: rest, .advance accepted =>
    match written accepted (world.database.saveDelegatedTask mapping) with
    | .error _ => some (world.setPhase runId .idle)
    | .ok database =>
      some ((world.after database []).setPhase runId (.reconciling (mapping :: rest) .announcing))
  | .announcing, mapping :: rest, .advance accepted =>
    match written accepted (world.database.appendEvent runId "a2a.cancellation_result"
      mapping.modelDump) with
    | .error _ => some (world.setPhase runId .idle)
    | .ok database =>
      some ((world.after database []).setPhase runId (.reconciling (mapping :: rest) .checking))
  | .checking, mapping :: rest, .advance _ =>
    if mapping.state.settled then some (world.setPhase runId (.reconciling rest .examining))
    else some (world.setPhase runId .idle)
  | .discovering, _, .raised _ _ | .fetching, _, .raised _ _ | .canceling, _, .raised _ _
  | .refetching, _, .raised _ _ | .discovering, _, .interrupted | .fetching, _, .interrupted
  | .canceling, _, .interrupted | .refetching, _, .interrupted =>
    some (world.setPhase runId .idle)
  | _, _, _ => none

/-- The stage of the specialist behind an endpoint. -/
def stageOf (agent : String) : StageName :=
  match agentSpecs.find? fun spec => spec.name == agent with
  | some spec => spec.stage
  | none => .preflight

/-- The hub is the only client under its owner. -/
def foreign : ServerLabel → Bool
  | .send request _ => request.owner != hubOwner
  | .cancel owner _ => owner != hubOwner
  | _ => true

def serverLabel (freshContext : String) : Packet → String × ServerLabel
  | .message spec message =>
    (spec.name, .send ⟨hubOwner, ["application/json"], message⟩ freshContext)
  | .cancel spec taskId => (spec.name, .cancel hubOwner taskId)

def serve (platform : AgentPlatform) (settings : WorldSettings) (world : World) (agent : String)
    (label : ServerLabel) : Option World :=
  ((agentServer platform settings.gates (stageOf agent)).step (world.servers agent) label).map
    fun server => { world with servers := Function.update world.servers agent server }

end World

open World in
/-- The hub with its agents. -/
def delegation (platform : AgentPlatform) (settings : WorldSettings) : System World WorldLabel where
  step world
    | .create runId idea now =>
      match world.database.createRun runId idea now with
      | .ok database => some ({ world with database }.setPhase runId (.executing []))
      | .error _ => none
    | .retry runId =>
      if world.phases runId = .idle ∧ world.database.hasRun runId then
        some (world.setPhase runId
          (.reconciling (world.database.listDelegatedTasks runId) .examining))
      else none
    | .reconcile runId event =>
      match world.phases runId with
      | .reconciling queue point => world.reconcile runId queue point event
      | _ => none
    | .finish runId =>
      match world.phases runId with
      | .executing _ => if world.running runId then none else some (world.setPhase runId .idle)
      | _ => none
    | .invoke spec context =>
      match world.phases context.runId with
      | .executing failed =>
        let id := Invocation.invocationId spec context
        if spec ∈ agentSpecs ∧ context.stage = spec.stage ∧ (spec.name, spec.stage) ∉ failed ∧
            world.busy context.runId spec.name spec.stage = false ∧ id ∉ world.started then
          some ({ world with started := world.started ++ [id] }.setInvocation id
            (some (Invocation.initial settings.baseUrl spec context)))
        else none
      | _ => none
    | .client id event =>
      match world.invocations id with
      | some invocation =>
        if world.answers id event then
          (invocation.step settings.client world.database event).map fun turn =>
            (world.after turn.database turn.posted).proceed id turn.progress
        else none
      | none => none
    | .detached id event =>
      match world.detached id with
      | some (left, phase) =>
        if world.answers id event then
          (cancelStep world.database left phase event).map fun turn =>
            { world.after turn.database turn.posted with
              detached := Function.update world.detached id (some (turn.delegation, turn.phase)) }
        else none
      | none => none
    | .deliver packet freshContext =>
      if packet ∈ world.packets then
        let (agent, label) := serverLabel freshContext packet
        ({ world with packets := world.packets.erase packet }).serve platform settings agent label
      else none
    | .lose packet =>
      if packet ∈ world.packets then some { world with packets := world.packets.erase packet }
      else none
    | .serve agent label => if foreign label then world.serve platform settings agent label else none
    | .report agent taskId =>
      ((world.servers agent).store.tasks (hubOwner, taskId)).map fun task =>
        { world with replies := world.replies ++ [(agent, task)] }
    | .crash =>
      some { world with
        phases := fun _ => .idle, invocations := fun _ => none, detached := fun _ => none }

end Aidlc
