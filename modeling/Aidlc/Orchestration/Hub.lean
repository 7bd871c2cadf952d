import Aidlc.Foundation.Transition
import Aidlc.Orchestration.Workflow

/-! # The hub

The event loop of the hub: coroutines of any number of runs, the agent tasks of
their stages, and the calls of the interface. What runs between two awaits runs
alone; between two such pieces any of them may be next. The process may die at
every statement.
-/

namespace Aidlc

open Foundation

/-- An invocation the hub made. -/
structure Delegated where
  spec : AgentSpec
  context : AgentContext ContextItem
  deriving DecidableEq

def Delegated.id (delegated : Delegated) : InvocationId where
  runId := delegated.context.runId
  stage := delegated.context.stage
  agent := delegated.spec.name
  repairAttempt := delegated.context.repairAttempt
  retryAttempt := delegated.context.retryAttempt

/-- What outlives the process, and the invocations made so far, which nothing reads. -/
structure Shared where
  stores : Stores
  delegated : List Delegated

namespace Shared

def withStores (shared : Shared) (stores : Stores) : Shared := { shared with stores }

def withDatabase (shared : Shared) (database : Database) : Shared :=
  shared.withStores (shared.stores.withDatabase database)

/-- The record of one more invocation. -/
def delegate (shared : Shared) (spec : AgentSpec) (context : AgentContext ContextItem) : Shared :=
  { shared with delegated := shared.delegated ++ [⟨spec, context⟩] }

end Shared

/-- Where the task of one agent stands. -/
inductive ChildBody where
  | scheduled
  | running (routine : Routine ArtifactId)
  | invoking (invocation : Invocation) (resume : Except Raised AgentResult → Routine ArtifactId)
  /-- The invocation waits for `_human_input`. -/
  | asking (invocation : Invocation) (routine : Routine Json)
      (resume : Except Raised AgentResult → Routine ArtifactId)
  | finished (result : Except Raised ArtifactId)

/-- The task of one agent. Its cancellation is `pending` until it is thrown. -/
structure Child where
  spec : AgentSpec
  slot : Bool
  pending : Bool
  cancelled : Bool
  body : ChildBody

/-- A task group, and the coroutine that waits for it. -/
structure Group where
  job : StageJob
  children : List Child
  aborting : Bool
  interrupted : Bool
  resume : Except Raised (List ArtifactId) → Routine Unit

inductive Body where
  | scheduled
  | running (routine : Routine Unit)
  | gathering (group : Group)

/-- An execution of a run. -/
structure Coroutine where
  runId : RunId
  retryAttempt : Nat
  cancelling : Bool
  pending : Bool
  body : Body

/-- Who runs between two awaits. -/
inductive Active where
  | handler (runId : RunId) (routine : Routine Unit)
  | coroutine (task : Nat)
  | child (task : Nat) (agent : String)

/-- The life of the process: it serves, or it only finishes what it runs. -/
inductive ProcessPhase where
  | down | serving | stopping
  deriving DecidableEq, Repr

structure Hub extends Shared where
  phase : ProcessPhase
  /-- `_tasks` -/
  tasks : RunId → Option Nat
  coroutines : Nat → Option Coroutine
  nextTask : Nat
  active : Option Active
  detached : List (Delegation × CancelPhase)

/-- A call of the interface for an existing run. -/
inductive Command where
  | retry
  | cancel
  | respond (action : HumanAction)
  deriving DecidableEq

/-- An answer from outside the hub. -/
inductive Reply where
  | card (valid : Bool)
  | task (state : TaskState)
  | returned
  | host (report : HostReport)
  | raised (error : PyError)
  deriving DecidableEq

inductive HubLabel where
  | create (id : Uuid) (idea : String) (now : Nat)
  | call (runId : RunId) (command : Command)
  /-- The next statement of whoever runs. -/
  | step (fault : StorageFault)
  | start (task : Nat)
  | reply (task : Nat) (reply : Reply)
  | interrupt (task : Nat)
  | join (task : Nat)
  /-- The callback that removes a task that is done. -/
  | pop (runId : RunId)
  | startChild (task : Nat) (agent : String)
  | acquire (task : Nat) (agent : String)
  | client (task : Nat) (agent : String) (event : ClientEvent)
  | poll (task : Nat) (agent : String) (accepted : Bool)
  | interruptChild (task : Nat) (agent : String)
  | detached (index : Nat) (event : ClientEvent)
  | shutdown
  | crash
  /-- Startup, or the beginning of one that is cut off after some runs and some
  statements for the next. -/
  | recover (cut : Option (Nat × Nat))
  deriving DecidableEq

/-- `f"run_{uuid4().hex}"` -/
def newRunId (id : Uuid) : RunId := "run_" ++ id.hex

/-- The first statements of a round of `recover_interrupted_runs`. -/
def Database.recoverStatements (database : Database) (run : WorkflowRun) (count : Nat) : Database :=
  if run.status ∈ [RunStatus.pending, .running, .inputRequired] then
    let marked := match run.currentStage with
      | some stage => database.updateStage run.runId stage .blocked (some interruptedReason)
      | none => database
    match count with
    | 0 => database
    | 1 => marked
    | _ => marked.updateRun run.runId .blocked run.currentStage (some interruptedReason)
  else database

/-- `recover_interrupted_runs`, stopped after some runs and statements. -/
def Database.recoverPart (database : Database) (runs statements : Nat) : Except PyError Database :=
  let listed := database.listRuns 10000
  ((listed.take runs).foldlM Database.recoverRun database).map fun recovered =>
    match listed[runs]? with
    | some run => recovered.recoverStatements run statements
    | none => recovered

def Reply.answer : (reply : Reply) → (request : Request) → Option request.Answer
  | .card valid, .agentCard _ => some (.ok valid)
  | .task state, .getTask .. => some (.ok state)
  | .returned, .cancelRemoteTask .. => some (.ok ())
  | .host report, .inspectHost => some (.ok report)
  | .raised error, .agentCard _ | .raised error, .getTask .. | .raised error, .cancelRemoteTask ..
  | .raised error, .inspectHost => some (.error (.failed [error]))
  | _, _ => none

namespace Child

def start (spec : AgentSpec) : Child := ⟨spec, false, false, false, .scheduled⟩

def done (child : Child) : Bool :=
  match child.body with
  | .finished _ => true
  | _ => false

/-- Ask for the cancellation of a task that is not done. -/
def cancel (child : Child) : Child :=
  if child.done || child.cancelled then child else { child with pending := true }

/-- The child once its routine has run to its next statement. -/
def settle (child : Child) (routine : Routine ArtifactId) : Child :=
  match routine with
  | .done artifactId => { child with slot := false, body := .finished (.ok artifactId) }
  | .raise raised => { child with slot := false, body := .finished (.error raised) }
  | routine => { child with body := .running routine }

end Child

namespace Group

def start (job : StageJob) (resume : Except Raised (List ArtifactId) → Routine Unit) : Group where
  job
  children := (agentsByStage job.stage).map Child.start
  aborting := false
  interrupted := false
  resume

def child (group : Group) (agent : String) : Option Child :=
  group.children.find? fun child => child.spec.name == agent

def setChild (group : Group) (child : Child) : Group :=
  { group with
    children := group.children.map fun other =>
      if other.spec.name = child.spec.name then child else other }

def abort (group : Group) : Group :=
  { group with aborting := true, children := group.children.map Child.cancel }

/-- Put a task back that ran; one that failed aborts the group. -/
def update (group : Group) (child : Child) : Group :=
  match child.body with
  | .finished (.error (.failed _)) => (group.setChild child).abort
  | _ => group.setChild child

def errors (group : Group) : List PyError :=
  group.children.flatMap fun child => match child.body with
    | .finished (.error (.failed errors)) => errors
    | _ => []

/-- The results of the tasks, where every one has one. -/
def results (group : Group) : Option (List ArtifactId) :=
  group.children.mapM fun child => match child.body with
    | .finished (.ok artifactId) => some artifactId
    | _ => none

/-- What leaving the group returns or raises once all tasks are done. -/
def outcome (group : Group) : Except Raised (List ArtifactId) :=
  if group.errors ≠ [] then .error (.failed group.errors)
  else if group.interrupted then .error .cancelled
  else match group.results with
    | some results => .ok results
    | none => .error .cancelled

def slots (group : Group) : Nat := group.children.countP Child.slot

end Group

namespace Hub

def empty : Hub where
  stores := .empty
  delegated := []
  phase := .down
  tasks _ := none
  coroutines _ := none
  nextTask := 0
  active := none
  detached := []

def withShared (hub : Hub) (shared : Shared) : Hub := { hub with toShared := shared }

def setCoroutine (hub : Hub) (task : Nat) (coroutine : Option Coroutine) : Hub :=
  { hub with coroutines := Function.update hub.coroutines task coroutine }

/-- The coroutine in `_tasks` that is not done. -/
def liveTask (hub : Hub) (runId : RunId) : Option (Nat × Coroutine) :=
  (hub.tasks runId).bind fun task => (hub.coroutines task).map fun coroutine => (task, coroutine)

variable {platform : Platform} (clock : Nat → Nat) (tools : HubTools platform)
  (settings : HubSettings)

variable (platform) in
/-- Carry out a request of the run. -/
def serve (hub : Hub) (runId : RunId) (fault : StorageFault) :
    (request : Request) → Option (request.Answer × Hub)
  | .activeTask cancelable =>
    some (.ok ((hub.liveTask runId).any fun live => !(cancelable && live.2.cancelling)), hub)
  | .createTask retryAttempt =>
    some (.ok (), { hub with
      tasks := Function.update hub.tasks runId (some hub.nextTask)
      coroutines := Function.update hub.coroutines hub.nextTask
        (some ⟨runId, retryAttempt, false, false, .scheduled⟩)
      nextTask := hub.nextTask + 1 })
  | .cancelTask =>
    some (.ok (), match hub.liveTask runId with
      | some (task, coroutine) =>
        hub.setCoroutine task (some { coroutine with cancelling := true, pending := true })
      | none => hub)
  | request =>
    (hub.stores.answer platform clock runId request fault).map fun (answer, stores) =>
      (answer, hub.withShared (hub.toShared.withStores stores))

/-- A call of the interface runs to its end without a pause. -/
def settleHandler (hub : Hub) (runId : RunId) (routine : Routine Unit) : Hub :=
  match routine with
  | .call .. => { hub with active := some (.handler runId routine) }
  | _ => { hub with active := none }

/-- An execution runs until it is suspended or done. -/
def settle (hub : Hub) (task : Nat) (coroutine : Coroutine) (routine : Routine Unit) : Hub :=
  match routine with
  | .call (.runAgents job) resume =>
    { hub.setCoroutine task (some { coroutine with body := .gathering (Group.start job resume) })
      with active := none }
  | .call request _ =>
    { hub.setCoroutine task (some { coroutine with body := .running routine }) with
      active := if request.suspends then none else some (.coroutine task) }
  | _ => { hub.setCoroutine task none with active := none }

/-- Store the task of an agent back into its group. -/
def putChild (hub : Hub) (task : Nat) (coroutine : Coroutine) (group : Group) (child : Child) :
    Hub :=
  hub.setCoroutine task (some { coroutine with body := .gathering (group.update child) })

variable (platform) in
/-- The task of an agent runs until it is suspended or done. -/
def settleChild (hub : Hub) (task : Nat) (coroutine : Coroutine) (group : Group) (child : Child)
    (routine : Routine ArtifactId) : Hub :=
  match routine with
  | .call (.invoke spec context) resume =>
    { (hub.withShared (hub.toShared.delegate spec context)).putChild task coroutine group
        { child with
          body := .invoking (Invocation.initial settings.a2aBaseUrl spec (context.plain platform))
            resume } with
      active := none }
  | .call request _ =>
    { hub.putChild task coroutine group (child.settle routine) with
      active := if request.suspends then none else some (.child task child.spec.name) }
  | _ => { hub.putChild task coroutine group (child.settle routine) with active := none }

/-- What an invocation that ended without a result raises in the task of its agent. -/
def endingRaised (child : Child) : Ending → Raised
  | .interrupted => if child.cancelled then .cancelled else .failed [⟨.timeoutError, ""⟩]
  | .failed error => .failed [error]

/-- The task of an agent after a statement of its invocation. -/
def proceed (hub : Hub) (task : Nat) (coroutine : Coroutine) (group : Group) (child : Child)
    (resume : Except Raised AgentResult → Routine ArtifactId) (turn : Turn) : Hub :=
  let hub := hub.withShared (hub.toShared.withDatabase turn.database)
  match turn.progress with
  | .running invocation =>
    match invocation.point with
    | .asking _ draft =>
      { hub.putChild task coroutine group { child with
          body := .asking invocation (Workflow.humanInput tools settings invocation.mapping draft)
            resume } with
        active := some (.child task child.spec.name) }
    | _ =>
      { hub.putChild task coroutine group { child with body := .invoking invocation resume } with
        active := none }
  | .returned result =>
    hub.settleChild platform settings task coroutine group child (resume (.ok result))
  | .raised ending left =>
    { hub with detached := hub.detached ++ left.toList }.settleChild platform settings task coroutine group
      child (resume (.error (endingRaised child ending)))

/-- The event by which the client learns how `_human_input` ended. -/
def inputEvent : Except Raised Json → ClientEvent
  | .ok response => .answered response
  | .error .cancelled => .interrupted
  | .error (.failed errors) => .raised (errors.headD storageFailure) false

/-- `_human_input` runs until it is suspended or done. -/
def settleAsking (hub : Hub) (task : Nat) (coroutine : Coroutine) (group : Group) (child : Child)
    (invocation : Invocation) (resume : Except Raised AgentResult → Routine ArtifactId)
    (routine : Routine Json) : Option Hub :=
  let conclude (result : Except Raised Json) : Option Hub :=
    (invocation.step settings.client hub.stores.database (inputEvent result)).map fun turn =>
      hub.proceed tools settings task coroutine group child resume turn
  match routine with
  | .done response => conclude (.ok response)
  | .raise raised => conclude (.error raised)
  | .call request _ =>
    some { hub.putChild task coroutine group { child with
        body := .asking invocation routine resume } with
      active := if request.suspends then none else some (.child task child.spec.name) }

/-- The group of an execution and the task of one of its agents. -/
def findChild (hub : Hub) (task : Nat) (agent : String) : Option (Coroutine × Group × Child) :=
  (hub.coroutines task).bind fun coroutine =>
    match coroutine.body with
    | .gathering group => (group.child agent).map fun child => (coroutine, group, child)
    | _ => none

/-- The next statement of whoever runs. -/
def advance (hub : Hub) (fault : StorageFault) : Option Hub :=
  match hub.active with
  | none => none
  | some (.handler runId (.call request resume)) =>
    (hub.serve platform clock runId fault request).map fun (answer, hub) =>
      hub.settleHandler runId (resume answer)
  | some (.handler _ _) => none
  | some (.coroutine task) =>
    (hub.coroutines task).bind fun coroutine =>
      match coroutine.body with
      | .running (.call request resume) =>
        (hub.serve platform clock coroutine.runId fault request).map
          fun (answer, hub) => hub.settle task coroutine (resume answer)
      | _ => none
  | some (.child task agent) =>
    (hub.findChild task agent).bind fun (coroutine, group, child) =>
      match child.body with
      | .running (.call request resume) =>
        (hub.serve platform clock coroutine.runId fault request).map
          fun (answer, hub) =>
            hub.settleChild platform settings task coroutine group child
              (resume answer)
      | .asking invocation (.call request next) resume =>
        (hub.serve platform clock coroutine.runId fault request).bind
          fun (answer, hub) =>
            hub.settleAsking tools settings task coroutine group child invocation resume
              (next answer)
      | _ => none

def command : Command → Routine Unit
  | .retry => Workflow.retry
  | .cancel => Workflow.cancel
  | .respond action => Workflow.respond action

/-- The program of an execution, from its first statement. -/
def begin (hub : Hub) (task : Nat) : Option Hub :=
  (hub.coroutines task).bind fun coroutine =>
    match coroutine.body with
    | .scheduled =>
      -- A task cancelled before its first step never runs its coroutine.
      if coroutine.pending then some (hub.setCoroutine task none)
      else some (hub.settle task coroutine
        (Workflow.execute tools settings coroutine.retryAttempt))
    | _ => none

/-- A reply reaches an execution that waits for it. -/
def receive (hub : Hub) (task : Nat) (reply : Reply) : Option Hub :=
  (hub.coroutines task).bind fun coroutine =>
    match coroutine.body with
    | .running (.call request resume) =>
      if coroutine.pending || !request.suspends then none
      else (reply.answer request).map fun answer => hub.settle task coroutine (resume answer)
    | _ => none

/-- The cancellation of an execution is thrown where it waits. -/
def interrupt (hub : Hub) (task : Nat) : Option Hub :=
  (hub.coroutines task).bind fun coroutine =>
    if !coroutine.pending then none else
      let coroutine := { coroutine with pending := false }
      match coroutine.body with
      | .running (.call request resume) =>
        if request.suspends then some (hub.settle task coroutine (resume (.error .cancelled)))
        else none
      | .gathering group =>
        let group := if group.aborting then group else { group.abort with interrupted := true }
        some (hub.setCoroutine task (some { coroutine with body := .gathering group }))
      | _ => none

/-- The group is left once all its tasks are done. -/
def join (hub : Hub) (task : Nat) : Option Hub :=
  (hub.coroutines task).bind fun coroutine =>
    match coroutine.body with
    | .gathering group =>
      if coroutine.pending || !group.children.all Child.done then none
      else some (hub.settle task coroutine (group.resume group.outcome))
    | _ => none

def startChild (hub : Hub) (task : Nat) (agent : String) : Option Hub :=
  (hub.findChild task agent).bind fun (coroutine, group, child) =>
    match child.body with
    | .scheduled =>
      if child.pending then none
      else some (hub.settleChild platform settings task coroutine group child
        (Workflow.invokeAgent tools settings group.job child.spec))
    | _ => none

variable (platform) in
def acquire (hub : Hub) (task : Nat) (agent : String) : Option Hub :=
  (hub.findChild task agent).bind fun (coroutine, group, child) =>
    match child.body with
    | .running (.call .acquireSlot resume) =>
      if child.pending || settings.maxParallelAgents ≤ group.slots then none
      else some (hub.settleChild platform settings task coroutine group
        { child with slot := true } (resume (.ok ())))
    | _ => none

/-- A statement of an invocation, or a timeout where the event is an interruption. -/
def invoke (hub : Hub) (task : Nat) (agent : String) (event : ClientEvent) : Option Hub :=
  (hub.findChild task agent).bind fun (coroutine, group, child) =>
    match child.body with
    | .invoking invocation resume =>
      if event = .interrupted ∧ Invocation.awaiting invocation.point = false then none
      else (invocation.step settings.client hub.stores.database event).map fun turn =>
        hub.proceed tools settings task coroutine group child resume turn
    | _ => none

/-- `_human_input` looks whether its surface was answered. -/
def poll (hub : Hub) (task : Nat) (agent : String) (accepted : Bool) : Option Hub :=
  (hub.findChild task agent).bind fun (coroutine, group, child) =>
    match child.body with
    | .asking invocation (.call (.humanResponse surfaceId) next) resume =>
      if child.pending then none
      else if accepted then
        match (hub.stores.database.listInteractions coroutine.runId).find? fun item =>
            item.surfaceId == surfaceId with
        | some interaction =>
          if interaction.response.isSome then
            hub.settleAsking tools settings task coroutine group child invocation resume
              (next (.ok interaction))
          else none
        | none => none
      else hub.settleAsking tools settings task coroutine group child invocation resume
        (next (.error (.failed [storageFailure])))
    | _ => none

/-- The cancellation of the task of an agent is thrown where it waits. -/
def interruptChild (hub : Hub) (task : Nat) (agent : String) : Option Hub :=
  (hub.findChild task agent).bind fun (coroutine, group, child) =>
    if !child.pending then none else
      let child := { child with pending := false, cancelled := true }
      match child.body with
      | .scheduled =>
        some (hub.putChild task coroutine group
          { child with body := .finished (.error .cancelled) })
      | .running (.call request resume) =>
        if request.suspends then
          some (hub.settleChild platform settings task coroutine group child
            (resume (.error .cancelled)))
        else none
      | .invoking invocation resume =>
        (invocation.step settings.client hub.stores.database .interrupted).map fun turn =>
          hub.proceed tools settings task coroutine group child resume turn
      | .asking invocation (.call request next) resume =>
        if request.suspends then
          hub.settleAsking tools settings task coroutine group child invocation resume
            (next (.error .cancelled))
        else none
      | _ => none

/-- A statement of a cancellation that outlived the task that began it. -/
def stepDetached (hub : Hub) (index : Nat) (event : ClientEvent) : Option Hub :=
  (hub.detached[index]?).bind fun (delegation, phase) =>
    (cancelStep hub.stores.database delegation phase event).map fun turn =>
      { hub.withShared (hub.toShared.withDatabase turn.database) with
        detached := hub.detached.set index (turn.delegation, turn.phase) }

/-- Ask every execution to stop. -/
def shutdown (hub : Hub) : Hub :=
  { hub with
    phase := .stopping
    coroutines := fun task => (hub.coroutines task).map fun coroutine =>
      if coroutine.cancelling then coroutine
      else { coroutine with cancelling := true, pending := true } }

/-- The process dies; what it stored remains. -/
def crash (hub : Hub) : Hub :=
  { hub with
    phase := .down, tasks := fun _ => none, coroutines := fun _ => none, active := none,
    detached := [] }

/-- The startup of a process, which serves once recovery is complete. -/
def recover (hub : Hub) (cut : Option (Nat × Nat)) : Option Hub :=
  match cut with
  | none =>
    match hub.stores.database.recoverInterruptedRuns with
    | .ok database => some { hub.withShared (hub.toShared.withDatabase database) with phase := .serving }
    | .error _ => none
  | some (runs, statements) =>
    match hub.stores.database.recoverPart runs statements with
    | .ok database => some (hub.withShared (hub.toShared.withDatabase database))
    | .error _ => none

end Hub

/-- Labels that are only enabled while nobody runs. -/
def HubLabel.waits : HubLabel → Bool
  | .step _ | .crash => false
  | _ => true

variable {platform : Platform} (clock : Nat → Nat) (tools : HubTools platform)
  (settings : HubSettings)

open Hub in
/-- The hub as a system; a disabled label ends a run. -/
def orchestration : System Hub HubLabel where
  step hub label :=
    if label.waits ∧ hub.active.isSome then none
    else match label with
    | .create id idea now =>
      if hub.phase = .serving then
        some (hub.settleHandler (newRunId id) (Workflow.createRun idea now))
      else none
    | .call runId command =>
      if hub.phase = .serving then some (hub.settleHandler runId (Hub.command command)) else none
    | .step fault => hub.advance clock tools settings fault
    | .start task => hub.begin tools settings task
    | .reply task reply => hub.receive task reply
    | .interrupt task => hub.interrupt task
    | .join task => hub.join task
    | .pop runId =>
      match hub.tasks runId with
      | some task =>
        if (hub.coroutines task).isNone then
          some { hub with tasks := Function.update hub.tasks runId none }
        else none
      | none => none
    | .startChild task agent => hub.startChild tools settings task agent
    | .acquire task agent => hub.acquire platform settings task agent
    | .client task agent event => hub.invoke tools settings task agent event
    | .poll task agent accepted => hub.poll tools settings task agent accepted
    | .interruptChild task agent => hub.interruptChild tools settings task agent
    | .detached index event => hub.stepDetached index event
    | .shutdown => if hub.phase = .serving then some hub.shutdown else none
    | .crash => if hub.phase = .down then none else some hub.crash
    | .recover cut => if hub.phase = .down then hub.recover cut else none

end Aidlc
