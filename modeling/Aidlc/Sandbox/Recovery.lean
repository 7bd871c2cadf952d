import Aidlc.Foundation.Transition
import Aidlc.Domain.Models

/-! # Sandbox jobs and orphan recovery

Any number of processes run sandbox executions and recoveries against one Docker
daemon. A command is issued and answered by its task; the daemon carries a
creation or a removal out when it likes, also after the task has gone. A lease is
an exclusive lock on a file of the data directory, and the kernel drops the locks
of a process that dies. The semaphore and the recovery lock of a process only
delay its tasks, so tasks run freely here.
-/

namespace Aidlc

open Foundation

abbrev ContainerId := String
abbrev ProcessId := Nat
abbrev SandboxTaskId := Nat
abbrev DataDir := String

/-- A container and the execution whose request created it. A removed container
stays on record, since its identifier is never used again. -/
structure Container where
  id : ContainerId
  name : String
  labels : List (String × String)
  creator : Option SandboxTaskId
  present : Bool
  deriving DecidableEq, Repr

inductive RecoveryStatus where
  | completed | failed | unavailable
  deriving DecidableEq, Repr

structure RecoveryReport where
  owner : String
  status : RecoveryStatus
  removed : List ContainerId
  active : List ContainerId
  ignored : List ContainerId
  failed : List ContainerId
  reason : Option String
  deriving DecidableEq, Repr

def RecoveryReport.initial (owner : String) : RecoveryReport :=
  ⟨owner, .completed, [], [], [], [], none⟩

/-- Where a recovery waits for the answer of a command, or is about to issue one. -/
inductive RecoveryPoint where
  | listing
  | inspecting
  | verifying
  | leased (name : String)
  | removing (name : String)
  | confirming (name : String)
  | finished
  deriving DecidableEq, Repr

/-- The local variables of `_reconcile`; the loop is at the head of `todo`. -/
structure Recovery where
  identifiers : List ContainerId
  todo : List ContainerId
  report : RecoveryReport
  point : RecoveryPoint
  deriving DecidableEq, Repr

/-- How a command ends: with its output, with a return code, or by an exception. -/
inductive CommandFault where
  | none | code | raised
  deriving DecidableEq, Repr

/-- `JOB_NAME.fullmatch` -/
def isJobName (name : String) : Bool :=
  "aidlc-sandbox-".toList.isPrefixOf name.toList &&
    (name.toList.drop 14).length == 32 && (name.toList.drop 14).all hexDigit

/-- `CONTAINER_ID.fullmatch` -/
def isContainerId (text : String) : Bool := text.length == 64 && text.toList.all hexDigit

def jobName (uuid : Uuid) : String := "aidlc-sandbox-" ++ uuid.hex

def jobLabels (owner name : String) : List (String × String) :=
  [("aidlc.sandbox", "true"), ("aidlc.owner", owner), ("aidlc.job", name)]

namespace Recovery

def start (owner : String) : Recovery := ⟨[], [], .initial owner, .listing⟩

/-- Enter the loop at these identifiers; after the last one the report is complete. -/
def loop (recovery : Recovery) (todo : List ContainerId) (report : RecoveryReport) : Recovery :=
  match todo with
  | [] =>
    { recovery with
      todo := []
      report := if report.failed = [] then report else { report with status := .failed }
      point := .finished }
  | next :: rest => { recovery with todo := next :: rest, report, point := .inspecting }

/-- Go on with the next identifier. -/
def advance (recovery : Recovery) (report : RecoveryReport) : Recovery :=
  recovery.loop recovery.todo.tail report

/-- The handler of the exceptions of the recovery. -/
def fail (recovery : Recovery) : Recovery :=
  { recovery with
    report :=
      { recovery.report with
        status := .failed
        reason := some "Sandbox recovery could not be confirmed" }
    point := .finished }

/-- The handler of the deadline. -/
def expire (recovery : Recovery) : Recovery :=
  { recovery with
    report :=
      { RecoveryReport.initial recovery.report.owner with
        status := .failed
        reason := some "Sandbox recovery exceeded its 30-second deadline" }
    point := .finished }

def unavailable (recovery : Recovery) : Recovery :=
  { recovery with
    report :=
      { recovery.report with
        status := .unavailable
        reason := some "Docker CLI is unavailable" }
    point := .finished }

/-- The inventory arrived. -/
def listed (recovery : Recovery) (found : List ContainerId) : CommandFault → Recovery
  | .none =>
    if found.length > 1000 || found.any fun id => !isContainerId id then recovery.fail
    else { recovery with identifiers := found }.loop found recovery.report
  | .code | .raised => recovery.fail

/-- Whether the container of the head is gone, after its inspection failed. -/
def verified (recovery : Recovery) (id : ContainerId) (present : Bool) : CommandFault → Recovery
  | .none =>
    if present then
      recovery.advance { recovery.report with failed := recovery.report.failed ++ [id] }
    else recovery.advance recovery.report
  | .code => recovery.advance { recovery.report with failed := recovery.report.failed ++ [id] }
  | .raised => recovery.fail

/-- Whether the container of the head is gone, after its removal. -/
def confirmed (recovery : Recovery) (id : ContainerId) (present : Bool) : CommandFault → Recovery
  | .none =>
    if present then
      recovery.advance { recovery.report with failed := recovery.report.failed ++ [id] }
    else recovery.advance { recovery.report with removed := recovery.report.removed ++ [id] }
  | .code => recovery.advance { recovery.report with failed := recovery.report.failed ++ [id] }
  | .raised => recovery.fail

end Recovery

/-- The stages of a sandbox task. An execution begins with a recovery. -/
inductive SandboxStage where
  | recovering (recovery : Recovery)
  | leased (name : String)
  | launched (name : String)
  | cleaning (name : String)
  | ended
  deriving DecidableEq, Repr

structure SandboxTask where
  process : ProcessId
  directory : DataDir
  executes : Bool
  stage : SandboxStage
  deriving DecidableEq, Repr

/-- The job name whose lease a task holds at a point. -/
def RecoveryPoint.held : RecoveryPoint → Option String
  | .leased name | .removing name | .confirming name => some name
  | .listing | .inspecting | .verifying | .finished => none

def SandboxStage.held : SandboxStage → Option String
  | .recovering recovery => recovery.point.held
  | .leased name | .launched name | .cleaning name => some name
  | .ended => none

/-- A creation on its way to the daemon. -/
structure CreateRequest where
  name : String
  labels : List (String × String)
  creator : SandboxTaskId
  deriving DecidableEq, Repr

/-- A removal on its way to the daemon: of a recovery, by identifier, or of the
cleanup of an execution, by name. -/
inductive Removal where
  | byId (task : SandboxTaskId) (id : ContainerId)
  | byName (name : String)
  deriving DecidableEq, Repr

structure Sandboxes where
  containers : List Container
  creates : List CreateRequest
  removals : List Removal
  leases : DataDir → String → Option SandboxTaskId
  tasks : SandboxTaskId → Option SandboxTask

namespace Sandboxes

def start : Sandboxes := ⟨[], [], [], fun _ _ => none, fun _ => none⟩

/-- `docker ps` with the label filters of a recovery -/
def listJobs (sandboxes : Sandboxes) (owner : String) : List ContainerId :=
  (sandboxes.containers.filter fun container =>
    container.present && container.labels.lookup "aidlc.sandbox" == some "true" &&
      container.labels.lookup "aidlc.owner" == some owner).map Container.id

def inspect (sandboxes : Sandboxes) (id : ContainerId) : Option Container :=
  sandboxes.containers.find? fun container => container.present && container.id == id

def isPresent (sandboxes : Sandboxes) (id : ContainerId) : Bool :=
  (sandboxes.inspect id).isSome

def setStage (sandboxes : Sandboxes) (id : SandboxTaskId) (task : SandboxTask)
    (stage : SandboxStage) : Sandboxes :=
  { sandboxes with
    tasks := fun other =>
      if other = id then some { task with stage } else sandboxes.tasks other }

def requestCreation (sandboxes : Sandboxes) (request : CreateRequest) : Sandboxes :=
  { sandboxes with creates := sandboxes.creates ++ [request] }

def requestRemoval (sandboxes : Sandboxes) (removal : Removal) : Sandboxes :=
  { sandboxes with removals := sandboxes.removals ++ [removal] }

/-- The exclusive lock of `JobLease`. -/
def takeLease (sandboxes : Sandboxes) (id : SandboxTaskId) (task : SandboxTask)
    (name : String) : Sandboxes :=
  { sandboxes with
    leases := fun directory other =>
      if directory = task.directory ∧ other = name then some id
      else sandboxes.leases directory other }

/-- Leave the lease the task is in, if any. -/
def exitLease (sandboxes : Sandboxes) (task : SandboxTask) : Sandboxes :=
  { sandboxes with
    leases := fun directory name =>
      if directory = task.directory ∧ task.stage.held = some name then none
      else sandboxes.leases directory name }

/-- The kernel closes the files of a process that dies. -/
def die (sandboxes : Sandboxes) (process : ProcessId) : Sandboxes :=
  { sandboxes with
    leases := fun directory name =>
      (sandboxes.leases directory name).filter fun id =>
        ((sandboxes.tasks id).map SandboxTask.process) != some process
    tasks := fun id =>
      (sandboxes.tasks id).map fun task =>
        if task.process = process then { task with stage := .ended } else task }

/-- The daemon removes every container that meets the test. -/
def removeWhere (sandboxes : Sandboxes) (test : Container → Bool) : Sandboxes :=
  { sandboxes with
    containers := sandboxes.containers.map fun container =>
      if test container then { container with present := false } else container }

end Sandboxes

variable (sandboxOwner : DataDir → String)

/-- What the labels of a container must say before a recovery removes it. -/
def ownJob (owner : String) (id : ContainerId) (definition : Container) : Bool :=
  definition.id == id && isJobName definition.name &&
    definition.labels.lookup "aidlc.sandbox" == some "true" &&
    definition.labels.lookup "aidlc.owner" == some owner &&
    definition.labels.lookup "aidlc.job" == some definition.name

/-- The inspection of the head returned. -/
def Sandboxes.inspected (sandboxes : Sandboxes) (id : SandboxTaskId) (task : SandboxTask)
    (recovery : Recovery) (container : ContainerId) : CommandFault → Sandboxes
  | .none =>
    match sandboxes.inspect container with
    | none => sandboxes.setStage id task (.recovering { recovery with point := .verifying })
    | some definition =>
      if ownJob (sandboxOwner task.directory) container definition then
        match sandboxes.leases task.directory definition.name with
        | some _ =>
          sandboxes.setStage id task (.recovering (recovery.advance
            { recovery.report with active := recovery.report.active ++ [container] }))
        | none =>
          (sandboxes.takeLease id task definition.name).setStage id task
            (.recovering { recovery with point := .leased definition.name })
      else
        sandboxes.setStage id task (.recovering (recovery.advance
          { recovery.report with ignored := recovery.report.ignored ++ [container] }))
  | .code => sandboxes.setStage id task (.recovering { recovery with point := .verifying })
  | .raised => sandboxes.setStage id task (.recovering recovery.fail)

inductive RecoveryCommand where
  | unavailable
  | list (fault : CommandFault)
  | inspect (fault : CommandFault)
  | verify (fault : CommandFault)
  | issue (spawned : Bool)
  | answered (raised : Bool)
  | confirm (fault : CommandFault)
  | expire
  deriving DecidableEq, Repr

/-- `_reconcile` up to its next command, and its deadline. -/
def Sandboxes.recover (sandboxes : Sandboxes) (id : SandboxTaskId) (task : SandboxTask)
    (recovery : Recovery) (command : RecoveryCommand) : Option Sandboxes :=
  match command, recovery.point, recovery.todo with
  | .unavailable, .listing, _ =>
    some (sandboxes.setStage id task (.recovering recovery.unavailable))
  | .list fault, .listing, _ =>
    some (sandboxes.setStage id task (.recovering
      (recovery.listed (sandboxes.listJobs (sandboxOwner task.directory)) fault)))
  | .inspect fault, .inspecting, container :: _ =>
    some (sandboxes.inspected sandboxOwner id task recovery container fault)
  | .verify fault, .verifying, container :: _ =>
    some (sandboxes.setStage id task (.recovering
      (recovery.verified container (sandboxes.isPresent container) fault)))
  | .issue true, .leased name, container :: _ =>
    some ((sandboxes.requestRemoval (.byId id container)).setStage id task
      (.recovering { recovery with point := .removing name }))
  | .issue false, .leased _, _ :: _ =>
    some ((sandboxes.exitLease task).setStage id task (.recovering recovery.fail))
  | .answered false, .removing name, _ :: _ =>
    some (sandboxes.setStage id task (.recovering { recovery with point := .confirming name }))
  | .answered true, .removing _, _ :: _ =>
    some ((sandboxes.exitLease task).setStage id task (.recovering recovery.fail))
  | .confirm fault, .confirming _, container :: _ =>
    some ((sandboxes.exitLease task).setStage id task (.recovering
      (recovery.confirmed container (sandboxes.isPresent container) fault)))
  | .expire, .finished, _ => none
  | .expire, _, _ => some ((sandboxes.exitLease task).setStage id task (.recovering recovery.expire))
  | _, _, _ => none

inductive ExecutionCommand where
  | lease (uuid : Uuid)
  | create
  | clean (spawned : Bool)
  | leave
  deriving DecidableEq

/-- `execute` after its recovery, and `_execute` under the lease. A task may leave at
any point, but once a creation was issued only through the cleanup. -/
def Sandboxes.execute (sandboxes : Sandboxes) (id : SandboxTaskId) (task : SandboxTask)
    (command : ExecutionCommand) : Option Sandboxes :=
  match command, task.stage with
  | .lease uuid, .recovering recovery =>
    if task.executes ∧ recovery.point = .finished ∧ recovery.report.status = .completed then
      match sandboxes.leases task.directory (jobName uuid) with
      | some _ => some (sandboxes.setStage id task .ended)
      | none =>
        some ((sandboxes.takeLease id task (jobName uuid)).setStage id task
          (.leased (jobName uuid)))
    else none
  | .create, .leased name =>
    some ((sandboxes.requestCreation
      ⟨name, jobLabels (sandboxOwner task.directory) name, id⟩).setStage id task (.launched name))
  | .clean true, .launched name =>
    some ((sandboxes.requestRemoval (.byName name)).setStage id task (.cleaning name))
  | .clean false, .launched name => some (sandboxes.setStage id task (.cleaning name))
  | .leave, .recovering _ | .leave, .leased _ | .leave, .cleaning _ =>
    some ((sandboxes.exitLease task).setStage id task .ended)
  | _, _ => none

/-- What happens next. The environment may create any other container. -/
inductive SandboxLabel where
  | begin (id : SandboxTaskId) (process : ProcessId) (directory : DataDir) (executes : Bool)
  | recover (id : SandboxTaskId) (command : RecoveryCommand)
  | execute (id : SandboxTaskId) (command : ExecutionCommand)
  | daemonCreates (request : CreateRequest) (id : ContainerId)
  | daemonRemoves (removal : Removal)
  | daemonDrops (request : CreateRequest ⊕ Removal)
  | appears (id : ContainerId) (name : String) (labels : List (String × String))
  | dies (process : ProcessId)
  deriving DecidableEq

/-- A new container, if its name and its identifier are free. -/
def Sandboxes.addContainer (sandboxes : Sandboxes) (id : ContainerId) (name : String)
    (labels : List (String × String)) (creator : Option SandboxTaskId) : Option Sandboxes :=
  if sandboxes.containers.any fun container =>
      container.id == id || (container.present && container.name == name) then none
  else some { sandboxes with
    containers := sandboxes.containers ++ [⟨id, name, labels, creator, true⟩] }

def sandboxing : System Sandboxes SandboxLabel where
  step sandboxes
    | .begin id process directory executes =>
      match sandboxes.tasks id with
      | some _ => none
      | none =>
        some { sandboxes with
          tasks := fun other =>
            if other = id then
              some ⟨process, directory, executes, .recovering (.start (sandboxOwner directory))⟩
            else sandboxes.tasks other }
    | .recover id command =>
      match sandboxes.tasks id with
      | some task =>
        match task.stage with
        | .recovering recovery => sandboxes.recover sandboxOwner id task recovery command
        | _ => none
      | none => none
    | .execute id command =>
      match sandboxes.tasks id with
      | some task => sandboxes.execute sandboxOwner id task command
      | none => none
    | .daemonCreates request id =>
      if request ∈ sandboxes.creates then
        { sandboxes with creates := sandboxes.creates.erase request }.addContainer id request.name
          request.labels (some request.creator)
      else none
    | .daemonRemoves removal =>
      if removal ∈ sandboxes.removals then
        some ({ sandboxes with removals := sandboxes.removals.erase removal }.removeWhere
          fun container =>
            match removal with
            | .byId _ id => container.id == id
            | .byName name => container.present && container.name == name)
      else none
    | .daemonDrops request =>
      match request with
      | .inl request => some { sandboxes with creates := sandboxes.creates.erase request }
      | .inr removal => some { sandboxes with removals := sandboxes.removals.erase removal }
    | .appears id name labels => sandboxes.addContainer id name labels none
    | .dies process => some (sandboxes.die process)

end Aidlc
