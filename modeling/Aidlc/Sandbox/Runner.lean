import Mathlib.Algebra.Ring.Int.Defs
import Mathlib.Data.List.Infix
import Aidlc.Domain.Values
import Aidlc.Evaluation.Gates
import Aidlc.Storage.Artifacts

/-! # The sandbox runner

One execution of a job in a container, against a daemon whose replies may be
anything: any exit code, any output, a timeout, an overflow, an exception, or the
cancellation of the execution at any await. The daemon answers with the history
of all commands before its eyes.
-/

namespace Aidlc

open Foundation

inductive Runtime where
  | runc | runsc | kata
  deriving DecidableEq, Repr

def Runtime.value : Runtime → String
  | .runc => "runc"
  | .runsc => "runsc"
  | .kata => "kata"

/-- `ISOLATION` -/
def Runtime.isolation : Runtime → String
  | .runc => "OCI namespaces, dropped capabilities, default seccomp, shared host kernel"
  | .runsc => "gVisor user-space kernel (requires runtime qualification)"
  | .kata => "Kata containerd shim microVM (requires runtime qualification)"

inductive SandboxMode where
  | analyze | build | test | probe
  deriving DecidableEq, Repr

def SandboxMode.value : SandboxMode → String
  | .analyze => "analyze"
  | .build => "build"
  | .test => "test"
  | .probe => "probe"

structure SandboxPolicy where
  cpus : Nat
  memoryBytes : Nat
  pids : Nat
  workspaceBytes : Nat
  timeoutSeconds : Nat
  maxOutputBytes : Nat
  cpus_range : 1 ≤ cpus ∧ cpus ≤ 2
  memoryBytes_range : 134217728 ≤ memoryBytes ∧ memoryBytes ≤ 1073741824
  pids_range : 16 ≤ pids ∧ pids ≤ 128
  workspaceBytes_range : 1048576 ≤ workspaceBytes ∧ workspaceBytes ≤ 16777216
  timeoutSeconds_range : 1 ≤ timeoutSeconds ∧ timeoutSeconds ≤ 60
  maxOutputBytes_range : 1 ≤ maxOutputBytes ∧ maxOutputBytes ≤ 262144

/-- `SandboxPolicy()` -/
def SandboxPolicy.default : SandboxPolicy where
  cpus := 1
  memoryBytes := 536870912
  pids := 64
  workspaceBytes := 16777216
  timeoutSeconds := 60
  maxOutputBytes := 262144
  cpus_range := by decide
  memoryBytes_range := by decide
  pids_range := by decide
  workspaceBytes_range := by decide
  timeoutSeconds_range := by decide
  maxOutputBytes_range := by decide

structure SandboxJob where
  source : SourceBundle
  mode : SandboxMode
  policy : SandboxPolicy

inductive SandboxStatus where
  | completed | failed | timedOut | outputLimit | unavailable
  deriving DecidableEq, Repr

/-- The record of an execution. What the daemon said is kept as it was said. -/
structure SandboxExecution where
  runtime : Runtime
  isolation : String
  image : Json := .null
  containerId : Option String := none
  kernel : String
  runtimeVersion : Json := .null
  durationMs : Int := 0
  exitCode : Json := .null
  timedOut : Bool := false
  outputTruncated : Bool := false
  oomKilled : Json := .bool false
  cleanupSucceeded : Bool := true
  reason : Option String := none
  policy : SandboxPolicy

structure SandboxResult where
  status : SandboxStatus
  execution : SandboxExecution
  stdout : String := ""
  stderr : String := ""

/-- What ends an await or a statement without a value. -/
inductive SandboxError where
  | cancelled
  | timeout
  /-- An exception group, and whether an output limit is in it. -/
  | group (overflow : Bool)
  | control (message : String)
  | indexError
  | error (error : PyError)
  deriving DecidableEq, Repr

abbrev Bytes := List UInt8

/-- What the runner asks the command line of Docker for. -/
inductive DockerCommand where
  | info
  | imageInspect (image : String)
  | create (name : String) (arguments : List String)
  | inspect (name : String)
  | start (name : String)
  | remove (name : String)
  | list (name : String)
  deriving DecidableEq, Repr

/-- How `_capture` ends. -/
inductive CaptureOutcome where
  | exited (code : Int) (stdout stderr : Bytes)
  | raised (error : SandboxError)
  deriving DecidableEq, Repr

abbrev DockerHistory := List (DockerCommand × CaptureOutcome)

/-- The daemon, and the cancellations that arrive while a teardown waits for the
last command of a history, or when it is over. -/
structure Docker where
  respond : DockerHistory → DockerCommand → CaptureOutcome
  interrupts : DockerHistory → Nat
  late : Nat

/-- The decoding of output. -/
structure Decoder where
  decode : Bytes → Except PyError String
  replace : Bytes → String
  loads : Bytes → Except PyError Json
  loadsText : String → Except PyError Json

structure SandboxHost where
  docker : Bool
  kvm : Bool
  kernel : String
  owner : String
  sandboxImage : String
  /-- What reading `sandbox-image.json` returns or raises. -/
  imageFile : Except PyError Json
  /-- Whether the execution is cancelled while the image is resolved. -/
  cancelled : Bool
  elapsed : Nat

/-- `re.fullmatch` of `PINNED_IMAGE` -/
def isPinnedImage (text : String) : Bool :=
  isImageDigest text ||
    let name := text.toList.takeWhile fun c => c ≠ '@'
    !name.isEmpty &&
      (name.all fun c => c.isAlphanum || c ∈ ['.', '/', ':', '_', '-']) &&
      (text.toList.drop name.length).head? == some '@' &&
      isImageDigest (String.ofList (text.toList.drop (name.length + 1)))

/-- `except OSError, ValueError, KeyError, TypeError` -/
def PyError.isData (error : PyError) : Bool :=
  error.type ∈ [ErrorType.osError, .timeoutError, .valueError, .validationError, .keyError,
    .typeError]

/-- The configured image, or else the one that was built last. -/
def configuredImage (host : SandboxHost) : Except PyError Json :=
  if host.sandboxImage = "" then
    match host.imageFile.bind fun stored => subscript stored "image" with
    | .ok image => .ok image
    | .error error =>
      if error.isData then valueError "Build the pinned image with aidlc-sandbox build-image first"
      else .error error
  else .ok (.str host.sandboxImage)

/-- `resolve_image` -/
def resolveImage (host : SandboxHost) : Except PyError String := do
  match ← configuredImage host with
  | .str text =>
    if isPinnedImage text then return text
    else valueError "Sandbox image must be a full SHA-256 image ID or repository digest"
  | _ => valueError "Sandbox image must be a full SHA-256 image ID or repository digest"

structure DockerWorld where
  result : SandboxResult
  history : DockerHistory := []
  /-- The cancellations since the teardown began. -/
  interrupts : Nat := 0

abbrev SandboxM := EStateM SandboxError DockerWorld

namespace Sandbox

/-! ## Decoded values -/

/-- `str.strip` -/
def strip (text : String) : String :=
  String.ofList ((rstrip text).toList.dropWhile fun c => c ∈ whitespace)

/-- `value[0]` -/
def first (value : Json) : Except SandboxError Json :=
  match value with
  | .arr (item :: _) => .ok item
  | .arr [] => .error .indexError
  | .str text => match text.toList with
    | c :: _ => .ok (.str c.toString)
    | [] => .error .indexError
  | .obj _ => .error (.error ⟨.keyError, "0"⟩)
  | .null | .bool _ | .int _ | .float _ =>
    .error (.error ⟨.typeError, "'" ++ Json.typeName value ++ "' object is not subscriptable"⟩)

/-- `value.get(key, default)` -/
def getOr (value : Json) (key : String) (default : Json) : Except PyError Json := do
  return (← getAttr value key).getD default

/-- `text in container` -/
def contains (container : Json) (text : String) : Except PyError Bool :=
  match container with
  | .obj fields => .ok (fields.lookup text).isSome
  | .arr items => .ok (items.any fun item => item.pyEq (.str text))
  | .str whole => .ok (decide (text.toList <:+: whole.toList))
  | .null | .bool _ | .int _ | .float _ =>
    typeError ("argument of type '" ++ Json.typeName container ++ "' is not a container or iterable")

/-- `value in items`, for a set of texts or numbers -/
def inSet (value : Json) (items : List Json) : Except PyError Bool :=
  match value with
  | .arr _ => typeError "unhashable type: 'list'"
  | .obj _ => typeError "unhashable type: 'dict'"
  | .null | .bool _ | .int _ | .float _ | .str _ => .ok (items.any fun item => value.pyEq item)

/-- The items of an iterable that becomes a set. -/
def setOf (value : Json) : Except PyError (List Json) :=
  match value with
  | .obj fields => .ok (fields.map fun field => .str field.1)
  | .arr items =>
    if items.any fun item => match item with
        | .arr _ | .obj _ => true
        | _ => false
    then typeError "unhashable type" else .ok items
  | .str text => .ok (text.toList.map fun c => .str c.toString)
  | .null | .bool _ | .int _ | .float _ =>
    typeError ("'" ++ Json.typeName value ++ "' object is not iterable")

/-- `set(value) == names` -/
def isSetOf (value : Json) (names : List String) : Except PyError Bool := do
  let items ← setOf value
  return items.all (fun item => names.any fun name => item.pyEq (.str name)) &&
    names.all fun name => items.any fun item => item.pyEq (.str name)

/-! ## Statements -/

variable (docker : Docker) (decoder : Decoder) (host : SandboxHost) (job : SandboxJob)
  (runtime : Runtime) (name : String)

def lift {α : Type} (computed : Except PyError α) : SandboxM α :=
  match computed with
  | .ok value => pure value
  | .error error => throw (.error error)

def liftError {α : Type} (computed : Except SandboxError α) : SandboxM α :=
  match computed with
  | .ok value => pure value
  | .error error => throw error

def modifyExecution (change : SandboxExecution → SandboxExecution) : SandboxM Unit :=
  modify fun world =>
    { world with result := { world.result with execution := change world.result.execution } }

/-- `_capture` -/
def capture (command : DockerCommand) : SandboxM (Int × Bytes × Bytes) := do
  let world ← get
  let outcome := docker.respond world.history command
  set { world with history := world.history ++ [(command, outcome)] }
  match outcome with
  | .exited code stdout stderr => return (code, stdout, stderr)
  | .raised error => throw error

/-- `control` -/
def control (command : DockerCommand) : SandboxM Json := do
  let (code, output, _) ← capture docker command
  if code ≠ 0 then throw (.control "Docker control operation failed")
  lift (decoder.loads output)

/-- What the daemon knows of the runtime. -/
def runtimeVersion (runtimes : Json) : SandboxM Unit := do
  let entry ← lift (subscript runtimes runtime.value)
  let status ← lift (getOr entry "status" (.obj []))
  let features ← lift (getOr status "org.opencontainers.runtime-spec.features" .null)
  if Json.truthy features then
    let loaded ← lift (match features with
      | .str text => decoder.loadsText text
      | _ => typeError ("the JSON object must be str, bytes or bytearray, not " ++
          Json.typeName features))
    let annotations ← lift (getOr loaded "annotations" (.obj []))
    let version ← lift (getOr annotations "org.opencontainers.runc.version" .null)
    modifyExecution fun execution => { execution with runtimeVersion := version }

/-- The image as the daemon has it takes the place of the configured reference. -/
def pinImage (image : String) : SandboxM Unit := do
  let definition ← liftError (first (← control docker decoder (.imageInspect image)))
  let architecture ← lift (subscript definition "Architecture")
  if !architecture.pyEq (.str "amd64") then throw (.control "Pinned image must be Linux amd64")
  let system ← lift (subscript definition "Os")
  if !system.pyEq (.str "linux") then throw (.control "Pinned image must be Linux amd64")
  let identifier ← lift (subscript definition "Id")
  modifyExecution fun execution => { execution with image := identifier }
  let config ← lift (subscript definition "Config")
  if Json.truthy (← lift (getAttr config "Volumes")) then
    throw (.control "Sandbox image must not declare volumes")

/-- The checks of daemon and image; whether to go on. -/
def checkDaemon (image : String) : SandboxM Bool := do
  let info ← control docker decoder .info
  let system ← lift (subscript info "OSType")
  if !system.pyEq (.str "linux") then
    throw (.control "Sandbox requires a Linux amd64 Docker daemon")
  let architecture ← lift (subscript info "Architecture")
  if !(← lift (inSet architecture [.str "x86_64", .str "amd64"])) then
    throw (.control "Sandbox requires a Linux amd64 Docker daemon")
  let runtimes ← lift (subscript info "Runtimes")
  if ← lift (contains runtimes runtime.value) then
    runtimeVersion decoder runtime runtimes
    pinImage docker decoder image
    return true
  else
    modifyExecution fun execution =>
      { execution with reason := some ("Runtime " ++ runtime.value ++ " is not registered with Docker") }
    return false

/-- The arguments of `docker create`. -/
def createArguments (image : String) : List String :=
  ["--name", name, "--label=aidlc.sandbox=true", "--label=aidlc.owner=" ++ host.owner,
    "--label=aidlc.job=" ++ name, "--interactive", "--pull=never", "--runtime=" ++ runtime.value,
    "--network=none", "--read-only", "--user=65532:65532", "--cap-drop=ALL",
    "--security-opt=no-new-privileges=true", "--cpus=" ++ toString job.policy.cpus,
    "--memory=" ++ toString job.policy.memoryBytes,
    "--memory-swap=" ++ toString job.policy.memoryBytes,
    "--pids-limit=" ++ toString job.policy.pids, "--ulimit=nofile=128:128", "--ulimit=core=0:0",
    "--ipc=private", "--cgroupns=private", "--shm-size=1048576", "--log-driver=none",
    "--workdir=/workspace",
    "--tmpfs=/workspace:rw,noexec,nosuid,nodev,size=" ++ toString job.policy.workspaceBytes ++
      ",mode=1777",
    "--tmpfs=/tmp:rw,noexec,nosuid,nodev,size=" ++ toString job.policy.workspaceBytes ++
      ",mode=1777",
    "--entrypoint=python", image, "-I", "/opt/aidlc/worker.py", job.mode.value]

/-- The settings of the container that are compared one by one. -/
def expectedHost : List (String × Json) :=
  [("Runtime", .str runtime.value), ("NetworkMode", .str "none"), ("ReadonlyRootfs", .bool true),
    ("Privileged", .bool false), ("Memory", .int job.policy.memoryBytes),
    ("MemorySwap", .int job.policy.memoryBytes), ("NanoCpus", .int (job.policy.cpus * 10 ^ 9)),
    ("PidsLimit", .int job.policy.pids), ("CgroupnsMode", .str "private")]

/-- Whether a container has the requested configuration; the checks stop at the
first one that fails. -/
def appliedPolicy (definition : Json) : Except PyError Bool := do
  let settings ← subscript definition "HostConfig"
  let found ← (expectedHost job runtime).mapM fun expected => do
    return ((← getAttr settings expected.1), expected.2)
  if found.any fun pair => !(pair.1.getD .null).pyEq pair.2 then return false
  if Json.truthy (← getAttr settings "Binds") then return false
  if Json.truthy (← getAttr settings "Devices") then return false
  if Json.truthy (← getAttr definition "Mounts") then return false
  if !((← getAttr settings "CapDrop").getD .null).pyEq (.arr [.str "ALL"]) then return false
  if !(← contains (← getOr settings "SecurityOpt" (.arr [])) "no-new-privileges=true") then
    return false
  if !(← subscript (← subscript definition "Config") "User").pyEq (.str "65532:65532") then
    return false
  isSetOf (← getOr settings "Tmpfs" (.obj [])) ["/workspace", "/tmp"]

/-- The exit codes that count as completion. -/
def acceptedCodes (mode : SandboxMode) : List Int := if mode = .analyze then [0, 1] else [0]

/-- The end of the workload as the daemon reports it. -/
def readState (code : Int) (stdout stderr : Bytes) : SandboxM Unit := do
  let definition ← liftError (first (← control docker decoder (.inspect name)))
  let state ← lift (subscript definition "State")
  if Json.truthy (← lift (subscript state "Running")) then
    throw (.control "Docker attach ended before the workload")
  let exitCode ← lift (subscript state "ExitCode")
  modifyExecution fun execution => { execution with exitCode }
  let oomKilled ← lift (subscript state "OOMKilled")
  modifyExecution fun execution => { execution with oomKilled }
  modify fun world => { world with result := { world.result with
    stdout := decoder.replace stdout, stderr := decoder.replace stderr } }
  let accepted := acceptedCodes job.mode
  let completed ← if code ∈ accepted then
      pure ((← lift (inSet exitCode (accepted.map .int))) && !Json.truthy oomKilled)
    else pure false
  modify fun world => { world with result := { world.result with
    status := if completed then .completed else .failed } }

/-- The container from its creation to the end of its workload. -/
def runContainer : SandboxM Unit := do
  let image := (← get).result.execution.image
  let arguments ← lift (match image with
    | .str text => .ok (createArguments host job runtime name text)
    | _ => typeError "expected str, bytes or os.PathLike object")
  let (code, output, _) ← capture docker (.create name arguments)
  if code ≠ 0 then throw (.control "Container creation failed")
  let identifier ← lift (decoder.decode output)
  modifyExecution fun execution => { execution with containerId := some (strip identifier) }
  let definition ← liftError (first (← control docker decoder (.inspect name)))
  if !(← lift (appliedPolicy job runtime definition)) then
    throw (.control "Docker did not apply the required sandbox policy")
  let (code, stdout, stderr) ← capture docker (.start name)
  readState docker decoder job name code stdout stderr

def setOutcome (status : SandboxStatus) (reason : Option String) : SandboxM Unit :=
  modify fun world => { world with result := { world.result with
    status, execution := { world.result.execution with
      reason := reason.or world.result.execution.reason } } }

/-- The handlers of the container's failures; every other exception goes on. -/
def handleFailure (error : SandboxError) : SandboxM Unit :=
  match error with
  | .timeout => do
    setOutcome .timedOut none
    modifyExecution fun execution => { execution with timedOut := true }
  | .control message => setOutcome .failed (some message)
  | .group true => do
    setOutcome .outputLimit none
    modifyExecution fun execution => { execution with outputTruncated := true }
  | .group false => setOutcome .failed (some "Sandbox output collection failed")
  | .error raised =>
    if raised.isData then setOutcome .failed (some "Sandbox control or output invalid")
    else throw error
  | .cancelled | .indexError => throw error

/-! ## Teardown -/

/-- A command of the teardown. The first cancellation of the execution leaves the
teardown running, a second one ends it. -/
def shieldedCapture (command : DockerCommand) : SandboxM (Int × Bytes × Bytes) := do
  let world ← get
  let outcome := docker.respond world.history command
  let history := world.history ++ [(command, outcome)]
  let interrupts := world.interrupts + docker.interrupts history
  set { world with history, interrupts }
  if 2 ≤ interrupts then throw .cancelled
  match outcome with
  | .exited code stdout stderr => return (code, stdout, stderr)
  | .raised error => throw error

/-- `not remaining.strip()` -/
def isBlank (output : Bytes) : Bool := output.all fun byte => byte ∈ [9, 10, 11, 12, 13, 32]

/-- What the teardown asks for. -/
def removeContainer : SandboxM Bool := do
  let (code, _, _) ← shieldedCapture docker (.remove name)
  if code = 0 then return true
  -- A failed create can leave no container.
  let (code, remaining, _) ← shieldedCapture docker (.list name)
  return code = 0 && isBlank remaining

/-- `cleanup` -/
def cleanup : SandboxM Bool :=
  tryCatch (removeContainer docker name) fun error =>
    match error with
    | .cancelled => throw error
    | _ => pure false

/-- The `finally` block. -/
def teardown : SandboxM Unit := do
  modify fun world => { world with interrupts := 0 }
  let succeeded ← cleanup docker name
  modifyExecution fun execution => { execution with cleanupSucceeded := succeeded }
  if 0 < (← get).interrupts + docker.late then throw .cancelled
  modifyExecution fun execution => { execution with durationMs := host.elapsed }
  if !succeeded then
    setOutcome .failed (some "Container teardown could not be confirmed")

/-- What a computation raises, for a `finally` block to raise again. -/
def attempted (body : SandboxM Unit) : SandboxM (Option SandboxError) := fun world =>
  match body world with
  | .ok _ next => .ok none next
  | .error error next => .ok (some error) next

/-- The container with its handlers and its teardown. -/
def supervise : SandboxM Unit := do
  let raised ← attempted (tryCatch (runContainer docker decoder host job runtime name) handleFailure)
  teardown docker host name
  match raised with
  | some error => throw error
  | none => pure ()

/-- The reason of an execution that cannot be started. -/
def unavailable (reason : String) : SandboxM Unit :=
  modifyExecution fun execution => { execution with reason := some reason }

/-- The handlers of the checks of daemon and image. -/
def handleUnavailable (error : SandboxError) : SandboxM Bool :=
  let caught := match error with
    | .control _ | .timeout | .group _ => true
    | .error raised => raised.isData
    | .cancelled | .indexError => false
  if caught then do
    unavailable "Docker/image unavailable; check service socket access and build-image"
    return false
  else throw error

/-- `_execute`, from an execution record of its own. -/
def executeJob : SandboxM Unit :=
  if host.cancelled then throw .cancelled
  else match resolveImage host with
  | .error error =>
    if error.type ∈ [ErrorType.valueError, .validationError] then unavailable error.message
    else throw (.error error)
  | .ok image => do
    modifyExecution fun execution => { execution with image := .str image }
    if !host.docker then unavailable "Docker CLI is unavailable"
    else if runtime = .kata ∧ !host.kvm then
      unavailable "Kata is unavailable: /dev/kvm is not accessible to the sandbox service"
    else if ← tryCatch (checkDaemon docker decoder runtime image) handleUnavailable then
      supervise docker decoder host job runtime name

/-- The record an execution starts from. -/
def initialWorld : DockerWorld where
  result :=
    { status := .unavailable
      execution :=
        { runtime, isolation := runtime.isolation, kernel := host.kernel, policy := job.policy } }

/-- `_execute` -/
def execute : EStateM.Result SandboxError DockerWorld SandboxResult :=
  (do
    executeJob docker decoder host job runtime name
    return (← get).result : SandboxM SandboxResult) (initialWorld host job runtime)

end Sandbox

end Aidlc
