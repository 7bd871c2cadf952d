import Aidlc.Domain.Values
import Aidlc.Evaluation.Models
import Aidlc.Tools.Models

/-! # Deterministic quality gates

The gates read the decoded artifacts of a context and accept only immutable
evidence about the current source. No program runs here.
-/

namespace Aidlc

open Foundation

def artifactKinds : List ArtifactKind :=
  [.hostCapabilityReport, .sandboxQualificationReport, .sandboxRecoveryReport, .projectBrief,
    .requirementsSpec, .architectureDecision, .uxSpecification, .threatModel, .testPlan,
    .implementationPlan, .codeChange, .integratedSource, .buildReport, .testReport,
    .staticAnalysisReport, .qualityGateReport, .repairRequest, .evaluationReport, .releaseBundle,
    .humanRequest, .humanResponse]

/-- The fields of `ArtifactMetadata`. -/
def metadataFields : List (String × Bool × Schema) :=
  [("project_id", false, .str), ("current_snapshot", false, .bool),
    ("schema_version", false, .str), ("artifact_id", true, .str),
    ("kind", true, .literal (artifactKinds.map ArtifactKind.value)),
    ("workflow_run_id", true, .str),
    ("stage_id", true, .literal (stageOrder.map StageName.value)),
    ("parent_artifact_ids", false, .list .str), ("producing_agent", true, .str),
    ("model_id", false, .nullable .str), ("prompt_version", false, .nullable .str),
    ("execution", false, .dict .any), ("created_at", false, .datetime),
    ("content_sha256", true, .str)]

def metadataSchema : Schema := .model false metadataFields

/-- The fields of `RequirementsSpec`. -/
def requirementsFields : List (String × Bool × Schema) :=
  [("product_name", true, .str), ("functional_requirements", true, .list .str),
    ("non_functional_requirements", true, .list .str), ("acceptance_criteria", true, .list .str),
    ("exclusions", true, .list .str), ("open_questions", true, .list .str)]

def requirementsSchema : Schema := .model false requirementsFields

def policySchema : Schema :=
  .model true
    [("cpus", false, .int (some 1) (some 2)),
      ("memory_bytes", false, .int (some 134217728) (some 1073741824)),
      ("pids", false, .int (some 16) (some 128)),
      ("workspace_bytes", false, .int (some 1048576) (some 16777216)),
      ("timeout_seconds", false, .int (some 1) (some 60)),
      ("max_output_bytes", false, .int (some 1) (some 262144)),
      ("network", false, .literal ["none"])]

/-- The fields of `SandboxExecution`. -/
def executionSchema : Schema :=
  .model false
    [("runtime", true, .literal ["runc", "runsc", "kata"]), ("isolation", true, .str),
      ("image", false, .nullable .str), ("container_id", false, .nullable .str),
      ("kernel", true, .str), ("runtime_version", false, .nullable .str),
      ("duration_ms", false, .int none none), ("exit_code", false, .nullable (.int none none)),
      ("timed_out", false, .bool), ("output_truncated", false, .bool),
      ("oom_killed", false, .bool), ("cleanup_succeeded", false, .bool),
      ("reason", false, .nullable .str), ("policy", true, policySchema)]

def findingSchema : Schema :=
  .model false
    [("rule_id", true, .str), ("severity", true, .literal ["error", "warning"]),
      ("path", true, .str), ("line", true, .int none none), ("column", true, .int none none),
      ("message", true, .str), ("fingerprint", true, .str)]

def analyzerExecutionSchema : Schema :=
  .model false
    [("runtime", false, .str), ("isolation", false, .str), ("duration_ms", true, .int none none),
      ("timed_out", false, .bool), ("output_truncated", false, .bool),
      ("image", false, .nullable .str), ("container_id", false, .nullable .str),
      ("kernel", false, .nullable .str), ("runtime_version", false, .nullable .str),
      ("exit_code", false, .nullable (.int none none)), ("oom_killed", false, .bool),
      ("cleanup_succeeded", false, .bool), ("reason", false, .nullable .str),
      ("policy", false, .dict (.either .str (.int none none)))]

/-- The fields of `AnalysisReport`. -/
def analysisFields : List (String × Bool × Schema) :=
  [("status", true, .literal ["completed", "failed", "timed_out", "output_limit", "unavailable"]),
    ("tool", false, .dict .str), ("findings", false, .list findingSchema),
    ("execution", true, analyzerExecutionSchema), ("analysis_id", true, .str),
    ("artifact_id", true, .str), ("content_sha256", true, .str), ("run_id", true, .str),
    ("result_uri", true, .str), ("summary", true, .dict (.int none none))]

def analysisSchema : Schema := .model false analysisFields

/-- `(KeyError, TypeError, ValueError)`: a validation error is a value error. -/
def defects : List ErrorType := [.keyError, .typeError, .valueError, .validationError]

variable (platform : Platform) (pydantic : Pydantic)

/-- `ArtifactMetadata.model_validate`: there must be a run, and the project must be its. -/
def validateMetadata (metadata : Json) : Except PyError Unit := do
  pydantic.validate metadataSchema metadata
  if metadata.get? "workflow_run_id" = some (.str "") then
    validationError "Project scope requires a workflow run ID"
  else
    match metadata.get? "project_id", metadata.get? "workflow_run_id" with
    | some (.str project), some (.str runId) =>
      if project ≠ "" ∧ project ≠ platform.projectIdForRun runId then
        validationError "Project identity does not match workflow run"
      else return ()
    | _, _ => return ()

/-- The loop over the input manifests. -/
def checkManifest (context : AgentContext Json) (artifact : Json) : Except PyError Unit := do
  let metadata ← subscript artifact "metadata"
  validateMetadata platform pydantic metadata
  let content ← subscript artifact "content"
  if metadata.get? "workflow_run_id" ≠ some (.str context.runId) ∨
      metadata.get? "content_sha256" ≠ some (.str (platform.sha256 content)) then
    valueError "Artifact run identity or content hash mismatch"
  else return ()

def integrityGate (context : AgentContext Json) : Except PyError (QualityGate String) := do
  let _ ← context.artifacts.mapM (checkManifest platform pydantic context)
  let ids ← context.artifacts.mapM artifactIdOf
  if ¬ids.Nodup then valueError "Duplicate artifact identity"
  else return ⟨"artifact_integrity", .passed,
    "Input manifests, run identity, and content hashes validate.", ids⟩

/-- The statements on the latest requirements whose failure fails the gate. -/
def checkRequirements (latest : Json) : Except PyError Unit := do
  let content ← subscript latest "content"
  pydantic.validate requirementsSchema content
  if !Json.truthy (content.get? "functional_requirements") ||
      !Json.truthy (content.get? "acceptance_criteria") then
    valueError "Requirements and acceptance criteria must be nonempty"
  else return ()

def requirementsGate (artifacts : List Json) : Except PyError (QualityGate String) := do
  let requirements ← artifacts.filterM (hasKind .requirementsSpec)
  match requirements.getLast? with
  | none =>
    return ⟨"requirements_schema", .notExecuted, "No requirements artifact is available.", []⟩
  | some latest =>
    let id ← artifactIdOf latest
    match checkRequirements pydantic latest with
    | .ok _ =>
      return ⟨"requirements_schema", .passed,
        "Requirements schema and acceptance criteria validate.", [id]⟩
    | .error error =>
      if error.type ∈ [ErrorType.validationError, .valueError] then
        return ⟨"requirements_schema", .failed, error.message, [id]⟩
      else .error error

/-- `latest[producing_agent] = item`: a new producer is added at the end. -/
def setLatest (latest : List (String × Json)) (producer : String) (item : Json) :
    List (String × Json) :=
  if latest.any fun entry => entry.1 == producer then
    latest.map fun entry => if entry.1 == producer then (producer, item) else entry
  else latest ++ [(producer, item)]

/-- The name of the agent that produced an artifact. -/
def producerOf (artifact : Json) : Except PyError String := do
  match ← metadataOf artifact "producing_agent" with
  | .str text => return text
  | _ => typeError "unhashable type"

/-- The latest integration, or else the latest output of every specialist. -/
def currentSources (artifacts : List Json) : Except PyError (List Json) := do
  let integrated ← artifacts.filterM (hasKind .integratedSource)
  match integrated.getLast? with
  | some latest => return [latest]
  | none =>
    let changes ← artifacts.filterM (hasKind .codeChange)
    let produced ← changes.mapM fun item => do return (← producerOf item, item)
    return (produced.foldl (fun latest entry => setLatest latest entry.1 entry.2) []).map Prod.snd

/-- A source that is a valid bundle; other exceptions than a failed validation
are not caught. -/
def isExecutable (item : Json) : Except PyError Bool := do
  match SourceBundle.validate (← subscript item "content") with
  | .ok _ => return true
  | .error error => if error.type = .validationError then return false else .error error

/-- `re.search(r"Ran [1-9][0-9]* tests? in ", text)` at the start of the text. -/
def startsWithCount (text : List Char) : Bool :=
  match text with
  | 'R' :: 'a' :: 'n' :: ' ' :: digit :: rest =>
    '1' ≤ digit && digit ≤ '9' &&
      match rest.dropWhile fun c => '0' ≤ c && c ≤ '9' with
      | ' ' :: 't' :: 'e' :: 's' :: 't' :: 's' :: ' ' :: 'i' :: 'n' :: ' ' :: _ => true
      | ' ' :: 't' :: 'e' :: 's' :: 't' :: ' ' :: 'i' :: 'n' :: ' ' :: _ => true
      | _ => false
  | _ => false

def showsExecutedTest (text : String) : Bool := text.toList.tails.any startsWithCount

/-- `re.fullmatch(r"sha256:[a-f0-9]{64}", text)` -/
def isImageDigest (text : String) : Bool :=
  "sha256:".toList.isPrefixOf text.toList &&
    (text.toList.drop 7).length == 64 &&
    (text.toList.drop 7).all fun c => ('a' ≤ c && c ≤ 'f') || ('0' ≤ c && c ≤ '9')

/-- `re.search` and `re.fullmatch` take text only. -/
def matchesText (test : String → Bool) (value : Json) : Except PyError Bool :=
  match value with
  | .str text => return test text
  | .null | .bool _ | .int _ | .float _ | .arr _ | .obj _ =>
    typeError ("expected string or bytes-like object, got '" ++ Json.typeName value ++ "'")

/-- `needle in container`; validated metadata only holds lists of identifiers. -/
def isMember (needle container : Json) : Except PyError Bool :=
  match container with
  | .arr items => return items.any (Json.pyEq · needle)
  | .null | .bool _ | .int _ | .float _ | .str _ | .obj _ =>
    typeError ("argument of type '" ++ Json.typeName container ++ "' is not iterable")

/-- The execution record of a report is one clean run under the runtime. -/
def cleanExecution (runtime : String) (status execution : Json) : Except PyError Bool := do
  let runtimeOf ← getAttr execution "runtime"
  let exitCode ← getAttr execution "exit_code"
  let cleanup ← getAttr execution "cleanup_succeeded"
  let timedOut ← getAttr execution "timed_out"
  let truncated ← getAttr execution "output_truncated"
  let killed ← getAttr execution "oom_killed"
  let image ← getAttr execution "image"
  if !Json.pyEq status (.str "completed") || runtimeOf ≠ some (.str runtime) ||
      !exitCode.any (Json.pyEq (.int 0)) || cleanup ≠ some (.bool true) ||
      timedOut ≠ some (.bool false) || truncated ≠ some (.bool false) ||
      killed ≠ some (.bool false) then
    return false
  else matchesText isImageDigest (if Json.truthy image then image.getD .null else .str "")

/-- The keys under which a report names its source and the hash of the source,
and the service that publishes such reports. -/
structure ReportShape where
  idKey : String
  hashKey : String
  producer : String

def reportShape (kind : ArtifactKind) : ReportShape :=
  if kind = .staticAnalysisReport then
    ⟨"artifact_id", "content_sha256", "static-analysis-agent"⟩
  else ⟨"source_artifact_id", "source_sha256", "trusted-sandbox-service"⟩

/-- The branch of `_check_report` for an analysis. -/
def checkAnalysis (source report : Json) : Except PyError Unit := do
  pydantic.validate analysisSchema report
  if !Json.pyEq (← subscript report "run_id") (← metadataOf source "workflow_run_id") then
    valueError "Analysis belongs to another run"
  else
    match report.get? "findings" with
    | some (.arr (_ :: rest)) =>
      valueError ("Static analysis has " ++ toString (rest.length + 1) ++ " findings")
    | _ => return ()

/-- The branch of `_check_report` for a build or a test. -/
def checkSandbox (kind : ArtifactKind) (artifact report : Json) : Except PyError Unit := do
  if !Json.pyEq (← metadataOf artifact "execution") (← subscript report "execution") then
    valueError "Sandbox manifest and report execution disagree"
  else if kind = .testReport then
    if ← matchesText showsExecutedTest (((← getAttr report "stderr")).getD (.str "")) then
      return ()
    else valueError "No executed unittest count in the trusted worker output"
  else return ()

/-- The report is about the source, and the trusted service published it. -/
def checkOrigin (kind : ArtifactKind) (source artifact report : Json) : Except PyError Unit := do
  if !Json.pyEq (← subscript report (reportShape kind).hashKey)
      (← metadataOf source "content_sha256") then
    valueError "Evidence source hash mismatch"
  else if !(← isMember (.str (← artifactIdOf source))
      (← metadataOf artifact "parent_artifact_ids")) then
    valueError "Evidence manifest does not reference the source parent"
  else if !Json.pyEq (← metadataOf artifact "producing_agent")
      (.str (reportShape kind).producer) then
    valueError "Evidence was not published by the trusted execution service"
  else return ()

/-- The fixed sandbox limits are parsed even where the analyzer adds fields. -/
def checkExecution (report : Json) (runtime : String) : Except PyError Unit := do
  let execution ← subscript report "execution"
  pydantic.validate executionSchema execution
  if ← cleanExecution runtime (← subscript report "status") execution then return ()
  else valueError "Execution failed, lacks pinned isolation evidence, or used another runtime"

/-- `_check_report` -/
def checkReport (kind : ArtifactKind) (source artifact report : Json) (runtime : String) :
    Except PyError Unit := do
  checkOrigin kind source artifact report
  if kind = .staticAnalysisReport then checkAnalysis pydantic source report
  else checkSandbox kind artifact report
  checkExecution pydantic report runtime

/-- The embedded reports of one artifact that name the source. -/
def candidatesIn (kind : ArtifactKind) (sourceId : String) (artifact : Json) :
    Except PyError (List (Json × Json)) := do
  if ← hasKind kind artifact then
    let content ← subscript artifact "content"
    match (← getAttr content "reports").getD (.arr [content]) with
    | .arr reports =>
      return (reports.filter fun report =>
        (report.get? (reportShape kind).idKey).any fun id =>
          Json.pyEq id (.str sourceId)).map fun report => (artifact, report)
    | _ => return []
  else return []

/-- What the loop of `_execution_gate` has collected. -/
structure Examined where
  evidence : List String
  failures : List String
  missing : List String

def examineSource (kind : ArtifactKind) (artifacts : List Json) (runtime : String)
    (examined : Examined) (source : Json) : Except PyError Examined := do
  let id ← artifactIdOf source
  let candidates ← artifacts.mapM (candidatesIn kind id)
  match candidates.flatten.getLast? with
  | none => return { examined with missing := examined.missing ++ [id] }
  | some (artifact, report) =>
    let evidence := examined.evidence ++ [← artifactIdOf artifact]
    match checkReport pydantic kind source artifact report runtime with
    | .ok _ => return { examined with evidence }
    | .error error =>
      if error.type ∈ defects then
        return { examined with
          evidence, failures := examined.failures ++ [id ++ ": " ++ error.message] }
      else .error error

/-- `_execution_gate` -/
def executionGate (name : String) (kind : ArtifactKind) (sources artifacts : List Json)
    (runtime : String) (ready : Bool) : Except PyError (QualityGate String) := do
  if !ready then
    return ⟨name, .notExecuted,
      "Requires executable source from every implementation specialist.", []⟩
  else
    let examined ← sources.foldlM (examineSource pydantic kind artifacts runtime) ⟨[], [], []⟩
    let status : GateStatus :=
      if examined.missing ≠ [] then .notExecuted
      else if examined.failures ≠ [] then .failed else .passed
    let details := examined.failures ++
      (if examined.missing ≠ [] then
        ["Missing current-source evidence: " ++ ", ".intercalate examined.missing] else [])
    let detail :=
      if details ≠ [] then "; ".intercalate details
      else "Current-source " ++ name ++ " evidence passes under " ++ runtime ++ "."
    return ⟨name, status, detail, examined.evidence.eraseDups⟩

/-- The verdict of the collected gates. -/
def verdictOf (gates : List (QualityGate String)) : Verdict :=
  if gates.any fun gate => gate.status == .notExecuted then .blocked
  else if gates.any fun gate => gate.status == .failed then .failed
  else .passed

/-- Some file of a validated bundle belongs to the user interface. -/
def hasInterface (item : Json) : Except PyError Bool := do
  match SourceBundle.validate (← subscript item "content") with
  | .ok bundle => return bundle.files.any fun file => "ui/".isPrefixOf file.path
  | .error error => .error error

def sourceGate (ready : Bool) (ids : List String) : QualityGate String where
  name := "executable_source"
  status := if ready then .passed else .notExecuted
  detail :=
    if ready then "Current project source is a validated Python/React bundle."
    else "Current implementation includes proposals or unsupported/missing source."
  evidenceArtifactIds := ids

/-- The gates after the integrity of the input has been checked. -/
def evaluateSource (context : AgentContext Json) (runtime : String)
    (integrity : QualityGate String) : Except PyError (QualityGateReport String) := do
  let requirements ← requirementsGate pydantic context.artifacts
  let sources ← currentSources context.artifacts
  let executable ← sources.filterM isExecutable
  let ready := !sources.isEmpty && executable.length == sources.length
  let source := sourceGate ready (← sources.mapM artifactIdOf)
  let build ← executionGate pydantic "build" .buildReport executable context.artifacts runtime
    ready
  let tests ← executionGate pydantic "unit_tests" .testReport executable context.artifacts runtime
    ready
  let analysis ← executionGate pydantic "static_analysis" .staticAnalysisReport executable
    context.artifacts runtime ready
  let gates := [integrity, requirements, source, build, tests, analysis]
  let react := (← executable.mapM hasInterface).any id
  return {
    profile := if react then "python-react-v1" else "python-stdlib-v1"
    runId := context.runId
    repairAttempt := context.repairAttempt
    verdict := verdictOf gates
    gates
    sourceArtifactIds := ← executable.mapM artifactIdOf
    deferredChecks :=
      [if react then "backend type checking" else "type checking",
        "integration and browser tests", "dependency and security scanning",
        "requirement-to-test coverage", "runsc/Kata comparison"] }

/-- `evaluate_gates` -/
def evaluateGates (context : AgentContext Json) (runtime : String) :
    Except PyError (QualityGateReport String) :=
  match integrityGate platform pydantic context with
  | .error error =>
    if error.type ∈ defects then
      .ok {
        profile := "python-stdlib-v1"
        runId := context.runId
        repairAttempt := context.repairAttempt
        verdict := .blocked
        gates := [⟨"artifact_integrity", .failed, error.message, []⟩]
        sourceArtifactIds := []
        deferredChecks :=
          ["type checking", "integration and browser tests",
            "dependency and security scanning", "requirement-to-test coverage",
            "runsc/Kata comparison"] }
    else .error error
  | .ok integrity => evaluateSource pydantic context runtime integrity

end Aidlc
