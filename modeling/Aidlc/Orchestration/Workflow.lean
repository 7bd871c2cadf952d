import Mathlib.Algebra.Ring.Int.Defs
import Aidlc.Domain.Values
import Aidlc.Evaluation.Cli
import Aidlc.Orchestration.Requests

/-! # The orchestrator

The methods of `WorkflowOrchestrator`, and `reconcile_run` of its client, as
programs over the requests of the hub. The agent invocation itself is a request
here: the client that carries it out takes its turns with everything else.
-/

namespace Aidlc

open Foundation

def RunStatus.value : RunStatus → String
  | .pending => "pending"
  | .running => "running"
  | .inputRequired => "input_required"
  | .completed => "completed"
  | .failed => "failed"
  | .canceled => "canceled"
  | .blocked => "blocked"

def PromptKind.value : PromptKind → String
  | .clarification => "clarification"
  | .approval => "approval"
  | .evaluationDecision => "evaluation_decision"

def CapabilityCheck.modelDump (check : CapabilityCheck) : Json :=
  .obj [("name", .str check.name), ("status", .str check.status), ("detail", .str check.detail),
    ("required", .bool check.required)]

def HumanPrompt.modelDump (prompt : HumanPrompt) : Json :=
  .obj [("kind", .str prompt.kind.value), ("question", .str prompt.question)]

/-- The record of an interaction without the messages its surface is drawn from. -/
def HumanInteraction.fields (interaction : HumanInteraction) : List (String × Json) :=
  [("surface_id", .str interaction.surfaceId), ("run_id", .str interaction.runId),
    ("stage", .str interaction.stage.value), ("agent", .str interaction.agent),
    ("task_id", idJson interaction.taskId), ("context_id", .str interaction.contextId),
    ("prompt", interaction.prompt.modelDump), ("artifact_id", idJson interaction.artifactId),
    ("artifact_sha256", .str interaction.artifactSha256), ("version", .int interaction.version),
    ("response", Json.ofOption id interaction.response)]

variable (platform : Platform)

def HostReport.modelDump (report : HostReport) : Json :=
  .obj [("generated_at", .str (platform.isoformat report.generatedAt)),
    ("ready", .bool report.ready), ("degraded", .bool report.degraded),
    ("os_id", .str report.osId), ("os_version", .str report.osVersion),
    ("architecture", .str report.architecture), ("kernel", .str report.kernel),
    ("checks", .arr (report.checks.map CapabilityCheck.modelDump))]

/-- `_preflight_markdown` -/
def preflightMarkdown (report : HostReport) : String :=
  "\n".intercalate (["# Host capability report", "",
    "Ready: **" ++ (if report.ready then "True" else "False") ++ "**", ""] ++
    report.checks.map fun check =>
      "- `" ++ check.status ++ "` **" ++ check.name ++ "** — " ++ check.detail)

/-- What the hub computes with the code of others: the gates, the reading of
reports, the merge of sources, and the size and digest of serialized records. -/
structure HubTools where
  evaluateGates : AgentContext ContextItem → String → Except PyError QualityGateReport
  validateGates : Json → Except PyError QualityGateReport
  validateEvaluation : Json → Except PyError (EvaluationReport platform)
  mergeSources : AgentContext ContextItem → Except PyError SourceBundle
  contextBytes : AgentContext ContextItem → Nat
  contextSha256 : AgentContext ContextItem → String
  fingerprint : AgentResult → String

namespace Workflow

variable {platform} (tools : HubTools platform) (settings : HubSettings)

/-- `_event` -/
def event (eventType : String) (payload : List (String × Json)) : Routine Unit :=
  ask (.appendEvent eventType payload)

def stageField (stage : StageName) : String × Json := ("stage", .str stage.value)

/-- `_stage_started` -/
def stageStarted (stage : StageName) : Routine Unit := do
  ask (.updateStage stage .running none)
  event "stage.started" [stageField stage]

/-- `_stage_completed` -/
def stageCompleted (stage : StageName) : Routine Unit := do
  ask (.updateStage stage .completed none)
  event "stage.completed" [stageField stage]

/-- The write of an artifact and the add that always follows it. -/
def publish (request : WriteRequest) : Routine ArtifactRecord := do
  let artifact ← ask (.write request)
  ask (.addArtifact artifact)
  return artifact

def artifactField (artifact : ArtifactRecord) : String × Json :=
  ("artifact_id", idJson artifact.metadata.artifactId)

def kindField (kind : ArtifactKind) : String × Json := ("kind", .str kind.value)

/-- `_artifact_context` -/
def artifactContext : Routine (List ContextItem) := do
  let records ← ask .listArtifacts
  let contents ← ask (.readContents records)
  return List.zipWith (fun record content => ⟨record.metadata, content⟩) records contents

/-- `mapping[key] = value` on a dictionary. -/
def assign {α : Type} (mapping : List (String × α)) (key : String) (value : α) :
    List (String × α) :=
  if mapping.any fun item => item.1 == key then
    mapping.map fun item => if item.1 = key then (key, value) else item
  else mapping ++ [(key, value)]

/-- The identifiers announced by completed agents at this repair attempt. -/
def savedIds (events : List EventRecord) (repairAttempt : Nat) : List (Option Json) :=
  (events.filter fun event =>
    event.eventType == "artifact.created" &&
      Json.truthy (event.payload.get? "agent_completed") &&
      (event.payload.get? "repair_attempt").getD (.int 0) == .int repairAttempt).map
    fun event => event.payload.get? "artifact_id"

def stageStatus (run : WorkflowRun) (stage : StageName) : Option RunStatus :=
  (run.stages.find? fun record => record.name == stage).map StageRecord.status

/-- Whether an artifact is the output of one of the stage's agents. -/
def isStageOutput (stage : StageName) (metadata : ArtifactMetadata) : Bool :=
  metadata.stageId == stage &&
    (agentsByStage stage).any fun spec =>
      spec.name == metadata.producingAgent && spec.artifactKind == metadata.kind

/-- `_saved_outputs` -/
def savedOutputs (run : WorkflowRun) (stage : StageName) (repairAttempt : Nat) :
    Routine (List (String × ArtifactRecord)) := do
  let completed := stageStatus run stage == some .completed
  let events ← ask .eventsAfter
  let announced := savedIds events repairAttempt
  let artifacts ← ask .listArtifacts
  let chosen := artifacts.filter fun artifact =>
    isStageOutput stage artifact.metadata &&
      (completed || some (idJson artifact.metadata.artifactId) ∈ announced)
  let _ ← ask (.readContents chosen)
  let result := chosen.foldl
    (fun saved artifact => assign saved artifact.metadata.producingAgent artifact) []
  if stage = .integration then
    let current ← ask .listArtifacts
    if current.any fun item => item.metadata.kind == .integratedSource then return result
    return []
  return result

/-! ## Delegation -/

/-- One round of the loop of `reconcile_run`. -/
def reconcileTask (mapping : DelegatedTask) : Routine Unit := do
  if mapping.state.settled then return ()
  match mapping.taskId with
  | none =>
    fail .runtimeError "Previous remote task identity is unknown; retry cannot safely proceed"
  | some taskId =>
    let valid ← ask (.agentCard mapping.agent)
    if !valid then fail .valueError "Agent Card does not match the pinned A2A contract"
    let found ← ask (.getTask mapping.agent taskId)
    let state ← if (DelegationState.reported found).settled then pure found else do
      ask (.cancelRemoteTask mapping.agent taskId)
      ask (.getTask mapping.agent taskId)
    let mapping := { mapping with state := .reported state }
    ask (.saveDelegatedTask mapping)
    event "a2a.cancellation_result" mapping.modelDump
    if !mapping.state.settled then
      fail .runtimeError ("Previous " ++ mapping.agent ++ " task is still active; retry withheld")

/-- `A2AInvoker.reconcile_run` -/
def reconcileRun : Routine Unit := do
  let mappings ← ask .listDelegatedTasks
  mappings.forM reconcileTask

/-- The token count of an event payload; an absent one counts as zero. -/
def tokens (payload : Json) (key : String) : Int :=
  match payload.get? key with
  | some (.int count) => count
  | _ => 0

/-- The selection an execution is accounted to. -/
structure Selection where
  cacheKey : Json
  contextContractVersion : Json
  contextBytes : Json
  baselineContextBytes : Json
  repairAttempt : Json
  retryAttempt : Json

/-- The latest selection announced for the agent. -/
def announcedSelection (agent : String) (events : List EventRecord) : Selection :=
  let selected := (events.reverse.find? fun event =>
    event.eventType == "agent.context_selected" &&
      event.payload.get? "agent" == some (.str agent)).map EventRecord.payload
  let field (key : String) : Json := ((selected.bind fun payload => payload.get? key).getD .null)
  let number (key : String) : Json :=
    .int (match selected with | some payload => tokens payload key | none => 0)
  ⟨field "cache_key", field "context_contract_version", field "context_bytes",
    field "baseline_context_bytes", number "repair_attempt", number "retry_attempt"⟩

/-- The newest retry request, which starts the allowance of the evaluation anew. -/
def latestRetry (phase : StageName) (events : List EventRecord) : Nat :=
  if phase = .evaluation then
    ((events.filter fun event => event.eventType == "run.retry_requested").map
      EventRecord.eventId).foldl max 0
  else 0

/-- The tokens a phase has used, the new execution included. -/
def phaseTotal (phase : StageName) (events : List EventRecord) (execution : ExecutionMetadata) :
    Int :=
  let counted := events.filter fun event =>
    event.eventType == "agent.execution" && event.eventId > latestRetry phase events &&
      (event.payload.get? "phase" == some (.str phase.value) ||
        (agentsByStage phase).any fun spec => event.payload.get? "agent" == some (.str spec.name))
  (counted.map fun event =>
    tokens event.payload "input_tokens" + tokens event.payload "output_tokens").sum +
    (execution.inputTokens.getD 0 + execution.outputTokens.getD 0)

/-- Whether an event of this execution exists; executions without an identifier have none. -/
def isRecorded (events : List EventRecord) (execution : ExecutionMetadata) : Bool :=
  match execution.executionId with
  | none | some "" => false
  | some executionId => events.any fun event =>
    event.eventType == "agent.execution" &&
      event.payload.get? "execution_id" == some (.str executionId)

/-- `_record_execution`; without a selection of its own it uses the announced one. -/
def recordExecution (agent : String) (result : AgentResult) (phase : StageName)
    (selection : Option Selection) : Routine Unit := do
  let execution := result.execution
  let events ← ask .eventsAfter
  if isRecorded events execution then return ()
  let announced : List EventRecord ← if selection.isNone then ask .eventsAfter else pure []
  let selection := selection.getD (announcedSelection agent announced)
  event "agent.execution" (Json.merge
    [("agent", .str agent), ("phase", .str phase.value), ("cache_key", selection.cacheKey),
      ("context_contract_version", selection.contextContractVersion),
      ("context_bytes", selection.contextBytes),
      ("baseline_context_bytes", selection.baselineContextBytes),
      ("repair_attempt", selection.repairAttempt), ("retry_attempt", selection.retryAttempt)]
    execution.modelDump)
  -- `AGENTS_BY_STAGE` has no entry for the preflight.
  if phase = .preflight then fail .keyError "<StageName.PREFLIGHT: 'preflight'>"
  let total := phaseTotal phase events execution
  if total > settings.tokenBudgetPerPhasePerRun then
    fail .runtimeError
      ("Reported phase token budget per run exceeded; further delegation stopped (phase=" ++
        phase.value ++ ", reported_tokens=" ++ toString total ++ ", limit=" ++
        toString settings.tokenBudgetPerPhasePerRun ++ ", agent=" ++ agent ++
        "; configure AIDLC_TOKEN_BUDGET_PER_PHASE_PER_RUN)")

/-- The artifact under which a draft is shown. -/
def draftRequest (mapping : DelegatedTask) (draft : AgentResult) (parents : List ArtifactId) :
    WriteRequest where
  runId := mapping.runId
  stage := mapping.stage
  kind := draft.artifactKind
  producingAgent := mapping.agent
  content := draft.content
  markdown := draft.markdown
  parentArtifactIds := parents
  modelId := some draft.execution.modelId
  promptVersion := draft.execution.promptVersion
  execution := .obj draft.execution.modelDump

/-- The identity of the surface that shows a draft of an invocation. -/
def surfaceId (mapping : DelegatedTask) (draft : AgentResult) : String :=
  mapping.invocationId.text ++ ":" ++ tools.fingerprint draft

/-- Show a draft for the first time. -/
def openSurface (mapping : DelegatedTask) (draft : AgentResult) (prompt : HumanPrompt)
    (taskId : TaskId) : Routine HumanInteraction := do
  let interactions ← ask .listInteractions
  let clarifications := interactions.filter fun item => item.prompt.kind == .clarification
  if prompt.kind = .clarification ∧ settings.maxClarificationRounds ≤ clarifications.length then
    fail .runtimeError "Clarification round limit exceeded"
  let artifacts ← ask .listArtifacts
  let artifact ← publish (draftRequest mapping draft
    (artifacts.map fun item => item.metadata.artifactId))
  let interaction : HumanInteraction :=
    { surfaceId := surfaceId tools mapping draft
      runId := mapping.runId
      stage := mapping.stage
      agent := mapping.agent
      taskId
      contextId := mapping.contextId
      prompt
      artifactId := artifact.metadata.artifactId
      artifactSha256 := artifact.metadata.contentSha256
      version := 1
      response := none }
  let _ ← publish (.simple mapping.runId mapping.stage .humanRequest mapping.agent
    (.obj interaction.fields) ("# Human request\n\n" ++ prompt.question)
    [artifact.metadata.artifactId])
  ask (.saveInteraction interaction)
  return interaction

/-- The answers given to earlier clarifications. -/
def previousAnswers (interactions : List HumanInteraction) : Except PyError (List Json) :=
  (interactions.filter fun item =>
    item.prompt.kind == .clarification && Json.truthy item.response).mapM fun item =>
      subscript (item.response.getD .null) "answer"

/-- `_human_input` -/
def humanInput (mapping : DelegatedTask) (draft : AgentResult) : Routine Json := do
  recordExecution settings mapping.agent draft mapping.stage none
  match draft.humanPrompt, mapping.taskId with
  | some prompt, some taskId =>
    let interactions ← ask .listInteractions
    let interaction ← match interactions.find? fun item =>
        item.surfaceId == surfaceId tools mapping draft with
      | some interaction => pure interaction
      | none => openSurface tools settings mapping draft prompt taskId
    ask (.updateStage mapping.stage .inputRequired none)
    ask (.updateRun .inputRequired (some mapping.stage) none)
    event "human.requested" interaction.fields
    let answered ← match interaction.response with
      | some _ => pure interaction
      | none => ask (.humanResponse interaction.surfaceId)
    ask (.updateStage mapping.stage .running none)
    ask (.updateRun .running (some mapping.stage) none)
    let interactions ← ask .listInteractions
    let response := match answered.response with
      | some (.obj fields) => fields
      | _ => []
    let answers ← lift (previousAnswers interactions)
    return .obj (Json.merge response [("previous_answers", .arr answers)])
  | _, _ => fail .valueError "Missing human request or remote task identity"

/-- `_cache_runtime_profile` -/
def cacheRuntimeProfile : Json :=
  .obj [("reasoning_effort", .str settings.reasoningEffort),
    ("max_model_output_tokens", .int settings.maxModelOutputTokens),
    ("max_implementation_output_tokens", .int settings.maxImplementationOutputTokens),
    ("sandbox_backend", .str settings.sandboxBackend),
    ("sandbox_image", .str settings.sandboxImage),
    ("sandbox_execution_enabled", .bool settings.sandboxExecutionEnabled),
    ("analysis_backend", .str settings.analysisBackend),
    ("mcp_enabled", .bool settings.mcpEnabled),
    ("evaluation_score_threshold", .float settings.evaluationScoreThreshold)]

/-- Whether an artifact is the output of the agent under this key and these inputs. -/
def isCached (spec : AgentSpec) (cacheKey : String) (inputIds : List ArtifactId)
    (metadata : ArtifactMetadata) : Bool :=
  metadata.producingAgent == spec.name && metadata.kind == spec.artifactKind &&
    metadata.execution.get? "cache_key" == some (.str cacheKey) &&
    metadata.execution.get? "context_contract_version" == some (.str spec.contextContractVersion) &&
    metadata.parentArtifactIds == inputIds

/-- `_cached_output` -/
def cachedOutput (spec : AgentSpec) (cacheKey : String) (inputIds : List ArtifactId) :
    Routine (Option ArtifactRecord) := do
  let artifacts ← ask .listArtifacts
  match artifacts.reverse.find? fun artifact =>
      isCached spec cacheKey inputIds artifact.metadata with
  | none => return none
  | some artifact =>
    let _ ← ask (.readContents [artifact])
    return some artifact

/-- The context of the hub, as the baseline an agent's context is compared with. -/
def baselineContext (job : StageJob) (context : AgentContext ContextItem) :
    AgentContext ContextItem :=
  { job.context with
    repairArtifactId := context.repairArtifactId
    repairArtifactSha256 := context.repairArtifactSha256 }

variable (platform) in
/-- The key under which the output of an invocation is cached. -/
def cacheKeyOf (spec : AgentSpec) (context : AgentContext ContextItem) : String :=
  contextCacheKey platform spec context settings.model (cacheRuntimeProfile settings)

/-- The payload that announces the context of an agent. -/
def contextPayload (job : StageJob) (spec : AgentSpec) (context : AgentContext ContextItem) :
    List (String × Json) :=
  let contextBytes := tools.contextBytes context
  let baselineBytes := tools.contextBytes (baselineContext job context)
  [("agent", .str spec.name), stageField job.stage, ("repair_attempt", .int job.repairAttempt),
    ("retry_attempt", .int job.retryAttempt),
    ("input_artifact_ids", .arr ((contextInputArtifactIds context).map idJson)),
    ("context_contract_version", .str spec.contextContractVersion),
    ("context_sha256", .str (tools.contextSha256 context)), ("context_bytes", .int contextBytes),
    ("baseline_context_bytes", .int baselineBytes),
    ("context_bytes_saved", .int ((baselineBytes : Int) - contextBytes)),
    ("selected_artifact_count", .int context.artifacts.length),
    ("baseline_artifact_count", .int job.context.artifacts.length),
    ("cache_key", .str (cacheKeyOf platform settings spec context))]

/-- The artifact a completed invocation publishes. -/
def resultRequest (job : StageJob) (spec : AgentSpec) (context : AgentContext ContextItem)
    (result : AgentResult) : WriteRequest where
  runId := job.run.runId
  stage := job.stage
  kind := result.artifactKind
  producingAgent := spec.name
  content := result.content
  markdown := result.markdown
  parentArtifactIds := contextInputArtifactIds context
  modelId := some result.execution.modelId
  promptVersion := result.execution.promptVersion
  execution := .obj (Json.merge result.execution.modelDump
    [("cache_key", .str (cacheKeyOf platform settings spec context)),
      ("context_contract_version", .str spec.contextContractVersion),
      ("context_sha256", .str (tools.contextSha256 context)),
      ("context_bytes", .int (tools.contextBytes context)),
      ("baseline_context_bytes", .int (tools.contextBytes (baselineContext job context)))])

/-- The selection of an invocation that completed. -/
def ownSelection (job : StageJob) (spec : AgentSpec) (context : AgentContext ContextItem) :
    Selection where
  cacheKey := .str (cacheKeyOf platform settings spec context)
  contextContractVersion := .str spec.contextContractVersion
  contextBytes := .int (tools.contextBytes context)
  baselineContextBytes := .int (tools.contextBytes (baselineContext job context))
  repairAttempt := .int job.repairAttempt
  retryAttempt := .int job.retryAttempt

/-- Delegate to an agent and publish what it returns. -/
def delegate (job : StageJob) (spec : AgentSpec) (context : AgentContext ContextItem) :
    Routine ArtifactId := do
  event "agent.started" (contextPayload tools settings job spec context)
  let result ← ask (.invoke spec context)
  recordExecution settings spec.name result spec.stage
    (some (ownSelection tools settings job spec context))
  let artifact ← publish (resultRequest tools settings job spec context result)
  event "artifact.created" [artifactField artifact, kindField artifact.metadata.kind,
    stageField job.stage, ("agent_completed", .bool true),
    ("repair_attempt", .int job.repairAttempt)]
  event "agent.completed" [("agent", .str spec.name), stageField job.stage]
  return artifact.metadata.artifactId

/-- The inner `invoke` of `_run_stage`: one specialist of the stage. -/
def invokeAgent (job : StageJob) (spec : AgentSpec) : Routine ArtifactId := do
  match job.saved.lookup spec.name with
  | some artifact =>
    event "agent.reused" [("agent", .str spec.name), stageField job.stage]
    return artifact.metadata.artifactId
  | none =>
    ask .acquireSlot
    let context ← lift (buildAgentContext spec job.run.runId job.run.idea job.context.artifacts
      job.repairAttempt job.repairFeedback job.retryAttempt)
    event "agent.context_selected" (contextPayload tools settings job spec context)
    let cached ← if spec.cacheable then
        cachedOutput spec (cacheKeyOf platform settings spec context)
          (contextInputArtifactIds context)
      else pure none
    match cached with
    | some artifact =>
      event "agent.cache_hit"
        (Json.merge (contextPayload tools settings job spec context) [artifactField artifact])
      return artifact.metadata.artifactId
    | none => delegate tools settings job spec context

/-! ## Stages -/

/-- A context of the hub itself. -/
def hubContext (run : WorkflowRun) (stage : StageName) (artifacts : List ContextItem)
    (repairAttempt : Nat) (repairFeedback : Option Json) (retryAttempt : Nat) :
    AgentContext ContextItem where
  runId := run.runId
  idea := run.idea
  stage
  artifacts
  retryAttempt
  humanResponse := none
  repairAttempt
  repairFeedback
  repairArtifactId := none
  repairArtifactSha256 := none

def trustedIntegrationService : String := "trusted-integration-service"

/-- `_integrate` -/
def integrate (run : WorkflowRun) (parentIds : List ArtifactId) : Routine (List ArtifactId) := do
  let artifacts ← artifactContext
  let source ← lift (tools.mergeSources (hubContext run .integration artifacts 0 none 0))
  let artifact ← publish (.simple run.runId .integration .integratedSource
    trustedIntegrationService source.modelDump "# Integrated project source" parentIds)
  event "artifact.created"
    [artifactField artifact, kindField artifact.metadata.kind, stageField .integration]
  return parentIds ++ [artifact.metadata.artifactId]

def hasKindIn (kind : ArtifactKind) (artifacts : List ArtifactRecord) : Bool :=
  artifacts.any fun item => item.metadata.kind == kind

/-- Run the gates over the current artifacts and publish their report. -/
def runGates (run : WorkflowRun) (context : AgentContext ContextItem) :
    Routine (List ContextItem) := do
  let report ← lift (tools.evaluateGates context settings.sandboxBackend)
  let artifact ← publish (gateRequest run.runId report
    (context.artifacts.map fun item => item.metadata.artifactId))
  let artifacts ← artifactContext
  event "artifact.created"
    [artifactField artifact, kindField artifact.metadata.kind, stageField .evaluation]
  event "quality_gates.completed"
    [artifactField artifact, ("verdict", .str report.verdict.value),
      ("repair_attempt", .int context.repairAttempt)]
  return artifacts

/-- `_run_stage` -/
def runStage (run : WorkflowRun) (stage : StageName) (parentIds : List ArtifactId)
    (repairAttempt : Nat) (repairFeedback : Option Json) (retryAttempt : Nat)
    (reuseOutputs : Bool) : Routine (List ArtifactId) := do
  let saved ← if reuseOutputs then savedOutputs run stage repairAttempt else pure []
  ask (.updateRun .running (some stage) none)
  stageStarted stage
  if stage = .integration then
    let current : List ArtifactRecord ← if reuseOutputs then ask .listArtifacts else pure []
    if !hasKindIn .integratedSource current then let _ ← integrate tools run parentIds
  let artifacts ← artifactContext
  let context := hubContext run stage artifacts repairAttempt repairFeedback retryAttempt
  let gated := !saved.isEmpty &&
    artifacts.any fun item => item.metadata.kind == .qualityGateReport
  let artifacts ← if stage = .evaluation ∧ !gated then runGates tools settings run context
    else pure artifacts
  let created ← ask (.runAgents
    { run, stage, context := { context with artifacts }, saved, repairAttempt, repairFeedback,
      retryAttempt })
  stageCompleted stage
  return created

variable (platform) in
/-- `_preflight` -/
def preflight (run : WorkflowRun) : Routine Unit := do
  stageStarted .preflight
  let report ← ask .inspectHost
  let artifact ← publish (.simple run.runId .preflight .hostCapabilityReport "host-preflight"
    (report.modelDump platform) (preflightMarkdown report) [])
  event "artifact.created" [artifactField artifact, kindField artifact.metadata.kind]
  if !report.ready && settings.enforceHostPreflight then
    let reason := "Required host capabilities are unavailable. See the capability report."
    ask (.updateStage .preflight .blocked (some reason))
    ask (.updateRun .blocked (some .preflight) (some reason))
    event "run.blocked" [stageField .preflight, ("reason", .str reason)]
  else
    if !report.ready then
      event "preflight.override" [("reason", .str "AIDLC_ENFORCE_HOST_PREFLIGHT is false")]
    stageCompleted .preflight

/-! ## The execution of a run -/

/-- An execution together with the stage in which it was stopped. -/
abbrev Staged (α : Type) : Type := Program Request Request.Answer (StageName × Raised) α

/-- A part of the execution while `current_stage` has this value. -/
def during {α : Type} (stage : StageName) (routine : Routine α) : Staged α :=
  routine.handle fun raised => .raise (stage, raised)

/-- The attempt and the content of the latest repair request. -/
def latestFeedback (artifacts : List ContextItem) : Except PyError (Nat × Option Json) :=
  match latestRepair artifacts with
  | none => .ok (0, none)
  | some item => do
    match ← subscript item.content "attempt" with
    | Json.int (.ofNat attempt) => return (attempt, some item.content)
    | _ => typeError "attempt is no number of a repair"

/-- The stages before the first evaluation. -/
def openingStages : List StageName :=
  [.intake, .requirements, .discovery, .planning, .implementation, .integration]

def repairedStages : List StageName := [.implementation, .integration]

/-- One of the opening stages: reused as a whole, or run. -/
def openStage (run : WorkflowRun) (attempt : Nat) (feedback : Option Json) (retryAttempt : Nat)
    (parentIds : List ArtifactId) (stage : StageName) : Routine (List ArtifactId) := do
  let stageAttempt := if stage ∈ repairedStages then attempt else 0
  let saved ← if retryAttempt ≠ 0 then savedOutputs run stage stageAttempt else pure []
  if retryAttempt ≠ 0 ∧ stageStatus run stage = some .completed ∧
      saved.length = (agentsByStage stage).length then
    event "stage.reused" [stageField stage]
    return saved.map fun item => item.2.metadata.artifactId
  runStage tools settings run stage parentIds stageAttempt
    (if stageAttempt = 0 then none else feedback) retryAttempt (retryAttempt ≠ 0)

/-- A loop over stages in which every stage takes the artifacts of the one before. -/
def stageLoop (body : List ArtifactId → StageName → Routine (List ArtifactId)) :
    List StageName → List ArtifactId → Staged (List ArtifactId)
  | [], parentIds => pure parentIds
  | stage :: rest, parentIds => do
    let created ← during stage (body parentIds stage)
    stageLoop body rest created

/-- The newest artifact of a kind. -/
def newestOf (kind : ArtifactKind) (artifacts : List ContextItem) : Except PyError ContextItem :=
  match artifacts.reverse.find? fun item => item.metadata.kind == kind with
  | some item => .ok item
  | none => .error ⟨.stopIteration, ""⟩

/-- The decision a person recorded for exactly this evaluation. -/
def humanDecision (interactions : List HumanInteraction) (evaluation : ContextItem) :
    Except PyError (Option Json) :=
  let decided := interactions.reverse.find? fun item =>
    item.stage == .evaluation && item.prompt.kind == .evaluationDecision &&
      Json.truthy item.response && item.artifactSha256 == evaluation.metadata.contentSha256
  match decided with
  | none => .ok none
  | some item => (subscript (item.response.getD .null) "decision").map some

/-- What one pass of the evaluation loop decided, and on which evidence. -/
structure Judgment (platform : Platform) where
  parentIds : List ArtifactId
  gateArtifactId : ArtifactId
  gates : QualityGateReport
  evaluation : EvaluationReport platform
  decision : RepairDecision

/-- The evaluation stage and the decision on its outcome. -/
def judge (run : WorkflowRun) (attempt : Nat) (feedback : Option Json) (retryAttempt : Nat)
    (parentIds : List ArtifactId) : Routine (Judgment platform) := do
  let parentIds ← runStage tools settings run .evaluation parentIds attempt feedback retryAttempt
    (retryAttempt ≠ 0)
  let context ← artifactContext
  let gateArtifact ← lift (newestOf .qualityGateReport context)
  let evaluationArtifact ← lift (newestOf .evaluationReport context)
  let gates ← lift (tools.validateGates gateArtifact.content)
  let evaluation ← lift (tools.validateEvaluation evaluationArtifact.content)
  let interactions ← ask .listInteractions
  let human ← lift (humanDecision interactions evaluationArtifact)
  let decision := repairDecision gates evaluation attempt settings.maxEvaluationRepairAttempts
    settings.evaluationScoreThreshold (human.bind Json.str?)
  event "evaluation.decision"
    [("decision", .str decision.value), ("repair_attempt", .int attempt),
      ("quality_gate_artifact_id", idJson gateArtifact.metadata.artifactId),
      ("evaluation_artifact_id", idJson evaluationArtifact.metadata.artifactId),
      ("overall_score", Json.ofOption .float evaluation.overallScore),
      ("human_decision", Json.ofOption id human)]
  return ⟨parentIds, gateArtifact.metadata.artifactId, gates, evaluation, decision⟩

/-- The feedback of a repair. -/
def repairFeedback (attempt : Nat) (judgment : Judgment platform) : Json :=
  .obj [("attempt", .int attempt), ("quality_gates", judgment.gates.modelDump),
    ("evaluation", judgment.evaluation.modelDump)]

/-- The request of a repair, by which every later execution knows the attempt. -/
def requestRepair (run : WorkflowRun) (attempt : Nat) (judgment : Judgment platform) :
    Routine (List ArtifactId) := do
  let repair ← publish (.simple run.runId .evaluation .repairRequest "orchestrator"
    (repairFeedback attempt judgment)
    ("# Repair request\n\nAttempt " ++ toString attempt ++ "; preserve prior evidence.")
    (judgment.parentIds ++ [judgment.gateArtifactId]))
  event "artifact.created"
    [artifactField repair, kindField .repairRequest, stageField .evaluation]
  event "repair.started" [("attempt", .int attempt), artifactField repair]
  return judgment.parentIds ++ [repair.metadata.artifactId]

/-- The evaluation loop. A repair is decided only below the limit, so the
rounds left never run out. -/
def evaluationLoop (run : WorkflowRun) (retryAttempt : Nat) :
    Nat → Nat → Option Json → List ArtifactId → Staged (List ArtifactId)
  | left, attempt, feedback, parentIds => do
    let judgment ← during .evaluation
      (judge tools settings run attempt feedback retryAttempt parentIds)
    match judgment.decision, left with
    | .passed, _ | .deferred, _ => return judgment.parentIds
    | .exhausted, _ | .repair, 0 =>
      during .evaluation do
        event "repair.exhausted" [("repair_attempts", .int attempt)]
        fail .runtimeError "Evaluation repair limit exhausted; release withheld"
    | .repair, left + 1 =>
      let parentIds ← during .evaluation (requestRepair run (attempt + 1) judgment)
      let feedback := repairFeedback (attempt + 1) judgment
      let parentIds ← stageLoop
        (fun parentIds stage =>
          runStage tools settings run stage parentIds (attempt + 1) (some feedback) retryAttempt
            false)
        repairedStages parentIds
      evaluationLoop run retryAttempt left (attempt + 1) (some feedback) parentIds

/-- The body of `_execute` after the preflight. -/
def executeStages (run : WorkflowRun) (retryAttempt : Nat) : Staged Unit := do
  let artifacts ← during .preflight (ask .listArtifacts)
  let repairs ← during .preflight (if retryAttempt = 0 then pure [] else artifactContext)
  let (attempt, feedback) ← during .preflight (lift (latestFeedback repairs))
  let parentIds ← stageLoop (openStage tools settings run attempt feedback retryAttempt)
    openingStages (artifacts.map fun item => item.metadata.artifactId)
  let parentIds ← evaluationLoop tools settings run retryAttempt
    (settings.maxEvaluationRepairAttempts - attempt) attempt feedback parentIds
  let _ ← during .release
    (runStage tools settings run .release parentIds 0 none retryAttempt false)
  during .release do
    ask (.updateRun .completed (some .release) none)
    event "run.completed" []

/-- The body of the `try` statement of `_execute`. -/
def executeBody (run : WorkflowRun) (retryAttempt : Nat) : Staged Unit := do
  let refreshed ← during .preflight do
    if retryAttempt ≠ 0 then reconcileRun
    ask (.updateRun .running (some .preflight) none)
    preflight platform settings run
    ask .getRun
  match refreshed with
  | none => return ()
  | some refreshed =>
    if refreshed.status = .blocked then return ()
    executeStages tools settings run retryAttempt

/-- `type(error).__name__: error` for each leaf of an exception. -/
def failureMessage (errors : List PyError) : String :=
  "; ".intercalate (errors.map fun error => error.type.name ++ ": " ++ error.message)

/-- The handlers of `_execute`. -/
def concludeFailure (stage : StageName) : Raised → Routine Unit
  | .cancelled => do
    ask (.updateStage stage .canceled none)
    ask (.updateRun .canceled (some stage) none)
    event "run.canceled" [stageField stage]
  | .failed errors => do
    let message := failureMessage errors
    let status := if errors.all fun error => error.type == .remoteTaskCanceled then
      RunStatus.canceled else .failed
    ask (.updateStage stage status (some message))
    ask (.updateRun status (some stage) (some message))
    event ("run." ++ status.value) [stageField stage, ("error", .str message)]

/-- `_execute` -/
def execute (retryAttempt : Nat) : Routine Unit := do
  match ← ask .getRun with
  | none => return ()
  | some run =>
    (executeBody tools settings run retryAttempt).handle fun (stage, raised) =>
      concludeFailure stage raised

/-! ## The interface of the hub -/

/-- `create_run` -/
def createRun (idea : String) (now : Nat) : Routine Unit := do
  ask (.initializeProject idea)
  ask (.createRun idea now)
  event "run.created" [("idea", .str idea)]
  ask (.createTask 0)

/-- `retry` -/
def retry : Routine Unit := do
  match ← ask .getRun with
  | none => fail .valueError "Run not found"
  | some run =>
    if run.status ∉ [RunStatus.failed, .blocked, .canceled] then
      fail .valueError "Only failed, blocked, or canceled runs can be retried"
    let active : Bool ← ask (.activeTask false)
    if active then fail .valueError "This run still has an active workflow"
    -- Validate the persisted snapshots before scheduling model work.
    let _ ← artifactContext
    let events ← ask .eventsAfter
    let attempt := 1 + events.countP fun event => event.eventType == "run.retry_requested"
    ask (.updateRun .pending run.currentStage none)
    event "run.retry_requested" [("retry_attempt", .int attempt)]
    ask (.createTask attempt)

/-- `cancel` -/
def cancel : Routine Unit := do
  let active : Bool ← ask (.activeTask true)
  if active then
    match ← ask .getRun with
    | some run =>
      if run.status = .pending then ask (.updateRun .canceled run.currentStage none)
    | none => pure ()
    event "run.cancellation_requested" []
    ask .cancelTask

/-- Whether a later invocation of the same agent took the place of the one that asked. -/
def superseded (interaction : HumanInteraction) (mappings : List DelegatedTask) : Bool :=
  let latest := mappings.reverse.find? fun item =>
    item.agent == interaction.agent && item.stage == interaction.stage
  match latest with
  | some mapping => mapping.taskId != some interaction.taskId
  | none => false

/-- `respond` -/
def respond (action : HumanAction) : Routine Unit := do
  let interactions ← ask .listInteractions
  let found := interactions.find? fun item => item.surfaceId == action.surfaceId
  match found with
  | some interaction =>
    if interaction.response.isNone then
      let mappings ← ask .listDelegatedTasks
      if superseded interaction mappings then
        fail .valueError "This approval request was superseded by a retry"
  | none => pure ()
  let (interaction, created) ← ask (.acceptAction action)
  if created then
    event "human.responded"
      [("surface_id", .str interaction.surfaceId), ("decision", .str action.decision.value)]

end Workflow

end Aidlc
