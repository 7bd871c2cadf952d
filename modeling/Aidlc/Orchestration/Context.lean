import Aidlc.Agents.Catalog
import Mathlib.Data.List.Sort

/-! # Least-context projections

The hub offers a specialist the snapshots its contract declares and nothing
else. What a specialist is sent, which artifacts count as its inputs, and the
key its output is cached under are functions of that projection.
-/

namespace Aidlc

open Foundation

/-- `_matches` -/
def ArtifactInput.matches (dependency : ArtifactInput) (artifact : ContextItem) : Bool :=
  artifact.metadata.kind == dependency.kind && (match dependency.producer with
    | none => true
    | some producer => artifact.metadata.producingAgent == producer)

/-- The latest item of each producer, by name: `latest_by_producer` in sorted order. -/
def latestByProducer (fallback : List ContextItem) : List ContextItem :=
  let names := (fallback.map fun item => item.metadata.producingAgent).dedup.insertionSort (· ≤ ·)
  names.filterMap fun name => fallback.reverse.find? fun item => item.metadata.producingAgent == name

/-- What is raised when a required dependency has no artifact. -/
def ArtifactInput.missing (spec : AgentSpec) (dependency : ArtifactInput) : PyError :=
  let producer := match dependency.producer with
    | some producer => if producer = "" then "" else " from " ++ producer
    | none => ""
  ⟨.valueError, spec.name ++ " requires " ++ dependency.kind.value ++ producer⟩

/-- What one declared dependency selects. -/
def ArtifactInput.select (spec : AgentSpec) (artifacts : List ContextItem)
    (dependency : ArtifactInput) : Except PyError (List ContextItem) :=
  let direct := artifacts.filter dependency.matches
  let found := match direct, dependency.fallbackKind with
    | [], some fallback =>
      latestByProducer (artifacts.filter fun item => item.metadata.kind == fallback)
    | direct, _ => direct
  match found with
  | [] =>
    if dependency.required then .error (dependency.missing spec) else .ok []
  | first :: rest =>
    if some first.metadata.kind = dependency.fallbackKind then .ok (first :: rest)
    else .ok [(first :: rest).getLast (List.cons_ne_nil first rest)]

/-- One current snapshot per declared dependency, in contract order. -/
def selectAgentArtifacts (spec : AgentSpec) (artifacts : List ContextItem) :
    Except PyError (List ContextItem) := do
  return (← spec.inputs.mapM (ArtifactInput.select spec artifacts)).flatten

/-- The newest repair request among the artifacts. -/
def latestRepair (artifacts : List ContextItem) : Option ContextItem :=
  artifacts.reverse.find? fun item => item.metadata.kind == .repairRequest

/-- The payload for one specialist. -/
def buildAgentContext (spec : AgentSpec) (runId : RunId) (idea : String)
    (artifacts : List ContextItem) (repairAttempt : Nat) (repairFeedback : Option Json)
    (retryAttempt : Nat) : Except PyError (AgentContext ContextItem) := do
  let repairArtifact := if repairAttempt = 0 then none else latestRepair artifacts
  return {
    runId
    idea := if spec.includeIdea then idea else ""
    stage := spec.stage
    artifacts := ← selectAgentArtifacts spec artifacts
    retryAttempt
    humanResponse := none
    repairAttempt
    repairFeedback := if repairAttempt = 0 then none else repairFeedback
    repairArtifactId := repairArtifact.map fun item => item.metadata.artifactId
    repairArtifactSha256 := repairArtifact.map fun item => item.metadata.contentSha256 }

/-- `context_input_artifact_ids` -/
def contextInputArtifactIds (context : AgentContext ContextItem) : List ArtifactId :=
  context.artifacts.map (fun item => item.metadata.artifactId) ++ context.repairArtifactId.toList

variable (platform : Platform)

def ArtifactMetadata.modelDump (metadata : ArtifactMetadata) : Json :=
  .obj [("project_id", .str metadata.projectId),
    ("current_snapshot", .bool metadata.currentSnapshot), ("schema_version", .str "1.0"),
    ("artifact_id", idJson metadata.artifactId), ("kind", .str metadata.kind.value),
    ("workflow_run_id", .str metadata.workflowRunId), ("stage_id", .str metadata.stageId.value),
    ("parent_artifact_ids", .arr (metadata.parentArtifactIds.map idJson)),
    ("producing_agent", .str metadata.producingAgent),
    ("model_id", Json.ofOption .str metadata.modelId),
    ("prompt_version", Json.ofOption .str metadata.promptVersion),
    ("execution", metadata.execution), ("created_at", .str (platform.isoformat metadata.createdAt)),
    ("content_sha256", .str metadata.contentSha256)]

def ContextItem.modelDump (item : ContextItem) : Json :=
  .obj [("metadata", item.metadata.modelDump platform), ("content", item.content)]

/-- A context as it is handed to the client, with plain objects for its artifacts. -/
def AgentContext.plain (context : AgentContext ContextItem) : AgentContext Json :=
  { context with artifacts := context.artifacts.map (ContextItem.modelDump platform) }

def AgentContext.modelDump (context : AgentContext Json) : Json :=
  .obj [("project_id", .str (platform.projectIdForRun context.runId)),
    ("retry_attempt", .int context.retryAttempt), ("run_id", .str context.runId),
    ("idea", .str context.idea), ("stage", .str context.stage.value),
    ("artifacts", .arr context.artifacts),
    ("human_response", Json.ofOption id context.humanResponse),
    ("repair_attempt", .int context.repairAttempt),
    ("repair_feedback", Json.ofOption id context.repairFeedback),
    ("repair_artifact_id", Json.ofOption idJson context.repairArtifactId),
    ("repair_artifact_sha256", Json.ofOption .str context.repairArtifactSha256)]

/-- The digest of an artifact, computed where its metadata has none. -/
def ContextItem.digest (item : ContextItem) : String :=
  if item.metadata.contentSha256 = "" then platform.sha256 item.content
  else item.metadata.contentSha256

/-- `context_cache_key`: the retry number is left out on purpose. -/
def contextCacheKey (spec : AgentSpec) (context : AgentContext ContextItem) (modelId : String)
    (runtimeProfile : Json) : String :=
  platform.sha256 (.obj [("agent", .str spec.name), ("model_id", .str modelId),
    ("prompt_version", .str spec.promptVersion),
    ("context_contract_version", .str spec.contextContractVersion), ("idea", .str context.idea),
    ("artifact_hashes", .arr (context.artifacts.map fun item => .str (item.digest platform))),
    ("human_response", Json.ofOption id context.humanResponse),
    ("repair_attempt", .int context.repairAttempt),
    ("repair_feedback", Json.ofOption id context.repairFeedback),
    ("repair_artifact_sha256", Json.ofOption .str context.repairArtifactSha256),
    ("runtime_profile", runtimeProfile)])

end Aidlc
