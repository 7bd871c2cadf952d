import Mathlib.Data.Set.Insert
import Aidlc.Orchestration.CacheKeys
import Aidlc.Orchestration.Lifecycle
import Aidlc.Orchestration.Selection

/-! # Where cached outputs come from

An artifact that names a cache key is the output of an invocation that returned; a
draft names none. The programs of the orchestrator write no other artifacts, and what
they delegate they have read from the store.
-/

namespace Aidlc

open Foundation Workflow

/-- An invocation that returned, and the settings under which it ran. -/
structure Completion where
  settings : HubSettings
  spec : AgentSpec
  context : AgentContext ContextItem
  result : AgentResult

variable {platform : Platform} (tools : HubTools platform)

/-- The request writes what a known invocation returned, or names no cache key. -/
def Sourced (known : Set Completion) (request : WriteRequest) : Prop :=
  request.execution.get? "cache_key" = none ∨
    ∃ completion ∈ known, ReadThrough platform completion.context.artifacts ∧
      ∃ job : StageJob, job.run.runId = completion.context.runId ∧
        request = resultRequest tools completion.settings job completion.spec completion.context
          completion.result

/-- The metadata of an artifact that such a request wrote. -/
def Traced (known : Set Completion) (metadata : ArtifactMetadata) : Prop :=
  ∃ request artifactId createdAt, Sourced tools known request ∧
    metadata = ArtifactMetadata.ofRequest platform request artifactId createdAt

namespace Request

/-- What a request presumes of the invocations that returned before it. -/
def Presumes (known : Set Completion) : Request → Prop
  | write request => Sourced tools known request
  | addArtifact record => Traced tools known record.metadata
  | runAgents job => ReadThrough platform job.context.artifacts
  | invoke spec context =>
      ReadThrough platform context.artifacts ∧ spec ∈ agentSpecs ∧ context.stage = spec.stage
  | _ => True

variable (platform) in
/-- What the answer to a request tells. -/
def Tells (settings : HubSettings) (known next : Set Completion) :
    (request : Request) → request.Answer → Prop
  | write request, answer =>
      next = known ∧ ∀ record : ArtifactRecord, answer = .ok record → ∃ artifactId createdAt,
        record.metadata = ArtifactMetadata.ofRequest platform request artifactId createdAt
  | readContents records, answer =>
      next = known ∧ ∀ contents : List Json, answer = .ok contents →
        contents.map platform.sha256 = records.map fun record => record.metadata.contentSha256
  | invoke spec context, answer =>
      (∀ result : AgentResult, answer = .ok result →
        next = insert ⟨settings, spec, context, result⟩ known) ∧
      ∀ raised, answer = .error raised → next = known
  | _, _ => next = known

end Request

/-- More invocations may return at any time. -/
def provenance (settings : HubSettings) : Protocol (Set Completion) Request Request.Answer where
  requires request known := request.Presumes tools known
  drifts _ known drifted := known ⊆ drifted
  answers request known answer next := request.Tells platform settings known next answer
  guarantees _ _ := True

/-- A write stays sourced when more completions are known. -/
theorem Sourced.mono {known later : Set Completion} {request : WriteRequest}
    (hsourced : Sourced tools known request) (hsubset : known ⊆ later) :
    Sourced tools later request := by
  rcases hsourced with hnone | ⟨completion, hknown, hrest⟩
  · exact Or.inl hnone
  · exact Or.inr ⟨completion, hsubset hknown, hrest⟩

/-- A record stays traced when more completions are known. -/
theorem Traced.mono {known later : Set Completion} {metadata : ArtifactMetadata}
    (htraced : Traced tools known metadata) (hsubset : known ⊆ later) :
    Traced tools later metadata := by
  obtain ⟨request, artifactId, createdAt, hsourced, hmetadata⟩ := htraced
  exact ⟨request, artifactId, createdAt, hsourced.mono tools hsubset, hmetadata⟩

/-- What a request presumes is never lost as completions are collected. -/
theorem Request.Presumes.mono {known later : Set Completion} {request : Request}
    (hpresumes : request.Presumes tools known) (hsubset : known ⊆ later) :
    request.Presumes tools later := by
  cases request with
  | write request => exact Sourced.mono tools hpresumes hsubset
  | addArtifact record => exact Traced.mono tools hpresumes hsubset
  | _ => exact hpresumes

/-- No answer takes back an invocation that returned. -/
theorem Request.Tells.subset {settings : HubSettings} {known next : Set Completion}
    {request : Request} {answer : request.Answer}
    (htells : request.Tells platform settings known next answer) : known ⊆ next := by
  cases request with
  | write request => exact htells.1.superset
  | readContents records => exact htells.1.superset
  | invoke spec context =>
      cases answer with
      | ok result => rw [htells.1 result rfl]; exact Set.subset_insert _ _
      | error raised => exact (htells.2 raised rfl).superset
  | _ => exact htells.superset

namespace Workflow

variable {tools} {settings : HubSettings} {base : Set Completion} {ε α β : Type}

variable (tools settings base) in
/-- The program writes only what these invocations and its own returned. -/
abbrev Faithful (program : Program Request Request.Answer ε α) : Prop :=
  program.Keeps (provenance tools settings) (base ⊆ ·)

variable (tools settings base) in
abbrev Gives (returns : α → Prop) (program : Program Request Request.Answer ε α) : Prop :=
  program.Yields (provenance tools settings) (base ⊆ ·) returns

/-- The requests that presume nothing. -/
def plain : Request → Bool
  | .write _ | .addArtifact _ | .runAgents _ | .invoke .. => false
  | _ => true

/-- A plain request presumes nothing about the completions known so far. -/
theorem presumes_of_plain {request : Request} (hplain : plain request = true)
    (known : Set Completion) : request.Presumes tools known := by
  cases request <;> trivial

/-- No answer makes the hub forget a completion. -/
theorem subset_of_answers {request : Request} {answer : request.Answer} {known next : Set Completion}
    (hanswers : (provenance tools settings).answers request known answer next) : known ⊆ next :=
  Request.Tells.subset hanswers

/-- One await is faithful when it presumes only what every later state still has. -/
theorem faithful_ask {request : Request} (hpresumes : ∀ known, base ⊆ known →
    request.Presumes tools known) : Faithful tools settings base (ask request) := by
  intro known hbase
  refine .ask (hpresumes known hbase) fun drifted hdrift answer next htells => ⟨trivial, ?_⟩
  exact hbase.trans (Set.Subset.trans hdrift (subset_of_answers htells))

theorem faithful_plain {request : Request} (hplain : plain request = true) :
    Faithful tools settings base (ask request) :=
  faithful_ask fun known _ => presumes_of_plain hplain known

theorem faithful_fail (type : ErrorType) (message : String) :
    Faithful tools settings base (fail type message : Routine α) := .raise _

theorem faithful_lift (computed : Except PyError α) :
    Faithful tools settings base (lift computed) := by
  cases computed with
  | ok value => exact .done value
  | error error => exact .raise _

theorem faithful_event (eventType : String) (payload : List (String × Json)) :
    Faithful tools settings base (event eventType payload) := faithful_plain rfl

theorem faithful_stageStarted (stage : StageName) :
    Faithful tools settings base (stageStarted stage) :=
  .bind (faithful_plain rfl) fun _ => faithful_event _ _

theorem faithful_stageCompleted (stage : StageName) :
    Faithful tools settings base (stageCompleted stage) :=
  .bind (faithful_plain rfl) fun _ => faithful_event _ _

/-- What is written is recorded with the metadata of its request. -/
theorem gives_write {request : WriteRequest} (hsourced : Sourced tools base request) :
    Gives tools settings base (fun record : ArtifactRecord => Traced tools base record.metadata)
      (ask (.write request)) := by
  intro known hbase
  refine .ask (hsourced.mono tools hbase) fun drifted hdrift answer next htells => ⟨trivial, ?_⟩
  refine ⟨hbase.trans (Set.Subset.trans hdrift (subset_of_answers htells)), fun record hrecord => ?_⟩
  obtain ⟨artifactId, createdAt, hmetadata⟩ := htells.2 record hrecord
  exact ⟨request, artifactId, createdAt, hsourced, hmetadata⟩

/-- Publishing a sourced write is faithful. -/
theorem faithful_publish {request : WriteRequest} (hsourced : Sourced tools base request) :
    Faithful tools settings base (publish request) := by
  refine (gives_write hsourced).bind_keeps fun record htraced => ?_
  refine .bind (faithful_ask fun known hbase => ?_) fun _ => .done _
  exact Traced.mono tools htraced hbase

/-- An artifact of the hub itself names no cache key. -/
theorem sourced_simple (runId : RunId) (stage : StageName) (kind : ArtifactKind)
    (producingAgent : String) (content : Json) (markdown : String) (parents : List ArtifactId) :
    Sourced tools base (.simple runId stage kind producingAgent content markdown parents) :=
  Or.inl rfl

/-- The draft of a question names no cache key. -/
theorem sourced_draft (mapping : DelegatedTask) (draft : AgentResult)
    (parents : List ArtifactId) : Sourced tools base (draftRequest mapping draft parents) :=
  Or.inl rfl

/-- The content that was read has the digest of its record. -/
theorem gives_readContents (records : List ArtifactRecord) :
    Gives tools settings base (fun contents : List Json => contents.map platform.sha256 =
      records.map fun record => record.metadata.contentSha256) (ask (.readContents records)) := by
  intro known hbase
  refine .ask trivial fun drifted hdrift answer next htells => ⟨trivial, ?_⟩
  exact ⟨hbase.trans (Set.Subset.trans hdrift (subset_of_answers htells)), htells.2⟩

/-- Records paired with contents of their own digests make a context that was read through.
-/
theorem readThrough_zipWith {records : List ArtifactRecord} {contents : List Json}
    (hdigests : contents.map platform.sha256 =
      records.map fun record => record.metadata.contentSha256) :
    ReadThrough platform
      (List.zipWith (fun record content => ⟨record.metadata, content⟩) records contents) := by
  induction records generalizing contents with
  | nil => intro item hitem; cases hitem
  | cons record rest ih =>
      cases contents with
      | nil => intro item hitem; cases hitem
      | cons content others =>
          rw [List.map_cons, List.map_cons, List.cons.injEq] at hdigests
          intro item hitem
          rcases List.mem_cons.mp hitem with rfl | hrest
          · exact hdigests.1
          · exact ih hdigests.2 item hrest

/-- The artifact context is read through the store, digest by digest. -/
theorem gives_artifactContext :
    Gives tools settings base (ReadThrough platform) artifactContext := by
  refine .bind (faithful_plain rfl).yields fun records _ => ?_
  exact .bind (gives_readContents records) fun contents hcontents =>
    .done (readThrough_zipWith hcontents)

theorem faithful_artifactContext : Faithful tools settings base artifactContext :=
  gives_artifactContext.keeps

/-- Looking up the outputs of a stage writes nothing. -/
theorem faithful_savedOutputs (run : WorkflowRun) (stage : StageName) (repairAttempt : Nat) :
    Faithful tools settings base (savedOutputs run stage repairAttempt) := by
  refine .bind (faithful_plain rfl) fun events => .bind (faithful_plain rfl) fun artifacts =>
    .bind (faithful_plain rfl) fun _ => ?_
  split
  next =>
    refine .bind (faithful_plain rfl) fun current => ?_
    split <;> exact .done _
  next => exact .done _

/-- Reconciling one delegated task only asks the agent and records its state. -/
theorem faithful_reconcileTask (mapping : DelegatedTask) :
    Faithful tools settings base (reconcileTask mapping) := by
  unfold reconcileTask
  split
  next => exact .done _
  next =>
    split
    next => exact faithful_fail _ _
    next taskId _ =>
      refine .bind (faithful_plain rfl) fun valid => ?_
      extract_lets conclude examine
      have hconclude (state : TaskState) : Faithful tools settings base (conclude state) := by
        refine .bind (faithful_plain rfl) fun _ => .bind (faithful_event _ _) fun _ => ?_
        split
        next => exact faithful_fail _ _
        next => exact .done _
      have hexamine (checked : Unit) : Faithful tools settings base (examine checked) := by
        refine .bind (faithful_plain rfl) fun found => ?_
        split
        next => exact hconclude found
        next => exact .bind (faithful_plain rfl) fun _ => .bind (faithful_plain rfl) hconclude
      split
      next => exact .bind (faithful_fail _ _) hexamine
      next => exact hexamine ()

/-- Reconciling the tasks of a run only asks their agents and records the states. -/
theorem faithful_reconcileRun : Faithful tools settings base reconcileRun :=
  .bind (faithful_plain rfl) fun mappings => .forM faithful_reconcileTask mappings

/-- Recording an execution appends its event alone. -/
theorem faithful_recordExecution (agent : String) (result : AgentResult) (phase : StageName)
    (selection : Option Selection) :
    Faithful tools settings base (recordExecution settings agent result phase selection) := by
  unfold recordExecution
  refine .bind (faithful_plain rfl) fun events => ?_
  split
  next => exact .done _
  next =>
    extract_lets total check record
    have hcheck (checked : Unit) : Faithful tools settings base (check checked) := by
      show Faithful tools settings base (if _ then _ else _)
      split
      next => exact faithful_fail _ _
      next => exact .done _
    have hrecord (announced : List EventRecord) : Faithful tools settings base (record announced) := by
      refine .bind (faithful_event _ _) fun _ => ?_
      split
      next => exact .bind (faithful_fail _ _) hcheck
      next => exact hcheck ()
    split
    next => exact .bind (faithful_plain rfl) hrecord
    next => exact hrecord []

/-- Opening a question writes a draft without a cache key. -/
theorem faithful_openSurface (mapping : DelegatedTask) (draft : AgentResult) (prompt : HumanPrompt)
    (taskId : TaskId) :
    Faithful tools settings base (openSurface tools settings mapping draft prompt taskId) := by
  unfold openSurface
  refine .bind (faithful_plain rfl) fun interactions => ?_
  extract_lets clarifications draw
  have hdraw (allowed : Unit) : Faithful tools settings base (draw allowed) :=
    .bind (faithful_plain rfl) fun _ => .bind (faithful_publish (sourced_draft _ _ _)) fun _ =>
      .bind (faithful_publish (sourced_simple _ _ _ _ _ _ _)) fun _ =>
        .bind (faithful_plain rfl) fun _ => .done _
  split
  next => exact .bind (faithful_fail _ _) hdraw
  next => exact hdraw ()

/-- Waiting for a decision is faithful in every round. -/
theorem faithful_humanInput (mapping : DelegatedTask) (draft : AgentResult) :
    Faithful tools settings base (humanInput tools settings mapping draft) := by
  unfold humanInput
  refine .bind (faithful_recordExecution _ _ _ _) fun _ => ?_
  split
  next prompt taskId _ _ =>
    refine .bind (faithful_plain rfl) fun interactions => ?_
    extract_lets finish request
    have hfinish (answered : HumanInteraction) : Faithful tools settings base (finish answered) :=
      .bind (faithful_plain rfl) fun _ => .bind (faithful_plain rfl) fun _ =>
        .bind (faithful_plain rfl) fun _ => .bind (faithful_lift _) fun _ => .done _
    have hrequest (interaction : HumanInteraction) :
        Faithful tools settings base (request interaction) := by
      refine .bind (faithful_plain rfl) fun _ => .bind (faithful_plain rfl) fun _ =>
        .bind (faithful_event _ _) fun _ => ?_
      split
      next => exact hfinish interaction
      next => exact .bind (faithful_plain rfl) hfinish
    split
    next interaction _ => exact hrequest interaction
    next => exact .bind (faithful_openSurface _ _ _ _) hrequest
  next => exact faithful_fail _ _

/-- A cache lookup reads records and writes nothing. -/
theorem faithful_cachedOutput (spec : AgentSpec) (cacheKey : String) (inputIds : List ArtifactId) :
    Faithful tools settings base (cachedOutput spec cacheKey inputIds) := by
  refine .bind (faithful_plain rfl) fun artifacts => ?_
  split
  next => exact .done _
  next => exact .bind (faithful_plain rfl) fun _ => .done _

/-- What is published after an invocation is what it returned. -/
theorem faithful_delegate {context : AgentContext ContextItem} {spec : AgentSpec}
    (hread : ReadThrough platform context.artifacts) (hspec : spec ∈ agentSpecs)
    (hstage : context.stage = spec.stage) {job : StageJob}
    (hrun : job.run.runId = context.runId) :
    Faithful tools settings base (delegate tools settings job spec context) := by
  refine .bind (faithful_event _ _) fun _ known hbase => ?_
  refine ⟨⟨hread, hspec, hstage⟩, fun drifted hdrift answer next htells => ⟨trivial, ?_⟩⟩
  cases answer with
  | error raised => exact hbase.trans (Set.Subset.trans hdrift (subset_of_answers htells))
  | ok result =>
      have hnext : next = insert ⟨settings, spec, context, result⟩ drifted := htells.1 result rfl
      have hsourced : Sourced tools (insert ⟨settings, spec, context, result⟩ base)
          (resultRequest tools settings job spec context result) :=
        Or.inr ⟨_, Set.mem_insert _ _, hread, job, hrun, rfl⟩
      have hrest : Faithful tools settings (insert ⟨settings, spec, context, result⟩ base) (do
          recordExecution settings spec.name result spec.stage
            (some (ownSelection tools settings job spec context))
          let artifact ← publish (resultRequest tools settings job spec context result)
          event "artifact.created" [artifactField artifact, kindField artifact.metadata.kind,
            stageField job.stage, ("agent_completed", .bool true),
            ("repair_attempt", .int job.repairAttempt)]
          event "agent.completed" [("agent", .str spec.name), stageField job.stage]
          return artifact.metadata.artifactId) :=
        .bind (faithful_recordExecution _ _ _ _) fun _ => .bind (faithful_publish hsourced) fun _ =>
          .bind (faithful_event _ _) fun _ => .bind (faithful_event _ _) fun _ => .done _
      refine (hrest next ?_).mono fun _ final hfinal => (Set.subset_insert _ _).trans hfinal
      rw [hnext]
      exact Set.insert_subset_insert (hbase.trans hdrift)

/-- The context of an agent is a selection of the artifacts it was built from. -/
theorem readThrough_of_buildAgentContext {spec : AgentSpec} {runId : RunId} {idea : String}
    {artifacts : List ContextItem} {repairAttempt : Nat} {feedback : Option Json}
    {retryAttempt : Nat} {context : AgentContext ContextItem}
    (hread : ReadThrough platform artifacts)
    (hbuild : buildAgentContext spec runId idea artifacts repairAttempt feedback retryAttempt =
      .ok context) : ReadThrough platform context.artifacts := by
  unfold buildAgentContext at hbuild
  obtain ⟨selected, hselected, hbuild⟩ := except_bind_eq_ok.mp hbuild
  cases hbuild
  exact fun item hitem => hread item (mem_selected hselected hitem).1

/-- The context of an agent is one of its own stage. -/
theorem stage_of_buildAgentContext {spec : AgentSpec} {runId : RunId} {idea : String}
    {artifacts : List ContextItem} {repairAttempt : Nat} {feedback : Option Json}
    {retryAttempt : Nat} {context : AgentContext ContextItem}
    (hbuild : buildAgentContext spec runId idea artifacts repairAttempt feedback retryAttempt =
      .ok context) : context.stage = spec.stage := by
  unfold buildAgentContext at hbuild
  obtain ⟨selected, -, hbuild⟩ := except_bind_eq_ok.mp hbuild
  cases hbuild
  rfl

/-- An invocation publishes what its own completion returned. -/
theorem faithful_invokeAgent {job : StageJob} (hread : ReadThrough platform job.context.artifacts)
    {spec : AgentSpec} (hspec : spec ∈ agentSpecs) :
    Faithful tools settings base (invokeAgent tools settings job spec) := by
  unfold invokeAgent
  split
  next => exact .bind (faithful_event _ _) fun _ => .done _
  next =>
    refine .bind (faithful_plain rfl) fun _ => ?_
    cases hbuild : buildAgentContext spec job.run.runId job.run.idea job.context.artifacts
        job.repairAttempt job.repairFeedback job.retryAttempt with
    | error error => exact .raise _
    | ok context =>
        rw [lift_ok, Program.done_bind]
        refine .bind (faithful_event _ _) fun _ => ?_
        extract_lets reuse
        have hreuse (cached : Option ArtifactRecord) :
            Faithful tools settings base (reuse cached) := by
          cases cached with
          | some artifact => exact .bind (faithful_event _ _) fun _ => .done _
          | none =>
              exact faithful_delegate (readThrough_of_buildAgentContext hread hbuild) hspec
                (stage_of_buildAgentContext hbuild) (runId_of_buildAgentContext hbuild).symm
        split
        next => exact .bind (faithful_cachedOutput _ _ _) hreuse
        next => exact hreuse none

/-! ## Stages -/

/-- The merged source is written without a cache key. -/
theorem faithful_integrate (run : WorkflowRun) (parentIds : List ArtifactId) :
    Faithful tools settings base (integrate tools run parentIds) :=
  .bind faithful_artifactContext fun _ => .bind (faithful_lift _) fun _ =>
    .bind (faithful_publish (sourced_simple _ _ _ _ _ _ _)) fun _ =>
      .bind (faithful_event _ _) fun _ => .done _

/-- The gates hand on only contexts that were read through. -/
theorem gives_runGates (run : WorkflowRun) (context : AgentContext ContextItem) :
    Gives tools settings base (ReadThrough platform) (runGates tools settings run context) :=
  .bind (faithful_lift _).yields fun _ _ =>
    .bind (faithful_publish (Or.inl rfl)).yields fun _ _ =>
      .bind gives_artifactContext fun _ hread => .bind (faithful_event _ _).yields fun _ _ =>
        .bind (faithful_event _ _).yields fun _ _ => .done hread

/-- A stage is faithful, whichever of its agents are called. -/
theorem faithful_runStage (run : WorkflowRun) (stage : StageName) (parentIds : List ArtifactId)
    (repairAttempt : Nat) (repairFeedback : Option Json) (retryAttempt : Nat)
    (reuseOutputs : Bool) :
    Faithful tools settings base (runStage tools settings run stage parentIds repairAttempt
      repairFeedback retryAttempt reuseOutputs) := by
  unfold runStage
  extract_lets start
  have hstart (saved : List (String × ArtifactRecord)) :
      Faithful tools settings base (start saved) := by
    refine .bind (faithful_plain rfl) fun _ => .bind (faithful_stageStarted _) fun _ => ?_
    extract_lets perform check
    have hperform (integrated : Unit) : Faithful tools settings base (perform integrated) := by
      refine gives_artifactContext.bind_keeps fun artifacts hread => ?_
      extract_lets context gated agents
      have hagents (artifacts : List ContextItem) (hread : ReadThrough platform artifacts) :
          Faithful tools settings base (agents artifacts) :=
        .bind (faithful_ask fun _ _ => hread) fun _ => .bind (faithful_stageCompleted _) fun _ =>
          .done _
      split
      next => exact (gives_runGates _ _).bind_keeps hagents
      next => exact hagents artifacts hread
    have hcheck (current : List ArtifactRecord) : Faithful tools settings base (check current) := by
      show Faithful tools settings base (if _ then _ else _)
      split
      next => exact .bind (faithful_integrate _ _) fun _ => hperform ()
      next => exact hperform ()
    split
    next =>
      split
      next => exact .bind (faithful_plain rfl) hcheck
      next => exact hcheck []
    next => exact hperform ()
  split
  next => exact .bind (faithful_savedOutputs _ _ _) hstart
  next => exact hstart []

theorem faithful_preflight (run : WorkflowRun) :
    Faithful tools settings base (preflight platform settings run) := by
  unfold preflight
  refine .bind (faithful_stageStarted _) fun _ => .bind (faithful_plain rfl) fun report =>
    .bind (faithful_publish (sourced_simple _ _ _ _ _ _ _)) fun _ =>
      .bind (faithful_event _ _) fun _ => ?_
  split
  next =>
    exact .bind (faithful_plain rfl) fun _ => .bind (faithful_plain rfl) fun _ => faithful_event _ _
  next =>
    split
    next => exact .bind (faithful_event _ _) fun _ => faithful_stageCompleted _
    next => exact faithful_stageCompleted _

/-- Opening a stage and running its agents is faithful. -/
theorem faithful_openStage (run : WorkflowRun) (attempt : Nat) (feedback : Option Json)
    (retryAttempt : Nat) (parentIds : List ArtifactId) (stage : StageName) :
    Faithful tools settings base
      (openStage tools settings run attempt feedback retryAttempt parentIds stage) := by
  unfold openStage
  extract_lets stageAttempt choose
  have hchoose (saved : List (String × ArtifactRecord)) :
      Faithful tools settings base (choose saved) := by
    show Faithful tools settings base (if _ then _ else _)
    split
    next => exact .bind (faithful_event _ _) fun _ => .done _
    next => exact faithful_runStage _ _ _ _ _ _ _
  split
  next => exact .bind (faithful_savedOutputs _ _ _) hchoose
  next => exact hchoose []

/-- A stage's failure handler adds no write. -/
theorem faithful_during {routine : Routine α} (hroutine : Faithful tools settings base routine)
    (stage : StageName) : Faithful tools settings base (during stage routine) :=
  .handle hroutine fun _ => .raise _

/-- The loop over stages is faithful if each turn is. -/
theorem faithful_stageLoop {body : List ArtifactId → StageName → Routine (List ArtifactId)}
    (hbody : ∀ parentIds stage, Faithful tools settings base (body parentIds stage))
    (stages : List StageName) (parentIds : List ArtifactId) :
    Faithful tools settings base (stageLoop body stages parentIds) := by
  induction stages generalizing parentIds with
  | nil => exact .done _
  | cons stage rest ih => exact .bind (faithful_during (hbody _ _) _) ih

/-- Judging a repair attempt runs the evaluation stage and reads its reports. -/
theorem faithful_judge (run : WorkflowRun) (attempt : Nat) (feedback : Option Json)
    (retryAttempt : Nat) (parentIds : List ArtifactId) :
    Faithful tools settings base
      (judge tools settings run attempt feedback retryAttempt parentIds) :=
  .bind (faithful_runStage _ _ _ _ _ _ _) fun _ => .bind faithful_artifactContext
    fun _ => .bind (faithful_lift _) fun _ => .bind (faithful_lift _) fun _ =>
      .bind (faithful_lift _) fun _ => .bind (faithful_lift _) fun _ =>
        .bind (faithful_plain rfl) fun _ => .bind (faithful_lift _) fun _ =>
          .bind (faithful_event _ _) fun _ => .done _

/-- A repair request is written without a cache key. -/
theorem faithful_requestRepair (run : WorkflowRun) (attempt : Nat) (judgment : Judgment platform) :
    Faithful tools settings base (requestRepair run attempt judgment) :=
  .bind (faithful_publish (sourced_simple _ _ _ _ _ _ _)) fun _ => .bind (faithful_event _ _)
    fun _ => .bind (faithful_event _ _) fun _ => .done _

/-- Giving up after the last repair writes nothing. -/
theorem faithful_exhaust (attempt : Nat) : Faithful tools settings base (exhaust attempt) :=
  faithful_during (.bind (faithful_event _ _) fun _ => faithful_fail _ _) _

/-- Every number of repair rounds is faithful. -/
theorem faithful_evaluationLoop (run : WorkflowRun) (retryAttempt left attempt : Nat)
    (feedback : Option Json) (parentIds : List ArtifactId) :
    Faithful tools settings base
      (evaluationLoop tools settings run retryAttempt left attempt feedback parentIds) := by
  induction left generalizing attempt feedback parentIds with
  | zero =>
      rw [evaluationLoop_eq]
      refine .bind (faithful_during (faithful_judge _ _ _ _ _) _) fun judgment => ?_
      split
      next => exact .done _
      next => exact .done _
      next => exact faithful_exhaust attempt
      next => exact faithful_exhaust attempt
      next heq => cases heq
  | succ left ih =>
      rw [evaluationLoop_eq]
      refine .bind (faithful_during (faithful_judge _ _ _ _ _) _) fun judgment => ?_
      split
      next => exact .done _
      next => exact .done _
      next => exact faithful_exhaust attempt
      next heq => cases heq
      next other _ heq =>
        obtain rfl : left = other := Nat.succ.inj heq
        exact .bind (faithful_during (faithful_requestRepair run _ judgment) _) fun _ =>
          .bind (faithful_stageLoop (fun _ _ => faithful_runStage _ _ _ _ _ _ _) _ _)
            fun _ => ih _ _ _

/-- All stages of a run together are faithful. -/
theorem faithful_executeStages (run : WorkflowRun) (retryAttempt : Nat) :
    Faithful tools settings base (executeStages tools settings run retryAttempt) := by
  unfold executeStages
  refine .bind (faithful_during (faithful_plain rfl) _) fun artifacts => ?_
  refine .bind (faithful_during ?_ _) fun repairs => ?_
  · split
    next => exact .done _
    next => exact faithful_artifactContext
  refine .bind (faithful_during (faithful_lift _) _) fun latest => ?_
  refine .bind (faithful_stageLoop (fun _ _ => faithful_openStage _ _ _ _ _ _) _ _) fun _ => ?_
  refine .bind (faithful_evaluationLoop _ _ _ _ _ _) fun _ => ?_
  refine .bind (faithful_during (faithful_runStage _ _ _ _ _ _ _) _) fun _ => ?_
  exact faithful_during (.bind (faithful_plain rfl) fun _ => faithful_event _ _) _

/-- The guarded body of an execution is faithful. -/
theorem faithful_executeBody (run : WorkflowRun) (retryAttempt : Nat) :
    Faithful tools settings base (executeBody tools settings run retryAttempt) := by
  unfold executeBody
  refine .bind (faithful_during ?_ _) fun refreshed => ?_
  · extract_lets enter
    have henter (reconciled : Unit) : Faithful tools settings base (enter reconciled) :=
      .bind (faithful_plain rfl) fun _ => .bind (faithful_preflight run) fun _ => faithful_plain rfl
    split
    next => exact .bind faithful_reconcileRun henter
    next => exact henter ()
  · split
    next => exact .done _
    next =>
      split
      next => exact .done _
      next => exact faithful_executeStages run retryAttempt

/-- A failed execution is concluded without an artifact. -/
theorem faithful_concludeFailure (stage : StageName) (raised : Raised) :
    Faithful tools settings base (concludeFailure stage raised) := by
  cases raised with
  | cancelled =>
      exact .bind (faithful_plain rfl) fun _ => .bind (faithful_plain rfl) fun _ =>
        faithful_event _ _
  | failed errors =>
      exact .bind (faithful_plain rfl) fun _ => .bind (faithful_plain rfl) fun _ =>
        faithful_event _ _

/-- A whole execution is faithful, first or retried. -/
theorem faithful_execute (retryAttempt : Nat) :
    Faithful tools settings base (execute tools settings retryAttempt) := by
  refine .bind (faithful_plain rfl) fun found => ?_
  cases found with
  | none => exact .done _
  | some run =>
      exact .handle (faithful_executeBody run retryAttempt) fun failed =>
        faithful_concludeFailure failed.1 failed.2

/-! ## The interface -/

theorem faithful_createRun (idea : String) (now : Nat) :
    Faithful tools settings base (createRun idea now) :=
  .bind (faithful_plain rfl) fun _ => .bind (faithful_plain rfl) fun _ =>
    .bind (faithful_event _ _) fun _ => faithful_plain rfl

/-- The retry call writes no artifact. -/
theorem faithful_retry : Faithful tools settings base retry := by
  refine .bind (faithful_plain rfl) fun found => ?_
  cases found with
  | none => exact faithful_fail _ _
  | some run =>
      dsimp -zeta only
      extract_lets resume schedule
      have hresume (idle : Unit) : Faithful tools settings base (resume idle) :=
        .bind faithful_artifactContext fun _ => .bind (faithful_plain rfl) fun _ =>
          .bind (faithful_plain rfl) fun _ => .bind (faithful_event _ _) fun _ =>
            faithful_plain rfl
      have hschedule (allowed : Unit) : Faithful tools settings base (schedule allowed) := by
        refine .bind (faithful_plain rfl) fun active => ?_
        split
        next => exact .bind (faithful_fail _ _) hresume
        next => exact hresume ()
      split
      next => exact .bind (faithful_fail _ _) hschedule
      next => exact hschedule ()

theorem faithful_cancel : Faithful tools settings base cancel := by
  refine .bind (faithful_plain rfl) fun active => ?_
  split
  next =>
    refine .bind (faithful_plain rfl) fun found => ?_
    extract_lets request
    have hrequest (marked : Unit) : Faithful tools settings base (request marked) :=
      .bind (faithful_event _ _) fun _ => faithful_plain rfl
    cases found with
    | none => exact hrequest ()
    | some run =>
        dsimp only
        split
        next => exact .bind (faithful_plain rfl) hrequest
        next => exact hrequest ()
  next => exact .done _

theorem faithful_respond (action : HumanAction) : Faithful tools settings base (respond action) := by
  refine .bind (faithful_plain rfl) fun interactions => ?_
  extract_lets found accept
  clear_value found
  have haccept (checked : Unit) : Faithful tools settings base (accept checked) := by
    refine .bind (faithful_plain rfl) fun accepted => ?_
    split
    split
    next => exact faithful_event _ _
    next => exact .done _
  split
  next =>
    split
    next =>
      refine .bind (faithful_plain rfl) fun mappings => ?_
      split
      next => exact .bind (faithful_fail _ _) haccept
      next => exact haccept ()
    next => exact haccept ()
  next => exact haccept ()

end Workflow

end Aidlc
