import Aidlc.Evaluation.Models
import Aidlc.Storage.Agreement
import Aidlc.Foundation.Effects

/-! # Standalone evaluation

`evaluate_run` publishes a gate report through the publisher of the workflow.
The theorem below says exactly when that leaves every other artifact of the run
listed and readable.
-/

namespace Aidlc

open Foundation

/-- The gate evaluation, and the size of the text of a content file. -/
structure EvaluationTools where
  evaluateGates : AgentContext ContextItem → String → Except PyError QualityGateReport
  contentSize : Json → Nat

def deterministicGates : String := "deterministic-quality-gates"

/-- A context for the evaluation stage that is not part of a repair or a retry. -/
def evaluationContext (run : WorkflowRun) (artifacts : List ContextItem) :
    AgentContext ContextItem where
  runId := run.runId
  idea := run.idea
  stage := .evaluation
  artifacts := artifacts
  retryAttempt := 0
  humanResponse := none
  repairAttempt := 0
  repairFeedback := none
  repairArtifactId := none
  repairArtifactSha256 := none

/-- The write of a gate report. -/
def gateRequest (runId : RunId) (report : QualityGateReport) (parents : List ArtifactId) :
    WriteRequest where
  runId := runId
  stage := .evaluation
  kind := .qualityGateReport
  producingAgent := deterministicGates
  content := report.modelDump
  markdown := gatesMarkdown report
  parentArtifactIds := parents
  modelId := none
  promptVersion := report.profile
  execution := .obj []

variable (platform : Platform) (tools : EvaluationTools)

/-- One artifact of the loop of `evaluate_run`; content paths lie below the root. -/
def evaluationItem (record : ArtifactRecord) : StoreM ContextItem := fun stores =>
  match stores.files.files record.contentPath with
  | none => .error ⟨.osError, "No such file or directory"⟩ stores
  | some stored =>
      if tools.contentSize stored.content > 1048576 then
        .error ⟨.valueError, "Artifact containment or size mismatch"⟩ stores
      else
        match stores.files.readContent platform record with
        | .ok content => .ok ⟨record.metadata, content⟩ stores
        | .error error => .error error stores

def evaluateRun (runId : RunId) (backend : String) (now : Nat) : StoreM Json := do
  let database := (← get).database
  match database.getRun runId with
  | none => throw ⟨.valueError, "Unknown workflow run"⟩
  | some run =>
      let records := database.listArtifacts runId
      let artifacts ← records.mapM (evaluationItem platform tools)
      match tools.evaluateGates (evaluationContext run artifacts) backend with
      | .error error => throw error
      | .ok report =>
          let artifact ← writeArtifact platform
            (gateRequest runId report (records.map fun record => record.metadata.artifactId)) now
          addArtifact platform artifact
          StoreM.liftDatabase (·.appendEvent runId "quality_gates.completed"
            [("artifact_id", idJson artifact.metadata.artifactId),
              ("verdict", .str report.verdict.value)])
          return .obj (Json.merge [("artifact_id", idJson artifact.metadata.artifactId)]
            report.fields)

/-- The gate report of the command and of the workflow. -/
def IsDeterministicGate (record : ArtifactRecord) : Prop :=
  record.metadata.kind = .qualityGateReport ∧ record.metadata.producingAgent = deterministicGates

/-- The command only adds or replaces the deterministic gate report of the run
and appends its event; every other artifact stays listed and readable. -/
structure EvaluationFrame (runId : RunId) (stores next : Stores) : Prop where
  runs : next.database.runs = stores.database.runs
  delegatedTasks : next.database.delegatedTasks = stores.database.delegatedTasks
  humanInteractions : next.database.humanInteractions = stores.database.humanInteractions
  events : ∃ event, next.database.events = stores.database.events ++ [event] ∧
    event.runId = runId ∧ event.eventType = "quality_gates.completed"
  added : ∀ row ∈ next.database.listArtifacts runId,
    row ∈ stores.database.listArtifacts runId ∨ IsDeterministicGate row
  kept : ∀ row ∈ stores.database.listArtifacts runId, ¬ IsDeterministicGate row →
    row ∈ next.database.listArtifacts runId ∧ ∃ content,
      stores.files.readContent platform row = .ok content ∧
        next.files.readContent platform row = .ok content

section Frame

variable {platform tools}

theorem evaluationItem_ok {record : ArtifactRecord} {item : ContextItem} {stores next : Stores}
    (hitem : evaluationItem platform tools record stores = .ok item next) :
    next = stores ∧ stores.files.readContent platform record = .ok item.content := by
  unfold evaluationItem at hitem
  cases hstored : stores.files.files record.contentPath with
  | none => simp [hstored] at hitem
  | some stored =>
      simp only [hstored] at hitem
      split at hitem
      · simp at hitem
      · cases hread : stores.files.readContent platform record with
        | error error => simp [hread] at hitem
        | ok content =>
            simp only [hread, EStateM.Result.ok.injEq] at hitem
            obtain ⟨rfl, rfl⟩ := hitem
            exact ⟨rfl, rfl⟩

/-- What a successful command did: every listed artifact was readable, and a
gate report was written, added, and announced. -/
structure Evaluated (platform : Platform) (runId : RunId) (stores next : Stores)
    (request : WriteRequest) (gate : ArtifactRecord) : Prop where
  run : request.runId = runId
  kind : request.kind = .qualityGateReport
  producingAgent : request.producingAgent = deterministicGates
  readable : ∀ row ∈ stores.database.listArtifacts runId,
    ∃ content, stores.files.readContent platform row = .ok content
  written : ∃ middle, Written platform request stores middle gate ∧ next.files = middle.files
  rows : next.database.artifacts = stores.database.keptRows gate.metadata ++ [gate]
  runs : next.database.runs = stores.database.runs
  delegatedTasks : next.database.delegatedTasks = stores.database.delegatedTasks
  humanInteractions : next.database.humanInteractions = stores.database.humanInteractions
  events : ∃ event, next.database.events = stores.database.events ++ [event] ∧
    event.runId = runId ∧ event.eventType = "quality_gates.completed"

theorem evaluated_of_evaluateRun {runId : RunId} {backend : String} {now : Nat} {result : Json}
    {stores next : Stores}
    (hrun : evaluateRun platform tools runId backend now stores = .ok result next) :
    ∃ request gate, Evaluated platform runId stores next request gate := by
  unfold evaluateRun at hrun
  rw [bind_eq_ok] at hrun
  obtain ⟨_, _, hget, hrun⟩ := hrun
  rw [get_eq_ok] at hget
  obtain ⟨rfl, rfl⟩ := hget
  cases hfound : stores.database.getRun runId with
  | none =>
      rw [hfound] at hrun
      exact absurd hrun throw_ne_ok
  | some run =>
      simp only [hfound, bind_eq_ok] at hrun
      obtain ⟨items, middle, hitems, hrun⟩ := hrun
      obtain ⟨rfl, hreads⟩ := mapM_eq_ok_of_reads (fun stores record item =>
          stores.files.readContent platform record = .ok item.content)
        (fun _ _ _ _ hitem => evaluationItem_ok hitem) hitems
      cases hgates : tools.evaluateGates (evaluationContext run items) backend with
      | error error =>
          rw [hgates] at hrun
          exact absurd hrun throw_ne_ok
      | ok report =>
          simp only [hgates, bind_eq_ok] at hrun
          -- The write, the add and the event, one after the other.
          obtain ⟨gate, afterWrite, hwrite, ⟨⟩, afterAdd, hadd, ⟨⟩, last, hlift, hlast⟩ := hrun
          rw [pure_eq_ok] at hlast
          obtain ⟨-, rfl⟩ := hlast
          have hwritten := written_of_writeArtifact hwrite
          obtain ⟨hfiles, -, hinsert, -⟩ := addArtifact_ok hadd
          obtain ⟨-, -, hrows⟩ := insertArtifact_ok hinsert
          obtain ⟨hevent, hlastFiles, -⟩ := liftDatabase_ok hlift
          have hdatabase := appendEvent_ok hevent
          rw [hwritten.database] at hrows
          refine ⟨_, gate, rfl, rfl, rfl, ?_, ⟨afterWrite, hwritten, ?_⟩, ?_, ?_, ?_, ?_, ?_⟩
          · intro row hrow
            obtain ⟨item, -, hread⟩ := exists_of_forall₂_left hreads hrow
            exact ⟨item.content, hread⟩
          · rw [hlastFiles, hfiles]
          · rw [hdatabase, hrows]
          · rw [hdatabase, hrows]
          · rw [hdatabase, hrows]
          · rw [hdatabase, hrows]
          · rw [hdatabase, hrows]
            exact ⟨_, rfl, rfl, rfl⟩

namespace Evaluated

variable {runId : RunId} {stores next : Stores} {request : WriteRequest} {gate row : ArtifactRecord}

theorem gate_metadata (hevaluated : Evaluated platform runId stores next request gate) :
    gate.metadata.kind = .qualityGateReport ∧
      gate.metadata.producingAgent = deterministicGates ∧
      gate.metadata.workflowRunId = runId ∧ gate.metadata.currentSnapshot = true := by
  obtain ⟨middle, hwritten, -⟩ := hevaluated.written
  have hkind := hwritten.kind.trans hevaluated.kind
  have hproducer := hwritten.producingAgent.trans hevaluated.producingAgent
  refine ⟨hkind, hproducer, hwritten.runId.trans hevaluated.run, ?_⟩
  rw [hwritten.published.snapshot, hkind, hproducer]
  decide +kernel

/-- The insertion of the gate report deletes exactly the old gate report and the
snapshots of the two later groups. -/
theorem displacedBy_gate (hevaluated : Evaluated platform runId stores next request gate)
    (hrow : row ∈ stores.database.listArtifacts runId) :
    Database.displacedBy gate.metadata row.metadata = true ↔
      IsDeterministicGate row ∨ (row.metadata.currentSnapshot = true ∧
        (row.metadata.kind = .evaluationReport ∨ row.metadata.kind = .releaseBundle)) := by
  obtain ⟨hkind, hproducer, hrun, hsnapshot⟩ := hevaluated.gate_metadata
  have hsame : row.metadata.workflowRunId = gate.metadata.workflowRunId :=
    (Database.mem_listArtifacts.mp hrow).2.trans hrun.symm
  have hlater : row.metadata.kind ∈ invalidatedKinds .qualityGateReport ↔
      row.metadata.kind = .evaluationReport ∨ row.metadata.kind = .releaseBundle := by
    cases row.metadata.kind <;> decide
  simp [Database.displacedBy, Database.sameSlot, IsDeterministicGate, hsnapshot, hsame, hkind,
    hproducer, hlater]

theorem mem_rows (hevaluated : Evaluated platform runId stores next request gate) :
    row ∈ next.database.listArtifacts runId ↔
      (row ∈ stores.database.listArtifacts runId ∧
        Database.displacedBy gate.metadata row.metadata = false) ∨ row = gate := by
  obtain ⟨-, -, hrun, -⟩ := hevaluated.gate_metadata
  rw [Database.mem_listArtifacts, Database.mem_listArtifacts, hevaluated.rows, List.mem_append,
    List.mem_singleton, Database.keptRows, List.mem_filter, Bool.not_eq_true']
  constructor
  · rintro ⟨⟨hold, hkept⟩ | rfl, hrunId⟩
    · exact Or.inl ⟨⟨hold, hrunId⟩, hkept⟩
    · exact Or.inr rfl
  · rintro (⟨⟨hold, hrunId⟩, hkept⟩ | rfl)
    · exact ⟨Or.inl ⟨hold, hkept⟩, hrunId⟩
    · exact ⟨Or.inr rfl, hrun⟩

/-- A row that the insertion keeps also keeps its files. -/
theorem readContent_kept (hevaluated : Evaluated platform runId stores next request gate)
    (hvalid : stores.Valid platform) (hrow : row ∈ stores.database.listArtifacts runId)
    (hkept : Database.displacedBy gate.metadata row.metadata = false) :
    next.files.readContent platform row = stores.files.readContent platform row := by
  obtain ⟨hkind, hproducer, hrun, hsnapshot⟩ := hevaluated.gate_metadata
  obtain ⟨middle, hwritten, hfiles⟩ := hevaluated.written
  obtain ⟨hmem, hrunId⟩ := Database.mem_listArtifacts.mp hrow
  obtain ⟨content, hcontent⟩ := hvalid.rows_written row hmem
  obtain ⟨result, hread⟩ := hevaluated.readable row hrow
  obtain ⟨stored, hstored, hmanifest⟩ := hvalid.live_of_readContent hcontent hread
  have hpublished := hvalid.published _ _ hcontent
  have hover : ¬ snapshotRules.overwrites gate row := by
    intro hover
    have hdisplaced := (snapshotRules.displaces_of_overwrites hover).2
    simp [hkept] at hdisplaced
  apply readContent_congr
  rw [hfiles, hstored]
  cases hsnapshotRow : row.metadata.currentSnapshot with
  | false =>
      have hpath : row.contentPath ≠ gate.contentPath := by
        rw [hpublished.path_not_current hsnapshotRow, hwritten.published.path_current hsnapshot]
        simp
      rw [hwritten.files_other _ hpath]
      refine ⟨hstored, ?_⟩
      rw [hpublished.path_not_current hsnapshotRow]
      simp [clears, invalidates, Location.isCurrent]
  | true =>
      have hpath : row.contentPath ≠ gate.contentPath := by
        intro heq
        rw [hpublished.path_current hsnapshotRow, hwritten.published.path_current hsnapshot,
          Location.current.injEq] at heq
        obtain ⟨-, hstage, hagent, hslot⟩ := heq
        exact hover ⟨hsnapshot, hsnapshotRow, hrunId.trans hrun.symm,
          Or.inl ⟨hstage, by simp [Database.sameSlot, hslot, hagent]⟩⟩
      rw [hwritten.files_other _ hpath]
      refine ⟨hstored, ?_⟩
      rw [Bool.eq_false_iff]
      intro hclears
      simp only [clears, invalidates, Bool.and_eq_true, decide_eq_true_eq, hmanifest] at hclears
      exact hover ⟨hsnapshot, hsnapshotRow, hrunId.trans hrun.symm, Or.inr hclears.2.2⟩

end Evaluated

/-- In every reachable state, a successful standalone evaluation leaves the
rest of the project alone if and only if no evaluation or release snapshot of
the run is listed. -/
theorem evaluateRun_frame_iff {labels : List PublicationLabel} {last : Publishers}
    (hreach : (publication platform).run .start labels = some last) {runId : RunId}
    {backend : String} {now : Nat} {result : Json} {next : Stores}
    (hrun : evaluateRun platform tools runId backend now last.stores = .ok result next) :
    EvaluationFrame platform runId last.stores next ↔
      ∀ row ∈ last.stores.database.listArtifacts runId, row.metadata.currentSnapshot = true →
        row.metadata.kind ≠ .evaluationReport ∧ row.metadata.kind ≠ .releaseBundle := by
  obtain ⟨request, gate, hevaluated⟩ := evaluated_of_evaluateRun hrun
  have hvalid := (valid_of_run hreach).stores
  obtain ⟨hkind, hproducer, -, -⟩ := hevaluated.gate_metadata
  constructor
  · intro hframe row hrow hsnapshot
    by_contra hlater
    have hkinds : row.metadata.kind = .evaluationReport ∨ row.metadata.kind = .releaseBundle := by
      tauto
    have hother : ¬ IsDeterministicGate row := by
      rintro ⟨hgate, -⟩
      rcases hkinds with hcase | hcase <;> simp [hgate] at hcase
    have hdisplaced := (hevaluated.displacedBy_gate hrow).mpr (Or.inr ⟨hsnapshot, hkinds⟩)
    rcases hevaluated.mem_rows.mp (hframe.kept row hrow hother).1 with ⟨-, hkept⟩ | rfl
    · simp [hdisplaced] at hkept
    · exact hother ⟨hkind, hproducer⟩
  · intro hnone
    have hkept : ∀ row ∈ last.stores.database.listArtifacts runId, ¬ IsDeterministicGate row →
        Database.displacedBy gate.metadata row.metadata = false := by
      intro row hrow hother
      rw [Bool.eq_false_iff]
      intro hdisplaced
      rcases (hevaluated.displacedBy_gate hrow).mp hdisplaced with hgate | ⟨hsnapshot, hlater⟩
      · exact hother hgate
      · have habsent := hnone row hrow hsnapshot
        tauto
    constructor
    · exact hevaluated.runs
    · exact hevaluated.delegatedTasks
    · exact hevaluated.humanInteractions
    · exact hevaluated.events
    · intro row hrow
      rcases hevaluated.mem_rows.mp hrow with ⟨hold, -⟩ | rfl
      · exact Or.inl hold
      · exact Or.inr ⟨hkind, hproducer⟩
    · intro row hrow hother
      obtain ⟨content, hread⟩ := hevaluated.readable row hrow
      have hrowKept := hkept row hrow hother
      refine ⟨hevaluated.mem_rows.mpr (Or.inl ⟨hrow, hrowKept⟩), content, hread, ?_⟩
      rw [hevaluated.readContent_kept hvalid hrow hrowKept]
      exact hread

end Frame

section Sample

/-- The report on a run without requirements and source: its evidence is missing. -/
def blockedReport (context : AgentContext ContextItem) : QualityGateReport where
  profile := "python-stdlib-v1"
  runId := context.runId
  repairAttempt := context.repairAttempt
  verdict := .blocked
  gates :=
    [⟨"artifact_integrity", .passed,
        "Input manifests, run identity, and content hashes validate.",
        context.artifacts.map fun item => item.metadata.artifactId⟩,
      ⟨"requirements_schema", .notExecuted, "No requirements artifact is available.", []⟩,
      ⟨"executable_source", .notExecuted,
        "Current implementation includes proposals or unsupported/missing source.", []⟩] ++
    ["build", "unit_tests", "static_analysis"].map fun name =>
      ⟨name, .notExecuted, "Requires executable source from every implementation specialist.", []⟩
  sourceArtifactIds := []
  deferredChecks := ["type checking", "integration and browser tests",
    "dependency and security scanning", "requirement-to-test coverage", "runsc/Kata comparison"]

def sampleTools : EvaluationTools where
  evaluateGates context _ := .ok (blockedReport context)
  contentSize _ := 0

/-- One artifact of the sample run is published. -/
def publishedSample (kind : ArtifactKind) (stage : StageName) (producer : String) :
    List PublicationLabel :=
  [.update createSampleRun, sampleWrite kind stage producer "content",
    .add (sampleRecord kind stage producer "content" 0)]

/-- Evaluate the sample run where the labels lead. -/
def sampleEvaluation (labels : List PublicationLabel) : Option (Publishers × Json × Stores) :=
  ((publication samplePlatform).run .start labels).bind fun last =>
    (returned (evaluateRun samplePlatform sampleTools "run_a" "runc" 1 last.stores)).map
      fun final => (last, final)

theorem sampleEvaluation_eq_some (labels : List PublicationLabel)
    (hsome : (sampleEvaluation labels).isSome = true) : ∃ last result next,
    sampleEvaluation labels = some (last, result, next) ∧
      (publication samplePlatform).run .start labels = some last ∧
      evaluateRun samplePlatform sampleTools "run_a" "runc" 1 last.stores = .ok result next := by
  obtain ⟨⟨last, result, next⟩, hsample⟩ := Option.isSome_iff_exists.mp hsome
  refine ⟨last, result, next, hsample, ?_⟩
  simp only [sampleEvaluation, Option.bind_eq_some_iff, Option.map_eq_some_iff] at hsample
  obtain ⟨final, hreach, outcome, hreturned, heq⟩ := hsample
  simp only [Prod.mk.injEq] at heq
  obtain ⟨rfl, rfl⟩ := heq
  refine ⟨hreach, ?_⟩
  have hok := eq_ok_of_returned (Option.isSome_iff_exists.mpr ⟨_, hreturned⟩)
  simp only [hreturned, Option.get_some] at hok
  exact hok

theorem evaluateRun_frame_iff_brief : ∃ last result next,
    evaluateRun samplePlatform sampleTools "run_a" "runc" 1 last = .ok result next ∧
      EvaluationFrame samplePlatform "run_a" last next := by
  obtain ⟨last, result, next, hsample, hreach, hrun⟩ := sampleEvaluation_eq_some
    (publishedSample .projectBrief .intake "intake-agent") (by decide +kernel)
  refine ⟨last.stores, result, next, hrun, (evaluateRun_frame_iff hreach hrun).mpr ?_⟩
  have hkinds : ((sampleEvaluation (publishedSample .projectBrief .intake "intake-agent")).map
      fun outcome => (outcome.1.stores.database.listArtifacts "run_a").map
        fun row => row.metadata.kind) = some [.projectBrief] := by decide +kernel
  rw [hsample, Option.map_some, Option.some.injEq] at hkinds
  intro row hrow _
  have hkind := List.mem_map_of_mem (f := fun row => row.metadata.kind) hrow
  rw [hkinds, List.mem_singleton] at hkind
  simp [hkind]

/-- Evaluating a run that has an evaluation report unlists that report. -/
theorem evaluateRun_unlists_evaluation : ∃ labels last result next row,
    (publication samplePlatform).run .start labels = some last ∧
      evaluateRun samplePlatform sampleTools "run_a" "runc" 1 last.stores = .ok result next ∧
      row ∈ last.stores.database.listArtifacts "run_a" ∧
      row.metadata.kind = .evaluationReport ∧
      row ∉ next.database.listArtifacts "run_a" ∧
      ¬ EvaluationFrame samplePlatform "run_a" last.stores next := by
  obtain ⟨last, result, next, hsample, hreach, hrun⟩ := sampleEvaluation_eq_some
    (publishedSample .evaluationReport .evaluation "evaluation-agent")
    (by decide +kernel)
  have hrows : ((sampleEvaluation
        (publishedSample .evaluationReport .evaluation "evaluation-agent")).map fun outcome =>
      (outcome.1.stores.database.listArtifacts "run_a",
        (outcome.2.2.database.listArtifacts "run_a").map fun row => row.metadata.kind)) =
      some ([sampleRecord .evaluationReport .evaluation "evaluation-agent" "content" 0],
        [.qualityGateReport]) := by decide +kernel
  rw [hsample, Option.map_some, Option.some.injEq, Prod.mk.injEq] at hrows
  obtain ⟨hbefore, hafter⟩ := hrows
  have hlisted : sampleRecord .evaluationReport .evaluation "evaluation-agent" "content" 0 ∈
      last.stores.database.listArtifacts "run_a" := by
    rw [hbefore]
    exact List.mem_cons_self
  have hunlisted : sampleRecord .evaluationReport .evaluation "evaluation-agent" "content" 0 ∉
      next.database.listArtifacts "run_a" := by
    intro hrow
    have hkind := List.mem_map_of_mem (f := fun row => row.metadata.kind) hrow
    rw [hafter, List.mem_singleton] at hkind
    simp [sampleRecord, ArtifactMetadata.ofRequest, WriteRequest.simple] at hkind
  refine ⟨_, last, result, next, _, hreach, hrun, hlisted, rfl, hunlisted, ?_⟩
  intro hframe
  refine hunlisted (hframe.kept _ hlisted ?_).1
  rintro ⟨hkind, -⟩
  simp [sampleRecord, ArtifactMetadata.ofRequest, WriteRequest.simple] at hkind

end Sample

end Aidlc
