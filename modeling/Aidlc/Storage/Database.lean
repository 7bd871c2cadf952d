import Aidlc.Storage.Artifacts
import Mathlib.Data.List.Sort

/-! # The workflow database

Tables are lists of rows in insertion order. The stage rows of a run are
inserted with the run and never deleted, so they are part of its row. A
statement that violates a key or a foreign key raises and changes nothing.
-/

namespace Aidlc

open Foundation

/-- A delegated task is keyed by its invocation; an update keeps the key columns. -/
structure DelegatedRow where
  invocationId : InvocationId
  runId : RunId
  record : DelegatedTask
  deriving DecidableEq

structure Database where
  runs : List WorkflowRun
  artifacts : List ArtifactRecord
  events : List EventRecord
  lastEventId : Nat
  delegatedTasks : List DelegatedRow
  humanInteractions : List HumanInteraction
  deriving DecidableEq

def Database.empty : Database := ⟨[], [], [], 0, [], []⟩

def integrityError {α : Type} (message : String) : Except PyError α :=
  .error ⟨.integrityError, message⟩

def StageRecord.initial (name : StageName) : StageRecord := ⟨name, .pending, none⟩

namespace Database

def getRun (database : Database) (runId : RunId) : Option WorkflowRun :=
  database.runs.find? fun run => run.runId == runId

def hasRun (database : Database) (runId : RunId) : Bool := (database.getRun runId).isSome

def createRun (database : Database) (runId : RunId) (idea : String) (now : Nat) :
    Except PyError Database :=
  if database.hasRun runId then integrityError "UNIQUE constraint failed: runs.run_id"
  else .ok { database with
    runs := database.runs ++
      [{ runId, idea, status := .pending, currentStage := none, createdAt := now, error := none,
         stages := stageOrder.map StageRecord.initial }] }

/-- Change the row of one run. -/
def modifyRun (database : Database) (runId : RunId) (change : WorkflowRun → WorkflowRun) :
    Database :=
  { database with
    runs := database.runs.map fun run => if run.runId = runId then change run else run }

def updateRun (database : Database) (runId : RunId) (status : RunStatus)
    (currentStage : Option StageName) (error : Option String) : Database :=
  database.modifyRun runId fun run => { run with status, currentStage, error }

def updateStage (database : Database) (runId : RunId) (stage : StageName) (status : RunStatus)
    (error : Option String) : Database :=
  database.modifyRun runId fun run =>
    { run with
      stages := run.stages.map fun record =>
        if record.name = stage then { record with status, error } else record }

def appendEvent (database : Database) (runId : RunId) (eventType : String)
    (payload : List (String × Json)) : Except PyError Database :=
  if database.hasRun runId then
    .ok { database with
      events := database.events ++
        [⟨database.lastEventId + 1, runId, eventType, .obj payload⟩]
      lastEventId := database.lastEventId + 1 }
  else integrityError "FOREIGN KEY constraint failed"

def eventsAfter (database : Database) (runId : RunId) (eventId : Nat) : List EventRecord :=
  database.events.filter fun event => event.runId == runId && event.eventId > eventId

def saveInteraction (database : Database) (interaction : HumanInteraction) :
    Except PyError Database :=
  if database.humanInteractions.any fun other => other.surfaceId == interaction.surfaceId then
    integrityError "UNIQUE constraint failed: human_interactions.surface_id"
  else if database.hasRun interaction.runId then
    .ok { database with humanInteractions := database.humanInteractions ++ [interaction] }
  else integrityError "FOREIGN KEY constraint failed"

def listInteractions (database : Database) (runId : RunId) : List HumanInteraction :=
  database.humanInteractions.filter fun interaction => interaction.runId == runId

def saveDelegatedTask (database : Database) (task : DelegatedTask) : Except PyError Database :=
  if database.delegatedTasks.any fun row => row.invocationId == task.invocationId then
    .ok { database with
      delegatedTasks := database.delegatedTasks.map fun row =>
        if row.invocationId = task.invocationId then { row with record := task } else row }
  else if database.hasRun task.runId then
    .ok { database with
      delegatedTasks := database.delegatedTasks ++ [⟨task.invocationId, task.runId, task⟩] }
  else integrityError "FOREIGN KEY constraint failed"

def listDelegatedTasks (database : Database) (runId : RunId) : List DelegatedTask :=
  (database.delegatedTasks.filter fun row => row.runId == runId).map DelegatedRow.record

/-- `ORDER BY created_at`: equal times keep their insertion order. -/
def listArtifacts (database : Database) (runId : RunId) : List ArtifactRecord :=
  (database.artifacts.filter fun row => row.metadata.workflowRunId == runId).insertionSort
    fun first second => first.metadata.createdAt ≤ second.metadata.createdAt

def getArtifact (database : Database) (artifactId : ArtifactId) : Option ArtifactRecord :=
  database.artifacts.find? fun row => row.metadata.artifactId == artifactId

def sameSlot (previous metadata : ArtifactMetadata) : Bool :=
  previous.kind == metadata.kind && previous.producingAgent == metadata.producingAgent

/-- Whether inserting `metadata` deletes the row of `previous`. -/
def displacedBy (metadata previous : ArtifactMetadata) : Bool :=
  metadata.currentSnapshot && previous.workflowRunId == metadata.workflowRunId &&
    (sameSlot previous metadata ||
      (previous.currentSnapshot && previous.kind ∈ invalidatedKinds metadata.kind))

/-- The rows an insertion of an artifact with this metadata keeps. -/
def keptRows (database : Database) (metadata : ArtifactMetadata) : List ArtifactRecord :=
  database.artifacts.filter fun row => !displacedBy metadata row.metadata

/-- `_insert_artifact` -/
def insertArtifact (database : Database) (artifact : ArtifactRecord) : Except PyError Database :=
  if (database.keptRows artifact.metadata).any fun row =>
      row.metadata.artifactId == artifact.metadata.artifactId then
    integrityError "UNIQUE constraint failed: artifacts.artifact_id"
  else if database.hasRun artifact.metadata.workflowRunId then
    .ok { database with artifacts := database.keptRows artifact.metadata ++ [artifact] }
  else integrityError "FOREIGN KEY constraint failed"

/-- `list_runs`, newest first. -/
def listRuns (database : Database) (limit : Nat) : List WorkflowRun :=
  (database.runs.insertionSort fun first second => second.createdAt ≤ first.createdAt).take limit

def interruptedReason : String :=
  "Process restarted before completion; create a new run to retry."

/-- One round of the loop of `recover_interrupted_runs`. -/
def recoverRun (database : Database) (run : WorkflowRun) : Except PyError Database :=
  if run.status ∈ [RunStatus.pending, .running, .inputRequired] then
    let marked := match run.currentStage with
      | some stage => database.updateStage run.runId stage .blocked (some interruptedReason)
      | none => database
    (marked.updateRun run.runId .blocked run.currentStage (some interruptedReason)).appendEvent
      run.runId "run.interrupted" [("reason", .str interruptedReason)]
  else .ok database

def recoverInterruptedRuns (database : Database) : Except PyError Database :=
  (database.listRuns 10000).foldlM recoverRun database

theorem hasRun_congr {database next : Database} (hruns : next.runs = database.runs)
    (runId : RunId) : next.hasRun runId = database.hasRun runId := by
  simp only [Database.hasRun, Database.getRun, hruns]

theorem mem_listArtifacts {database : Database} {runId : RunId} {row : ArtifactRecord} :
    row ∈ database.listArtifacts runId ↔
      row ∈ database.artifacts ∧ row.metadata.workflowRunId = runId := by
  simp [listArtifacts, List.mem_insertionSort]

end Database

end Aidlc
