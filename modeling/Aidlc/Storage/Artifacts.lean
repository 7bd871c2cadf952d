import Aidlc.Foundation.Effects
import Aidlc.Storage.Snapshots
import Aidlc.Tools.SourceTree

/-! # The artifact store

Files of a project live below one directory. A snapshot occupies the slot of
its stage, producer, and kind; every other artifact has a directory of its own.
A write runs under the exclusive project lock, a read under the shared one, so
each is one step here, and a write that raises is one without files. What a write
leaves behind that fails halfway, as with release files that cannot be laid out,
is the subject of its file operations.
-/

namespace Aidlc

open Foundation

/-- The files of one artifact directory. -/
structure StoredFiles where
  manifest : ArtifactMetadata
  content : Json
  markdown : String
  source : Option SourceBundle
  deriving DecidableEq

/-- The artifact root: the artifact directories, and `project.json` of each project. -/
structure FileStore where
  files : Location → Option StoredFiles
  descriptor : ProjectId → Option (List (String × Json))

def FileStore.empty : FileStore := ⟨fun _ => none, fun _ => none⟩

structure WriteRequest where
  runId : RunId
  stage : StageName
  kind : ArtifactKind
  producingAgent : String
  content : Json
  markdown : String
  parentArtifactIds : List ArtifactId
  modelId : Option String
  promptVersion : String
  execution : Json
  deriving DecidableEq

/-- A write that leaves the optional arguments at their defaults. -/
def WriteRequest.simple (runId : RunId) (stage : StageName) (kind : ArtifactKind)
    (producingAgent : String) (content : Json) (markdown : String)
    (parentArtifactIds : List ArtifactId) : WriteRequest :=
  { runId, stage, kind, producingAgent, content, markdown, parentArtifactIds,
    modelId := none, promptVersion := "deterministic-v1", execution := .obj [] }

def producerChar (c : Char) : Bool :=
  ('A' ≤ c && c ≤ 'Z') || ('a' ≤ c && c ≤ 'z') || ('0' ≤ c && c ≤ '9') || c == '_' || c == '-'

/-- `re.fullmatch(r"[A-Za-z0-9_-]+", producing_agent)` -/
def safeProducer (producingAgent : String) : Bool :=
  !producingAgent.toList.isEmpty && producingAgent.toList.all producerChar

def trustedSandboxService : String := "trusted-sandbox-service"

def isSnapshot (kind : ArtifactKind) (producingAgent : String) : Bool :=
  kind ∈ snapshotKinds && producingAgent != trustedSandboxService

def whitespace : List Char :=
  ['\t', '\n', '\x0b', '\x0c', '\r', '\x1c', '\x1d', '\x1e', '\x1f', ' ', '\u0085', '\u00a0',
    '\u1680', '\u2000', '\u2001', '\u2002', '\u2003', '\u2004', '\u2005', '\u2006', '\u2007',
    '\u2008', '\u2009', '\u200a', '\u2028', '\u2029', '\u202f', '\u205f', '\u3000']

def rstrip (text : String) : String :=
  String.ofList (text.toList.reverse.dropWhile fun c => c ∈ whitespace).reverse

def artifactName (artifactId : ArtifactId) : String := s!"art_{artifactId}"

/-- The path of a location relative to its project. -/
def Location.relativePath : Location → String
  | .current _ stage producer kind => s!"current/{stage.value}/{producer}/{kind.value}"
  | .record _ stage artifactId => s!"records/{stage.value}/{artifactName artifactId}"

variable (platform : Platform)

def ArtifactMetadata.ofRequest (request : WriteRequest) (artifactId : ArtifactId)
    (createdAt : Nat) : ArtifactMetadata where
  projectId := platform.projectIdForRun request.runId
  currentSnapshot := isSnapshot request.kind request.producingAgent
  artifactId := artifactId
  kind := request.kind
  workflowRunId := request.runId
  stageId := request.stage
  parentArtifactIds := request.parentArtifactIds
  producingAgent := request.producingAgent
  modelId := request.modelId
  promptVersion := some request.promptVersion
  execution := request.execution
  createdAt := createdAt
  contentSha256 := platform.sha256 request.content

/-- Where an artifact with this metadata is published. -/
def ArtifactMetadata.destination (metadata : ArtifactMetadata) : Location :=
  if metadata.currentSnapshot then
    .current metadata.projectId metadata.stageId metadata.producingAgent metadata.kind
  else .record metadata.projectId metadata.stageId metadata.artifactId

/-- Whether publishing a kind clears these files of the project. -/
def invalidates (project : ProjectId) (kind : ArtifactKind) (location : Location)
    (stored : StoredFiles) : Bool :=
  location.isCurrent && location.project == project &&
    stored.manifest.kind ∈ invalidatedKinds kind

/-- Remove every current snapshot of the project whose manifest has an invalidated kind. -/
def FileStore.invalidate (store : FileStore) (project : ProjectId) (kind : ArtifactKind) :
    FileStore :=
  { store with
    files := fun location =>
      (store.files location).filter fun stored => !invalidates project kind location stored }

def FileStore.put (store : FileStore) (location : Location) (stored : StoredFiles) : FileStore :=
  { store with
    files := fun other => if other = location then some stored else store.files other }

/-- The project descriptor after a project brief was published. -/
def scopedIdentity (metadata : ArtifactMetadata)
    (descriptor : Option (List (String × Json))) : List (String × Json) :=
  Json.merge
    (descriptor.getD
      [("project_id", .str metadata.projectId), ("run_id", .str metadata.workflowRunId)])
    [("scope_artifact_id", idJson metadata.artifactId),
      ("scope_path", .str metadata.destination.relativePath),
      ("scope_sha256", .str metadata.contentSha256)]

def FileStore.describeScope (store : FileStore) (metadata : ArtifactMetadata) : FileStore :=
  if metadata.kind = .projectBrief then
    { store with
      descriptor := fun project =>
        if project = metadata.projectId then
          some (scopedIdentity metadata (store.descriptor project))
        else store.descriptor project }
  else store

def FileStore.initializeProject (store : FileStore) (runId : RunId) (idea : String) : FileStore :=
  { store with
    descriptor := fun project =>
      if project = platform.projectIdForRun runId then
        some [("project_id", .str project), ("run_id", .str runId), ("idea", .str idea)]
      else store.descriptor project }

/-- The release files a write materialises next to its content. -/
def releaseSource (request : WriteRequest) : Except PyError (Option SourceBundle) :=
  if request.kind = .releaseBundle then
    match request.content.get? "files" with
    | some files => do return some (← SourceBundle.validate (.obj [("files", files)]))
    | none => .ok none
  else .ok none

/-- The files of a published artifact. A release without files leaves an earlier
source tree of its slot in place. -/
def publishedFiles (store : FileStore) (request : WriteRequest) (metadata : ArtifactMetadata)
    (source : Option SourceBundle) : StoredFiles where
  manifest := metadata
  content := request.content
  markdown := rstrip request.markdown ++ "\n"
  source := source.or ((store.files metadata.destination).bind StoredFiles.source)

/-- What a write checks before it touches a file: the producer, the files of a release,
and that there is a run. -/
def checkRequest (request : WriteRequest) : Except PyError (Option SourceBundle) :=
  if !safeProducer request.producingAgent then
    .error ⟨.valueError, "Unsafe artifact producer"⟩
  else do
    let source ← releaseSource request
    if request.runId = "" then validationError "Project scope requires a workflow run ID"
    else return source

def osError : PyError := ⟨.osError, "Input/output error"⟩

/-- The files of a release, if there are any, can be laid out below a directory. -/
def Platform.laysOut (source : Option SourceBundle) : Bool :=
  source.all fun bundle => (bundle.materialize platform.nameMax).isSome

/-- `ArtifactStore.write`; the fresh identifier and the clock are arguments. -/
def FileStore.write (store : FileStore) (request : WriteRequest) (artifactId : ArtifactId)
    (createdAt : Nat) : Except PyError (ArtifactRecord × FileStore) := do
  let source ← checkRequest request
  if !platform.laysOut source then .error osError
  else
    let metadata := ArtifactMetadata.ofRequest platform request artifactId createdAt
    let cleared :=
      if metadata.currentSnapshot then store.invalidate metadata.projectId metadata.kind else store
    let published :=
      cleared.put metadata.destination (publishedFiles cleared request metadata source)
    return (⟨metadata, metadata.destination⟩, published.describeScope metadata)

/-- `ArtifactStore.read_content` -/
def FileStore.readContent (store : FileStore) (record : ArtifactRecord) : Except PyError Json :=
  match store.files record.contentPath with
  | none => .error ⟨.osError, "No such file or directory"⟩
  | some stored =>
      if stored.manifest.artifactId ≠ record.metadata.artifactId then
        .error ⟨.valueError,
          s!"Artifact snapshot superseded: {artifactName record.metadata.artifactId}"⟩
      else if platform.sha256 stored.content ≠ record.metadata.contentSha256 then
        .error ⟨.valueError,
          s!"Artifact integrity check failed: {artifactName record.metadata.artifactId}"⟩
      else .ok stored.content

section Write

variable {platform}

@[simp] theorem describeScope_files (store : FileStore) (metadata : ArtifactMetadata) :
    (store.describeScope metadata).files = store.files := by
  unfold FileStore.describeScope
  split <;> rfl

@[simp] theorem put_files_self (store : FileStore) (location : Location) (stored : StoredFiles) :
    (store.put location stored).files location = some stored := by
  simp [FileStore.put]

theorem put_files_of_ne {location other : Location} (hne : other ≠ location) (store : FileStore)
    (stored : StoredFiles) : (store.put location stored).files other = store.files other := by
  simp [FileStore.put, hne]

theorem checkRequest_eq_ok {request : WriteRequest} {source : Option SourceBundle} :
    checkRequest request = .ok source ↔
      safeProducer request.producingAgent = true ∧ releaseSource request = .ok source ∧
        request.runId ≠ "" := by
  unfold checkRequest
  cases hsafe : safeProducer request.producingAgent with
  | false => simp
  | true =>
      simp only [Bool.not_true, Bool.false_eq_true, if_false, except_bind_eq_ok, true_and]
      constructor
      · rintro ⟨found, hfound, hchecked⟩
        split at hchecked
        next => cases hchecked
        next hrun =>
          cases hchecked
          exact ⟨hfound, hrun⟩
      · rintro ⟨hsource, hrun⟩
        exact ⟨source, hsource, if_neg hrun⟩

/-- A write succeeds once its request is checked and its release files can be laid out. -/
theorem write_eq_ok {store next : FileStore} {request : WriteRequest} {artifactId : ArtifactId}
    {createdAt : Nat} {record : ArtifactRecord} :
    store.write platform request artifactId createdAt = .ok (record, next) ↔
      ∃ source, checkRequest request = .ok source ∧ platform.laysOut source = true ∧
        record.metadata = ArtifactMetadata.ofRequest platform request artifactId createdAt ∧
        record.contentPath = record.metadata.destination ∧
        let cleared := if record.metadata.currentSnapshot then
          store.invalidate record.metadata.projectId record.metadata.kind else store
        next = (cleared.put record.contentPath
          (publishedFiles cleared request record.metadata source)).describeScope
            record.metadata := by
  unfold FileStore.write
  rw [except_bind_eq_ok]
  constructor
  · rintro ⟨source, hsource, hwritten⟩
    split at hwritten
    next => cases hwritten
    next hplaced =>
      cases hwritten
      exact ⟨source, hsource, by simpa using hplaced, rfl, rfl, rfl⟩
  · rintro ⟨source, hsource, hplaced, hmetadata, hpath, hnext⟩
    obtain ⟨metadata, path⟩ := record
    dsimp only at hmetadata hpath
    subst hpath hmetadata
    refine ⟨source, hsource, ?_⟩
    rw [hplaced, hnext]
    rfl

/-- What a successful write returns and leaves on disk. -/
theorem write_cases {store next : FileStore} {request : WriteRequest} {artifactId : ArtifactId}
    {createdAt : Nat} {record : ArtifactRecord}
    (hwrite : store.write platform request artifactId createdAt = .ok (record, next)) :
    safeProducer request.producingAgent = true ∧
      record.metadata = ArtifactMetadata.ofRequest platform request artifactId createdAt ∧
      record.contentPath = record.metadata.destination ∧
      ∃ source, releaseSource request = .ok source ∧
        let cleared := if record.metadata.currentSnapshot then
          store.invalidate record.metadata.projectId record.metadata.kind else store
        next = (cleared.put record.contentPath
          (publishedFiles cleared request record.metadata source)).describeScope
            record.metadata := by
  obtain ⟨source, hchecked, -, hmetadata, hpath, hnext⟩ := write_eq_ok.mp hwrite
  obtain ⟨hsafe, hsource, -⟩ := checkRequest_eq_ok.mp hchecked
  exact ⟨hsafe, hmetadata, hpath, source, hsource, hnext⟩

/-- Whether the write of this record clears other files. -/
def clears (record : ArtifactRecord) (location : Location) (stored : StoredFiles) : Bool :=
  record.metadata.currentSnapshot &&
    invalidates record.metadata.projectId record.metadata.kind location stored

/-- A write leaves its own files at its path. -/
theorem write_files_self {store next : FileStore} {request : WriteRequest}
    {artifactId : ArtifactId} {createdAt : Nat} {record : ArtifactRecord}
    (hwrite : store.write platform request artifactId createdAt = .ok (record, next)) :
    ∃ stored, next.files record.contentPath = some stored ∧ stored.manifest = record.metadata ∧
      stored.content = request.content := by
  obtain ⟨-, -, -, source, -, rfl⟩ := write_cases hwrite
  rw [describeScope_files, put_files_self]
  exact ⟨_, rfl, rfl, rfl⟩

/-- Elsewhere a write keeps the files that it does not clear, and adds none. -/
theorem write_files_of_ne {store next : FileStore} {request : WriteRequest}
    {artifactId : ArtifactId} {createdAt : Nat} {record : ArtifactRecord}
    (hwrite : store.write platform request artifactId createdAt = .ok (record, next))
    {location : Location} (hne : location ≠ record.contentPath) (stored : StoredFiles) :
    next.files location = some stored ↔
      store.files location = some stored ∧ clears record location stored = false := by
  obtain ⟨-, -, -, source, -, rfl⟩ := write_cases hwrite
  rw [describeScope_files, put_files_of_ne hne]
  cases hsnapshot : record.metadata.currentSnapshot with
  | false => simp [clears, hsnapshot]
  | true => simp [clears, hsnapshot, FileStore.invalidate, Option.filter_eq_some_iff]

/-- A write describes the scope of no project but its own. -/
theorem write_descriptor_of_ne {store next : FileStore} {request : WriteRequest}
    {artifactId : ArtifactId} {createdAt : Nat} {record : ArtifactRecord}
    (hwrite : store.write platform request artifactId createdAt = .ok (record, next))
    {project : ProjectId} (hne : project ≠ record.metadata.projectId) :
    next.descriptor project = store.descriptor project := by
  obtain ⟨-, -, -, source, -, rfl⟩ := write_cases hwrite
  have hcleared : ∀ cleared : FileStore, cleared.descriptor = store.descriptor →
      ∀ stored, ((cleared.put record.contentPath stored).describeScope
        record.metadata).descriptor project = store.descriptor project := by
    intro cleared hsame stored
    unfold FileStore.describeScope
    split
    · simp [FileStore.put, hne, hsame]
    · simp [FileStore.put, hsame]
  apply hcleared
  split <;> rfl

/-- A written artifact can be read back at once. -/
theorem readContent_of_write {store next : FileStore} {request : WriteRequest}
    {artifactId : ArtifactId} {createdAt : Nat} {record : ArtifactRecord}
    (hwrite : store.write platform request artifactId createdAt = .ok (record, next)) :
    next.readContent platform record = .ok request.content := by
  obtain ⟨-, hmetadata, -, source, -, rfl⟩ := write_cases hwrite
  simp [FileStore.readContent, publishedFiles, hmetadata, ArtifactMetadata.ofRequest]

/-- Content is only read where its digest is that of the record. -/
theorem digest_of_readContent {store : FileStore} {record : ArtifactRecord} {content : Json}
    (hread : store.readContent platform record = .ok content) :
    platform.sha256 content = record.metadata.contentSha256 := by
  unfold FileStore.readContent at hread
  split at hread
  · cases hread
  · split at hread
    · cases hread
    · split at hread
      · cases hread
      · cases hread
        exact not_not.mp ‹_›

/-- Reading depends only on the files at the record's own path. -/
theorem readContent_congr {store next : FileStore} {record : ArtifactRecord}
    (hfiles : next.files record.contentPath = store.files record.contentPath) :
    next.readContent platform record = store.readContent platform record := by
  simp only [FileStore.readContent, hfiles]

end Write

end Aidlc
