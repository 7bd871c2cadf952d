import Aidlc.Foundation.Faults
import Aidlc.Storage.Artifacts

/-! # The file operations of a write

A publication replaces its files one by one, and every single operation may
fail. Temporary files are left out, since no reader looks at them. Without
faults a publication is the single step of the artifact store.
-/

namespace Aidlc

open Foundation

/-- A file is missing, holds something its readers reject, or holds a value. -/
inductive FileState (α : Type) where
  | missing
  | garbled
  | whole (value : α)
  deriving DecidableEq

/-- The entries of one artifact directory. -/
structure Directory where
  manifest : FileState ArtifactMetadata
  content : FileState Json
  markdown : FileState String
  source : FileState SourceBundle
  deriving DecidableEq

def Directory.empty : Directory := ⟨.missing, .missing, .missing, .missing⟩

inductive Entry where
  | manifest | content | markdown | source
  deriving DecidableEq

/-- Delete one entry. -/
def Directory.remove (directory : Directory) : Entry → Directory
  | .manifest => { directory with manifest := .missing }
  | .content => { directory with content := .missing }
  | .markdown => { directory with markdown := .missing }
  | .source => { directory with source := .missing }

structure Files where
  directories : Location → Directory
  descriptor : ProjectId → FileState (List (String × Json))

namespace Files

def modify (files : Files) (location : Location) (change : Directory → Directory) : Files :=
  { files with
    directories := fun other =>
      if other = location then change (files.directories other) else files.directories other }

def setDescriptor (files : Files) (project : ProjectId) (fields : List (String × Json)) : Files :=
  { files with
    descriptor := fun other => if other = project then .whole fields else files.descriptor other }

end Files

abbrev FileM := Faulty PyError Files

/-- An operation on one directory. -/
def onDirectory (location : Location) (change : Directory → Directory) : FileM Unit :=
  attempt osError fun files => files.modify location change

/-- An operation that changes no file a reader looks at. -/
def quietly : FileM Unit := attempt osError id

/-- `shutil.rmtree` of an artifact directory, whose entries come in any order. -/
def removeDirectory (order : Location → List Entry) (location : Location) : FileM Unit := do
  (order location).forM fun entry => onDirectory location fun directory => directory.remove entry
  onDirectory location fun _ => .empty

/-- `ArtifactMetadata.model_validate_json(manifest.read_text())` -/
def readManifest (location : Location) : FileM (Option ArtifactMetadata) := do
  quietly
  match ← observe fun files => (files.directories location).manifest with
  | .missing => return none
  | .garbled => throw ⟨.validationError, ""⟩
  | .whole metadata => return some metadata

/-- One manifest below `current`: the directory goes if its kind is invalidated. -/
def invalidateOne (project : ProjectId) (kind : ArtifactKind) (order : Location → List Entry)
    (location : Location) : FileM Unit :=
  if location.isCurrent && location.project == project then do
    match ← readManifest location with
    | some previous =>
      if previous.kind ∈ invalidatedKinds kind then removeDirectory order location else return ()
    | none => return ()
  else return ()

/-- The loop over the manifests, in the order of the listing. -/
def invalidateCurrent (project : ProjectId) (kind : ArtifactKind) (listing : List Location)
    (order : Location → List Entry) : FileM Unit :=
  listing.forM (invalidateOne project kind order)

/-- The files of the release in a temporary tree. -/
def writeTree (nameMax : Nat) (bundle : SourceBundle) : FileM Unit := do
  bundle.files.forM fun _ => quietly
  if (bundle.materialize nameMax).isSome then return () else throw osError

/-- Swap the temporary tree with the published one. A tree that could not be
removed is in the way of the new one. -/
def swapTree (location : Location) (bundle : SourceBundle) : FileM Unit := do
  tolerate do
    onDirectory location fun directory => { directory with source := .garbled }
    onDirectory location fun directory => directory.remove .source
  match ← observe fun files => (files.directories location).source with
  | .missing => onDirectory location fun directory => { directory with source := .whole bundle }
  | .garbled | .whole _ => throw osError

/-- `project.json` after a project brief. -/
def describeProject (metadata : ArtifactMetadata) : FileM Unit := do
  quietly
  match ← observe fun files => files.descriptor metadata.projectId with
  | .garbled => throw ⟨.valueError, ""⟩
  | .missing =>
    attempt osError fun files =>
      files.setDescriptor metadata.projectId (scopedIdentity metadata none)
  | .whole identity =>
    attempt osError fun files =>
      files.setDescriptor metadata.projectId (scopedIdentity metadata (some identity))

def clearDependents (metadata : ArtifactMetadata) (listing : List Location)
    (order : Location → List Entry) : FileM Unit :=
  if metadata.currentSnapshot then
    invalidateCurrent metadata.projectId metadata.kind listing order
  else return ()

def replaceFiles (request : WriteRequest) (metadata : ArtifactMetadata) : FileM Unit := do
  quietly
  onDirectory metadata.destination fun directory =>
    { directory with content := .whole request.content }
  onDirectory metadata.destination fun directory =>
    { directory with markdown := .whole (rstrip request.markdown ++ "\n") }
  onDirectory metadata.destination fun directory => { directory with manifest := .whole metadata }

def releaseFiles (nameMax : Nat) (location : Location) : Option SourceBundle → FileM Unit
  | none => return ()
  | some bundle => do
    writeTree nameMax bundle
    swapTree location bundle

def scopeProject (metadata : ArtifactMetadata) : FileM Unit :=
  if metadata.kind = .projectBrief then describeProject metadata else return ()

variable (platform : Platform)

/-- The body of a write under the project lock. -/
def publish (request : WriteRequest) (metadata : ArtifactMetadata) (source : Option SourceBundle)
    (listing : List Location) (order : Location → List Entry) : FileM ArtifactRecord := do
  quietly
  clearDependents metadata listing order
  replaceFiles request metadata
  releaseFiles platform.nameMax metadata.destination source
  scopeProject metadata
  return ⟨metadata, metadata.destination⟩

/-- `ArtifactStore.write`, operation by operation. -/
def Files.write (request : WriteRequest) (artifactId : ArtifactId) (createdAt : Nat)
    (listing : List Location) (order : Location → List Entry) : FileM ArtifactRecord :=
  match checkRequest request with
  | .error error => throw error
  | .ok source =>
    publish platform request (ArtifactMetadata.ofRequest platform request artifactId createdAt)
      source listing order

/-- The content of an artifact directory, checked against a record. -/
def Directory.readContent (directory : Directory) (record : ArtifactRecord) :
    Except PyError Json :=
  match directory.content with
  | .missing => .error ⟨.osError, "No such file or directory"⟩
  | .garbled => .error ⟨.valueError, ""⟩
  | .whole content =>
    if platform.sha256 content ≠ record.metadata.contentSha256 then
      .error ⟨.valueError,
        s!"Artifact integrity check failed: {artifactName record.metadata.artifactId}"⟩
    else .ok content

/-- `ArtifactStore.read_content`: a manifest that exists must be that of the record. -/
def Files.readContent (files : Files) (record : ArtifactRecord) : Except PyError Json :=
  match (files.directories record.contentPath).manifest with
  | .garbled => .error ⟨.validationError, ""⟩
  | .missing => (files.directories record.contentPath).readContent platform record
  | .whole stored =>
    if stored.artifactId ≠ record.metadata.artifactId then
      .error ⟨.valueError,
        s!"Artifact snapshot superseded: {artifactName record.metadata.artifactId}"⟩
    else (files.directories record.contentPath).readContent platform record

section Frame

variable {platform : Platform} {start : Files} {request : WriteRequest}
  {metadata : ArtifactMetadata}

/-- The directories a write may change: its own, and the current snapshots of its
project that it invalidates. -/
def touches (start : Files) (metadata : ArtifactMetadata) (location : Location) : Prop :=
  location = metadata.destination ∨
    (metadata.currentSnapshot = true ∧ location.isCurrent = true ∧
      location.project = metadata.projectId ∧
      ∃ previous, (start.directories location).manifest = .whole previous ∧
        previous.kind ∈ invalidatedKinds metadata.kind)

/-- All other directories are as they were. -/
def Framed (start : Files) (metadata : ArtifactMetadata) (files : Files) : Prop :=
  ∀ location, ¬touches start metadata location →
    files.directories location = start.directories location

/-- Changing a directory the write may touch keeps the frame. -/
theorem framed_modify {files : Files} {location : Location} (hframed : Framed start metadata files)
    (htouches : touches start metadata location) (change : Directory → Directory) :
    Framed start metadata (files.modify location change) := by
  intro other hother
  have hne : other ≠ location := by
    rintro rfl
    exact hother htouches
  simp only [Files.modify, if_neg hne]
  exact hframed other hother

/-- An operation on a directory the write may touch keeps the frame. -/
theorem onDirectory_framed {location : Location} (htouches : touches start metadata location)
    (change : Directory → Directory) :
    Keeps (Framed start metadata) (onDirectory location change) :=
  Keeps.attempt _ fun _ hframed => framed_modify hframed htouches change

theorem quietly_framed : Keeps (Framed start metadata) quietly :=
  Keeps.attempt _ fun _ hframed => hframed

/-- Removing a directory the write may touch keeps the frame, wherever it stops. -/
theorem removeDirectory_framed {location : Location} (order : Location → List Entry)
    (htouches : touches start metadata location) :
    Keeps (Framed start metadata) (removeDirectory order location) :=
  (Keeps.forM fun _ => onDirectory_framed htouches _).bind fun _ => onDirectory_framed htouches _

/-- Only directories are removed whose manifest, still the original one, has an
invalidated kind. -/
theorem invalidateCurrent_framed (hsnapshot : metadata.currentSnapshot = true)
    (listing : List Location) (order : Location → List Entry) :
    Keeps (Framed start metadata)
      (invalidateCurrent metadata.projectId metadata.kind listing order) := by
  refine Keeps.forM fun location => ?_
  unfold invalidateOne
  by_cases hcurrent : (location.isCurrent && location.project == metadata.projectId) = true
  · rw [if_pos hcurrent]
    simp only [Bool.and_eq_true, beq_iff_eq] at hcurrent
    unfold readManifest
    simp only [bind_assoc]
    refine quietly_framed.bind fun _ => Keeps.observing fun files faults hframed => ?_
    cases hmanifest : (files.directories location).manifest with
    | missing => exact hframed
    | garbled => exact hframed
    | whole previous =>
        simp only [pure_bind]
        by_cases hkind : previous.kind ∈ invalidatedKinds metadata.kind
        · rw [if_pos hkind]
          refine removeDirectory_framed order ?_ files faults hframed
          by_contra huntouched
          rw [hframed location huntouched] at hmanifest
          exact huntouched
            (Or.inr ⟨hsnapshot, hcurrent.1, hcurrent.2, previous, hmanifest, hkind⟩)
        · rw [if_neg hkind]
          exact hframed
  · rw [if_neg hcurrent]
    exact Keeps.pure _

theorem releaseFiles_framed (nameMax : Nat) (source : Option SourceBundle) :
    Keeps (Framed start metadata) (releaseFiles nameMax metadata.destination source) := by
  have hown : touches start metadata metadata.destination := Or.inl rfl
  cases source with
  | none => exact Keeps.pure _
  | some bundle =>
      refine Keeps.bind ?_ fun _ => Keeps.bind (Keeps.tolerate ?_) fun _ => ?_
      · refine (Keeps.forM fun _ => quietly_framed).bind fun _ => ?_
        split
        · exact Keeps.pure _
        · exact Keeps.throw _
      · exact (onDirectory_framed hown _).bind fun _ => onDirectory_framed hown _
      · refine Keeps.bind (Keeps.observe _) fun found => ?_
        cases found with
        | missing => exact onDirectory_framed hown _
        | garbled | whole => exact Keeps.throw _

theorem describeProject_framed (other : ArtifactMetadata) :
    Keeps (Framed start metadata) (describeProject other) := by
  refine quietly_framed.bind fun _ => Keeps.bind (Keeps.observe _) fun found => ?_
  cases found with
  | garbled => exact Keeps.throw _
  | missing | whole => exact Keeps.attempt _ fun _ hframed => hframed

theorem replaceFiles_framed : Keeps (Framed start metadata) (replaceFiles request metadata) := by
  have hown : touches start metadata metadata.destination := Or.inl rfl
  refine quietly_framed.bind fun _ => (onDirectory_framed hown _).bind fun _ => ?_
  exact (onDirectory_framed hown _).bind fun _ => onDirectory_framed hown _

theorem publish_framed (source : Option SourceBundle) (listing : List Location)
    (order : Location → List Entry) :
    Keeps (Framed start metadata) (publish platform request metadata source listing order) := by
  refine quietly_framed.bind fun _ => Keeps.bind ?_ fun _ => ?_
  · unfold clearDependents
    split
    · exact invalidateCurrent_framed ‹_› listing order
    · exact Keeps.pure _
  · refine replaceFiles_framed.bind fun _ => (releaseFiles_framed _ source).bind fun _ => ?_
    refine Keeps.bind ?_ fun _ => Keeps.pure _
    unfold scopeProject
    split
    · exact describeProject_framed _
    · exact Keeps.pure _

variable (platform start request) in
/-- Whether it returns or raises, a write only changes directories it touches. -/
theorem write_framed (artifactId : ArtifactId) (createdAt : Nat) (listing : List Location)
    (order : Location → List Entry) :
    Keeps (Framed start (ArtifactMetadata.ofRequest platform request artifactId createdAt))
      (Files.write platform request artifactId createdAt listing order) := by
  unfold Files.write
  split
  · exact Keeps.throw _
  · exact publish_framed _ _ _

end Frame

section Failure

variable {platform : Platform} {files after : Files} {record : ArtifactRecord} {content : Json}

theorem sha256_of_readContent (hread : files.readContent platform record = .ok content) :
    platform.sha256 content = record.metadata.contentSha256 := by
  have hdirectory : ∀ directory : Directory,
      directory.readContent platform record = .ok content →
      platform.sha256 content = record.metadata.contentSha256 := by
    intro directory hfound
    unfold Directory.readContent at hfound
    split at hfound
    · cases hfound
    · cases hfound
    · split at hfound
      · cases hfound
      · cases hfound
        exact not_not.mp ‹_›
  unfold Files.readContent at hread
  split at hread
  · cases hread
  · exact hdirectory _ hread
  · split at hread
    · cases hread
    · exact hdirectory _ hread

/-- A write that raises keeps every record readable, up to those in the directory
it publishes to and in the snapshots it invalidates. These may have become
unreadable, but are never read with other content. Invalid input changes nothing. -/
theorem failed_write_frame {request : WriteRequest} {artifactId : ArtifactId} {createdAt : Nat}
    {listing : List Location} {order : Location → List Entry} {faults rest : List Fault}
    {error : PyError}
    (hraised : Files.write platform request artifactId createdAt listing order (files, faults) =
      .error error (after, rest))
    (hread : files.readContent platform record = .ok content) :
    (¬touches files (ArtifactMetadata.ofRequest platform request artifactId createdAt)
        record.contentPath → after.readContent platform record = .ok content) ∧
      (∀ other, after.readContent platform record = .ok other →
        platform.sha256 other = platform.sha256 content) ∧
      (safeProducer request.producingAgent = false ∨
        (∃ invalid, releaseSource request = .error invalid) ∨ request.runId = "" →
          after = files) := by
  refine ⟨fun huntouched => ?_, fun other hother => ?_, fun hinvalid => ?_⟩
  · have hframed := write_framed platform files request artifactId createdAt listing order files
      faults fun _ _ => rfl
    rw [hraised] at hframed
    have hsame : after.directories record.contentPath = files.directories record.contentPath :=
      hframed record.contentPath huntouched
    rw [← hread]
    simp only [Files.readContent, hsame]
  · rw [sha256_of_readContent hother, sha256_of_readContent hread]
  · unfold Files.write at hraised
    cases hchecked : checkRequest request with
    | error raised =>
        rw [hchecked] at hraised
        cases hraised
        rfl
    | ok source =>
        obtain ⟨hproducer, hsource, hrun⟩ := checkRequest_eq_ok.mp hchecked
        rcases hinvalid with hunsafe | ⟨invalid, hinvalid⟩ | hempty
        · rw [hproducer] at hunsafe
          cases hunsafe
        · rw [hsource] at hinvalid
          cases hinvalid
        · exact absurd hempty hrun

end Failure

section Sample

def sampleFilePlatform : Platform where
  sha256 content := ((content.get? "text").bind Json.str?).getD ""
  projectIdForRun runId := runId
  isoformat _ := ""
  roundFloat value := value

def sampleRequest (stage : StageName) (kind : ArtifactKind) (producer : String) : WriteRequest :=
  .simple "run" stage kind producer (.obj [("text", .str "text")]) "" []

def sampleRequirements : WriteRequest :=
  sampleRequest .requirements .requirementsSpec "requirements-agent"

def sampleResponse : WriteRequest := sampleRequest .requirements .humanResponse "human"

def sampleBrief : WriteRequest := sampleRequest .intake .projectBrief "intake-agent"

def sampleRequirementsRecord : ArtifactRecord :=
  let metadata := ArtifactMetadata.ofRequest sampleFilePlatform sampleRequirements 0 0
  ⟨metadata, metadata.destination⟩

def sampleResponseRecord : ArtifactRecord :=
  let metadata := ArtifactMetadata.ofRequest sampleFilePlatform sampleResponse 1 1
  ⟨metadata, metadata.destination⟩

/-- Write the requirements of a run and a human response. -/
def writeSamples : FileM ArtifactRecord := do
  let _ ← Files.write sampleFilePlatform sampleRequirements 0 0 [] fun _ => []
  Files.write sampleFilePlatform sampleResponse 1 1 [] fun _ => []

def sampleFiles : Files :=
  (finalState (writeSamples (⟨fun _ => .empty, fun _ => .missing⟩, []))).1

/-- A brief is written whose content file cannot be replaced. -/
def unreplacedBrief : EStateM.Result PyError (Files × List Fault) ArtifactRecord :=
  Files.write sampleFilePlatform sampleBrief 2 2 [sampleRequirementsRecord.contentPath]
    (fun _ => []) (sampleFiles, [.none, .none, .none, .none, .before])

theorem failed_write_frame_response :
    unreplacedBrief = .error osError ((finalState unreplacedBrief).1, []) ∧
      (finalState unreplacedBrief).1.readContent sampleFilePlatform sampleResponseRecord =
        .ok (.obj [("text", .str "text")]) := by
  have hraised : Files.write sampleFilePlatform sampleBrief 2 2
      [sampleRequirementsRecord.contentPath] (fun _ => [])
      (sampleFiles, [.none, .none, .none, .none, .before]) =
      .error osError ((finalState unreplacedBrief).1, []) := rfl
  refine ⟨hraised, (failed_write_frame hraised (by decide +kernel)).1 ?_⟩
  rintro (heq | ⟨-, hcurrent, -⟩)
  · cases heq
  · cases hcurrent

/-- The failed write of the brief has removed the requirements. -/
theorem failed_write_loses_requirements :
    unreplacedBrief = .error osError ((finalState unreplacedBrief).1, []) ∧
      sampleFiles.readContent sampleFilePlatform sampleRequirementsRecord =
        .ok (.obj [("text", .str "text")]) ∧
      (finalState unreplacedBrief).1.readContent sampleFilePlatform sampleRequirementsRecord =
        .error ⟨.osError, "No such file or directory"⟩ :=
  ⟨rfl, by decide +kernel, by decide +kernel⟩

end Sample

section Refinement

variable {platform : Platform} {store next : FileStore} {request : WriteRequest}
  {metadata : ArtifactMetadata} {order : Location → List Entry}

/-- The directory of stored files. -/
def Directory.ofStored : Option StoredFiles → Directory
  | none => .empty
  | some stored =>
    { manifest := .whole stored.manifest
      content := .whole stored.content
      markdown := .whole stored.markdown
      source := match stored.source with
        | none => .missing
        | some bundle => .whole bundle }

/-- The files of a store between two writes. -/
def FileStore.layout (store : FileStore) : Files where
  directories location := .ofStored (store.files location)
  descriptor project := match store.descriptor project with
    | none => .missing
    | some fields => .whole fields

theorem attempt_sound {files : Files} (effect : Files → Files) :
    attempt osError effect (files, []) = .ok () (effect files, []) := rfl

theorem onDirectory_sound {files : Files} (location : Location) (change : Directory → Directory) :
    onDirectory location change (files, []) = .ok () (files.modify location change, []) := rfl

theorem modify_modify (files : Files) (location : Location)
    (first second : Directory → Directory) :
    (files.modify location first).modify location second =
      files.modify location fun directory => second (first directory) := by
  simp only [Files.modify]
  congr 1
  funext other
  split <;> rfl

theorem forM_sound {items : List Entry} {location : Location}
    {change : Entry → Directory → Directory} (files : Files) :
    ∃ final, (items.forM fun entry => onDirectory location (change entry)) (files, []) =
      .ok () (files.modify location final, []) := by
  induction items generalizing files with
  | nil =>
      refine ⟨id, ?_⟩
      have hsame : files.modify location id = files := by
        simp only [Files.modify, id, ite_self]
      rw [hsame]
      rfl
  | cons entry rest ih =>
      obtain ⟨final, hfinal⟩ := ih (files.modify location (change entry))
      refine ⟨fun directory => final (change entry directory), ?_⟩
      change (onDirectory location (change entry) >>= fun _ => _) (files, []) = _
      rw [bind_of_ok (onDirectory_sound location (change entry)), hfinal, modify_modify]

theorem removeDirectory_sound {files : Files} (location : Location) :
    removeDirectory order location (files, []) =
      .ok () (files.modify location fun _ => .empty, []) := by
  obtain ⟨final, hfinal⟩ := forM_sound files
  unfold removeDirectory
  rw [bind_of_ok hfinal, onDirectory_sound, modify_modify]

/-- Clear the invalidated snapshots among the listed ones. -/
def FileStore.clearListed (store : FileStore) (project : ProjectId) (kind : ArtifactKind)
    (listing : List Location) : FileStore :=
  { store with
    files := fun location =>
      (store.files location).filter fun stored =>
        !(decide (location ∈ listing) && invalidates project kind location stored) }

/-- Clearing a listing clears its first directory and then the others. -/
theorem clearListed_cons (project : ProjectId) (kind : ArtifactKind) (location : Location)
    (rest : List Location) :
    store.clearListed project kind (location :: rest) =
      (store.clearListed project kind [location]).clearListed project kind rest := by
  simp only [FileStore.clearListed, Option.filter_filter]
  congr 1
  funext other
  congr 1
  funext stored
  cases hinvalid : invalidates project kind other stored with
  | false => simp
  | true => by_cases hfirst : other = location <;> simp [hfirst]

/-- Clearing a directory that is missing or not invalidated changes nothing. -/
theorem clearListed_of_valid {project : ProjectId} {kind : ArtifactKind} {location : Location}
    (hvalid : ∀ stored, store.files location = some stored →
      invalidates project kind location stored = false) :
    store.clearListed project kind [location] = store := by
  unfold FileStore.clearListed
  congr 1
  funext other
  cases hstored : store.files other with
  | none => rfl
  | some stored =>
      rw [Option.filter_some]
      by_cases hother : other = location
      · subst hother
        simp [hvalid stored hstored]
      · simp [hother]

/-- Clearing an invalidated directory empties it on disk. -/
theorem layout_clearListed {project : ProjectId} {kind : ArtifactKind} {location : Location}
    {stored : StoredFiles} (hstored : store.files location = some stored)
    (hinvalid : invalidates project kind location stored = true) :
    (store.clearListed project kind [location]).layout =
      store.layout.modify location fun _ => .empty := by
  unfold FileStore.clearListed FileStore.layout Files.modify
  congr 1
  funext other
  by_cases hother : other = location
  · subst hother
    rw [if_pos rfl]
    simp only [hstored]
    rw [Option.filter_some_neg (by simp [hinvalid])]
    rfl
  · rw [if_neg hother]
    cases hfound : store.files other <;> simp [hfound, hother, Option.filter_some]

/-- A stored manifest is read back as it was written. -/
theorem readManifest_sound (location : Location) :
    readManifest location (store.layout, []) =
      .ok ((store.files location).map StoredFiles.manifest) (store.layout, []) := by
  unfold readManifest quietly
  rw [bind_of_ok (attempt_sound id)]
  change (match (store.layout.directories location).manifest with
    | .missing => return none
    | .garbled => throw ⟨.validationError, ""⟩
    | .whole metadata => return some metadata : FileM (Option ArtifactMetadata)) _ = _
  simp only [FileStore.layout]
  cases store.files location <;> rfl

/-- One round of the loop clears its location. -/
theorem invalidateOne_sound {project : ProjectId} {kind : ArtifactKind} (location : Location)
    (store : FileStore) :
    invalidateOne project kind order location (store.layout, []) =
      .ok () ((store.clearListed project kind [location]).layout, []) := by
  unfold invalidateOne
  by_cases hcurrent : (location.isCurrent && location.project == project) = true
  · rw [if_pos hcurrent]
    cases hstored : store.files location with
    | none =>
        rw [clearListed_of_valid (by simp [hstored]), bind_of_ok (readManifest_sound location),
          hstored]
        rfl
    | some stored =>
        rw [bind_of_ok (readManifest_sound location), hstored]
        by_cases hkind : stored.manifest.kind ∈ invalidatedKinds kind
        · have hinvalid : invalidates project kind location stored = true := by
            simp only [invalidates, hcurrent, hkind, decide_true, Bool.and_self]
          rw [layout_clearListed hstored hinvalid]
          simp only [Option.map_some, if_pos hkind]
          exact removeDirectory_sound location
        · rw [clearListed_of_valid]
          · simp only [Option.map_some, if_neg hkind]
            rfl
          · intro other hother
            rw [hstored, Option.some.injEq] at hother
            subst hother
            simp [invalidates, hkind]
  · rw [if_neg hcurrent, clearListed_of_valid]
    · rfl
    · intro stored _
      simp only [invalidates, hcurrent, Bool.false_and]

/-- Without faults the invalidated directories are gone. -/
theorem invalidateCurrent_sound {project : ProjectId} {kind : ArtifactKind}
    (listing : List Location) (store : FileStore) :
    invalidateCurrent project kind listing order (store.layout, []) =
      .ok () ((store.clearListed project kind listing).layout, []) := by
  induction listing generalizing store with
  | nil =>
      have hsame : store.clearListed project kind [] = store := by
        unfold FileStore.clearListed
        congr 1
        funext location
        cases store.files location <;> simp
      rw [hsame]
      rfl
  | cons location rest ih =>
      rw [clearListed_cons, ← ih]
      exact bind_of_ok (invalidateOne_sound location store) _

/-- A listing of the current snapshots of the project clears what the write invalidates. -/
theorem clearListed_complete {project : ProjectId} {kind : ArtifactKind} {listing : List Location}
    (hlisted : ∀ location stored, store.files location = some stored →
      location.isCurrent = true → location.project = project → location ∈ listing) :
    store.clearListed project kind listing = store.invalidate project kind := by
  unfold FileStore.clearListed FileStore.invalidate
  congr 1
  funext location
  cases hstored : store.files location with
  | none => rfl
  | some stored =>
      by_cases hmem : location ∈ listing
      · simp [hmem]
      · have hvalid : invalidates project kind location stored = false := by
          by_contra hinvalid
          simp only [invalidates, Bool.and_eq_true, beq_iff_eq, Bool.not_eq_false] at hinvalid
          exact hmem (hlisted location stored hstored hinvalid.1.1 hinvalid.1.2)
        simp [hmem, hvalid, Option.filter_some]

theorem layout_put (location : Location) (stored : StoredFiles) :
    (store.put location stored).layout =
      store.layout.modify location fun _ => .ofStored (some stored) := by
  unfold FileStore.put FileStore.layout Files.modify
  congr 1
  funext other
  by_cases hother : other = location <;> simp [hother]

/-- Scoping a project writes its descriptor alone. -/
theorem layout_describeScope (hbrief : metadata.kind = .projectBrief) :
    (store.describeScope metadata).layout =
      store.layout.setDescriptor metadata.projectId
        (scopedIdentity metadata (store.descriptor metadata.projectId)) := by
  unfold FileStore.describeScope FileStore.layout Files.setDescriptor
  rw [if_pos hbrief]
  congr 1
  funext project
  by_cases hproject : project = metadata.projectId <;> simp [hproject]

/-- Without faults the descriptor is written. -/
theorem scopeProject_sound (store : FileStore) :
    scopeProject metadata (store.layout, []) =
      .ok () ((store.describeScope metadata).layout, []) := by
  unfold scopeProject
  by_cases hbrief : metadata.kind = .projectBrief
  · rw [if_pos hbrief, layout_describeScope hbrief]
    unfold describeProject quietly
    rw [bind_of_ok (attempt_sound id)]
    change (match store.layout.descriptor metadata.projectId with
      | .garbled => throw ⟨.valueError, ""⟩
      | .missing => attempt osError fun files =>
          files.setDescriptor metadata.projectId (scopedIdentity metadata none)
      | .whole identity => attempt osError fun files =>
          files.setDescriptor metadata.projectId (scopedIdentity metadata (some identity)) :
        FileM Unit) _ = _
    simp only [FileStore.layout]
    cases store.descriptor metadata.projectId <;> rfl
  · rw [if_neg hbrief, FileStore.describeScope, if_neg hbrief]
    rfl

/-- Without faults the manifest and the content are whole. -/
theorem replaceFiles_sound (files : Files) :
    replaceFiles request metadata (files, []) =
      .ok () (files.modify metadata.destination fun directory =>
        { directory with
          manifest := .whole metadata
          content := .whole request.content
          markdown := .whole (rstrip request.markdown ++ "\n") }, []) := by
  unfold replaceFiles quietly
  rw [bind_of_ok (attempt_sound id), bind_of_ok (onDirectory_sound _ _),
    bind_of_ok (onDirectory_sound _ _), onDirectory_sound, modify_modify, modify_modify]
  rfl

/-- The temporary tree can be written if the files can be laid out. -/
theorem writeTree_apply (nameMax : Nat) (bundle : SourceBundle) (files : Files) :
    writeTree nameMax bundle (files, []) =
      if (bundle.materialize nameMax).isSome then .ok () (files, [])
      else .error osError (files, []) := by
  have hquiet : ∀ items : List SourceFile,
      (items.forM fun _ => quietly) (files, []) = .ok () (files, []) := by
    intro items
    induction items with
    | nil => rfl
    | cons _ rest ih => exact (bind_of_ok (attempt_sound id) _).trans ih
  unfold writeTree
  rw [bind_of_ok (hquiet bundle.files)]
  split <;> rfl

/-- The directory once the files of a release are in place. -/
def Directory.release (directory : Directory) : Option SourceBundle → Directory
  | none => directory
  | some bundle => { directory with source := .whole bundle }

/-- Without faults the release files are laid out beside them. -/
theorem releaseFiles_sound {source : Option SourceBundle} (files : Files) (location : Location)
    (hplaced : platform.laysOut source = true) :
    releaseFiles platform.nameMax location source (files, []) =
      .ok () (files.modify location fun directory => directory.release source, []) := by
  cases source with
  | none =>
      have hsame : (files.modify location fun directory => directory) = files := by
        simp only [Files.modify, ite_self]
      exact congrArg (fun next => EStateM.Result.ok () (next, [])) hsame.symm
  | some bundle =>
      change (writeTree platform.nameMax bundle >>= fun _ => swapTree location bundle)
        (files, []) = _
      have hwritten : writeTree platform.nameMax bundle (files, []) = .ok () (files, []) := by
        rw [writeTree_apply]
        exact if_pos hplaced
      rw [bind_of_ok hwritten]
      have hremoved : swapTree location bundle (files, []) =
          (match ((((files.modify location fun directory =>
              { directory with source := .garbled }).modify location fun directory =>
                directory.remove .source).directories location).source) with
            | .missing => onDirectory location fun directory =>
                { directory with source := .whole bundle }
            | .garbled | .whole _ => throw osError : FileM Unit)
          (((files.modify location fun directory =>
              { directory with source := .garbled }).modify location fun directory =>
                directory.remove .source), []) := rfl
      have hgone : ∀ change, (((files.modify location change).modify location fun directory =>
          directory.remove .source).directories location).source = .missing := by
        intro change
        simp only [Files.modify, if_true, Directory.remove]
      simp only [hremoved, hgone]
      rw [onDirectory_sound, modify_modify, modify_modify]
      rfl

theorem layout_published (store : FileStore) (source : Option SourceBundle) :
    (store.layout.modify metadata.destination fun directory =>
      Directory.release
        { directory with
          manifest := .whole metadata
          content := .whole request.content
          markdown := .whole (rstrip request.markdown ++ "\n") } source) =
      (store.put metadata.destination (publishedFiles store request metadata source)).layout := by
  rw [layout_put]
  unfold Files.modify
  congr 1
  funext other
  by_cases hother : other = metadata.destination
  · subst hother
    rw [if_pos rfl, if_pos rfl]
    simp only [FileStore.layout, publishedFiles, Directory.ofStored]
    cases source with
    | none => cases hstored : store.files metadata.destination <;> rfl
    | some bundle => rfl
  · rw [if_neg hother, if_neg hother]

/-- Release files that cannot be laid out make a write raise after it has begun. -/
theorem releaseFiles_raises {source : Option SourceBundle} (files : Files) (location : Location)
    (hclash : platform.laysOut source = false) :
    releaseFiles platform.nameMax location source (files, []) = .error osError (files, []) := by
  cases source with
  | none => cases hclash
  | some bundle =>
      apply bind_of_error
      rw [writeTree_apply]
      exact if_neg (Bool.eq_false_iff.mp hclash)

/-- The dependents of a write are cleared among the ones that are listed. -/
theorem clearDependents_sound (listing : List Location) (store : FileStore) :
    clearDependents metadata listing order (store.layout, []) =
      .ok () ((if metadata.currentSnapshot then
        store.clearListed metadata.projectId metadata.kind listing else store).layout, []) := by
  unfold clearDependents
  split
  · exact invalidateCurrent_sound listing store
  · rfl

variable (platform request metadata order) in
/-- The body of a write up to the release files. -/
theorem publish_apply (source : Option SourceBundle) (listing : List Location)
    (store : FileStore) :
    ∃ cleared : FileStore,
      cleared = (if metadata.currentSnapshot then
        store.clearListed metadata.projectId metadata.kind listing else store) ∧
      publish platform request metadata source listing order (store.layout, []) =
        (do
          releaseFiles platform.nameMax metadata.destination source
          scopeProject metadata
          return ⟨metadata, metadata.destination⟩ : FileM ArtifactRecord)
          (cleared.layout.modify metadata.destination fun directory =>
            { directory with
              manifest := .whole metadata
              content := .whole request.content
              markdown := .whole (rstrip request.markdown ++ "\n") }, []) := by
  refine ⟨_, rfl, ?_⟩
  unfold publish quietly
  rw [bind_of_ok (attempt_sound id)]
  simp only [id]
  rw [bind_of_ok (clearDependents_sound listing store), bind_of_ok (replaceFiles_sound _)]

variable (request metadata order) in
/-- Without faults a publication has exactly the effect of the abstract store. -/
theorem publish_sound {source : Option SourceBundle} (listing : List Location)
    (store : FileStore) (hplaced : platform.laysOut source = true) :
    ∃ cleared : FileStore,
      cleared = (if metadata.currentSnapshot then
        store.clearListed metadata.projectId metadata.kind listing else store) ∧
      publish platform request metadata source listing order (store.layout, []) =
        .ok ⟨metadata, metadata.destination⟩ (((cleared.put metadata.destination
          (publishedFiles cleared request metadata source)).describeScope metadata).layout, []) := by
  obtain ⟨cleared, hcleared, hpublish⟩ :=
    publish_apply platform request metadata order source listing store
  refine ⟨cleared, hcleared, ?_⟩
  rw [hpublish, bind_of_ok (releaseFiles_sound _ _ hplaced), modify_modify, layout_published,
    bind_of_ok (scopeProject_sound _)]
  rfl

/-- Without faults a write performs the single step of the artifact store, where the
listing is complete. -/
theorem write_refines {artifactId : ArtifactId} {createdAt : Nat} {record : ArtifactRecord}
    {listing : List Location}
    (hwrite : store.write platform request artifactId createdAt = .ok (record, next))
    (hlisted : ∀ location stored, store.files location = some stored →
      location.isCurrent = true → location.project = record.metadata.projectId →
      location ∈ listing) :
    Files.write platform request artifactId createdAt listing order (store.layout, []) =
      .ok record (next.layout, []) := by
  obtain ⟨source, hchecked, hplaced, hmetadata, hpath, hnext⟩ := write_eq_ok.mp hwrite
  obtain ⟨metadata, path⟩ := record
  dsimp only at hmetadata hpath hnext hlisted
  subst hpath
  obtain ⟨cleared, hcleared, hpublish⟩ :=
    publish_sound request metadata order listing store hplaced
  rw [clearListed_complete hlisted] at hcleared
  unfold Files.write
  simp only [hchecked, ← hmetadata]
  rw [hpublish, hnext, hcleared]

/-- Without faults a write returns where the artifact store takes the request, whatever
the listing. -/
theorem write_returns_iff {artifactId : ArtifactId} {createdAt : Nat} {listing : List Location} :
    (∃ record after, Files.write platform request artifactId createdAt listing order
        (store.layout, []) = .ok record after) ↔
      ∃ source, checkRequest request = .ok source ∧ platform.laysOut source = true := by
  unfold Files.write
  cases hchecked : checkRequest request with
  | error error =>
      dsimp only
      constructor
      · rintro ⟨record, after, hwritten⟩
        cases hwritten
      · rintro ⟨source, hsource, -⟩
        cases hsource
  | ok source =>
      simp only [Except.ok.injEq, exists_eq_left']
      constructor
      · rintro ⟨record, after, hwritten⟩
        by_contra hclash
        rw [Bool.not_eq_true] at hclash
        obtain ⟨cleared, -, hpublish⟩ := publish_apply platform request
          (ArtifactMetadata.ofRequest platform request artifactId createdAt) order source listing
          store
        rw [hpublish, bind_of_error (releaseFiles_raises _ _ hclash)] at hwritten
        cases hwritten
      · intro hplaced
        obtain ⟨cleared, -, hpublish⟩ := publish_sound request
          (ArtifactMetadata.ofRequest platform request artifactId createdAt) order listing store
          hplaced
        exact ⟨_, _, hpublish⟩

/-- Readers see the same artifacts in both. -/
theorem readContent_refines (store : FileStore) (record : ArtifactRecord) :
    store.layout.readContent platform record = store.readContent platform record := by
  simp only [Files.readContent, FileStore.readContent, FileStore.layout]
  cases store.files record.contentPath <;> rfl

end Refinement

end Aidlc
