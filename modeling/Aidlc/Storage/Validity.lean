import Aidlc.Storage.Stores
import Mathlib.Data.List.Nodup

/-! # What the stores always satisfy

Every file and every row comes from a completed write, identifiers are never
reused, and individual records stay on disk. These facts hold whatever is
published in whatever order, and whatever adds fail.
-/

namespace Aidlc

open Foundation

variable (platform : Platform)

/-- A record as the write of a content returned it. -/
structure Published (record : ArtifactRecord) (content : Json) : Prop where
  project : record.metadata.projectId = platform.projectIdForRun record.metadata.workflowRunId
  path : record.contentPath = record.metadata.destination
  snapshot : record.metadata.currentSnapshot =
    isSnapshot record.metadata.kind record.metadata.producingAgent
  hash : record.metadata.contentSha256 = platform.sha256 content

/-- The files at the path of a record are those its own write published. -/
def Stores.Live (stores : Stores) (record : ArtifactRecord) : Prop :=
  ∃ stored, stores.files.files record.contentPath = some stored ∧ stored.manifest = record.metadata

structure Stores.Valid (stores : Stores) : Prop where
  published : ∀ record content, (record, content) ∈ stores.written →
    Published platform record content
  identifiers : stores.written.map (fun entry => entry.1.metadata.artifactId) =
    List.range stores.written.length
  files_written : ∀ location stored, stores.files.files location = some stored →
    ∃ record, (record, stored.content) ∈ stores.written ∧ record.contentPath = location ∧
      record.metadata = stored.manifest
  records_live : ∀ record content, (record, content) ∈ stores.written →
    record.metadata.currentSnapshot = false → stores.Live record
  rows_written : ∀ row ∈ stores.database.artifacts, ∃ content, (row, content) ∈ stores.written
  rows_nodup : (stores.database.artifacts.map fun row => row.metadata.artifactId).Nodup

variable {platform}

theorem destination_project (metadata : ArtifactMetadata) :
    metadata.destination.project = metadata.projectId := by
  unfold ArtifactMetadata.destination
  split <;> rfl

theorem Published.path_project {record : ArtifactRecord} {content : Json}
    (hpublished : Published platform record content) :
    record.contentPath.project = record.metadata.projectId := by
  rw [hpublished.path, destination_project]

namespace Stores.Valid

variable {stores : Stores}

theorem artifactId_lt (hvalid : stores.Valid platform) {record : ArtifactRecord} {content : Json}
    (hmem : (record, content) ∈ stores.written) :
    record.metadata.artifactId < stores.written.length := by
  have hid : record.metadata.artifactId ∈
      stores.written.map (fun entry => entry.1.metadata.artifactId) :=
    List.mem_map.mpr ⟨(record, content), hmem, rfl⟩
  rw [hvalid.identifiers] at hid
  exact List.mem_range.mp hid

/-- An identifier determines its record and the content it was given. -/
theorem eq_of_artifactId (hvalid : stores.Valid platform) {first second : ArtifactRecord × Json}
    (hfirst : first ∈ stores.written) (hsecond : second ∈ stores.written)
    (hid : first.1.metadata.artifactId = second.1.metadata.artifactId) : first = second := by
  have hnodup : (stores.written.map fun entry => entry.1.metadata.artifactId).Nodup := by
    rw [hvalid.identifiers]
    exact List.nodup_range
  exact List.inj_on_of_nodup_map hnodup hfirst hsecond hid

/-- A record whose files are in place reads back what its write was given. -/
theorem readContent_of_live (hvalid : stores.Valid platform) {record : ArtifactRecord}
    {content : Json} (hmem : (record, content) ∈ stores.written) (hlive : stores.Live record) :
    stores.files.readContent platform record = .ok content := by
  obtain ⟨stored, hstored, hmanifest⟩ := hlive
  obtain ⟨writer, hwriter, -, hmetadata⟩ := hvalid.files_written _ _ hstored
  have hsame := hvalid.eq_of_artifactId hwriter hmem (by simp [hmetadata, hmanifest])
  have hcontent : stored.content = content := (Prod.mk.inj hsame).2
  have hhash := (hvalid.published record content hmem).hash
  simp [FileStore.readContent, hstored, hmanifest, hcontent, hhash]

/-- Only a record whose files are in place can be read. -/
theorem live_of_readContent (hvalid : stores.Valid platform) {record : ArtifactRecord}
    {content result : Json} (hmem : (record, content) ∈ stores.written)
    (hread : stores.files.readContent platform record = .ok result) : stores.Live record := by
  unfold FileStore.readContent at hread
  cases hstored : stores.files.files record.contentPath with
  | none => simp [hstored] at hread
  | some stored =>
      refine ⟨stored, hstored, ?_⟩
      obtain ⟨writer, hwriter, -, hmetadata⟩ := hvalid.files_written _ _ hstored
      by_cases hid : stored.manifest.artifactId = record.metadata.artifactId
      · have hsame := hvalid.eq_of_artifactId hwriter hmem (by simp [hmetadata, hid])
        rw [← hmetadata, (Prod.mk.inj hsame).1]
      · simp [hstored, hid] at hread

end Stores.Valid

/-- A completed write in terms of the stores before and after it. -/
structure Written (platform : Platform) (request : WriteRequest) (stores next : Stores)
    (record : ArtifactRecord) : Prop where
  published : Published platform record request.content
  fresh : record.metadata.artifactId = stores.written.length
  runId : record.metadata.workflowRunId = request.runId
  kind : record.metadata.kind = request.kind
  producingAgent : record.metadata.producingAgent = request.producingAgent
  stage : record.metadata.stageId = request.stage
  parents : record.metadata.parentArtifactIds = request.parentArtifactIds
  execution : record.metadata.execution = request.execution
  written : next.written = stores.written ++ [(record, request.content)]
  database : next.database = stores.database
  files_self : ∃ stored, next.files.files record.contentPath = some stored ∧
    stored.manifest = record.metadata ∧ stored.content = request.content
  files_other : ∀ location, location ≠ record.contentPath → ∀ stored,
    next.files.files location = some stored ↔
      stores.files.files location = some stored ∧ clears record location stored = false
  descriptor_other : ∀ project, project ≠ record.metadata.projectId →
    next.files.descriptor project = stores.files.descriptor project

theorem written_of_writeArtifact {request : WriteRequest} {now : Nat} {stores next : Stores}
    {record : ArtifactRecord}
    (hwrite : writeArtifact platform request now stores = .ok record next) :
    Written platform request stores next record := by
  obtain ⟨hfiles, hwritten, hdatabase⟩ := writeArtifact_ok hwrite
  obtain ⟨-, hmetadata, hpath, -⟩ := write_cases hfiles
  exact
    { published := ⟨by rw [hmetadata]; rfl, hpath, by rw [hmetadata]; rfl, by rw [hmetadata]; rfl⟩
      fresh := by rw [hmetadata]; rfl
      runId := by rw [hmetadata]; rfl
      kind := by rw [hmetadata]; rfl
      producingAgent := by rw [hmetadata]; rfl
      stage := by rw [hmetadata]; rfl
      parents := by rw [hmetadata]; rfl
      execution := by rw [hmetadata]; rfl
      written := hwritten
      database := hdatabase
      files_self := write_files_self hfiles
      files_other := fun location hne stored => write_files_of_ne hfiles hne stored
      descriptor_other := fun project hne => write_descriptor_of_ne hfiles hne }

/-- The path of an individual record is no snapshot slot. -/
theorem Published.path_not_current {record : ArtifactRecord} {content : Json}
    (hpublished : Published platform record content)
    (hsnapshot : record.metadata.currentSnapshot = false) : record.contentPath =
      .record record.metadata.projectId record.metadata.stageId record.metadata.artifactId := by
  rw [hpublished.path, ArtifactMetadata.destination, hsnapshot]
  rfl

theorem Published.path_current {record : ArtifactRecord} {content : Json}
    (hpublished : Published platform record content)
    (hsnapshot : record.metadata.currentSnapshot = true) : record.contentPath =
      .current record.metadata.projectId record.metadata.stageId record.metadata.producingAgent
        record.metadata.kind := by
  rw [hpublished.path, ArtifactMetadata.destination, hsnapshot]
  rfl

/-- Files found after a write at another path were there before. -/
theorem Written.live_other {request : WriteRequest} {stores next : Stores}
    {record other : ArtifactRecord}
    (hwritten : Written platform request stores next record)
    (hpath : other.contentPath ≠ record.contentPath) (hlive : next.Live other) :
    stores.Live other := by
  obtain ⟨stored, hstored, hmanifest⟩ := hlive
  exact ⟨stored, ((hwritten.files_other _ hpath stored).mp hstored).1, hmanifest⟩

theorem valid_empty : Stores.empty.Valid platform := by
  constructor <;> simp [Stores.empty, FileStore.empty, Database.empty]

namespace Stores.Valid

variable {stores next : Stores} {record : ArtifactRecord}

theorem write {request : WriteRequest} (hvalid : stores.Valid platform)
    (hwritten : Written platform request stores next record) :
    next.Valid platform where
  published := by
    intro other content hmem
    rw [hwritten.written, List.mem_append, List.mem_singleton, Prod.mk.injEq] at hmem
    rcases hmem with hmem | ⟨rfl, rfl⟩
    · exact hvalid.published other content hmem
    · exact hwritten.published
  identifiers := by
    rw [hwritten.written, List.map_append, hvalid.identifiers, List.length_append,
      List.length_singleton, List.range_succ, List.map_singleton, hwritten.fresh]
  files_written := by
    intro location stored hstored
    by_cases hpath : location = record.contentPath
    · obtain ⟨own, hown, hmanifest, hcontent⟩ := hwritten.files_self
      rw [hpath, hown, Option.some.injEq] at hstored
      subst hstored
      refine ⟨record, ?_, hpath.symm, hmanifest.symm⟩
      rw [hwritten.written, hcontent]
      exact List.mem_append_right _ List.mem_cons_self
    · obtain ⟨hbefore, -⟩ := (hwritten.files_other location hpath stored).mp hstored
      obtain ⟨writer, hmem, hwriter⟩ := hvalid.files_written location stored hbefore
      refine ⟨writer, ?_, hwriter⟩
      rw [hwritten.written]
      exact List.mem_append_left _ hmem
  records_live := by
    intro other content hmem hsnapshot
    rw [hwritten.written, List.mem_append, List.mem_singleton, Prod.mk.injEq] at hmem
    rcases hmem with hmem | ⟨rfl, rfl⟩
    · obtain ⟨stored, hstored, hmanifest⟩ := hvalid.records_live other content hmem hsnapshot
      have hother := (hvalid.published other content hmem).path_not_current hsnapshot
      -- The new identifier is fresh, so the record cannot share its directory.
      have hpath : other.contentPath ≠ record.contentPath := by
        intro heq
        have hlt := hvalid.artifactId_lt hmem
        cases hkind : record.metadata.currentSnapshot with
        | true =>
            rw [hother, hwritten.published.path_current hkind] at heq
            simp at heq
        | false =>
            rw [hother, hwritten.published.path_not_current hkind, Location.record.injEq] at heq
            exact absurd (heq.2.2.trans hwritten.fresh) (Nat.ne_of_lt hlt)
      refine ⟨stored, (hwritten.files_other _ hpath stored).mpr ⟨hstored, ?_⟩, hmanifest⟩
      rw [hother]
      simp [clears, invalidates, Location.isCurrent]
    · obtain ⟨stored, hstored, hmanifest, -⟩ := hwritten.files_self
      exact ⟨stored, hstored, hmanifest⟩
  rows_written := by
    intro row hrow
    rw [hwritten.database] at hrow
    obtain ⟨content, hmem⟩ := hvalid.rows_written row hrow
    refine ⟨content, ?_⟩
    rw [hwritten.written]
    exact List.mem_append_left _ hmem
  rows_nodup := by
    rw [hwritten.database]
    exact hvalid.rows_nodup

theorem insert (hvalid : stores.Valid platform) {content : Json}
    (hmem : (record, content) ∈ stores.written) (hfiles : next.files = stores.files)
    (hwritten : next.written = stores.written)
    (hinsert : stores.database.insertArtifact record = .ok next.database) :
    next.Valid platform where
  published := by
    rw [hwritten]
    exact hvalid.published
  identifiers := by
    rw [hwritten]
    exact hvalid.identifiers
  files_written := by
    rw [hwritten, hfiles]
    exact hvalid.files_written
  records_live := by
    intro other otherContent hother hsnapshot
    rw [hwritten] at hother
    obtain ⟨stored, hstored, hmanifest⟩ := hvalid.records_live other otherContent hother hsnapshot
    exact ⟨stored, by rw [hfiles]; exact hstored, hmanifest⟩
  rows_written := by
    obtain ⟨-, -, hrows⟩ := insertArtifact_ok hinsert
    intro row hrow
    rw [hrows, List.mem_append, List.mem_singleton] at hrow
    rw [hwritten]
    rcases hrow with hrow | rfl
    · exact hvalid.rows_written row (List.mem_of_mem_filter hrow)
    · exact ⟨content, hmem⟩
  rows_nodup := by
    obtain ⟨-, hfresh, hrows⟩ := insertArtifact_ok hinsert
    rw [hrows, List.map_append, List.map_singleton, List.nodup_append]
    refine ⟨hvalid.rows_nodup.sublist (List.filter_sublist.map _), List.nodup_singleton _, ?_⟩
    intro first hfirst second hsecond heq
    obtain ⟨row, hrow, rfl⟩ := List.mem_map.mp hfirst
    exact hfresh row hrow (heq.trans (List.mem_singleton.mp hsecond))

/-- Changes of the other tables keep the stores valid. -/
theorem update (hvalid : stores.Valid platform) {database : Database}
    (hrows : database.artifacts = stores.database.artifacts) :
    Stores.Valid platform { stores with database } where
  published := hvalid.published
  identifiers := hvalid.identifiers
  files_written := hvalid.files_written
  records_live := hvalid.records_live
  rows_written := by
    rw [hrows]
    exact hvalid.rows_written
  rows_nodup := by
    rw [hrows]
    exact hvalid.rows_nodup

end Stores.Valid

end Aidlc
