import Aidlc.Storage.Validity
import Aidlc.Foundation.Transition
import Aidlc.Foundation.TwoPhase

/-! # Interleaved publication

Any number of publishers write artifacts and later add the records they got
back; each of the two is one step, and the steps of different publishers
interleave freely. The system refines two-phase publication: writing takes the
slot of a snapshot and clears the snapshots it invalidates, adding inserts the
row and deletes the rows it displaces.
-/

namespace Aidlc

open Foundation

/-- `pending` holds the records written and not yet added. -/
structure Publishers where
  stores : Stores
  pending : List ArtifactRecord

def Publishers.start : Publishers := ⟨.empty, []⟩

/-- `add` runs `add_artifact`, whose own checks decide whether it raises;
`addFails` is an add that the database itself refuses. -/
inductive PublicationLabel where
  | update (change : Database → Database)
  | write (request : WriteRequest) (now : Nat)
  | add (record : ArtifactRecord)
  | addFails (record : ArtifactRecord)

/-- The run a label publishes for. -/
def PublicationLabel.runId : PublicationLabel → Option RunId
  | .update _ => none
  | .write request _ => some request.runId
  | .add record | .addFails record => some record.metadata.workflowRunId

/-- A statement on the other tables; the foreign key keeps the runs of all rows. -/
def Database.KeepsArtifacts (database next : Database) : Prop :=
  next.artifacts = database.artifacts ∧
    ∀ row ∈ database.artifacts, next.hasRun row.metadata.workflowRunId = true

instance (database next : Database) : Decidable (database.KeepsArtifacts next) := by
  unfold Database.KeepsArtifacts
  infer_instance

variable (platform : Platform)

def publication : System Publishers PublicationLabel where
  step publishers label :=
    match label with
    | .update change =>
        if publishers.stores.database.KeepsArtifacts (change publishers.stores.database) then
          some { publishers with
            stores := { publishers.stores with database := change publishers.stores.database } }
        else none
    | .write request now =>
        match writeArtifact platform request now publishers.stores with
        | .ok record next => some ⟨next, publishers.pending ++ [record]⟩
        | .error _ next => some { publishers with stores := next }
    | .add record =>
        if record ∈ publishers.pending then
          match addArtifact platform record publishers.stores with
          | .ok _ next => some ⟨next, publishers.pending.erase record⟩
          | .error _ next => some ⟨next, publishers.pending.erase record⟩
        else none
    | .addFails record =>
        if record ∈ publishers.pending then
          some { publishers with pending := publishers.pending.erase record }
        else none

structure Publishers.Valid (publishers : Publishers) : Prop where
  stores : publishers.stores.Valid platform
  rows_run : ∀ row ∈ publishers.stores.database.artifacts,
    publishers.stores.database.hasRun row.metadata.workflowRunId = true
  pending_written : ∀ record ∈ publishers.pending,
    ∃ content, (record, content) ∈ publishers.stores.written
  pending_nodup : publishers.pending.Nodup
  pending_unindexed : ∀ record ∈ publishers.pending,
    record ∉ publishers.stores.database.artifacts

variable {platform}

theorem Publishers.valid_start : Publishers.start.Valid platform where
  stores := valid_empty
  rows_run := by simp [Publishers.start, Stores.empty, Database.empty]
  pending_written := by simp [Publishers.start]
  pending_nodup := List.nodup_nil
  pending_unindexed := by simp [Publishers.start]

/-- How one label changes the publishers. -/
inductive Outcome (platform : Platform) (publishers : Publishers) :
    PublicationLabel → Publishers → Prop
  | updated (change : Database → Database)
      (hkeeps : publishers.stores.database.KeepsArtifacts (change publishers.stores.database)) :
      Outcome platform publishers (.update change)
        { publishers with
          stores := { publishers.stores with database := change publishers.stores.database } }
  | refused (request : WriteRequest) (now : Nat) :
      Outcome platform publishers (.write request now) publishers
  | written (request : WriteRequest) (now : Nat) (record : ArtifactRecord) (stores : Stores)
      (hwritten : Written platform request publishers.stores stores record) :
      Outcome platform publishers (.write request now) ⟨stores, publishers.pending ++ [record]⟩
  | added (record : ArtifactRecord) (stores : Stores) (hpending : record ∈ publishers.pending)
      (hadd : addArtifact platform record publishers.stores = .ok () stores) :
      Outcome platform publishers (.add record) ⟨stores, publishers.pending.erase record⟩
  | raised (record : ArtifactRecord) (stores : Stores) (error : PyError)
      (hpending : record ∈ publishers.pending)
      (hadd : addArtifact platform record publishers.stores = .error error stores) :
      Outcome platform publishers (.add record) ⟨stores, publishers.pending.erase record⟩
  | failed (record : ArtifactRecord) (hpending : record ∈ publishers.pending) :
      Outcome platform publishers (.addFails record)
        { publishers with pending := publishers.pending.erase record }

theorem outcome_of_step {publishers next : Publishers} {label : PublicationLabel}
    (hstep : (publication platform).step publishers label = some next) :
    Outcome platform publishers label next := by
  cases label with
  | update change =>
      simp only [publication, Option.ite_none_right_eq_some, Option.some.injEq] at hstep
      obtain ⟨hkeeps, rfl⟩ := hstep
      exact .updated change hkeeps
  | write request now =>
      simp only [publication] at hstep
      cases hwrite : writeArtifact platform request now publishers.stores with
      | ok record stores =>
          simp only [hwrite, Option.some.injEq] at hstep
          subst hstep
          exact .written request now record stores (written_of_writeArtifact hwrite)
      | error error stores =>
          simp only [hwrite, Option.some.injEq] at hstep
          rw [writeArtifact_error hwrite] at hstep
          subst hstep
          exact .refused request now
  | add record =>
      simp only [publication, Option.ite_none_right_eq_some] at hstep
      obtain ⟨hpending, hstep⟩ := hstep
      cases hadd : addArtifact platform record publishers.stores with
      | ok value stores =>
          simp only [hadd, Option.some.injEq] at hstep
          subst hstep
          exact .added record stores hpending hadd
      | error error stores =>
          simp only [hadd, Option.some.injEq] at hstep
          subst hstep
          exact .raised record stores error hpending hadd
  | addFails record =>
      simp only [publication, Option.ite_none_right_eq_some, Option.some.injEq] at hstep
      obtain ⟨hpending, rfl⟩ := hstep
      exact .failed record hpending

theorem Publishers.Valid.erase {publishers : Publishers} (hvalid : publishers.Valid platform)
    (record : ArtifactRecord) :
    Publishers.Valid platform { publishers with pending := publishers.pending.erase record } where
  stores := hvalid.stores
  rows_run := hvalid.rows_run
  pending_written := fun other hother => hvalid.pending_written other (List.mem_of_mem_erase hother)
  pending_nodup := hvalid.pending_nodup.erase record
  pending_unindexed :=
    fun other hother => hvalid.pending_unindexed other (List.mem_of_mem_erase hother)

theorem Publishers.Valid.path_project {publishers : Publishers}
    (hvalid : publishers.Valid platform) {record : ArtifactRecord}
    (hpending : record ∈ publishers.pending) :
    record.contentPath.project = record.metadata.projectId := by
  obtain ⟨content, hmem⟩ := hvalid.pending_written record hpending
  exact (hvalid.stores.published record content hmem).path_project

/-- One step of any publisher keeps the publishers valid. -/
theorem Publishers.Valid.step {publishers next : Publishers} {label : PublicationLabel}
    (hvalid : publishers.Valid platform)
    (hstep : (publication platform).step publishers label = some next) :
    next.Valid platform := by
  cases outcome_of_step hstep with
  | updated change hkeeps =>
      exact
        { stores := hvalid.stores.update hkeeps.1
          rows_run := fun row hrow => hkeeps.2 row (hkeeps.1 ▸ hrow)
          pending_written := hvalid.pending_written
          pending_nodup := hvalid.pending_nodup
          pending_unindexed := fun record hrecord hrow =>
            hvalid.pending_unindexed record hrecord (hkeeps.1 ▸ hrow) }
  | refused => exact hvalid
  | written request now record stores hwritten =>
      -- The new record has the next number, so it is none of the old ones.
      have hnew : ∀ other content, (other, content) ∈ publishers.stores.written →
          other ≠ record := by
        rintro other content hmem rfl
        exact Nat.lt_irrefl _ (hwritten.fresh ▸ hvalid.stores.artifactId_lt hmem)
      constructor
      · exact hvalid.stores.write hwritten
      · rw [hwritten.database]
        exact hvalid.rows_run
      · intro other hother
        rw [hwritten.written]
        rcases List.mem_append.mp hother with hold | hlast
        · obtain ⟨content, hmem⟩ := hvalid.pending_written other hold
          exact ⟨content, List.mem_append_left _ hmem⟩
        · rw [List.mem_singleton.mp hlast]
          exact ⟨_, List.mem_append_right _ List.mem_cons_self⟩
      · refine List.nodup_append.mpr ⟨hvalid.pending_nodup, List.nodup_singleton _, ?_⟩
        intro other hother last hlast
        obtain ⟨content, hmem⟩ := hvalid.pending_written other hother
        rw [List.mem_singleton.mp hlast]
        exact hnew other content hmem
      · intro other hother hrow
        rw [hwritten.database] at hrow
        rcases List.mem_append.mp hother with hold | hlast
        · exact hvalid.pending_unindexed other hold hrow
        · obtain ⟨content, hmem⟩ := hvalid.stores.rows_written other hrow
          exact hnew other content hmem (List.mem_singleton.mp hlast)
  | added record stores hpending hadd =>
      obtain ⟨hfiles, hwritten, hinsert, -⟩ := addArtifact_ok hadd
      obtain ⟨content, hmem⟩ := hvalid.pending_written record hpending
      obtain ⟨hrun, -, hrows⟩ := insertArtifact_ok hinsert
      have hruns : ∀ runId, stores.database.hasRun runId =
          publishers.stores.database.hasRun runId := Database.hasRun_congr (by rw [hrows])
      -- An add may displace rows but brings in only its own.
      have hcases : ∀ row ∈ stores.database.artifacts,
          row ∈ publishers.stores.database.artifacts ∨ row = record := by
        intro row hrow
        rw [hrows, List.mem_append, List.mem_singleton] at hrow
        exact hrow.imp_left List.mem_of_mem_filter
      constructor
      · exact hvalid.stores.insert hmem hfiles hwritten hinsert
      · intro row hrow
        rw [hruns]
        rcases hcases row hrow with hold | rfl
        · exact hvalid.rows_run row hold
        · exact hrun
      · intro other hother
        rw [hwritten]
        exact hvalid.pending_written other (List.mem_of_mem_erase hother)
      · exact hvalid.pending_nodup.erase record
      · intro other hother hrow
        rcases hcases other hrow with hold | rfl
        · exact hvalid.pending_unindexed other (List.mem_of_mem_erase hother) hold
        · exact hvalid.pending_nodup.not_mem_erase hother
  | raised record stores error hpending hadd =>
      rw [(addArtifact_error (hvalid.path_project hpending) hadd).1]
      exact hvalid.erase record
  | failed record hpending => exact hvalid.erase record

theorem valid_of_run {labels : List PublicationLabel} {last : Publishers}
    (hrun : (publication platform).run .start labels = some last) : last.Valid platform :=
  (publication platform).run_invariant (Publishers.Valid platform)
    (fun _ _ _ hvalid hstep => hvalid.step hstep) Publishers.valid_start hrun

end Aidlc
