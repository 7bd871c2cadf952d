import Aidlc.Storage.Publication

/-! # Files and index agree

The publication system simulates two-phase publication: what is written and
stored are the snapshot files, what is indexed are the snapshot rows.
-/

namespace Aidlc

open Foundation TwoPhase

/-- Dependency and slot rules of snapshots, within one run. -/
def snapshotRules : Rules ArtifactRecord where
  overwrites later earlier :=
    later.metadata.currentSnapshot = true ∧ earlier.metadata.currentSnapshot = true ∧
      earlier.metadata.workflowRunId = later.metadata.workflowRunId ∧
      ((earlier.metadata.stageId = later.metadata.stageId ∧
          Database.sameSlot earlier.metadata later.metadata = true) ∨
        earlier.metadata.kind ∈ invalidatedKinds later.metadata.kind)
  displaces later earlier :=
    earlier.metadata.currentSnapshot = true ∧
      Database.displacedBy later.metadata earlier.metadata = true
  displaces_of_overwrites := by
    rintro later earlier ⟨hlater, hearlier, hrun, hslot | hkind⟩
    · simp [Database.displacedBy, hlater, hearlier, hrun, hslot.2]
    · simp [Database.displacedBy, hlater, hearlier, hrun, hkind]
  displaces_trans := by
    rintro later middle earlier ⟨hlater, hmiddle, hrun, hover⟩ ⟨hearlier, hdisplaced⟩
    simp only [Database.displacedBy, Database.sameSlot, Bool.and_eq_true, Bool.or_eq_true,
      beq_iff_eq, decide_eq_true_eq] at hdisplaced hover ⊢
    obtain ⟨⟨-, hsame⟩, hslot⟩ := hdisplaced
    refine ⟨hearlier, ⟨hlater, hsame.trans hrun⟩, ?_⟩
    rcases hover with ⟨-, hkind, hproducer⟩ | hover
    · rw [← hkind, ← hproducer]
      exact hslot
    · refine Or.inr ⟨hearlier, ?_⟩
      rcases hslot with ⟨hkind, -⟩ | ⟨-, hkind⟩
      · rw [hkind]
        exact hover
      · exact mem_invalidatedKinds_trans hover hkind

variable {platform : Platform}

/-- The two-phase view of the publishers: snapshots only. -/
def Publishers.image (publishers : Publishers) : State ArtifactRecord where
  written := (publishers.stores.written.map Prod.fst).filter
    fun record => record.metadata.currentSnapshot
  live := {record | record.metadata.currentSnapshot = true ∧ publishers.stores.Live record}
  indexed := {record | record.metadata.currentSnapshot = true ∧
    record ∈ publishers.stores.database.artifacts}
  pending := {record | record.metadata.currentSnapshot = true ∧ record ∈ publishers.pending}

/-- Whoever is found in place was written. -/
theorem Stores.Valid.written_of_live {stores : Stores} (hvalid : stores.Valid platform)
    {record : ArtifactRecord} (hlive : stores.Live record) :
    ∃ content, (record, content) ∈ stores.written := by
  obtain ⟨stored, hstored, hmanifest⟩ := hlive
  obtain ⟨writer, hmem, hpath, hmetadata⟩ := hvalid.files_written _ _ hstored
  refine ⟨stored.content, ?_⟩
  have hsame : writer = record := by
    cases writer
    cases record
    simp_all
  exact hsame ▸ hmem

section Write

variable {request : WriteRequest} {stores next : Stores} {record other : ArtifactRecord}

/-- Writing an individual record leaves every snapshot in place. -/
theorem Written.live_iff_of_record (hvalid : stores.Valid platform)
    (hwritten : Written platform request stores next record)
    (hsnapshot : record.metadata.currentSnapshot = false)
    (hother : other.metadata.currentSnapshot = true) : next.Live other ↔ stores.Live other := by
  have hpath : ∀ content, Published platform other content →
      other.contentPath ≠ record.contentPath := by
    intro content hpublished heq
    rw [hpublished.path_current hother, hwritten.published.path_not_current hsnapshot] at heq
    simp at heq
  constructor
  · intro hlive
    obtain ⟨content, hmem⟩ := (hvalid.write hwritten).written_of_live hlive
    exact hwritten.live_other (hpath content ((hvalid.write hwritten).published _ _ hmem)) hlive
  · intro hlive
    obtain ⟨content, hmem⟩ := hvalid.written_of_live hlive
    obtain ⟨stored, hstored, hmanifest⟩ := hlive
    refine ⟨stored, ?_, hmanifest⟩
    rw [hwritten.files_other _ (hpath content (hvalid.published _ _ hmem))]
    exact ⟨hstored, by simp [clears, hsnapshot]⟩

/-- A snapshot in place after a snapshot was written is the new one, or it was
in place before and the new one does not overwrite it. -/
theorem Written.live_of_snapshot (hvalid : stores.Valid platform)
    (hwritten : Written platform request stores next record)
    (hsnapshot : record.metadata.currentSnapshot = true)
    (hother : other.metadata.currentSnapshot = true) (hlive : next.Live other) :
    other = record ∨ (stores.Live other ∧ ¬ snapshotRules.overwrites record other) := by
  obtain ⟨content, hmem⟩ := (hvalid.write hwritten).written_of_live hlive
  have hpublished := (hvalid.write hwritten).published _ _ hmem
  by_cases hpath : other.contentPath = record.contentPath
  · left
    obtain ⟨stored, hstored, hmanifest⟩ := hlive
    obtain ⟨own, hown, hrecord, -⟩ := hwritten.files_self
    rw [hpath, hown, Option.some.injEq] at hstored
    subst hstored
    cases other
    cases record
    simp_all
  · right
    refine ⟨hwritten.live_other hpath hlive, ?_⟩
    rintro ⟨-, -, hrun, hover⟩
    obtain ⟨stored, hstored, hmanifest⟩ := hlive
    have hproject : other.metadata.projectId = record.metadata.projectId := by
      rw [hpublished.project, hwritten.published.project, hrun]
    rcases hover with ⟨hstage, hslot⟩ | hkind
    · apply hpath
      simp only [Database.sameSlot, Bool.and_eq_true, beq_iff_eq] at hslot
      rw [hpublished.path_current hother, hwritten.published.path_current hsnapshot, hproject,
        hstage, hslot.1, hslot.2]
    · -- The write removed every file of an invalidated kind in the project.
      have hkept := ((hwritten.files_other _ hpath stored).mp hstored).2
      rw [hpublished.path_current hother] at hkept
      simp [clears, invalidates, Location.isCurrent, Location.project, hsnapshot, hproject,
        hmanifest, hkind] at hkept

/-- When projects belong to one run each, writing removes nothing else. -/
theorem Written.live_of_not_overwritten
    (hproject : Function.Injective platform.projectIdForRun) (hvalid : stores.Valid platform)
    (hwritten : Written platform request stores next record)
    (hsnapshot : record.metadata.currentSnapshot = true)
    (hother : other.metadata.currentSnapshot = true) (hlive : stores.Live other)
    (hover : ¬ snapshotRules.overwrites record other) : next.Live other := by
  obtain ⟨content, hmem⟩ := hvalid.written_of_live hlive
  have hpublished := hvalid.published _ _ hmem
  obtain ⟨stored, hstored, hmanifest⟩ := hlive
  have hrun : other.metadata.projectId = record.metadata.projectId →
      other.metadata.workflowRunId = record.metadata.workflowRunId := by
    intro heq
    rw [hpublished.project, hwritten.published.project] at heq
    exact hproject heq
  have hpath : other.contentPath ≠ record.contentPath := by
    intro heq
    rw [hpublished.path_current hother, hwritten.published.path_current hsnapshot,
      Location.current.injEq] at heq
    obtain ⟨hsame, hstage, hproducer, hkind⟩ := heq
    exact hover ⟨hsnapshot, hother, hrun hsame, Or.inl ⟨hstage, by
      simp [Database.sameSlot, hkind, hproducer]⟩⟩
  refine ⟨stored, (hwritten.files_other _ hpath stored).mpr ⟨hstored, ?_⟩, hmanifest⟩
  rw [Bool.eq_false_iff]
  intro hclears
  simp only [clears, invalidates, Bool.and_eq_true, beq_iff_eq, decide_eq_true_eq,
    hpublished.path_project, hmanifest] at hclears
  exact hover ⟨hsnapshot, hother, hrun hclears.2.1.2, Or.inr hclears.2.2⟩

end Write

section Image

variable {publishers next : Publishers}

/-- A published record is no longer pending in the image. -/
theorem image_erase (hvalid : publishers.Valid platform) (record : ArtifactRecord) :
    Publishers.image { publishers with pending := publishers.pending.erase record } =
      { publishers.image with pending := publishers.image.pending \ {record} } := by
  ext other
  all_goals simp only [Publishers.image]
  simp only [Set.mem_ofPred_eq, Set.mem_sdiff, Set.mem_singleton_iff,
    hvalid.pending_nodup.mem_erase_iff]
  tauto

/-- Writing a snapshot stores it and whatever it does not overwrite, up to
files that another run cleared. -/
theorem image_write {request : WriteRequest} {stores : Stores} {record : ArtifactRecord}
    (hvalid : publishers.Valid platform)
    (hwritten : Written platform request publishers.stores stores record)
    (hsnapshot : record.metadata.currentSnapshot = true) :
    Publishers.image ⟨stores, publishers.pending ++ [record]⟩ =
      { publishers.image with
        written := publishers.image.written ++ [record]
        live := snapshotRules.store record publishers.image.live ∩ {other | stores.Live other}
        pending := insert record publishers.image.pending } := by
  ext other
  · simp [Publishers.image, hwritten.written, List.filter_append, hsnapshot]
  · simp only [Publishers.image, Rules.store, Set.mem_ofPred_eq, Set.mem_inter_iff,
      Set.mem_insert_iff]
    constructor
    · rintro ⟨hother, hlive⟩
      refine ⟨?_, hlive⟩
      rcases hwritten.live_of_snapshot hvalid.stores hsnapshot hother hlive with
        rfl | ⟨hbefore, hover⟩
      · exact Or.inl rfl
      · exact Or.inr ⟨⟨hother, hbefore⟩, hover⟩
    · rintro ⟨rfl | ⟨⟨hother, -⟩, -⟩, hlive⟩
      · exact ⟨hsnapshot, hlive⟩
      · exact ⟨hother, hlive⟩
  · simp [Publishers.image, hwritten.database]
  · simp only [Publishers.image, Set.mem_ofPred_eq, Set.mem_insert_iff, List.mem_append,
      List.mem_singleton]
    constructor
    · rintro ⟨hother, hold | rfl⟩
      · exact Or.inr ⟨hother, hold⟩
      · exact Or.inl rfl
    · rintro (rfl | ⟨hother, hold⟩)
      · exact ⟨hsnapshot, Or.inr rfl⟩
      · exact ⟨hother, Or.inl hold⟩

theorem image_write_record {request : WriteRequest} {stores : Stores} {record : ArtifactRecord}
    (hvalid : publishers.Valid platform)
    (hwritten : Written platform request publishers.stores stores record)
    (hsnapshot : record.metadata.currentSnapshot = false) :
    Publishers.image ⟨stores, publishers.pending ++ [record]⟩ = publishers.image := by
  ext other
  · simp [Publishers.image, hwritten.written, List.filter_append, hsnapshot]
  · simp only [Publishers.image, Set.mem_ofPred_eq]
    exact and_congr_right fun hother =>
      hwritten.live_iff_of_record hvalid.stores hsnapshot hother
  · simp [Publishers.image, hwritten.database]
  · simp only [Publishers.image, Set.mem_ofPred_eq, List.mem_append, List.mem_singleton]
    refine and_congr_right fun hother => or_iff_left ?_
    rintro rfl
    simp [hsnapshot] at hother

/-- A record that is written is new to the image. -/
theorem fresh_image {request : WriteRequest} {stores : Stores} {record : ArtifactRecord}
    (hvalid : publishers.Valid platform)
    (hwritten : Written platform request publishers.stores stores record) :
    record ∉ publishers.image.written := by
  intro hmem
  obtain ⟨⟨other, content⟩, hentry, rfl⟩ := List.mem_map.mp (List.mem_of_mem_filter hmem)
  exact Nat.lt_irrefl _ (hwritten.fresh ▸ hvalid.stores.artifactId_lt hentry)

/-- A completed add of a snapshot enters it and deletes the rows it displaces. -/
theorem image_add {stores : Stores} {record : ArtifactRecord} (hvalid : publishers.Valid platform)
    (hadd : addArtifact platform record publishers.stores = .ok () stores) :
    Publishers.image ⟨stores, publishers.pending.erase record⟩ =
      { publishers.image with
        indexed := if record.metadata.currentSnapshot then
          snapshotRules.enter record publishers.image.indexed else publishers.image.indexed
        pending := publishers.image.pending \ {record} } := by
  obtain ⟨hfiles, hwritten, hinsert, -⟩ := addArtifact_ok hadd
  obtain ⟨-, -, hrows⟩ := insertArtifact_ok hinsert
  have herase := image_erase hvalid record
  ext other
  · simp [Publishers.image, hwritten]
  · simp [Publishers.image, Stores.Live, hfiles]
  · cases hsnapshot : record.metadata.currentSnapshot with
    | true =>
        simp only [Publishers.image, hrows, Rules.enter, snapshotRules, Set.mem_ofPred_eq,
          List.mem_append, List.mem_singleton, Database.keptRows, List.mem_filter, if_true,
          Set.mem_insert_iff, Bool.not_eq_true', not_and, Bool.not_eq_true]
        constructor
        · rintro ⟨hother, ⟨hrow, hkept⟩ | rfl⟩
          · exact Or.inr ⟨⟨hother, hrow⟩, fun _ => hkept⟩
          · exact Or.inl rfl
        · rintro (rfl | ⟨⟨hother, hrow⟩, hkept⟩)
          · exact ⟨hsnapshot, Or.inr rfl⟩
          · exact ⟨hother, Or.inl ⟨hrow, hkept hother⟩⟩
    | false =>
        simp only [Publishers.image, hrows, Database.keptRows, Database.displacedBy, hsnapshot,
          Bool.false_and, Bool.not_false, List.filter_true, Set.mem_ofPred_eq, List.mem_append,
          List.mem_singleton, Bool.false_eq_true, if_false]
        refine and_congr_right fun hother => or_iff_left ?_
        rintro rfl
        simp [hsnapshot] at hother
  · exact Set.ext_iff.mp (congrArg State.pending herase) other

/-- An add that raises by its own checks had nothing to displace. -/
theorem harmless_of_raised {stores : Stores} {record : ArtifactRecord} {error : PyError}
    (hvalid : publishers.Valid platform) (hpending : record ∈ publishers.pending)
    (hadd : addArtifact platform record publishers.stores = .error error stores)
    (hlive : record ∈ publishers.image.live) :
    ∀ other ∈ publishers.image.indexed, ¬ snapshotRules.displaces record other := by
  rintro other ⟨hother, hrow⟩ ⟨-, hdisplaced⟩
  obtain ⟨content, hmem⟩ := hvalid.pending_written record hpending
  rcases (addArtifact_error (hvalid.path_project hpending) hadd).2 with
    ⟨-, hread⟩ | hinsert
  · rw [hvalid.stores.readContent_of_live hmem hlive.2] at hread
    simp at hread
  · -- Neither key can fail: the record is in no row and the run of a row exists.
    have hfresh : ((publishers.stores.database.keptRows record.metadata).any fun row =>
        row.metadata.artifactId == record.metadata.artifactId) = false := by
      rw [List.any_eq_false]
      intro row hkept hid
      have hold := List.mem_of_mem_filter hkept
      obtain ⟨rowContent, hrowWritten⟩ := hvalid.stores.rows_written row hold
      have hsame := hvalid.stores.eq_of_artifactId hrowWritten hmem (by simpa using hid)
      exact hvalid.pending_unindexed record hpending ((Prod.mk.inj hsame).1 ▸ hold)
    have hrun := hvalid.rows_run other hrow
    simp only [Database.displacedBy, Bool.and_eq_true, beq_iff_eq] at hdisplaced
    rw [hdisplaced.1.2] at hrun
    simp [Database.insertArtifact, hfresh, hrun] at hinsert

/-- Whatever fails, a step of the publishers is matched by lossy two-phase steps. -/
theorem simulates_lossy {label : PublicationLabel} (hvalid : publishers.Valid platform)
    (hstep : (publication platform).step publishers label = some next) :
    Relation.ReflTransGen (LossyStep snapshotRules) publishers.image next.image := by
  cases outcome_of_step hstep with
  | updated change hkeeps =>
      have himage : Publishers.image { publishers with
          stores := { publishers.stores with database := change publishers.stores.database } } =
          publishers.image := by
        simp only [Publishers.image, hkeeps.1, Stores.Live]
      rw [himage]
  | refused => exact .refl
  | written request now record stores hwritten =>
      cases hsnapshot : record.metadata.currentSnapshot with
      | false => rw [image_write_record hvalid hwritten hsnapshot]
      | true =>
          rw [image_write hvalid hwritten hsnapshot]
          exact .head (.step (.write record (fresh_image hvalid hwritten)))
            (.single (.evict {other | stores.Live other}))
  | added record stores hpending hadd =>
      rw [image_add hvalid hadd]
      cases hsnapshot : record.metadata.currentSnapshot with
      | false => exact .single (.lose record)
      | true =>
          obtain ⟨content, hmem⟩ := hvalid.pending_written record hpending
          obtain ⟨result, hread⟩ := (addArtifact_ok hadd).2.2.2 hsnapshot
          exact .single (.step (.index record ⟨hsnapshot, hpending⟩
            ⟨hsnapshot, hvalid.stores.live_of_readContent hmem hread⟩))
  | raised record stores error hpending hadd =>
      rw [(addArtifact_error (hvalid.path_project hpending) hadd).1, image_erase hvalid]
      exact .single (.lose record)
  | failed record hpending =>
      rw [image_erase hvalid]
      exact .single (.lose record)

/-- The label is not an add refused by the database. -/
def PublicationLabel.Completes : PublicationLabel → Prop
  | .addFails _ => False
  | .update _ | .write .. | .add _ => True

/-- Every step that completes is a step of the abstract index, or none. -/
theorem simulates {label : PublicationLabel}
    (hproject : Function.Injective platform.projectIdForRun) (hvalid : publishers.Valid platform)
    (hlabel : label.Completes)
    (hstep : (publication platform).step publishers label = some next) :
    Relation.ReflTransGen (Step snapshotRules) publishers.image next.image := by
  cases outcome_of_step hstep with
  | updated change hkeeps =>
      have himage : Publishers.image { publishers with
          stores := { publishers.stores with database := change publishers.stores.database } } =
          publishers.image := by
        simp only [Publishers.image, hkeeps.1, Stores.Live]
      rw [himage]
  | refused => exact .refl
  | written request now record stores hwritten =>
      cases hsnapshot : record.metadata.currentSnapshot with
      | false => rw [image_write_record hvalid hwritten hsnapshot]
      | true =>
          have hkept : snapshotRules.store record publishers.image.live ⊆
              {other | stores.Live other} := by
            rintro other (rfl | ⟨⟨hother, hlive⟩, hover⟩)
            · obtain ⟨stored, hstored, hmanifest, -⟩ := hwritten.files_self
              exact ⟨stored, hstored, hmanifest⟩
            · exact hwritten.live_of_not_overwritten hproject hvalid.stores hsnapshot hother
                hlive hover
          rw [image_write hvalid hwritten hsnapshot, Set.inter_eq_left.mpr hkept]
          exact .single (.write record (fresh_image hvalid hwritten))
  | added record stores hpending hadd =>
      rw [image_add hvalid hadd]
      cases hsnapshot : record.metadata.currentSnapshot with
      | false =>
          refine .single (.abandon record ?_)
          rintro ⟨htrue, -⟩
          simp [hsnapshot] at htrue
      | true =>
          obtain ⟨content, hmem⟩ := hvalid.pending_written record hpending
          obtain ⟨result, hread⟩ := (addArtifact_ok hadd).2.2.2 hsnapshot
          exact .single (.index record ⟨hsnapshot, hpending⟩
            ⟨hsnapshot, hvalid.stores.live_of_readContent hmem hread⟩)
  | raised record stores error hpending hadd =>
      rw [(addArtifact_error (hvalid.path_project hpending) hadd).1, image_erase hvalid]
      exact .single (.abandon record (harmless_of_raised hvalid hpending hadd))
  | failed record hpending => exact absurd hlabel not_false

end Image

section Runs

variable {labels : List PublicationLabel} {last : Publishers}

/-- At the start the index is empty. -/
theorem image_start : Publishers.start.image = State.empty := by
  ext other <;>
    simp [Publishers.start, Publishers.image, Stores.empty, State.empty, Stores.Live,
      FileStore.empty, Database.empty]

/-- In every run listed snapshots keep their order. -/
theorem ordered_of_run (hrun : (publication platform).run .start labels = some last) :
    last.image.Ordered snapshotRules := by
  obtain ⟨final, hreach, -, rfl⟩ := (publication platform).run_simulates
    (LossyStep snapshotRules)
    (fun publishers image => publishers.Valid platform ∧ image = publishers.image)
    (fun _ => True)
    (fun publishers label next image _ hrelated hstep =>
      ⟨next.image, hrelated.2 ▸ simulates_lossy hrelated.1 hstep, hrelated.1.step hstep, rfl⟩)
    (fun _ _ => trivial) ⟨Publishers.valid_start, rfl⟩ hrun
  rw [image_start] at hreach
  exact ordered_of_reachable hreach

/-- In every run whose writes complete, listed snapshots are covered by files. -/
theorem covered_of_run (hproject : Function.Injective platform.projectIdForRun)
    (hcompletes : ∀ label ∈ labels, label.Completes)
    (hrun : (publication platform).run .start labels = some last) :
    last.image.Covered snapshotRules := by
  obtain ⟨final, hreach, -, rfl⟩ := (publication platform).run_simulates
    (Step snapshotRules)
    (fun publishers image => publishers.Valid platform ∧ image = publishers.image)
    PublicationLabel.Completes
    (fun publishers label next image hlabel hrelated hstep =>
      ⟨next.image, hrelated.2 ▸ simulates hproject hrelated.1 hlabel hstep,
        hrelated.1.step hstep, rfl⟩)
    hcompletes ⟨Publishers.valid_start, rfl⟩ hrun
  rw [image_start] at hreach
  exact covered_of_reachable hreach

/-- A listed snapshot is in place unless a publisher of its run is still to add. -/
theorem live_of_listed (hproject : Function.Injective platform.projectIdForRun)
    (hcompletes : ∀ label ∈ labels, label.Completes)
    (hrun : (publication platform).run .start labels = some last) {row : ArtifactRecord}
    (hrow : row ∈ last.stores.database.artifacts) (hsnapshot : row.metadata.currentSnapshot = true)
    (hquiet : ∀ record ∈ last.pending,
      record.metadata.workflowRunId ≠ row.metadata.workflowRunId) : last.stores.Live row := by
  rcases covered_of_run hproject hcompletes hrun row ⟨hsnapshot, hrow⟩ with
    hlive | ⟨other, hpending, -, hdisplaces⟩
  · exact hlive.2
  · have hdisplaced := hdisplaces.2
    simp only [Database.displacedBy, Bool.and_eq_true, beq_iff_eq] at hdisplaced
    exact absurd hdisplaced.1.2.symm (hquiet other hpending.2)

/-- The slots of the listed snapshots of a run are distinct. -/
theorem slots_nodup (hrun : (publication platform).run .start labels = some last)
    (runId : RunId) :
    (((last.stores.database.listArtifacts runId).filter fun row =>
        row.metadata.currentSnapshot).map fun row =>
      (row.metadata.kind, row.metadata.producingAgent)).Nodup := by
  have hvalid := (valid_of_run hrun).stores
  have hordered := ordered_of_run hrun
  have hrows : (last.stores.database.listArtifacts runId).Nodup := by
    refine (List.perm_insertionSort _ _).nodup_iff.mpr (List.Nodup.filter _ ?_)
    exact List.Nodup.of_map _ hvalid.rows_nodup
  refine List.Nodup.map_on ?_ (hrows.filter _)
  intro first hfirst second hsecond hslot
  obtain ⟨hfirst, hfirstSnapshot⟩ := List.mem_filter.mp hfirst
  obtain ⟨hsecond, hsecondSnapshot⟩ := List.mem_filter.mp hsecond
  rw [Database.mem_listArtifacts] at hfirst hsecond
  rw [Prod.mk.injEq] at hslot
  by_contra hne
  have hdisplaces : ∀ left right : ArtifactRecord, left.metadata.currentSnapshot = true →
      right.metadata.currentSnapshot = true →
      right.metadata.workflowRunId = left.metadata.workflowRunId →
      Database.sameSlot right.metadata left.metadata = true →
      snapshotRules.displaces left right := by
    intro left right hleft hright hsame hsameSlot
    exact ⟨hright, by simp [Database.displacedBy, hleft, hsame, hsameSlot]⟩
  exact hordered.indexed_apart first ⟨hfirstSnapshot, hfirst.1⟩ second ⟨hsecondSnapshot, hsecond.1⟩
    hne
    (hdisplaces first second hfirstSnapshot hsecondSnapshot (hsecond.2.trans hfirst.2.symm)
      (by simp [Database.sameSlot, hslot.1, hslot.2]))
    (hdisplaces second first hsecondSnapshot hfirstSnapshot (hfirst.2.trans hsecond.2.symm)
      (by simp [Database.sameSlot, hslot.1, hslot.2]))

end Runs

/-- The rows and the files of one run are the same in both states. -/
def SameRun (platform : Platform) (runId : RunId) (first second : Publishers) : Prop :=
  second.stores.database.listArtifacts runId = first.stores.database.listArtifacts runId ∧
    (∀ location : Location, location.project = platform.projectIdForRun runId →
      second.stores.files.files location = first.stores.files.files location) ∧
    second.stores.files.descriptor (platform.projectIdForRun runId) =
      first.stores.files.descriptor (platform.projectIdForRun runId)

/-- The listing of a run depends on its own rows. -/
theorem listArtifacts_congr {database next : Database} {runId : RunId}
    (hrows : next.artifacts.filter (fun row => row.metadata.workflowRunId == runId) =
      database.artifacts.filter (fun row => row.metadata.workflowRunId == runId)) :
    next.listArtifacts runId = database.listArtifacts runId := by
  simp only [Database.listArtifacts, hrows]

/-- Inserting a row of one run keeps the rows of every other run. -/
theorem listArtifacts_insert {database next : Database} {record : ArtifactRecord} {runId : RunId}
    (hinsert : database.insertArtifact record = .ok next)
    (hother : record.metadata.workflowRunId ≠ runId) :
    next.listArtifacts runId = database.listArtifacts runId := by
  obtain ⟨-, -, hrows⟩ := insertArtifact_ok hinsert
  apply listArtifacts_congr
  rw [hrows]
  simp only [Database.keptRows, List.filter_append, List.filter_filter]
  have hlast : [record].filter (fun row => row.metadata.workflowRunId == runId) = [] := by
    simp [hother]
  rw [hlast, List.append_nil]
  apply List.filter_congr
  intro row _
  by_cases hrow : row.metadata.workflowRunId = runId
  · have hkept : Database.displacedBy record.metadata row.metadata = false := by
      have hne : row.metadata.workflowRunId ≠ record.metadata.workflowRunId :=
        fun heq => hother (heq.symm.trans hrow)
      simp [Database.displacedBy, hne]
    simp [hrow, hkept]
  · simp [hrow]

/-- A step that publishes for one run leaves every other run alone. -/
theorem sameRun_step (hproject : Function.Injective platform.projectIdForRun)
    {publishers next : Publishers} {label : PublicationLabel} {runId : RunId}
    (hlabel : label.runId ≠ some runId)
    (hstep : (publication platform).step publishers label = some next) :
    SameRun platform runId publishers next := by
  cases outcome_of_step hstep with
  | updated change hkeeps =>
      exact ⟨listArtifacts_congr (by rw [hkeeps.1]), fun _ _ => rfl, rfl⟩
  | refused => exact ⟨rfl, fun _ _ => rfl, rfl⟩
  | written request now record stores hwritten =>
      have hproject : platform.projectIdForRun runId ≠ record.metadata.projectId := by
        rw [hwritten.published.project, hwritten.runId]
        intro heq
        exact hlabel (congrArg some (hproject heq).symm)
      refine ⟨by rw [hwritten.database], ?_, hwritten.descriptor_other _ hproject⟩
      intro location hlocation
      have hapart : record.metadata.projectId ≠ location.project := by
        rw [hlocation]
        exact hproject.symm
      have hpath : location ≠ record.contentPath := by
        rintro rfl
        exact hapart hwritten.published.path_project.symm
      ext stored
      rw [hwritten.files_other location hpath]
      refine and_iff_left ?_
      simp [clears, invalidates, hapart.symm]
  | added record stores hpending hadd =>
      obtain ⟨hfiles, -, hinsert, -⟩ := addArtifact_ok hadd
      have hother : record.metadata.workflowRunId ≠ runId := fun heq => hlabel (congrArg some heq)
      exact ⟨listArtifacts_insert hinsert hother, fun _ _ => by rw [hfiles], by rw [hfiles]⟩
  | raised record stores error hpending hadd =>
      rw [addArtifact_apply] at hadd
      cases hindexed : indexed platform publishers.stores record with
      | ok database => simp [hindexed] at hadd
      | error raised =>
          simp only [hindexed, EStateM.Result.error.injEq] at hadd
          rw [← hadd.2]
          exact ⟨rfl, fun _ _ => rfl, rfl⟩
  | failed => exact ⟨rfl, fun _ _ => rfl, rfl⟩

/-- Writes of other runs leave the listing of a run. -/
theorem sameRun_run (hproject : Function.Injective platform.projectIdForRun)
    {labels : List PublicationLabel} {publishers last : Publishers} {runId : RunId}
    (hlabels : ∀ label ∈ labels, label.runId ≠ some runId)
    (hrun : (publication platform).run publishers labels = some last) :
    SameRun platform runId publishers last :=
  (publication platform).run_relation_of (SameRun platform runId)
    (fun label => label.runId ≠ some runId)
    (fun _ => ⟨rfl, fun _ _ => rfl, rfl⟩)
    (fun _ _ _ hfirst hsecond => ⟨hsecond.1.trans hfirst.1,
      fun location hlocation =>
        (hsecond.2.1 location hlocation).trans (hfirst.2.1 location hlocation),
      hsecond.2.2.trans hfirst.2.2⟩)
    (fun _ _ _ hlabel hstep => sameRun_step hproject hlabel hstep) hlabels hrun

/-- Once every completed write of a run has had its add attempted, each listed
snapshot of the run reads back the content given to its write, there is one
snapshot for each kind and producer, and what is published for other runs
changes neither the rows nor the files of this one. Adds may raise by their own
checks; the database itself does not fail. -/
theorem files_and_index_agree (hproject : Function.Injective platform.projectIdForRun)
    {labels : List PublicationLabel} {last : Publishers}
    (hcompletes : ∀ label ∈ labels, label.Completes)
    (hrun : (publication platform).run .start labels = some last) (runId : RunId) :
    ((∀ record ∈ last.pending, record.metadata.workflowRunId ≠ runId) →
      ∀ row ∈ last.stores.database.listArtifacts runId, row.metadata.currentSnapshot = true →
        ∃ content, (row, content) ∈ last.stores.written ∧
          last.stores.files.readContent platform row = .ok content) ∧
    (((last.stores.database.listArtifacts runId).filter fun row =>
        row.metadata.currentSnapshot).map fun row =>
      (row.metadata.kind, row.metadata.producingAgent)).Nodup ∧
    (∀ (more : List PublicationLabel) (final : Publishers),
      (∀ label ∈ more, label.runId ≠ some runId) →
      (publication platform).run last more = some final → SameRun platform runId last final) := by
  refine ⟨?_, slots_nodup hrun runId, fun more final => sameRun_run hproject⟩
  intro hquiet row hrow hsnapshot
  obtain ⟨hlisted, hrunId⟩ := Database.mem_listArtifacts.mp hrow
  have hvalid := (valid_of_run hrun).stores
  obtain ⟨content, hmem⟩ := hvalid.rows_written row hlisted
  have hlive := live_of_listed hproject hcompletes hrun hlisted hsnapshot (hrunId ▸ hquiet)
  exact ⟨content, hmem, hvalid.readContent_of_live hmem hlive⟩

section Sample

theorem samplePlatform_injective : Function.Injective samplePlatform.projectIdForRun := by
  intro first second heq
  simpa [samplePlatform] using heq

def sampleContent (text : String) : Json := .obj [("text", .str text)]

def createSampleRun (database : Database) : Database :=
  match database.createRun "run_a" "idea" 0 with
  | .ok next => next
  | .error _ => database

def sampleWrite (kind : ArtifactKind) (stage : StageName) (producer text : String) :
    PublicationLabel :=
  .write (.simple "run_a" stage kind producer (sampleContent text) "" []) 0

/-- The record of a write of `sampleWrite` that got this identifier. -/
def sampleRecord (kind : ArtifactKind) (stage : StageName) (producer text : String)
    (artifactId : ArtifactId) : ArtifactRecord :=
  let metadata := ArtifactMetadata.ofRequest samplePlatform
    (.simple "run_a" stage kind producer (sampleContent text) "" []) artifactId 0
  ⟨metadata, metadata.destination⟩

/-- A brief and the requirements drawn from it are published; then the brief is
rewritten. -/
def rewrittenBrief : List PublicationLabel :=
  [.update createSampleRun,
    sampleWrite .projectBrief .intake "intake-agent" "brief",
    .add (sampleRecord .projectBrief .intake "intake-agent" "brief" 0),
    sampleWrite .requirementsSpec .requirements "requirements-agent" "requirements",
    .add (sampleRecord .requirementsSpec .requirements "requirements-agent" "requirements" 1),
    sampleWrite .projectBrief .intake "intake-agent" "new brief"]

def newBrief : ArtifactRecord := sampleRecord .projectBrief .intake "intake-agent" "new brief" 2

theorem files_and_index_agree_rewritten : ∃ last,
    (publication samplePlatform).run .start (rewrittenBrief ++ [.add newBrief]) = some last ∧
      ∀ row ∈ last.stores.database.listArtifacts "run_a", row.metadata.currentSnapshot = true →
        ∃ content, (row, content) ∈ last.stores.written ∧
          last.stores.files.readContent samplePlatform row = .ok content := by
  have hsome : ((publication samplePlatform).run .start
      (rewrittenBrief ++ [.add newBrief])).isSome = true := by decide +kernel
  refine ⟨_, (Option.some_get hsome).symm, ?_⟩
  refine (files_and_index_agree samplePlatform_injective ?_ (Option.some_get hsome).symm
    "run_a").1 ?_
  · simp [rewrittenBrief, sampleWrite, PublicationLabel.Completes]
  · decide +kernel +revert

/-- The database refuses the add of the rewritten brief: the requirements stay
listed although the rewrite removed their files. -/
theorem files_and_index_disagree : ∃ last,
    (publication samplePlatform).run .start (rewrittenBrief ++ [.addFails newBrief]) = some last ∧
      last.pending = [] ∧
      ∃ row ∈ last.stores.database.listArtifacts "run_a", row.metadata.currentSnapshot = true ∧
        last.stores.files.readContent samplePlatform row =
          .error ⟨.osError, "No such file or directory"⟩ := by
  have hsome : ((publication samplePlatform).run .start
      (rewrittenBrief ++ [.addFails newBrief])).isSome = true := by decide +kernel
  refine ⟨_, (Option.some_get hsome).symm, by decide +kernel +revert,
    sampleRecord .requirementsSpec .requirements "requirements-agent" "requirements" 1,
    by decide +kernel +revert, by decide +kernel, ?_⟩
  rfl

end Sample

/-- A listed snapshot was written before every listed snapshot of its run in a
later dependency group, whatever adds fail. -/
theorem listed_snapshots_ordered {labels : List PublicationLabel} {last : Publishers}
    (hrun : (publication platform).run .start labels = some last) (runId : RunId)
    (first second : ArtifactRecord)
    (hfirst : first ∈ last.stores.database.listArtifacts runId)
    (hsecond : second ∈ last.stores.database.listArtifacts runId)
    (hfirstSnapshot : first.metadata.currentSnapshot = true)
    (hsecondSnapshot : second.metadata.currentSnapshot = true)
    (hgroup : EarlierGroup first.metadata.kind second.metadata.kind) :
    [first, second].Sublist (last.stores.written.map Prod.fst) := by
  obtain ⟨hfirstRow, hfirstRun⟩ := Database.mem_listArtifacts.mp hfirst
  obtain ⟨hsecondRow, hsecondRun⟩ := Database.mem_listArtifacts.mp hsecond
  have hkind := (mem_invalidatedKinds_iff_earlierGroup _ _).mpr hgroup
  have hne : first ≠ second := by
    rintro rfl
    exact not_mem_invalidatedKinds_self _ hkind
  have hbefore := (ordered_of_run hrun).indexed_ordered first ⟨hfirstSnapshot, hfirstRow⟩ second
    ⟨hsecondSnapshot, hsecondRow⟩ hne
    ⟨hfirstSnapshot, hsecondSnapshot, hsecondRun.trans hfirstRun.symm, Or.inr hkind⟩
  exact hbefore.trans List.filter_sublist

theorem listed_snapshots_ordered_rewritten : ∃ last,
    (publication samplePlatform).run .start rewrittenBrief = some last ∧
      [sampleRecord .projectBrief .intake "intake-agent" "brief" 0,
        sampleRecord .requirementsSpec .requirements "requirements-agent" "requirements" 1].Sublist
          (last.stores.written.map Prod.fst) := by
  have hsome : ((publication samplePlatform).run .start rewrittenBrief).isSome = true := by
    decide +kernel
  refine ⟨_, (Option.some_get hsome).symm, ?_⟩
  exact listed_snapshots_ordered (Option.some_get hsome).symm "run_a" _ _
    (by decide +kernel +revert) (by decide +kernel +revert) (by decide +kernel) (by decide +kernel)
    ((mem_invalidatedKinds_iff_earlierGroup _ _).mp (by decide))

end Aidlc
