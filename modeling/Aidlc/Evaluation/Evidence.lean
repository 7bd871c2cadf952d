import Mathlib.Data.List.Nodup
import Aidlc.Evaluation.Gates

/-! # What passing gates mean

The verdict of the gates, characterized on the artifacts themselves: the gates
pass exactly when the latest reports about the current source are trusted.
-/

namespace Aidlc

open Foundation

/-- A field of the metadata of an artifact. -/
def fieldOf (artifact : Json) (key : String) : Option Json :=
  (artifact.get? "metadata").bind fun metadata => metadata.get? key

def isOfKind (kind : ArtifactKind) (artifact : Json) : Bool :=
  fieldOf artifact "kind" == some (.str kind.value)

/-- The reports an artifact embeds: its list of reports, or itself. -/
def reportsOf (artifact : Json) : List Json :=
  match artifact.get? "content" with
  | none => []
  | some content =>
    match content.get? "reports" with
    | none => [content]
    | some (.arr reports) => reports
    | some _ => []

/-- The reports of one artifact about a source. -/
def candidatesOf (kind : ArtifactKind) (sourceId : Option Json) (artifact : Json) :
    List (Json × Json) :=
  if isOfKind kind artifact then
    ((reportsOf artifact).filter fun report =>
      report.get? (reportShape kind).idKey == sourceId).map fun report => (artifact, report)
  else []

/-- The latest report about a source, with the artifact that embeds it. -/
def latestReport (kind : ArtifactKind) (source : Json) (artifacts : List Json) :
    Option (Json × Json) :=
  (artifacts.flatMap (candidatesOf kind (fieldOf source "artifact_id"))).getLast?

def textOf (value : Option Json) : String := (value.bind Json.str?).getD ""

/-- The current source: the last integration, or the last change of each agent. -/
def sourcesOf (artifacts : List Json) : List Json :=
  match (artifacts.filter (isOfKind .integratedSource)).getLast? with
  | some latest => [latest]
  | none =>
    ((artifacts.filter (isOfKind .codeChange)).foldl (fun latest item =>
      setLatest latest (textOf (fieldOf item "producing_agent")) item) []).map Prod.snd

section

variable (platform : Platform) (pydantic : Pydantic)

/-- The manifest of an artifact validates, names the run, and matches the content. -/
def TrustedManifest (context : AgentContext Json) (artifact : Json) : Prop :=
  ∃ metadata content, artifact.get? "metadata" = some metadata ∧
    artifact.get? "content" = some content ∧
    metadataSchema.accepts pydantic.reading metadata = true ∧
    metadata.get? "workflow_run_id" ≠ some (.str "") ∧
    (∀ project runId, metadata.get? "project_id" = some (.str project) →
      metadata.get? "workflow_run_id" = some (.str runId) →
      project = "" ∨ project = platform.projectIdForRun runId) ∧
    metadata.get? "workflow_run_id" = some (.str context.runId) ∧
    metadata.get? "content_sha256" = some (.str (platform.sha256 content))

/-- One clean run under the runtime, with a pinned image. -/
structure CleanExecution (runtime : String) (report execution : Json) : Prop where
  limits : executionSchema.accepts pydantic.reading execution = true
  completed : report.get? "status" = some (.str "completed")
  runtime : execution.get? "runtime" = some (.str runtime)
  exit_code : ∃ code, execution.get? "exit_code" = some code ∧ Json.pyEq (.int 0) code = true
  cleaned_up : execution.get? "cleanup_succeeded" = some (.bool true)
  in_time : execution.get? "timed_out" = some (.bool false)
  complete_output : execution.get? "output_truncated" = some (.bool false)
  in_memory : execution.get? "oom_killed" = some (.bool false)
  pinned : ∃ image, execution.get? "image" = some (.str image) ∧ isImageDigest image = true

/-- A report is trusted evidence about a source. -/
structure Supports (kind : ArtifactKind) (source artifact report : Json) (runtime : String) :
    Prop where
  hash : report.get? (reportShape kind).hashKey = fieldOf source "content_sha256"
  parent : ∃ parents, fieldOf artifact "parent_artifact_ids" = some (.arr parents) ∧
    ∃ parent ∈ parents, fieldOf source "artifact_id" = some parent
  producer : fieldOf artifact "producing_agent" = some (.str (reportShape kind).producer)
  analysis : kind = .staticAnalysisReport →
    analysisSchema.accepts pydantic.reading report = true ∧
      report.get? "run_id" = fieldOf source "workflow_run_id" ∧
      (report.get? "findings" = none ∨ report.get? "findings" = some (.arr []))
  manifest : kind ≠ .staticAnalysisReport →
    ∃ manifest recorded, fieldOf artifact "execution" = some manifest ∧
      report.get? "execution" = some recorded ∧ Json.pyEq manifest recorded = true
  tests : kind = .testReport →
    ∃ text, report.get? "stderr" = some (.str text) ∧ showsExecutedTest text = true
  execution : ∃ execution, report.get? "execution" = some execution ∧
    CleanExecution pydantic runtime report execution

/-- Everything the gates ask for. -/
structure Trusted (context : AgentContext Json) (runtime : String) : Prop where
  manifests : ∀ artifact ∈ context.artifacts, TrustedManifest platform pydantic context artifact
  distinct : (context.artifacts.map fun artifact => fieldOf artifact "artifact_id").Nodup
  requirements : ∃ latest content,
    (context.artifacts.filter (isOfKind .requirementsSpec)).getLast? = some latest ∧
      latest.get? "content" = some content ∧
      requirementsSchema.accepts pydantic.reading content = true ∧
      content.get? "functional_requirements" ≠ some (.arr []) ∧
      content.get? "acceptance_criteria" ≠ some (.arr [])
  sources : sourcesOf context.artifacts ≠ []
  bundles : ∀ source ∈ sourcesOf context.artifacts,
    ∃ content bundle, source.get? "content" = some content ∧
      SourceBundle.validate content = .ok bundle
  evidence : ∀ source ∈ sourcesOf context.artifacts,
    ∀ kind ∈ [ArtifactKind.buildReport, .testReport, .staticAnalysisReport],
      ∃ artifact report, latestReport kind source context.artifacts = some (artifact, report) ∧
        Supports pydantic kind source artifact report runtime

end

/-- The exceptions a computation may raise. -/
def Raises {α : Type} (types : List ErrorType) (computation : Except PyError α) : Prop :=
  ∀ error, computation = .error error → error.type ∈ types

section Raises

variable {α β : Type} {types : List ErrorType}

theorem Raises.ok (value : α) : Raises types (.ok value : Except PyError α) := by
  intro error herror
  cases herror

theorem Raises.error {error : PyError} (hmem : error.type ∈ types) :
    Raises types (.error error : Except PyError α) := by
  intro other herror
  cases herror
  exact hmem

/-- Sequencing raises what either part raises. -/
theorem Raises.bind {first : Except PyError α} {rest : α → Except PyError β}
    (hfirst : Raises types first) (hrest : ∀ value, first = .ok value → Raises types (rest value)) :
    Raises types (first >>= rest) := by
  intro error herror
  rcases except_bind_eq_error.mp herror with hraised | ⟨value, hvalue, hraised⟩
  · exact hfirst error hraised
  · exact hrest value hvalue error hraised

/-- A mapped check raises what it raises on the items. -/
theorem Raises.mapM {items : List α} {item : α → Except PyError β}
    (hitem : ∀ entry ∈ items, Raises types (item entry)) : Raises types (items.mapM item) := by
  induction items with
  | nil => exact .ok []
  | cons entry rest ih =>
      rw [List.mapM_cons]
      refine (hitem entry List.mem_cons_self).bind fun value _ => ?_
      exact (ih fun other hmem => hitem other (List.mem_cons_of_mem _ hmem)).bind
        fun values _ => .ok _

/-- A missing key, or a value without keys, is one of the handled defects. -/
theorem subscript_raises (value : Json) (key : String) : Raises defects (subscript value key) := by
  unfold subscript
  split
  · split
    · exact .ok _
    · exact .error (by simp [defects])
  all_goals exact .error (by simp [defects])

theorem metadataOf_raises (artifact : Json) (key : String) :
    Raises defects (metadataOf artifact key) :=
  (subscript_raises _ _).bind fun _ _ => subscript_raises _ _

theorem artifactIdOf_raises (artifact : Json) : Raises defects (artifactIdOf artifact) := by
  refine (metadataOf_raises _ _).bind fun value _ => ?_
  split
  · exact .ok _
  · exact .error (by simp [defects])

theorem validate_raises (pydantic : Pydantic) (schema : Schema) (value : Json) :
    Raises defects (pydantic.validate schema value) := by
  unfold Pydantic.validate
  split
  · exact .ok _
  · exact .error (by simp [defects])

theorem valueError_raises (message : String) :
    Raises defects (valueError message : Except PyError α) := .error (by simp [defects])

end Raises

section Integrity

variable {platform : Platform} {pydantic : Pydantic} {context : AgentContext Json}
  {artifact metadata : Json}

/-- A metadata entry is read exactly when the field is there. -/
theorem metadataOf_eq_ok_iff {entry : Json} {key : String} :
    metadataOf artifact key = .ok entry ↔ fieldOf artifact key = some entry := by
  rw [metadataOf_eq_ok, fieldOf, Option.bind_eq_some_iff]

/-- A manifest validates if it has the fields of one and its project is that of its run. -/
theorem validateMetadata_eq_ok :
    validateMetadata platform pydantic metadata = .ok () ↔
      metadataSchema.accepts pydantic.reading metadata = true ∧
        metadata.get? "workflow_run_id" ≠ some (.str "") ∧
        ∀ project runId, metadata.get? "project_id" = some (.str project) →
          metadata.get? "workflow_run_id" = some (.str runId) →
          project = "" ∨ project = platform.projectIdForRun runId := by
  unfold validateMetadata
  rw [except_bind_eq_ok]
  constructor
  · rintro ⟨_, hvalid, hproject⟩
    have haccepts := Pydantic.validate_eq_ok.mp hvalid
    split at hproject
    next => cases hproject
    next hnamed =>
      refine ⟨haccepts, hnamed, fun project runId hp hr => ?_⟩
      simp only [hp, hr] at hproject
      split at hproject
      next => cases hproject
      next hcondition =>
        by_contra hnot
        exact hcondition ⟨fun hempty => hnot (Or.inl hempty), fun hother => hnot (Or.inr hother)⟩
  · rintro ⟨haccepts, hnamed, hproject⟩
    refine ⟨(), Pydantic.validate_eq_ok.mpr haccepts, ?_⟩
    rw [if_neg hnamed]
    split
    next project runId hp hr =>
      rw [if_neg]
      · rfl
      · rintro ⟨hne, hother⟩
        exact (hproject project runId hp hr).elim hne hother
    next => rfl

theorem validateMetadata_raises : Raises defects (validateMetadata platform pydantic metadata) := by
  refine (validate_raises _ _ _).bind fun _ _ => ?_
  split
  · exact .error (by simp [defects])
  · split
    · split
      · exact .error (by simp [defects])
      · exact .ok _
    · exact .ok _

/-- The manifest check passes exactly the trusted manifests. -/
theorem checkManifest_eq_ok :
    checkManifest platform pydantic context artifact = .ok () ↔
      TrustedManifest platform pydantic context artifact := by
  unfold checkManifest TrustedManifest
  rw [except_bind_eq_ok]
  simp only [except_bind_eq_ok, subscript_eq_ok]
  constructor
  · rintro ⟨metadata, hmetadata, _, hvalid, content, hcontent, hmatch⟩
    obtain ⟨haccepts, hnamed, hproject⟩ := validateMetadata_eq_ok.mp hvalid
    split at hmatch
    · cases hmatch
    · rename_i hmatches
      rw [not_or, not_not, not_not] at hmatches
      exact ⟨metadata, content, hmetadata, hcontent, haccepts, hnamed, hproject, hmatches⟩
  · rintro ⟨metadata, content, hmetadata, hcontent, haccepts, hnamed, hproject, hmatches⟩
    refine ⟨metadata, hmetadata, (), validateMetadata_eq_ok.mpr ⟨haccepts, hnamed, hproject⟩,
      content, hcontent, ?_⟩
    rw [if_neg (by rw [not_or, not_not, not_not]; exact hmatches)]
    rfl

/-- Whatever is wrong with a manifest, the gate handles the error. -/
theorem checkManifest_raises :
    Raises defects (checkManifest platform pydantic context artifact) := by
  refine (subscript_raises _ _).bind fun metadata _ => ?_
  refine validateMetadata_raises.bind fun _ _ => ?_
  refine (subscript_raises _ _).bind fun content _ => ?_
  split
  · exact valueError_raises _
  · exact .ok _

/-- What the rest of the gates use of a trusted manifest. -/
structure Manifested (artifact : Json) : Prop where
  identifier : ∃ text, fieldOf artifact "artifact_id" = some (.str text)
  kind : ∃ text, fieldOf artifact "kind" = some (.str text)
  producer : ∃ text, fieldOf artifact "producing_agent" = some (.str text)
  run : ∃ text, fieldOf artifact "workflow_run_id" = some (.str text)
  hash : ∃ text, fieldOf artifact "content_sha256" = some (.str text)
  content : ∃ fields, artifact.get? "content" = some (.obj fields)

/-- A trusted manifest has all the metadata the later gates read. -/
theorem TrustedManifest.manifested (htrusted : TrustedManifest platform pydantic context artifact)
    (hcontent : ∀ content, artifact.get? "content" = some content →
      ∃ fields, content = .obj fields) : Manifested artifact := by
  obtain ⟨metadata, content, hmetadata, hfound, haccepts, -⟩ := htrusted
  have htext : ∀ name, (name, true, Schema.str) ∈ metadataFields →
      ∃ text, fieldOf artifact name = some (.str text) := by
    intro name hmem
    obtain ⟨entry, hentry, hstr⟩ := Schema.required_of_model haccepts hmem
    obtain ⟨text, rfl⟩ := Schema.str_of_accepts hstr
    exact ⟨text, by rw [fieldOf, hmetadata]; exact hentry⟩
  refine ⟨htext _ (by simp [metadataFields]), ?_, htext _ (by simp [metadataFields]),
    htext _ (by simp [metadataFields]), htext _ (by simp [metadataFields]), ?_⟩
  · obtain ⟨entry, hentry, hliteral⟩ := Schema.required_of_model haccepts
      (show ("kind", true, Schema.literal (artifactKinds.map ArtifactKind.value)) ∈
        metadataFields by simp [metadataFields])
    obtain ⟨text, -, rfl⟩ := Schema.text_of_literal hliteral
    exact ⟨text, by rw [fieldOf, hmetadata]; exact hentry⟩
  · obtain ⟨fields, rfl⟩ := hcontent content hfound
    exact ⟨fields, hfound⟩

theorem Manifested.artifactIdOf (hmanifested : Manifested artifact) :
    artifactIdOf artifact = .ok (textOf (fieldOf artifact "artifact_id")) := by
  obtain ⟨text, htext⟩ := hmanifested.identifier
  rw [artifactIdOf_eq_ok, metadataOf_eq_ok_iff, htext]
  rfl

/-- The integrity gate raises handled defects only. -/
theorem integrityGate_raises : Raises defects (integrityGate platform pydantic context) := by
  refine (Raises.mapM fun artifact _ => checkManifest_raises).bind fun _ _ => ?_
  refine (Raises.mapM fun artifact _ => artifactIdOf_raises artifact).bind fun ids _ => ?_
  split
  · exact valueError_raises _
  · exact .ok _

/-- A mapped check that passes has passed every item. -/
theorem mapM_unit_eq_ok {items : List Json} {check : Json → Except PyError Unit}
    {results : List Unit} (hmap : items.mapM check = .ok results) :
    ∀ item ∈ items, check item = .ok () := by
  intro item hmem
  obtain ⟨_, -, hitem⟩ := exists_of_forall₂_left (forall₂_of_mapM hmap) hmem
  exact hitem

/-- Where the integrity gate returns, it has passed. -/
theorem integrityGate_status {gate : QualityGate String}
    (hgate : integrityGate platform pydantic context = .ok gate) : gate.status = .passed := by
  unfold integrityGate at hgate
  obtain ⟨_, -, hgate⟩ := except_bind_eq_ok.mp hgate
  obtain ⟨ids, -, hgate⟩ := except_bind_eq_ok.mp hgate
  split at hgate
  · cases hgate
  · cases hgate
    rfl

/-- Ids are distinct as values exactly when they are as texts. -/
theorem identifiers_nodup {artifacts : List Json}
    (hmanifested : ∀ artifact ∈ artifacts, Manifested artifact) :
    (artifacts.map fun artifact => fieldOf artifact "artifact_id").Nodup ↔
      (artifacts.map fun artifact => textOf (fieldOf artifact "artifact_id")).Nodup := by
  have hmap : (artifacts.map fun artifact => fieldOf artifact "artifact_id") =
      (artifacts.map fun artifact => textOf (fieldOf artifact "artifact_id")).map
        fun text => some (Json.str text) := by
    rw [List.map_map]
    refine List.map_congr_left fun artifact hmem => ?_
    obtain ⟨text, htext⟩ := (hmanifested artifact hmem).identifier
    simp [htext, textOf, Json.str?]
  rw [hmap]
  exact List.nodup_map_iff fun first second heq => by simpa using heq

variable (platform pydantic) in
/-- The integrity gate passes exactly on distinct artifacts with trusted manifests. -/
theorem integrityGate_eq_ok
    (hcontents : ∀ artifact ∈ context.artifacts, ∀ content,
      artifact.get? "content" = some content → ∃ fields, content = .obj fields) :
    (∃ gate, integrityGate platform pydantic context = .ok gate) ↔
      (∀ artifact ∈ context.artifacts, TrustedManifest platform pydantic context artifact) ∧
        (context.artifacts.map fun artifact => fieldOf artifact "artifact_id").Nodup := by
  have hreads : (∀ artifact ∈ context.artifacts,
      TrustedManifest platform pydantic context artifact) →
      (∀ artifact ∈ context.artifacts, Manifested artifact) ∧
      context.artifacts.mapM artifactIdOf =
        .ok (context.artifacts.map fun artifact =>
          textOf (fieldOf artifact "artifact_id")) := by
    intro hall
    have hmanifested : ∀ artifact ∈ context.artifacts, Manifested artifact :=
      fun artifact hmem => (hall artifact hmem).manifested (hcontents artifact hmem)
    exact ⟨hmanifested, mapM_of_ok fun artifact hmem => (hmanifested artifact hmem).artifactIdOf⟩
  constructor
  · rintro ⟨gate, hgate⟩
    unfold integrityGate at hgate
    obtain ⟨results, hchecks, hgate⟩ := except_bind_eq_ok.mp hgate
    have hall : ∀ artifact ∈ context.artifacts,
        TrustedManifest platform pydantic context artifact :=
      fun artifact hmem => checkManifest_eq_ok.mp (mapM_unit_eq_ok hchecks artifact hmem)
    obtain ⟨hmanifested, hids⟩ := hreads hall
    obtain ⟨ids, hfound, hgate⟩ := except_bind_eq_ok.mp hgate
    rw [hids, Except.ok.injEq] at hfound
    subst hfound
    refine ⟨hall, (identifiers_nodup hmanifested).mpr ?_⟩
    by_contra hduplicate
    rw [if_pos hduplicate] at hgate
    cases hgate
  · rintro ⟨hall, hnodup⟩
    obtain ⟨hmanifested, hids⟩ := hreads hall
    have hchecks : context.artifacts.mapM (checkManifest platform pydantic context) =
        .ok (context.artifacts.map fun _ => ()) :=
      mapM_of_ok fun artifact hmem => checkManifest_eq_ok.mpr (hall artifact hmem)
    unfold integrityGate
    rw [hchecks, hids]
    simp only [bind, Except.bind]
    rw [if_neg (not_not.mpr ((identifiers_nodup hmanifested).mp hnodup))]
    exact ⟨_, rfl⟩

end Integrity

section Sources

variable {pydantic : Pydantic} {artifact : Json} {artifacts : List Json}

theorem validationError_raises {α : Type} (message : String) :
    Raises [.validationError] (validationError message : Except PyError α) :=
  .error (by simp)

theorem forbidExtra_raises (value : Json) (keys : List String) :
    Raises [.validationError] (forbidExtra value keys) := by
  unfold forbidExtra
  split
  · split
    · exact .ok _
    · exact validationError_raises _
  · exact validationError_raises _

theorem requiredStr_raises (value : Json) (key : String) :
    Raises [.validationError] (requiredStr value key) := by
  unfold requiredStr
  split
  · exact .ok _
  · exact validationError_raises _
  · exact validationError_raises _

theorem SourceFile.validate_raises (value : Json) :
    Raises [.validationError] (SourceFile.validate value) := by
  refine (forbidExtra_raises _ _).bind fun _ _ => ?_
  refine (requiredStr_raises _ _).bind fun path _ => ?_
  refine (requiredStr_raises _ _).bind fun content _ => ?_
  split
  · split
    · split
      · exact .ok _
      · exact validationError_raises _
    · exact validationError_raises _
  · exact validationError_raises _

/-- Reading a bundle raises nothing but a validation error. -/
theorem SourceBundle.validate_raises (value : Json) :
    Raises [.validationError] (SourceBundle.validate value) := by
  refine (forbidExtra_raises _ _).bind fun _ _ => ?_
  split
  · refine (Raises.mapM fun item _ => SourceFile.validate_raises item).bind fun files _ => ?_
    split
    · split
      · split
        · exact .ok _
        · exact validationError_raises _
      · exact validationError_raises _
    · exact validationError_raises _
  · exact validationError_raises _
  · exact validationError_raises _

theorem Manifested.hasKind (hmanifested : Manifested artifact) (kind : ArtifactKind) :
    hasKind kind artifact = .ok (isOfKind kind artifact) := by
  obtain ⟨text, htext⟩ := hmanifested.kind
  have hread : metadataOf artifact "kind" = .ok (.str text) := metadataOf_eq_ok_iff.mpr htext
  simp only [Aidlc.hasKind, hread, isOfKind, htext, bind, Except.bind, pure, Except.pure]
  simp [Json.pyEq]

/-- Filtering manifested artifacts by kind never raises. -/
theorem filterM_hasKind (hmanifested : ∀ artifact ∈ artifacts, Manifested artifact)
    (kind : ArtifactKind) :
    artifacts.filterM (hasKind kind) = .ok (artifacts.filter (isOfKind kind)) :=
  filterM_of_ok fun artifact hmem => (hmanifested artifact hmem).hasKind kind

theorem Manifested.producerOf (hmanifested : Manifested artifact) :
    producerOf artifact = .ok (textOf (fieldOf artifact "producing_agent")) := by
  obtain ⟨text, htext⟩ := hmanifested.producer
  have hread : metadataOf artifact "producing_agent" = .ok (.str text) :=
    metadataOf_eq_ok_iff.mpr htext
  simp only [Aidlc.producerOf, hread, htext, bind, Except.bind]
  rfl

/-- Keeping the latest of a producer adds that item alone. -/
theorem mem_setLatest {latest : List (String × Json)} {producer : String} {item : Json}
    {entry : String × Json} (hmem : entry ∈ setLatest latest producer item) :
    entry ∈ latest ∨ entry = (producer, item) := by
  unfold setLatest at hmem
  split at hmem
  · obtain ⟨old, hold, rfl⟩ := List.mem_map.mp hmem
    split
    · exact Or.inr rfl
    · exact Or.inl hold
  · simpa using hmem

/-- The current sources are among the artifacts. -/
theorem mem_of_mem_sourcesOf {source : Json} (hmem : source ∈ sourcesOf artifacts) :
    source ∈ artifacts := by
  unfold sourcesOf at hmem
  split at hmem
  · rename_i latest hlatest
    rw [List.mem_singleton.mp hmem]
    exact (List.mem_filter.mp (List.mem_of_getLast? hlatest)).1
  · obtain ⟨entry, hentry, rfl⟩ := List.mem_map.mp hmem
    have hfold : ∀ (changes : List Json) (latest : List (String × Json)),
        entry ∈ changes.foldl (fun latest item =>
          setLatest latest (textOf (fieldOf item "producing_agent")) item) latest →
        entry ∈ latest ∨ entry.2 ∈ changes := by
      intro changes
      induction changes with
      | nil => exact fun latest hmem => Or.inl hmem
      | cons change rest ih =>
          intro latest hmem
          rcases ih _ hmem with hold | hrest
          · rcases mem_setLatest hold with hlatest | rfl
            · exact Or.inl hlatest
            · exact Or.inr List.mem_cons_self
          · exact Or.inr (List.mem_cons_of_mem _ hrest)
    rcases hfold _ [] hentry with hnil | hchange
    · cases hnil
    · exact (List.mem_filter.mp hchange).1

/-- Over manifested artifacts the current sources are found without an error. -/
theorem currentSources_eq_ok (hmanifested : ∀ artifact ∈ artifacts, Manifested artifact) :
    currentSources artifacts = .ok (sourcesOf artifacts) := by
  unfold currentSources sourcesOf
  rw [filterM_hasKind hmanifested, filterM_hasKind hmanifested]
  simp only [bind, Except.bind]
  cases hlatest : (artifacts.filter (isOfKind .integratedSource)).getLast? with
  | some latest => rfl
  | none =>
      have hproduced : (artifacts.filter (isOfKind .codeChange)).mapM
          (fun item => do return (← producerOf item, item)) =
          .ok ((artifacts.filter (isOfKind .codeChange)).map fun item =>
            (textOf (fieldOf item "producing_agent"), item)) := by
        refine mapM_of_ok fun item hmem => ?_
        rw [(hmanifested item (List.mem_filter.mp hmem).1).producerOf]
        rfl
      simp only [bind, Except.bind] at hproduced
      rw [hproduced]
      simp only [List.foldl_map]
      rfl

/-- The content of a source is a valid bundle. -/
def isBundle (item : Json) : Bool :=
  match item.get? "content" with
  | some content => (SourceBundle.validate content).toBool
  | none => false

theorem Manifested.isExecutable (hmanifested : Manifested artifact) :
    isExecutable artifact = .ok (isBundle artifact) := by
  obtain ⟨fields, hcontent⟩ := hmanifested.content
  have hread : subscript artifact "content" = .ok (.obj fields) := subscript_eq_ok.mpr hcontent
  simp only [Aidlc.isExecutable, hread, isBundle, hcontent, bind, Except.bind]
  cases hvalidate : SourceBundle.validate (.obj fields) with
  | ok bundle => rfl
  | error error => 
      have htype : error.type = .validationError := by
        simpa using SourceBundle.validate_raises _ error hvalidate
      simp only [htype, if_true]
      rfl

end Sources

section Requirements

variable {pydantic : Pydantic} {artifacts : List Json}

/-- A required list counts as given exactly when it is not empty. -/
theorem truthy_required {content : Json} {name : String}
    (haccepts : requirementsSchema.accepts pydantic.reading content = true)
    (hmem : (name, true, Schema.list .str) ∈ requirementsFields) :
    Json.truthy (content.get? name) = true ↔ content.get? name ≠ some (.arr []) := by
  obtain ⟨entry, hentry, hlist⟩ := Schema.required_of_model haccepts hmem
  obtain ⟨items, rfl, -⟩ := Schema.items_of_list hlist
  rw [hentry]
  cases items <;> simp [Json.truthy]

variable (pydantic) in
/-- The requirements check passes exactly well-formed requirements with both lists given. -/
theorem checkRequirements_eq_ok {latest content : Json}
    (hcontent : latest.get? "content" = some content) :
    checkRequirements pydantic latest = .ok () ↔
      requirementsSchema.accepts pydantic.reading content = true ∧
        content.get? "functional_requirements" ≠ some (.arr []) ∧
        content.get? "acceptance_criteria" ≠ some (.arr []) := by
  unfold checkRequirements
  rw [except_bind_eq_ok]
  constructor
  · rintro ⟨read, hread, hcheck⟩
    rw [subscript_eq_ok, hcontent, Option.some.injEq] at hread
    subst hread
    obtain ⟨_, hvalid, hcheck⟩ := except_bind_eq_ok.mp hcheck
    have haccepts := Pydantic.validate_eq_ok.mp hvalid
    split at hcheck
    · cases hcheck
    · rename_i hnonempty
      simp only [Bool.or_eq_true, Bool.not_eq_true', not_or, Bool.not_eq_false] at hnonempty
      exact ⟨haccepts, (truthy_required haccepts (by simp [requirementsFields])).mp hnonempty.1,
        (truthy_required haccepts (by simp [requirementsFields])).mp hnonempty.2⟩
  · rintro ⟨haccepts, hfunctional, hacceptance⟩
    refine ⟨content, subscript_eq_ok.mpr hcontent, ?_⟩
    rw [Pydantic.validate_eq_ok.mpr haccepts]
    simp only [bind, Except.bind]
    rw [(truthy_required haccepts (by simp [requirementsFields])).mpr hfunctional,
      (truthy_required haccepts (by simp [requirementsFields])).mpr hacceptance]
    rfl

/-- A failed requirements check raises what the gate handles. -/
theorem checkRequirements_raises {latest content : Json}
    (hcontent : latest.get? "content" = some content) :
    Raises [.validationError, .valueError] (checkRequirements pydantic latest) := by
  unfold checkRequirements
  rw [subscript_eq_ok.mpr hcontent]
  refine Raises.bind (Raises.ok content) fun value _ => Raises.bind ?_ fun _ _ => ?_
  · unfold Pydantic.validate
    split
    · exact .ok _
    · exact .error (by simp)
  · split
    · exact .error (by simp)
    · exact .ok _

variable (pydantic) in
/-- The requirements gate returns, and passes on nonempty valid requirements. -/
theorem requirementsGate_ok (hmanifested : ∀ artifact ∈ artifacts, Manifested artifact) :
    ∃ gate, requirementsGate pydantic artifacts = .ok gate ∧
      (gate.status = .passed ↔ ∃ latest content,
        (artifacts.filter (isOfKind .requirementsSpec)).getLast? = some latest ∧
          latest.get? "content" = some content ∧
          requirementsSchema.accepts pydantic.reading content = true ∧
          content.get? "functional_requirements" ≠ some (.arr []) ∧
          content.get? "acceptance_criteria" ≠ some (.arr [])) := by
  unfold requirementsGate
  rw [filterM_hasKind hmanifested]
  simp only [bind, Except.bind]
  cases hlatest : (artifacts.filter (isOfKind .requirementsSpec)).getLast? with
  | none => exact ⟨_, rfl, by simp⟩
  | some latest =>
      have hmem : latest ∈ artifacts :=
        (List.mem_filter.mp (List.mem_of_getLast? hlatest)).1
      obtain ⟨fields, hcontent⟩ := (hmanifested latest hmem).content
      have hiff := checkRequirements_eq_ok pydantic hcontent
      simp only [(hmanifested latest hmem).artifactIdOf]
      cases hcheck : checkRequirements pydantic latest with
      | ok _ =>
          refine ⟨_, rfl, ?_⟩
          simp only [true_iff]
          exact ⟨latest, _, rfl, hcontent, hiff.mp hcheck⟩
      | error error =>
          have htype := checkRequirements_raises hcontent error hcheck
          simp only [htype, if_true]
          refine ⟨_, rfl, ?_⟩
          simp only [reduceCtorEq, false_iff]
          rintro ⟨other, content, hother, hfound, hrest⟩
          cases hother
          rw [hcontent, Option.some.injEq] at hfound
          subst hfound
          rw [hiff.mpr hrest] at hcheck
          cases hcheck

end Requirements

section Reports

variable {pydantic : Pydantic} {kind : ArtifactKind} {source artifact report execution : Json}
  {runtime : String}

theorem getAttr_obj (fields : List (String × Json)) (key : String) :
    getAttr (.obj fields) key = .ok ((Json.obj fields).get? key) := rfl

/-- A pattern matches exactly texts that satisfy it. -/
theorem matchesText_eq_ok {test : String → Bool} {value : Json} :
    matchesText test value = .ok true ↔ ∃ text, value = .str text ∧ test text = true := by
  cases value with
  | str text =>
      change Except.ok (test text) = .ok true ↔ _
      simp
  | null | bool | int | float | arr | obj => simp [matchesText, typeError]

theorem matchesText_raises (test : String → Bool) (value : Json) :
    Raises defects (matchesText test value) := by
  unfold matchesText
  split
  · exact .ok _
  all_goals exact .error (by simp [defects])

theorem isMember_raises (needle container : Json) : Raises defects (isMember needle container) := by
  unfold isMember
  split
  · exact .ok _
  all_goals exact .error (by simp [defects])

/-- Membership holds exactly in a list that has the text. -/
theorem isMember_eq_ok {text : String} {container : Json} :
    isMember (.str text) container = .ok true ↔
      ∃ items, container = .arr items ∧ .str text ∈ items := by
  cases container with
  | arr items =>
      change Except.ok (items.any _) = .ok true ↔ _
      simp only [Except.ok.injEq, List.any_eq_true, Json.pyEq_str, Json.arr.injEq]
      simp
  | null | bool | int | float | str | obj => simp [isMember, typeError]

/-- An image is pinned exactly when its text is a digest. -/
theorem pinned_eq_ok {image : Option Json} :
    matchesText isImageDigest (if Json.truthy image then image.getD .null else .str "") =
        .ok true ↔
      ∃ text, image = some (.str text) ∧ isImageDigest text = true := by
  rw [matchesText_eq_ok]
  constructor
  · rintro ⟨text, hread, hdigest⟩
    split at hread
    · cases image with
      | none => cases hread
      | some value => exact ⟨text, by rw [← hread]; rfl, hdigest⟩
    · cases hread
      cases hdigest
  · rintro ⟨text, rfl, hdigest⟩
    refine ⟨text, ?_, hdigest⟩
    by_cases hempty : text = ""
    · subst hempty
      cases hdigest
    · have htruthy : Json.truthy (some (.str text)) = true := by
        unfold Json.truthy
        split <;> simp_all
      rw [htruthy]
      rfl

/-- An execution is clean exactly under the named conditions on its record. -/
theorem cleanExecution_eq_ok {status : Json} (fields : List (String × Json)) :
    cleanExecution runtime status (.obj fields) = .ok true ↔
      status = .str "completed" ∧ (Json.obj fields).get? "runtime" = some (.str runtime) ∧
        (∃ code, (Json.obj fields).get? "exit_code" = some code ∧
          Json.pyEq (.int 0) code = true) ∧
        (Json.obj fields).get? "cleanup_succeeded" = some (.bool true) ∧
        (Json.obj fields).get? "timed_out" = some (.bool false) ∧
        (Json.obj fields).get? "output_truncated" = some (.bool false) ∧
        (Json.obj fields).get? "oom_killed" = some (.bool false) ∧
        ∃ image, (Json.obj fields).get? "image" = some (.str image) ∧
          isImageDigest image = true := by
  unfold cleanExecution
  simp only [getAttr_obj, bind, Except.bind]
  constructor
  · intro hclean
    split at hclean
    · cases hclean
    · rename_i hconditions
      simp only [Bool.or_eq_true, Bool.not_eq_true', decide_eq_true_eq, not_or, not_not,
        Bool.not_eq_false] at hconditions
      obtain ⟨⟨⟨⟨⟨⟨hstatus, hruntime⟩, hcode⟩, hcleanup⟩, htime⟩, houtput⟩, hmemory⟩ := hconditions
      exact ⟨Json.pyEq_str.mp hstatus, hruntime, Option.any_eq_true _ _ |>.mp hcode, hcleanup,
        htime, houtput, hmemory, pinned_eq_ok.mp hclean⟩
  · rintro ⟨rfl, hruntime, ⟨code, hcode, hzero⟩, hcleanup, htime, houtput, hmemory, hpinned⟩
    rw [hruntime, hcode, hcleanup, htime, houtput, hmemory, if_neg]
    · exact pinned_eq_ok.mpr hpinned
    · simp [hzero, Json.pyEq_str]

theorem cleanExecution_raises {status : Json} (fields : List (String × Json)) :
    Raises defects (cleanExecution runtime status (.obj fields)) := by
  unfold cleanExecution
  simp only [getAttr_obj, bind, Except.bind]
  split
  · exact .ok _
  · exact matchesText_raises _ _

theorem execution_obj (haccepts : executionSchema.accepts pydantic.reading execution = true) :
    ∃ fields, execution = .obj fields := Schema.fields_of_model haccepts

/-- The execution check passes exactly the reports of clean executions. -/
theorem checkExecution_eq_ok :
    checkExecution pydantic report runtime = .ok () ↔
      ∃ execution, report.get? "execution" = some execution ∧
        CleanExecution pydantic runtime report execution := by
  unfold checkExecution
  simp only [except_bind_eq_ok, subscript_eq_ok]
  constructor
  · rintro ⟨execution, hexecution, _, hvalid, status, hstatus, clean, hclean, hresult⟩
    have haccepts := Pydantic.validate_eq_ok.mp hvalid
    cases clean with
    | false => cases hresult
    | true =>
        obtain ⟨fields, rfl⟩ := execution_obj haccepts
        obtain ⟨rfl, hruntime, hcode, hcleanup, htime, houtput, hmemory, hpinned⟩ :=
          (cleanExecution_eq_ok fields).mp hclean
        exact ⟨_, hexecution, haccepts, hstatus, hruntime, hcode, hcleanup, htime, houtput,
          hmemory, hpinned⟩
  · rintro ⟨execution, hexecution, hclean⟩
    obtain ⟨fields, rfl⟩ := execution_obj hclean.limits
    refine ⟨_, hexecution, (), Pydantic.validate_eq_ok.mpr hclean.limits, _, hclean.completed,
      true, ?_, rfl⟩
    exact (cleanExecution_eq_ok fields).mpr ⟨rfl, hclean.runtime, hclean.exit_code,
      hclean.cleaned_up, hclean.in_time, hclean.complete_output, hclean.in_memory, hclean.pinned⟩

theorem checkExecution_raises : Raises defects (checkExecution pydantic report runtime) := by
  refine (subscript_raises _ _).bind fun execution _ => ?_
  refine (validate_raises _ _ _).bind fun _ hvalid => ?_
  obtain ⟨fields, rfl⟩ := execution_obj (Pydantic.validate_eq_ok.mp hvalid)
  refine (subscript_raises _ _).bind fun status _ => ?_
  refine (cleanExecution_raises fields).bind fun clean _ => ?_
  split
  · exact .ok _
  · exact valueError_raises _

/-- The analysis check passes exactly reports about this source's run without findings. -/
theorem checkAnalysis_eq_ok (hsource : Manifested source) :
    checkAnalysis pydantic source report = .ok () ↔
      analysisSchema.accepts pydantic.reading report = true ∧
        report.get? "run_id" = fieldOf source "workflow_run_id" ∧
        (report.get? "findings" = none ∨ report.get? "findings" = some (.arr [])) := by
  obtain ⟨run, hrun⟩ := hsource.run
  unfold checkAnalysis
  simp only [except_bind_eq_ok, subscript_eq_ok, metadataOf_eq_ok_iff, hrun, Option.some.injEq]
  constructor
  · rintro ⟨_, hvalid, found, hfound, _, rfl, hcheck⟩
    have haccepts := Pydantic.validate_eq_ok.mp hvalid
    have hfindings := Schema.field_of_model haccepts
      (show ("findings", false, Schema.list findingSchema) ∈ analysisFields by
        simp [analysisFields])
    split at hcheck
    · cases hcheck
    · rename_i hsame
      simp only [Bool.not_eq_true', Bool.not_eq_false] at hsame
      rw [Json.pyEq_str.mp hsame] at hfound
      refine ⟨haccepts, hfound, ?_⟩
      cases hreport : report.get? "findings" with
      | none => exact Or.inl rfl
      | some findings =>
          rw [hreport] at hfindings hcheck
          obtain ⟨items, rfl, -⟩ := Schema.items_of_list hfindings
          cases items with
          | nil => exact Or.inr rfl
          | cons finding rest => cases hcheck
  · rintro ⟨haccepts, hfound, hfindings⟩
    refine ⟨(), Pydantic.validate_eq_ok.mpr haccepts, _, hfound, _, rfl, ?_⟩
    rw [if_neg (by simp [Json.pyEq_str])]
    rcases hfindings with hnone | hempty
    · rw [hnone]
      rfl
    · rw [hempty]
      rfl

theorem checkAnalysis_raises : Raises defects (checkAnalysis pydantic source report) := by
  refine (validate_raises _ _ _).bind fun _ _ => ?_
  refine (subscript_raises _ _).bind fun _ _ => ?_
  refine (metadataOf_raises _ _).bind fun _ _ => ?_
  split
  · exact valueError_raises _
  · split
    · exact valueError_raises _
    · exact .ok _

/-- The sandbox check compares the recorded execution with the manifest's. -/
theorem checkSandbox_eq_ok (fields : List (String × Json)) :
    checkSandbox kind artifact (.obj fields) = .ok () ↔
      (∃ manifest recorded, fieldOf artifact "execution" = some manifest ∧
        (Json.obj fields).get? "execution" = some recorded ∧
        Json.pyEq manifest recorded = true) ∧
      (kind = .testReport → ∃ text, (Json.obj fields).get? "stderr" = some (.str text) ∧
        showsExecutedTest text = true) := by
  unfold checkSandbox
  simp only [except_bind_eq_ok, subscript_eq_ok, metadataOf_eq_ok_iff]
  constructor
  · rintro ⟨manifest, hmanifest, recorded, hrecorded, hcheck⟩
    split at hcheck
    · cases hcheck
    · rename_i hsame
      simp only [Bool.not_eq_true', Bool.not_eq_false] at hsame
      refine ⟨⟨manifest, recorded, hmanifest, hrecorded, hsame⟩, ?_⟩
      rintro rfl
      simp only [if_true, except_bind_eq_ok, getAttr_obj, Except.ok.injEq] at hcheck
      obtain ⟨_, rfl, shown, hshown, hcheck⟩ := hcheck
      cases shown with
      | false => cases hcheck
      | true =>
          obtain ⟨text, htext, htests⟩ := matchesText_eq_ok.mp hshown
          cases hstderr : (Json.obj fields).get? "stderr" with
          | none =>
              rw [hstderr] at htext
              cases htext
              cases htests
          | some value =>
              rw [hstderr] at htext
              exact ⟨text, congrArg some htext, htests⟩
  · rintro ⟨⟨manifest, recorded, hmanifest, hrecorded, hsame⟩, htests⟩
    refine ⟨manifest, hmanifest, recorded, hrecorded, ?_⟩
    rw [if_neg (by simp [hsame])]
    by_cases hkind : kind = .testReport
    · obtain ⟨text, hstderr, hshown⟩ := htests hkind
      rw [if_pos hkind, getAttr_obj, hstderr]
      simp only [bind, Except.bind, Option.getD_some]
      rw [matchesText_eq_ok.mpr ⟨text, rfl, hshown⟩]
      rfl
    · rw [if_neg hkind]
      rfl

theorem checkSandbox_raises (fields : List (String × Json)) :
    Raises defects (checkSandbox kind artifact (.obj fields)) := by
  refine (metadataOf_raises _ _).bind fun _ _ => ?_
  refine (subscript_raises _ _).bind fun _ _ => ?_
  split
  · exact valueError_raises _
  · split
    · refine (Raises.ok _).bind fun _ _ => (matchesText_raises _ _).bind fun shown _ => ?_
      split
      · exact .ok _
      · exact valueError_raises _
    · exact .ok _

end Reports

section Checks

variable {pydantic : Pydantic} {kind : ArtifactKind} {source artifact report execution : Json}
  {runtime : String}

/-- The origin check passes exactly reports about this very source. -/
theorem checkOrigin_eq_ok (hsource : Manifested source) :
    checkOrigin kind source artifact report = .ok () ↔
      report.get? (reportShape kind).hashKey = fieldOf source "content_sha256" ∧
        (∃ parents, fieldOf artifact "parent_artifact_ids" = some (.arr parents) ∧
          ∃ parent ∈ parents, fieldOf source "artifact_id" = some parent) ∧
        fieldOf artifact "producing_agent" = some (.str (reportShape kind).producer) := by
  obtain ⟨hash, hhash⟩ := hsource.hash
  obtain ⟨text, hid⟩ := hsource.identifier
  have hread : artifactIdOf source = .ok text := by
    rw [artifactIdOf_eq_ok, metadataOf_eq_ok_iff, hid]
  unfold checkOrigin
  simp only [except_bind_eq_ok, subscript_eq_ok, metadataOf_eq_ok_iff, hhash, hid,
    Option.some.injEq]
  constructor
  · rintro ⟨found, hfound, _, rfl, hcheck⟩
    split at hcheck
    · cases hcheck
    · rename_i hsame
      simp only [Bool.not_eq_true', Bool.not_eq_false] at hsame
      rw [Json.pyEq_str.mp hsame] at hfound
      simp only [hread, except_bind_eq_ok, metadataOf_eq_ok_iff, Except.ok.injEq] at hcheck
      obtain ⟨_, rfl, container, hcontainer, member, hmember, hcheck⟩ := hcheck
      cases member with
      | false => cases hcheck
      | true =>
          obtain ⟨parents, rfl, hparent⟩ := isMember_eq_ok.mp hmember
          simp only [Bool.not_true, Bool.false_eq_true, if_false, except_bind_eq_ok,
            metadataOf_eq_ok_iff] at hcheck
          obtain ⟨producer, hproducer, hcheck⟩ := hcheck
          split at hcheck
          · cases hcheck
          · rename_i htrusted
            simp only [Bool.not_eq_true', Bool.not_eq_false] at htrusted
            rw [Json.pyEq_str.mp htrusted] at hproducer
            exact ⟨hfound, ⟨parents, hcontainer, _, hparent, rfl⟩, hproducer⟩
  · rintro ⟨hfound, ⟨parents, hcontainer, _, hparent, rfl⟩, hproducer⟩
    refine ⟨_, hfound, _, rfl, ?_⟩
    rw [if_neg (by simp [Json.pyEq_str])]
    simp only [hread, except_bind_eq_ok, metadataOf_eq_ok_iff, Except.ok.injEq]
    refine ⟨text, rfl, _, hcontainer, true, isMember_eq_ok.mpr ⟨parents, rfl, hparent⟩, ?_⟩
    simp only [Bool.not_true, Bool.false_eq_true, if_false, except_bind_eq_ok,
      metadataOf_eq_ok_iff]
    refine ⟨_, hproducer, ?_⟩
    rw [if_neg (by simp [Json.pyEq_str])]
    rfl

theorem checkOrigin_raises : Raises defects (checkOrigin kind source artifact report) := by
  refine (subscript_raises _ _).bind fun _ _ => (metadataOf_raises _ _).bind fun _ _ => ?_
  split
  · exact valueError_raises _
  · refine (artifactIdOf_raises _).bind fun _ _ => (metadataOf_raises _ _).bind fun _ _ => ?_
    refine (isMember_raises _ _).bind fun _ _ => ?_
    split
    · exact valueError_raises _
    · refine (metadataOf_raises _ _).bind fun _ _ => ?_
      split
      · exact valueError_raises _
      · exact .ok _

variable (pydantic kind artifact runtime) in
/-- A report passes all its checks exactly when it supports the source. -/
theorem checkReport_eq_ok (hsource : Manifested source) (fields : List (String × Json)) :
    checkReport pydantic kind source artifact (.obj fields) runtime = .ok () ↔
      Supports pydantic kind source artifact (.obj fields) runtime := by
  unfold checkReport
  simp only [except_bind_eq_ok]
  constructor
  · rintro ⟨_, horigin, hrest⟩
    obtain ⟨hhash, hparent, hproducer⟩ := (checkOrigin_eq_ok hsource).mp horigin
    by_cases hkind : kind = .staticAnalysisReport
    · rw [if_pos hkind, except_bind_eq_ok] at hrest
      obtain ⟨_, hanalysis, hexecution⟩ := hrest
      refine ⟨hhash, hparent, hproducer, fun _ => (checkAnalysis_eq_ok hsource).mp hanalysis,
        fun hother => absurd hkind hother, ?_, checkExecution_eq_ok.mp hexecution⟩
      rintro rfl
      cases hkind
    · rw [if_neg hkind, except_bind_eq_ok] at hrest
      obtain ⟨_, hsandbox, hexecution⟩ := hrest
      obtain ⟨hmanifest, htests⟩ := (checkSandbox_eq_ok fields).mp hsandbox
      exact ⟨hhash, hparent, hproducer, fun hother => absurd hother hkind, fun _ => hmanifest,
        htests, checkExecution_eq_ok.mp hexecution⟩
  · intro hsupports
    refine ⟨(), (checkOrigin_eq_ok hsource).mpr
      ⟨hsupports.hash, hsupports.parent, hsupports.producer⟩, ?_⟩
    have hexecution : checkExecution pydantic (.obj fields) runtime = .ok () :=
      checkExecution_eq_ok.mpr hsupports.execution
    by_cases hkind : kind = .staticAnalysisReport
    · rw [if_pos hkind, except_bind_eq_ok]
      exact ⟨(), (checkAnalysis_eq_ok hsource).mpr (hsupports.analysis hkind), hexecution⟩
    · rw [if_neg hkind, except_bind_eq_ok]
      exact ⟨(), (checkSandbox_eq_ok fields).mpr ⟨hsupports.manifest hkind, hsupports.tests⟩,
        hexecution⟩

/-- A report check fails with an exception the gate turns into a failure. -/
theorem checkReport_raises (fields : List (String × Json)) :
    Raises defects (checkReport pydantic kind source artifact (.obj fields) runtime) := by
  refine checkOrigin_raises.bind fun _ _ => ?_
  split
  · exact checkAnalysis_raises.bind fun _ _ => checkExecution_raises
  · exact (checkSandbox_raises fields).bind fun _ _ => checkExecution_raises

end Checks

section Execution

variable {pydantic : Pydantic} {kind : ArtifactKind} {source artifact report : Json}
  {artifacts sources : List Json} {runtime : String}

/-- The candidate reports of a manifested artifact are found without an error. -/
theorem Manifested.candidatesIn (hmanifested : Manifested artifact) (text : String) :
    candidatesIn kind text artifact = .ok (candidatesOf kind (some (.str text)) artifact) := by
  obtain ⟨fields, hcontent⟩ := hmanifested.content
  unfold Aidlc.candidatesIn candidatesOf reportsOf
  rw [hmanifested.hasKind, subscript_eq_ok.mpr hcontent, hcontent]
  cases isOfKind kind artifact with
  | false => rfl
  | true =>
      have hnames : ∀ report : Json,
          ((report.get? (reportShape kind).idKey).any fun id => Json.pyEq id (.str text)) =
            (report.get? (reportShape kind).idKey == some (.str text)) := by
        intro report
        rw [Bool.eq_iff_iff, Option.any_eq_true, beq_iff_eq]
        simp only [Json.pyEq_str]
        simp
      simp only [bind, Except.bind, if_true, getAttr_obj, hnames]
      cases hreports : (Json.obj fields).get? "reports" with
      | none => rfl
      | some reports => cases reports <;> rfl

theorem report_obj {key : String} {value : Json} (hget : report.get? key = some value) :
    ∃ fields, report = .obj fields := by
  cases report with
  | obj fields => exact ⟨fields, rfl⟩
  | null | bool | int | float | str | arr => cases hget

/-- A candidate is an object, and its artifact one of those searched. -/
theorem mem_candidates {text : String}
    (hmem : (artifact, report) ∈ artifacts.flatMap (candidatesOf kind (some (.str text)))) :
    artifact ∈ artifacts ∧ ∃ fields, report = .obj fields := by
  obtain ⟨item, hitem, hcandidate⟩ := List.mem_flatMap.mp hmem
  unfold candidatesOf at hcandidate
  split at hcandidate
  · obtain ⟨found, hfound, heq⟩ := List.mem_map.mp hcandidate
    cases heq
    have hnamed := (List.mem_filter.mp hfound).2
    rw [beq_iff_eq] at hnamed
    exact ⟨hitem, report_obj hnamed⟩
  · cases hcandidate

/-- The latest report about a source is trusted evidence. -/
def Supported (pydantic : Pydantic) (kind : ArtifactKind) (artifacts : List Json)
    (runtime : String) (source : Json) : Prop :=
  ∃ artifact report, latestReport kind source artifacts = some (artifact, report) ∧
    Supports pydantic kind source artifact report runtime

variable (pydantic kind runtime) in
/-- One round of the loop over the sources: nothing is missing and nothing has
failed afterwards exactly if that was so before and the source is supported. -/
theorem examineSource_ok (hmanifested : ∀ artifact ∈ artifacts, Manifested artifact)
    (hsource : Manifested source) (examined : Examined) :
    ∃ next, examineSource pydantic kind artifacts runtime examined source = .ok next ∧
      ((next.missing = [] ∧ next.failures = []) ↔
        (examined.missing = [] ∧ examined.failures = []) ∧
          Supported pydantic kind artifacts runtime source) := by
  obtain ⟨text, hid⟩ := hsource.identifier
  have hread : artifactIdOf source = .ok text := by
    rw [artifactIdOf_eq_ok, metadataOf_eq_ok_iff, hid]
  have hcandidates : artifacts.mapM (candidatesIn kind text) =
      .ok (artifacts.map (candidatesOf kind (some (.str text)))) :=
    mapM_of_ok fun artifact hmem => (hmanifested artifact hmem).candidatesIn text
  have hlatest : latestReport kind source artifacts =
      (artifacts.map (candidatesOf kind (some (.str text)))).flatten.getLast? := by
    rw [latestReport, hid, List.flatMap_def]
  unfold examineSource Supported
  rw [hread, hlatest]
  simp only [bind, Except.bind, hcandidates]
  cases hfound : (artifacts.map (candidatesOf kind (some (.str text)))).flatten.getLast? with
  | none => exact ⟨_, rfl, by simp⟩
  | some candidate =>
      obtain ⟨artifact, report⟩ := candidate
      have hmem : (artifact, report) ∈
          artifacts.flatMap (candidatesOf kind (some (.str text))) := by
        rw [List.flatMap_def]
        exact List.mem_of_getLast? hfound
      obtain ⟨hartifact, fields, rfl⟩ := mem_candidates hmem
      have hiff := checkReport_eq_ok pydantic kind artifact runtime hsource fields
      simp only [(hmanifested artifact hartifact).artifactIdOf]
      cases hcheck : checkReport pydantic kind source artifact (.obj fields) runtime with
      | ok _ =>
          refine ⟨_, rfl, ?_⟩
          have hsupports := hiff.mp hcheck
          constructor
          · exact fun hnone => ⟨hnone, artifact, _, rfl, hsupports⟩
          · exact fun hboth => hboth.1
      | error error =>
          have htype := checkReport_raises fields error hcheck
          simp only [htype, if_true]
          refine ⟨_, rfl, ?_⟩
          constructor
          · intro hnone
            exact absurd hnone.2 (by simp)
          · rintro ⟨-, other, found, heq, hsupports⟩
            cases heq
            rw [hiff.mpr hsupports] at hcheck
            cases hcheck

variable (pydantic kind runtime) in
/-- Nothing is missing and nothing fails exactly when every source has its support. -/
theorem foldlM_examineSource (hmanifested : ∀ artifact ∈ artifacts, Manifested artifact)
    (hsources : ∀ source ∈ sources, Manifested source) (examined : Examined) :
    ∃ last, sources.foldlM (examineSource pydantic kind artifacts runtime) examined = .ok last ∧
      ((last.missing = [] ∧ last.failures = []) ↔
        (examined.missing = [] ∧ examined.failures = []) ∧
          ∀ source ∈ sources, Supported pydantic kind artifacts runtime source) := by
  induction sources generalizing examined with
  | nil => exact ⟨examined, rfl, by simp⟩
  | cons source rest ih =>
      obtain ⟨next, hnext, hiff⟩ := examineSource_ok pydantic kind runtime hmanifested
        (hsources source List.mem_cons_self) examined
      obtain ⟨last, hlast, hrest⟩ :=
        ih (fun other hmem => hsources other (List.mem_cons_of_mem _ hmem)) next
      refine ⟨last, ?_, ?_⟩
      · rw [List.foldlM_cons, hnext]
        exact hlast
      · rw [hrest, hiff, List.forall_mem_cons]
        exact and_assoc

variable (pydantic kind runtime) in
/-- An execution gate returns; it passes when every source has trusted evidence. -/
theorem executionGate_ok (hmanifested : ∀ artifact ∈ artifacts, Manifested artifact)
    (hsources : ∀ source ∈ sources, Manifested source) (name : String) (ready : Bool) :
    ∃ gate, executionGate pydantic name kind sources artifacts runtime ready = .ok gate ∧
      (gate.status = .passed ↔ ready = true ∧
        ∀ source ∈ sources, Supported pydantic kind artifacts runtime source) := by
  unfold executionGate
  cases ready with
  | false => exact ⟨_, rfl, by simp⟩
  | true =>
      obtain ⟨last, hlast, hiff⟩ := foldlM_examineSource pydantic kind runtime hmanifested
        hsources ⟨[], [], []⟩
      simp only [Bool.not_true, Bool.false_eq_true, if_false, hlast, bind, Except.bind]
      refine ⟨_, rfl, ?_⟩
      simp only [true_and] at hiff ⊢
      rw [← hiff]
      by_cases hmissing : last.missing = []
      · by_cases hfailures : last.failures = [] <;> simp [hmissing, hfailures]
      · simp [hmissing]

end Execution

section Verdict

variable {platform : Platform} {pydantic : Pydantic} {context : AgentContext Json}
  {runtime : String} {artifact : Json}

/-- The verdict is passed exactly when every gate is. -/
theorem verdictOf_eq_passed {gates : List (QualityGate String)} :
    verdictOf gates = .passed ↔ ∀ gate ∈ gates, gate.status = .passed := by
  unfold verdictOf
  constructor
  · intro hverdict gate hmem
    split at hverdict
    · cases hverdict
    · rename_i hexecuted
      split at hverdict
      · cases hverdict
      · rename_i hfailed
        simp only [List.any_eq_true, beq_iff_eq, not_exists, not_and] at hexecuted hfailed
        cases hstatus : gate.status with
        | passed => rfl
        | failed => exact absurd hstatus (hfailed gate hmem)
        | notExecuted => exact absurd hstatus (hexecuted gate hmem)
  · intro hall
    have hnone : ∀ status : GateStatus, status ≠ .passed →
        (gates.any fun gate => gate.status == status) = false := by
      intro status hstatus
      rw [List.any_eq_false]
      intro gate hmem
      rw [hall gate hmem, beq_iff_eq]
      exact hstatus.symm
    rw [hnone .notExecuted (by decide), hnone .failed (by decide)]
    rfl

/-- An executable artifact is one whose content validates as a source bundle. -/
theorem isBundle_iff : isBundle artifact = true ↔
    ∃ content bundle, artifact.get? "content" = some content ∧
      SourceBundle.validate content = .ok bundle := by
  unfold isBundle
  cases hcontent : artifact.get? "content" with
  | none => simp
  | some content =>
      cases hvalidate : SourceBundle.validate content with
      | ok bundle => simp [hvalidate, Except.toBool]
      | error error => simp [hvalidate, Except.toBool]

/-- Whether a bundle has an interface is always decided. -/
theorem hasInterface_ok (hbundle : isBundle artifact = true) :
    ∃ found, hasInterface artifact = .ok found := by
  obtain ⟨content, bundle, hcontent, hvalidate⟩ := isBundle_iff.mp hbundle
  unfold hasInterface
  rw [subscript_eq_ok.mpr hcontent]
  simp only [bind, Except.bind, hvalidate]
  exact ⟨_, rfl⟩

variable (pydantic runtime) in
/-- The gates on sources with sound manifests return a report. -/
theorem evaluateSource_ok (hmanifested : ∀ artifact ∈ context.artifacts, Manifested artifact)
    {integrity : QualityGate String} (hintegrity : integrity.status = .passed) :
    ∃ report, evaluateSource pydantic context runtime integrity = .ok report ∧
      (report.verdict = .passed ↔
        (∃ latest content,
          (context.artifacts.filter (isOfKind .requirementsSpec)).getLast? = some latest ∧
            latest.get? "content" = some content ∧
            requirementsSchema.accepts pydantic.reading content = true ∧
            content.get? "functional_requirements" ≠ some (.arr []) ∧
            content.get? "acceptance_criteria" ≠ some (.arr [])) ∧
        sourcesOf context.artifacts ≠ [] ∧
        (∀ source ∈ sourcesOf context.artifacts, isBundle source = true) ∧
        ∀ kind ∈ [ArtifactKind.buildReport, .testReport, .staticAnalysisReport],
          ∀ source ∈ sourcesOf context.artifacts,
            Supported pydantic kind context.artifacts runtime source) := by
  have hsources : ∀ source ∈ sourcesOf context.artifacts, Manifested source :=
    fun source hmem => hmanifested source (mem_of_mem_sourcesOf hmem)
  -- The gates after the source gate look at the sources that are bundles.
  generalize hexecutable : (sourcesOf context.artifacts).filter isBundle = executable
  have hbundles : ∀ source ∈ executable,
      source ∈ sourcesOf context.artifacts ∧ isBundle source = true := by
    intro source hmem
    rw [← hexecutable] at hmem
    exact List.mem_filter.mp hmem
  generalize hready : (!(sourcesOf context.artifacts).isEmpty &&
    executable.length == (sourcesOf context.artifacts).length) = ready
  have hgates := fun kind name => executionGate_ok pydantic kind runtime hmanifested
    (fun source hmem => hsources source (hbundles source hmem).1) name ready
  obtain ⟨requirements, hrequirements, hspec⟩ := requirementsGate_ok pydantic hmanifested
  obtain ⟨build, hbuild, hbuildIff⟩ := hgates .buildReport "build"
  obtain ⟨tests, htests, htestsIff⟩ := hgates .testReport "unit_tests"
  obtain ⟨analysis, hanalysis, hanalysisIff⟩ := hgates .staticAnalysisReport "static_analysis"
  obtain ⟨interfaces, hinterfaces, -⟩ := mapM_returns fun source hmem =>
    (hasInterface_ok (hbundles source hmem).2).imp fun _ hfound => ⟨hfound, trivial⟩
  have hids : ∀ items : List Json, (∀ item ∈ items, Manifested item) →
      items.mapM artifactIdOf =
        .ok (items.map fun item => textOf (fieldOf item "artifact_id")) :=
    fun items hall => mapM_of_ok fun item hmem => (hall item hmem).artifactIdOf
  have hfilter : (sourcesOf context.artifacts).filterM isExecutable = .ok executable := by
    rw [← hexecutable]
    exact filterM_of_ok fun source hmem => (hsources source hmem).isExecutable
  unfold evaluateSource
  rw [hrequirements, currentSources_eq_ok hmanifested]
  simp only [bind, Except.bind, hfilter, hids _ hsources, hready, hbuild, htests, hanalysis,
    hinterfaces, hids executable fun source hmem => hsources source (hbundles source hmem).1]
  refine ⟨_, rfl, ?_⟩
  have hreadyIff : ready = true ↔ sourcesOf context.artifacts ≠ [] ∧
      ∀ source ∈ sourcesOf context.artifacts, isBundle source = true := by
    rw [← hready, ← hexecutable, Bool.and_eq_true, beq_iff_eq, List.length_filter_eq_length_iff]
    simp
  -- Where the source gate passes these are all of them.
  have hall : ready = true → executable = sourcesOf context.artifacts := by
    intro htrue
    rw [← hexecutable]
    exact List.filter_eq_self.mpr (hreadyIff.mp htrue).2
  have hsource : (sourceGate ready ((sourcesOf context.artifacts).map fun item =>
      textOf (fieldOf item "artifact_id"))).status = .passed ↔ ready = true := by
    cases ready <;> simp [sourceGate]
  rw [verdictOf_eq_passed]
  simp only [List.forall_mem_cons, List.not_mem_nil, false_imp_iff, implies_true, hintegrity,
    true_and, and_true, hspec, hsource, hbuildIff, htestsIff, hanalysisIff]
  constructor
  · rintro ⟨hrequired, htrue, ⟨-, hb⟩, ⟨-, ht⟩, -, ha⟩
    rw [hall htrue] at hb ht ha
    exact ⟨hrequired, (hreadyIff.mp htrue).1, (hreadyIff.mp htrue).2, hb, ht, ha⟩
  · rintro ⟨hrequired, hnonempty, hvalid, hb, ht, ha⟩
    have htrue := hreadyIff.mpr ⟨hnonempty, hvalid⟩
    rw [hall htrue]
    exact ⟨hrequired, htrue, ⟨htrue, hb⟩, ⟨htrue, ht⟩, htrue, ha⟩

/-- The gates never raise on artifacts with object contents, and pass exactly on
trusted evidence about the current source. -/
theorem passed_iff_trusted (platform : Platform) (pydantic : Pydantic)
    (context : AgentContext Json) (runtime : String)
    (hcontents : ∀ artifact ∈ context.artifacts, ∀ content,
      artifact.get? "content" = some content → ∃ fields, content = .obj fields) :
    ∃ report, evaluateGates platform pydantic context runtime = .ok report ∧
      (report.verdict = .passed ↔ Trusted platform pydantic context runtime) := by
  have hintegrity := integrityGate_eq_ok platform pydantic hcontents
  unfold evaluateGates
  cases hgate : integrityGate platform pydantic context with
  | error error =>
      have htype := integrityGate_raises error hgate
      simp only [htype, if_true]
      refine ⟨_, rfl, ?_⟩
      simp only [reduceCtorEq, false_iff]
      intro htrusted
      obtain ⟨gate, hok⟩ := hintegrity.mpr ⟨htrusted.manifests, htrusted.distinct⟩
      rw [hgate] at hok
      cases hok
  | ok gate =>
      obtain ⟨hmanifests, hdistinct⟩ := hintegrity.mp ⟨gate, hgate⟩
      have hmanifested : ∀ artifact ∈ context.artifacts, Manifested artifact :=
        fun artifact hmem => (hmanifests artifact hmem).manifested (hcontents artifact hmem)
      obtain ⟨report, hreport, hiff⟩ :=
        evaluateSource_ok pydantic runtime hmanifested (integrityGate_status hgate)
      refine ⟨report, hreport, hiff.trans ?_⟩
      constructor
      · rintro ⟨hrequirements, hsources, hbundles, hevidence⟩
        exact ⟨hmanifests, hdistinct, hrequirements, hsources,
          fun source hmem => isBundle_iff.mp (hbundles source hmem),
          fun source hmem kind hkind => hevidence kind hkind source hmem⟩
      · intro htrusted
        exact ⟨htrusted.requirements, htrusted.sources,
          fun source hmem => isBundle_iff.mpr (htrusted.bundles source hmem),
          fun kind hkind source hmem => htrusted.evidence source hmem kind hkind⟩

end Verdict

section Sample

def sampleGatePlatform : Platform where
  sha256 _ := "digest"
  projectIdForRun runId := runId
  isoformat _ := ""
  roundFloat value := value

/-- Scalars are only read as themselves. -/
def sampleReading : Pydantic where
  reading :=
    { bool := fun value => match value with
        | .bool flag => some flag
        | _ => none
      int := fun value => match value with
        | .int number => some number
        | _ => none
      datetime := fun _ => true }
  explain _ _ := ""

def sampleManifest (artifactId kind producer : String) (parents : List String)
    (execution content : Json) : Json :=
  .obj [("metadata", .obj [("artifact_id", .str artifactId), ("kind", .str kind),
      ("workflow_run_id", .str "run"), ("stage_id", .str "integration"),
      ("parent_artifact_ids", .arr (parents.map .str)), ("producing_agent", .str producer),
      ("execution", execution), ("content_sha256", .str "digest")]),
    ("content", content)]

def sampleExecution : Json :=
  .obj [("runtime", .str "runc"), ("isolation", .str "oci"), ("kernel", .str "linux"),
    ("image", .str "sha256:aaaaaaaaaaaaaaaaaaaaaaaaaaaaaaaaaaaaaaaaaaaaaaaaaaaaaaaaaaaaaaaa"),
    ("duration_ms", .int 1), ("exit_code", .int 0), ("timed_out", .bool false),
    ("output_truncated", .bool false), ("oom_killed", .bool false),
    ("cleanup_succeeded", .bool true), ("policy", .obj [])]

def sampleSandboxReport (artifactId kind : String) : Json :=
  sampleManifest artifactId kind "trusted-sandbox-service" ["source"] sampleExecution
    (.obj [("source_artifact_id", .str "source"), ("source_sha256", .str "digest"),
      ("status", .str "completed"), ("execution", sampleExecution),
      ("stderr", .str "Ran 1 test in 0.001s")])

/-- A run with one source, and a build, a test, and an analysis of it. -/
def sampleGateContext : AgentContext Json where
  runId := "run"
  idea := "idea"
  stage := .evaluation
  artifacts :=
    [sampleManifest "requirements" "requirements_spec" "requirements-agent" [] (.obj [])
        (.obj [("product_name", .str "p"), ("functional_requirements", .arr [.str "f"]),
          ("non_functional_requirements", .arr []), ("acceptance_criteria", .arr [.str "a"]),
          ("exclusions", .arr []), ("open_questions", .arr [])]),
      sampleManifest "source" "code_change" "backend-agent" [] (.obj [])
        (.obj [("files", .arr [.obj [("path", .str "backend/a.py"), ("content", .str "")]])]),
      sampleSandboxReport "build" "build_report", sampleSandboxReport "test" "test_report",
      sampleManifest "analysis" "static_analysis_report" "static-analysis-agent" ["source"]
        (.obj [])
        (.obj [("artifact_id", .str "source"), ("content_sha256", .str "digest"),
          ("run_id", .str "run"), ("status", .str "completed"), ("findings", .arr []),
          ("execution", sampleExecution), ("analysis_id", .str "analysis"),
          ("result_uri", .str "aidlc://analysis"), ("summary", .obj [])])]
  retryAttempt := 0
  humanResponse := none
  repairAttempt := 0
  repairFeedback := none
  repairArtifactId := none
  repairArtifactSha256 := none

/-- The evidence of the sample is trusted, because its gates pass. -/
theorem passed_iff_trusted_sample :
    Trusted sampleGatePlatform sampleReading sampleGateContext "runc" := by
  have hpassed : (evaluateGates sampleGatePlatform sampleReading sampleGateContext "runc").map
      QualityGateReport.verdict = .ok .passed := by decide +kernel
  obtain ⟨report, hreport, hiff⟩ := passed_iff_trusted sampleGatePlatform sampleReading
    sampleGateContext "runc" (by
      intro artifact hmem content hcontent
      simp only [sampleGateContext, List.mem_cons, List.not_mem_nil, or_false] at hmem
      rcases hmem with rfl | rfl | rfl | rfl | rfl <;> cases hcontent <;> exact ⟨_, rfl⟩)
  rw [hreport] at hpassed
  exact hiff.mp (Except.ok.inj hpassed)

end Sample

end Aidlc
