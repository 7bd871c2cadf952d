import Aidlc.Agents.Source
import Aidlc.Storage.FileOperations
import Aidlc.Storage.Stores

/-! # The release bundle

A release is the integrated source with the pinned files of the user interface
in the place of what the agents wrote for them. They are put in after the last
check of the source, so the limits of a bundle, and the directories it needs, are
those of other files than the ones that were built, tested, and accepted.
-/

namespace Aidlc

open Foundation

namespace Source

variable (assets : ReactAssets)

/-- The newest artifact of a kind; without one the generator is exhausted. -/
def latestItem (artifacts : List ContextItem) (kind : ArtifactKind) : Except PyError ContextItem :=
  match artifacts.reverse.find? fun item => item.metadata.kind == kind with
  | some item => .ok item
  | none => .error ⟨.stopIteration, ""⟩

/-- The files of the interface that a release takes from the trusted image. -/
def pinnedFiles : List (String × String) :=
  [("ui/package.json", assets.packageJson), ("ui/package-lock.json", assets.packageLock),
    ("ui/vite.config.mjs", assets.viteConfig), ("ui/tsconfig.json", assets.tsconfig)]

/-- The files of the source that a release keeps. -/
def keptFiles (bundle : SourceBundle) : List SourceFile :=
  bundle.files.filter fun file => file.path ∉ ["ui/package.json", "ui/tsconfig.json"]

def pinnedDump (file : String × String) : Json :=
  .obj [("path", .str file.1), ("content", .str file.2)]

/-- A person accepted exactly this evaluation. -/
def humanAcceptance (artifacts : List ContextItem) (review : ContextItem) : Bool :=
  artifacts.any fun item =>
    item.metadata.kind == .humanResponse && item.content.get? "decision" == some (.str "accept") &&
      item.content.get? "artifact_sha256" == some (.str review.metadata.contentSha256)

variable {platform : Platform} (validateGates : Json → Except PyError QualityGateReport)
  (validateEvaluation : Json → Except PyError (EvaluationReport platform)) (threshold : Rat)

/-- `release_bundle` -/
def releaseBundle (context : AgentContext ContextItem) (notes : List (String × Json)) :
    Except PyError Json := do
  let gate ← latestItem context.artifacts .qualityGateReport
  let review ← latestItem context.artifacts .evaluationReport
  let gates ← validateGates gate.content
  let evaluation ← validateEvaluation review.content
  let passing := match evaluation.overallScore with
    | some score => gates.verdict == .passed && threshold ≤ score
    | none => false
  reject (!humanAcceptance context.artifacts review && !passing)
    "Release requires passing execution evidence and model evaluation"
  let source ← latestItem context.artifacts .integratedSource
  let bundle ← SourceBundle.validate source.content
  return .obj (Json.merge (Json.merge [("status", .str "released")] notes)
    [("files", .arr ((keptFiles bundle).map SourceFile.modelDump ++
        (pinnedFiles assets).map pinnedDump)),
      ("source_artifact_id", idJson source.metadata.artifactId),
      ("quality_gate_artifact_id", idJson gate.metadata.artifactId),
      ("evaluation_artifact_id", idJson review.metadata.artifactId),
      ("evidence_artifact_ids",
        .arr (context.artifacts.map fun item => idJson item.metadata.artifactId))])


/-- The files under `sandbox/react` are within the limit of a file. -/
structure Bounded (assets : ReactAssets) : Prop where
  packageJson : assets.packageJson.length ≤ 65536
  packageLock : assets.packageLock.length ≤ 65536
  viteConfig : assets.viteConfig.length ≤ 65536
  tsconfig : assets.tsconfig.length ≤ 65536

/-- The pinned files as source files. -/
def pinnedSources (hbounded : Bounded assets) : List SourceFile :=
  [⟨"ui/package.json", assets.packageJson, package_path.length, package_path.safe,
      hbounded.packageJson⟩,
    ⟨"ui/package-lock.json", assets.packageLock, by decide, by decide, hbounded.packageLock⟩,
    ⟨"ui/vite.config.mjs", assets.viteConfig, by decide, by decide, hbounded.viteConfig⟩,
    ⟨"ui/tsconfig.json", assets.tsconfig, tsconfig_path.length, tsconfig_path.safe, hbounded.tsconfig⟩]

variable {assets} {roundFloat : Rat → Rat} {changes context : AgentContext ContextItem}
  {bundle : SourceBundle} {files : List SourceFile}

/-- The pinned files are published as the sources they are. -/
theorem pinnedDump_sources (hbounded : Bounded assets) :
    (pinnedFiles assets).map pinnedDump =
      (pinnedSources assets hbounded).map SourceFile.modelDump := rfl

/-- The pinned files have distinct paths. -/
theorem pinned_nodup (hbounded : Bounded assets) :
    ((pinnedSources assets hbounded).map SourceFile.path).Nodup := by
  change ["ui/package.json", "ui/package-lock.json", "ui/vite.config.mjs",
    "ui/tsconfig.json"].Nodup
  decide

/-- A merged source has none of the pinned files that are not put in its place. -/
theorem merged_paths (hmerge : mergeSources roundFloat assets changes = .ok bundle) :
    ∀ file ∈ bundle.files, file.path ≠ "ui/package-lock.json" ∧ file.path ≠ "ui/vite.config.mjs" := by
  obtain ⟨backend, frontend, tests, hfiles, hbackend, hfrontend, htests⟩ := merged_files hmerge
  intro file hfile
  rw [hfiles, List.mem_append, List.mem_append] at hfile
  rcases hfile with hfile | hfile | hfile
  · have hhead := hbackend.backend_head _ (List.mem_map_of_mem hfile)
    refine ⟨fun hpath => ?_, fun hpath => ?_⟩ <;>
    · rw [hpath] at hhead
      exact absurd hhead (by decide)
  · obtain ⟨hvite, hlock⟩ := hfrontend.interface rfl file hfile
    refine ⟨hlock, fun hpath => ?_⟩
    rw [hpath] at hvite
    exact absurd hvite (by decide)
  · have hhead := htests.tests_head _ (List.mem_map_of_mem hfile)
    refine ⟨fun hpath => ?_, fun hpath => ?_⟩ <;>
    · rw [hpath] at hhead
      exact absurd hhead (by decide)

/-- The files of a release have distinct paths. -/
theorem released_nodup (hbounded : Bounded assets)
    (hmerge : mergeSources roundFloat assets changes = .ok bundle) :
    ((keptFiles bundle ++ pinnedSources assets hbounded).map SourceFile.path).Nodup := by
  have hkept : ((keptFiles bundle).map SourceFile.path).Nodup :=
    bundle.paths_nodup.sublist ((List.filter_sublist).map _)
  rw [List.map_append, List.nodup_append]
  refine ⟨hkept, pinned_nodup hbounded, ?_⟩
  rintro path hpath other hother rfl
  obtain ⟨file, hfile, rfl⟩ := List.mem_map.mp hpath
  obtain ⟨hmember, hreplaced⟩ := List.mem_filter.mp hfile
  obtain ⟨hlock, hvite⟩ := merged_paths hmerge file hmember
  have hpinned : file.path ∈ ["ui/package.json", "ui/package-lock.json", "ui/vite.config.mjs",
    "ui/tsconfig.json"] := hother
  simp only [List.mem_cons, List.not_mem_nil, or_false, not_or, decide_eq_true_eq]
    at hreplaced hpinned
  rcases hpinned with h | h | h | h
  · exact hreplaced.1 h
  · exact hlock h
  · exact hvite h
  · exact hreplaced.2 h

/-- Validating the dumps of files is forming a bundle of them. -/
theorem validate_dumps (files : List SourceFile) :
    SourceBundle.validate (.obj [("files", .arr (files.map SourceFile.modelDump))]) =
      bundleOf files := by
  have hkeys : forbidExtra (.obj [("files", .arr (files.map SourceFile.modelDump))]) ["files"] =
      .ok () := by simp [forbidExtra]
  have hfiles : (files.map SourceFile.modelDump).mapM SourceFile.validate = .ok files := by
    induction files with
    | nil => rfl
    | cons file rest ih =>
        rw [List.map_cons, List.mapM_cons, SourceFile.validate_modelDump, ih (by simp [forbidExtra])]
        rfl
  simp only [SourceBundle.validate, hkeys, bind, Except.bind, Json.get?_obj_cons, if_true, hfiles]
  rfl

/-- The release has the kept files and the pinned ones. -/
theorem releaseBundle_files {validateGates : Json → Except PyError QualityGateReport}
    {validateEvaluation : Json → Except PyError (EvaluationReport platform)} {threshold : Rat}
    {notes : List (String × Json)} {content : Json} {item : ContextItem}
    (hitem : latestItem context.artifacts .integratedSource = .ok item)
    (hsource : SourceBundle.validate item.content = .ok bundle)
    (hrelease : releaseBundle assets validateGates validateEvaluation threshold context notes =
      .ok content) :
    content.get? "files" = some (.arr ((keptFiles bundle).map SourceFile.modelDump ++
      (pinnedFiles assets).map pinnedDump)) := by
  unfold releaseBundle at hrelease
  simp only [except_bind_eq_ok] at hrelease
  obtain ⟨gate, -, review, -, gates, -, evaluation, -, ⟨⟩, -, source, hfound, other, hother, hcontent⟩ :=
    hrelease
  rw [hitem, Except.ok.injEq] at hfound
  subst hfound
  rw [hsource, Except.ok.injEq] at hother
  subst hother
  cases hcontent
  exact Json.get?_merge_right rfl

/-- With the acceptance of a person, the reports need only be readable. -/
theorem releaseBundle_of_human {validateGates : Json → Except PyError QualityGateReport}
    {validateEvaluation : Json → Except PyError (EvaluationReport platform)} {threshold : Rat}
    {notes : List (String × Json)} {gate review source : ContextItem} {gates : QualityGateReport}
    {evaluation : EvaluationReport platform}
    (hgate : latestItem context.artifacts .qualityGateReport = .ok gate)
    (hreview : latestItem context.artifacts .evaluationReport = .ok review)
    (hgates : validateGates gate.content = .ok gates)
    (hevaluation : validateEvaluation review.content = .ok evaluation)
    (hhuman : humanAcceptance context.artifacts review = true)
    (hsource : latestItem context.artifacts .integratedSource = .ok source)
    (hbundle : SourceBundle.validate source.content = .ok bundle) :
    ∃ content, releaseBundle assets validateGates validateEvaluation threshold context notes =
      .ok content := by
  unfold releaseBundle
  simp only [hgate, hreview, hgates, hevaluation, hhuman, hsource, hbundle, except_bind_eq_ok,
    Bool.not_true, Bool.false_and, Except.ok.injEq, exists_eq_left']
  exact ⟨_, (), rfl, rfl⟩

/-- Writing a release is forming the bundle of the files it keeps and the pinned ones,
and laying it out. -/
theorem write_release_iff {validateGates : Json → Except PyError QualityGateReport}
    {validateEvaluation : Json → Except PyError (EvaluationReport platform)} {threshold : Rat}
    {notes : List (String × Json)} {content : Json} {item : ContextItem} {request : WriteRequest}
    {store : FileStore} {artifactId : ArtifactId} {createdAt : Nat} {listing : List Location}
    {order : Location → List Entry} (hbounded : Bounded assets)
    (hitem : latestItem context.artifacts .integratedSource = .ok item)
    (hsource : SourceBundle.validate item.content = .ok bundle)
    (hrelease : releaseBundle assets validateGates validateEvaluation threshold context notes =
      .ok content)
    (hkind : request.kind = .releaseBundle) (hproducer : request.producingAgent = "release-agent")
    (hcontent : request.content = content) :
    (∃ record after, Files.write platform request artifactId createdAt listing order
        (store.layout, []) = .ok record after) ↔
      request.runId ≠ "" ∧
        ∃ released, bundleOf (keptFiles bundle ++ pinnedSources assets hbounded) = .ok released ∧
          (released.materialize platform.nameMax).isSome = true := by
  have hfiles := releaseBundle_files hitem hsource hrelease
  have hsafe : safeProducer request.producingAgent = true := by
    rw [hproducer]
    decide
  have hreleased : ∀ source, releaseSource request = .ok source ↔
      ∃ released, bundleOf (keptFiles bundle ++ pinnedSources assets hbounded) = .ok released ∧
        source = some released := by
    intro source
    rw [releaseSource, if_pos hkind, hcontent, hfiles, pinnedDump_sources hbounded,
      ← List.map_append]
    simp only [validate_dumps, except_bind_eq_ok]
    constructor
    · rintro ⟨released, hbundle, hsource⟩
      exact ⟨released, hbundle, (Except.ok.inj hsource).symm⟩
    · rintro ⟨released, hbundle, rfl⟩
      exact ⟨released, hbundle, rfl⟩
  rw [write_returns_iff]
  constructor
  · rintro ⟨source, hchecked, hplaced⟩
    obtain ⟨-, hfound, hrun⟩ := checkRequest_eq_ok.mp hchecked
    obtain ⟨released, hbundle, rfl⟩ := (hreleased source).mp hfound
    exact ⟨hrun, released, hbundle, hplaced⟩
  · rintro ⟨hrun, released, hbundle, hplaced⟩
    have hfound := (hreleased _).mpr ⟨released, hbundle, rfl⟩
    exact ⟨some released, checkRequest_eq_ok.mpr ⟨hsafe, hfound, hrun⟩, hplaced⟩

end Source

open Source in
/-- A release of a merged source is accepted exactly if it is within the limits of a
bundle once the pinned files are in it, and their paths fit with those it keeps. -/
theorem release_accepted_iff {platform : Platform} {roundFloat : Rat → Rat} {assets : ReactAssets}
    (hbounded : Bounded assets) {changes context : AgentContext ContextItem}
    {bundle : SourceBundle} (hmerge : mergeSources roundFloat assets changes = .ok bundle)
    {item : ContextItem} (hitem : latestItem context.artifacts .integratedSource = .ok item)
    (hsource : SourceBundle.validate item.content = .ok bundle)
    {validateGates : Json → Except PyError QualityGateReport}
    {validateEvaluation : Json → Except PyError (EvaluationReport platform)} {threshold : Rat}
    {notes : List (String × Json)} {content : Json}
    (hrelease : releaseBundle assets validateGates validateEvaluation threshold context notes =
      .ok content)
    {request : WriteRequest} (hkind : request.kind = .releaseBundle)
    (hproducer : request.producingAgent = "release-agent") (hcontent : request.content = content)
    (store : FileStore) (artifactId : ArtifactId) (createdAt : Nat) (listing : List Location)
    (order : Location → List Entry) :
    (∃ record after, Files.write platform request artifactId createdAt listing order
        (store.layout, []) = .ok record after) ↔
      request.runId ≠ "" ∧ (keptFiles bundle).length + 4 ≤ 50 ∧
        bytes (keptFiles bundle) +
          ((pinnedFiles assets).map fun file => file.2.utf8ByteSize).sum ≤ 262144 ∧
        PathsFit platform.nameMax
          ((keptFiles bundle).map SourceFile.path ++ (pinnedFiles assets).map Prod.fst) := by
  -- The two limits of the bundle, over the kept and the pinned files together.
  have hlimits : (∃ released,
      bundleOf (keptFiles bundle ++ pinnedSources assets hbounded) = .ok released) ↔
        (keptFiles bundle).length + 4 ≤ 50 ∧ bytes (keptFiles bundle) +
          ((pinnedFiles assets).map fun file => file.2.utf8ByteSize).sum ≤ 262144 := by
    rw [bundleOf_iff (by simp [pinnedSources]) (released_nodup hbounded hmerge)]
    change _ ∧ bytes _ ≤ _ ↔ _
    rw [bytes_append, List.length_append]
    rfl
  -- The layout depends on the paths alone.
  have hpaths : ∀ released : SourceBundle,
      bundleOf (keptFiles bundle ++ pinnedSources assets hbounded) = .ok released →
      released.files.map SourceFile.path =
        (keptFiles bundle).map SourceFile.path ++ (pinnedFiles assets).map Prod.fst := by
    intro released hreleased
    rw [bundleOf_eq_ok hreleased, List.map_append]
    rfl
  rw [write_release_iff hbounded hitem hsource hrelease hkind hproducer hcontent]
  refine and_congr_right fun _ => ?_
  constructor
  · rintro ⟨released, hreleased, hplaced⟩
    obtain ⟨hcount, hbytes⟩ := hlimits.mp ⟨released, hreleased⟩
    rw [materialize_isSome_iff, hpaths released hreleased] at hplaced
    exact ⟨hcount, hbytes, hplaced⟩
  · rintro ⟨hcount, hbytes, hfit⟩
    obtain ⟨released, hreleased⟩ := hlimits.mpr ⟨hcount, hbytes⟩
    refine ⟨released, hreleased, ?_⟩
    rw [materialize_isSome_iff, hpaths released hreleased]
    exact hfit

/-! ### Accepted sources -/

def sampleGatesPassed : QualityGateReport where
  profile := "restricted"
  runId := "run_a"
  repairAttempt := 0
  verdict := .passed
  gates := []
  sourceArtifactIds := []
  deferredChecks := []

def sampleUnevaluated : EvaluationReport samplePlatform where
  status := .notEvaluated
  requirementCoverage := none
  mvpCompleteness := none
  usability := none
  architecture := none
  maintainability := none
  riskAcceptance := none
  summary := "No model judged this run"
  recommendedRepairs := []
  qualityGates := none
  judged := ⟨none, rfl⟩

def unevaluatedDump : Json :=
  .obj [("status", .str "not_evaluated"), ("summary", .str "No model judged this run"),
    ("recommended_repairs", .arr [])]

/-- The validation of the two reports of the sample. -/
def readGates (content : Json) : Except PyError QualityGateReport :=
  if content = sampleGatesPassed.modelDump then .ok sampleGatesPassed
  else validationError "1 validation error for QualityGateReport"

def readEvaluation (content : Json) : Except PyError (EvaluationReport samplePlatform) :=
  if content = unevaluatedDump then .ok sampleUnevaluated
  else validationError "1 validation error for EvaluationReport"

/-- A context in which a person accepted the evaluation of a source. -/
def acceptedContext (bundle : SourceBundle) : AgentContext ContextItem :=
  sampleAgentContext
    [sampleItem .integratedSource "integration-agent" "" bundle.modelDump,
      sampleItem .qualityGateReport "execution-agent" "" sampleGatesPassed.modelDump,
      sampleItem .evaluationReport "evaluation-agent" "review" unevaluatedDump,
      sampleItem .humanResponse "hub" ""
        (.obj [("decision", .str "accept"), ("artifact_sha256", .str "review")])]

def releaseRequest (content : Json) : WriteRequest :=
  .simple "run_a" .release .releaseBundle "release-agent" content "# Release" []

/-- The artifacts a release looks up here. -/
theorem acceptedContext_latest (bundle : SourceBundle) :
    Source.latestItem (acceptedContext bundle).artifacts .qualityGateReport =
        .ok (sampleItem .qualityGateReport "execution-agent" "" sampleGatesPassed.modelDump) ∧
      Source.latestItem (acceptedContext bundle).artifacts .evaluationReport =
        .ok (sampleItem .evaluationReport "evaluation-agent" "review" unevaluatedDump) ∧
      Source.latestItem (acceptedContext bundle).artifacts .integratedSource =
        .ok (sampleItem .integratedSource "integration-agent" "" bundle.modelDump) :=
  ⟨rfl, rfl, rfl⟩

open Source in
theorem acceptedContext_releases (bundle : SourceBundle) :
    ∃ content, releaseBundle sampleAssets readGates readEvaluation 0 (acceptedContext bundle) [] =
      .ok content := by
  obtain ⟨hgate, hreview, hsource⟩ := acceptedContext_latest bundle
  exact releaseBundle_of_human hgate hreview rfl rfl rfl hsource bundle.validate_modelDump

def sampleMerged : SourceBundle :=
  ⟨sampleBackend.files ++ (sampleFrontend.files ++ sampleTests.files), by decide, by decide,
    by decide⟩

theorem sampleAssets_bounded : Source.Bounded sampleAssets := by
  constructor <;> decide

open Source in
theorem release_accepted_iff_sample :
    ∃ content, releaseBundle sampleAssets readGates readEvaluation 0
        (acceptedContext sampleMerged) [] = .ok content ∧
      ((∃ record after, Files.write samplePlatform (releaseRequest content) 0 0 [] (fun _ => [])
          (FileStore.empty.layout, []) = .ok record after) ↔
        (releaseRequest content).runId ≠ "" ∧ (keptFiles sampleMerged).length + 4 ≤ 50 ∧
          bytes (keptFiles sampleMerged) +
            ((pinnedFiles sampleAssets).map fun file => file.2.utf8ByteSize).sum ≤ 262144 ∧
          PathsFit samplePlatform.nameMax ((keptFiles sampleMerged).map SourceFile.path ++
            (pinnedFiles sampleAssets).map Prod.fst)) := by
  obtain ⟨content, hcontent⟩ := acceptedContext_releases sampleMerged
  have hmerge : mergeSources id sampleAssets
      (sampleChanges sampleBackend sampleFrontend sampleTests) = .ok sampleMerged :=
    mergeSources_eq (sampleChanges_holds _ _ _) rfl rfl rfl
  exact ⟨content, hcontent, release_accepted_iff sampleAssets_bounded hmerge
    (acceptedContext_latest sampleMerged).2.2 sampleMerged.validate_modelDump hcontent
    rfl rfl rfl FileStore.empty 0 0 [] _⟩

theorem bytes_keptFiles {count : Nat} {hcount : count ≤ 65536} {bundle : SourceBundle}
    (hfiles : bundle.files =
      sampleBackend.files ++ ((sampleLongFrontend count hcount).files ++ sampleTests.files)) :
    Source.bytes (Source.keptFiles bundle) = 4 * count + 1 := by
  have hkept : Source.keptFiles bundle = sampleBackend.files ++ [samplePage count hcount,
      ⟨"ui/src/main.tsx", "", main_path.length, main_path.safe, empty_length⟩] ++ sampleTests.files := by
    rw [Source.keptFiles, hfiles]
    rfl
  rw [hkept]
  simp only [Source.bytes, sampleBackend, sampleTests, List.map_append, List.map_cons,
    List.map_nil, List.sum_append, List.sum_cons, List.sum_nil, samplePage, utf8ByteSize_wide]
  change 0 + 0 + (4 * count + (0 + 0)) + (1 + 0) = 4 * count + 1
  omega

open Source in
/-- A source of 262141 bytes is merged and accepted, but three of its bytes too
many are left when the pinned files are in it. -/
theorem release_refuses_source :
    ∃ bundle content, mergeSources id sampleAssets
        (sampleChanges sampleBackend (sampleLongFrontend 65535 (Nat.le_succ _)) sampleTests) =
          .ok bundle ∧
      releaseBundle sampleAssets readGates readEvaluation 0 (acceptedContext bundle) [] =
        .ok content ∧
      ¬ ∃ record after, Files.write samplePlatform (releaseRequest content) 0 0 [] (fun _ => [])
        (FileStore.empty.layout, []) = .ok record after := by
  have hbackend : validateSourceOutput id sampleAssets "backend-agent" sampleBackend = .ok () := rfl
  have hfrontend : validateSourceOutput id sampleAssets "frontend-agent"
    (sampleLongFrontend 65535 (Nat.le_succ _)) = .ok () := rfl
  have htests : validateSourceOutput id sampleAssets "test-agent" sampleTests = .ok () := rfl
  have hsize : bytes sampleTests.files = 1 := by decide
  -- Together the three outputs are just short enough.
  obtain ⟨bundle, hbundle⟩ := (bundleOf_iff (by simp [sampleBackend])
    (merged_nodup (accepted_of_validated hbackend) (accepted_of_validated hfrontend)
      (accepted_of_validated htests))).mpr ⟨by simp [sampleBackend, sampleLongFrontend, sampleTests], by
        change bytes _ ≤ _
        rw [bytes_append, bytes_append, bytes_sampleLongFrontend, hsize]
        decide⟩
  have hmerge := mergeSources_eq (sampleChanges_holds _ _ _) hbackend hfrontend htests
  obtain ⟨content, hcontent⟩ := acceptedContext_releases bundle
  refine ⟨bundle, content, hmerge.trans hbundle, hcontent, ?_⟩
  rw [write_release_iff sampleAssets_bounded (acceptedContext_latest bundle).2.2
    bundle.validate_modelDump hcontent rfl rfl rfl]
  rintro ⟨-, released, hreleased, -⟩
  have hlimit := released.files_size
  rw [bundleOf_eq_ok hreleased] at hlimit
  change bytes _ ≤ _ at hlimit
  rw [bytes_append, bytes_keptFiles (bundleOf_eq_ok hbundle)] at hlimit
  exact absurd hlimit (by decide)

end Aidlc
