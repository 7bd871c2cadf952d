import Mathlib.Data.List.Dedup
import Aidlc.Foundation.Effects
import Aidlc.Foundation.JsonText
import Aidlc.Orchestration.Context
import Aidlc.Storage.Artifacts

/-! # What a specialist is shown

A context is a function of the artifacts its contract declares and of the newest
repair request, so nothing that leaves the hub for a specialist depends on any
other artifact. The contracts of the catalog select an artifact twice only where
the trusted service wrote the newest report of a kind that has a reviewer too.
-/

namespace Aidlc

open Foundation

/-! ## Isolation -/

/-- An artifact that the dependency can select, directly or as a fallback. -/
def ArtifactInput.declares (dependency : ArtifactInput) (artifact : ContextItem) : Bool :=
  dependency.matches artifact || some artifact.metadata.kind == dependency.fallbackKind

/-- An artifact that some declared input can select. -/
def AgentSpec.declares (spec : AgentSpec) (artifact : ContextItem) : Bool :=
  spec.inputs.any fun dependency => dependency.declares artifact

/-- Two histories that look the same to a specialist. -/
structure AgentSpec.Agree (spec : AgentSpec) (first second : List ContextItem) : Prop where
  declared : first.filter spec.declares = second.filter spec.declares
  repair : latestRepair first = latestRepair second

variable {spec : AgentSpec} {first second artifacts : List ContextItem}

theorem ArtifactInput.filter_declared {dependency : ArtifactInput} (hmem : dependency ∈ spec.inputs)
    {test : ContextItem → Bool} (htest : ∀ item, test item = true → dependency.declares item = true) :
    (artifacts.filter spec.declares).filter test = artifacts.filter test := by
  rw [List.filter_filter]
  apply List.filter_congr
  intro item _
  by_cases hitem : test item = true
  · have hspec : spec.declares item = true :=
      List.any_eq_true.mpr ⟨dependency, hmem, htest item hitem⟩
    rw [hitem, hspec, Bool.and_self]
  · rw [Bool.not_eq_true] at hitem
    rw [hitem, Bool.false_and]

/-- The snapshots a dependency chooses from. -/
def ArtifactInput.candidates (dependency : ArtifactInput) (artifacts : List ContextItem) :
    List ContextItem :=
  match artifacts.filter dependency.matches, dependency.fallbackKind with
  | [], some fallback =>
    latestByProducer (artifacts.filter fun item => item.metadata.kind == fallback)
  | direct, _ => direct

/-- The choice among the candidates; without any, a required dependency fails. -/
def ArtifactInput.choose (spec : AgentSpec) (dependency : ArtifactInput) :
    List ContextItem → Except PyError (List ContextItem)
  | [] =>
    if dependency.required then .error (dependency.missing spec) else .ok []
  | first :: rest =>
    if some first.metadata.kind = dependency.fallbackKind then .ok (first :: rest)
    else .ok [(first :: rest).getLast (List.cons_ne_nil first rest)]

/-- An input selects by choosing among its candidates. -/
theorem ArtifactInput.select_eq (dependency : ArtifactInput) :
    dependency.select spec artifacts = dependency.choose spec (dependency.candidates artifacts) := by
  unfold select choose candidates
  cases artifacts.filter dependency.matches with
  | nil => cases dependency.fallbackKind <;> rfl
  | cons _ _ => rfl

/-- A dependency selects from the declared artifacts what it selects from all. -/
theorem ArtifactInput.select_declared {dependency : ArtifactInput} (hmem : dependency ∈ spec.inputs) :
    dependency.select spec (artifacts.filter spec.declares) = dependency.select spec artifacts := by
  rw [select_eq, select_eq]
  apply congrArg
  have hdirect : (artifacts.filter spec.declares).filter dependency.matches =
      artifacts.filter dependency.matches :=
    filter_declared hmem fun item hitem => by rw [declares, hitem, Bool.true_or]
  unfold candidates
  rw [hdirect]
  cases hkind : dependency.fallbackKind with
  | none => cases artifacts.filter dependency.matches <;> rfl
  | some kind =>
      have hfallback : ((artifacts.filter spec.declares).filter fun item =>
          item.metadata.kind == kind) = artifacts.filter fun item => item.metadata.kind == kind := by
        apply filter_declared hmem
        intro item hitem
        rw [declares, hkind, eq_of_beq hitem, beq_self_eq_true, Bool.or_true]
      cases artifacts.filter dependency.matches with
      | nil => exact congrArg latestByProducer hfallback
      | cons _ _ => rfl

/-- Only declared artifacts matter to the selection. -/
theorem selectAgentArtifacts_declared :
    selectAgentArtifacts spec (artifacts.filter spec.declares) =
      selectAgentArtifacts spec artifacts := by
  have hall : ∀ inputs : List ArtifactInput, inputs ⊆ spec.inputs →
      inputs.mapM (ArtifactInput.select spec (artifacts.filter spec.declares)) =
        inputs.mapM (ArtifactInput.select spec artifacts) := by
    intro inputs hinputs
    induction inputs with
    | nil => rfl
    | cons dependency rest ih =>
        obtain ⟨hdependency, hrest⟩ := List.cons_subset.mp hinputs
        rw [List.mapM_cons, List.mapM_cons, ArtifactInput.select_declared hdependency, ih hrest]
  unfold selectAgentArtifacts
  rw [hall spec.inputs (List.Subset.refl _)]

/-- Contexts that agree on them select the same. -/
theorem AgentSpec.Agree.selected (hagree : spec.Agree first second) :
    selectAgentArtifacts spec first = selectAgentArtifacts spec second := by
  calc selectAgentArtifacts spec first
      = selectAgentArtifacts spec (first.filter spec.declares) := selectAgentArtifacts_declared.symm
    _ = selectAgentArtifacts spec (second.filter spec.declares) := by rw [hagree.declared]
    _ = selectAgentArtifacts spec second := selectAgentArtifacts_declared

variable {runId : RunId} {idea other : String} {repairAttempt retryAttempt : Nat}
  {repairFeedback : Option Json}

theorem AgentSpec.Agree.context (hagree : spec.Agree first second)
    (hidea : spec.includeIdea = true → idea = other) :
    buildAgentContext spec runId idea first repairAttempt repairFeedback retryAttempt =
      buildAgentContext spec runId other second repairAttempt repairFeedback retryAttempt := by
  have hshown : (if spec.includeIdea then idea else "") = if spec.includeIdea then other else "" := by
    split
    next hincluded => exact hidea hincluded
    next => rfl
  unfold buildAgentContext
  rw [hagree.selected, hagree.repair, hshown]

section Disclosure

variable (platform : Platform) (floatText : Rat → List Char)

/-- `canonical_context_bytes` -/
def canonicalContextBytes (context : AgentContext ContextItem) : ByteArray :=
  (String.ofList (dumpsCanonical floatText
    ((context.plain platform).modelDump platform))).toUTF8

/-- What leaves the hub for a specialist, or is recorded of what it was given. -/
structure Disclosure where
  bytes : ByteArray
  inputIds : List ArtifactId
  cacheKey : String

/-- The values derived from the context of one invocation. -/
def disclose (spec : AgentSpec) (modelId : String) (runtimeProfile : Json)
    (context : AgentContext ContextItem) : Disclosure where
  bytes := canonicalContextBytes platform floatText context
  inputIds := contextInputArtifactIds context
  cacheKey := contextCacheKey platform spec context modelId runtimeProfile

/-- The retry number is only carried along. -/
theorem buildAgentContext_retry (retryAttempt later : Nat) :
    buildAgentContext spec runId idea artifacts repairAttempt repairFeedback later =
      (buildAgentContext spec runId idea artifacts repairAttempt repairFeedback retryAttempt).map
        fun context => { context with retryAttempt := later } := by
  unfold buildAgentContext
  cases selectAgentArtifacts spec artifacts <;> rfl

theorem contexts_reveal_declared_inputs (spec : AgentSpec) (first second : List ContextItem)
    (hagree : spec.Agree first second) (idea other : String)
    (hidea : spec.includeIdea = true → idea = other) (runId : RunId) (repairAttempt : Nat)
    (repairFeedback : Option Json) (modelId : String) (runtimeProfile : Json) :
    (∀ retryAttempt,
      buildAgentContext spec runId idea first repairAttempt repairFeedback retryAttempt =
        buildAgentContext spec runId other second repairAttempt repairFeedback retryAttempt) ∧
    (∀ retryAttempt,
      (buildAgentContext spec runId idea first repairAttempt repairFeedback retryAttempt).map
          (disclose platform floatText spec modelId runtimeProfile) =
        (buildAgentContext spec runId other second repairAttempt repairFeedback retryAttempt).map
          (disclose platform floatText spec modelId runtimeProfile)) ∧
    ∀ retryAttempt later,
      (buildAgentContext spec runId idea first repairAttempt repairFeedback retryAttempt).map
          (fun context => contextCacheKey platform spec context modelId runtimeProfile) =
        (buildAgentContext spec runId other second repairAttempt repairFeedback later).map
          fun context => contextCacheKey platform spec context modelId runtimeProfile := by
  have hequal : ∀ retryAttempt,
      buildAgentContext spec runId idea first repairAttempt repairFeedback retryAttempt =
        buildAgentContext spec runId other second repairAttempt repairFeedback retryAttempt :=
    fun retryAttempt => hagree.context hidea
  refine ⟨hequal, fun retryAttempt => by rw [hequal], fun retryAttempt later => ?_⟩
  rw [← hequal later, buildAgentContext_retry retryAttempt later]
  cases buildAgentContext spec runId idea first repairAttempt repairFeedback retryAttempt <;> rfl

end Disclosure

/-- A snapshot of which only the kind and the producer matter. -/
def sampleSnapshot (artifactId : ArtifactId) (kind : ArtifactKind) (producingAgent : String) :
    ContextItem where
  metadata :=
    { projectId := "project_a", currentSnapshot := true, artifactId, kind,
      workflowRunId := "run_a", stageId := .integration, parentArtifactIds := [], producingAgent,
      modelId := none, promptVersion := none, execution := .obj [], createdAt := 0,
      contentSha256 := toString artifactId }
  content := .null

theorem contexts_reveal_declared_inputs_sample :
    ∃ spec ∈ agentSpecs,
      buildAgentContext spec "run_a" "an idea" [sampleSnapshot 0 .projectBrief "intake-agent",
          sampleSnapshot 1 .requirementsSpec "requirements-agent"] 0 none 0 =
        buildAgentContext spec "run_a" "another" [sampleSnapshot 2 .threatModel "security-agent",
          sampleSnapshot 0 .projectBrief "intake-agent",
          sampleSnapshot 1 .requirementsSpec "requirements-agent"] 0 none 0 := by
  refine ⟨{ name := "ux-agent", stage := .discovery, artifactKind := .uxSpecification
            inputs := [{ kind := .projectBrief }, { kind := .requirementsSpec }] }, by decide, ?_⟩
  exact (contexts_reveal_declared_inputs ⟨fun _ => "", id, toString, id, 255⟩ (fun _ => []) _ _ _
    ⟨by decide, by decide⟩ "an idea" "another" (by decide) "run_a" 0 none "" .null).1 0

/-! ## Distinct inputs -/

theorem mem_latestByProducer {item : ContextItem} (hmem : item ∈ latestByProducer artifacts) :
    item ∈ artifacts := by
  obtain ⟨name, -, hfound⟩ := List.mem_filterMap.mp hmem
  exact List.mem_reverse.mp (List.mem_of_find?_eq_some hfound)

/-- One item of each producer. -/
theorem nodup_latestByProducer : (latestByProducer artifacts).Nodup := by
  refine List.Nodup.filterMap (fun name other item hname hother => ?_) ?_
  · have hfirst := List.find?_some (Option.mem_def.mp hname)
    have hsecond := List.find?_some (Option.mem_def.mp hother)
    exact (eq_of_beq hfirst).symm.trans (eq_of_beq hsecond)
  · exact (List.perm_insertionSort _ _).nodup_iff.mpr (List.nodup_dedup _)

namespace ArtifactInput

variable {dependency : ArtifactInput} {item : ContextItem}

/-- Candidates are declared artifacts. -/
theorem mem_candidates (hmem : item ∈ dependency.candidates artifacts) :
    item ∈ artifacts ∧ dependency.declares item = true := by
  unfold candidates at hmem
  split at hmem
  next fallback _ hkind =>
    obtain ⟨hitem, hfallback⟩ := List.mem_filter.mp (mem_latestByProducer hmem)
    refine ⟨hitem, ?_⟩
    rw [declares, hkind, eq_of_beq hfallback, beq_self_eq_true, Bool.or_true]
  next =>
    obtain ⟨hitem, hmatches⟩ := List.mem_filter.mp hmem
    exact ⟨hitem, by rw [declares, hmatches, Bool.true_or]⟩

/-- No candidate comes twice. -/
theorem nodup_candidates (hnodup : artifacts.Nodup) : (dependency.candidates artifacts).Nodup := by
  unfold candidates
  split
  next => exact nodup_latestByProducer
  next => exact hnodup.filter _

/-- What the dependency selects, nothing where it fails. -/
def selection (spec : AgentSpec) (artifacts : List ContextItem) (dependency : ArtifactInput) :
    List ContextItem :=
  match dependency.select spec artifacts with
  | .ok selected => selected
  | .error _ => []

theorem selection_of_ok {selected : List ContextItem}
    (hselect : dependency.select spec artifacts = .ok selected) :
    dependency.selection spec artifacts = selected := by
  rw [selection, hselect]

/-- A selection is made from the candidates, in their order. -/
theorem selection_sublist :
    (dependency.selection spec artifacts).Sublist (dependency.candidates artifacts) := by
  unfold selection
  rw [select_eq]
  cases dependency.candidates artifacts with
  | nil => cases hrequired : dependency.required <;> simp [choose, hrequired]
  | cons first rest =>
      simp only [choose]
      by_cases hkind : some first.metadata.kind = dependency.fallbackKind
      · rw [if_pos hkind]
      · rw [if_neg hkind]
        exact List.singleton_sublist.mpr (List.getLast_mem _)

/-- A dependency without a fallback selects the latest of what it matches. -/
theorem selection_of_direct (hfallback : dependency.fallbackKind = none) :
    dependency.selection spec artifacts =
      (artifacts.filter dependency.matches).getLast?.toList := by
  have hcandidates : dependency.candidates artifacts = artifacts.filter dependency.matches := by
    unfold candidates
    rw [hfallback]
    cases artifacts.filter dependency.matches <;> rfl
  unfold selection
  rw [select_eq, hcandidates]
  cases artifacts.filter dependency.matches with
  | nil => cases hrequired : dependency.required <;> simp [choose, hrequired]
  | cons first rest =>
      simp only [choose]
      rw [hfallback, if_neg (Option.some_ne_none _), List.getLast?_eq_some_getLast (by simp)]
      rfl

/-- The selections of two dependencies have no artifact in common. -/
def Apart (spec : AgentSpec) (artifacts : List ContextItem) (one other : ArtifactInput) : Prop :=
  (one.selection spec artifacts).Disjoint (other.selection spec artifacts)

/-- The kinds a dependency can select. -/
def kinds (dependency : ArtifactInput) : List ArtifactKind :=
  dependency.kind :: dependency.fallbackKind.toList

theorem kind_of_declares (hdeclares : dependency.declares item = true) :
    item.metadata.kind ∈ dependency.kinds := by
  rw [declares, Bool.or_eq_true] at hdeclares
  rcases hdeclares with hmatches | hfallback
  · rw [ArtifactInput.matches, Bool.and_eq_true] at hmatches
    rw [eq_of_beq hmatches.1]
    exact List.mem_cons_self
  · rw [kinds, ← eq_of_beq hfallback]
    exact List.mem_cons_of_mem _ (List.mem_singleton_self _)

/-- Inputs of disjoint kinds select apart. -/
theorem apart_of_kinds {one other : ArtifactInput} (hkinds : one.kinds.Disjoint other.kinds) :
    Apart spec artifacts one other := by
  intro item hone hother
  have hfirst := (mem_candidates (selection_sublist.subset hone)).2
  have hsecond := (mem_candidates (selection_sublist.subset hother)).2
  exact hkinds (kind_of_declares hfirst) (kind_of_declares hsecond)

end ArtifactInput

/-- The latest artifact of a kind. -/
def latestOfKind (kind : ArtifactKind) (artifacts : List ContextItem) : Option ContextItem :=
  (artifacts.filter fun item => item.metadata.kind == kind).getLast?

theorem getLast?_filter_eq {α : Type} {items : List α} {test : α → Bool} {last : α}
    (hlast : items.getLast? = some last) (htest : test last = true) :
    (items.filter test).getLast? = some last := by
  obtain ⟨front, rfl⟩ := List.getLast?_eq_some_iff.mp hlast
  rw [List.filter_append, List.filter_cons_of_pos htest, List.filter_nil, List.getLast?_concat]

/-- A slot for any report of a kind and one for the reports of a producer are filled
by different artifacts unless the latest report of the kind is of that producer. -/
theorem ArtifactInput.apart_producer_iff {kind : ArtifactKind} {producer : String} {required : Bool} :
    Apart spec artifacts { kind, required } (.optional kind (some producer)) ↔
      ∀ item, latestOfKind kind artifacts = some item → item.metadata.producingAgent ≠ producer := by
  have hany : (artifacts.filter (ArtifactInput.matches { kind, required })) =
      artifacts.filter fun item => item.metadata.kind == kind := by
    apply List.filter_congr
    intro item _
    exact Bool.and_true _
  have howned : artifacts.filter (ArtifactInput.optional kind (some producer)).matches =
      (artifacts.filter fun item => item.metadata.kind == kind).filter fun item =>
        item.metadata.producingAgent == producer := by
    rw [List.filter_filter]
    apply List.filter_congr
    intro item _
    exact Bool.and_comm _ _
  unfold Apart latestOfKind
  rw [selection_of_direct rfl, selection_of_direct rfl, hany, howned]
  constructor
  · intro hapart item hlatest hproducer
    have hagain : ((artifacts.filter fun item => item.metadata.kind == kind).filter fun item =>
        item.metadata.producingAgent == producer).getLast? = some item :=
      getLast?_filter_eq hlatest (beq_iff_eq.mpr hproducer)
    rw [hlatest, hagain] at hapart
    exact hapart List.mem_cons_self List.mem_cons_self
  · intro hlatest item hone hother
    rw [Option.mem_toList] at hone hother
    have hmem := List.mem_of_getLast? hother
    exact hlatest item hone (eq_of_beq (List.mem_filter.mp hmem).2)

section Catalog

open ArtifactInput

variable {selected : List ContextItem}

theorem mapM_select {inputs : List ArtifactInput} {parts : List (List ContextItem)}
    (hparts : inputs.mapM (ArtifactInput.select spec artifacts) = .ok parts) :
    parts = inputs.map (selection spec artifacts) := by
  rw [← List.map_id parts]
  exact map_of_mapM_eq_ok (fun _ _ hpart => (selection_of_ok hpart).symm) hparts

/-- The selected artifacts are the selections of the inputs, in contract order. -/
theorem selected_eq (hselect : selectAgentArtifacts spec artifacts = .ok selected) :
    selected = (spec.inputs.map (selection spec artifacts)).flatten := by
  unfold selectAgentArtifacts at hselect
  rw [except_bind_eq_ok] at hselect
  obtain ⟨parts, hparts, hselect⟩ := hselect
  cases hselect
  rw [mapM_select hparts]

/-- A selected artifact is declared by an input. -/
theorem mem_selected {item : ContextItem}
    (hselect : selectAgentArtifacts spec artifacts = .ok selected) (hmem : item ∈ selected) :
    item ∈ artifacts ∧ ∃ dependency ∈ spec.inputs, dependency.declares item = true := by
  rw [selected_eq hselect] at hmem
  obtain ⟨part, hpart, hitem⟩ := List.mem_flatten.mp hmem
  obtain ⟨dependency, hdependency, rfl⟩ := List.mem_map.mp hpart
  obtain ⟨hartifact, hdeclares⟩ := ArtifactInput.mem_candidates (selection_sublist.subset hitem)
  exact ⟨hartifact, dependency, hdependency, hdeclares⟩

/-- The selected artifacts are distinct where the inputs have nothing in common. -/
theorem nodup_selected_iff (hnodup : artifacts.Nodup)
    (hselect : selectAgentArtifacts spec artifacts = .ok selected) :
    selected.Nodup ↔ spec.inputs.Pairwise (Apart spec artifacts) := by
  rw [selected_eq hselect, List.nodup_flatten, List.pairwise_map]
  refine and_iff_right fun part hpart => ?_
  obtain ⟨dependency, -, rfl⟩ := List.mem_map.mp hpart
  exact (nodup_candidates hnodup).sublist selection_sublist

/-- The kinds of which the evaluator is given a review and a trusted report. -/
def evidenceKinds : List ArtifactKind := [.buildReport, .testReport]

/-- No trusted report is newer than the reviews of its kind. -/
def reviewsLatest (artifacts : List ContextItem) : Bool :=
  evidenceKinds.all fun kind => (latestOfKind kind artifacts).all fun item =>
    item.metadata.producingAgent != trustedSandboxService

/-- The reviews are the latest when no latest evidence is the sandbox's own. -/
theorem reviewsLatest_iff :
    reviewsLatest artifacts = true ↔ ∀ kind ∈ evidenceKinds, ∀ item,
      latestOfKind kind artifacts = some item →
        item.metadata.producingAgent ≠ trustedSandboxService := by
  simp only [reviewsLatest, List.all_eq_true, Option.all_eq_true, bne_iff_ne]

/-- Two inputs of one contract have no kind in common, or are the slots of the
evaluator for a review and for a trusted report. -/
theorem catalog_inputs : ∀ spec ∈ agentSpecs, spec.inputs.Pairwise fun one other =>
    (∀ kind ∈ one.kinds, kind ∉ other.kinds) ∨
      spec.name = "evaluation-agent" ∧ ∃ kind ∈ evidenceKinds,
        one = { kind } ∧ other = .optional kind (some trustedSandboxService) := by
  decide

/-- The evaluator has two slots for every kind of evidence. -/
theorem evaluator_slots : ∀ spec ∈ agentSpecs, spec.name = "evaluation-agent" →
    ∀ kind ∈ evidenceKinds,
      [{ kind }, .optional kind (some trustedSandboxService)].Sublist spec.inputs := by
  decide

/-- No contract declares the repair request. -/
theorem catalog_without_repair : ∀ spec ∈ agentSpecs, ∀ dependency ∈ spec.inputs,
    ArtifactKind.repairRequest ∉ dependency.kinds := by
  decide

/-- The inputs of an agent select apart, but for the evaluator's two slots of a kind. -/
theorem pairwise_apart_iff (hspec : spec ∈ agentSpecs) :
    spec.inputs.Pairwise (Apart spec artifacts) ↔
      (spec.name = "evaluation-agent" → reviewsLatest artifacts = true) := by
  rw [reviewsLatest_iff]
  constructor
  · intro hpairwise hname kind hkind
    have hslots := hpairwise.sublist (evaluator_slots spec hspec hname kind hkind)
    exact apart_producer_iff.mp ((List.pairwise_cons.mp hslots).1 _ List.mem_cons_self)
  · intro hreviews
    refine (catalog_inputs spec hspec).imp fun {one other} hinputs => ?_
    rcases hinputs with hkinds | ⟨hname, kind, hkind, rfl, rfl⟩
    · exact apart_of_kinds fun kind hone hother => hkinds kind hone hother
    · exact apart_producer_iff.mpr (hreviews hname kind hkind)

theorem mem_of_latestRepair {item : ContextItem} (hrepair : latestRepair artifacts = some item) :
    item ∈ artifacts ∧ item.metadata.kind = .repairRequest :=
  ⟨List.mem_reverse.mp (List.mem_of_find?_eq_some hrepair),
    beq_iff_eq.mp (List.find?_some hrepair :)⟩

/-- Distinct artifacts have distinct identifiers, and the repair request is none of
the selected ones. -/
theorem nodup_contextInputArtifactIds (hspec : spec ∈ agentSpecs)
    (hids : (artifacts.map fun item => item.metadata.artifactId).Nodup)
    (hselect : selectAgentArtifacts spec artifacts = .ok selected) (hselected : selected.Nodup)
    {context : AgentContext ContextItem}
    (hbuild : buildAgentContext spec runId idea artifacts repairAttempt repairFeedback
      retryAttempt = .ok context) :
    (contextInputArtifactIds context).Nodup := by
  have hinj := List.inj_on_of_nodup_map hids
  unfold buildAgentContext at hbuild
  rw [hselect] at hbuild
  cases hbuild
  rw [contextInputArtifactIds, List.nodup_append]
  refine ⟨?_, (Option.toList_nodup _), ?_⟩
  · exact hselected.map_on fun one hone other hother =>
      hinj (mem_selected hselect hone).1 (mem_selected hselect hother).1
  · intro selectedId hid repairId hrepairId heq
    obtain ⟨one, hone, rfl⟩ := List.mem_map.mp hid
    rw [Option.mem_toList, Option.map_eq_some_iff] at hrepairId
    obtain ⟨repair, hrepair, rfl⟩ := hrepairId
    split at hrepair
    next => cases hrepair
    next =>
      obtain ⟨hmem, hkind⟩ := mem_of_latestRepair hrepair
      obtain ⟨hartifact, dependency, hdependency, hdeclares⟩ := mem_selected hselect hone
      have hsame := hinj hartifact hmem heq
      have hdeclared := kind_of_declares hdeclares
      rw [hsame, hkind] at hdeclared
      exact catalog_without_repair spec hspec dependency hdependency hdeclared

theorem inputs_distinct_iff_reviews_latest (spec : AgentSpec) (hspec : spec ∈ agentSpecs)
    (artifacts selected : List ContextItem)
    (hids : (artifacts.map fun item => item.metadata.artifactId).Nodup)
    (hselect : selectAgentArtifacts spec artifacts = .ok selected) :
    (selected.Nodup ∧
      ∀ runId idea repairAttempt repairFeedback retryAttempt context,
        buildAgentContext spec runId idea artifacts repairAttempt repairFeedback retryAttempt =
            .ok context → (contextInputArtifactIds context).Nodup) ↔
      (spec.name = "evaluation-agent" → reviewsLatest artifacts = true) := by
  rw [← pairwise_apart_iff hspec, ← nodup_selected_iff hids.of_map hselect]
  refine and_iff_left_of_imp fun hselected runId idea _ _ _ context hbuild => ?_
  exact nodup_contextInputArtifactIds hspec hids hselect hselected hbuild

/-- The inputs of the evaluator, with the build report of these producers. -/
def sampleEvidence (producers : List String) : List ContextItem :=
  [sampleSnapshot 0 .requirementsSpec "requirements-agent",
    sampleSnapshot 1 .architectureDecision "architecture-agent",
    sampleSnapshot 2 .uxSpecification "ux-agent", sampleSnapshot 3 .threatModel "security-agent",
    sampleSnapshot 4 .testPlan "test-planner-agent",
    sampleSnapshot 5 .testReport "validation-agent",
    sampleSnapshot 6 .staticAnalysisReport "static-analysis-agent",
    sampleSnapshot 7 .qualityGateReport "deterministic-quality-gates"] ++
  (producers.zipIdx 8).map fun producer => sampleSnapshot producer.2 .buildReport producer.1

/-- The contract of the evaluator. -/
def evaluatorSpec : AgentSpec := agentSpecs[13]

theorem inputs_distinct_sample :
    ∃ selected, selectAgentArtifacts evaluatorSpec
        (sampleEvidence [trustedSandboxService, "build-agent"]) = .ok selected ∧ selected.Nodup := by
  refine ⟨_, rfl, ?_⟩
  exact ((inputs_distinct_iff_reviews_latest evaluatorSpec (by decide)
    (sampleEvidence [trustedSandboxService, "build-agent"]) _ (by decide) rfl).mpr
      fun _ => by decide).1

theorem inputs_repeated :
    ∃ spec ∈ agentSpecs, ∃ artifacts selected,
      (artifacts.map fun item => item.metadata.artifactId).Nodup ∧
        selectAgentArtifacts spec artifacts = .ok selected ∧ ¬ selected.Nodup :=
  ⟨evaluatorSpec, by decide, sampleEvidence ["build-agent", trustedSandboxService], _, by decide,
    rfl, by decide⟩

end Catalog

end Aidlc
