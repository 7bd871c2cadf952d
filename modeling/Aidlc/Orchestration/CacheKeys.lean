import Aidlc.Foundation.CanonicalJson
import Aidlc.Orchestration.Workflow

/-! # What a cache key stands for

The key of an invocation is the digest of a canonical text. Where the digest has no
collisions, equal keys and equal inputs mean the same agent, asked for the same under
the same conditions; only the number of the retry is not in the key.
-/

namespace Aidlc

open Foundation Workflow

/-- How floating-point numbers are written: as numbers that can be read back. -/
structure Decimal (floatText : Rat → List Char) : Prop where
  number : ∀ value, NumberText (floatText value)
  injective : Function.Injective floatText

/-- The digest of a value is that of its canonical text, and no two texts share one. -/
def CollisionFree (platform : Platform) (floatText : Rat → List Char) : Prop :=
  ∀ first second, platform.sha256 first = platform.sha256 second →
    dumpsCanonical floatText first = dumpsCanonical floatText second

/-- Every artifact was read from the store, which checks its digest. -/
def ReadThrough (platform : Platform) (artifacts : List ContextItem) : Prop :=
  ∀ item ∈ artifacts, platform.sha256 item.content = item.metadata.contentSha256

/-- Two invocations of the same agent with the same inputs under the same conditions. -/
structure SameInvocation (floatText : Rat → List Char) (settings others : HubSettings)
    (spec other : AgentSpec) (context later : AgentContext ContextItem) : Prop where
  agent : spec.name = other.name
  model : settings.model = others.model
  promptVersion : spec.promptVersion = other.promptVersion
  contextContractVersion : spec.contextContractVersion = other.contextContractVersion
  runtimeProfile : cacheRuntimeProfile settings = cacheRuntimeProfile others
  idea : context.idea = later.idea
  inputs : context.artifacts.map (fun item => item.metadata.artifactId) =
    later.artifacts.map fun item => item.metadata.artifactId
  contents : context.artifacts.map (fun item => dumpsCanonical floatText item.content) =
    later.artifacts.map fun item => dumpsCanonical floatText item.content
  humanResponse : dumpsCanonical floatText (Json.ofOption id context.humanResponse) =
    dumpsCanonical floatText (Json.ofOption id later.humanResponse)
  repairAttempt : context.repairAttempt = later.repairAttempt
  repairFeedback : dumpsCanonical floatText (Json.ofOption id context.repairFeedback) =
    dumpsCanonical floatText (Json.ofOption id later.repairFeedback)
  repairArtifact : context.repairArtifactId = later.repairArtifactId
  repairContents : context.repairArtifactSha256 = later.repairArtifactSha256

variable {platform : Platform} {floatText : Rat → List Char} {settings others : HubSettings}
  {spec other : AgentSpec} {context later : AgentContext ContextItem}

theorem digest_of_readThrough (hread : ReadThrough platform context.artifacts) {item : ContextItem}
    (hitem : item ∈ context.artifacts) : item.digest platform = platform.sha256 item.content := by
  unfold ContextItem.digest
  split
  next => rfl
  next => exact (hread item hitem).symm

theorem dumpsTexts_inj {first second : List String}
    (heq : dumpsItems floatText (first.map .str) = dumpsItems floatText (second.map .str)) :
    first = second := by
  induction first generalizing second with
  | nil =>
      cases second with
      | nil => rfl
      | cons text rest => cases heq
  | cons text rest ih =>
      cases second with
      | nil => cases heq
      | cons other tail =>
          rw [List.map_cons, List.map_cons, dumpsItems, dumpsItems, List.cons.injEq] at heq
          rw [dumpsText_inj heq.1, ih heq.2]

theorem cacheRuntimeProfile_inj (hdecimal : Decimal floatText)
    (heq : dumpsCanonical floatText (cacheRuntimeProfile settings) =
      dumpsCanonical floatText (cacheRuntimeProfile others)) :
    cacheRuntimeProfile settings = cacheRuntimeProfile others := by
  unfold cacheRuntimeProfile at heq ⊢
  have hfields := fun hkeys hnodup => dumpsFields_inj hdecimal.number hkeys hnodup heq
  specialize hfields rfl (by simp)
  simp only [dumpsFields, dumpsField, List.cons.injEq, Prod.mk.injEq, true_and, and_true] at hfields
  obtain ⟨heffort, hmodel, himplementation, hbackend, himage, henabled, hanalysis, hmcp,
    hthreshold⟩ := hfields
  rw [dumpsText_inj heffort, dumpsInt_inj hmodel, dumpsInt_inj himplementation,
    dumpsText_inj hbackend, dumpsText_inj himage, dumpsBool_inj henabled, dumpsText_inj hanalysis,
    dumpsBool_inj hmcp, hdecimal.injective hthreshold]

theorem digests_of_readThrough (hread : ReadThrough platform context.artifacts) :
    context.artifacts.map (fun item => item.digest platform) =
      context.artifacts.map fun item => platform.sha256 item.content :=
  List.map_congr_left fun _ hitem => digest_of_readThrough hread hitem

/-- Where the digests of lists agree one by one, so do the texts. -/
theorem texts_of_digests (hdigest : CollisionFree platform floatText)
    {first second : List ContextItem}
    (heq : first.map (fun item => platform.sha256 item.content) =
      second.map fun item => platform.sha256 item.content) :
    first.map (fun item => dumpsCanonical floatText item.content) =
      second.map fun item => dumpsCanonical floatText item.content := by
  induction first generalizing second with
  | nil =>
      cases second with
      | nil => rfl
      | cons item rest => cases heq
  | cons item rest ih =>
      cases second with
      | nil => cases heq
      | cons other tail =>
          rw [List.map_cons, List.map_cons, List.cons.injEq] at heq
          rw [List.map_cons, List.map_cons, hdigest _ _ heq.1, ih heq.2]

/-- The inputs of a context end with its repair artifact, if it has one. -/
theorem inputs_of_contextInputArtifactIds
    (hinputs : contextInputArtifactIds context = contextInputArtifactIds later)
    (hlength : context.artifacts.length = later.artifacts.length) :
    context.artifacts.map (fun item => item.metadata.artifactId) =
        later.artifacts.map (fun item => item.metadata.artifactId) ∧
      context.repairArtifactId = later.repairArtifactId := by
  unfold contextInputArtifactIds at hinputs
  obtain ⟨hids, hrepair⟩ := List.append_inj hinputs (by simpa using hlength)
  refine ⟨hids, ?_⟩
  cases hfirst : context.repairArtifactId with
  | none =>
      cases hsecond : later.repairArtifactId with
      | none => rfl
      | some other => rw [hfirst, hsecond] at hrepair; cases hrepair
  | some artifactId =>
      cases hsecond : later.repairArtifactId with
      | none => rw [hfirst, hsecond] at hrepair; cases hrepair
      | some other => rw [hfirst, hsecond] at hrepair; cases hrepair; rfl

/-- Equal keys and equal inputs stand for the same invocation. -/
theorem sameInvocation_of_key (hdecimal : Decimal floatText)
    (hdigest : CollisionFree platform floatText)
    (hread : ReadThrough platform context.artifacts) (hlater : ReadThrough platform later.artifacts)
    (hkey : cacheKeyOf platform settings spec context = cacheKeyOf platform others other later)
    (hinputs : contextInputArtifactIds context = contextInputArtifactIds later) :
    SameInvocation floatText settings others spec other context later := by
  have heq := hdigest _ _ hkey
  have hfields := fun hkeys hnodup => dumpsFields_inj hdecimal.number hkeys hnodup heq
  specialize hfields rfl (by simp)
  simp only [dumpsFields, dumpsField, List.cons.injEq, Prod.mk.injEq, true_and, and_true] at hfields
  obtain ⟨hagent, hmodel, hprompt, hcontract, hidea, hhashes, hhuman, hattempt, hfeedback, hsha,
    hprofile⟩ := hfields
  have hdigests : context.artifacts.map (fun item => platform.sha256 item.content) =
      later.artifacts.map fun item => platform.sha256 item.content := by
    have hitems := dumpsItems_inj hdecimal.number hhashes
    rw [← digests_of_readThrough hread, ← digests_of_readThrough hlater]
    apply @dumpsTexts_inj floatText
    rw [List.map_map, List.map_map]
    exact hitems
  obtain ⟨hids, hrepair⟩ := inputs_of_contextInputArtifactIds hinputs (by
    simpa using congrArg List.length hdigests)
  exact {
    agent := dumpsText_inj hagent
    model := dumpsText_inj hmodel
    promptVersion := dumpsText_inj hprompt
    contextContractVersion := dumpsText_inj hcontract
    runtimeProfile := cacheRuntimeProfile_inj hdecimal hprofile
    idea := dumpsText_inj hidea
    inputs := hids
    contents := texts_of_digests hdigest hdigests
    humanResponse := hhuman
    repairAttempt := Int.ofNat.inj (dumpsInt_inj hattempt)
    repairFeedback := hfeedback
    repairArtifact := hrepair
    repairContents := dumpsOptionText_inj hsha }

end Aidlc
