import Aidlc.Agents.Catalog
import Aidlc.Domain.Numbers
import Aidlc.Evaluation.Models
import Aidlc.Orchestration.Context
import Aidlc.Storage.Stores

/-! # The evaluation agent

The wrapper that `migrate` puts around the graph of the evaluation agent. The graph
may return anything or raise at every call. A first loop asks again until there is a
structured response, a second one until the rubrics cite artifacts of the context;
then the report of the quality gates is put into the evaluation.
-/

namespace Aidlc

open Foundation

/-- `EvaluationOutput` -/
structure EvaluationOutput (platform : Platform) where
  content : EvaluationReport platform String
  markdown : String

/-- What is read of a message of the model. -/
structure AiMessage where
  responseMetadata : List (String × Json)
  refusal : Option Json
  content : Json
  invalidToolCalls : List Json
  id : Option String

inductive GraphMessage where
  | human (content : String)
  | ai (message : AiMessage)
  | other (content : Json)

/-- The state a graph is invoked with, and what it returns. A response that is `None` is
none. -/
structure GraphState (Response : Type) where
  messages : Option (List GraphMessage)
  structuredResponse : Option Response := none
  others : List (String × Json) := []

structure DeepSettings where
  model : String
  maxRepairAttempts : Nat
  inputCostPerMillion : Option Rat
  outputCostPerMillion : Option Rat

/-- The evaluation agent and what it runs on: the graph with a state of its own, the
reading of what it returns, and the tokens its calls have used. -/
structure EvaluationAgent (platform : Platform) (σ Response : Type) where
  name : String
  settings : DeepSettings
  ainvoke : GraphState Response → σ → Except PyError (GraphState Response) × σ
  usage : σ → List (Int × Int)
  validateOutput : Response → Except PyError (EvaluationOutput platform)
  reading : Reading
  conversions : Conversions
  dumps : Json → String
  executionId : String
  tracePath : Option String

/-- The state of the graph, and what it was invoked with so far. -/
structure GraphRun (σ Response : Type) where
  world : σ
  calls : List (GraphState Response)

abbrev GraphM (σ Response : Type) := EStateM PyError (GraphRun σ Response)

/-! ## Missing responses -/

section Diagnosis

variable (conversions : Conversions)

def eqText (value : Option Json) (text : String) : Bool :=
  match value with
  | some value => value.pyEq (.str text)
  | none => false

/-- `value in texts`, where the texts are a set. -/
def inTexts (value : Option Json) (texts : List String) : Except PyError Bool :=
  match value with
  | some (.arr _) => typeError "cannot use 'list' as a set element (unhashable type: 'list')"
  | some (.obj _) => typeError "cannot use 'dict' as a set element (unhashable type: 'dict')"
  | value => .ok (texts.any (eqText value))

def lastMessage (messages : List GraphMessage) : Option AiMessage :=
  messages.reverse.findSome? fun message =>
    match message with
    | .ai message => some message
    | .human _ | .other _ => none

def isTruncated (metadata incomplete : Json) : Except PyError Bool := do
  if eqText (metadata.get? "finish_reason") "length" then return true
  else if ← inTexts (← getAttr incomplete "reason") ["max_output_tokens", "max_tokens"] then
    return true
  else return eqText (metadata.get? "stop_reason") "max_tokens"

def isRefusal (message : AiMessage) : Bool :=
  Json.truthy message.refusal ||
    match message.content with
    | .arr blocks => blocks.any fun block => eqText (block.get? "type") "refusal"
    | _ => false

/-- Why there is no response, and whether another attempt is of no use. -/
structure Diagnosis where
  reason : String
  hopeless : Bool

def metadataOfLast : Option AiMessage → Json
  | some message => .obj message.responseMetadata
  | none => .obj []

def diagnose (last : Option AiMessage) : Except PyError Diagnosis := do
  let metadata := metadataOfLast last
  let details := metadata.get? "incomplete_details"
  let incomplete := if Json.truthy details then details.getD .null else .obj []
  let truncated ← isTruncated metadata incomplete
  let refused := last.any isRefusal
  let unfinished := eqText (metadata.get? "status") "incomplete"
  let hopeless := truncated || refused || unfinished
  if truncated then
    return ⟨"model output token limit reached; increase AIDLC_MAX_MODEL_OUTPUT_TOKENS", hopeless⟩
  else if refused then return ⟨"model refused the request", hopeless⟩
  else if unfinished then
    let reason := (← getAttr incomplete "reason").getD (.str "reason not provided")
    return ⟨"model response incomplete: " ++ conversions.text reason, hopeless⟩
  else if last.any fun message => !message.invalidToolCalls.isEmpty then
    return ⟨"model returned invalid structured-output tool arguments", hopeless⟩
  else return ⟨"model did not return the structured-output tool result", hopeless⟩

end Diagnosis

section Agent

variable {platform : Platform} {σ Response : Type} (agent : EvaluationAgent platform σ Response)

namespace EvaluationAgent

/-- The error of a run without a response. -/
def missing (last : Option AiMessage) (reason : String) : PyError :=
  let metadata := metadataOfLast last
  let shown (key : String) : String :=
    agent.conversions.text ((metadata.get? key).getD (.str "unknown"))
  let id := metadata.get? "id"
  let responseId :=
    if Json.truthy id then agent.conversions.text (id.getD .null)
    else match last.bind AiMessage.id with
      | some text => if text = "" then "unknown" else text
      | none => "unknown"
  ⟨.runtimeError, agent.name ++ ": missing EvaluationOutput: " ++ reason ++
    " (model=" ++ agent.settings.model ++ ", status=" ++ shown "status" ++
    ", finish_reason=" ++ shown "finish_reason" ++ ", response_id=" ++ responseId ++ ")" ++
    match agent.tracePath with
    | some path => "; diagnostics=" ++ path
    | none => ""⟩

/-- `graph.ainvoke(state)` -/
def invokeGraph (state : GraphState Response) : GraphM σ Response (GraphState Response) :=
  fun run =>
    let answer := agent.ainvoke state run.world
    let next : GraphRun σ Response := ⟨answer.2, run.calls ++ [state]⟩
    match answer.1 with
    | .ok output => .ok output next
    | .error error => .error error next

/-- `output.get("messages", state["messages"])` -/
def messagesAfter (state output : GraphState Response) : List GraphMessage :=
  output.messages.getD (state.messages.getD [])

def finalResultText : String :=
  "Return the final result using the EvaluationOutput structured-output tool with every " ++
    "required field. Plain text alone is not a final result."

/-- The first loop, with so many attempts left after this one. What it returns is the
state of the last call, its output, and the response in it. -/
def respond : Nat → GraphState Response →
    GraphM σ Response (GraphState Response × GraphState Response × Response)
  | remaining, state => do
    let output ← agent.invokeGraph state
    match output.structuredResponse with
    | some response => return (state, output, response)
    | none =>
      let last := lastMessage (output.messages.getD [])
      let diagnosis ← ofExcept (diagnose agent.conversions last)
      if diagnosis.hopeless then throw (agent.missing last diagnosis.reason)
      else match remaining with
        | 0 => throw (agent.missing last diagnosis.reason)
        | remaining + 1 =>
          respond remaining
            { output with messages := some (messagesAfter state output ++ [.human finalResultText]) }

/-! ## Evidence -/

/-- `item["metadata"]["artifact_id"]` of the items, as members of a set -/
def knownIds (artifacts : List Json) : Except PyError (List Json) :=
  artifacts.mapM fun item => do
    let id ← metadataOf item "artifact_id"
    match id with
    | .arr _ => typeError "cannot use 'list' as a set element (unhashable type: 'list')"
    | .obj _ => typeError "cannot use 'dict' as a set element (unhashable type: 'dict')"
    | id => return id

def isKnown (known : List Json) (id : String) : Bool := known.any fun value => value.pyEq (.str id)

def missingCitations (report : EvaluationReport platform String) : Bool :=
  report.values.any fun score =>
    match score with
    | some score => score.evidenceArtifactIds.isEmpty
    | none => false

def unknownIds (known : List Json) (report : EvaluationReport platform String) : List String :=
  (report.values.flatMap fun score =>
    match score with
    | some score => score.evidenceArtifactIds.filter fun id => !isKnown known id
    | none => []).dedup

def evidenceError (unknown : List String) : PyError :=
  ⟨.valueError, "Evaluation rubric must cite existing input artifact IDs." ++
    if unknown.isEmpty then ""
    else " Unknown IDs: " ++ ", ".intercalate (unknown.insertionSort (· ≤ ·)) ++ "."⟩

/-- `', '.join(sorted(known_ids))`. Which values a `TypeError` names depends on the order
of the set. -/
def knownText (known : List Json) : Except PyError String := do
  let texts ← known.dedup.mapM fun value =>
    match value with
    | .str text => .ok text
    | value => typeError ("expected str instance, " ++ Json.typeName value ++ " found")
  return ", ".intercalate (texts.insertionSort (· ≤ ·))

def correctionText (error : PyError) (known : String) : String :=
  "Correct the EvaluationOutput evidence citations. " ++ error.message ++
    " Use only these exact artifact IDs: " ++ known ++
    ". An analysis_id or result_uri returned by analyze_code is not an artifact ID; cite the " ++
    "analyzed source artifact and supplied static analysis report instead. Return the " ++
    "complete corrected EvaluationOutput."

/-- The second loop, with so many attempts left after this one. -/
def correct (known : List Json) : Nat → GraphState Response → GraphState Response →
    EvaluationOutput platform → GraphM σ Response (EvaluationOutput platform)
  | remaining, state, output, validated => do
    let unknown := unknownIds known validated.content
    if !missingCitations validated.content && unknown.isEmpty then return validated
    else match remaining with
      | 0 => throw (evidenceError unknown)
      | remaining + 1 => do
        let ids ← ofExcept (knownText known)
        let correction := correctionText (evidenceError unknown) ids
        let state : GraphState Response := {
          messages := some (messagesAfter state output ++ [.human correction])
          others := output.others }
        let output ← agent.invokeGraph state
        match output.structuredResponse with
        | none => throw (evidenceError unknown)
        | some response => do
          correct known remaining state output (← ofExcept (agent.validateOutput response))

/-- The last report of the quality gates; the items are given newest first. -/
def lastGate : List Json → Except PyError (Option Json)
  | [] => .ok none
  | item :: rest => do
    if ← hasKind .qualityGateReport item then return some item
    else lastGate rest

/-- The report of the gates is put in the place of what the model wrote there. -/
def bindGates (artifacts : List Json) (report : EvaluationReport platform String) :
    Except PyError (EvaluationReport platform String) := do
  match ← lastGate artifacts.reverse with
  | none => return report
  | some gate =>
    let gates ← QualityGateReport.modelValidate agent.reading (← subscript gate "content")
    return { report with qualityGates := some gates }

/-! ## The result -/

def costOf (inputTokens outputTokens : Option Int) : Except PyError (Option Rat) :=
  match inputTokens, outputTokens, agent.settings.inputCostPerMillion,
      agent.settings.outputCostPerMillion with
  | some input, some output, some inputCost, some outputCost => do
    let first := nearest ((← floatOfInt input) * inputCost)
    let second := nearest ((← floatOfInt output) * outputCost)
    return some (nearest (nearest (first + second) / 1000000))
  | _, _, _, _ => .ok none

def resultOf (usage : List (Int × Int)) (validated : EvaluationOutput platform) :
    Except PyError AgentResult := do
  let inputTokens := if usage.isEmpty then none else some (usage.map Prod.fst).sum
  let outputTokens := if usage.isEmpty then none else some (usage.map Prod.snd).sum
  let cost ← agent.costOf inputTokens outputTokens
  return {
    artifactKind := .evaluationReport
    content := validated.content.modelDump
    markdown := validated.markdown
    humanPrompt := none
    execution := {
      executionId := some agent.executionId
      modelId := agent.settings.model
      promptVersion := goalVersion
      inputTokens
      outputTokens
      costUsd := cost
      costBasis := if cost.isSome then "configured_rates" else "unavailable" } }

/-- `migrate.invoke` for the evaluation agent -/
def invoke (context : AgentContext Json) : GraphM σ Response AgentResult := do
  let request := agent.dumps (context.modelDump platform)
  let limit := agent.settings.maxRepairAttempts
  let (state, output, response) ← agent.respond limit { messages := some [.human request] }
  let validated ← ofExcept (agent.validateOutput response)
  let known ← ofExcept (knownIds context.artifacts)
  let validated ← agent.correct known limit state output validated
  let content ← ofExcept (agent.bindGates context.artifacts validated.content)
  let usage := agent.usage (← get).world
  ofExcept (agent.resultOf usage { validated with content })

/-! ## Calls of the graph -/

section Calls

variable {α β : Type} {limit rest : Nat}

/-- A computation that invokes the graph at most so often, however it ends. -/
def Within (limit : Nat) (computation : GraphM σ Response α) : Prop :=
  ∀ run, (finalState (computation run)).calls.length ≤ run.calls.length + limit

theorem within_pure (value : α) : Within 0 (pure value : GraphM σ Response α) :=
  fun _ => Nat.le_refl _

theorem within_throw (error : PyError) : Within 0 (throw error : GraphM σ Response α) :=
  fun _ => Nat.le_refl _

theorem within_get : Within 0 (get : GraphM σ Response (GraphRun σ Response)) :=
  fun _ => Nat.le_refl _

theorem within_ofExcept (ending : Except PyError α) :
    Within 0 (ofExcept ending : GraphM σ Response α) := by
  cases ending with
  | ok value => exact within_pure value
  | error error => exact within_throw error

/-- The bounds of two parts add up. -/
theorem within_bind {first : GraphM σ Response α} {next : α → GraphM σ Response β}
    (hfirst : Within limit first) (hnext : ∀ value, Within rest (next value)) :
    Within (limit + rest) (first >>= next) := by
  intro run
  have hle := hfirst run
  cases hvalue : first run with
  | ok value middle =>
      have hlast := hnext value middle
      rw [hvalue] at hle
      rw [bind_of_ok hvalue]
      simp only [finalState] at hle
      omega
  | error error middle =>
      rw [hvalue] at hle
      rw [bind_of_error hvalue]
      simp only [finalState] at hle ⊢
      omega

/-- A bound may be relaxed. -/
theorem within_mono {computation : GraphM σ Response α} (hwithin : Within limit computation)
    (hle : limit ≤ rest) : Within rest computation :=
  fun run => (hwithin run).trans (Nat.add_le_add_left hle _)

/-- One invocation is one call. -/
theorem within_invokeGraph (state : GraphState Response) : Within 1 (agent.invokeGraph state) := by
  intro run
  unfold invokeGraph
  dsimp only
  split <;> simp [finalState]

/-- What returns or raises invokes nothing, so what follows has the same limit. -/
theorem within_ofExcept_bind {ending : Except PyError α} {next : α → GraphM σ Response β}
    (hnext : ∀ value, Within limit (next value)) :
    Within limit (ofExcept ending >>= next) :=
  within_mono (within_bind (within_ofExcept ending) hnext) (Nat.le_of_eq (Nat.zero_add limit))

/-- A response with its retries makes at most one call more than it has retries. -/
theorem within_respond (remaining : Nat) (state : GraphState Response) :
    Within (1 + remaining) (agent.respond remaining state) := by
  induction remaining generalizing state with
  | zero =>
      unfold respond
      apply within_bind (within_invokeGraph agent state)
      intro output
      split
      · exact within_pure _
      · apply within_ofExcept_bind
        intro diagnosis
        split <;> exact within_throw _
  | succ remaining ih =>
      unfold respond
      apply within_bind (within_invokeGraph agent state)
      intro output
      split
      · exact within_mono (within_pure _) (Nat.zero_le _)
      · apply within_ofExcept_bind
        intro diagnosis
        split
        · exact within_mono (within_throw _) (Nat.zero_le _)
        · exact within_mono (ih _) (Nat.le_of_eq (Nat.add_comm 1 remaining))

/-- Corrections make at most as many calls as remain. -/
theorem within_correct (known : List Json) (remaining : Nat) (state output : GraphState Response)
    (validated : EvaluationOutput platform) :
    Within remaining (agent.correct known remaining state output validated) := by
  induction remaining generalizing state output validated with
  | zero =>
      unfold correct
      dsimp only
      split
      · exact within_pure _
      · exact within_throw _
  | succ remaining ih =>
      unfold correct
      dsimp only
      split
      · exact within_mono (within_pure _) (Nat.zero_le _)
      · apply within_ofExcept_bind
        intro ids
        rw [Nat.add_comm]
        apply within_bind (within_invokeGraph agent _)
        intro output
        split
        · exact within_mono (within_throw _) (Nat.zero_le _)
        · apply within_ofExcept_bind
          exact fun validated => ih _ _ validated

/-- One call and a correction for each attempt in both loops. -/
theorem within_invoke (context : AgentContext Json) :
    Within (2 * agent.settings.maxRepairAttempts + 1) (agent.invoke context) := by
  have hsum : 2 * agent.settings.maxRepairAttempts + 1 =
      1 + agent.settings.maxRepairAttempts + (agent.settings.maxRepairAttempts + (0 + 0)) := by
    omega
  rw [hsum]
  unfold invoke
  apply within_bind (within_respond agent _ _)
  rintro ⟨state, output, response⟩
  apply within_ofExcept_bind
  intro validated
  apply within_ofExcept_bind
  intro known
  apply within_bind (within_correct agent known _ state output validated)
  intro validated
  apply within_ofExcept_bind
  intro content
  apply within_bind within_get
  exact fun run => within_ofExcept _

end Calls

/-! ## Accepted evaluations -/

section Accepted

variable {agent}

/-- Every judgment cites known identifiers, and at least one. -/
def Cites (known : List Json) (report : EvaluationReport platform String) : Prop :=
  ∀ judgment, some judgment ∈ report.values → judgment.evidenceArtifactIds ≠ [] ∧
    ∀ id ∈ judgment.evidenceArtifactIds, isKnown known id = true

/-- A report that passes the citation checks cites known evidence. -/
theorem cites_of_accepted {known : List Json} {report : EvaluationReport platform String}
    (hmissing : missingCitations report = false) (hunknown : unknownIds known report = []) :
    Cites known report := by
  intro judgment hjudgment
  constructor
  · intro hempty
    have htest := List.any_eq_false.mp hmissing (some judgment) hjudgment
    simp [hempty] at htest
  · intro id hid
    by_contra hforeign
    have hmem : id ∈ unknownIds known report := by
      rw [unknownIds, List.mem_dedup, List.mem_flatMap]
      exact ⟨some judgment, hjudgment, List.mem_filter.mpr ⟨hid, by simpa using hforeign⟩⟩
    rw [hunknown] at hmem
    cases hmem

/-- The second loop ends with an evaluation whose citations are known, or raises. -/
theorem correct_cites {known : List Json} {remaining : Nat} {state output : GraphState Response}
    {validated accepted : EvaluationOutput platform} {run last : GraphRun σ Response}
    (haccepted : agent.correct known remaining state output validated run = .ok accepted last) :
    Cites known accepted.content := by
  induction remaining generalizing state output validated run with
  | zero =>
      unfold correct at haccepted
      dsimp only at haccepted
      split at haccepted
      next htest =>
        cases haccepted
        simp only [Bool.and_eq_true, Bool.not_eq_true', List.isEmpty_iff] at htest
        exact cites_of_accepted htest.1 htest.2
      next => exact absurd haccepted throw_ne_ok
  | succ remaining ih =>
      unfold correct at haccepted
      dsimp only at haccepted
      split at haccepted
      next htest =>
        cases haccepted
        simp only [Bool.and_eq_true, Bool.not_eq_true', List.isEmpty_iff] at htest
        exact cites_of_accepted htest.1 htest.2
      next =>
        obtain ⟨ids, middle, -, haccepted⟩ := bind_eq_ok.mp haccepted
        obtain ⟨answer, after, -, haccepted⟩ := bind_eq_ok.mp haccepted
        cases hresponse : answer.structuredResponse with
        | none =>
            rw [hresponse] at haccepted
            exact absurd haccepted throw_ne_ok
        | some response =>
            rw [hresponse] at haccepted
            obtain ⟨corrected, final, -, haccepted⟩ := bind_eq_ok.mp haccepted
            exact ih haccepted

/-- A known identifier is that of an artifact. -/
theorem artifact_of_isKnown {artifacts known : List Json} {id : String}
    (hknown : knownIds artifacts = .ok known) (hid : isKnown known id = true) :
    ∃ item ∈ artifacts, metadataOf item "artifact_id" = .ok (.str id) := by
  obtain ⟨value, hvalue, hsame⟩ := List.any_eq_true.mp hid
  obtain ⟨item, hitem, hread⟩ := exists_of_forall₂_left (forall₂_of_mapM hknown).flip hvalue
  rw [except_bind_eq_ok] at hread
  obtain ⟨found, hfound, hread⟩ := hread
  refine ⟨item, hitem, ?_⟩
  have hvalue : found = value := by
    cases found with
    | arr items => cases hread
    | obj fields => cases hread
    | null | bool | int | float | str => exact Except.ok.inj hread
  rw [hfound, hvalue, Json.pyEq_str.mp hsame]

/-- The gate report that is bound is the newest. -/
theorem lastGate_eq_some {items : List Json} {gate : Json} (hgate : lastGate items = .ok (some gate)) :
    ∃ newer older, items = newer ++ gate :: older ∧
      hasKind .qualityGateReport gate = .ok true ∧
      ∀ item ∈ newer, hasKind .qualityGateReport item = .ok false := by
  induction items with
  | nil => cases hgate
  | cons item rest ih =>
      rw [lastGate, except_bind_eq_ok] at hgate
      obtain ⟨isGate, hkind, hgate⟩ := hgate
      cases isGate with
      | true =>
          cases hgate
          exact ⟨[], rest, rfl, hkind, by simp⟩
      | false =>
          obtain ⟨newer, older, hsplit, hfound, hothers⟩ := ih hgate
          refine ⟨item :: newer, older, by rw [hsplit, List.cons_append], hfound, ?_⟩
          intro other hother
          rcases List.mem_cons.mp hother with rfl | hmem
          · exact hkind
          · exact hothers other hmem

theorem lastGate_eq_none {items : List Json} (hgate : lastGate items = .ok none) :
    ∀ item ∈ items, hasKind .qualityGateReport item = .ok false := by
  induction items with
  | nil => simp
  | cons item rest ih =>
      rw [lastGate, except_bind_eq_ok] at hgate
      obtain ⟨isGate, hkind, hgate⟩ := hgate
      cases isGate with
      | true => cases hgate
      | false =>
          intro other hother
          rcases List.mem_cons.mp hother with rfl | hmem
          · exact hkind
          · exact ih hgate other hmem

/-- The last report of the gates in a context, as it is read. -/
def LastGates (agent : EvaluationAgent platform σ Response) (artifacts : List Json)
    (gates : QualityGateReport String) : Prop :=
  ∃ older gate newer content, artifacts = older ++ gate :: newer ∧
    hasKind .qualityGateReport gate = .ok true ∧
    (∀ item ∈ newer, hasKind .qualityGateReport item = .ok false) ∧
    subscript gate "content" = .ok content ∧
      QualityGateReport.modelValidate agent.reading content = .ok gates

/-- Binding replaces the gates and nothing else. -/
theorem bindGates_ok {artifacts : List Json} {report bound : EvaluationReport platform String}
    (hgate : ∃ item ∈ artifacts, hasKind .qualityGateReport item = .ok true)
    (hbound : agent.bindGates artifacts report = .ok bound) :
    bound.values = report.values ∧ ∃ gates, LastGates agent artifacts gates ∧
      bound.qualityGates = some gates := by
  rw [bindGates, except_bind_eq_ok] at hbound
  obtain ⟨found, hfound, hbound⟩ := hbound
  cases found with
  | none =>
      obtain ⟨item, hitem, hkind⟩ := hgate
      have hother := lastGate_eq_none hfound item (List.mem_reverse.mpr hitem)
      rw [hkind] at hother
      cases hother
  | some gate =>
      dsimp only at hbound
      rw [except_bind_eq_ok] at hbound
      obtain ⟨content, hcontent, hbound⟩ := hbound
      rw [except_bind_eq_ok] at hbound
      obtain ⟨gates, hgates, hbound⟩ := hbound
      cases hbound
      obtain ⟨newer, older, hsplit, hkind, hothers⟩ := lastGate_eq_some hfound
      refine ⟨rfl, gates, ⟨older.reverse, gate, newer.reverse, content, ?_, hkind, ?_, hcontent,
        hgates⟩, rfl⟩
      · rw [← List.reverse_reverse artifacts, hsplit]
        simp
      · exact fun item hitem => hothers item (List.mem_reverse.mp hitem)

/-- The newest gate report is found behind whatever follows it. -/
theorem lastGate_append {older newer : List Json} {gate : Json}
    (hgate : hasKind .qualityGateReport gate = .ok true)
    (hnewer : ∀ item ∈ newer, hasKind .qualityGateReport item = .ok false) :
    lastGate (newer ++ gate :: older) = .ok (some gate) := by
  induction newer with
  | nil =>
      simp only [List.nil_append, lastGate, hgate, bind, Except.bind, if_true]
      rfl
  | cons item rest ih =>
      have hitem := hnewer item List.mem_cons_self
      have hrest := ih fun other hmem => hnewer other (List.mem_cons_of_mem _ hmem)
      simp [lastGate, hitem, hrest, bind, Except.bind]

/-- The report that the hub published is put into the evaluation as it is. -/
theorem bindGates_published (hreading : ∀ value : Int, agent.reading.int (.int value) = some value)
    {older newer : List Json} {gate : Json} {gates : QualityGateReport String}
    (hgate : hasKind .qualityGateReport gate = .ok true)
    (hnewer : ∀ item ∈ newer, hasKind .qualityGateReport item = .ok false)
    (hcontent : subscript gate "content" = .ok gates.modelDump)
    (hprofile : gates.profile ∈ gateProfiles) (report : EvaluationReport platform String) :
    agent.bindGates (older ++ gate :: newer) report =
      .ok { report with qualityGates := some gates } := by
  have hlast : lastGate (older ++ gate :: newer).reverse = .ok (some gate) := by
    rw [List.reverse_append, List.reverse_cons, List.append_assoc, List.singleton_append]
    exact lastGate_append hgate fun item hitem => hnewer item (List.mem_reverse.mp hitem)
  have hread := QualityGateReport.modelValidate_modelDump hreading hprofile
  simp only [bindGates, hlast, hcontent, hread, bind, Except.bind]
  rfl

end Accepted

/-- What a published evaluation shows of a context: citations of its artifacts, and its last
report of the gates. -/
structure Evidenced (context : AgentContext Json) (report : EvaluationReport platform String) :
    Prop where
  cited : ∀ judgment, some judgment ∈ report.values → judgment.evidenceArtifactIds ≠ [] ∧
    ∀ id ∈ judgment.evidenceArtifactIds, ∃ item ∈ context.artifacts,
      metadataOf item "artifact_id" = .ok (.str id)
  gates : ∃ gates, LastGates agent context.artifacts gates ∧ report.qualityGates = some gates

/-- A result that is returned is evidenced. -/
theorem evidenced_of_invoke {context : AgentContext Json} {run last : GraphRun σ Response}
    {result : AgentResult}
    (hgate : ∃ item ∈ context.artifacts, hasKind .qualityGateReport item = .ok true)
    (hresult : agent.invoke context run = .ok result last) :
    ∃ report, result.content = EvaluationReport.modelDump report ∧
      Evidenced agent context report := by
  unfold invoke at hresult
  obtain ⟨⟨state, output, response⟩, first, -, hresult⟩ := bind_eq_ok.mp hresult
  obtain ⟨validated, second, -, hresult⟩ := bind_eq_ok.mp hresult
  obtain ⟨known, third, hknown, hresult⟩ := bind_eq_ok.mp hresult
  obtain ⟨accepted, fourth, haccepted, hresult⟩ := bind_eq_ok.mp hresult
  obtain ⟨report, fifth, hreport, hresult⟩ := bind_eq_ok.mp hresult
  obtain ⟨_, sixth, -, hresult⟩ := bind_eq_ok.mp hresult
  obtain ⟨hvalues, hgates⟩ := bindGates_ok hgate (ofExcept_eq_ok.mp hreport).1
  refine ⟨report, ?_, fun judgment hjudgment => ?_, hgates⟩
  · have hmade := (ofExcept_eq_ok.mp hresult).1
    rw [resultOf, except_bind_eq_ok] at hmade
    obtain ⟨cost, -, hmade⟩ := hmade
    cases hmade
    rfl
  · rw [hvalues] at hjudgment
    obtain ⟨hnonempty, hids⟩ := correct_cites haccepted judgment hjudgment
    exact ⟨hnonempty, fun id hid =>
      artifact_of_isKnown (ofExcept_eq_ok.mp hknown).1 (hids id hid)⟩

end EvaluationAgent

end Agent

open EvaluationAgent

/-- An evaluation is returned only if it cites artifacts of its context and holds the last
report of the gates, after a bounded number of calls; otherwise there is an error. -/
theorem evaluation_cites_evidence {platform : Platform} {σ Response : Type}
    (agent : EvaluationAgent platform σ Response) {context : AgentContext Json}
    (hgate : ∃ item ∈ context.artifacts, hasKind .qualityGateReport item = .ok true) (world : σ) :
    (∀ result last, agent.invoke context ⟨world, []⟩ = .ok result last →
      ∃ report, result.content = EvaluationReport.modelDump report ∧
        Evidenced agent context report) ∧
    (finalState (agent.invoke context ⟨world, []⟩)).calls.length ≤
      2 * agent.settings.maxRepairAttempts + 1 := by
  constructor
  · exact fun result last hresult => evidenced_of_invoke agent hgate hresult
  · simpa using within_invoke agent context ⟨world, []⟩

def sampleJudgment (id : String) : RubricScore String where
  applicability := .applicable
  score := some 1
  rationale := "Supported by the evidence"
  evidenceArtifactIds := [id]
  score_range value hvalue := by
    cases hvalue
    decide
  score_applicable := by decide

def sampleRubrics (id : String) : EvaluationOutput samplePlatform where
  content := {
    status := .evaluated
    requirementCoverage := some (sampleJudgment id)
    mvpCompleteness := some (sampleJudgment id)
    usability := some (sampleJudgment id)
    architecture := some (sampleJudgment id)
    maintainability := some (sampleJudgment id)
    riskAcceptance := some (sampleJudgment id)
    summary := "Complete"
    recommendedRepairs := []
    qualityGates := none
    judged := ⟨_, rfl⟩ }
  markdown := "# Evaluation"

def sampleGates : QualityGateReport String where
  profile := "python-stdlib-v1"
  runId := "run"
  repairAttempt := 0
  verdict := .failed
  gates := []
  sourceArtifactIds := ["art_source"]
  deferredChecks := []

/-- A graph that answers in plain text first, then cites an invented identifier, and is
right at last. -/
def sampleEvaluator : EvaluationAgent samplePlatform Nat (EvaluationOutput samplePlatform) where
  name := "evaluation-agent"
  settings := ⟨"test:scripted", 1, some (5 / 2), some 10⟩
  ainvoke state calls :=
    let response := match calls with
      | 0 => none
      | 1 => some (sampleRubrics "art_invented")
      | _ => some (sampleRubrics "art_source")
    (.ok { state with structuredResponse := response }, calls + 1)
  usage calls := [(1000 * calls, 100 * calls)]
  validateOutput := .ok
  reading :=
    { bool := fun value => match value with
        | .bool flag => some flag
        | _ => none
      int := fun value => match value with
        | .int number => some number
        | _ => none
      datetime := fun _ => true }
  conversions := {
    intText _ := .error ⟨.valueError, "invalid literal for int() with base 10"⟩
    floatText _ := .error ⟨.valueError, "could not convert string to float"⟩
    repr := Json.typeName }
  dumps _ := "\x7b\x7d"
  executionId := "execution"
  tracePath := none

def sampleEvaluationContext : AgentContext Json where
  runId := "run"
  idea := "idea"
  stage := .evaluation
  artifacts :=
    [.obj [("metadata", .obj [("artifact_id", .str "art_source"), ("kind", .str "code_change")])],
      .obj [("metadata", .obj [("artifact_id", .str "art_gates"),
          ("kind", .str ArtifactKind.qualityGateReport.value)]),
        ("content", sampleGates.modelDump)]]
  retryAttempt := 0
  humanResponse := none
  repairAttempt := 0
  repairFeedback := none
  repairArtifactId := none
  repairArtifactSha256 := none

theorem evaluation_cites_evidence_sample :
    ∃ result last, sampleEvaluator.invoke sampleEvaluationContext ⟨0, []⟩ = .ok result last ∧
      last.calls.length = 3 ∧ ∃ report, result.content = EvaluationReport.modelDump report ∧
        Evidenced sampleEvaluator sampleEvaluationContext report := by
  have hgate : ∃ item ∈ sampleEvaluationContext.artifacts,
      hasKind .qualityGateReport item = .ok true := by
    decide +kernel
  have hcalls : (returned (sampleEvaluator.invoke sampleEvaluationContext ⟨0, []⟩)).map
      (fun ending => ending.2.calls.length) = some 3 := by
    decide +kernel
  obtain ⟨⟨result, last⟩, hreturned, hlength⟩ := Option.map_eq_some_iff.mp hcalls
  have hresult := eq_ok_of_returned (Option.isSome_of_eq_some hreturned)
  simp only [hreturned, Option.get_some] at hresult
  exact ⟨result, last, hresult, hlength,
    (evaluation_cites_evidence sampleEvaluator hgate 0).1 result last hresult⟩

end Aidlc
