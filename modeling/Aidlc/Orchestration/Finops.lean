import Aidlc.Domain.Numbers
import Aidlc.Foundation.Effects
import Aidlc.Foundation.Gather
import Mathlib.Data.List.Sort

/-! # The usage report of a run

The report reads the events of a run five times and counts what they say, for all
agents together and for each agent alone. The agents are those of three of the five
kinds of events.
-/

namespace Aidlc

open Foundation

/-- What the report says of one agent, or of all of them. -/
structure Metrics where
  contextSelections : Int
  modelExecutions : Int
  cacheHits : Int
  selectedContextBytes : Int
  modelContextBytesSent : Int
  cacheAvoidedContextBytes : Int
  broadContextBaselineBytes : Int
  contextBytesSaved : Int
  contextReductionPercent : Rat
  actualInputTokens : Option Int
  actualOutputTokens : Option Int
  actualTotalTokens : Option Int
  repairTokens : Option Int
  workflowRetryTokens : Option Int
  tokensPerSuccessfulOutput : Option Rat
  actualCostUsd : Option Rat
  successfulOutputs : Int
  deriving DecidableEq

structure AgentMetrics where
  agent : String
  metrics : Metrics
  deriving DecidableEq

structure FinopsReport where
  measurementVersion : String := "aidlc-finops-v1"
  notes : List (String × String) :=
    [("actual_tokens", "Provider-reported model usage."),
      ("context_savings",
        "Deterministic serialized-byte comparison with the former broad context; " ++
          "it is not an estimate of tokens or currency.")]
  totals : Metrics
  agents : List AgentMetrics
  deriving DecidableEq

namespace Finops

variable (conversions : Conversions)

/-- The payloads of the events of a type. -/
def payloads (eventType : String) (events : List EventRecord) : List Json :=
  (events.filter fun event => event.eventType == eventType).map EventRecord.payload

/-- `agent is None or item.get("agent") == agent` -/
def ofAgent (agent : Option String) (item : Json) : Bool :=
  match agent with
  | none => true
  | some name => item.get? "agent" == some (.str name)

/-- The payloads of the events of a type that an agent is named in. -/
def chosen (eventType : String) (events : List EventRecord) (agent : Option String) : List Json :=
  (payloads eventType events).filter (ofAgent agent)

/-- `int(item.get(field) or 0)` -/
def intOrZero (field : String) (item : Json) : Except PyError Int :=
  if Json.truthy (item.get? field) then conversions.int ((item.get? field).getD (.int 0)) else .ok 0

/-- `total` -/
def total (items : List Json) (field : String) : Except PyError Int := do
  return (← items.mapM (intOrZero conversions field)).sum

/-- `item[field] for item in items if item.get(field) is not None` -/
def present (items : List Json) (field : String) : List Json :=
  (items.filterMap fun item => item.get? field).filter fun value => value != .null

/-- `cost` -/
def cost (items : List Json) : Except PyError (Option Rat) := do
  let values ← (present items "cost_usd").mapM conversions.float
  return if values.isEmpty then none else some (sumFloats values)

/-- `reported_tokens` -/
def reportedTokens (items : List Json) (field : String) : Except PyError (Option Int) := do
  let values ← (present items field).mapM conversions.int
  return if values.isEmpty then none else some values.sum

/-- `combined_tokens` -/
def combinedTokens (items : List Json) : Except PyError (Option Int) := do
  let inputTokens ← reportedTokens conversions items "input_tokens"
  let outputTokens ← reportedTokens conversions items "output_tokens"
  return match inputTokens, outputTokens with
    | none, none => none
    | inputTokens, outputTokens => some (inputTokens.getD 0 + outputTokens.getD 0)

/-- `item for item in items if int(item.get(field) or 0) > 0` -/
def later (field : String) (items : List Json) : Except PyError (List Json) :=
  items.filterM fun item => do return decide (0 < (← intOrZero conversions field item))

/-- The part of the broad context that was not selected, in percent. -/
def reductionPercent (savedBytes baselineBytes : Int) : Except PyError Rat :=
  if hbaseline : baselineBytes ≠ 0 then do
    return roundCents (← divideInts (savedBytes * 100) baselineBytes hbaseline)
  else .ok 0

def tokensPerOutput (successfulOutputs : Int) (allTokens : Option Int) :
    Except PyError (Option Rat) :=
  match allTokens with
  | none => .ok none
  | some tokens =>
    if houtputs : successfulOutputs ≠ 0 then do
      return some (roundCents (← divideInts tokens successfulOutputs houtputs))
    else .ok none

/-- `metrics` -/
def metrics (events : List EventRecord) (agent : Option String) : Except PyError Metrics := do
  let selected := chosen "agent.context_selected" events agent
  let used := chosen "agent.execution" events agent
  let hits := chosen "agent.cache_hit" events agent
  let delegated := chosen "agent.started" events agent
  let selectedBytes ← total conversions selected "context_bytes"
  let baselineBytes ← total conversions selected "baseline_context_bytes"
  let savedBytes := baselineBytes - selectedBytes
  let inputTokens ← reportedTokens conversions used "input_tokens"
  let outputTokens ← reportedTokens conversions used "output_tokens"
  let allTokens ← combinedTokens conversions used
  let successfulOutputs : Int :=
    (chosen "agent.completed" events agent).length + hits.length
  let sentBytes ← total conversions delegated "context_bytes"
  let avoidedBytes ← total conversions hits "context_bytes"
  let percent ← reductionPercent savedBytes baselineBytes
  let repairTokens ← combinedTokens conversions (← later conversions "repair_attempt" used)
  let retryTokens ← combinedTokens conversions (← later conversions "retry_attempt" used)
  let perOutput ← tokensPerOutput successfulOutputs allTokens
  let costUsd ← cost conversions used
  return {
    contextSelections := selected.length
    modelExecutions := used.length
    cacheHits := hits.length
    selectedContextBytes := selectedBytes
    modelContextBytesSent := sentBytes
    cacheAvoidedContextBytes := avoidedBytes
    broadContextBaselineBytes := baselineBytes
    contextBytesSaved := savedBytes
    contextReductionPercent := percent
    actualInputTokens := inputTokens
    actualOutputTokens := outputTokens
    actualTotalTokens := allTokens
    repairTokens := repairTokens
    workflowRetryTokens := retryTokens
    tokensPerSuccessfulOutput := perOutput
    actualCostUsd := costUsd
    successfulOutputs := successfulOutputs }

/-- The agents of the report, in the order of their names. -/
def agents (events : List EventRecord) : List String :=
  let items := payloads "agent.context_selected" events ++ payloads "agent.execution" events ++
    payloads "agent.cache_hit" events
  let names := items.filterMap fun item =>
    if Json.truthy (item.get? "agent") then (item.get? "agent").map conversions.text else none
  names.dedup.insertionSort fun first second => first ≤ second

end Finops

open Finops in
/-- `finops_report` -/
def finopsReport (conversions : Conversions) (events : List EventRecord) :
    Except PyError FinopsReport := do
  let totals ← metrics conversions events none
  let agents ← (agents conversions events).mapM fun agent => do
    return { agent, metrics := ← metrics conversions events (some agent) : AgentMetrics }
  return { totals, agents }

/-! ## What the metrics add up -/

/-- The sum of two figures that may be absent. -/
abbrev addReported : Option Int → Option Int → Option Int := Option.merge (· + ·)

/-- The sum of what is reported; it is absent where nothing is reported. -/
def reportedSum (values : List (Option Int)) : Option Int := gather addReported none values

theorem reportedSum_eq_none {values : List (Option Int)} :
    reportedSum values = none ↔ ∀ value ∈ values, value = none := by
  induction values with
  | nil => simp [reportedSum]
  | cons value rest ih =>
      rw [reportedSum, gather_cons, Option.merge_eq_none_iff, ← reportedSum, ih]
      simp

namespace Finops

variable {conversions : Conversions} {items : List Json} {field : String}

/-- The integer of a field, where it can be read. -/
def amount (conversions : Conversions) (field : String) (item : Json) : Int :=
  (intOrZero conversions field item).toOption.getD 0

/-- The tokens of a field that are reported. -/
def reported (conversions : Conversions) (field : String) (item : Json) : Option Int :=
  ((item.get? field).filter fun value => value != .null).map fun value =>
    (conversions.int value).toOption.getD 0

def combined (conversions : Conversions) (item : Json) : Option Int :=
  addReported (reported conversions "input_tokens" item)
    (reported conversions "output_tokens" item)

theorem total_eq_ok {sum : Int} (htotal : total conversions items field = .ok sum) :
    sum = gather (· + ·) 0 (items.map (amount conversions field)) := by
  rw [total, except_bind_eq_ok] at htotal
  obtain ⟨values, hvalues, hsum⟩ := htotal
  have hmap : values.map id = items.map (amount conversions field) := by
    apply map_of_mapM_eq_ok _ hvalues
    intro item value hvalue
    simp [amount, hvalue, Except.toOption]
  rw [List.map_id] at hmap
  cases hsum
  rw [hmap]
  rfl

theorem present_cons (item : Json) (rest : List Json) (field : String) :
    present (item :: rest) field =
      ((item.get? field).filter fun value => value != .null).toList ++ present rest field := by
  unfold present
  rw [List.filterMap_cons]
  cases item.get? field with
  | none => rfl
  | some value =>
      rw [List.filter_cons, Option.filter_some]
      split <;> rfl

/-- A value at a time, with nothing for the items that report nothing. -/
theorem gather_reported (conversions : Conversions) (items : List Json) (field : String) :
    gather addReported none (items.map (reported conversions field)) =
      if (present items field).isEmpty then none
      else some ((present items field).map fun value => (conversions.int value).toOption.getD 0).sum := by
  induction items with
  | nil => rfl
  | cons item rest ih =>
      rw [List.map_cons, gather_cons, ih, present_cons, reported]
      cases (item.get? field).filter fun value => value != .null with
      | none => simp
      | some value => cases present rest field <;> simp

theorem reportedTokens_eq_ok {tokens : Option Int}
    (htokens : reportedTokens conversions items field = .ok tokens) :
    tokens = gather addReported none (items.map (reported conversions field)) := by
  rw [reportedTokens, except_bind_eq_ok] at htokens
  obtain ⟨values, hvalues, hsum⟩ := htokens
  have hmap : values.map id =
      (present items field).map fun value => (conversions.int value).toOption.getD 0 := by
    apply map_of_mapM_eq_ok _ hvalues
    intro value number hnumber
    simp [hnumber, Except.toOption]
  rw [List.map_id] at hmap
  cases hsum
  rw [gather_reported, hmap, List.isEmpty_map]

theorem combinedTokens_eq_ok {tokens : Option Int}
    (htokens : combinedTokens conversions items = .ok tokens) :
    tokens = gather addReported none (items.map (combined conversions)) := by
  simp only [combinedTokens, except_bind_eq_ok] at htokens
  obtain ⟨inputTokens, hinput, outputTokens, houtput, hsum⟩ := htokens
  have hparts := gather_op addReported none items (reported conversions "input_tokens")
    (reported conversions "output_tokens")
  rw [← reportedTokens_eq_ok hinput, ← reportedTokens_eq_ok houtput] at hparts
  cases hsum
  unfold combined
  rw [hparts]
  cases inputTokens <;> cases outputTokens <;> simp

theorem later_eq_ok {kept : List Json} (hkept : later conversions field items = .ok kept) :
    kept = items.filter fun item => decide (0 < amount conversions field item) := by
  have htests : ∀ item ∈ items, (do return decide (0 < (← intOrZero conversions field item)) :
      Except PyError Bool) = .ok (decide (0 < amount conversions field item)) := by
    intro item hitem
    obtain ⟨keeps, hkeeps⟩ := tests_of_filterM hkept item hitem
    rw [except_bind_eq_ok] at hkeeps
    obtain ⟨number, hnumber, -⟩ := hkeeps
    simp [amount, hnumber, Except.toOption, bind, Except.bind, pure, Except.pure]
  have hfilter := filterM_of_ok htests
  rw [← later, hkept] at hfilter
  exact Except.ok.inj hfilter

/-! ## One event at a time -/

/-- The events the report reads. -/
def countedEvents : List String :=
  ["agent.context_selected", "agent.started", "agent.execution", "agent.cache_hit",
    "agent.completed"]

def concerns (agent : Option String) (event : EventRecord) : Bool := ofAgent agent event.payload

/-- What an event of a type contributes. -/
def contribution {M : Type} (unit : M) (eventType : String) (value : Json → M)
    (event : EventRecord) : M :=
  if event.eventType == eventType then value event.payload else unit

theorem gather_chosen {M : Type} (op : M → M → M) (unit : M) [Std.LawfulIdentity op unit]
    (eventType : String) (events : List EventRecord) (agent : Option String) (value : Json → M) :
    gather op unit ((chosen eventType events agent).map value) =
      gather op unit ((events.filter (concerns agent)).map (contribution unit eventType value)) := by
  simp only [chosen, payloads, List.filter_map, List.map_map, List.filter_filter, gather_filter]
  congr 1
  apply List.map_congr_left
  intro event _
  by_cases hagent : ofAgent agent event.payload <;> by_cases htype : event.eventType == eventType <;>
    simp [hagent, htype, concerns, contribution]

theorem length_eq_gather {α : Type} (items : List α) :
    (items.length : Int) = gather (· + ·) 0 (items.map fun _ => 1) := by
  induction items with
  | nil => rfl
  | cons item rest ih =>
      rw [List.map_cons, gather_cons, ← ih]
      simp [Int.add_comm]

theorem gather_sub {α : Type} (items : List α) (first second : α → Int) :
    gather (· + ·) 0 (items.map fun item => first item - second item) =
      gather (· + ·) 0 (items.map first) - gather (· + ·) 0 (items.map second) := by
  have hsum := gather_op (· + ·) (0 : Int) items (fun item => first item - second item) second
  simp only [Int.sub_add_cancel] at hsum
  rw [hsum, Int.add_sub_cancel]

/-- The metric is gathered from the events, each with a value of its own. -/
structure Measures {M : Type} (conversions : Conversions) (op : M → M → M) (unit : M)
    (metric : Metrics → M) (value : EventRecord → M) : Prop where
  idle : ∀ event, event.eventType ∉ countedEvents → value event = unit
  gathered : ∀ events agent result, metrics conversions events agent = .ok result →
    metric result = gather op unit ((events.filter (concerns agent)).map value)

theorem contribution_idle {M : Type} {unit : M} {eventType : String}
    (htype : eventType ∈ countedEvents) (value : Json → M) (event : EventRecord)
    (hevent : event.eventType ∉ countedEvents) : contribution unit eventType value event = unit := by
  apply if_neg
  intro heq
  rw [eq_of_beq heq] at hevent
  exact hevent htype

/-- What the metrics of an agent are made of. -/
structure Measured (conversions : Conversions) (events : List EventRecord) (agent : Option String)
    (result : Metrics) : Prop where
  selections : result.contextSelections = (chosen "agent.context_selected" events agent).length
  executions : result.modelExecutions = (chosen "agent.execution" events agent).length
  hits : result.cacheHits = (chosen "agent.cache_hit" events agent).length
  selectedBytes : total conversions (chosen "agent.context_selected" events agent) "context_bytes" =
    .ok result.selectedContextBytes
  baselineBytes : total conversions (chosen "agent.context_selected" events agent)
    "baseline_context_bytes" = .ok result.broadContextBaselineBytes
  savedBytes : result.contextBytesSaved =
    result.broadContextBaselineBytes - result.selectedContextBytes
  sentBytes : total conversions (chosen "agent.started" events agent) "context_bytes" =
    .ok result.modelContextBytesSent
  avoidedBytes : total conversions (chosen "agent.cache_hit" events agent) "context_bytes" =
    .ok result.cacheAvoidedContextBytes
  inputTokens : reportedTokens conversions (chosen "agent.execution" events agent) "input_tokens" =
    .ok result.actualInputTokens
  outputTokens : reportedTokens conversions (chosen "agent.execution" events agent) "output_tokens" =
    .ok result.actualOutputTokens
  allTokens : combinedTokens conversions (chosen "agent.execution" events agent) =
    .ok result.actualTotalTokens
  repairTokens : ∃ kept, later conversions "repair_attempt" (chosen "agent.execution" events agent) =
    .ok kept ∧ combinedTokens conversions kept = .ok result.repairTokens
  retryTokens : ∃ kept, later conversions "retry_attempt" (chosen "agent.execution" events agent) =
    .ok kept ∧ combinedTokens conversions kept = .ok result.workflowRetryTokens
  outputs : result.successfulOutputs =
    (chosen "agent.completed" events agent).length + (chosen "agent.cache_hit" events agent).length

variable {events : List EventRecord} {agent : Option String} {result : Metrics}

theorem measured (hresult : metrics conversions events agent = .ok result) :
    Measured conversions events agent result := by
  simp only [metrics, except_bind_eq_ok] at hresult
  obtain ⟨selectedBytes, hselected, baselineBytes, hbaseline, inputTokens, hinput, outputTokens,
    houtput, allTokens, hall, sentBytes, hsent, avoidedBytes, havoided, percent, -, repaired,
    hrepaired, repairTokens, hrepair, retried, hretried, retryTokens, hretry, perOutput, -, costUsd,
    -, hmetrics⟩ := hresult
  cases hmetrics
  exact ⟨rfl, rfl, rfl, hselected, hbaseline, rfl, hsent, havoided, hinput, houtput, hall,
    ⟨repaired, hrepaired, hrepair⟩, ⟨retried, hretried, hretry⟩, rfl⟩

/-- A metric that counts the events of a type. -/
theorem measures_length {eventType : String} (htype : eventType ∈ countedEvents)
    {metric : Metrics → Int} (hmetric : ∀ events agent result,
      Measured conversions events agent result →
        metric result = (chosen eventType events agent).length) :
    Measures conversions (· + ·) 0 metric (contribution 0 eventType fun _ => 1) where
  idle := contribution_idle htype _
  gathered events agent result hresult := by
    rw [hmetric events agent result (measured hresult), length_eq_gather, gather_chosen]

/-- A metric that adds up a field of the events of a type. -/
theorem measures_total {eventType field : String} (htype : eventType ∈ countedEvents)
    {metric : Metrics → Int} (hmetric : ∀ events agent result,
      Measured conversions events agent result →
        total conversions (chosen eventType events agent) field = .ok (metric result)) :
    Measures conversions (· + ·) 0 metric
      (contribution 0 eventType (amount conversions field)) where
  idle := contribution_idle htype _
  gathered events agent result hresult := by
    rw [total_eq_ok (hmetric events agent result (measured hresult)), gather_chosen]

/-- A metric that adds up the tokens the executions report in a field. -/
theorem measures_reported {field : String} {metric : Metrics → Option Int}
    (hmetric : ∀ events agent result, Measured conversions events agent result →
      reportedTokens conversions (chosen "agent.execution" events agent) field =
        .ok (metric result)) :
    Measures conversions addReported none metric
      (contribution none "agent.execution" (reported conversions field)) where
  idle := contribution_idle (by simp [countedEvents]) _
  gathered events agent result hresult := by
    rw [reportedTokens_eq_ok (hmetric events agent result (measured hresult)), gather_chosen]

/-- A metric that adds up the tokens of the executions at a later attempt. -/
theorem measures_later {field : String} {metric : Metrics → Option Int}
    (hmetric : ∀ events agent result, Measured conversions events agent result →
      ∃ kept, later conversions field (chosen "agent.execution" events agent) = .ok kept ∧
        combinedTokens conversions kept = .ok (metric result)) :
    Measures conversions addReported none metric
      (contribution none "agent.execution" fun item =>
        if decide (0 < amount conversions field item) then combined conversions item
        else none) where
  idle := contribution_idle (by simp [countedEvents]) _
  gathered events agent result hresult := by
    obtain ⟨kept, hkept, hcombined⟩ := hmetric events agent result (measured hresult)
    rw [combinedTokens_eq_ok hcombined, later_eq_ok hkept, gather_filter, gather_chosen]

theorem measures_allTokens :
    Measures conversions addReported none Metrics.actualTotalTokens
      (contribution none "agent.execution" (combined conversions)) where
  idle := contribution_idle (by simp [countedEvents]) _
  gathered events agent result hresult := by
    rw [combinedTokens_eq_ok (measured hresult).allTokens, gather_chosen]

theorem measures_savedBytes :
    Measures conversions (· + ·) 0 Metrics.contextBytesSaved fun event =>
      contribution 0 "agent.context_selected" (amount conversions "baseline_context_bytes") event -
        contribution 0 "agent.context_selected" (amount conversions "context_bytes") event where
  idle event hevent := by
    rw [contribution_idle (by simp [countedEvents]) _ event hevent,
      contribution_idle (by simp [countedEvents]) _ event hevent, Int.sub_zero]
  gathered events agent result hresult := by
    have hmeasured := measured hresult
    rw [hmeasured.savedBytes, total_eq_ok hmeasured.baselineBytes,
      total_eq_ok hmeasured.selectedBytes, gather_sub, gather_chosen, gather_chosen]

theorem measures_outputs :
    Measures conversions (· + ·) 0 Metrics.successfulOutputs fun event =>
      contribution 0 "agent.completed" (fun _ => 1) event +
        contribution 0 "agent.cache_hit" (fun _ => 1) event where
  idle event hevent := by
    rw [contribution_idle (by simp [countedEvents]) _ event hevent,
      contribution_idle (by simp [countedEvents]) _ event hevent, Int.add_zero]
  gathered events agent result hresult := by
    rw [(measured hresult).outputs, length_eq_gather, length_eq_gather, gather_op, gather_chosen,
      gather_chosen]

end Finops

/-- The metrics that count events or bytes. -/
def additiveCounts : List (Metrics → Int) :=
  [Metrics.contextSelections, Metrics.modelExecutions, Metrics.cacheHits,
    Metrics.selectedContextBytes, Metrics.modelContextBytesSent, Metrics.cacheAvoidedContextBytes,
    Metrics.broadContextBaselineBytes, Metrics.contextBytesSaved, Metrics.successfulOutputs]

/-- The metrics of tokens, which may be absent. -/
def additiveTokens : List (Metrics → Option Int) :=
  [Metrics.actualInputTokens, Metrics.actualOutputTokens, Metrics.actualTotalTokens,
    Metrics.repairTokens, Metrics.workflowRetryTokens]

namespace Finops

variable {conversions : Conversions}

theorem counts_measured : ∀ count ∈ additiveCounts,
    ∃ value, Measures conversions (· + ·) 0 count value := by
  have hselected : "agent.context_selected" ∈ countedEvents := by simp [countedEvents]
  have hexecution : "agent.execution" ∈ countedEvents := by simp [countedEvents]
  have hhit : "agent.cache_hit" ∈ countedEvents := by simp [countedEvents]
  have hstarted : "agent.started" ∈ countedEvents := by simp [countedEvents]
  simp only [additiveCounts, List.forall_mem_cons, List.not_mem_nil, false_implies, implies_true,
    and_true]
  exact ⟨⟨_, measures_length hselected fun _ _ _ h => h.selections⟩,
    ⟨_, measures_length hexecution fun _ _ _ h => h.executions⟩,
    ⟨_, measures_length hhit fun _ _ _ h => h.hits⟩,
    ⟨_, measures_total hselected fun _ _ _ h => h.selectedBytes⟩,
    ⟨_, measures_total hstarted fun _ _ _ h => h.sentBytes⟩,
    ⟨_, measures_total hhit fun _ _ _ h => h.avoidedBytes⟩,
    ⟨_, measures_total hselected fun _ _ _ h => h.baselineBytes⟩,
    ⟨_, measures_savedBytes⟩, ⟨_, measures_outputs⟩⟩

theorem tokens_measured : ∀ tokens ∈ additiveTokens,
    ∃ value, Measures conversions addReported none tokens value := by
  simp only [additiveTokens, List.forall_mem_cons, List.not_mem_nil, false_implies, implies_true,
    and_true]
  exact ⟨⟨_, measures_reported fun _ _ _ h => h.inputTokens⟩,
    ⟨_, measures_reported fun _ _ _ h => h.outputTokens⟩, ⟨_, measures_allTokens⟩,
    ⟨_, measures_later fun _ _ _ h => h.repairTokens⟩,
    ⟨_, measures_later fun _ _ _ h => h.retryTokens⟩⟩

end Finops

/-- Every event the report reads names an agent that a context was selected for. -/
def Attributed (events : List EventRecord) : Prop :=
  ∀ event ∈ events, event.eventType ∈ Finops.countedEvents →
    ∃ agent, agent ≠ "" ∧ event.payload.get? "agent" = some (.str agent) ∧
      ∃ selection ∈ events, selection.eventType = "agent.context_selected" ∧
        selection.payload.get? "agent" = some (.str agent)

namespace Finops

variable {conversions : Conversions} {events : List EventRecord} {report : FinopsReport}
  {M : Type} {op : M → M → M} {unit : M} {metric : Metrics → M} {value : EventRecord → M}

theorem truthy_text {text : String} (htext : text ≠ "") :
    Json.truthy (some (.str text)) = true := by
  unfold Json.truthy
  split <;> simp_all

theorem mem_agents {selection : EventRecord} (hmem : selection ∈ events)
    (htype : selection.eventType = "agent.context_selected") {agent : String} (hagent : agent ≠ "")
    (hnamed : selection.payload.get? "agent" = some (.str agent)) :
    agent ∈ agents conversions events := by
  have hpayload : selection.payload ∈ payloads "agent.context_selected" events := by
    apply List.mem_map_of_mem
    simp [hmem, htype]
  simp only [agents, List.mem_insertionSort, List.mem_dedup, List.mem_filterMap]
  refine ⟨selection.payload, by simp [hpayload], ?_⟩
  rw [hnamed, if_pos (truthy_text hagent)]
  rfl

theorem nodup_agents (conversions : Conversions) (events : List EventRecord) :
    (agents conversions events).Nodup :=
  (List.perm_insertionSort _ _).nodup_iff.mpr (List.nodup_dedup _)

theorem totals_eq_ok (hreport : finopsReport conversions events = .ok report) :
    metrics conversions events none = .ok report.totals ∧
      ∀ {N : Type} (read : AgentMetrics → N) (value : String → N),
        (∀ agent result, metrics conversions events (some agent) = .ok result →
          read ⟨agent, result⟩ = value agent) →
        report.agents.map read = (agents conversions events).map value := by
  simp only [finopsReport, except_bind_eq_ok] at hreport
  obtain ⟨totals, htotals, entries, hentries, hresult⟩ := hreport
  cases hresult
  refine ⟨htotals, fun read value hvalue => ?_⟩
  apply map_of_mapM_eq_ok _ hentries
  intro agent entry hentry
  rw [except_bind_eq_ok] at hentry
  obtain ⟨result, hmetrics, hsame⟩ := hentry
  cases hsame
  exact hvalue agent result hmetrics

/-- The total of a metric is gathered from the agents of the report. -/
theorem Measures.decomposes [Std.Associative op] [Std.Commutative op] [Std.LawfulIdentity op unit]
    (hmeasures : Measures conversions op unit metric value) (hattributed : Attributed events)
    (hreport : finopsReport conversions events = .ok report) :
    metric report.totals =
      gather op unit (report.agents.map fun entry => metric entry.metrics) := by
  obtain ⟨htotals, hagents⟩ := totals_eq_ok hreport
  have hshares := hagents (fun entry => metric entry.metrics)
    (fun agent => gather op unit ((events.filter (concerns (some agent))).map value))
    fun agent result hresult => hmeasures.gathered events (some agent) result hresult
  have hall : events.filter (concerns none) = events :=
    List.filter_eq_self.mpr fun _ _ => rfl
  have hname : Function.Injective fun agent : String => some (Json.str agent) := by
    intro first second heq
    simpa using heq
  have hkeys : ∀ event ∈ events,
      event.payload.get? "agent" ∈ (agents conversions events).map (fun agent => some (.str agent)) ∨
        value event = unit := by
    intro event hevent
    by_cases hcounted : event.eventType ∈ countedEvents
    · obtain ⟨agent, hagent, hnamed, selection, hmem, htype, hselected⟩ :=
        hattributed event hevent hcounted
      rw [hnamed]
      exact .inl (List.mem_map_of_mem (mem_agents hmem htype hagent hselected))
    · exact .inr (hmeasures.idle event hcounted)
  have hpartition := gather_partition op unit ((nodup_agents conversions events).map hname)
    (fun event => event.payload.get? "agent") value hkeys
  rw [hmeasures.gathered events none _ htotals, hall, hshares, hpartition, List.map_map]
  congr 1
  apply List.map_congr_left
  intro agent _
  have hfilter : events.filter (concerns (some agent)) =
      events.filter fun event => decide (event.payload.get? "agent" = some (.str agent)) := by
    apply List.filter_congr
    intro event _
    rw [Bool.eq_iff_iff, decide_eq_true_iff]
    exact beq_iff_eq
  rw [hfilter]
  rfl

/-- The totals of two lists of events together. -/
theorem Measures.append [Std.Associative op] [Std.LawfulIdentity op unit]
    (hmeasures : Measures conversions op unit metric value) {first second : List EventRecord}
    {left right : FinopsReport} (hleft : finopsReport conversions first = .ok left)
    (hright : finopsReport conversions second = .ok right)
    (hreport : finopsReport conversions (first ++ second) = .ok report) :
    metric report.totals = op (metric left.totals) (metric right.totals) := by
  rw [hmeasures.gathered _ none _ (totals_eq_ok hreport).1,
    hmeasures.gathered _ none _ (totals_eq_ok hleft).1,
    hmeasures.gathered _ none _ (totals_eq_ok hright).1, List.filter_append, List.map_append,
    gather_append]

end Finops

open Finops in
/-- Where every event names an agent whose context was selected, the totals are the sums
of the figures of the agents. The totals of two lists of events together are the sums
of their totals. -/
theorem finops_totals_decompose (conversions : Conversions) :
    (∀ events report, Attributed events → finopsReport conversions events = .ok report →
      (∀ count ∈ additiveCounts,
        count report.totals = (report.agents.map fun entry => count entry.metrics).sum) ∧
      ∀ tokens ∈ additiveTokens,
        tokens report.totals = reportedSum (report.agents.map fun entry => tokens entry.metrics) ∧
          (tokens report.totals = none ↔ ∀ entry ∈ report.agents, tokens entry.metrics = none)) ∧
      ∀ first second left right report, finopsReport conversions first = .ok left →
        finopsReport conversions second = .ok right →
        finopsReport conversions (first ++ second) = .ok report →
        (∀ count ∈ additiveCounts,
          count report.totals = count left.totals + count right.totals) ∧
        ∀ tokens ∈ additiveTokens,
          tokens report.totals = addReported (tokens left.totals) (tokens right.totals) := by
  constructor
  · intro events report hattributed hreport
    constructor
    · intro count hcount
      obtain ⟨value, hmeasures⟩ := counts_measured count hcount
      exact hmeasures.decomposes hattributed hreport
    · intro tokens htokens
      obtain ⟨value, hmeasures⟩ := tokens_measured tokens htokens
      have hsum : tokens report.totals =
          reportedSum (report.agents.map fun entry => tokens entry.metrics) :=
        hmeasures.decomposes hattributed hreport
      refine ⟨hsum, ?_⟩
      rw [hsum, reportedSum_eq_none]
      simp
  · intro first second left right report hleft hright hreport
    constructor
    · intro count hcount
      obtain ⟨value, hmeasures⟩ := counts_measured count hcount
      exact hmeasures.append hleft hright hreport
    · intro tokens htokens
      obtain ⟨value, hmeasures⟩ := tokens_measured tokens htokens
      exact hmeasures.append hleft hright hreport

def sampleConversions : Conversions where
  intText text := valueError ("invalid literal for int() with base 10: '" ++ text ++ "'")
  floatText text := valueError ("could not convert string to float: '" ++ text ++ "'")
  repr _ := ""

def usageEvent (eventId : Nat) (eventType agent : String) (fields : List (String × Json)) :
    EventRecord :=
  ⟨eventId, "run_a", eventType, .obj (("agent", .str agent) :: fields)⟩

/-- Two agents at work, of which one reports only the tokens it wrote. -/
def usageEvents : List EventRecord :=
  [usageEvent 1 "agent.context_selected" "ux-agent" [("context_bytes", .int 400)],
    usageEvent 2 "agent.context_selected" "security-agent" [("context_bytes", .int 300)],
    usageEvent 3 "agent.started" "ux-agent" [("context_bytes", .int 400)],
    usageEvent 4 "agent.execution" "ux-agent"
      [("input_tokens", .int 250), ("output_tokens", .int 50)],
    usageEvent 5 "agent.execution" "security-agent"
      [("input_tokens", .null), ("output_tokens", .int 70), ("repair_attempt", .int 1)]]

theorem usageEvents_attributed : Attributed usageEvents := by
  intro event hevent _
  simp only [usageEvents, List.mem_cons, List.not_mem_nil, or_false] at hevent
  rcases hevent with rfl | rfl | rfl | rfl | rfl
  · exact ⟨"ux-agent", by decide, rfl, _, List.mem_cons_self, rfl, rfl⟩
  · exact ⟨"security-agent", by decide, rfl, _, List.mem_cons_of_mem _ List.mem_cons_self, rfl, rfl⟩
  · exact ⟨"ux-agent", by decide, rfl, _, List.mem_cons_self, rfl, rfl⟩
  · exact ⟨"ux-agent", by decide, rfl, _, List.mem_cons_self, rfl, rfl⟩
  · exact ⟨"security-agent", by decide, rfl, _, List.mem_cons_of_mem _ List.mem_cons_self, rfl, rfl⟩

theorem finops_totals_decompose_sample :
    ∃ report, finopsReport sampleConversions usageEvents = .ok report ∧
      report.totals.actualInputTokens = some 250 ∧
      report.totals.actualInputTokens =
        reportedSum (report.agents.map fun entry => entry.metrics.actualInputTokens) ∧
      report.totals.selectedContextBytes =
        (report.agents.map fun entry => entry.metrics.selectedContextBytes).sum := by
  have hreturns : (finopsReport sampleConversions usageEvents).toOption.any
      (fun report => report.totals.actualInputTokens == some 250) = true := by decide +kernel
  cases hreport : finopsReport sampleConversions usageEvents with
  | error error =>
      rw [hreport] at hreturns
      cases hreturns
  | ok report =>
      rw [hreport] at hreturns
      obtain ⟨hcounts, htokens⟩ :=
        (finops_totals_decompose sampleConversions).1 _ _ usageEvents_attributed hreport
      refine ⟨report, rfl, eq_of_beq hreturns, ?_, ?_⟩
      · exact (htokens _ (by simp [additiveTokens])).1
      · exact hcounts _ (by simp [additiveCounts])

end Aidlc
