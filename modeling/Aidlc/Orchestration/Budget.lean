import Aidlc.Foundation.Transition
import Aidlc.Orchestration.Workflow
import Aidlc.Storage.Events
import Mathlib.Data.List.Induction

/-! # The token budget of a phase

What a run has used is summed up anew from its event log at every execution. The
ledger states what is meant by the sum: the executions and retry requests of the
run in their order. The log of every run represents the ledger of its calls.
-/

namespace Aidlc

open Foundation

/-! ## The ledger -/

structure LedgerEntry where
  agent : String
  phase : StageName
  execution : ExecutionMetadata

namespace LedgerEntry

def tokens (entry : LedgerEntry) : Int :=
  entry.execution.inputTokens.getD 0 + entry.execution.outputTokens.getD 0

/-- Recorded under the phase, or made by one of its agents. -/
def countsFor (phase : StageName) (entry : LedgerEntry) : Bool :=
  entry.phase == phase || (agentsByStage phase).any fun spec => spec.name == entry.agent

end LedgerEntry

/-- The identifier of an execution; an empty one is none. -/
def ExecutionMetadata.identifier (execution : ExecutionMetadata) : Option String :=
  execution.executionId.filter fun executionId => executionId ≠ ""

inductive LedgerItem where
  | execution (entry : LedgerEntry)
  | retry

abbrev Ledger := List LedgerItem

namespace Ledger

def entries (ledger : Ledger) : List LedgerEntry :=
  ledger.filterMap fun
    | .execution entry => some entry
    | .retry => none

/-- The executions since the latest retry request. -/
def sinceRetry (ledger : Ledger) : List LedgerEntry :=
  ledger.foldl (fun kept item => match item with
    | .execution entry => kept ++ [entry]
    | .retry => []) []

/-- The executions a phase accounts for; a retry starts the evaluation anew. -/
def counted (ledger : Ledger) (phase : StageName) : List LedgerEntry :=
  (if phase = .evaluation then ledger.sinceRetry else ledger.entries).filter
    (LedgerEntry.countsFor phase)

def spent (ledger : Ledger) (phase : StageName) : Int :=
  ((ledger.counted phase).map LedgerEntry.tokens).sum

/-- The identifiers of the recorded executions. -/
def identifiers (ledger : Ledger) : List String :=
  ledger.entries.filterMap fun entry => entry.execution.identifier

/-- Whether the execution has an identifier that is already recorded. -/
def knows (ledger : Ledger) (execution : ExecutionMetadata) : Bool :=
  execution.identifier.any fun executionId => executionId ∈ ledger.identifiers

variable {ledger : Ledger} {entry : LedgerEntry} {phase : StageName}

@[simp] theorem entries_execution :
    Ledger.entries (ledger ++ [.execution entry]) = ledger.entries ++ [entry] := by
  simp [entries]

@[simp] theorem entries_retry : Ledger.entries (ledger ++ [.retry]) = ledger.entries := by
  simp [entries]

@[simp] theorem sinceRetry_execution :
    Ledger.sinceRetry (ledger ++ [.execution entry]) = ledger.sinceRetry ++ [entry] := by
  simp [sinceRetry]

@[simp] theorem sinceRetry_retry : Ledger.sinceRetry (ledger ++ [.retry]) = [] := by
  simp [sinceRetry]

@[simp] theorem spent_nil : Ledger.spent [] phase = 0 := by
  unfold spent counted
  split <;> rfl

/-- An execution adds its tokens to the phases it counts for and to no others. -/
theorem spent_execution :
    Ledger.spent (ledger ++ [.execution entry]) phase =
      ledger.spent phase + if entry.countsFor phase then entry.tokens else 0 := by
  unfold spent counted
  by_cases hcounts : entry.countsFor phase
  · split <;> simp [hcounts]
  · split <;> simp [hcounts]

/-- A retry starts the evaluation budget again and no other. -/
theorem spent_retry :
    Ledger.spent (ledger ++ [.retry]) phase =
      if phase = .evaluation then 0 else ledger.spent phase := by
  unfold spent counted
  split <;> simp

end Ledger

/-! ## Event logs that represent a ledger -/

/-- The payload of the event of an execution. -/
structure Describes (payload : Json) (entry : LedgerEntry) : Prop where
  agent : payload.get? "agent" = some (.str entry.agent)
  phase : payload.get? "phase" = some (.str entry.phase.value)
  executionId : payload.get? "execution_id" = some (Json.ofOption .str entry.execution.executionId)
  inputTokens : Workflow.tokens payload "input_tokens" = entry.execution.inputTokens.getD 0
  outputTokens : Workflow.tokens payload "output_tokens" = entry.execution.outputTokens.getD 0

/-- Events in ascending order whose executions and retry requests are those of
the ledger. -/
inductive Represents : List EventRecord → Ledger → Prop
  | nil : Represents [] []
  | execution {events : List EventRecord} {ledger : Ledger} {event : EventRecord}
      {entry : LedgerEntry} (rest : Represents events ledger) (positive : 0 < event.eventId)
      (later : ∀ earlier ∈ events, earlier.eventId < event.eventId)
      (type : event.eventType = "agent.execution") (payload : Describes event.payload entry) :
      Represents (events ++ [event]) (ledger ++ [.execution entry])
  | retry {events : List EventRecord} {ledger : Ledger} {event : EventRecord}
      (rest : Represents events ledger) (positive : 0 < event.eventId)
      (later : ∀ earlier ∈ events, earlier.eventId < event.eventId)
      (type : event.eventType = "run.retry_requested") :
      Represents (events ++ [event]) (ledger ++ [.retry])
  | other {events : List EventRecord} {ledger : Ledger} {event : EventRecord}
      (rest : Represents events ledger)
      (type : event.eventType ≠ "agent.execution" ∧ event.eventType ≠ "run.retry_requested") :
      Represents (events ++ [event]) ledger

namespace Workflow

variable {agent : String} {phase : StageName} {execution : ExecutionMetadata}
  {events : List EventRecord} {ledger : Ledger}

/-- The payload of the event that records an execution. -/
theorem describes_payload (selection : Selection) :
    Describes (.obj (Json.merge
      [("agent", .str agent), ("phase", .str phase.value), ("cache_key", selection.cacheKey),
        ("context_contract_version", selection.contextContractVersion),
        ("context_bytes", selection.contextBytes),
        ("baseline_context_bytes", selection.baselineContextBytes),
        ("repair_attempt", selection.repairAttempt), ("retry_attempt", selection.retryAttempt)]
      execution.modelDump)) ⟨agent, phase, execution⟩ where
  agent := Json.get?_merge_left rfl
  phase := Json.get?_merge_left rfl
  executionId := Json.get?_merge_right rfl
  inputTokens := by
    rw [tokens, Json.get?_merge_right rfl]
    cases execution.inputTokens <;> rfl
  outputTokens := by
    rw [tokens, Json.get?_merge_right rfl]
    cases execution.outputTokens <;> rfl

/-- The events of executions after an event. -/
def usedAfter (phase : StageName) (eventId : Nat) (events : List EventRecord) : Int :=
  ((events.filter fun event =>
    event.eventType == "agent.execution" && event.eventId > eventId &&
      (event.payload.get? "phase" == some (.str phase.value) ||
        (agentsByStage phase).any fun spec => event.payload.get? "agent" == some (.str spec.name))).map
    fun event => tokens event.payload "input_tokens" + tokens event.payload "output_tokens").sum

theorem phaseTotal_eq_usedAfter :
    phaseTotal phase events execution = usedAfter phase (latestRetry phase events) events +
      (execution.inputTokens.getD 0 + execution.outputTokens.getD 0) := rfl

theorem StageName.value_injective : Function.Injective StageName.value := by
  intro first second hvalue
  cases first <;> cases second <;> first | rfl | exact absurd hvalue (by decide)

/-- An event counts for a phase exactly as its entry does. -/
theorem counts_iff {payload : Json} {entry : LedgerEntry} (hpayload : Describes payload entry) :
    (payload.get? "phase" == some (.str phase.value) ||
      (agentsByStage phase).any fun spec => payload.get? "agent" == some (.str spec.name)) =
      entry.countsFor phase := by
  rw [hpayload.phase, hpayload.agent, LedgerEntry.countsFor, Bool.eq_iff_iff]
  simp only [Bool.or_eq_true, beq_iff_eq, Option.some.injEq, Json.str.injEq, List.any_eq_true,
    StageName.value_injective.eq_iff, eq_comm (a := entry.agent)]

theorem foldl_max_lt {ids : List Nat} {start bound : Nat} (hstart : start < bound)
    (hids : ∀ id ∈ ids, id < bound) : ids.foldl max start < bound := by
  induction ids generalizing start with
  | nil => exact hstart
  | cons id rest ih =>
      rw [List.forall_mem_cons] at hids
      exact ih (Nat.max_lt.mpr ⟨hstart, hids.1⟩) hids.2

/-- The latest retry is earlier than any later event. -/
theorem latestRetry_lt {eventId : Nat} (hpositive : 0 < eventId)
    (hlater : ∀ earlier ∈ events, earlier.eventId < eventId) :
    latestRetry phase events < eventId := by
  unfold latestRetry
  split
  · refine foldl_max_lt hpositive fun id hid => ?_
    obtain ⟨event, hevent, rfl⟩ := List.mem_map.mp hid
    exact hlater event (List.mem_filter.mp hevent).1
  · exact hpositive

/-- Other events leave the latest retry. -/
theorem latestRetry_append {event : EventRecord} (htype : event.eventType ≠ "run.retry_requested") :
    latestRetry phase (events ++ [event]) = latestRetry phase events := by
  simp [latestRetry, List.filter_append, htype]

/-- A retry of the run is the latest for evaluation. -/
theorem latestRetry_retry {event : EventRecord} (htype : event.eventType = "run.retry_requested")
    (hlatest : latestRetry .evaluation events < event.eventId) :
    latestRetry .evaluation (events ++ [event]) = event.eventId := by
  have hmax : latestRetry .evaluation (events ++ [event]) =
      max (latestRetry .evaluation events) event.eventId := by
    simp [latestRetry, List.filter_append, htype]
  rw [hmax, Nat.max_eq_right hlatest.le]

/-- Events that are no execution use nothing. -/
theorem usedAfter_append_other {event : EventRecord} {eventId : Nat}
    (htype : event.eventType ≠ "agent.execution") :
    usedAfter phase eventId (events ++ [event]) = usedAfter phase eventId events := by
  simp [usedAfter, List.filter_append, htype]

/-- An execution uses what its entry counts. -/
theorem usedAfter_append_execution {event : EventRecord} {entry : LedgerEntry} {eventId : Nat}
    (htype : event.eventType = "agent.execution") (hid : eventId < event.eventId)
    (hpayload : Describes event.payload entry) :
    usedAfter phase eventId (events ++ [event]) =
      usedAfter phase eventId events + if entry.countsFor phase then entry.tokens else 0 := by
  have htokens : tokens event.payload "input_tokens" + tokens event.payload "output_tokens" =
      entry.tokens := congrArg₂ (· + ·) hpayload.inputTokens hpayload.outputTokens
  rw [usedAfter, List.filter_append, List.map_append, List.sum_append]
  congr 1
  rw [List.filter_cons, counts_iff hpayload, htype]
  by_cases hcounts : entry.countsFor phase = true
  · simp [hcounts, hid, htokens]
  · simp [hcounts]

/-- Nothing counts that is not after the event. -/
theorem usedAfter_eq_zero {eventId : Nat}
    (hearlier : ∀ event ∈ events, event.eventId ≤ eventId) : usedAfter phase eventId events = 0 := by
  have hnone : events.filter (fun event =>
      event.eventType == "agent.execution" && event.eventId > eventId &&
        (event.payload.get? "phase" == some (.str phase.value) ||
          (agentsByStage phase).any fun spec =>
            event.payload.get? "agent" == some (.str spec.name))) = [] := by
    rw [List.filter_eq_nil_iff]
    intro event hevent hcounted
    simp only [Bool.and_eq_true, decide_eq_true_eq] at hcounted
    exact absurd hcounted.1.2 (Nat.not_lt_of_le (hearlier event hevent))
  rw [usedAfter, hnone]
  rfl

/-- The sum over the log is what the ledger says was spent. -/
theorem usedAfter_eq_spent (hrepresents : Represents events ledger) :
    usedAfter phase (latestRetry phase events) events = ledger.spent phase := by
  induction hrepresents with
  | nil => exact Ledger.spent_nil.symm
  | execution _ hpositive hlater htype hpayload ih =>
      rw [latestRetry_append (by rw [htype]; decide), Ledger.spent_execution, ← ih]
      exact usedAfter_append_execution htype (latestRetry_lt hpositive hlater) hpayload
  | @retry events ledger event _ hpositive hlater htype ih =>
      rw [Ledger.spent_retry, usedAfter_append_other (by rw [htype]; decide)]
      by_cases hphase : phase = .evaluation
      · subst hphase
        rw [if_pos rfl, latestRetry_retry htype (latestRetry_lt hpositive hlater)]
        exact usedAfter_eq_zero fun earlier hearlier => (hlater earlier hearlier).le
      · rw [if_neg hphase, ← ih]
        simp [latestRetry, hphase]
  | other _ htype ih => rw [latestRetry_append htype.2, usedAfter_append_other htype.1, ih]

/-- What a call compares with the budget: all that was spent, with the new execution. -/
theorem phaseTotal_eq_spent (agent : String) (hrepresents : Represents events ledger) :
    phaseTotal phase events execution =
      Ledger.spent (ledger ++ [.execution ⟨agent, phase, execution⟩]) phase := by
  have hcounts : LedgerEntry.countsFor phase ⟨agent, phase, execution⟩ = true := by
    simp [LedgerEntry.countsFor]
  rw [phaseTotal_eq_usedAfter, usedAfter_eq_spent hrepresents, Ledger.spent_execution, if_pos hcounts]
  rfl

/-- The identifiers in the log, one for each event of an execution that has one. -/
def recordedIds (events : List EventRecord) : List String :=
  events.filterMap fun event =>
    if event.eventType = "agent.execution" then
      (((event.payload.get? "execution_id").bind Json.str?).filter fun executionId =>
        executionId ≠ "")
    else none

theorem identifier_of_describes {payload : Json} {entry : LedgerEntry}
    (hpayload : Describes payload entry) :
    (((payload.get? "execution_id").bind Json.str?).filter fun executionId => executionId ≠ "") =
      entry.execution.identifier := by
  rw [hpayload.executionId, ExecutionMetadata.identifier]
  cases entry.execution.executionId <;> rfl

/-- The recorded ids are the identifiers of the ledger. -/
theorem recordedIds_eq (hrepresents : Represents events ledger) :
    recordedIds events = ledger.identifiers := by
  induction hrepresents with
  | nil => rfl
  | execution _ _ _ htype hpayload ih =>
      rw [recordedIds, List.filterMap_append, ← recordedIds, ih, Ledger.identifiers,
        Ledger.identifiers, Ledger.entries_execution, List.filterMap_append]
      congr 1
      simp only [List.filterMap_cons, List.filterMap_nil, htype, if_true,
        identifier_of_describes hpayload]
  | retry _ _ _ htype ih =>
      rw [recordedIds, List.filterMap_append, ← recordedIds, ih, Ledger.identifiers,
        Ledger.identifiers, Ledger.entries_retry]
      simp [htype]
  | other _ htype ih =>
      rw [recordedIds, List.filterMap_append, ← recordedIds, ih]
      simp [htype.1]

theorem isRecorded_iff_recordedIds :
    isRecorded events execution = true ↔
      ∃ executionId ∈ execution.identifier, executionId ∈ recordedIds events := by
  unfold isRecorded ExecutionMetadata.identifier
  split
  next hnone => simp [hnone]
  next hempty => simp [hempty]
  next executionId hother hsome =>
    have hfilter : (some executionId).filter (fun executionId => executionId ≠ "") =
        some executionId := by
      simpa using hother
    simp only [hsome, hfilter, Option.mem_some_iff, exists_eq_left', recordedIds,
      List.mem_filterMap, List.any_eq_true, Bool.and_eq_true, beq_iff_eq]
    refine exists_congr fun event => and_congr_right fun _ => ?_
    by_cases htype : event.eventType = "agent.execution"
    · rw [if_pos htype, Option.filter_eq_some_iff, Option.bind_eq_some_iff]
      constructor
      · rintro ⟨-, hpayload⟩
        exact ⟨⟨_, hpayload, rfl⟩, by simpa using hother⟩
      · rintro ⟨⟨value, hpayload, hvalue⟩, -⟩
        cases value <;> cases hvalue
        exact ⟨htype, hpayload⟩
    · simp [htype]

/-- An execution is recorded exactly when the ledger knows it. -/
theorem isRecorded_eq_knows (hrepresents : Represents events ledger) :
    isRecorded events execution = ledger.knows execution := by
  rw [Bool.eq_iff_iff, isRecorded_iff_recordedIds, recordedIds_eq hrepresents, Ledger.knows,
    Option.any_eq_true]
  simp

end Workflow

/-! ## Calls -/

section Calls

variable (platform : Platform) (clock : Nat → Nat)

/-- A routine of a run carried out without a pause; only storage can answer it. -/
def Stores.perform {α : Type} (runId : RunId) :
    Routine α → Stores → Option (Except Raised α × Stores)
  | .done value, stores => some (.ok value, stores)
  | .raise raised, stores => some (.error raised, stores)
  | .call request resume, stores =>
    (stores.answer platform clock runId request .none).bind fun (answer, next) =>
      perform runId (resume answer) next

variable {platform clock} {α β : Type} {runId : RunId} {stores next : Stores}
  {settings : HubSettings} {agent : String} {result : AgentResult}
  {phase : StageName} {selection : Option Workflow.Selection}

theorem perform_eventsAfter {rest : List EventRecord → Routine β} :
    stores.perform platform clock runId (ask .eventsAfter >>= rest) =
      stores.perform platform clock runId (rest (stores.database.eventsAfter runId 0)) := rfl

theorem perform_event {rest : Unit → Routine β} {eventType : String}
    {payload : List (String × Json)} {database : Database}
    (hevent : stores.database.appendEvent runId eventType payload = .ok database) :
    stores.perform platform clock runId (Workflow.event eventType payload >>= rest) =
      (stores.withDatabase database).perform platform clock runId (rest ()) := by
  have hanswer : stores.answer platform clock runId (.appendEvent eventType payload) .none =
      some (.ok (), stores.withDatabase database) := by
    simp only [Stores.answer, Stores.serve, statement, hevent]
    rfl
  change (stores.answer platform clock runId (.appendEvent eventType payload) .none).bind _ = _
  rw [hanswer]
  rfl

/-- An execution that is known is not recorded again, and charged to nobody. -/
theorem perform_known
    (hknown : Workflow.isRecorded (stores.database.eventsAfter runId 0) result.execution = true) :
    stores.perform platform clock runId
        (Workflow.recordExecution settings agent result phase selection) =
      some (.ok (), stores) := by
  refine perform_eventsAfter.trans ?_
  rw [if_pos hknown]
  rfl

/-- What is left of a call once the execution is recorded. -/
def chargeOutcome (settings : HubSettings) (agent : String) (phase : StageName) (total : Int) :
    Except Raised Unit :=
  if phase = .preflight then
    .error (.failed [⟨.keyError, "<StageName.PREFLIGHT: 'preflight'>"⟩])
  else if total > settings.tokenBudgetPerPhasePerRun then
    .error (.failed [⟨.runtimeError,
      "Reported phase token budget per run exceeded; further delegation stopped (phase=" ++
        phase.value ++ ", reported_tokens=" ++ toString total ++ ", limit=" ++
        toString settings.tokenBudgetPerPhasePerRun ++ ", agent=" ++ agent ++
        "; configure AIDLC_TOKEN_BUDGET_PER_PHASE_PER_RUN)"⟩])
  else .ok ()

/-- A charge goes through exactly within the budget and outside preflight. -/
theorem chargeOutcome_eq_ok {total : Int} :
    chargeOutcome settings agent phase total = .ok () ↔
      phase ≠ .preflight ∧ total ≤ settings.tokenBudgetPerPhasePerRun := by
  unfold chargeOutcome
  split
  next hphase => simp [hphase]
  next hphase =>
    split
    next htotal => simp [hphase, htotal]
    next htotal => simp [hphase, not_lt.mp htotal]

theorem chargeOutcome_raises_iff {total : Int} :
    (∃ raised, chargeOutcome settings agent phase total = .error raised) ↔
      phase = .preflight ∨ settings.tokenBudgetPerPhasePerRun < total := by
  cases houtcome : chargeOutcome settings agent phase total with
  | ok value =>
      obtain ⟨hphase, htotal⟩ := chargeOutcome_eq_ok.mp houtcome
      simp [hphase, htotal]
  | error raised =>
      have hraised : ¬(phase ≠ .preflight ∧ total ≤ settings.tokenBudgetPerPhasePerRun) := by
        rw [← chargeOutcome_eq_ok, houtcome]
        exact fun heq => by cases heq
      simp only [Except.error.injEq, exists_eq', true_iff]
      by_cases hphase : phase = .preflight
      · exact Or.inl hphase
      · exact Or.inr (not_le.mp fun htotal => hraised ⟨hphase, htotal⟩)

theorem perform_check (total : Int) :
    stores.perform platform clock runId (do
        if phase = .preflight then fail .keyError "<StageName.PREFLIGHT: 'preflight'>"
        if total > settings.tokenBudgetPerPhasePerRun then
          fail .runtimeError
            ("Reported phase token budget per run exceeded; further delegation stopped (phase=" ++
              phase.value ++ ", reported_tokens=" ++ toString total ++ ", limit=" ++
              toString settings.tokenBudgetPerPhasePerRun ++ ", agent=" ++ agent ++
              "; configure AIDLC_TOKEN_BUDGET_PER_PHASE_PER_RUN)")) =
      some (chargeOutcome settings agent phase total, stores) := by
  unfold chargeOutcome
  by_cases hphase : phase = .preflight
  · rw [if_pos hphase, if_pos hphase]
    rfl
  · rw [if_neg hphase, if_neg hphase]
    by_cases htotal : total > settings.tokenBudgetPerPhasePerRun
    · rw [if_pos htotal, if_pos htotal]
      rfl
    · rw [if_neg htotal, if_neg htotal]
      rfl

variable (platform clock settings agent phase selection) in
/-- Any other execution is recorded before the budget of its phase is checked. -/
theorem perform_fresh (hrun : stores.database.hasRun runId = true)
    (hfresh : Workflow.isRecorded (stores.database.eventsAfter runId 0) result.execution = false) :
    ∃ payload database, stores.perform platform clock runId
          (Workflow.recordExecution settings agent result phase selection) =
        some (chargeOutcome settings agent phase (Workflow.phaseTotal phase
          (stores.database.eventsAfter runId 0) result.execution), stores.withDatabase database) ∧
      stores.database.appendEvent runId "agent.execution" payload = .ok database ∧
      Describes (.obj payload) ⟨agent, phase, result.execution⟩ := by
  have hnot : ¬ Workflow.isRecorded (stores.database.eventsAfter runId 0) result.execution = true :=
    ne_true_of_eq_false hfresh
  have hevent (payload : List (String × Json)) :
      stores.database.appendEvent runId "agent.execution" payload = .ok _ :=
    Database.appendEvent_eq_ok.mpr ⟨hrun, rfl⟩
  cases selection with
  | none =>
      refine ⟨_, _, ?_, hevent _, Workflow.describes_payload
        (Workflow.announcedSelection agent (stores.database.eventsAfter runId 0))⟩
      refine perform_eventsAfter.trans ?_
      rw [if_neg hnot]
      refine perform_eventsAfter.trans ((perform_event (hevent _)).trans ?_)
      exact perform_check _
  | some chosen =>
      refine ⟨_, _, ?_, hevent _, Workflow.describes_payload chosen⟩
      refine perform_eventsAfter.trans ?_
      rw [if_neg hnot]
      refine (perform_event (hevent _)).trans ?_
      exact perform_check _

end Calls

/-! ## Runs -/

/-- What is stored in event logs: executions, and any other event of a workflow,
retry requests among them. -/
inductive BudgetLabel where
  | createRun (runId : RunId) (idea : String) (now : Nat)
  | record (runId : RunId) (agent : String) (result : AgentResult) (phase : StageName)
      (selection : Option Workflow.Selection)
  | announce (runId : RunId) (eventType : String) (payload : List (String × Json))

/-- The call is for an agent of the phase. -/
def BudgetLabel.paired : BudgetLabel → Bool
  | .record _ agent _ phase _ => (agentsByStage phase).any fun spec => spec.name == agent
  | .createRun .. | .announce .. => true

/-- The ledger of a run after a step. -/
def Ledger.book (runId : RunId) (ledger : Ledger) : BudgetLabel → Ledger
  | .record other agent result phase _ =>
    if other = runId ∧ ledger.knows result.execution = false then
      ledger ++ [.execution ⟨agent, phase, result.execution⟩]
    else ledger
  | .announce other eventType _ =>
    if other = runId ∧ eventType = "run.retry_requested" then ledger ++ [.retry] else ledger
  | .createRun .. => ledger

/-- The ledger of a run after these steps. -/
def ledgerOf (runId : RunId) (labels : List BudgetLabel) : Ledger :=
  labels.foldl (Ledger.book runId) []

section Runs

variable (platform : Platform) (clock : Nat → Nat) (settings : HubSettings)

def Stores.account (stores : Stores) : BudgetLabel → Option Stores
  | .createRun runId idea now =>
    match stores.database.createRun runId idea now with
    | .ok database => some (stores.withDatabase database)
    | .error _ => none
  | .record runId agent result phase selection =>
    if stores.database.hasRun runId then
      (stores.perform platform clock runId
        (Workflow.recordExecution settings agent result phase selection)).map Prod.snd
    else none
  | .announce runId eventType payload =>
    if eventType = "agent.execution" then none
    else match stores.database.appendEvent runId eventType payload with
      | .ok database => some (stores.withDatabase database)
      | .error _ => none

def budgeting : System Stores BudgetLabel where
  step := Stores.account platform clock settings

/-- The call did not raise. -/
def Stores.accepts (stores : Stores) : BudgetLabel → Bool
  | .record runId agent result phase selection =>
    match stores.perform platform clock runId
      (Workflow.recordExecution settings agent result phase selection) with
    | some (.ok _, _) => true
    | _ => false
  | .createRun .. | .announce .. => true

/-- The logs of all runs represent their ledgers. -/
structure Booked (stores : Stores) (books : RunId → Ledger) : Prop where
  numbered : stores.database.Numbered
  represents : ∀ runId, Represents (stores.database.eventsAfter runId 0) (books runId)
  distinct : ∀ runId, (books runId).identifiers.Nodup

variable {platform clock settings} {stores next : Stores} {books : RunId → Ledger}

theorem booked_empty : Booked .empty fun _ => [] where
  numbered := Database.numbered_empty
  represents _ := .nil
  distinct _ := List.nodup_nil

theorem Booked.later (hbooked : Booked stores books) (runId : RunId) (eventType : String)
    (payload : List (String × Json)) :
    ∀ earlier ∈ stores.database.eventsAfter runId 0,
      earlier.eventId < (stores.database.nextEvent runId eventType payload).eventId :=
  fun earlier hearlier =>
    Nat.lt_succ_of_le (hbooked.numbered.bounded earlier (Database.mem_eventsAfter.mp hearlier).1)

/-- An execution that is not known adds a new identifier, or none. -/
theorem Ledger.identifiers_execution_nodup {ledger : Ledger} {entry : LedgerEntry}
    (hdistinct : ledger.identifiers.Nodup) (hfresh : ledger.knows entry.execution = false) :
    (Ledger.identifiers (ledger ++ [.execution entry])).Nodup := by
  rw [Ledger.identifiers, Ledger.entries_execution, List.filterMap_append, ← Ledger.identifiers]
  cases hidentifier : entry.execution.identifier with
  | none => simpa [hidentifier] using hdistinct
  | some executionId =>
      have hnew : executionId ∉ ledger.identifiers := by
        simpa [Ledger.knows, hidentifier] using hfresh
      simp only [List.filterMap_cons, hidentifier, List.filterMap_nil]
      rw [List.nodup_append]
      refine ⟨hdistinct, List.nodup_singleton _, ?_⟩
      intro known hknown other hother heq
      rw [List.mem_singleton.mp hother] at heq
      exact hnew (heq ▸ hknown)

/-- One more event of a run, and what it is in the ledger of that run. -/
theorem Booked.append {after : RunId → Ledger} {runId : RunId} {eventType : String}
    {payload : List (String × Json)} {database : Database} (hbooked : Booked stores books)
    (hevent : stores.database.appendEvent runId eventType payload = .ok database)
    (hself : Represents (stores.database.eventsAfter runId 0 ++
      [stores.database.nextEvent runId eventType payload]) (after runId))
    (hdistinct : (after runId).identifiers.Nodup)
    (hother : ∀ other, other ≠ runId → after other = books other) :
    Booked (stores.withDatabase database) after where
  numbered := hbooked.numbered.appendEvent hevent
  represents other := by
    change Represents (database.eventsAfter other 0) _
    rw [Database.eventsAfter_appendEvent other hevent]
    by_cases heq : other = runId
    · subst heq
      rw [if_pos rfl]
      exact hself
    · rw [if_neg (Ne.symm heq), hother other heq]
      exact hbooked.represents other
  distinct other := by
    by_cases heq : other = runId
    · exact heq ▸ hdistinct
    · rw [hother other heq]
      exact hbooked.distinct other

/-- Recording an execution books it. -/
theorem Booked.record {runId : RunId} {agent : String} {result : AgentResult} {phase : StageName}
    {selection : Option Workflow.Selection} (hbooked : Booked stores books)
    (hstep : stores.account platform clock settings
      (.record runId agent result phase selection) = some next) :
    Booked next fun other => (books other).book other
      (.record runId agent result phase selection) := by
  simp only [Stores.account, Option.ite_none_right_eq_some, Option.map_eq_some_iff] at hstep
  obtain ⟨hrun, ⟨outcome, final⟩, hperform, rfl⟩ := hstep
  have hrecorded : Workflow.isRecorded (stores.database.eventsAfter runId 0) result.execution =
      (books runId).knows result.execution :=
    Workflow.isRecorded_eq_knows (hbooked.represents runId)
  cases hknows : (books runId).knows result.execution with
  | true =>
      rw [perform_known (hrecorded.trans hknows), Option.some.injEq, Prod.mk.injEq] at hperform
      have hbooks : (fun other => (books other).book other
          (.record runId agent result phase selection)) = books := by
        funext other
        refine if_neg fun ⟨heq, hfresh⟩ => ?_
        rw [← heq, hknows] at hfresh
        cases hfresh
      rw [hbooks, ← hperform.2]
      exact hbooked
  | false =>
      obtain ⟨payload, database, hfresh, hevent, hdescribes⟩ :=
        perform_fresh platform clock settings agent phase selection hrun (hrecorded.trans hknows)
      rw [hfresh, Option.some.injEq, Prod.mk.injEq] at hperform
      rw [← hperform.2]
      have hself : (books runId).book runId (.record runId agent result phase selection) =
          books runId ++ [.execution ⟨agent, phase, result.execution⟩] :=
        if_pos ⟨rfl, hknows⟩
      refine hbooked.append hevent ?_ ?_ fun other hother => if_neg fun heq => hother heq.1.symm
      · rw [hself]
        exact .execution (hbooked.represents runId) (Nat.succ_pos _) (hbooked.later _ _ _) rfl
          hdescribes
      · rw [hself]
        exact Ledger.identifiers_execution_nodup (hbooked.distinct runId) hknows

/-- Announcing an event books it if it is a retry. -/
theorem Booked.announce {runId : RunId} {eventType : String} {payload : List (String × Json)}
    (hbooked : Booked stores books)
    (hstep : stores.account platform clock settings (.announce runId eventType payload) =
      some next) :
    Booked next fun other => (books other).book other (.announce runId eventType payload) := by
  simp only [Stores.account] at hstep
  split at hstep
  next => cases hstep
  next htype =>
    split at hstep
    next database hevent =>
      cases hstep
      refine hbooked.append hevent ?_ ?_ fun other hother => if_neg fun heq => hother heq.1.symm
      · simp only [Ledger.book, true_and]
        split
        next hretry =>
          exact .retry (hbooked.represents runId) (Nat.succ_pos _) (hbooked.later _ _ _) hretry
        next hretry => exact .other (hbooked.represents runId) ⟨htype, hretry⟩
      · simp only [Ledger.book, true_and]
        split
        next => simpa [Ledger.identifiers] using hbooked.distinct runId
        next => exact hbooked.distinct runId
    next => cases hstep

/-- The logs represent the ledgers after every step. -/
theorem Booked.step {label : BudgetLabel} (hbooked : Booked stores books)
    (hstep : stores.account platform clock settings label = some next) :
    Booked next fun runId => (books runId).book runId label := by
  cases label with
  | createRun runId idea now =>
      simp only [Stores.account] at hstep
      split at hstep
      next database hcreate =>
        cases hstep
        unfold Database.createRun at hcreate
        split at hcreate
        · cases hcreate
        · cases hcreate
          exact ⟨hbooked.numbered.congr rfl rfl, hbooked.represents, hbooked.distinct⟩
      next => cases hstep
  | record runId agent result phase selection => exact hbooked.record hstep
  | announce runId eventType payload => exact hbooked.announce hstep

/-- In every run of the budget the books are kept. -/
theorem booked_of_run {labels : List BudgetLabel} (hbooked : Booked stores books)
    (hrun : (budgeting platform clock settings).run stores labels = some next) :
    Booked next fun runId => labels.foldl (Ledger.book runId) (books runId) := by
  induction labels generalizing stores books with
  | nil =>
      rw [System.run_nil, Option.some.injEq] at hrun
      exact hrun ▸ hbooked
  | cons label rest ih =>
      obtain ⟨middle, hstep, hrest⟩ := System.run_cons_eq_some _ |>.mp hrun
      exact ih (hbooked.step hstep) hrest

/-! ### Agents in their own phases -/

/-- The names of the catalog are unique. -/
theorem stage_of_agent : ∀ first ∈ agentSpecs, ∀ second ∈ agentSpecs,
    first.name = second.name → first.stage = second.stage := by
  decide

def LedgerEntry.paired (entry : LedgerEntry) : Bool :=
  (agentsByStage entry.phase).any fun spec => spec.name == entry.agent

/-- An execution of an agent of its phase counts for no other. -/
theorem LedgerEntry.countsFor_paired {entry : LedgerEntry} (hpaired : entry.paired = true)
    (phase : StageName) : entry.countsFor phase = (entry.phase == phase) := by
  rw [LedgerEntry.countsFor]
  by_cases hphase : entry.phase = phase
  · simp [hphase]
  · rw [beq_false_of_ne hphase, Bool.false_or, List.any_eq_false]
    intro spec hspec hname
    rw [LedgerEntry.paired, List.any_eq_true] at hpaired
    obtain ⟨own, hown, howner⟩ := hpaired
    obtain ⟨hspec, hstage⟩ := List.mem_filter.mp hspec
    obtain ⟨hown, howned⟩ := List.mem_filter.mp hown
    have hsame := stage_of_agent own hown spec hspec ((beq_iff_eq.mp howner).trans
      (beq_iff_eq.mp hname).symm)
    exact hphase ((beq_iff_eq.mp howned).symm.trans (hsame.trans (beq_iff_eq.mp hstage)))

/-- Paired labels book paired entries. -/
theorem paired_book {runId : RunId} {ledger : Ledger} {label : BudgetLabel}
    (hpaired : label.paired = true) (hledger : ∀ entry ∈ ledger.entries, entry.paired = true) :
    ∀ entry ∈ (ledger.book runId label).entries, entry.paired = true := by
  cases label with
  | createRun => exact hledger
  | announce =>
      simp only [Ledger.book]
      split
      · rwa [Ledger.entries_retry]
      · exact hledger
  | record other agent result phase selection =>
      simp only [Ledger.book]
      split
      · rw [Ledger.entries_execution]
        intro entry hentry
        rcases List.mem_append.mp hentry with hold | hnew
        · exact hledger entry hold
        · rw [List.mem_singleton.mp hnew]
          exact hpaired
      · exact hledger

/-- A history of paired labels has a ledger of paired entries. -/
theorem paired_ledgerOf {runId : RunId} {labels : List BudgetLabel} {ledger : Ledger}
    (hpaired : ∀ label ∈ labels, label.paired = true)
    (hledger : ∀ entry ∈ ledger.entries, entry.paired = true) :
    ∀ entry ∈ (labels.foldl (Ledger.book runId) ledger).entries, entry.paired = true := by
  induction labels generalizing ledger with
  | nil => exact hledger
  | cons label rest ih =>
      rw [List.forall_mem_cons] at hpaired
      exact ih hpaired.2 (paired_book hpaired.1 hledger)

theorem sinceRetry_subset (ledger : Ledger) : ledger.sinceRetry ⊆ ledger.entries := by
  induction ledger using List.reverseRec with
  | nil => exact List.Subset.refl _
  | append_singleton ledger item ih =>
      cases item with
      | execution entry =>
          rw [Ledger.sinceRetry_execution, Ledger.entries_execution]
          exact List.append_subset.mpr ⟨List.subset_append_of_subset_left _ ih,
            List.subset_append_right _ _⟩
      | retry =>
          rw [Ledger.sinceRetry_retry]
          exact List.nil_subset _

/-- Where agents keep to their phases, a phase accounts for what is recorded
under it. -/
theorem counted_of_paired {ledger : Ledger} (hpaired : ∀ entry ∈ ledger.entries, entry.paired = true)
    (phase : StageName) :
    ledger.counted phase =
      (if phase = .evaluation then ledger.sinceRetry else ledger.entries).filter fun entry =>
        entry.phase == phase := by
  refine List.filter_congr fun entry hentry => LedgerEntry.countsFor_paired ?_ phase
  split at hentry
  · exact hpaired entry (sinceRetry_subset ledger hentry)
  · exact hpaired entry hentry

/-- No ledger is over the budget as long as every call was accepted. -/
theorem spent_le_book {runId : RunId} {label : BudgetLabel}
    (hbudget : 0 < settings.tokenBudgetPerPhasePerRun) (hbooked : Booked stores books)
    (hpaired : label.paired = true) (haccepts : stores.accepts platform clock settings label = true)
    (hstep : stores.account platform clock settings label = some next)
    (hspent : ∀ phase, (books runId).spent phase ≤ settings.tokenBudgetPerPhasePerRun)
    (phase : StageName) :
    ((books runId).book runId label).spent phase ≤ settings.tokenBudgetPerPhasePerRun := by
  cases label with
  | createRun => exact hspent phase
  | announce other eventType payload =>
      simp only [Ledger.book]
      split
      · rw [Ledger.spent_retry]
        split
        · exact hbudget.le
        · exact hspent phase
      · exact hspent phase
  | record other agent result own selection =>
      simp only [Ledger.book]
      split
      next hnew =>
        obtain ⟨rfl, hknows⟩ := hnew
        by_cases hown : own = phase
        · subst hown
          simp only [Stores.account, Option.ite_none_right_eq_some] at hstep
          obtain ⟨payload, database, hperform, -⟩ := perform_fresh platform clock settings agent own
            selection hstep.1 ((Workflow.isRecorded_eq_knows (hbooked.represents other)).trans hknows)
          rw [← Workflow.phaseTotal_eq_spent agent (hbooked.represents other)]
          simp only [Stores.accepts, hperform] at haccepts
          split at haccepts
          next haccepted =>
            rw [Option.some.injEq, Prod.mk.injEq] at haccepted
            exact (chargeOutcome_eq_ok.mp haccepted.1).2
          next => cases haccepts
        · have hentry : LedgerEntry.paired ⟨agent, own, result.execution⟩ = true := hpaired
          rw [Ledger.spent_execution, LedgerEntry.countsFor_paired hentry, beq_false_of_ne hown,
            if_neg Bool.false_ne_true, Int.add_zero]
          exact hspent phase
      next => exact hspent phase

/-- The run lemma for calls that were all accepted. -/
theorem spent_le_of_run {labels : List BudgetLabel}
    (hbudget : 0 < settings.tokenBudgetPerPhasePerRun) (hbooked : Booked stores books)
    (hpaired : ∀ label ∈ labels, label.paired = true)
    (haccepts : (budgeting platform clock settings).along
      (Stores.accepts platform clock settings) stores labels = true)
    (hrun : (budgeting platform clock settings).run stores labels = some next)
    (hspent : ∀ runId phase, (books runId).spent phase ≤ settings.tokenBudgetPerPhasePerRun)
    (runId : RunId) (phase : StageName) :
    Ledger.spent (labels.foldl (Ledger.book runId) (books runId)) phase ≤
      settings.tokenBudgetPerPhasePerRun := by
  induction labels generalizing stores books with
  | nil => exact hspent runId phase
  | cons label rest ih =>
      obtain ⟨middle, hstep, hrest⟩ := System.run_cons_eq_some _ |>.mp hrun
      rw [List.forall_mem_cons] at hpaired
      simp only [System.along, hstep, Bool.and_eq_true] at haccepts
      refine ih (hbooked.step hstep) hpaired.2 haccepts.2 hrest fun other own => ?_
      exact spent_le_book hbudget hbooked hpaired.1 haccepts.1 hstep (hspent other) own

end Runs

/-- Of each identified execution there is one event; a call that stores an event
raises exactly if the phase is over its budget with it, or is the preflight,
which has no agents; executions count for no phase but their own and that of
their agent; and where every agent keeps to its phase, each phase accounts for
what is recorded under it and is within the budget until a call raises. -/
theorem token_budget_exact {platform : Platform} {clock : Nat → Nat} {settings : HubSettings}
    (hbudget : 0 < settings.tokenBudgetPerPhasePerRun) {labels : List BudgetLabel} {stores : Stores}
    (hrun : (budgeting platform clock settings).run .empty labels = some stores) {runId : RunId}
    (hexists : stores.database.hasRun runId = true) :
    (Workflow.recordedIds (stores.database.eventsAfter runId 0)).Nodup ∧
      (∀ (agent : String) (result : AgentResult) (phase : StageName)
        (selection : Option Workflow.Selection),
        if (ledgerOf runId labels).knows result.execution then
          stores.perform platform clock runId
            (Workflow.recordExecution settings agent result phase selection) = some (.ok (), stores)
        else ∃ outcome payload database, stores.perform platform clock runId
              (Workflow.recordExecution settings agent result phase selection) =
            some (outcome, stores.withDatabase database) ∧
          stores.database.appendEvent runId "agent.execution" payload = .ok database ∧
          Describes (.obj payload) ⟨agent, phase, result.execution⟩ ∧
          ((∃ raised, outcome = .error raised) ↔ phase = .preflight ∨
            settings.tokenBudgetPerPhasePerRun <
              Ledger.spent (ledgerOf runId labels ++ [.execution ⟨agent, phase, result.execution⟩])
                phase)) ∧
      (∀ entry phase, entry.countsFor phase = false →
        Ledger.spent (ledgerOf runId labels ++ [.execution entry]) phase =
          (ledgerOf runId labels).spent phase) ∧
      ((∀ label ∈ labels, label.paired = true) → ∀ phase,
        (ledgerOf runId labels).counted phase =
            (if phase = .evaluation then (ledgerOf runId labels).sinceRetry
              else (ledgerOf runId labels).entries).filter (fun entry => entry.phase == phase) ∧
          ((budgeting platform clock settings).along (Stores.accepts platform clock settings)
              .empty labels = true →
            (ledgerOf runId labels).spent phase ≤ settings.tokenBudgetPerPhasePerRun)) := by
  have hbooked := booked_of_run booked_empty hrun
  -- The events of the run are those of its ledger.
  have hrepresents : Represents (stores.database.eventsAfter runId 0) (ledgerOf runId labels) :=
    hbooked.represents runId
  refine ⟨?_, fun agent result phase selection => ?_, fun entry phase hother => ?_,
    fun hpaired phase => ⟨?_, fun haccepts => ?_⟩⟩
  · rw [Workflow.recordedIds_eq hrepresents]
    exact hbooked.distinct runId
  · have hrecorded : Workflow.isRecorded (stores.database.eventsAfter runId 0) result.execution =
        (ledgerOf runId labels).knows result.execution :=
      Workflow.isRecorded_eq_knows hrepresents
    split
    next hknows => exact perform_known (hrecorded.trans hknows)
    next hnew =>
      obtain ⟨payload, database, hperform, hevent, hdescribes⟩ := perform_fresh platform clock
        settings agent phase selection hexists (hrecorded.trans (eq_false_of_ne_true hnew))
      refine ⟨_, payload, database, hperform, hevent, hdescribes, ?_⟩
      rw [← Workflow.phaseTotal_eq_spent agent hrepresents]
      exact chargeOutcome_raises_iff
  · rw [Ledger.spent_execution, hother, if_neg Bool.false_ne_true, Int.add_zero]
  · exact counted_of_paired (paired_ledgerOf hpaired (List.forall_mem_nil _)) phase
  · exact spent_le_of_run hbudget booked_empty hpaired haccepts hrun
      (fun _ _ => Ledger.spent_nil.trans_le hbudget.le) runId phase

/-! ### Two executions of the backend agent -/

def sampleBudget : HubSettings := { tokenBudgetPerPhasePerRun := 100 }

def sampleUsage (executionId : String) (inputTokens : Int) : AgentResult where
  artifactKind := .codeChange
  content := .obj []
  markdown := "# Result"
  humanPrompt := none
  execution :=
    { executionId := some executionId, modelId := "deterministic"
      promptVersion := "deterministic-v1", inputTokens := some inputTokens, outputTokens := none
      costUsd := none, costBasis := "unavailable" }

/-- An execution that is repeated, and one after a retry. -/
def sampleCalls : List BudgetLabel :=
  [.createRun "run_a" "" 0,
    .record "run_a" "backend-agent" (sampleUsage "execution-1" 60) .implementation none,
    .record "run_a" "backend-agent" (sampleUsage "execution-1" 60) .implementation none,
    .announce "run_a" "run.retry_requested" [],
    .record "run_a" "evaluation-agent" (sampleUsage "execution-2" 60) .evaluation none]

theorem token_budget_exact_sample :
    ∃ stores, (budgeting samplePlatform id sampleBudget).run .empty sampleCalls = some stores ∧
      (Workflow.recordedIds (stores.database.eventsAfter "run_a" 0)).Nodup ∧
      (ledgerOf "run_a" sampleCalls).spent .implementation ≤ 100 := by
  have hcalls : ((budgeting samplePlatform id sampleBudget).run .empty sampleCalls).map
      (fun stores => stores.database.hasRun "run_a") = some true := by
    decide +kernel
  obtain ⟨stores, hrun, hexists⟩ := Option.map_eq_some_iff.mp hcalls
  have hexact := token_budget_exact (by decide) hrun hexists
  exact ⟨stores, hrun, hexact.1, (hexact.2.2.2 (by decide) .implementation).2 (by decide +kernel)⟩

/-- The backend agent was recorded under the integration, and then under its own
phase: the call raises, though that phase has 60 tokens. -/
theorem budget_counts_other_phase :
    ∃ stores raised next, (budgeting samplePlatform id sampleBudget).run .empty
        [.createRun "run_a" "" 0,
          .record "run_a" "backend-agent" (sampleUsage "execution-1" 60) .integration none] =
          some stores ∧
      stores.perform samplePlatform id "run_a" (Workflow.recordExecution sampleBudget
        "backend-agent" (sampleUsage "execution-2" 60) .implementation none) =
          some (.error raised, next) ∧
      (next.database.events.filter fun event =>
        event.payload.get? "phase" == some (.str StageName.implementation.value)).map
          (fun event => Workflow.tokens event.payload "input_tokens") = [60] := by
  let tokensUnder (stores : Stores) : List Int := (stores.database.events.filter fun event =>
    event.payload.get? "phase" == some (.str StageName.implementation.value)).map fun event =>
      Workflow.tokens event.payload "input_tokens"
  let call (stores : Stores) := stores.perform samplePlatform id "run_a"
    (Workflow.recordExecution sampleBudget "backend-agent" (sampleUsage "execution-2" 60)
      .implementation none)
  have hcalls : (((budgeting samplePlatform id sampleBudget).run .empty
      [.createRun "run_a" "" 0,
        .record "run_a" "backend-agent" (sampleUsage "execution-1" 60) .integration none]).bind
      fun stores => (call stores).map fun returned =>
        (returned.1.toOption.isSome, tokensUnder returned.2)) = some (false, [60]) := by
    decide +kernel
  obtain ⟨stores, hrun, hcall⟩ := Option.bind_eq_some_iff.mp hcalls
  obtain ⟨⟨outcome, next⟩, hperform, hreturned⟩ := Option.map_eq_some_iff.mp hcall
  rw [Prod.mk.injEq] at hreturned
  cases outcome with
  | ok value => exact absurd hreturned.1 (by simp [Except.toOption])
  | error raised => exact ⟨stores, raised, next, hrun, hperform, hreturned.2⟩

end Aidlc
