import Aidlc.Orchestration.Identities

/-! # The progress of a run

A run is completed once all its stages are, and a run that is over starts again only
when it is retried. What a statement makes of the status of a run and of its stages, and
what everybody may count on while the others work, is said here once for all programs.
-/

namespace Aidlc

open Foundation Workflow

/-! ## Runs and their stages -/

/-- A run has its stages in order, and is completed only with all of them. -/
structure WorkflowRun.Lawful (run : WorkflowRun) : Prop where
  order : run.stages.map StageRecord.name = stageOrder
  completed : run.status = .completed → ∀ stage, stageStatus run stage = some .completed

namespace WorkflowRun

/-- Marking one stage changes the status of that stage alone. -/
theorem stageStatus_mark (run : WorkflowRun) (stage other : StageName) (status : RunStatus)
    (error : Option String) :
    stageStatus { run with
      stages := run.stages.map fun record =>
        if record.name = stage then { record with status, error } else record } other =
      if other = stage then (stageStatus run other).map fun _ => status
      else stageStatus run other := by
  unfold stageStatus
  dsimp only
  rw [List.find?_map]
  have hname : ((fun record : StageRecord => record.name == other) ∘ fun record : StageRecord =>
      if record.name = stage then { record with status, error } else record) =
        fun record => record.name == other := by
    funext record
    dsimp only [Function.comp_apply]
    split <;> rfl
  rw [hname]
  cases hfound : run.stages.find? fun record => record.name == other with
  | none => split <;> rfl
  | some record =>
      have hname := List.find?_some hfound
      have hsame : record.name = other := beq_iff_eq.mp hname
      by_cases hother : other = stage
      · simp [hother, hsame]
      · simp [hother, hsame]

/-- Every stage has a row. -/
theorem exists_stageStatus {run : WorkflowRun} (horder : run.stages.map StageRecord.name = stageOrder)
    (stage : StageName) : ∃ status, stageStatus run stage = some status := by
  have hmember : stage ∈ run.stages.map StageRecord.name := by
    rw [horder]
    cases stage <;> decide
  obtain ⟨record, hrecord, hname⟩ := List.mem_map.mp hmember
  have hfound : (run.stages.find? fun record => record.name == stage).isSome := by
    rw [List.find?_isSome]
    exact ⟨record, hrecord, beq_iff_eq.mpr hname⟩
  obtain ⟨found, hfound⟩ := Option.isSome_iff_exists.mp hfound
  exact ⟨found.status, congrArg (Option.map StageRecord.status) hfound⟩

/-- Rows are told apart by their stage. -/
theorem status_of_stageStatus {run : WorkflowRun} {record : StageRecord} {status : RunStatus}
    (horder : run.stages.map StageRecord.name = stageOrder) (hrecord : record ∈ run.stages)
    (hstatus : stageStatus run record.name = some status) : record.status = status := by
  obtain ⟨found, hfound, rfl⟩ := Option.map_eq_some_iff.mp hstatus
  have hnodup : (run.stages.map StageRecord.name).Nodup := by
    rw [horder]
    decide
  have hname := List.find?_some hfound
  have hsame : found = record := List.inj_on_of_nodup_map hnodup
    (List.mem_of_find?_eq_some hfound) hrecord (beq_iff_eq.mp hname)
  rw [hsame]

end WorkflowRun

namespace Database

/-- The rows of the runs as the orchestrator keeps them. -/
structure Lawful (database : Database) : Prop where
  keyed : database.RunsKeyed
  runs : ∀ run ∈ database.runs, run.Lawful

variable {database next : Database} {runId : RunId}

theorem getRun_congr (hruns : next.runs = database.runs) (runId : RunId) :
    next.getRun runId = database.getRun runId := by
  unfold getRun
  rw [hruns]

/-- A run that is found is stored, under the id asked for. -/
theorem mem_of_getRun {run : WorkflowRun} (hrun : database.getRun runId = some run) :
    run ∈ database.runs ∧ run.runId = runId := by
  have hkey := List.find?_some hrun
  exact ⟨List.mem_of_find?_eq_some hrun, beq_iff_eq.mp hkey⟩

/-- Under the primary key every stored run is found. -/
theorem getRun_of_mem (hkeyed : database.RunsKeyed) {run : WorkflowRun} (hrun : run ∈ database.runs) :
    database.getRun run.runId = some run := by
  obtain ⟨found, hfound⟩ := Option.isSome_iff_exists.mp (hasRun_of_mem hrun)
  obtain ⟨hmember, hsame⟩ := mem_of_getRun hfound
  rw [hfound, eq_of_runId hkeyed hmember hrun hsame]

theorem Lawful.getRun (hlawful : database.Lawful) {run : WorkflowRun}
    (hrun : database.getRun runId = some run) : run.Lawful :=
  hlawful.runs run (mem_of_getRun hrun).1

theorem Lawful.congr (hlawful : database.Lawful) (hruns : next.runs = database.runs) :
    next.Lawful :=
  ⟨by rw [RunsKeyed, hruns]; exact hlawful.keyed, by rw [hruns]; exact hlawful.runs⟩

/-- A change that keeps the run lawful keeps the database so. -/
theorem Lawful.modifyRun (hlawful : database.Lawful) {change : WorkflowRun → WorkflowRun}
    (hkept : ∀ run, (change run).runId = run.runId)
    (hchange : ∀ run, database.getRun runId = some run → run.Lawful → (change run).Lawful) :
    (database.modifyRun runId change).Lawful where
  keyed := by
    have hids : (database.runs.map fun run => if run.runId = runId then change run else run).map
        WorkflowRun.runId = database.runs.map WorkflowRun.runId := by
      rw [List.map_map]
      refine List.map_congr_left fun run _ => ?_
      dsimp only [Function.comp_apply]
      split
      next => exact hkept run
      next => rfl
    rw [RunsKeyed, show (database.modifyRun runId change).runs.map WorkflowRun.runId = _ from hids]
    exact hlawful.keyed
  runs run hrun := by
    obtain ⟨before, hbefore, rfl⟩ := List.mem_map.mp hrun
    have hlawfulRun := hlawful.runs before hbefore
    split
    next hsame => exact hchange before (hsame ▸ getRun_of_mem hlawful.keyed hbefore) hlawfulRun
    next => exact hlawfulRun

/-- A new run is lawful: nothing of it is completed. -/
theorem lawful_initial (run : WorkflowRun) (hstatus : run.status = .pending)
    (hstages : run.stages = stageOrder.map StageRecord.initial) : run.Lawful := by
  refine ⟨?_, fun hcompleted => ?_⟩
  · rw [hstages]
    rfl
  · rw [hstatus] at hcompleted
    cases hcompleted

/-- Creating a run keeps the database lawful. -/
theorem Lawful.createRun (hlawful : database.Lawful) {idea : String} {now : Nat}
    (hnext : database.createRun runId idea now = .ok next) : next.Lawful := by
  have hnone := (createRun_eq_ok hnext).1
  unfold Database.createRun at hnext
  split at hnext
  next => cases hnext
  next =>
    cases hnext
    refine ⟨?_, fun run hrun => ?_⟩
    · unfold RunsKeyed
      rw [List.map_append, List.nodup_append]
      refine ⟨hlawful.keyed, List.nodup_singleton _, fun id hid other hother => ?_⟩
      obtain ⟨run, hrun, rfl⟩ := List.mem_map.mp hid
      rw [List.mem_singleton.mp hother]
      rintro hsame
      have hfound := hasRun_of_mem hrun
      rw [show run.runId = runId from hsame, hasRun, hnone] at hfound
      cases hfound
    · rcases List.mem_append.mp hrun with hold | hnew
      · exact hlawful.runs run hold
      · rw [List.mem_singleton.mp hnew]
        exact lawful_initial _ rfl rfl

end Database

/-! ### Startup -/

/-- A startup leaves a run alone, or stops one that was not over. -/
def WorkflowRun.Stops (run next : WorkflowRun) : Prop :=
  next = run ∨ (run.unfinished = true ∧ next.runId = run.runId ∧
    next.stages.map StageRecord.name = run.stages.map StageRecord.name ∧
      next.status ≠ .completed)

namespace WorkflowRun

variable {run middle next : WorkflowRun}

theorem Stops.runId (hstops : run.Stops next) : next.runId = run.runId := by
  rcases hstops with rfl | ⟨-, hsame, -⟩
  · rfl
  · exact hsame

/-- Stopping a run keeps it lawful. -/
theorem Stops.lawful (hstops : run.Stops next) (hlawful : run.Lawful) : next.Lawful := by
  rcases hstops with rfl | ⟨-, -, hnames, hstatus⟩
  · exact hlawful
  · exact ⟨hnames.trans hlawful.order, fun hcompleted => absurd hcompleted hstatus⟩

theorem Stops.trans (hfirst : run.Stops middle) (hsecond : middle.Stops next) : run.Stops next := by
  rcases hsecond with rfl | ⟨hunfinished, hsame, hnames, hstatus⟩
  · exact hfirst
  · rcases hfirst with rfl | ⟨hbefore, hkept, hstages, -⟩
    · exact Or.inr ⟨hunfinished, hsame, hnames, hstatus⟩
    · exact Or.inr ⟨hbefore, hsame.trans hkept, hnames.trans hstages, hstatus⟩

/-- An unfinished run is not completed. -/
theorem unfinished_ne_completed (hunfinished : run.unfinished = true) : run.status ≠ .completed := by
  intro hcompleted
  simp [unfinished, hcompleted] at hunfinished

theorem names_mark (stages : List StageRecord) (marked : StageRecord → Prop) [DecidablePred marked]
    (status : RunStatus) (error : Option String) :
    (stages.map fun record => if marked record then { record with status, error } else record).map
      StageRecord.name = stages.map StageRecord.name := by
  rw [List.map_map]
  refine List.map_congr_left fun record _ => ?_
  dsimp only [Function.comp_apply]
  split <;> rfl

/-- Interrupting a run stops it. -/
theorem stops_interrupted (run : WorkflowRun) : run.Stops run.interrupted := by
  cases hunfinished : run.unfinished with
  | false => exact Or.inl (interrupted_of_finished hunfinished)
  | true =>
      refine Or.inr ⟨hunfinished, run.interrupted_runId, ?_, ?_⟩ <;>
        rw [interrupted, if_pos hunfinished]
      · exact names_mark ..
      · exact RunStatus.noConfusion

end WorkflowRun

namespace Database

variable {database middle next : Database} {runId : RunId}

/-- A startup, or a part of it, stops runs that were not over. -/
def Stops (database next : Database) : Prop :=
  ∃ change, next.runs = database.runs.map change ∧ ∀ run ∈ database.runs, run.Stops (change run)

theorem Stops.trans (hfirst : database.Stops middle) (hsecond : middle.Stops next) :
    database.Stops next := by
  obtain ⟨first, hmiddle, hfirst⟩ := hfirst
  obtain ⟨second, hnext, hsecond⟩ := hsecond
  refine ⟨second ∘ first, ?_, fun run hrun => (hfirst run hrun).trans (hsecond _ ?_)⟩
  · rw [hnext, hmiddle, List.map_map]
  · rw [hmiddle]
    exact List.mem_map_of_mem hrun

theorem Stops.lawful (hstops : database.Stops next) (hlawful : database.Lawful) : next.Lawful := by
  obtain ⟨change, hnext, hstop⟩ := hstops
  refine ⟨?_, fun run hrun => ?_⟩
  · have hids : next.runs.map WorkflowRun.runId = database.runs.map WorkflowRun.runId := by
      rw [hnext, List.map_map]
      exact List.map_congr_left fun run hrun => (hstop run hrun).runId
    rw [RunsKeyed, hids]
    exact hlawful.keyed
  · rw [hnext] at hrun
    obtain ⟨before, hbefore, rfl⟩ := List.mem_map.mp hrun
    exact (hstop before hbefore).lawful (hlawful.runs before hbefore)

/-- What becomes of one run. -/
theorem Stops.getRun (hstops : database.Stops next) {run : WorkflowRun}
    (hrun : database.getRun runId = some run) :
    ∃ later, next.getRun runId = some later ∧ run.Stops later := by
  obtain ⟨change, hnext, hstop⟩ := hstops
  have hmember := (mem_of_getRun hrun).1
  refine ⟨change run, ?_, hstop run hmember⟩
  unfold Database.getRun at hrun ⊢
  rw [hnext]
  generalize database.runs = runs at hrun hstop
  induction runs with
  | nil => cases hrun
  | cons first rest ih =>
      rw [List.map_cons, List.find?_cons, (hstop first List.mem_cons_self).runId]
      rw [List.find?_cons] at hrun
      split
      next hkey =>
        rw [hkey] at hrun
        cases hrun
        rfl
      next hkey =>
        rw [hkey] at hrun
        exact ih hrun fun other hother => hstop other (List.mem_cons_of_mem _ hother)

/-- A recovery stops exactly the runs it lists. -/
theorem stops_recoverRuns (hkeyed : database.RunsKeyed) {listed : List WorkflowRun}
    (hnodup : (listed.map WorkflowRun.runId).Nodup) (hlisted : ∀ run ∈ listed, run ∈ database.runs)
    (hnext : listed.foldlM recoverRun database = .ok next) :
    next.runs = (database.runs.map fun run =>
      if run.runId ∈ listed.map WorkflowRun.runId then run.interrupted else run) ∧
      database.Stops next := by
  rw [foldlM_recoverRun hkeyed hnodup hlisted, Except.ok.injEq] at hnext
  subst hnext
  refine ⟨rfl, _, rfl, fun run _ => ?_⟩
  split
  next => exact run.stops_interrupted
  next => exact Or.inl rfl

/-- The first statements of a round stop the run of the round. -/
theorem stops_recoverStatements {run : WorkflowRun} (count : Nat)
    (hrow : ∀ other ∈ database.runs, other.runId = run.runId → other = run) :
    database.Stops (database.recoverStatements run count) := by
  have hrefl : database.Stops database := ⟨id, (List.map_id _).symm, fun _ _ => Or.inl rfl⟩
  unfold recoverStatements
  split
  next hstatus =>
    have hlive : run.unfinished = true := by simpa [WorkflowRun.unfinished] using hstatus
    have hmodify {database : Database} {change : WorkflowRun → WorkflowRun}
        (hchange : ∀ other ∈ database.runs, other.runId = run.runId → other.Stops (change other)) :
        database.Stops (database.modifyRun run.runId change) := by
      refine ⟨_, rfl, fun other hother => ?_⟩
      split
      next hsame => exact hchange other hother hsame
      next => exact Or.inl rfl
    have hmark (stage : StageName) :
        database.Stops (database.updateStage run.runId stage .blocked (some interruptedReason)) :=
      hmodify fun other hother hsame => by
        obtain rfl := hrow other hother hsame
        exact Or.inr ⟨hlive, rfl, WorkflowRun.names_mark .., WorkflowRun.unfinished_ne_completed hlive⟩
    have hblock {marked : Database} (currentStage : Option StageName)
        (hmarked : database.Stops marked)
        (hunfinished : ∀ other ∈ marked.runs, other.runId = run.runId → other.unfinished = true) :
        database.Stops (marked.updateRun run.runId .blocked currentStage (some interruptedReason)) :=
      hmarked.trans (hmodify fun other hother hsame =>
        Or.inr ⟨hunfinished other hother hsame, rfl, rfl, RunStatus.noConfusion⟩)
    cases run.currentStage with
    | none =>
        dsimp only
        split
        next => exact hrefl
        next => exact hrefl
        next => exact hblock none hrefl fun other hother hsame => hrow other hother hsame ▸ hlive
    | some stage =>
        dsimp only
        split
        next => exact hrefl
        next => exact hmark stage
        next =>
          refine hblock (some stage) (hmark stage) fun other hother hsame => ?_
          obtain ⟨before, hbefore, rfl⟩ := List.mem_map.mp hother
          by_cases hid : before.runId = run.runId
          · obtain rfl := hrow before hbefore hid
            rw [if_pos rfl]
            exact hlive
          · rw [if_neg hid] at hsame
            exact absurd hsame hid
  next => exact hrefl

/-- A recovery cut short anywhere stops runs only. -/
theorem stops_recoverPart (hkeyed : database.RunsKeyed) {runs statements : Nat}
    (hnext : database.recoverPart runs statements = .ok next) : database.Stops next := by
  have hlisted := listRuns_nodup hkeyed 10000
  have hnodup : (((database.listRuns 10000).take runs).map WorkflowRun.runId).Nodup :=
    hlisted.sublist ((List.take_sublist ..).map _)
  unfold recoverPart at hnext
  dsimp only at hnext
  cases hfold : ((database.listRuns 10000).take runs).foldlM recoverRun database with
  | error error =>
      rw [hfold] at hnext
      cases hnext
  | ok recovered =>
      rw [hfold] at hnext
      obtain rfl := Except.ok.inj hnext
      obtain ⟨hruns, hstops⟩ := stops_recoverRuns hkeyed hnodup
        (fun run hrun => mem_of_listRuns (List.mem_of_mem_take hrun)) hfold
      split
      next run hrun =>
        refine hstops.trans (stops_recoverStatements _ fun other hother hsame => ?_)
        -- The round of this run is still to come, so its row is the listed one.
        have hfresh : run.runId ∉ ((database.listRuns 10000).take runs).map WorkflowRun.runId := by
          have hlater : run ∈ (database.listRuns 10000).drop runs := by
            refine List.mem_of_getElem? (i := 0) ?_
            rwa [List.getElem?_drop, Nat.add_zero]
          rw [← List.take_append_drop runs (database.listRuns 10000), List.map_append,
            List.nodup_append] at hlisted
          exact fun hbefore => hlisted.2.2 _ hbefore _ (List.mem_map_of_mem hlater) rfl
        rw [hruns] at hother
        obtain ⟨before, hbefore, rfl⟩ := List.mem_map.mp hother
        have hid : before.runId = run.runId := by
          split at hsame
          next => exact before.interrupted_runId.symm.trans hsame
          next => exact hsame
        rw [if_neg (hid ▸ hfresh)]
        exact eq_of_runId hkeyed hbefore (mem_of_listRuns (List.mem_of_getElem? hrun)) hid
      next => exact hstops

end Database

/-! ## What statements do to a run -/

namespace Request

/-- What a request writes to the row of its run. -/
def change : Request → WorkflowRun → WorkflowRun
  | updateRun status currentStage error, run => { run with status, currentStage, error }
  | updateStage stage status error, run =>
    { run with
      stages := run.stages.map fun record =>
        if record.name = stage then { record with status, error } else record }
  | _, run => run

theorem change_runId (request : Request) (run : WorkflowRun) :
    (request.change run).runId = run.runId := by
  cases request <;> rfl

end Request

section Statements

variable {platform : Platform} {clock : Nat → Nat} {stores after : Stores} {runId : RunId}
  {fault : StorageFault} {request : Request}

theorem modifyRun_id (database : Database) :
    (database.modifyRun runId fun run => run).runs = database.runs := by
  show database.runs.map _ = _
  simp only [ite_self, List.map_id']

/-- Every request but the creation of a run changes the runs by its own change. -/
theorem runs_of_serve {value : Except PyError request.Value}
    (hcreate : ∀ idea now, request ≠ .createRun idea now)
    (hserve : stores.serve platform clock runId request = some (value, after)) :
    after.database.runs = (stores.database.modifyRun runId request.change).runs := by
  by_cases hquiet : request.quiet = true
  · have hsame : request.change = fun run => run := by
      cases request <;> first | rfl | cases hquiet
    rw [hsame, modifyRun_id]
    exact (serve_quiet hquiet hserve).runs
  cases request with
  | getRun =>
      cases hserve
      exact (modifyRun_id _).symm
  | updateRun status currentStage error =>
      cases hserve
      rfl
  | updateStage stage status error =>
      cases hserve
      rfl
  | appendEvent eventType payload =>
      refine Eq.trans ?_ (modifyRun_id _).symm
      rcases statement_eq (Option.some.inj hserve) with
        ⟨database, hchange, -, rfl⟩ | ⟨error, -, -, rfl⟩
      · obtain ⟨-, rfl⟩ := Database.appendEvent_eq_ok.mp hchange
        rfl
      · rfl
  | createRun idea now => exact absurd rfl (hcreate idea now)
  | acceptAction action =>
      obtain ⟨-, rfl⟩ := Prod.mk.inj (Option.some.inj hserve)
      refine Eq.trans ?_ (modifyRun_id _).symm
      exact (sameRuns_acceptCall platform runId action (stores.now clock) .none stores).1.runs
  | activeTask cancelable => cases hserve
  | createTask retryAttempt => cases hserve
  | cancelTask => cases hserve
  | _ => exact absurd rfl hquiet

/-- A statement that fails takes effect as a whole, or not at all. -/
theorem runs_of_answer {answer : request.Answer}
    (hcreate : ∀ idea now, request ≠ .createRun idea now)
    (hanswer : stores.answer platform clock runId request fault = some (answer, after)) :
    after.database.runs = stores.database.runs ∨
      after.database.runs = (stores.database.modifyRun runId request.change).runs := by
  obtain ⟨⟨value, next⟩, hserve, hresult⟩ := Option.map_eq_some_iff.mp hanswer
  have hserved := runs_of_serve hcreate hserve
  cases fault with
  | none =>
      cases hresult
      exact Or.inr hserved
  | before =>
      cases hresult
      exact Or.inl rfl
  | after =>
      cases hresult
      exact Or.inr hserved
  | torn lost =>
      cases hresult
      exact Or.inl (sameRuns_torn runId platform clock stores request lost).runs

/-- A creation that fails leaves the runs alone. -/
theorem create_of_answer {idea : String} {now : Nat} {answer : Request.Answer (.createRun idea now)}
    (hanswer : stores.answer platform clock runId (.createRun idea now) fault =
      some (answer, after)) :
    after.database.runs = stores.database.runs ∨
      ∃ database, stores.database.createRun runId idea now = .ok database ∧
        after.database = database := by
  obtain ⟨⟨value, next⟩, hserve, hresult⟩ := Option.map_eq_some_iff.mp hanswer
  have hserved : next.database.runs = stores.database.runs ∨
      ∃ database, stores.database.createRun runId idea now = .ok database ∧
        next.database = database := by
    rcases statement_eq (Option.some.inj hserve) with
      ⟨database, hchange, -, rfl⟩ | ⟨error, -, -, rfl⟩
    · exact Or.inr ⟨database, hchange, rfl⟩
    · exact Or.inl rfl
  cases fault with
  | none =>
      cases hresult
      exact hserved
  | before =>
      cases hresult
      exact Or.inl rfl
  | after =>
      cases hresult
      exact hserved
  | torn lost =>
      cases hresult
      exact Or.inl rfl

end Statements

/-! ## The regime of progress -/

namespace Census

def status (census : Census) (runId : RunId) : Option RunStatus :=
  (census.stores.database.getRun runId).map WorkflowRun.status

/-- The status of a stage of a run. -/
def row (census : Census) (runId : RunId) (stage : StageName) : Option RunStatus :=
  (census.stores.database.getRun runId).bind fun run => stageStatus run stage

/-- Agents may be at work for the run. -/
def Working (census : Census) (runId : RunId) : Prop :=
  ∃ status ∈ [RunStatus.running, .inputRequired], census.status runId = some status

/-- The run exists and is not over. -/
def Open (census : Census) (runId : RunId) : Prop :=
  ∃ status, census.status runId = some status ∧ status ∉ terminalRunStatuses

def Over (census : Census) (runId : RunId) : Prop :=
  ∃ status ∈ terminalRunStatuses, census.status runId = some status

/-- The run may be retried. -/
def Restartable (census : Census) (runId : RunId) : Prop :=
  ∃ status ∈ [RunStatus.failed, .blocked, .canceled], census.status runId = some status

/-- There is such an execution, and nobody asked it to stop. -/
def Calm (census : Census) (runId : RunId) (retryAttempt : Nat) : Prop :=
  ∃ task, census.executions task = some ⟨runId, retryAttempt, false⟩

/-- A step by which no execution begins or ends. -/
structure Persists (census next : Census) : Prop extends Settles census next where
  live : ∀ runId retryAttempt, census.Live runId retryAttempt → next.Live runId retryAttempt
  calm : ∀ task attempt, next.executions task = some attempt → attempt.stopping = false →
    census.executions task = some attempt

/-- What holds between any two statements. -/
structure Ordered (census : Census) : Prop extends Filed census where
  lawful : census.stores.database.Lawful

end Census

/-- Whoever makes a request for a run has an execution of it, or is called by a client. -/
def Actor.Attends (census : Census) : Actor → Prop
  | handler runId => ¬census.Idle runId
  | _ => True

namespace Request

/-- What an answer tells of a run. -/
def Reports (runId : RunId) (census next : Census) : (request : Request) → request.Answer → Prop
  | .getRun, answer => ∀ found : Option WorkflowRun, answer = .ok found →
    found = census.stores.database.getRun runId
  | .createRun .., answer => answer = .ok () →
    census.status runId = none ∧ next.status runId = some .pending
  | .activeTask cancelable, answer =>
    (answer = .ok false → cancelable = false → census.Idle runId) ∧
      (answer = .ok true → ¬census.Idle runId)
  | .cancelTask, _ => ∀ task attempt, next.executions task = some attempt →
    attempt.runId = runId → attempt.stopping = true
  | _, _ => True

/-- How a statement that does not fail is answered. -/
def Succeeds (runId : RunId) (census : Census) : (request : Request) → request.Answer → Prop
  | .getRun, answer => answer = .ok (census.stores.database.getRun runId)
  | .updateRun .., answer | .updateStage .., answer => answer = .ok ()
  | .appendEvent .., answer => census.stores.database.hasRun runId = true → answer = .ok ()
  | _, _ => True

/-- What a statement for a run does, and what its answer tells. -/
structure Effects (actor : Actor) (runId : RunId) (census next : Census) (request : Request)
    (answer : request.Answer) : Prop where
  executions : census.Persists next ∨
    ∃ retryAttempt, request = .createTask retryAttempt ∧ next = census.launch runId retryAttempt
  runs : next.stores.database.runs = census.stores.database.runs ∨
    next.stores.database.runs = (census.stores.database.modifyRun runId request.change).runs ∨
      ∃ idea now, request = .createRun idea now ∧
        census.stores.database.createRun runId idea now = .ok next.stores.database
  returned : ∀ value, answer = .ok value → (∀ idea now, request ≠ .createRun idea now) →
    next.stores.database.runs = (census.stores.database.modifyRun runId request.change).runs
  reports : request.Reports runId census next answer
  /-- A statement with which a run ends does not fail, and none does once it ended. -/
  succeeds : request.final = true ∨ census.Over runId ∧ actor.Attends census →
    request.Succeeds runId census answer

end Request

namespace Census

/-- What a request presumes. -/
def Demands (request : Request) (census : Census) : Actor → Prop
  | .handler runId =>
    match request with
    | .createTask _ => census.Idle runId ∧ census.status runId = some .pending
    | .updateRun status _ _ =>
      status = .pending ∧ census.Idle runId ∧ census.Restartable runId ∨
        status = .canceled ∧ census.status runId = some .pending
    | .updateStage .. => False
    | _ => True
  | .execution runId retryAttempt => request.ofInterface = false ∧
    match request with
    | .updateRun status _ _ =>
      (census.Open runId ∨ census.status runId = some .canceled ∧ status = .canceled) ∧
        (status = .completed → ∀ stage, census.row runId stage = some .completed)
    | .updateStage .. => census.status runId ≠ some .completed
    | .runAgents job =>
      job.run.runId = runId ∧ job.retryAttempt = retryAttempt ∧ census.Working runId
    | _ => True
  | .agent job spec => request.ofInterface = false ∧
    match request with
    | .updateRun status _ _ =>
      status ∈ [RunStatus.running, .inputRequired] ∧ census.Working job.run.runId
    | .updateStage stage _ _ => stage = job.stage ∧ census.Working job.run.runId
    | .invoke other context => other = spec ∧ context.runId = job.run.runId ∧
      context.stage = job.stage ∧ census.Working job.run.runId
    | _ => True
  | .surroundings => request.ofInterface = false

/-- What may happen to a run while a request waits. -/
def Suffers (request : Request) (census next : Census) : Actor → Prop
  | .execution runId retryAttempt =>
    match request with
    | .runAgents job => (census.Working runId → next.Working runId) ∧
      (∀ stage, stage ≠ job.stage → next.row runId stage = census.row runId stage) ∧
        ∀ stage, (census.row runId stage).isSome → (next.row runId stage).isSome
    | _ => (next.Calm runId retryAttempt →
        census.Calm runId retryAttempt ∧ next.status runId = census.status runId) ∧
      (next.status runId = census.status runId ∨
        census.status runId = some .pending ∧ next.status runId = some .canceled) ∧
        ∀ stage, next.row runId stage = census.row runId stage
  | .agent job _ => census.Working job.run.runId → next.Working job.run.runId
  | .handler _ => next = census
  | .surroundings => True

/-- How a request is answered. -/
inductive Served (actor : Actor) (request : Request) (census : Census) (answer : request.Answer) :
    Census → Prop
  | stored {runId next} (hactor : actor.runId = some runId) (hsuspends : request.suspends = false)
      (hfiled : census.Filed) (heffects : request.Effects actor runId census next answer) :
      Served actor request census answer next
  | waited (hsuspends : request.suspends = true)
      (hcalm : ∀ runId retryAttempt, actor = .execution runId retryAttempt →
        census.Calm runId retryAttempt) : Served actor request census answer census
  | refused {runId retryAttempt task} (hsuspends : request.suspends = true)
      (hactor : actor = .execution runId retryAttempt)
      (hstopping : census.executions task = some ⟨runId, retryAttempt, true⟩)
      (hanswer : answer = .error .cancelled) : Served actor request census answer (census.calm task)

/-- What a step makes of the run it is made for. -/
def Turns (census next : Census) : Actor → Prop
  | .handler runId =>
    (next.status runId = census.status runId ∨
      census.status runId = some .pending ∧ next.status runId = some .canceled ∨
        census.Idle runId ∧ (census.status runId = none ∨ census.Restartable runId) ∧
          next.status runId = some .pending) ∧
      ((census.status runId).isSome → ∀ stage, next.row runId stage = census.row runId stage) ∧
        ∀ run retryAttempt, census.Live run retryAttempt → next.Live run retryAttempt
  | .execution runId _ => next.status runId = census.status runId ∨ census.Open runId
  | .agent job _ =>
    (next.status job.run.runId = census.status job.run.runId ∨
      census.Working job.run.runId ∧ next.Working job.run.runId) ∧
      (∀ stage, stage ≠ job.stage → next.row job.run.runId stage = census.row job.run.runId stage) ∧
        ∀ stage, (census.row job.run.runId stage).isSome → (next.row job.run.runId stage).isSome
  | .surroundings => True

/-- What a step makes of the runs, and who may take it. -/
structure Moves (actor : Actor) (census next : Census) : Prop where
  executions : census.Settles next ∨ ∃ runId retryAttempt, actor = .handler runId ∧
    census.Idle runId ∧ census.status runId = some .pending ∧
      next = census.launch runId retryAttempt
  calm : ∀ task attempt, next.executions task = some attempt → attempt.stopping = false →
    census.executions task = some attempt ∨
      (∃ retryAttempt, actor = .execution attempt.runId retryAttempt) ∨
        actor = .handler attempt.runId ∧ census.Idle attempt.runId
  others : ∀ runId, actor.runId ≠ some runId →
    next.stores.database.getRun runId = census.stores.database.getRun runId
  turns : census.Turns next actor
  lawful : census.stores.database.Lawful → next.stores.database.Lawful

end Census

/-- Runs are completed with all their stages, and those that are over stay over unless
they are retried. -/
def progress : Regime where
  protocol actor :=
    { requires := fun request census => census.Demands request actor
      drifts := fun request census next =>
        (request.suspends = false → next = census) ∧ census.Suffers request next actor
      answers := Census.Served actor
      guarantees := Census.Moves actor }
  invariant := Census.Ordered
  begins runId retryAttempt census := census.Calm runId retryAttempt →
    census.status runId = some .pending
  starts job _ census := census.Working job.run.runId
  attends job _ census := census.Working job.run.runId
  calls runId origin final := ∀ task retryAttempt,
    final.executions task = some ⟨runId, retryAttempt, false⟩ →
      final.status runId = some .pending ∨
        origin.executions task ≠ none ∧ final.status runId = origin.status runId
  permits census runId request fault := fault = .none ∨
    request.final = false ∧ ¬(census.Over runId ∧ ¬census.Idle runId)

/-! ## What statements do to the regime -/

/-- A run that stays as it is. -/
theorem Census.views_of_getRun {census next : Census} {runId : RunId}
    (hrun : next.stores.database.getRun runId = census.stores.database.getRun runId) :
    next.status runId = census.status runId ∧
      ∀ stage, next.row runId stage = census.row runId stage := by
  unfold Census.status Census.row
  rw [hrun]
  exact ⟨rfl, fun _ => rfl⟩

namespace Request

/-- What a request writes to the status of its run. -/
def turn : Request → RunStatus → RunStatus
  | updateRun status _ _, _ => status
  | _, status => status

/-- What a request writes to the status of a stage. -/
def mark : Request → StageName → RunStatus → RunStatus
  | updateStage stage status _, other, before => if other = stage then status else before
  | _, _, before => before

/-- The change of a request turns the status. -/
theorem status_change (request : Request) (run : WorkflowRun) :
    (request.change run).status = request.turn run.status := by
  cases request <;> rfl

/-- The change of a request marks the stages. -/
theorem stageStatus_change (request : Request) (run : WorkflowRun) (stage : StageName) :
    stageStatus (request.change run) stage = (stageStatus run stage).map (request.mark stage) := by
  cases request with
  | updateStage marked status error =>
      refine (run.stageStatus_mark marked stage status error).trans ?_
      show _ = (stageStatus run stage).map fun before => if stage = marked then status else before
      split
      next => rfl
      next => exact Option.map_id'.symm
  | _ => exact Option.map_id'.symm

namespace Effects

variable {actor : Actor} {runId : RunId} {census next : Census} {request : Request}
  {answer : request.Answer}

theorem others (heffects : request.Effects actor runId census next answer) {other : RunId}
    (hother : other ≠ runId) :
    next.stores.database.getRun other = census.stores.database.getRun other := by
  rcases heffects.runs with hsame | hchanged | ⟨idea, now, -, hcreate⟩
  · exact Database.getRun_congr hsame other
  · rw [Database.getRun_congr hchanged, Database.getRun_modifyRun other request.change_runId,
      if_neg hother]
  · exact (Database.createRun_eq_ok hcreate).2.2.2.2 other hother

theorem changed (hchanged : next.stores.database.runs =
      (census.stores.database.modifyRun runId request.change).runs) :
    next.status runId = (census.status runId).map request.turn ∧
      ∀ stage, next.row runId stage = (census.row runId stage).map (request.mark stage) := by
  have hrun : next.stores.database.getRun runId =
      (census.stores.database.getRun runId).map request.change := by
    rw [Database.getRun_congr hchanged,
      Database.getRun_modifyRun runId request.change_runId, if_pos rfl]
  unfold Census.status Census.row
  rw [hrun]
  cases census.stores.database.getRun runId with
  | none => exact ⟨rfl, fun _ => rfl⟩
  | some run => exact ⟨congrArg some (request.status_change run), request.stageStatus_change run⟩

/-- Where a statement returns, it did what it was made for. -/
theorem views (heffects : request.Effects actor runId census next answer) {value : request.Value}
    (hvalue : answer = .ok value) (hcreate : ∀ idea now, request ≠ .createRun idea now) :
    next.status runId = (census.status runId).map request.turn ∧
      ∀ stage, next.row runId stage = (census.row runId stage).map (request.mark stage) :=
  changed (heffects.returned value hvalue hcreate)

/-- Where it fails, it did so as a whole or not at all. -/
theorem views_or (heffects : request.Effects actor runId census next answer)
    (hcreate : ∀ idea now, request ≠ .createRun idea now) :
    (next.status runId = census.status runId ∧
      ∀ stage, next.row runId stage = census.row runId stage) ∨
    (next.status runId = (census.status runId).map request.turn ∧
      ∀ stage, next.row runId stage = (census.row runId stage).map (request.mark stage)) := by
  rcases heffects.runs with hsame | hchanged | ⟨idea, now, hcreates, -⟩
  · exact Or.inl (Census.views_of_getRun (Database.getRun_congr hsame runId))
  · exact Or.inr (changed hchanged)
  · exact absurd hcreates (hcreate idea now)

/-- A request that writes to no run leaves it as it is. -/
theorem views_same (heffects : request.Effects actor runId census next answer)
    (hcreate : ∀ idea now, request ≠ .createRun idea now) (hturn : request.turn = id)
    (hmark : ∀ stage, request.mark stage = id) :
    next.status runId = census.status runId ∧
      ∀ stage, next.row runId stage = census.row runId stage := by
  rcases heffects.views_or hcreate with hsame | ⟨hstatus, hrow⟩
  · exact hsame
  · rw [hturn, Option.map_id] at hstatus
    refine ⟨hstatus, fun stage => ?_⟩
    have hstage := hrow stage
    rwa [hmark, Option.map_id] at hstage

end Effects

end Request

namespace Census

variable {actor : Actor} {runId : RunId} {census next : Census} {request : Request}
  {answer : request.Answer}

theorem row_of_getRun {run : WorkflowRun} (hrun : census.stores.database.getRun runId = some run)
    (stage : StageName) : census.row runId stage = stageStatus run stage := by
  unfold row
  rw [hrun]
  rfl

theorem status_of_getRun {run : WorkflowRun} (hrun : census.stores.database.getRun runId = some run) :
    census.status runId = some run.status := congrArg (Option.map WorkflowRun.status) hrun

theorem Working.ne_completed (hworking : census.Working runId) :
    census.status runId ≠ some .completed := by
  obtain ⟨status, hmember, hstatus⟩ := hworking
  rw [hstatus]
  rintro ⟨⟩
  revert hmember
  decide

/-- Only an execution completes its run, and only after its stages. -/
theorem completed_of_demands {status : RunStatus} {currentStage : Option StageName}
    {error : Option String} (hactor : actor.runId = some runId)
    (hdemands : census.Demands (.updateRun status currentStage error) actor)
    (hstatus : status = .completed) (stage : StageName) :
    census.row runId stage = some .completed := by
  subst hstatus
  cases actor with
  | handler run => rcases hdemands with ⟨hpending, -⟩ | ⟨hcanceled, -⟩ <;> contradiction
  | execution run retryAttempt =>
      obtain rfl := Option.some.inj hactor
      exact hdemands.2.2 rfl stage
  | agent job spec => exact absurd hdemands.2.1 (by decide)
  | surroundings => cases hactor

/-- The stages of a completed run are not marked. -/
theorem ne_completed_of_demands {stage : StageName} {status : RunStatus} {error : Option String}
    (hactor : actor.runId = some runId)
    (hdemands : census.Demands (.updateStage stage status error) actor) :
    census.status runId ≠ some .completed := by
  cases actor with
  | handler run => exact hdemands.elim
  | execution run retryAttempt =>
      obtain rfl := Option.some.inj hactor
      exact hdemands.2
  | agent job spec =>
      obtain rfl := Option.some.inj hactor
      exact hdemands.2.2.ne_completed
  | surroundings => cases hactor

/-- What a statement presumes keeps the rows of the runs lawful. -/
theorem lawful_of_effects (hactor : actor.runId = some runId)
    (hdemands : census.Demands request actor)
    (heffects : request.Effects actor runId census next answer)
    (hlawful : census.stores.database.Lawful) : next.stores.database.Lawful := by
  rcases heffects.runs with hsame | hchanged | ⟨idea, now, -, hcreate⟩
  · exact hlawful.congr hsame
  · refine Database.Lawful.congr (hlawful.modifyRun request.change_runId fun run hrun hbefore => ?_)
      hchanged
    cases request with
    | updateRun status currentStage error =>
        refine ⟨hbefore.order, fun hcompleted stage => ?_⟩
        exact (row_of_getRun hrun stage).symm.trans
          (completed_of_demands hactor hdemands hcompleted stage)
    | updateStage stage status error =>
        refine ⟨(WorkflowRun.names_mark ..).trans hbefore.order, fun hcompleted => ?_⟩
        have hstatus := status_of_getRun hrun
        exact absurd (hstatus.trans (congrArg some hcompleted))
          (ne_completed_of_demands hactor hdemands)
    | _ => exact hbefore
  · exact hlawful.createRun hcreate

/-- A new execution leaves the others alive. -/
theorem Filed.live_launch (hfiled : census.Filed) {retryAttempt attempt : Nat} {run : RunId}
    (hlive : census.Live run attempt) : (census.launch runId retryAttempt).Live run attempt := by
  obtain ⟨task, stopping, hattempt⟩ := hlive
  refine ⟨task, stopping, ?_⟩
  have hother : task ≠ census.nextTask := by
    rintro rfl
    rw [hfiled.vacant _ le_rfl] at hattempt
    cases hattempt
  exact (Function.update_of_ne hother ..).trans hattempt

/-- Before a run exists it has no execution. -/
theorem Filed.idle_of_status (hfiled : census.Filed) (hnone : census.status runId = none) :
    census.Idle runId := by
  rintro task attempt hattempt rfl
  have hknown := hfiled.known task attempt hattempt
  rw [Database.hasRun, Option.map_eq_none_iff.mp hnone] at hknown
  cases hknown

/-- What a statement of the interface makes of its run. -/
theorem turns_of_handler (hfiled : census.Filed) {answer : request.Answer}
    (hdemands : census.Demands request (.handler runId))
    (heffects : request.Effects (.handler runId) runId census next answer) :
    census.Turns next (.handler runId) := by
  have hlive (run : RunId) (retryAttempt : Nat) (hlive : census.Live run retryAttempt) :
      next.Live run retryAttempt := by
    rcases heffects.executions with hpersists | ⟨attempt, -, rfl⟩
    · exact hpersists.live run retryAttempt hlive
    · exact hfiled.live_launch hlive
  have hsame (hcreate : ∀ idea now, request ≠ .createRun idea now) (hturn : request.turn = id)
      (hmark : ∀ stage, request.mark stage = id) : census.Turns next (.handler runId) := by
    obtain ⟨hstatus, hrows⟩ := heffects.views_same hcreate hturn hmark
    exact ⟨Or.inl hstatus, fun _ => hrows, hlive⟩
  cases request with
  | updateRun status currentStage error =>
      rcases heffects.views_or (fun _ _ => Request.noConfusion) with
        ⟨hstatus, hrows⟩ | ⟨hstatus, hrows⟩
      · exact ⟨Or.inl hstatus, fun _ => hrows, hlive⟩
      · refine ⟨Or.inr ?_, fun _ stage => (hrows stage).trans Option.map_id', hlive⟩
        rcases hdemands with ⟨rfl, hidle, hrestartable⟩ | ⟨rfl, hpending⟩
        · refine Or.inr ⟨hidle, Or.inr hrestartable, ?_⟩
          obtain ⟨before, -, hbefore⟩ := hrestartable
          rw [hstatus, hbefore]
          rfl
        · refine Or.inl ⟨hpending, ?_⟩
          rw [hstatus, hpending]
          rfl
  | updateStage stage status error => exact hdemands.elim
  | createRun idea now =>
      rcases heffects.runs with hruns | hruns | ⟨_, _, -, hcreate⟩
      · obtain ⟨hstatus, hrows⟩ := views_of_getRun (Database.getRun_congr hruns runId)
        exact ⟨Or.inl hstatus, fun _ => hrows, hlive⟩
      · obtain ⟨hstatus, hrows⟩ :=
          views_of_getRun (Database.getRun_congr (hruns.trans (modifyRun_id _)) runId)
        exact ⟨Or.inl hstatus, fun _ => hrows, hlive⟩
      · obtain ⟨hnone, -, -, hpending, -⟩ := Database.createRun_eq_ok hcreate
        have hstatus : census.status runId = none := congrArg _ hnone
        refine ⟨Or.inr (Or.inr ⟨hfiled.idle_of_status hstatus, Or.inl hstatus, hpending⟩),
          fun hsome => ?_, hlive⟩
        rw [hstatus] at hsome
        cases hsome
  | _ =>
      exact hsame (fun _ _ => Request.noConfusion) rfl fun _ => rfl

/-- What a statement of an execution makes of its run. -/
theorem turns_of_execution {retryAttempt : Nat} {answer : request.Answer}
    (hdemands : census.Demands request (.execution runId retryAttempt))
    (heffects : request.Effects actor runId census next answer) :
    census.Turns next (.execution runId retryAttempt) := by
  have hcreate (idea : String) (now : Nat) : request ≠ .createRun idea now := by
    rintro rfl
    exact Bool.noConfusion hdemands.1
  rcases heffects.views_or hcreate with ⟨hstatus, -⟩ | ⟨hstatus, -⟩
  · exact Or.inl hstatus
  · cases request with
    | updateRun status currentStage error =>
        rcases hdemands.2.1 with hopen | ⟨hcanceled, rfl⟩
        · exact Or.inr hopen
        · refine Or.inl ?_
          rw [hstatus, hcanceled]
          rfl
    | _ => exact Or.inl (hstatus.trans Option.map_id')

/-- What a statement of an agent makes of its run. -/
theorem turns_of_agent {job : StageJob} {spec : AgentSpec} {answer : request.Answer}
    (hdemands : census.Demands request (.agent job spec))
    (heffects : request.Effects actor job.run.runId census next answer) :
    census.Turns next (.agent job spec) := by
  have hcreate (idea : String) (now : Nat) : request ≠ .createRun idea now := by
    rintro rfl
    exact Bool.noConfusion hdemands.1
  rcases heffects.views_or hcreate with ⟨hstatus, hrows⟩ | ⟨hstatus, hrows⟩
  · exact ⟨Or.inl hstatus, fun stage _ => hrows stage, fun stage hsome => hrows stage ▸ hsome⟩
  · have hsome (stage : StageName) (hsome : (census.row job.run.runId stage).isSome) :
        (next.row job.run.runId stage).isSome := by
      rwa [hrows, Option.isSome_map]
    cases request with
    | updateRun status currentStage error =>
        obtain ⟨-, hmember, hworking⟩ := hdemands
        refine ⟨Or.inr ⟨hworking, status, hmember, ?_⟩, fun stage _ => ?_, hsome⟩
        · obtain ⟨before, -, hbefore⟩ := hworking
          rw [hstatus, hbefore]
          rfl
        · exact (hrows stage).trans Option.map_id'
    | updateStage marked status error =>
        obtain ⟨-, rfl, -⟩ := hdemands
        refine ⟨Or.inl (hstatus.trans Option.map_id'), fun stage hother => ?_, hsome⟩
        refine (hrows stage).trans ?_
        rw [show Request.mark (.updateStage job.stage status error) stage = id from
          funext fun before => if_neg hother, Option.map_id, id_eq]
    | _ =>
        exact ⟨Or.inl (hstatus.trans Option.map_id'),
          fun stage _ => (hrows stage).trans Option.map_id', hsome⟩

/-- A statement moves the run it is made for, and no other. -/
theorem moves_of_effects (hactor : actor.runId = some runId) (hfiled : census.Filed)
    (hdemands : census.Demands request actor)
    (heffects : request.Effects actor runId census next answer) : census.Moves actor next := by
  have hlaunches {retryAttempt : Nat} (hrequest : request = .createTask retryAttempt) :
      actor = .handler runId ∧ census.Idle runId ∧ census.status runId = some .pending := by
    subst hrequest
    cases actor with
    | handler run =>
        obtain rfl := Option.some.inj hactor
        exact ⟨rfl, hdemands⟩
    | execution run retryAttempt | agent job spec => exact Bool.noConfusion hdemands.1
    | surroundings => cases hactor
  refine ⟨?_, fun task attempt hattempt hcalm => ?_, fun other hother => ?_, ?_,
    lawful_of_effects hactor hdemands heffects⟩
  · refine heffects.executions.imp (·.toSettles) fun ⟨retryAttempt, hrequest, hnext⟩ => ?_
    obtain ⟨hhandler, hidle, hpending⟩ := hlaunches hrequest
    exact ⟨runId, retryAttempt, hhandler, hidle, hpending, hnext⟩
  · rcases heffects.executions with hpersists | ⟨retryAttempt, hrequest, rfl⟩
    · exact Or.inl (hpersists.calm task attempt hattempt hcalm)
    · obtain ⟨hhandler, hidle, -⟩ := hlaunches hrequest
      change Function.update census.executions census.nextTask _ task = some attempt at hattempt
      by_cases hnew : task = census.nextTask
      · rw [hnew, Function.update_self, Option.some.injEq] at hattempt
        rw [← hattempt]
        exact Or.inr (Or.inr ⟨hhandler, hidle⟩)
      · rw [Function.update_of_ne hnew] at hattempt
        exact Or.inl hattempt
  · exact heffects.others fun hsame => hother (hsame ▸ hactor)
  · cases actor with
    | handler run =>
        obtain rfl := Option.some.inj hactor
        exact turns_of_handler hfiled hdemands heffects
    | execution run retryAttempt =>
        obtain rfl := Option.some.inj hactor
        exact turns_of_execution hdemands heffects
    | agent job spec =>
        obtain rfl := Option.some.inj hactor
        exact turns_of_agent hdemands heffects
    | surroundings => trivial

end Census

end Aidlc
