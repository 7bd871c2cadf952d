import Aidlc.Storage.Events

/-! # Startup recovery

What `recover_interrupted_runs` leaves behind: every listed run that was under
way is blocked and has one more event. The listing is cut off at ten thousand
runs, so recovery is complete exactly where no unfinished run is older than
those.
-/

namespace Aidlc

open Foundation

/-- A process that died was working on the run. -/
def WorkflowRun.unfinished (run : WorkflowRun) : Bool :=
  run.status ∈ [RunStatus.pending, .running, .inputRequired]

/-- The row of an unfinished run after recovery. -/
def WorkflowRun.interrupted (run : WorkflowRun) : WorkflowRun :=
  if run.unfinished then
    { run with
      status := .blocked
      error := some Database.interruptedReason
      stages := run.stages.map fun record =>
        if some record.name = run.currentStage then
          { record with status := .blocked, error := some Database.interruptedReason }
        else record }
  else run

/-- The event of one interrupted run. -/
def interruptedEvent (eventId : Nat) (runId : RunId) : EventRecord :=
  ⟨eventId, runId, "run.interrupted", .obj [("reason", .str Database.interruptedReason)]⟩

/-- The events of the unfinished runs of a listing, numbered after `last`. -/
def interruptedEvents : Nat → List WorkflowRun → List EventRecord
  | _, [] => []
  | last, run :: rest =>
    if run.unfinished then
      interruptedEvent (last + 1) run.runId :: interruptedEvents (last + 1) rest
    else interruptedEvents last rest

/-- Recovery did its work: every unfinished run is blocked and has exactly one
new event, and nothing else changed. -/
structure Database.Recovered (database next : Database) : Prop where
  finished : ∀ run ∈ next.runs, run.unfinished = false
  runs : next.runs = database.runs.map WorkflowRun.interrupted
  events : ∃ appended, next.events = database.events ++ appended ∧
    (∀ event ∈ appended, ∃ run ∈ database.runs, run.unfinished = true ∧
      ∃ eventId, database.lastEventId < eventId ∧ event = interruptedEvent eventId run.runId) ∧
    ∀ run ∈ database.runs, run.unfinished = true →
      appended.countP (fun event => event.runId == run.runId) = 1
  artifacts : next.artifacts = database.artifacts
  delegatedTasks : next.delegatedTasks = database.delegatedTasks
  humanInteractions : next.humanInteractions = database.humanInteractions

namespace WorkflowRun

@[simp] theorem interrupted_runId (run : WorkflowRun) : run.interrupted.runId = run.runId := by
  unfold interrupted
  split <;> rfl

/-- An interrupted run is finished. -/
@[simp] theorem interrupted_unfinished (run : WorkflowRun) :
    run.interrupted.unfinished = false := by
  unfold interrupted
  split
  next => rfl
  next hfinished => simpa using hfinished

/-- A finished run is not interrupted again. -/
theorem interrupted_of_finished {run : WorkflowRun} (hfinished : run.unfinished = false) :
    run.interrupted = run := by
  simp [interrupted, hfinished]

end WorkflowRun

namespace Database

variable {database next : Database}

/-- The primary key of the table of runs. -/
def RunsKeyed (database : Database) : Prop := (database.runs.map WorkflowRun.runId).Nodup

theorem eq_of_runId (hkeyed : database.RunsKeyed) {first second : WorkflowRun}
    (hfirst : first ∈ database.runs) (hsecond : second ∈ database.runs)
    (hsame : first.runId = second.runId) : first = second :=
  List.inj_on_of_nodup_map hkeyed hfirst hsecond hsame

theorem hasRun_of_mem {run : WorkflowRun} (hrun : run ∈ database.runs) :
    database.hasRun run.runId = true := by
  rw [hasRun, getRun, List.find?_isSome]
  exact ⟨run, hrun, beq_self_eq_true _⟩

/-- The rows after one of the listed runs was blocked. -/
def withInterrupted (database : Database) (run : WorkflowRun) : Database :=
  { database with
    runs := database.runs.map fun other =>
      if other.runId = run.runId then other.interrupted else other }

/-- The database after the recovery of one of its runs. -/
def afterRecovery (database : Database) (run : WorkflowRun) : Database :=
  { database.withInterrupted run with
    events := database.events ++ interruptedEvents database.lastEventId [run]
    lastEventId := database.lastEventId + (interruptedEvents database.lastEventId [run]).length }

/-- Interrupting a finished run changes nothing. -/
theorem withInterrupted_of_finished (hkeyed : database.RunsKeyed) {run : WorkflowRun}
    (hrun : run ∈ database.runs) (hfinished : run.unfinished = false) :
    database.withInterrupted run = database := by
  have hkept : (database.runs.map fun other =>
      if other.runId = run.runId then other.interrupted else other) = database.runs := by
    refine (List.map_congr_left fun other hother => ?_).trans (List.map_id _)
    split
    next hid =>
      rw [eq_of_runId hkeyed hother hrun hid]
      exact WorkflowRun.interrupted_of_finished hfinished
    next => rfl
  rw [withInterrupted, hkept]

/-- The two updates of an unfinished run are one. -/
theorem marked_eq (hkeyed : database.RunsKeyed) {run : WorkflowRun} (hrun : run ∈ database.runs)
    (hunfinished : run.unfinished = true) {marked : Database}
    (hmarked : marked = match run.currentStage with
      | some stage => database.updateStage run.runId stage .blocked (some interruptedReason)
      | none => database) :
    marked.updateRun run.runId .blocked run.currentStage (some interruptedReason) =
      database.withInterrupted run := by
  cases hstage : run.currentStage with
  | none =>
      rw [hstage] at hmarked
      subst hmarked
      simp only [updateRun, modifyRun, withInterrupted, Database.mk.injEq, and_true]
      apply List.map_congr_left
      intro other hother
      split
      next hid =>
        obtain rfl := eq_of_runId hkeyed hother hrun hid
        simp [WorkflowRun.interrupted, hunfinished, hstage]
      next => rfl
  | some stage =>
      rw [hstage] at hmarked
      subst hmarked
      simp only [updateRun, updateStage, modifyRun, withInterrupted, List.map_map,
        Database.mk.injEq, and_true]
      apply List.map_congr_left
      intro other hother
      by_cases hid : other.runId = run.runId
      · obtain rfl := eq_of_runId hkeyed hother hrun hid
        simp [WorkflowRun.interrupted, hunfinished, hstage]
      · simp [hid]

theorem hasRun_withInterrupted {run : WorkflowRun} (hrun : run ∈ database.runs) :
    (database.withInterrupted run).hasRun run.runId = true := by
  have hmember : run.interrupted ∈ (database.withInterrupted run).runs :=
    List.mem_map.mpr ⟨run, hrun, if_pos rfl⟩
  rw [← run.interrupted_runId]
  exact hasRun_of_mem hmember

/-- Recovering a stored run never fails, and its effect is `afterRecovery`. -/
theorem recoverRun_eq (hkeyed : database.RunsKeyed) {run : WorkflowRun}
    (hrun : run ∈ database.runs) : database.recoverRun run = .ok (database.afterRecovery run) := by
  cases hunfinished : run.unfinished with
  | false =>
      rw [recoverRun, if_neg (by simpa [WorkflowRun.unfinished] using hunfinished), afterRecovery,
        withInterrupted_of_finished hkeyed hrun hunfinished]
      simp [interruptedEvents, hunfinished]
  | true =>
      rw [recoverRun, if_pos (by simpa [WorkflowRun.unfinished] using hunfinished)]
      refine (congrArg (fun marked : Database => marked.appendEvent run.runId "run.interrupted"
        [("reason", .str interruptedReason)]) (marked_eq hkeyed hrun hunfinished rfl)).trans ?_
      rw [appendEvent, if_pos (hasRun_withInterrupted hrun)]
      simp only [afterRecovery, interruptedEvents, hunfinished, if_true, List.length_singleton]
      rfl

/-- Recovery keeps the primary key. -/
theorem keyed_afterRecovery (hkeyed : database.RunsKeyed) (run : WorkflowRun) :
    (database.afterRecovery run).RunsKeyed := by
  have hids : (database.afterRecovery run).runs.map WorkflowRun.runId =
      database.runs.map WorkflowRun.runId := by
    simp only [afterRecovery, withInterrupted, List.map_map]
    apply List.map_congr_left
    intro other _
    by_cases hid : other.runId = run.runId <;> simp [hid]
  rw [RunsKeyed, hids]
  exact hkeyed

/-- The rows of the other runs stay. -/
theorem mem_afterRecovery {run other : WorkflowRun} (hother : other ∈ database.runs)
    (hne : other.runId ≠ run.runId) : other ∈ (database.afterRecovery run).runs :=
  List.mem_map.mpr ⟨other, hother, if_neg hne⟩

/-- The events of a longer recovery are numbered on from those of the shorter. -/
theorem interruptedEvents_append (last : Nat) (first second : List WorkflowRun) :
    interruptedEvents last (first ++ second) =
      interruptedEvents last first ++
        interruptedEvents (last + (interruptedEvents last first).length) second := by
  induction first generalizing last with
  | nil => rfl
  | cons run rest ih =>
      simp only [List.cons_append, interruptedEvents]
      split
      · rw [ih, List.cons_append, List.length_cons, Nat.add_right_comm, Nat.add_assoc]
      · exact ih last

/-- The loop over a listing of distinct runs. -/
theorem foldlM_recoverRun {listed : List WorkflowRun} (hkeyed : database.RunsKeyed)
    (hnodup : (listed.map WorkflowRun.runId).Nodup) (hlisted : ∀ run ∈ listed, run ∈ database.runs) :
    listed.foldlM recoverRun database = .ok { database with
      runs := database.runs.map fun run =>
        if run.runId ∈ listed.map WorkflowRun.runId then run.interrupted else run
      events := database.events ++ interruptedEvents database.lastEventId listed
      lastEventId := database.lastEventId +
        (interruptedEvents database.lastEventId listed).length } := by
  induction listed generalizing database with
  | nil => simp [interruptedEvents]; rfl
  | cons run rest ih =>
      obtain ⟨hfresh, hrest⟩ := List.nodup_cons.mp hnodup
      have hmembers : ∀ other ∈ rest, other ∈ (database.afterRecovery run).runs := by
        intro other hother
        apply mem_afterRecovery (hlisted other (List.mem_cons_of_mem _ hother))
        intro hsame
        exact hfresh (hsame ▸ List.mem_map_of_mem hother)
      have hstep := recoverRun_eq hkeyed (hlisted run List.mem_cons_self)
      have hloop := ih (keyed_afterRecovery hkeyed run) hrest hmembers
      have hevents := interruptedEvents_append database.lastEventId [run] rest
      rw [List.foldlM_cons, hstep]
      refine hloop.trans ?_
      rw [List.singleton_append] at hevents
      rw [hevents]
      simp only [afterRecovery, withInterrupted, List.map_map, List.length_append,
        List.append_assoc, Nat.add_assoc, Except.ok.injEq, Database.mk.injEq, and_true]
      apply List.map_congr_left
      intro other _
      by_cases hid : other.runId = run.runId
      · have hout : run.runId ∉ rest.map WorkflowRun.runId := hfresh
        simp only [Function.comp_apply, hid, if_true, WorkflowRun.interrupted_runId, hout,
          if_false, List.map_cons, List.mem_cons, true_or]
      · simp [hid]

/-- Recovering finished runs changes nothing. -/
theorem foldlM_finished {listed : List WorkflowRun}
    (hfinished : ∀ run ∈ listed, run.unfinished = false) :
    listed.foldlM recoverRun database = .ok database := by
  induction listed with
  | nil => rfl
  | cons run rest ih =>
      have hrun := hfinished run List.mem_cons_self
      rw [List.foldlM_cons, recoverRun, if_neg (by simpa [WorkflowRun.unfinished] using hrun)]
      exact ih fun other hother => hfinished other (List.mem_cons_of_mem _ hother)

/-- What every round of recovery keeps, the loop keeps. -/
theorem foldlM_invariant {invariant : Database → Prop}
    (hround : ∀ database run next, invariant database → recoverRun database run = .ok next →
      invariant next)
    {listed : List WorkflowRun} {next : Database} (hdatabase : invariant database)
    (hnext : listed.foldlM recoverRun database = .ok next) : invariant next := by
  induction listed generalizing database with
  | nil =>
      cases hnext
      exact hdatabase
  | cons run rest ih =>
      rw [List.foldlM_cons] at hnext
      cases hmiddle : recoverRun database run with
      | error error =>
          rw [hmiddle] at hnext
          cases hnext
      | ok middle =>
          rw [hmiddle] at hnext
          exact ih (hround database run middle hdatabase hmiddle) hnext

theorem artifacts_recoverRun {run : WorkflowRun} {next : Database}
    (hnext : recoverRun database run = .ok next) : next.artifacts = database.artifacts := by
  unfold recoverRun at hnext
  split at hnext
  next =>
    obtain ⟨-, rfl⟩ := appendEvent_eq_ok.mp hnext
    cases run.currentStage <;> rfl
  next =>
    cases hnext
    rfl

theorem artifacts_foldlM {listed : List WorkflowRun} {next : Database}
    (hnext : listed.foldlM recoverRun database = .ok next) : next.artifacts = database.artifacts :=
  @foldlM_invariant database (fun current => current.artifacts = database.artifacts)
    (fun _ _ _ hsame hround => (artifacts_recoverRun hround).trans hsame) listed next rfl hnext

/-- A status update lets the database grow. -/
theorem grows_updateRun (runId : RunId) (status : RunStatus) (currentStage : Option StageName)
    (error : Option String) : database.Grows (database.updateRun runId status currentStage error) :=
  have hwrites : database.Writes runId (database.updateRun runId status currentStage error) :=
    writes_modifyRun fun _ => rfl
  hwrites.grows

theorem grows_updateStage (runId : RunId) (stage : StageName) (status : RunStatus)
    (error : Option String) : database.Grows (database.updateStage runId stage status error) :=
  have hwrites : database.Writes runId (database.updateStage runId stage status error) :=
    writes_modifyRun fun _ => rfl
  hwrites.grows

theorem grows_recoverRun {run : WorkflowRun} {next : Database}
    (hnext : recoverRun database run = .ok next) : database.Grows next := by
  unfold recoverRun at hnext
  split at hnext
  next =>
    refine Grows.trans ?_ ((grows_updateRun _ _ _ _).trans (writes_appendEvent hnext).grows)
    split
    next => exact grows_updateStage _ _ _ _
    next => exact .refl _
  next =>
    cases hnext
    exact .refl _

theorem grows_foldlM {listed : List WorkflowRun} {next : Database}
    (hnext : listed.foldlM recoverRun database = .ok next) : database.Grows next :=
  @foldlM_invariant database (Grows database)
    (fun _ _ _ hgrown hround => hgrown.trans (grows_recoverRun hround)) listed next (.refl _) hnext

/-- Every event of the recovery is about an unfinished run it listed. -/
theorem mem_interruptedEvents {last : Nat} {listed : List WorkflowRun} {event : EventRecord}
    (hevent : event ∈ interruptedEvents last listed) :
    ∃ run ∈ listed, run.unfinished = true ∧
      ∃ eventId, last < eventId ∧ event = interruptedEvent eventId run.runId := by
  induction listed generalizing last with
  | nil => simp [interruptedEvents] at hevent
  | cons run rest ih =>
      rw [interruptedEvents] at hevent
      split at hevent
      next hunfinished =>
        rcases List.mem_cons.mp hevent with rfl | hrest
        · exact ⟨run, List.mem_cons_self, hunfinished, last + 1, by omega, rfl⟩
        · obtain ⟨other, hother, hlost, eventId, hlater, rfl⟩ := ih hrest
          exact ⟨other, List.mem_cons_of_mem _ hother, hlost, eventId, by omega, rfl⟩
      next =>
        obtain ⟨other, hother, hfound⟩ := ih hevent
        exact ⟨other, List.mem_cons_of_mem _ hother, hfound⟩

/-- A run that was not listed gets no event. -/
theorem countP_interruptedEvents_absent {last : Nat} {listed : List WorkflowRun} {runId : RunId}
    (habsent : runId ∉ listed.map WorkflowRun.runId) :
    (interruptedEvents last listed).countP (fun event => event.runId == runId) = 0 := by
  rw [List.countP_eq_zero]
  intro event hevent hsame
  obtain ⟨run, hrun, -, eventId, -, rfl⟩ := mem_interruptedEvents hevent
  apply habsent
  rw [← beq_iff_eq.mp hsame]
  exact List.mem_map_of_mem hrun

/-- An unfinished run that was listed gets exactly one event. -/
theorem countP_interruptedEvents {last : Nat} {listed : List WorkflowRun} {run : WorkflowRun}
    (hnodup : (listed.map WorkflowRun.runId).Nodup) (hrun : run ∈ listed)
    (hunfinished : run.unfinished = true) :
    (interruptedEvents last listed).countP (fun event => event.runId == run.runId) = 1 := by
  induction listed generalizing last with
  | nil => cases hrun
  | cons first rest ih =>
      obtain ⟨hfresh, hrest⟩ := List.nodup_cons.mp hnodup
      rw [interruptedEvents]
      rcases List.mem_cons.mp hrun with rfl | hlater
      · rw [if_pos hunfinished, List.countP_cons, countP_interruptedEvents_absent hfresh]
        simp [interruptedEvent]
      · have hne : (first.runId == run.runId) = false := by
          rw [beq_eq_false_iff_ne]
          intro hsame
          exact hfresh (hsame ▸ List.mem_map_of_mem hlater)
        split
        · rw [List.countP_cons, ih hrest hlater]
          simp [interruptedEvent, hne]
        · exact ih hrest hlater

theorem mem_of_listRuns {limit : Nat} {run : WorkflowRun} (hrun : run ∈ database.listRuns limit) :
    run ∈ database.runs :=
  (List.perm_insertionSort _ _).mem_iff.mp (List.mem_of_mem_take hrun)

/-- No run is listed twice. -/
theorem listRuns_nodup (hkeyed : database.RunsKeyed) (limit : Nat) :
    ((database.listRuns limit).map WorkflowRun.runId).Nodup := by
  have hsorted := (List.perm_insertionSort
    (fun first second : WorkflowRun => second.createdAt ≤ first.createdAt) database.runs)
  have hall := (hsorted.map WorkflowRun.runId).nodup_iff.mpr hkeyed
  exact hall.sublist ((List.take_sublist _ _).map _)

/-- The database that startup recovery leaves behind. -/
theorem recoverInterruptedRuns_eq (hkeyed : database.RunsKeyed) :
    database.recoverInterruptedRuns = .ok { database with
      runs := database.runs.map fun run =>
        if run.runId ∈ (database.listRuns 10000).map WorkflowRun.runId then run.interrupted else run
      events := database.events ++
        interruptedEvents database.lastEventId (database.listRuns 10000)
      lastEventId := database.lastEventId +
        (interruptedEvents database.lastEventId (database.listRuns 10000)).length } :=
  foldlM_recoverRun hkeyed (listRuns_nodup hkeyed _) fun _ hrun => mem_of_listRuns hrun

theorem listed_of_runId (hkeyed : database.RunsKeyed) {run : WorkflowRun} {limit : Nat}
    (hrun : run ∈ database.runs)
    (hid : run.runId ∈ (database.listRuns limit).map WorkflowRun.runId) :
    run ∈ database.listRuns limit := by
  obtain ⟨listed, hlisted, hsame⟩ := List.mem_map.mp hid
  rwa [← eq_of_runId hkeyed (mem_of_listRuns hlisted) hrun hsame]

/-- An unfinished run that is not listed stays unfinished. -/
theorem unfinished_of_unlisted (hkeyed : database.RunsKeyed) {run : WorkflowRun}
    (hrun : run ∈ database.runs) (hunlisted : run ∉ database.listRuns 10000)
    (hnext : database.recoverInterruptedRuns = .ok next) : run ∈ next.runs := by
  rw [recoverInterruptedRuns_eq hkeyed, Except.ok.injEq] at hnext
  subst hnext
  refine List.mem_map.mpr ⟨run, hrun, if_neg fun hid => ?_⟩
  exact hunlisted (listed_of_runId hkeyed hrun hid)

/-- Where every unfinished run is listed, none is missed. -/
theorem recovered_of_listed (hkeyed : database.RunsKeyed)
    (hlisted : ∀ run ∈ database.runs, run.unfinished = true → run ∈ database.listRuns 10000)
    (hnext : database.recoverInterruptedRuns = .ok next) : database.Recovered next := by
  rw [recoverInterruptedRuns_eq hkeyed, Except.ok.injEq] at hnext
  subst hnext
  have hruns : (database.runs.map fun run =>
      if run.runId ∈ (database.listRuns 10000).map WorkflowRun.runId then run.interrupted
      else run) = database.runs.map WorkflowRun.interrupted := by
    apply List.map_congr_left
    intro run hrun
    split
    next => rfl
    next hunlisted =>
      cases hunfinished : run.unfinished with
      | false => exact (WorkflowRun.interrupted_of_finished hunfinished).symm
      | true => exact absurd (List.mem_map_of_mem (hlisted run hrun hunfinished)) hunlisted
  refine ⟨?_, hruns, ⟨_, rfl, ?_, ?_⟩, rfl, rfl, rfl⟩
  · intro run hrun
    obtain ⟨stored, -, rfl⟩ := List.mem_map.mp (hruns ▸ hrun)
    exact stored.interrupted_unfinished
  · intro event hevent
    obtain ⟨run, hrun, hfound⟩ := mem_interruptedEvents hevent
    exact ⟨run, mem_of_listRuns hrun, hfound⟩
  · intro run hrun hunfinished
    exact countP_interruptedEvents (listRuns_nodup hkeyed _) (hlisted run hrun hunfinished)
      hunfinished

/-- A listing that is cut off misses the oldest run. -/
theorem oldest_unlisted (hkeyed : database.RunsKeyed) {run : WorkflowRun} {limit : Nat}
    (hlength : limit < database.runs.length)
    (holdest : ∀ other ∈ database.runs, other ≠ run → run.createdAt < other.createdAt) :
    run ∉ database.listRuns limit := by
  intro hlisted
  let sorted := database.runs.insertionSort fun first second => second.createdAt ≤ first.createdAt
  have hperm : sorted.Perm database.runs := List.perm_insertionSort _ _
  have hsplit : sorted.take limit ++ sorted.drop limit = sorted := List.take_append_drop _ _
  have hnodup : (sorted.take limit ++ sorted.drop limit).Nodup := by
    rw [hsplit, hperm.nodup_iff]
    exact hkeyed.of_map
  have hsorted : (sorted.take limit ++ sorted.drop limit).Pairwise
      fun first second => second.createdAt ≤ first.createdAt := by
    rw [hsplit]
    exact List.pairwise_insertionSort _ _
  have hrest : sorted.drop limit ≠ [] := by
    intro hnil
    have hlength' := List.drop_eq_nil_iff.mp hnil
    rw [hperm.length_eq] at hlength'
    omega
  obtain ⟨last, hlast⟩ := List.exists_mem_of_ne_nil _ hrest
  have holder := (List.pairwise_append.mp hsorted).2.2 run hlisted last hlast
  by_cases hsame : last = run
  · exact (List.nodup_append.mp hnodup).2.2 run hlisted last hlast hsame.symm
  · have hnewer := holdest last (hperm.mem_iff.mp (List.mem_of_mem_drop hlast)) hsame
    omega

end Database

open Database in
/-- Recovery is complete, and repeating it changes nothing, exactly where the
listing holds every unfinished run. -/
theorem recovery_complete_iff {database : Database} (hkeyed : database.RunsKeyed) :
    (∃ next, database.recoverInterruptedRuns = .ok next ∧ database.Recovered next ∧
        next.recoverInterruptedRuns = .ok next) ↔
      ∀ run ∈ database.runs, run.unfinished = true → run ∈ database.listRuns 10000 := by
  constructor
  · rintro ⟨next, hnext, hrecovered, -⟩ run hrun hunfinished
    by_contra hunlisted
    have hkept := unfinished_of_unlisted hkeyed hrun hunlisted hnext
    rw [hrecovered.finished run hkept] at hunfinished
    cases hunfinished
  · intro hlisted
    have hnext := recoverInterruptedRuns_eq hkeyed
    have hrecovered := recovered_of_listed hkeyed hlisted hnext
    refine ⟨_, hnext, hrecovered, foldlM_finished ?_⟩
    intro run hrun
    exact hrecovered.finished run (mem_of_listRuns hrun)

/-- A run that waits for its person, next to one that is complete. -/
def sampleWaiting : Database :=
  { Database.empty with
    runs :=
      [⟨"run_waiting", "Build a task list", .inputRequired, some .intake, 0, none,
          stageOrder.map StageRecord.initial⟩,
        ⟨"run_done", "Build a clock", .completed, some .release, 1, none,
          stageOrder.map StageRecord.initial⟩] }

theorem recovery_complete_iff_waiting : sampleWaiting.RunsKeyed ∧
    ((∃ next, sampleWaiting.recoverInterruptedRuns = .ok next ∧ sampleWaiting.Recovered next ∧
        next.recoverInterruptedRuns = .ok next) ↔
      ∀ run ∈ sampleWaiting.runs, run.unfinished = true → run ∈ sampleWaiting.listRuns 10000) :=
  have hkeyed : sampleWaiting.RunsKeyed := by
    unfold Database.RunsKeyed
    decide
  ⟨hkeyed, recovery_complete_iff hkeyed⟩

/-- The run of a busy hub with this number. -/
def crowdRun (number : Nat) : WorkflowRun where
  runId := String.ofList (List.replicate number 'a')
  idea := "Build a task list"
  status := if number = 0 then .inputRequired else .completed
  currentStage := some (if number = 0 then .intake else .release)
  createdAt := number
  error := none
  stages := stageOrder.map StageRecord.initial

/-- The oldest of ten thousand and one runs still waits for its person. -/
def sampleCrowd : Database := { Database.empty with runs := (List.range 10001).map crowdRun }

theorem sampleCrowd_keyed : sampleCrowd.RunsKeyed := by
  rw [Database.RunsKeyed, sampleCrowd, List.map_map]
  apply List.Nodup.map _ List.nodup_range
  intro first second hsame
  have hlists := String.ofList_injective hsame
  simpa using congrArg List.length hlists

theorem sampleCrowd_length : sampleCrowd.runs.length = 10001 := by
  simp only [sampleCrowd, List.length_map, List.length_range]

open Database in
theorem recovery_misses_run :
    ¬ ∃ next, sampleCrowd.recoverInterruptedRuns = .ok next ∧ sampleCrowd.Recovered next ∧
      next.recoverInterruptedRuns = .ok next := by
  rintro ⟨next, hnext, hrecovered, -⟩
  have hruns : sampleCrowd.runs = (List.range 10001).map crowdRun := by
    rw [sampleCrowd]
  have hmember : crowdRun 0 ∈ sampleCrowd.runs := by
    rw [hruns]
    exact List.mem_map_of_mem (List.mem_range.mpr (Nat.succ_pos _))
  have hunlisted : crowdRun 0 ∉ sampleCrowd.listRuns 10000 := by
    have hlength : 10000 < sampleCrowd.runs.length := by
      rw [sampleCrowd_length]
      exact Nat.lt_succ_self _
    refine oldest_unlisted sampleCrowd_keyed hlength fun other hother hne => ?_
    rw [hruns] at hother
    obtain ⟨number, -, rfl⟩ := List.mem_map.mp hother
    apply Nat.pos_of_ne_zero
    rintro rfl
    exact hne rfl
  have hkept := unfinished_of_unlisted sampleCrowd_keyed hmember hunlisted hnext
  have hfinished := hrecovered.finished _ hkept
  exact absurd hfinished (by decide)

end Aidlc
