import Aidlc.Orchestration.Course
import Aidlc.Orchestration.Progress

/-! # Programs that advance a run

The programs of the hub keep to the regime of progress. An execution knows which of the
stages of its run are completed, whatever its agents do meanwhile; agents mark only the
stage they work for; a call of the interface leaves a run to its execution, or starts it
where there is none.
-/

namespace Aidlc

open Foundation

namespace Census

variable {census next : Census} {runId : RunId}

theorem Working.open (hworking : census.Working runId) : census.Open runId := by
  obtain ⟨status, hmember, hstatus⟩ := hworking
  refine ⟨status, hstatus, ?_⟩
  revert hmember
  cases status <;> decide

theorem Working.congr (hworking : census.Working runId)
    (hsame : next.status runId = census.status runId) : next.Working runId := by
  unfold Working
  rw [hsame]
  exact hworking

/-- A cancellation changes the status only before the run is executed. -/
theorem Working.ne_pending (hworking : census.Working runId) :
    census.status runId ≠ some .pending := by
  obtain ⟨status, hmember, hstatus⟩ := hworking
  rw [hstatus]
  rintro ⟨⟩
  revert hmember
  decide

/-- A run that has a status exists. -/
theorem hasRun_of_status {status : RunStatus} (hstatus : census.status runId = some status) :
    census.stores.database.hasRun runId = true := by
  obtain ⟨run, hrun, -⟩ := Option.map_eq_some_iff.mp hstatus
  rw [Database.hasRun, hrun]
  rfl

/-- An execution goes on. -/
theorem Persists.busy (hpersists : census.Persists next) (hbusy : ¬census.Idle runId) :
    ¬next.Idle runId := by
  refine fun hidle => hbusy fun task attempt hattempt hrun => ?_
  obtain ⟨other, stopping, hother⟩ :=
    hpersists.live attempt.runId attempt.retryAttempt ⟨task, attempt.stopping, hattempt⟩
  exact hidle other _ hother hrun

theorem Open.congr (hopen : census.Open runId) (hsame : next.status runId = census.status runId) :
    next.Open runId := by
  unfold Open
  rw [hsame]
  exact hopen

end Census

namespace Workflow

open Census

section Statements

variable {actor : Actor} {runId : RunId} {pre : Census → Prop}

/-- A statement in a program that keeps to the regime. -/
theorem advances_stored {request : Request} {post : request.Value → Census → Prop}
    {failed : Raised → Census → Prop} (hactor : actor.runId = some runId)
    (hsuspends : request.suspends = false)
    (hdemands : ∀ census, pre census → census.Demands request actor)
    (hpost : ∀ census next value, pre census → census.Filed →
      request.Effects actor runId census next (.ok value) → post value next)
    (hfailed : ∀ census next raised, pre census → census.Filed →
      request.Effects actor runId census next (.error raised) → failed raised next) :
    (ask request).Leads (progress.protocol actor) pre post failed := by
  refine fun census hpre => .ask (hdemands census hpre) fun drifted hdrift answer next hserved => ?_
  obtain rfl : drifted = census := hdrift.1 hsuspends
  cases hserved with
  | @stored run _ hrun _ hfiled heffects =>
      obtain rfl : run = runId := Option.some.inj (hrun.symm.trans hactor)
      refine ⟨moves_of_effects hactor hfiled (hdemands drifted hpre) heffects, ?_⟩
      cases answer with
      | ok value => exact hpost drifted next value hpre hfiled heffects
      | error raised => exact hfailed drifted next raised hpre hfiled heffects
  | waited hwaits =>
      rw [hsuspends] at hwaits
      cases hwaits
  | refused hwaits =>
      rw [hsuspends] at hwaits
      cases hwaits

end Statements

/-! ## Executions -/

section Executions

variable {runId : RunId} {retryAttempt : Nat} {census drifted next : Census} {request : Request}

theorem moves_refl (actor : Actor) (census : Census) : census.Moves actor census := by
  refine ⟨Or.inl (Spares.refl census).toSettles, fun _ _ hattempt _ => Or.inl hattempt,
    fun _ _ => rfl, ?_, id⟩
  cases actor with
  | handler run => exact ⟨Or.inl rfl, fun _ _ => rfl, fun _ _ hlive => hlive⟩
  | execution run attempt => exact Or.inl rfl
  | agent job spec => exact ⟨Or.inl rfl, fun _ _ => rfl, fun _ hsome => hsome⟩
  | surroundings => trivial

/-- The cancellation of an execution is thrown. -/
theorem moves_calm {task : Nat} {stopping : Bool}
    (hstopping : census.executions task = some ⟨runId, retryAttempt, stopping⟩) :
    census.Moves (.execution runId retryAttempt) (census.calm task) := by
  refine ⟨Or.inl (settles_calm task), fun other attempt hattempt _ => ?_, fun _ _ => rfl,
    Or.inl rfl, id⟩
  by_cases hother : other = task
  · subst hother
    change Function.update census.executions other _ other = some attempt at hattempt
    rw [Function.update_self, hstopping, Option.map_some, Option.some.injEq] at hattempt
    exact Or.inr (Or.inl ⟨retryAttempt, congrArg (Actor.execution · retryAttempt)
      (congrArg Attempt.runId hattempt)⟩)
  · exact Or.inl ((Function.update_of_ne hother ..).symm.trans hattempt)

theorem demands_of_publishes (hpublishes : request.publishes = true) :
    census.Demands request (.execution runId retryAttempt) := by
  cases request <;> first | exact ⟨rfl, trivial⟩ | cases hpublishes

/-- What an execution that waits has to expect, unless it waits for its agents. -/
theorem suffers_of_publishes (hpublishes : request.publishes = true)
    (hsuffers : census.Suffers request next (.execution runId retryAttempt)) :
    (next.Calm runId retryAttempt →
      census.Calm runId retryAttempt ∧ next.status runId = census.status runId) ∧
      (next.status runId = census.status runId ∨
        census.status runId = some .pending ∧ next.status runId = some .canceled) ∧
        ∀ stage, next.row runId stage = census.row runId stage := by
  cases request <;> first | exact hsuffers | cases hpublishes

theorem views_of_publishes (hpublishes : request.publishes = true) {actor : Actor}
    {answer : request.Answer} (heffects : request.Effects actor runId census next answer) :
    next.status runId = census.status runId ∧
      ∀ stage, next.row runId stage = census.row runId stage := by
  cases request <;>
    first
    | exact heffects.views_same (fun _ _ => Request.noConfusion) rfl fun _ => rfl
    | cases hpublishes

/-- Reading, telling and publishing leaves the run of an execution as it is; only its
cancellation may have changed the status meanwhile. -/
theorem stands_of_served (hpublishes : request.publishes = true) {answer : request.Answer}
    (hdrift : (progress.protocol (.execution runId retryAttempt)).drifts request census drifted)
    (hserved : drifted.Served (.execution runId retryAttempt) request answer next) :
    drifted.Moves (.execution runId retryAttempt) next ∧
      (∀ stage, next.row runId stage = census.row runId stage) ∧
        (next.status runId = census.status runId ∨ census.status runId = some .pending ∧
          next.status runId = some .canceled ∧ answer = .error .cancelled) := by
  obtain ⟨hcalm, hstatus, hrows⟩ := suffers_of_publishes hpublishes hdrift.2
  cases hserved with
  | stored hactor hsuspends hfiled heffects =>
      obtain rfl := Option.some.inj hactor
      obtain rfl := hdrift.1 hsuspends
      obtain ⟨hsame, hstages⟩ := views_of_publishes hpublishes heffects
      exact ⟨moves_of_effects rfl hfiled (demands_of_publishes hpublishes) heffects, hstages,
        Or.inl hsame⟩
  | waited hsuspends hcalmed =>
      exact ⟨moves_refl _ _, hrows, Or.inl (hcalm (hcalmed runId retryAttempt rfl)).2⟩
  | refused hsuspends hactor hstopping hanswer =>
      obtain ⟨rfl, rfl⟩ := Actor.execution.inj hactor
      exact ⟨moves_calm hstopping, hrows,
        hstatus.imp_right fun hstatus => ⟨hstatus.1, hstatus.2, hanswer⟩⟩

/-- Every stage of the run has a status, and this is known of it. -/
def Rows (runId : RunId) (known : StageName → RunStatus → Prop) (census : Census) : Prop :=
  ∀ stage, ∃ status, census.row runId stage = some status ∧ known stage status

theorem Rows.congr {known : StageName → RunStatus → Prop} (hrows : Rows runId known census)
    (hsame : ∀ stage, next.row runId stage = census.row runId stage) : Rows runId known next := by
  intro stage
  rw [hsame stage]
  exact hrows stage

/-- The run is executed, and this is known of its stages. -/
structure Marks (runId : RunId) (known : StageName → RunStatus → Prop) (census : Census) :
    Prop where
  working : census.Working runId
  rows : Rows runId known census

/-- The execution of the run begins. -/
structure Begun (runId : RunId) (known : StageName → RunStatus → Prop) (census : Census) :
    Prop where
  pending : census.status runId = some .pending
  rows : Rows runId known census

/-- An execution was stopped by the error: its run is not over, unless it was canceled
before it ran. -/
def Stopped (runId : RunId) (raised : Raised) (census : Census) : Prop :=
  census.Open runId ∨ raised = .cancelled ∧ census.status runId = some .canceled

theorem Marks.mono {known later : StageName → RunStatus → Prop} (hmarks : Marks runId known census)
    (hlater : ∀ stage status, known stage status → later stage status) :
    Marks runId later census :=
  ⟨hmarks.working, fun stage =>
    (hmarks.rows stage).imp fun status hrow => ⟨hrow.1, hlater stage status hrow.2⟩⟩

theorem keeps_marks {known : StageName → RunStatus → Prop} {α : Type} {program : Routine α}
    (hpublishing : Publishing program) :
    program.Keeps (progress.protocol (.execution runId retryAttempt)) (Marks runId known) := by
  refine hpublishing.keeps (fun request hpublishes census _ => demands_of_publishes hpublishes)
    fun request hpublishes census drifted hmarks hdrift answer next hserved => ?_
  obtain ⟨hmoves, hrows, hstatus⟩ := stands_of_served hpublishes hdrift hserved
  refine ⟨hmoves, ?_, hmarks.rows.congr hrows⟩
  rcases hstatus with hsame | ⟨hpending, -⟩
  · exact hmarks.working.congr hsame
  · exact absurd hpending hmarks.working.ne_pending

theorem steady_marks (known : StageName → RunStatus → Prop) :
    Steady (progress.protocol (.execution runId retryAttempt)) (Stopped runId) (Marks runId known) :=
  ⟨fun _ _ hmarks => Or.inl hmarks.working.open, fun _ => keeps_marks⟩

/-- Before it marked its run an execution may find it canceled. -/
theorem advances_begun {known : StageName → RunStatus → Prop} (hpublishes : request.publishes = true) :
    (ask request).Leads (progress.protocol (.execution runId retryAttempt)) (Begun runId known)
      (fun _ => Begun runId known) (Stopped runId) := by
  refine fun census hbegun => .ask (demands_of_publishes hpublishes)
    fun drifted hdrift answer next hserved => ?_
  obtain ⟨hmoves, hrows, hstatus⟩ := stands_of_served hpublishes hdrift hserved
  refine ⟨hmoves, ?_⟩
  have hopen : census.Open runId := ⟨_, hbegun.pending, by decide⟩
  rcases hstatus with hsame | ⟨-, hcanceled, rfl⟩
  · cases answer with
    | ok value => exact ⟨hsame.trans hbegun.pending, hbegun.rows.congr hrows⟩
    | error raised => exact Or.inl (hopen.congr hsame)
  · exact Or.inr ⟨rfl, hcanceled⟩

/-- The run is marked as running. -/
theorem advances_run {known : StageName → RunStatus → Prop} (currentStage : Option StageName) :
    (ask (.updateRun .running currentStage none)).Leads
      (progress.protocol (.execution runId retryAttempt))
      (fun census => census.Open runId ∧ Rows runId known census) (fun _ => Marks runId known)
      (Stopped runId) := by
  have hworking {census next : Census} (hopen : census.Open runId)
      (hstatus : next.status runId = (census.status runId).map fun _ => .running) :
      next.Working runId := by
    obtain ⟨before, hbefore, -⟩ := hopen
    rw [hbefore] at hstatus
    exact ⟨.running, List.mem_cons_self .., hstatus⟩
  refine advances_stored rfl rfl (fun census hpre => ⟨rfl, Or.inl hpre.1, fun heq => by cases heq⟩)
    (fun census next value hpre _ heffects => ?_) fun census next raised hpre _ heffects => ?_
  · obtain ⟨hstatus, hrows⟩ := heffects.views rfl fun _ _ => Request.noConfusion
    exact ⟨hworking hpre.1 hstatus, hpre.2.congr fun stage => (hrows stage).trans Option.map_id'⟩
  · rcases heffects.views_or fun _ _ => Request.noConfusion with ⟨hstatus, -⟩ | ⟨hstatus, -⟩
    · exact Or.inl (hpre.1.congr hstatus)
    · exact Or.inl (hworking hpre.1 hstatus).open

/-- A stage of the run is marked. -/
theorem advances_stage {known : StageName → RunStatus → Prop} (stage : StageName) (status : RunStatus)
    (error : Option String) :
    (ask (.updateStage stage status error)).Leads
      (progress.protocol (.execution runId retryAttempt)) (Marks runId known)
      (fun _ => Marks runId fun other current =>
        (other = stage → current = status) ∧ (other ≠ stage → known other current))
      (Stopped runId) := by
  refine advances_stored rfl rfl (fun census hmarks => ⟨rfl, hmarks.working.ne_completed⟩)
    (fun census next value hmarks _ heffects => ?_) fun census next raised hmarks _ heffects => ?_
  · obtain ⟨hstatus, hrows⟩ := heffects.views rfl fun _ _ => Request.noConfusion
    refine ⟨hmarks.working.congr (hstatus.trans Option.map_id'), fun other => ?_⟩
    obtain ⟨before, hbefore, hknown⟩ := hmarks.rows other
    have hrow := hrows other
    rw [hbefore] at hrow
    refine ⟨_, hrow, fun hsame => if_pos hsame, fun hother => ?_⟩
    rw [show Request.mark (.updateStage stage status error) other before = before from
      if_neg hother]
    exact hknown
  · refine Or.inl (hmarks.working.open.congr ?_)
    rcases heffects.views_or fun _ _ => Request.noConfusion with ⟨hstatus, -⟩ | ⟨hstatus, -⟩
    · exact hstatus
    · exact hstatus.trans Option.map_id'

theorem advances_stageStarted {known : StageName → RunStatus → Prop} (stage : StageName) :
    (stageStarted stage).Leads (progress.protocol (.execution runId retryAttempt))
      (Marks runId known)
      (fun _ => Marks runId fun other current => other ≠ stage → known other current)
      (Stopped runId) := by
  refine .bind ((advances_stage stage .running none).mono (fun _ => id) (fun _ census hmarks => ?_)
    fun _ _ => id) fun _ => (steady_marks _).leads (incidental_event _ _).publishing
  exact hmarks.mono fun _ _ hknown => hknown.2

theorem advances_stageCompleted {known : StageName → RunStatus → Prop} (stage : StageName) :
    (stageCompleted stage).Leads (progress.protocol (.execution runId retryAttempt))
      (Marks runId known)
      (fun _ => Marks runId fun other current =>
        (other = stage → current = .completed) ∧ (other ≠ stage → known other current))
      (Stopped runId) :=
  .bind (advances_stage stage .completed none) fun _ =>
    (steady_marks _).leads (incidental_event _ _).publishing

/-- The agents of a stage mark no other. -/
theorem advances_runAgents {known : StageName → RunStatus → Prop} {job : StageJob}
    (hrun : job.run.runId = runId) (hretry : job.retryAttempt = retryAttempt) :
    (ask (.runAgents job)).Leads (progress.protocol (.execution runId retryAttempt))
      (Marks runId fun other current => other ≠ job.stage → known other current)
      (fun _ => Marks runId fun other current => other ≠ job.stage → known other current)
      (Stopped runId) := by
  refine fun census hmarks => .ask ⟨rfl, hrun, hretry, hmarks.working⟩
    fun drifted hdrift answer next hserved => ?_
  obtain ⟨hworking, hothers, hown⟩ := hdrift.2
  have hdrifted : Marks runId (fun other current => other ≠ job.stage → known other current)
      drifted := by
    refine ⟨hworking hmarks.working, fun stage => ?_⟩
    obtain ⟨status, hstatus, hknown⟩ := hmarks.rows stage
    by_cases hstage : stage = job.stage
    · obtain ⟨later, hlater⟩ := Option.isSome_iff_exists.mp (hown stage (hstatus ▸ rfl))
      exact ⟨later, hlater, fun hother => absurd hstage hother⟩
    · exact ⟨status, (hothers stage hstage).trans hstatus, hknown⟩
  have hends {next : Census} (hmarks : Marks runId
      (fun other current => other ≠ job.stage → known other current) next) :
      Program.Ends (fun _ => Marks runId fun other current => other ≠ job.stage →
        known other current) (Stopped runId) answer next := by
    cases answer with
    | ok created => exact hmarks
    | error raised => exact Or.inl hmarks.working.open
  cases hserved with
  | stored _ hsuspends => cases hsuspends
  | waited => exact ⟨moves_refl _ _, hends hdrifted⟩
  | refused _ hactor hstopping =>
      obtain ⟨rfl, rfl⟩ := Actor.execution.inj hactor
      exact ⟨moves_calm hstopping, hends ⟨hdrifted.working, hdrifted.rows⟩⟩

/-- A stage ends with its own mark, and leaves those of the others. -/
theorem stage_of_marks {run : WorkflowRun} (hrun : run.runId = runId) {stage : StageName}
    {repairAttempt : Nat} {known later : StageName → RunStatus → Prop}
    (hothers : ∀ other status, other ≠ stage → known other status → later other status)
    (hown : later stage .completed) :
    Stage (progress.protocol (.execution runId retryAttempt)) (Stopped runId) run retryAttempt
      stage repairAttempt (Marks runId known) (Marks runId later) := by
  refine ⟨Marks runId known, Marks runId fun other current => other ≠ stage → known other current,
    Marks runId fun other current => other ≠ stage → known other current, steady_marks _,
    steady_marks _, ?_, advances_stageStarted stage, ?_, ?_⟩
  · exact (advances_run (some stage)).mono (fun _ hmarks => ⟨hmarks.working.open, hmarks.rows⟩)
      (fun _ _ => id) fun _ _ => id
  · rintro job hjob rfl - hretry
    exact advances_runAgents (by rw [hjob, hrun]) hretry
  · refine (advances_stageCompleted stage).mono (fun _ => id) (fun _ census hmarks => ?_)
      fun _ _ => id
    refine hmarks.mono fun other status hknown => ?_
    by_cases hother : other = stage
    · rw [hother, hknown.1 hother]
      exact hown
    · exact hothers other status hother (hknown.2 hother hother)

/-- An execution completes its stages in order, and takes over those that its run had
completed before it began. -/
def progressCourse {run : WorkflowRun} (hrun : run.runId = runId) :
    Course (progress.protocol (.execution runId retryAttempt)) (Stopped runId) run
      retryAttempt where
  opening _ left := Marks runId fun stage status =>
    (stage ∈ left → stageStatus run stage = some status) ∧
      (stage = .preflight ∨ stage ∈ openingStages ∧ stage ∉ left → status = .completed)
  evaluating _ := Marks runId fun stage status =>
    stage = .preflight ∨ stage ∈ openingStages → status = .completed
  judged _ := Marks runId fun stage status => stage ≠ .release → status = .completed
  repairing _ left := Marks runId fun stage status =>
    stage = .preflight ∨ stage ∈ openingStages ∧ stage ∉ left → status = .completed
  released := Marks runId fun _ status => status = .completed
  steady_opening _ _ := steady_marks _
  steady_judged _ := steady_marks _
  stage_opening attempt stage rest hsuffix := by
    have hnodup : openingStages.Nodup := by decide
    refine stage_of_marks hrun (fun other status hother hknown => ⟨fun hrest => ?_, fun hdone => ?_⟩)
      ⟨fun hrest => absurd hrest (not_mem_of_suffix hsuffix hnodup), fun _ => rfl⟩
    · exact hknown.1 (List.mem_cons_of_mem _ hrest)
    · refine hknown.2 (hdone.imp_right fun hdone => ⟨hdone.1, fun hleft => ?_⟩)
      exact (List.mem_cons.mp hleft).elim hother hdone.2
  reused attempt stage rest hsuffix hcompleted census hmarks := by
    refine hmarks.mono fun other status hknown =>
      ⟨fun hrest => hknown.1 (List.mem_cons_of_mem _ hrest), fun hdone => ?_⟩
    by_cases hother : other = stage
    · subst hother
      have hstatus := hknown.1 (List.mem_cons_self ..)
      rw [hcompleted, Option.some.injEq] at hstatus
      exact hstatus.symm
    · refine hknown.2 (hdone.imp_right fun hdone => ⟨hdone.1, fun hleft => ?_⟩)
      exact (List.mem_cons.mp hleft).elim hother hdone.2
  opened attempt census hmarks := hmarks.mono fun other status hknown hdone =>
    hknown.2 (hdone.imp_right fun hopening => ⟨hopening, List.not_mem_nil⟩)
  stage_evaluation attempt := by
    refine stage_of_marks hrun (fun other status hother hknown hrelease => hknown ?_) fun _ => rfl
    revert hother hrelease
    cases other <;> decide
  again attempt census hmarks := by
    refine hmarks.mono fun other status hknown hdone => hknown ?_
    rintro rfl
    revert hdone
    decide
  stage_repair attempt stage rest hsuffix := by
    refine stage_of_marks hrun (fun other status hother hknown hdone => hknown ?_) fun _ => rfl
    exact hdone.imp_right fun hdone => ⟨hdone.1, fun hleft =>
      (List.mem_cons.mp hleft).elim hother hdone.2⟩
  repaired attempt census hmarks := hmarks.mono fun other status hknown hdone =>
    hknown (hdone.imp_right fun hopening => ⟨hopening, List.not_mem_nil⟩)
  stage_release attempt := stage_of_marks hrun
    (fun other status hother hknown => hknown hother) rfl

/-- A run that ends does so without fail, and tells so. -/
theorem advances_end {status : RunStatus} {currentStage : Option StageName} {error : Option String}
    (hterminal : status ∈ terminalRunStatuses) {pre : Census → Prop}
    {failed : Raised → Census → Prop}
    (hopen : ∀ census, pre census → census.Open runId)
    (hcompleted : ∀ census, pre census → status = .completed →
      ∀ stage, census.row runId stage = some .completed) :
    (ask (.updateRun status currentStage error)).Leads
      (progress.protocol (.execution runId retryAttempt)) pre
      (fun _ census => census.status runId = some status) failed := by
  have hfinal : Request.final (.updateRun status currentStage error) = true :=
    decide_eq_true hterminal
  refine advances_stored rfl rfl
    (fun census hpre => ⟨rfl, Or.inl (hopen census hpre), hcompleted census hpre⟩)
    (fun census next value hpre _ heffects => ?_) fun census next raised hpre _ heffects => ?_
  · obtain ⟨before, hbefore, -⟩ := hopen census hpre
    have hstatus := (heffects.views rfl fun _ _ => Request.noConfusion).1
    rw [hbefore] at hstatus
    exact hstatus
  · have hsucceeds := heffects.succeeds (Or.inl hfinal)
    cases hsucceeds

/-- Once a run is over, its execution speaks and reads without fail. -/
theorem advances_told {status : RunStatus} (hterminal : status ∈ terminalRunStatuses)
    (eventType : String) (payload : List (String × Json)) {failed : Raised → Census → Prop} :
    (event eventType payload).Leads (progress.protocol (.execution runId retryAttempt))
      (fun census => census.status runId = some status)
      (fun _ census => census.status runId = some status) failed := by
  refine advances_stored rfl rfl (fun _ _ => ⟨rfl, trivial⟩)
    (fun census next value hstatus _ heffects => ?_)
    fun census next raised hstatus _ heffects => ?_
  · have hsame := heffects.views_same (fun _ _ => Request.noConfusion) rfl fun _ => rfl
    exact hsame.1.trans hstatus
  · have hsucceeds := heffects.succeeds (Or.inr ⟨⟨status, hterminal, hstatus⟩, trivial⟩)
    cases hsucceeds (hasRun_of_status hstatus)

/-- What is known of the stages once the preflight passed. -/
def checked (known : StageName → RunStatus → Prop) (stage : StageName) (status : RunStatus) : Prop :=
  (stage = .preflight → status = .completed) ∧ (stage ≠ .preflight → known stage status)

/-- The preflight passes, or its run is blocked. -/
theorem advances_preflight {platform : Platform} (settings : HubSettings)
    {known : StageName → RunStatus → Prop} (run : WorkflowRun) :
    (preflight platform settings run).Leads (progress.protocol (.execution runId retryAttempt))
      (Marks runId known)
      (fun _ census => Marks runId (checked known) census ∨ census.status runId = some .blocked)
      (Stopped runId) := by
  have hpass : (stageCompleted .preflight).Leads
      (progress.protocol (.execution runId retryAttempt))
      (Marks runId fun other current => other ≠ .preflight → known other current)
      (fun _ census => Marks runId (checked known) census ∨ census.status runId = some .blocked)
      (Stopped runId) := by
    refine (advances_stageCompleted .preflight).mono (fun _ => id) (fun _ census hmarks => Or.inl ?_)
      fun _ _ => id
    exact hmarks.mono fun other status hknown =>
      ⟨hknown.1, fun hother => hknown.2 hother hother⟩
  unfold preflight
  refine .bind (advances_stageStarted .preflight) fun _ =>
    .bind ((steady_marks _).request rfl) fun report =>
      .bind ((steady_marks _).leads (publishing_publish _)) fun artifact =>
        .bind ((steady_marks _).leads (incidental_event _ _).publishing) fun _ => ?_
  split
  next =>
    refine .bind (advances_stage .preflight .blocked _) fun _ => .bind (advances_end (by decide)
      (fun census hmarks => hmarks.working.open) fun _ _ heq => by cases heq) fun _ => ?_
    exact (advances_told (by decide) _ _).mono (fun _ => id) (fun _ _ => Or.inr) fun _ _ => id
  next =>
    split
    next =>
      exact .bind ((steady_marks _).leads (incidental_event _ _).publishing) fun _ => hpass
    next => exact hpass

/-- The run as it is read after the preflight. -/
theorem advances_refreshed {known : StageName → RunStatus → Prop} :
    (ask .getRun).Leads (progress.protocol (.execution runId retryAttempt))
      (fun census => Marks runId known census ∨ census.status runId = some .blocked)
      (fun found census => found.map WorkflowRun.status = some .blocked ∨ Marks runId known census)
      (Stopped runId) := by
  refine advances_stored rfl rfl (fun _ _ => ⟨rfl, trivial⟩)
    (fun census next found hpre _ heffects => ?_) fun census next raised hpre _ heffects => ?_
  · obtain rfl := heffects.reports found rfl
    rcases hpre with hmarks | hblocked
    · obtain ⟨hsame, hrows⟩ := heffects.views_same (fun _ _ => Request.noConfusion) rfl fun _ => rfl
      exact Or.inr ⟨hmarks.working.congr hsame, hmarks.rows.congr hrows⟩
    · exact Or.inl hblocked
  · rcases hpre with hmarks | hblocked
    · have hsame := heffects.views_same (fun _ _ => Request.noConfusion) rfl fun _ => rfl
      exact Or.inl (hmarks.working.open.congr hsame.1)
    · have hsucceeds := heffects.succeeds (Or.inr ⟨⟨.blocked, by decide, hblocked⟩, trivial⟩)
      cases hsucceeds

theorem advances_reconcileTask {known : StageName → RunStatus → Prop} (mapping : DelegatedTask) :
    (reconcileTask mapping).Leads (progress.protocol (.execution runId retryAttempt))
      (Begun runId known) (fun _ => Begun runId known) (Stopped runId) := by
  have hfail {α : Type} (type : ErrorType) (message : String) : (fail type message : Routine α).Leads
      (progress.protocol (.execution runId retryAttempt)) (Begun runId known)
      (fun _ => Begun runId known) (Stopped runId) :=
    .raise _ fun census hbegun => Or.inl ⟨_, hbegun.pending, by decide⟩
  unfold reconcileTask
  split
  next => exact .done fun _ => id
  next =>
    split
    next => exact hfail _ _
    next taskId _ =>
      refine .bind (advances_begun rfl) fun valid => ?_
      extract_lets conclude examine
      have hconclude (state : TaskState) : (conclude state).Leads
          (progress.protocol (.execution runId retryAttempt)) (Begun runId known)
          (fun _ => Begun runId known) (Stopped runId) := by
        refine .bind (advances_begun rfl) fun _ => .bind (advances_begun rfl) fun _ => ?_
        split
        next => exact hfail _ _
        next => exact .done fun _ => id
      have hexamine (checked : Unit) : (examine checked).Leads
          (progress.protocol (.execution runId retryAttempt)) (Begun runId known)
          (fun _ => Begun runId known) (Stopped runId) := by
        refine .bind (advances_begun rfl) fun found => ?_
        split
        next => exact hconclude found
        next => exact .bind (advances_begun rfl) fun _ => .bind (advances_begun rfl) hconclude
      split
      next => exact .bind (hfail _ _) hexamine
      next => exact hexamine ()

theorem advances_reconcileRun {known : StageName → RunStatus → Prop} :
    reconcileRun.Leads (progress.protocol (.execution runId retryAttempt)) (Begun runId known)
      (fun _ => Begun runId known) (Stopped runId) :=
  .bind (advances_begun rfl) fun mappings => .forM advances_reconcileTask mappings

/-- The body of an execution ends its run, or is stopped before. -/
theorem advances_executeBody {platform : Platform} (tools : HubTools platform)
    (settings : HubSettings) {run : WorkflowRun} (hrun : run.runId = runId) :
    (executeBody tools settings run retryAttempt).Leads
      (progress.protocol (.execution runId retryAttempt))
      (Begun runId fun stage status => stageStatus run stage = some status) (fun _ _ => True)
      fun stopped => Stopped runId stopped.2 := by
  have hrefresh : (do
      if retryAttempt ≠ 0 then reconcileRun
      ask (.updateRun .running (some .preflight) none)
      preflight platform settings run
      ask .getRun : Routine (Option WorkflowRun)).Leads
        (progress.protocol (.execution runId retryAttempt))
        (Begun runId fun stage status => stageStatus run stage = some status)
        (fun found census => found.map WorkflowRun.status = some .blocked ∨
          Marks runId (checked fun stage status => stageStatus run stage = some status) census)
        (Stopped runId) := by
    extract_lets enter
    have henter (reconciled : Unit) : (enter reconciled).Leads
        (progress.protocol (.execution runId retryAttempt))
        (Begun runId fun stage status => stageStatus run stage = some status)
        (fun found census => found.map WorkflowRun.status = some .blocked ∨
          Marks runId (checked fun stage status => stageStatus run stage = some status) census)
        (Stopped runId) := by
      refine .bind ((advances_run _).mono (fun census hbegun => ?_) (fun _ _ => id) fun _ _ => id)
        fun _ => .bind (advances_preflight settings run) fun _ => advances_refreshed
      exact ⟨⟨_, hbegun.pending, by decide⟩, hbegun.rows⟩
    split
    next => exact .bind advances_reconcileRun henter
    next => exact henter ()
  have hcomplete : (do
      ask (.updateRun .completed (some .release) none)
      event "run.completed" [] : Routine Unit).Leads
        (progress.protocol (.execution runId retryAttempt))
        (Marks runId fun _ status => status = .completed) (fun _ _ => True) (Stopped runId) := by
    refine .bind (advances_end (by decide) (fun census hmarks => hmarks.working.open)
      fun census hmarks _ stage => ?_) fun _ => ?_
    · obtain ⟨status, hstatus, rfl⟩ := hmarks.rows stage
      exact hstatus
    · exact (advances_told (by decide) _ _).mono (fun _ => id) (fun _ _ _ => trivial) fun _ _ => id
  refine .bind (leads_during hrefresh _) fun refreshed => ?_
  cases refreshed with
  | none => exact .done fun _ _ => trivial
  | some refreshed =>
      show Program.Leads _ _ _ _ (if refreshed.status = .blocked then pure () else _)
      split
      next => exact .done fun _ _ => trivial
      next hlive =>
        have hbegun (attempt : Nat) (census : Census) (hmarks : Marks runId
            (checked fun stage status => stageStatus run stage = some status) census) :
            (progressCourse hrun : Course (progress.protocol (.execution runId retryAttempt)) _ _
              retryAttempt).opening attempt openingStages census := by
          refine hmarks.mono fun stage status hknown => ⟨fun hopening => hknown.2 ?_, fun hdone => ?_⟩
          · rintro rfl
            revert hopening
            decide
          · exact hknown.1 (hdone.resolve_right fun hdone => hdone.2 hdone.1)
        refine (leads_executeStages tools settings (progressCourse hrun) (steady_marks _) hbegun
          hcomplete).mono (fun census hknown => ?_) (fun _ _ => id) fun _ _ => id
        exact hknown.resolve_left fun hblocked => hlive (Option.some.inj hblocked)

theorem advances_always {ε α : Type} {program : Program Request Request.Answer ε α}
    (hpublishing : Publishing program) :
    program.Leads (progress.protocol (.execution runId retryAttempt)) (fun _ => True)
      (fun _ _ => True) fun _ _ => True := by
  have hkeeps : program.Keeps (progress.protocol (.execution runId retryAttempt)) fun _ => True :=
    hpublishing.keeps (fun request hpublishes census _ => demands_of_publishes hpublishes)
      fun request hpublishes census drifted _ hdrift answer next hserved =>
        ⟨(stands_of_served hpublishes hdrift hserved).1, trivial⟩
  exact hkeeps.leads fun _ _ _ => trivial

/-- Whatever stopped an execution, its run is over afterwards or is left to the next startup. -/
theorem advances_concludeFailure (stage : StageName) (raised : Raised) :
    (concludeFailure stage raised).Leads (progress.protocol (.execution runId retryAttempt))
      (Stopped runId raised) (fun _ _ => True) fun _ _ => True := by
  have hmark (status : RunStatus) (error : Option String) :
      (ask (.updateStage stage status error)).Leads
        (progress.protocol (.execution runId retryAttempt)) (Stopped runId raised)
        (fun _ => Stopped runId raised) fun _ _ => True := by
    refine advances_stored rfl rfl (fun census hstopped => ⟨rfl, ?_⟩)
      (fun census next value hstopped _ heffects => ?_) fun _ _ _ _ _ _ => trivial
    · rcases hstopped with ⟨before, hbefore, hlive⟩ | ⟨-, hcanceled⟩
      · rw [hbefore]
        rintro ⟨⟩
        exact hlive (by decide)
      · intro hcompleted
        rw [hcanceled] at hcompleted
        cases hcompleted
    · have hsame : next.status runId = census.status runId :=
        (heffects.views rfl fun _ _ => Request.noConfusion).1.trans Option.map_id'
      exact hstopped.imp (fun hopen => hopen.congr hsame) fun hcanceled =>
        ⟨hcanceled.1, hsame.trans hcanceled.2⟩
  have hend {status : RunStatus} {error : Option String} (hstatus : status ≠ .completed)
      (hcanceled : raised = .cancelled → status = .canceled) :
      (ask (.updateRun status (some stage) error)).Leads
        (progress.protocol (.execution runId retryAttempt)) (Stopped runId raised)
        (fun _ _ => True) fun _ _ => True := by
    refine advances_stored rfl rfl (fun census hstopped => ⟨rfl, ?_, fun heq => absurd heq hstatus⟩)
      (fun _ _ _ _ _ _ => trivial) fun _ _ _ _ _ _ => trivial
    exact hstopped.imp_right fun hstopped => ⟨hstopped.2, hcanceled hstopped.1⟩
  cases raised with
  | cancelled =>
      exact .bind (hmark _ _) fun _ => .bind (hend (by decide) fun _ => rfl) fun _ =>
        advances_always (incidental_event _ _).publishing
  | failed errors =>
      refine .bind (hmark _ _) fun _ => .bind (hend ?_ fun heq => by cases heq) fun _ =>
        advances_always (incidental_event _ _).publishing
      split <;> decide

/-- An execution that begins where its run is pending keeps to the regime. -/
theorem advances_execute {platform : Platform} (tools : HubTools platform) (settings : HubSettings) :
    (execute tools settings retryAttempt).Leads
      (progress.protocol (.execution runId retryAttempt))
      (fun census => census.status runId = some .pending ∧ census.stores.database.Lawful)
      (fun _ _ => True) fun _ _ => True := by
  have hfound : (ask .getRun).Leads (progress.protocol (.execution runId retryAttempt))
      (fun census => census.status runId = some .pending ∧ census.stores.database.Lawful)
      (fun found census => ∀ run : WorkflowRun, found = some run → run.runId = runId ∧
        Begun runId (fun stage status => stageStatus run stage = some status) census)
      fun _ _ => True := by
    refine advances_stored rfl rfl (fun _ _ => ⟨rfl, trivial⟩)
      (fun census next found hpre _ heffects => ?_) fun _ _ _ _ _ _ => trivial
    rintro run rfl
    have hrun := heffects.reports (some run) rfl
    obtain ⟨hsame, hrows⟩ := heffects.views_same (fun _ _ => Request.noConfusion) rfl fun _ => rfl
    refine ⟨(Database.mem_of_getRun hrun.symm).2, hsame.trans hpre.1, fun stage => ?_⟩
    obtain ⟨status, hstatus⟩ := WorkflowRun.exists_stageStatus (hpre.2.getRun hrun.symm).order stage
    exact ⟨status, (hrows stage).trans ((row_of_getRun hrun.symm stage).trans hstatus), hstatus⟩
  refine .bind hfound fun found => ?_
  cases found with
  | none => exact .done fun _ _ => trivial
  | some run =>
      refine .of_pre fun census hknown => ?_
      obtain ⟨hrun, hbegun⟩ := hknown run rfl
      exact ⟨_, hbegun, .handle (advances_executeBody tools settings hrun) fun stopped =>
        advances_concludeFailure stopped.1 stopped.2⟩

end Executions

/-! ## Agents -/

section Agents

variable {job : StageJob} {spec : AgentSpec} {ε α : Type}

/-- What an agent asks for its job: it marks its own stage, and leaves the run running. -/
def Assists (job : StageJob) (spec : AgentSpec) : Request → Prop
  | .updateRun status _ _ => status ∈ [RunStatus.running, .inputRequired]
  | .updateStage stage _ _ => stage = job.stage
  | .invoke other context =>
    other = spec ∧ context.runId = job.run.runId ∧ context.stage = job.stage
  | request => request.publishes = true

theorem Publishing.assists {program : Program Request Request.Answer ε α}
    (hpublishing : Publishing program) : program.Asks (Assists job spec) := by
  refine hpublishing.mono fun request hpublishes => ?_
  cases request <;> first | exact hpublishes | cases hpublishes

theorem asks_ask {allowed : Request → Prop} {request : Request} (hallowed : allowed request) :
    (ask request).Asks allowed := ⟨hallowed, fun _ => .ofExcept _⟩

theorem demands_of_assists {census : Census} {request : Request}
    (hassists : Assists job spec request) (hworking : census.Working job.run.runId) :
    census.Demands request (.agent job spec) := by
  cases request with
  | updateRun status currentStage error => exact ⟨rfl, hassists, hworking⟩
  | updateStage stage status error => exact ⟨rfl, hassists, hworking⟩
  | invoke other context => exact ⟨rfl, hassists.1, hassists.2.1, hassists.2.2, hworking⟩
  | _ => first | exact ⟨rfl, trivial⟩ | cases hassists

/-- Agents are at work as long as their run is. -/
theorem keeps_working {program : Program Request Request.Answer ε α}
    (hasks : program.Asks (Assists job spec)) :
    program.Keeps (progress.protocol (.agent job spec)) (Working · job.run.runId) := by
  refine hasks.keeps (fun request hassists census => demands_of_assists hassists)
    fun request hassists census drifted hworking hdrift answer next hserved => ?_
  have hdrifted : drifted.Working job.run.runId := hdrift.2 hworking
  cases hserved with
  | stored hactor hsuspends hfiled heffects =>
      obtain rfl := Option.some.inj hactor
      have hmoves := moves_of_effects rfl hfiled (demands_of_assists hassists hdrifted) heffects
      refine ⟨hmoves, ?_⟩
      rcases hmoves.turns.1 with hsame | ⟨-, hlater⟩
      · exact hdrifted.congr hsame
      · exact hlater
  | waited hsuspends => exact ⟨moves_refl _ _, hdrifted⟩
  | refused hsuspends hactor => exact Actor.noConfusion hactor

theorem asks_humanInput {platform : Platform} (tools : HubTools platform) (settings : HubSettings)
    {mapping : DelegatedTask} (hstage : mapping.stage = job.stage) (draft : AgentResult) :
    (humanInput tools settings mapping draft).Asks (Assists job spec) := by
  have hmark (status : RunStatus) :
      (ask (.updateStage mapping.stage status none)).Asks (Assists job spec) := asks_ask hstage
  have hrun (status : RunStatus) (hmember : status ∈ [RunStatus.running, .inputRequired]) :
      (ask (.updateRun status (some mapping.stage) none)).Asks (Assists job spec) :=
    asks_ask hmember
  unfold humanInput
  refine .bind (incidental_recordExecution settings _ _ _ _).publishing.assists fun _ => ?_
  split
  next prompt taskId _ _ =>
    refine .bind (asks_ask rfl) fun interactions => ?_
    extract_lets finish request
    have hfinish (answered : HumanInteraction) : (finish answered).Asks (Assists job spec) :=
      .bind (hmark _) fun _ => .bind (hrun _ (by decide)) fun _ =>
        .bind (asks_ask rfl) fun _ => .bind (asks_lift _) fun _ => .done _
    have hrequest (interaction : HumanInteraction) :
        (request interaction).Asks (Assists job spec) := by
      refine .bind (hmark _) fun _ => .bind (hrun _ (by decide)) fun _ =>
        .bind (incidental_event _ _).publishing.assists fun _ => ?_
      split
      next => exact hfinish interaction
      next => exact .bind (asks_ask rfl) hfinish
    split
    next interaction _ => exact hrequest interaction
    next => exact .bind (publishing_openSurface tools settings _ _ _ _).assists hrequest
  next => exact asks_fail _ _

theorem asks_delegate {platform : Platform} (tools : HubTools platform) (settings : HubSettings)
    {context : AgentContext ContextItem} (hrun : context.runId = job.run.runId)
    (hstage : context.stage = job.stage) :
    (delegate tools settings job spec context).Asks (Assists job spec) :=
  .bind (incidental_event _ _).publishing.assists fun _ =>
    .bind (asks_ask ⟨rfl, hrun, hstage⟩) fun _ =>
      .bind (incidental_recordExecution settings _ _ _ _).publishing.assists fun _ =>
        .bind (publishing_publish _).assists fun _ =>
          .bind (incidental_event _ _).publishing.assists fun _ =>
            .bind (incidental_event _ _).publishing.assists fun _ => .done _

theorem asks_invokeAgent {platform : Platform} (tools : HubTools platform) (settings : HubSettings)
    (hspec : spec ∈ agentsByStage job.stage) :
    (invokeAgent tools settings job spec).Asks (Assists job spec) := by
  unfold invokeAgent
  split
  next => exact .bind (incidental_event _ _).publishing.assists fun _ => .done _
  next =>
    refine .bind (asks_ask rfl) fun _ => ?_
    cases hbuild : buildAgentContext spec job.run.runId job.run.idea job.context.artifacts
        job.repairAttempt job.repairFeedback job.retryAttempt with
    | error error => exact .raise _
    | ok context =>
        have hidentity := StageJob.identity_of_context hspec hbuild
        obtain ⟨hrun, hstage, -⟩ := InvocationId.mk.inj hidentity
        rw [lift_ok, Program.done_bind]
        refine .bind (incidental_event _ _).publishing.assists fun _ => ?_
        extract_lets reuse
        have hreuse (cached : Option ArtifactRecord) : (reuse cached).Asks (Assists job spec) := by
          cases cached with
          | some artifact => exact .bind (incidental_event _ _).publishing.assists fun _ => .done _
          | none => exact asks_delegate tools settings hrun hstage
        split
        next => exact .bind (incidental_cachedOutput _ _ _).publishing.assists hreuse
        next => exact hreuse none

end Agents

/-! ## The interface -/

section Interface

variable {runId : RunId} {origin census next : Census}

/-- A call of the interface has not changed anything so far. -/
structure Untouched (runId : RunId) (origin census : Census) : Prop where
  calm : ∀ task retryAttempt, census.executions task = some ⟨runId, retryAttempt, false⟩ →
    origin.executions task ≠ none
  status : census.status runId = origin.status runId

theorem Untouched.refl (runId : RunId) (census : Census) : Untouched runId census census :=
  ⟨fun _ _ hattempt => Option.ne_none_iff_exists'.mpr ⟨_, hattempt⟩, rfl⟩

theorem Untouched.calls (huntouched : Untouched runId origin census) :
    progress.calls runId origin census := fun task retryAttempt hattempt =>
  Or.inr ⟨huntouched.calm task retryAttempt hattempt, huntouched.status⟩

theorem calls_of_idle (hidle : census.Idle runId) : progress.calls runId origin census :=
  fun task _ hattempt => absurd rfl (hidle task _ hattempt)

/-- A statement of a call changes the executions only if it begins one. -/
theorem persists_of_effects {request : Request} {answer : request.Answer}
    (hcreate : ∀ retryAttempt, request ≠ .createTask retryAttempt) {actor : Actor}
    (heffects : request.Effects actor runId census next answer) : census.Persists next :=
  heffects.executions.resolve_right fun ⟨retryAttempt, hrequest, _⟩ =>
    hcreate retryAttempt hrequest

/-- A conversation changes neither the executions nor the run. -/
theorem stands_of_converses {request : Request} (hconverses : request.converses = true)
    {actor : Actor} {answer : request.Answer}
    (heffects : request.Effects actor runId census next answer) :
    census.Persists next ∧ next.status runId = census.status runId := by
  refine ⟨persists_of_effects ?_ heffects, ?_⟩
  · rintro retryAttempt rfl
    cases hconverses
  · cases request <;>
      first
      | exact (heffects.views_same (fun _ _ => Request.noConfusion) rfl fun _ => rfl).1
      | cases hconverses

theorem Untouched.persists (hpersists : census.Persists next)
    (hsame : next.status runId = census.status runId) (huntouched : Untouched runId origin census) :
    Untouched runId origin next :=
  ⟨fun task retryAttempt hattempt =>
    huntouched.calm task retryAttempt (hpersists.calm task _ hattempt rfl),
    hsame.trans huntouched.status⟩

/-- A part of a call that leaves the runs as they are. -/
theorem advances_conversing {α : Type} {program : Routine α} {assertion : Census → Prop}
    {failed : Raised → Census → Prop} (hconversing : Conversing program)
    (hkept : ∀ census next, census.Persists next → next.status runId = census.status runId →
      assertion census → assertion next)
    (hfailed : ∀ raised census, assertion census → failed raised census) :
    program.Leads (progress.protocol (.handler runId)) assertion (fun _ => assertion) failed := by
  have hdemands {request : Request} (hconverses : request.converses = true) (census : Census) :
      census.Demands request (.handler runId) := by
    cases request <;> trivial
  have hkeeps : program.Keeps (progress.protocol (.handler runId)) assertion := by
    refine hconversing.keeps (fun request hconverses census _ => hdemands hconverses census)
      fun request hconverses census drifted hassertion hdrift answer next hserved => ?_
    obtain rfl : drifted = census := hdrift.2
    cases hserved with
    | stored hactor hsuspends hfiled heffects =>
        obtain rfl := Option.some.inj hactor
        refine ⟨moves_of_effects rfl hfiled (hdemands hconverses drifted) heffects, ?_⟩
        obtain ⟨hpersists, hsame⟩ := stands_of_converses hconverses heffects
        exact hkept drifted next hpersists hsame hassertion
    | waited hsuspends => exact ⟨moves_refl _ _, hassertion⟩
    | refused hsuspends hactor => exact Actor.noConfusion hactor
  exact hkeeps.leads hfailed

theorem advances_untouched {α : Type} {program : Routine α} (hconversing : Conversing program) :
    program.Leads (progress.protocol (.handler runId)) (Untouched runId origin)
      (fun _ => Untouched runId origin) fun _ => progress.calls runId origin :=
  advances_conversing hconversing (fun _ _ => Untouched.persists) fun _ _ => Untouched.calls

/-- The run is about to be executed. -/
structure Queued (runId : RunId) (census : Census) : Prop where
  idle : census.Idle runId
  pending : census.status runId = some .pending

theorem advances_queued {α : Type} {program : Routine α} (hconversing : Conversing program) :
    program.Leads (progress.protocol (.handler runId)) (Queued runId) (fun _ => Queued runId)
      fun _ => progress.calls runId origin :=
  advances_conversing hconversing
    (fun _ _ hpersists hsame hqueued =>
      ⟨hpersists.toSettles.idle hqueued.idle, hsame.trans hqueued.pending⟩)
    fun _ _ hqueued => calls_of_idle hqueued.idle

/-- An execution begins where the run is pending. -/
theorem advances_createTask (retryAttempt : Nat) :
    (ask (.createTask retryAttempt)).Leads (progress.protocol (.handler runId)) (Queued runId)
      (fun _ => progress.calls runId origin) fun _ => progress.calls runId origin := by
  have hpending {census next : Census} {answer : Except Raised Unit} (hqueued : Queued runId census)
      (heffects : Request.Effects (.handler runId) runId census next (.createTask retryAttempt)
        answer) : progress.calls runId origin next := fun _ _ _ => Or.inl <| by
    rw [(heffects.views_same (fun _ _ => Request.noConfusion) rfl fun _ => rfl).1]
    exact hqueued.pending
  exact advances_stored rfl rfl (fun census hqueued => ⟨hqueued.idle, hqueued.pending⟩)
    (fun _ _ _ hqueued _ => hpending hqueued) fun _ _ _ hqueued _ => hpending hqueued

theorem advances_createRun (idea : String) (now : Nat) :
    (createRun idea now).Leads (progress.protocol (.handler runId)) (Untouched runId origin)
      (fun _ => progress.calls runId origin) fun _ => progress.calls runId origin := by
  have hcreate : (ask (.createRun idea now)).Leads (progress.protocol (.handler runId))
      (Untouched runId origin) (fun _ => Queued runId) fun _ => progress.calls runId origin := by
    refine advances_stored rfl rfl (fun _ _ => trivial)
      (fun census next value _ hfiled heffects => ?_)
      fun census next raised huntouched hfiled heffects => ?_
    · have hpersists := persists_of_effects (fun _ => Request.noConfusion) heffects
      obtain ⟨hnone, hpending⟩ := heffects.reports rfl
      exact ⟨hpersists.toSettles.idle (hfiled.idle_of_status hnone), hpending⟩
    · have hpersists := persists_of_effects (fun _ => Request.noConfusion) heffects
      rcases heffects.runs with hsame | hsame | ⟨_, _, -, hcreated⟩
      · have hrun := Database.getRun_congr hsame runId
        exact (huntouched.persists hpersists (views_of_getRun hrun).1).calls
      · have hrun := Database.getRun_congr (hsame.trans (modifyRun_id _)) runId
        exact (huntouched.persists hpersists (views_of_getRun hrun).1).calls
      · have hnone := congrArg (Option.map WorkflowRun.status) (Database.createRun_eq_ok hcreated).1
        exact calls_of_idle (hpersists.toSettles.idle (hfiled.idle_of_status hnone))
  exact .bind (advances_untouched (conversing_ask rfl)) fun _ => .bind hcreate fun _ =>
    .bind (advances_queued (incidental_event _ _).conversing) fun _ => advances_createTask 0

/-- A run that is over, of which no execution is left. -/
structure Retried (runId : RunId) (census : Census) : Prop where
  idle : census.Idle runId
  restartable : census.Restartable runId

theorem advances_retried {α : Type} {program : Routine α} (hconversing : Conversing program) :
    program.Leads (progress.protocol (.handler runId)) (Retried runId) (fun _ => Retried runId)
      fun _ => progress.calls runId origin := by
  refine advances_conversing hconversing (fun census next hpersists hsame hretried => ?_)
    fun _ _ hretried => calls_of_idle hretried.idle
  refine ⟨hpersists.toSettles.idle hretried.idle, ?_⟩
  unfold Restartable
  rw [hsame]
  exact hretried.restartable

theorem advances_found :
    (ask .getRun).Leads (progress.protocol (.handler runId)) (Untouched runId origin)
      (fun found census => Untouched runId origin census ∧
        census.status runId = found.map WorkflowRun.status)
      fun _ => progress.calls runId origin := by
  refine advances_stored rfl rfl (fun _ _ => trivial)
    (fun census next found huntouched _ heffects => ?_)
    fun census next raised huntouched _ heffects => ?_
  · obtain ⟨hpersists, hsame⟩ := stands_of_converses rfl heffects
    rw [heffects.reports found rfl]
    exact ⟨huntouched.persists hpersists hsame, hsame⟩
  · obtain ⟨hpersists, hsame⟩ := stands_of_converses rfl heffects
    exact (huntouched.persists hpersists hsame).calls

/-- Only a run that is over and has no execution starts again. -/
theorem advances_retry :
    retry.Leads (progress.protocol (.handler runId)) (Untouched runId origin)
      (fun _ => progress.calls runId origin) fun _ => progress.calls runId origin := by
  have hactive : (ask (.activeTask false)).Leads (progress.protocol (.handler runId))
      (fun census => Untouched runId origin census ∧ census.Restartable runId)
      (fun active census => if active = true then Untouched runId origin census
        else Retried runId census)
      fun _ => progress.calls runId origin := by
    refine advances_stored rfl rfl (fun _ _ => trivial)
      (fun census next active hknown _ heffects => ?_) fun census next raised hknown _ heffects => ?_
    · obtain ⟨hpersists, hsame⟩ := stands_of_converses rfl heffects
      cases active with
      | true => exact hknown.1.persists hpersists hsame
      | false =>
          refine ⟨hpersists.toSettles.idle (heffects.reports.1 rfl rfl), ?_⟩
          unfold Restartable
          rw [hsame]
          exact hknown.2
    · obtain ⟨hpersists, hsame⟩ := stands_of_converses rfl heffects
      exact (hknown.1.persists hpersists hsame).calls
  have hrestart (currentStage : Option StageName) :
      (ask (.updateRun .pending currentStage none)).Leads (progress.protocol (.handler runId))
        (Retried runId) (fun _ => Queued runId) fun _ => progress.calls runId origin := by
    refine advances_stored rfl rfl
      (fun census hretried => Or.inl ⟨rfl, hretried.idle, hretried.restartable⟩)
      (fun census next value hretried _ heffects => ?_)
      fun census next raised hretried _ heffects => ?_
    · have hpersists := persists_of_effects (fun _ => Request.noConfusion) heffects
      refine ⟨hpersists.toSettles.idle hretried.idle, ?_⟩
      obtain ⟨before, -, hbefore⟩ := hretried.restartable
      have hstatus := (heffects.views rfl fun _ _ => Request.noConfusion).1
      rw [hbefore] at hstatus
      exact hstatus
    · have hpersists := persists_of_effects (fun _ => Request.noConfusion) heffects
      exact calls_of_idle (hpersists.toSettles.idle hretried.idle)
  unfold retry
  refine .bind advances_found fun found => ?_
  cases found with
  | none => exact .raise _ fun _ hknown => hknown.1.calls
  | some run =>
      dsimp -zeta only
      extract_lets start check
      have hstart (idle : Unit) : (start idle).Leads (progress.protocol (.handler runId))
          (Retried runId) (fun _ => progress.calls runId origin)
          fun _ => progress.calls runId origin :=
        .bind (advances_retried incidental_artifactContext.conversing) fun contents =>
          .bind (advances_retried (conversing_ask rfl)) fun events => .bind (hrestart _) fun _ =>
            .bind (advances_queued (incidental_event _ _).conversing) fun _ => advances_createTask _
      split
      next => exact .raise _ fun _ hknown => hknown.1.calls
      next hstatus =>
        refine .bind (hactive.mono (fun census hknown => ⟨hknown.1, ?_⟩) (fun _ _ => id)
          fun _ _ => id) fun active => ?_
        · exact ⟨run.status, not_not.mp hstatus, hknown.2⟩
        · cases active with
          | true => exact .raise _ fun _ => Untouched.calls
          | false => exact hstart ()

/-- A cancellation before the run was executed ends it. -/
structure Ended (runId : RunId) (census : Census) : Prop where
  canceled : census.status runId = some .canceled
  busy : ¬census.Idle runId

theorem advances_cancelTask {assertion : Census → Prop} :
    (ask .cancelTask).Leads (progress.protocol (.handler runId)) assertion
      (fun _ => progress.calls runId origin) fun _ => progress.calls runId origin := by
  have hstopping {census next : Census} {answer : Except Raised Unit}
      (heffects : Request.Effects (.handler runId) runId census next .cancelTask answer) :
      progress.calls runId origin next := fun task retryAttempt hattempt =>
    absurd (heffects.reports task _ hattempt rfl) Bool.noConfusion
  exact advances_stored rfl rfl (fun _ _ => trivial) (fun _ _ _ _ _ => hstopping)
    fun _ _ _ _ _ => hstopping

theorem advances_cancel :
    cancel.Leads (progress.protocol (.handler runId)) (Untouched runId origin)
      (fun _ => progress.calls runId origin) fun _ => progress.calls runId origin := by
  have hactive : (ask (.activeTask true)).Leads (progress.protocol (.handler runId))
      (Untouched runId origin)
      (fun active census => Untouched runId origin census ∧ (active = true → ¬census.Idle runId))
      fun _ => progress.calls runId origin := by
    refine advances_stored rfl rfl (fun _ _ => trivial)
      (fun census next active huntouched _ heffects => ?_)
      fun census next raised huntouched _ heffects => ?_
    · obtain ⟨hpersists, hsame⟩ := stands_of_converses rfl heffects
      refine ⟨huntouched.persists hpersists hsame, fun hbusy => hpersists.busy ?_⟩
      exact heffects.reports.2 (congrArg Except.ok hbusy)
    · obtain ⟨hpersists, hsame⟩ := stands_of_converses rfl heffects
      exact (huntouched.persists hpersists hsame).calls
  have hfound : (ask .getRun).Leads (progress.protocol (.handler runId))
      (fun census => Untouched runId origin census ∧ ¬census.Idle runId)
      (fun found census => Untouched runId origin census ∧ ¬census.Idle runId ∧
        census.status runId = found.map WorkflowRun.status)
      fun _ => progress.calls runId origin := by
    refine advances_stored rfl rfl (fun _ _ => trivial)
      (fun census next found hknown _ heffects => ?_) fun census next raised hknown _ heffects => ?_
    · obtain ⟨hpersists, hsame⟩ := stands_of_converses rfl heffects
      rw [heffects.reports found rfl]
      exact ⟨hknown.1.persists hpersists hsame, hpersists.busy hknown.2, hsame⟩
    · obtain ⟨hpersists, hsame⟩ := stands_of_converses rfl heffects
      exact (hknown.1.persists hpersists hsame).calls
  have hend (currentStage : Option StageName) :
      (ask (.updateRun .canceled currentStage none)).Leads (progress.protocol (.handler runId))
        (fun census => ¬census.Idle runId ∧ census.status runId = some .pending)
        (fun _ => Ended runId) fun _ => progress.calls runId origin := by
    refine advances_stored rfl rfl (fun census hknown => Or.inr ⟨rfl, hknown.2⟩)
      (fun census next value hknown _ heffects => ?_) fun census next raised hknown _ heffects => ?_
    · have hpersists := persists_of_effects (fun _ => Request.noConfusion) heffects
      have hstatus := (heffects.views rfl fun _ _ => Request.noConfusion).1
      rw [hknown.2] at hstatus
      exact ⟨hstatus, hpersists.busy hknown.1⟩
    · have hsucceeds := heffects.succeeds (Or.inl rfl)
      cases hsucceeds
  have htold (payload : List (String × Json)) :
      (event "run.cancellation_requested" payload).Leads (progress.protocol (.handler runId))
        (fun census => Untouched runId origin census ∨ Ended runId census) (fun _ _ => True)
        fun _ => progress.calls runId origin := by
    refine advances_stored rfl rfl (fun _ _ => trivial) (fun _ _ _ _ _ _ => trivial)
      fun census next raised hknown _ heffects => ?_
    rcases hknown with huntouched | hended
    · obtain ⟨hpersists, hsame⟩ := stands_of_converses rfl heffects
      exact (huntouched.persists hpersists hsame).calls
    · have hover : census.Over runId := ⟨.canceled, by decide, hended.canceled⟩
      have hsucceeds := heffects.succeeds (Or.inr ⟨hover, hended.busy⟩)
      cases hsucceeds (hasRun_of_status hended.canceled)
  refine .bind hactive fun active => ?_
  cases active with
  | false => exact .done fun _ hknown => hknown.1.calls
  | true =>
      refine .bind (hfound.mono (fun _ hknown => ⟨hknown.1, hknown.2 rfl⟩) (fun _ _ => id)
        fun _ _ => id) fun found => ?_
      extract_lets stop
      have hstop (pending : Unit) : (stop pending).Leads (progress.protocol (.handler runId))
          (fun census => Untouched runId origin census ∨ Ended runId census)
          (fun _ => progress.calls runId origin) fun _ => progress.calls runId origin :=
        .bind (htold _) fun _ => advances_cancelTask
      have hleft : (stop ()).Leads (progress.protocol (.handler runId))
          (fun census => Untouched runId origin census ∧ ¬census.Idle runId ∧
            census.status runId = found.map WorkflowRun.status)
          (fun _ => progress.calls runId origin) fun _ => progress.calls runId origin :=
        (hstop ()).mono (fun _ hknown => Or.inl hknown.1) (fun _ _ => id) fun _ _ => id
      cases found with
      | none => exact hleft
      | some run =>
          dsimp only
          split
          next hpending =>
            refine .bind ((hend _).mono (fun census hknown => ⟨hknown.2.1, ?_⟩) (fun _ _ => Or.inr)
              fun _ _ => id) hstop
            exact hknown.2.2.trans (congrArg some hpending)
          next => exact hleft

theorem advances_command (command : Command) :
    (Hub.command command).Leads (progress.protocol (.handler runId)) (Untouched runId origin)
      (fun _ => progress.calls runId origin) fun _ => progress.calls runId origin := by
  cases command with
  | retry => exact advances_retry
  | cancel => exact advances_cancel
  | respond action =>
      exact (advances_untouched (conversing_respond action)).mono (fun _ => id)
        (fun _ _ => Untouched.calls) fun _ _ => id

end Interface

end Workflow

end Aidlc
