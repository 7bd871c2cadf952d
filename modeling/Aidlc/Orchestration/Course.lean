import Aidlc.Orchestration.Footprints
import Aidlc.Orchestration.Lifecycle

/-! # The course of an execution

The stages of an execution follow one another, with a loop through implementation,
integration and evaluation. A proof about executions says what holds before every stage
and what a stage makes of it; the way through the stages is followed here once.
-/

namespace Aidlc

open Foundation

namespace Workflow

universe u

variable {σ : Type u} {platform : Platform} (tools : HubTools platform) (settings : HubSettings)
  {protocol : Protocol σ Request Request.Answer} {failed : Raised → σ → Prop}

/-- Reading, telling and publishing keeps the assertion, also where they fail. -/
structure Steady (protocol : Protocol σ Request Request.Answer) (failed : Raised → σ → Prop)
    (assertion : σ → Prop) : Prop where
  failed : ∀ raised state, assertion state → failed raised state
  keeps : ∀ {α : Type} (program : Routine α), Publishing program → program.Keeps protocol assertion

theorem Steady.leads {α : Type} {assertion : σ → Prop} (hsteady : Steady protocol failed assertion)
    {program : Routine α} (hpublishing : Publishing program) :
    program.Leads protocol assertion (fun _ => assertion) failed :=
  (hsteady.keeps program hpublishing).leads hsteady.failed

theorem Steady.request {assertion : σ → Prop} (hsteady : Steady protocol failed assertion)
    {request : Request} (hpublishes : request.publishes = true) :
    (ask request).Leads protocol assertion (fun _ => assertion) failed :=
  hsteady.leads (publishing_ask hpublishes)

theorem Steady.lift {α : Type} {assertion : σ → Prop} (hsteady : Steady protocol failed assertion)
    (computed : Except PyError α) :
    (lift computed).Leads protocol assertion (fun _ => assertion) failed :=
  hsteady.leads (asks_lift computed)

/-- What the statements of a stage do to the assertions around them. -/
structure Passes (protocol : Protocol σ Request Request.Answer) (failed : Raised → σ → Prop)
    (run : WorkflowRun) (retryAttempt : Nat) (stage : StageName) (repairAttempt : Nat)
    (before marked started served after : σ → Prop) : Prop where
  steady_before : Steady protocol failed before
  steady_started : Steady protocol failed started
  mark : (ask (.updateRun .running (some stage) none)).Leads protocol before (fun _ => marked) failed
  start : (stageStarted stage).Leads protocol marked (fun _ => started) failed
  serve : ∀ job : StageJob, job.run = run → job.stage = stage → job.repairAttempt = repairAttempt →
    job.retryAttempt = retryAttempt →
      (ask (.runAgents job)).Leads protocol started (fun _ => served) failed
  complete : (stageCompleted stage).Leads protocol served (fun _ => after) failed

/-- A stage leads from one assertion to the other. -/
def Stage (protocol : Protocol σ Request Request.Answer) (failed : Raised → σ → Prop)
    (run : WorkflowRun) (retryAttempt : Nat) (stage : StageName) (repairAttempt : Nat)
    (before after : σ → Prop) : Prop :=
  ∃ marked started served,
    Passes protocol failed run retryAttempt stage repairAttempt before marked started served after

section Stages

variable {run : WorkflowRun} {retryAttempt repairAttempt : Nat} {stage : StageName}
  {before after : σ → Prop}

theorem leads_runStage
    (hstage : Stage protocol failed run retryAttempt stage repairAttempt before after)
    (parentIds : List ArtifactId) (repairFeedback : Option Json) (reuseOutputs : Bool) :
    (runStage tools settings run stage parentIds repairAttempt repairFeedback retryAttempt
      reuseOutputs).Leads protocol before (fun _ => after) failed := by
  obtain ⟨marked, started, served, hpasses⟩ := hstage
  unfold runStage
  extract_lets start
  have hstart (saved : List (String × ArtifactRecord)) :
      (start saved).Leads protocol before (fun _ => after) failed := by
    refine .bind hpasses.mark fun _ => .bind hpasses.start fun _ => ?_
    extract_lets perform check
    have hperform (integrated : Unit) :
        (perform integrated).Leads protocol started (fun _ => after) failed := by
      refine .bind (hpasses.steady_started.leads incidental_artifactContext.publishing)
        fun artifacts => ?_
      extract_lets context gated agents
      have hagents (artifacts : List ContextItem) :
          (agents artifacts).Leads protocol started (fun _ => after) failed :=
        .bind (hpasses.serve _ rfl rfl rfl rfl) fun _ => .bind hpasses.complete fun _ =>
          .done fun _ hafter => hafter
      split
      next =>
        exact .bind (hpasses.steady_started.leads (publishing_runGates tools settings _ _)) hagents
      next => exact hagents artifacts
    have hcheck (current : List ArtifactRecord) :
        (check current).Leads protocol started (fun _ => after) failed := by
      show Program.Leads _ _ _ _ (if _ then _ else _)
      split
      next =>
        exact .bind (hpasses.steady_started.leads (publishing_integrate tools _ _))
          fun _ => hperform ()
      next => exact hperform ()
    split
    next =>
      split
      next => exact .bind (hpasses.steady_started.leads (publishing_ask rfl)) hcheck
      next => exact hcheck []
    next => exact hperform ()
  split
  next =>
    exact .bind (hpasses.steady_before.leads (incidental_savedOutputs _ _ _).publishing) hstart
  next => exact hstart []

theorem leads_during {α : Type} {pre : σ → Prop} {post : α → σ → Prop} {routine : Routine α}
    (hleads : routine.Leads protocol pre post failed) (current : StageName) :
    (during current routine).Leads protocol pre post fun stopped => failed stopped.2 :=
  .handle hleads fun _ => .raise _ fun _ hfailed => hfailed

/-- A loop through the stages left, each of which leads to where the next begins. -/
theorem leads_stageLoop {body : List ArtifactId → StageName → Routine (List ArtifactId)}
    {left : List StageName → σ → Prop} {stages : List StageName}
    (hbody : ∀ stage rest, stage :: rest <:+ stages → ∀ parentIds,
      (body parentIds stage).Leads protocol (left (stage :: rest)) (fun _ => left rest) failed)
    (parentIds : List ArtifactId) :
    (stageLoop body stages parentIds).Leads protocol (left stages) (fun _ => left [])
      fun stopped => failed stopped.2 := by
  induction stages generalizing parentIds with
  | nil => exact .done fun _ hleft => hleft
  | cons stage rest ih =>
      refine .bind (leads_during (hbody stage rest (List.suffix_refl _) parentIds) stage)
        fun created => ih (fun other later hsuffix => ?_) created
      exact hbody other later (hsuffix.trans (List.suffix_cons stage rest))

/-- A stage is not left once it is entered. -/
theorem not_mem_of_suffix {stage : StageName} {rest stages : List StageName}
    (hsuffix : stage :: rest <:+ stages) (hnodup : stages.Nodup) : stage ∉ rest :=
  (List.nodup_cons.mp (hnodup.sublist hsuffix.sublist)).1

end Stages

/-- The assertions of an execution between its stages. -/
structure Course (protocol : Protocol σ Request Request.Answer) (failed : Raised → σ → Prop)
    (run : WorkflowRun) (retryAttempt : Nat) where
  /-- Before the stages left of the opening ones, at a repair attempt. -/
  opening : Nat → List StageName → σ → Prop
  evaluating : Nat → σ → Prop
  judged : Nat → σ → Prop
  /-- Before the stages left of a repair. -/
  repairing : Nat → List StageName → σ → Prop
  released : σ → Prop
  steady_opening : ∀ attempt left, Steady protocol failed (opening attempt left)
  steady_judged : ∀ attempt, Steady protocol failed (judged attempt)
  stage_opening : ∀ attempt stage rest, stage :: rest <:+ openingStages →
    Stage protocol failed run retryAttempt stage (if stage ∈ repairedStages then attempt else 0)
      (opening attempt (stage :: rest)) (opening attempt rest)
  reused : ∀ attempt stage rest, stage :: rest <:+ openingStages →
    stageStatus run stage = some .completed →
      ∀ state, opening attempt (stage :: rest) state → opening attempt rest state
  opened : ∀ attempt state, opening attempt [] state → evaluating attempt state
  stage_evaluation : ∀ attempt, Stage protocol failed run retryAttempt .evaluation attempt
    (evaluating attempt) (judged attempt)
  again : ∀ attempt state, judged attempt state → repairing (attempt + 1) repairedStages state
  stage_repair : ∀ attempt stage rest, stage :: rest <:+ repairedStages →
    Stage protocol failed run retryAttempt stage attempt (repairing attempt (stage :: rest))
      (repairing attempt rest)
  repaired : ∀ attempt state, repairing attempt [] state → evaluating attempt state
  stage_release : ∀ attempt, Stage protocol failed run retryAttempt .release 0 (judged attempt)
    released

section Courses

variable {run : WorkflowRun} {retryAttempt : Nat}
  (course : Course protocol failed run retryAttempt)

theorem leads_openStage {attempt : Nat} {stage : StageName} {rest : List StageName}
    (hsuffix : stage :: rest <:+ openingStages) (feedback : Option Json)
    (parentIds : List ArtifactId) :
    (openStage tools settings run attempt feedback retryAttempt parentIds stage).Leads protocol
      (course.opening attempt (stage :: rest)) (fun _ => course.opening attempt rest) failed := by
  have hsteady := course.steady_opening attempt (stage :: rest)
  unfold openStage
  extract_lets stageAttempt choose
  have hchoose (saved : List (String × ArtifactRecord)) : (choose saved).Leads protocol
      (course.opening attempt (stage :: rest)) (fun _ => course.opening attempt rest) failed := by
    show Program.Leads _ _ _ _ (if _ then _ else _)
    split
    next hreused =>
      refine .bind (hsteady.leads (incidental_event _ _).publishing) fun _ => ?_
      exact .done (course.reused attempt stage rest hsuffix hreused.2.1)
    next =>
      exact leads_runStage tools settings (course.stage_opening attempt stage rest hsuffix) _ _ _
  split
  next => exact .bind (hsteady.leads (incidental_savedOutputs _ _ _).publishing) hchoose
  next => exact hchoose []

theorem leads_judge (attempt : Nat) (feedback : Option Json) (parentIds : List ArtifactId) :
    (judge tools settings run attempt feedback retryAttempt parentIds).Leads protocol
      (course.evaluating attempt) (fun _ => course.judged attempt) failed := by
  have hsteady := course.steady_judged attempt
  exact .bind (leads_runStage tools settings (course.stage_evaluation attempt) _ _ _) fun _ =>
    .bind (hsteady.leads incidental_artifactContext.publishing) fun _ =>
      .bind (hsteady.lift _) fun _ => .bind (hsteady.lift _) fun _ => .bind (hsteady.lift _) fun _ =>
        .bind (hsteady.lift _) fun _ => .bind (hsteady.request rfl) fun _ =>
          .bind (hsteady.lift _) fun _ => .bind (hsteady.leads (incidental_event _ _).publishing)
            fun _ => .done fun _ hjudged => hjudged

theorem leads_exhaust {attempt : Nat} (hsteady : Steady protocol failed (course.judged attempt))
    {post : List ArtifactId → σ → Prop} :
    (exhaust attempt).Leads protocol (course.judged attempt) post
      fun stopped => failed stopped.2 :=
  leads_during (.bind (hsteady.leads (incidental_event _ _).publishing) fun _ =>
    .raise _ (hsteady.failed _)) _

/-- However often the evaluation asks for a repair, the loop ends with a judgment. -/
theorem leads_evaluationLoop (left attempt : Nat) (feedback : Option Json)
    (parentIds : List ArtifactId) :
    (evaluationLoop tools settings run retryAttempt left attempt feedback parentIds).Leads protocol
      (course.evaluating attempt) (fun _ state => ∃ last, course.judged last state)
        fun stopped => failed stopped.2 := by
  induction left generalizing attempt feedback parentIds with
  | zero =>
      rw [evaluationLoop_eq]
      refine .bind (leads_during (leads_judge tools settings course _ _ _) _) fun judgment => ?_
      have hsteady := course.steady_judged attempt
      split
      next => exact .done fun _ hjudged => ⟨attempt, hjudged⟩
      next => exact .done fun _ hjudged => ⟨attempt, hjudged⟩
      next => exact leads_exhaust course hsteady
      next => exact leads_exhaust course hsteady
      next heq => cases heq
  | succ left ih =>
      rw [evaluationLoop_eq]
      refine .bind (leads_during (leads_judge tools settings course _ _ _) _) fun judgment => ?_
      have hsteady := course.steady_judged attempt
      split
      next => exact .done fun _ hjudged => ⟨attempt, hjudged⟩
      next => exact .done fun _ hjudged => ⟨attempt, hjudged⟩
      next => exact leads_exhaust course hsteady
      next heq => cases heq
      next other _ heq =>
        obtain rfl : left = other := Nat.succ.inj heq
        have hrepairs (repair : List ArtifactId) := leads_stageLoop
          (fun stage rest hsuffix parentIds => leads_runStage tools settings
            (course.stage_repair (attempt + 1) stage rest hsuffix) parentIds
            (some (repairFeedback (attempt + 1) judgment)) false) repair
        refine .bind (leads_during (hsteady.leads (publishing_requestRepair run _ judgment)) _)
          fun repair => .bind ?_ fun parentIds => ih _ _ _
        exact (hrepairs repair).mono (course.again attempt)
          (fun _ => course.repaired (attempt + 1)) fun _ _ hfailed => hfailed

/-- The stages lead from where all of them are left to the end of the release. -/
theorem leads_executeStages {begun ended : σ → Prop} (hsteady : Steady protocol failed begun)
    (hbegun : ∀ attempt state, begun state → course.opening attempt openingStages state)
    (hcomplete : (do
      ask (.updateRun .completed (some .release) none)
      event "run.completed" [] : Routine Unit).Leads protocol course.released (fun _ => ended)
        failed) :
    (executeStages tools settings run retryAttempt).Leads protocol begun (fun _ => ended)
      fun stopped => failed stopped.2 := by
  unfold executeStages
  refine .bind (leads_during (hsteady.request rfl) _) fun artifacts => ?_
  have hrepairs : (if retryAttempt = 0 then pure [] else artifactContext).Leads protocol begun
      (fun _ => begun) failed := by
    split
    next => exact .done fun _ hbegun => hbegun
    next => exact hsteady.leads incidental_artifactContext.publishing
  have hopening (latest : Nat × Option Json) (parentIds : List ArtifactId) :=
    (leads_stageLoop (fun stage rest hsuffix parentIds =>
      leads_openStage tools settings course hsuffix latest.2 parentIds) parentIds).mono
        (hbegun latest.1) (fun _ => course.opened latest.1) fun _ _ hfailed => hfailed
  have hrelease (parentIds : List ArtifactId) :
      (during .release (runStage tools settings run .release parentIds 0 none retryAttempt
        false)).Leads protocol (fun state => ∃ last, course.judged last state)
          (fun _ => course.released) fun stopped => failed stopped.2 := by
    refine .of_pre fun state hjudged => ?_
    obtain ⟨last, hlast⟩ := hjudged
    exact ⟨course.judged last, hlast,
      leads_during (leads_runStage tools settings (course.stage_release last) _ _ _) _⟩
  exact .bind (leads_during hrepairs _) fun repairs =>
    .bind (leads_during (hsteady.lift _) _) fun latest =>
      .bind (hopening latest _) fun parentIds =>
        .bind (leads_evaluationLoop tools settings course _ _ _ _) fun parentIds =>
          .bind (hrelease parentIds) fun _ => leads_during hcomplete _

end Courses

end Workflow

end Aidlc
