import Aidlc.A2a.Naming
import Aidlc.Orchestration.Course
import Aidlc.Orchestration.Identities

/-! # Every delegation has an identifier of its own

An execution works under a retry number that no execution of its run had before, and
visits every stage at most once with the same repair attempt. So no two delegations of
the hub spell the same identifier, however often stages are repeated and runs are
canceled, interrupted or retried.
-/

namespace Aidlc

open Foundation Workflow

/-! ## What the programs use -/

namespace Workflow

open Census

variable {platform : Platform} (tools : HubTools platform) (settings : HubSettings)
  {runId : RunId} {retryAttempt : Nat} {actor : Actor}

/-- The effect of an answer that begins no execution. -/
theorem spares_of_answered {census next : Census} {request : Request} {answer : request.Answer}
    (hanswered : census.Answered actor request answer next)
    (htask : ∀ runId retryAttempt, actor = .handler runId → request ≠ .createTask retryAttempt) :
    census.Spares next := by
  rcases hanswered.effect with hspares | ⟨runId, retryAttempt, hactor, hrequest, -⟩
  · exact hspares
  · exact absurd hrequest (htask runId retryAttempt hactor)

/-- A request made alone needs nothing of the census. -/
theorem needs_of_solitary {census : Census} {request : Request}
    (hsolitary : request.solitary = true) : census.Needs request actor := by
  have hinner : request.ofInterface = false := by
    cases request <;> first | rfl | cases hsolitary
  cases actor with
  | handler runId =>
      refine ⟨?_, ?_⟩
      · rintro retryAttempt rfl
        cases hsolitary
      · rintro idea now rfl
        cases hsolitary
  | execution runId retryAttempt =>
      refine ⟨hinner, ?_⟩
      rintro job rfl
      cases hsolitary
  | agent job spec =>
      refine ⟨hinner, ?_⟩
      rintro other context rfl
      cases hsolitary
  | surroundings => exact hinner

/-- A part of a program that concerns no identity keeps what is known of them. -/
theorem keeps_of_solitary {ε α : Type} {program : Program Request Request.Answer ε α}
    {assertion : Census → Prop} (hsolitary : Solitary program)
    (hspares : ∀ census next, census.Spares next → assertion census → assertion next)
    (hdrifts : ∀ request census next, request.solitary = true →
      census.Drifts request next actor → assertion census → assertion next) :
    program.Keeps (identities.protocol actor) assertion := by
  refine hsolitary.keeps (fun request hrequest census _ => needs_of_solitary hrequest)
    fun request hrequest census drifted hassertion hdrift answer next hanswered => ?_
  have hspared := spares_of_answered hanswered fun runId retryAttempt _ heq => by
    rw [heq] at hrequest
    cases hrequest
  exact ⟨.spares hspared,
    hspares drifted next hspared (hdrifts request census drifted hrequest hdrift.2 hassertion)⟩

theorem keeps_true {ε α : Type} {program : Program Request Request.Answer ε α}
    (hsolitary : Solitary program) :
    program.Keeps (identities.protocol actor) fun _ => True :=
  keeps_of_solitary hsolitary (fun _ _ _ _ => trivial) fun _ _ _ _ _ _ => trivial

/-- A solitary program of an execution visits no further stage. -/
theorem keeps_covers {ε α : Type} {program : Program Request Request.Answer ε α}
    {visited : StageName → Nat → Prop} (hsolitary : Solitary program) :
    program.Keeps (identities.protocol (.execution runId retryAttempt))
      (Covers runId retryAttempt visited) := by
  refine keeps_of_solitary hsolitary (fun _ _ hspares => hspares.covers)
    fun request census next hrequest hdrift hcovers delegated hdelegated hrun hretry => ?_
  rcases hdrift delegated hdelegated hrun hretry with hold | ⟨job, rfl, -⟩
  · exact hcovers delegated hold hrun hretry
  · cases hrequest

/-- A solitary program of an agent does not use its identity. -/
theorem keeps_unused {ε α : Type} {program : Program Request Request.Answer ε α} {job : StageJob}
    {spec : AgentSpec} (hsolitary : Solitary program) :
    program.Keeps (identities.protocol (.agent job spec)) (Unused (job.identity spec)) := by
  refine keeps_of_solitary hsolitary (fun _ _ hspares => hspares.unused)
    fun request census next hrequest hdrift hunused => ?_
  rcases hdrift with ⟨other, context, rfl⟩ | hkept
  · cases hrequest
  · exact hkept hunused

/-! ### Stages -/

section Stages

variable {run : WorkflowRun}

theorem steady_covers (visited : StageName → Nat → Prop) :
    Steady (identities.protocol (.execution runId retryAttempt)) (fun _ _ => True)
      (Covers runId retryAttempt visited) :=
  ⟨fun _ _ _ => trivial, fun _ hpublishing => keeps_covers hpublishing.solitary⟩

/-- The group of a stage delegates for this stage and this repair attempt. -/
theorem leads_runAgents (hrun : run.runId = runId) {stage : StageName} {repairAttempt : Nat}
    {visited later : StageName → Nat → Prop} (hfree : ¬visited stage repairAttempt)
    (hvisited : ∀ stage repairAttempt, visited stage repairAttempt → later stage repairAttempt)
    (hlater : later stage repairAttempt) {job : StageJob} (hjob : job.run = run)
    (hstage : job.stage = stage) (hrepair : job.repairAttempt = repairAttempt)
    (hretry : job.retryAttempt = retryAttempt) :
    (ask (.runAgents job)).Leads (identities.protocol (.execution runId retryAttempt))
      (Covers runId retryAttempt visited) (fun _ => Covers runId retryAttempt later)
        fun _ _ => True := by
  subst hstage hrepair
  refine fun census hcovers => .ask ⟨rfl, ?_⟩ fun drifted hdrift answer next hanswered => ?_
  · rintro other hother
    obtain rfl := Request.runAgents.inj hother
    refine ⟨by rw [hjob, hrun], hretry, fun delegated hdelegated hsame hattempt heq => ?_⟩
    obtain ⟨hstage, hrepair⟩ := Prod.mk.inj heq
    have hbefore := hcovers delegated hdelegated hsame hattempt
    rw [hstage, hrepair] at hbefore
    exact hfree hbefore
  · have hspares := spares_of_answered hanswered fun _ _ => Actor.noConfusion
    have hdrifted : drifted.Covers runId retryAttempt later := by
      intro delegated hdelegated hsame hattempt
      rcases hdrift.2 delegated hdelegated hsame hattempt with hold | ⟨other, hother, hstage, hrepair⟩
      · exact hvisited _ _ (hcovers delegated hold hsame hattempt)
      · obtain rfl := Request.runAgents.inj hother
        rw [hstage, hrepair]
        exact hlater
    refine ⟨.spares hspares, ?_⟩
    cases answer with
    | ok created => exact hspares.covers hdrifted
    | error raised => trivial

theorem stage_of_covers (hrun : run.runId = runId) {stage : StageName} {repairAttempt : Nat}
    {visited later : StageName → Nat → Prop} (hfree : ¬visited stage repairAttempt)
    (hvisited : ∀ stage repairAttempt, visited stage repairAttempt → later stage repairAttempt)
    (hlater : later stage repairAttempt) :
    Stage (identities.protocol (.execution runId retryAttempt)) (fun _ _ => True) run retryAttempt
      stage repairAttempt (Covers runId retryAttempt visited) (Covers runId retryAttempt later) := by
  refine ⟨Covers runId retryAttempt visited, Covers runId retryAttempt visited,
    Covers runId retryAttempt later, steady_covers visited, steady_covers visited, ?_, ?_, ?_, ?_⟩
  · exact (keeps_covers (solitary_ask rfl)).leads fun _ _ _ => trivial
  · exact (keeps_covers (solitary_stageStarted stage)).leads fun _ _ _ => trivial
  · exact fun job hjob hstage hrepair hretry =>
      leads_runAgents hrun hfree hvisited hlater hjob hstage hrepair hretry
  · exact (keeps_covers (solitary_stageCompleted stage)).leads fun _ _ _ => trivial

/-- An execution visits the stages before the first evaluation once, and those of the
loop once for each repair attempt. -/
def identityCourse (hrun : run.runId = runId) :
    Course (identities.protocol (.execution runId retryAttempt)) (fun _ _ => True) run
      retryAttempt where
  opening attempt left := Covers runId retryAttempt fun stage repairAttempt =>
    stage ∈ openingStages ∧ stage ∉ left ∧ repairAttempt ≤ attempt
  evaluating attempt := Covers runId retryAttempt fun stage repairAttempt =>
    stage ≠ .release ∧ repairAttempt ≤ attempt ∧ (stage = .evaluation → repairAttempt < attempt)
  judged attempt := Covers runId retryAttempt fun stage repairAttempt =>
    stage ≠ .release ∧ repairAttempt ≤ attempt
  repairing attempt left := Covers runId retryAttempt fun stage repairAttempt =>
    stage ≠ .release ∧ repairAttempt ≤ attempt ∧
      (stage = .evaluation ∨ stage ∈ left → repairAttempt < attempt)
  released := Covers runId retryAttempt fun _ _ => True
  steady_opening _ _ := steady_covers _
  steady_judged _ := steady_covers _
  stage_opening attempt stage rest hsuffix := by
    have hnodup : openingStages.Nodup := by decide
    refine stage_of_covers hrun (fun hvisited => hvisited.2.1 (List.mem_cons_self ..))
      (fun other _ hvisited => ⟨hvisited.1, fun hrest => hvisited.2.1 (List.mem_cons_of_mem _ hrest),
        hvisited.2.2⟩) ⟨hsuffix.subset (List.mem_cons_self ..),
          not_mem_of_suffix hsuffix hnodup, ?_⟩
    split
    next => exact Nat.le_refl _
    next => exact Nat.zero_le _
  reused attempt stage rest hsuffix _ census hcovers delegated hdelegated hsame hattempt := by
    obtain ⟨hmember, hleft, hbound⟩ := hcovers delegated hdelegated hsame hattempt
    exact ⟨hmember, fun hrest => hleft (List.mem_cons_of_mem _ hrest), hbound⟩
  opened attempt census hcovers delegated hdelegated hsame hattempt := by
    obtain ⟨hmember, -, hbound⟩ := hcovers delegated hdelegated hsame hattempt
    have hopening : ∀ stage ∈ openingStages, stage ≠ .release ∧ stage ≠ .evaluation := by decide
    exact ⟨(hopening _ hmember).1, hbound, fun heq => absurd heq (hopening _ hmember).2⟩
  stage_evaluation attempt := by
    refine stage_of_covers hrun (fun hvisited => ?_)
      (fun _ _ hvisited => ⟨hvisited.1, hvisited.2.1⟩) ⟨by decide, Nat.le_refl _⟩
    exact absurd (hvisited.2.2 rfl) (Nat.lt_irrefl _)
  again attempt census hcovers delegated hdelegated hsame hattempt := by
    obtain ⟨hrelease, hbound⟩ := hcovers delegated hdelegated hsame hattempt
    exact ⟨hrelease, Nat.le_succ_of_le hbound, fun _ => Nat.lt_succ_of_le hbound⟩
  stage_repair attempt stage rest hsuffix := by
    have hnodup : repairedStages.Nodup := by decide
    have hrepaired : ∀ stage ∈ repairedStages, stage ≠ .release ∧ stage ≠ .evaluation := by decide
    have hmember := hrepaired stage (hsuffix.subset (List.mem_cons_self ..))
    refine stage_of_covers hrun (fun hvisited => ?_) (fun other _ hvisited =>
      ⟨hvisited.1, hvisited.2.1, fun hleft => hvisited.2.2 (hleft.imp_right ?_)⟩)
      ⟨hmember.1, Nat.le_refl _, fun hleft => ?_⟩
    · exact absurd (hvisited.2.2 (Or.inr (List.mem_cons_self ..))) (Nat.lt_irrefl _)
    · exact List.mem_cons_of_mem _
    · exact (hleft.elim hmember.2 (not_mem_of_suffix hsuffix hnodup)).elim
  repaired attempt census hcovers delegated hdelegated hsame hattempt := by
    obtain ⟨hrelease, hbound, hleft⟩ := hcovers delegated hdelegated hsame hattempt
    exact ⟨hrelease, hbound, hleft ∘ Or.inl⟩
  stage_release attempt :=
    stage_of_covers hrun (fun hvisited => hvisited.1 rfl) (fun _ _ _ => trivial) trivial

end Stages

end Workflow

namespace Workflow

open Census

section Programs

variable {platform : Platform} (tools : HubTools platform) (settings : HubSettings)
  {runId : RunId} {retryAttempt : Nat}

/-! ### Executions -/

/-- The first steps of an execution are made alone. -/
theorem solitary_refresh (run : WorkflowRun) (retryAttempt : Nat) :
    Solitary (do
      if retryAttempt ≠ 0 then reconcileRun
      ask (.updateRun .running (some .preflight) none)
      preflight platform settings run
      ask .getRun : Routine (Option WorkflowRun)) := by
  extract_lets enter
  have henter (reconciled : Unit) : Solitary (enter reconciled) :=
    .bind (solitary_ask rfl) fun _ => .bind (solitary_preflight platform settings run) fun _ =>
      solitary_ask rfl
  split
  next => exact .bind incidental_reconcileRun.publishing.solitary henter
  next => exact henter ()

/-- An execution starting with all its identities free follows the protocol. -/
theorem leads_executeBody {run : WorkflowRun} (hrun : run.runId = runId) :
    (executeBody tools settings run retryAttempt).Leads
      (identities.protocol (.execution runId retryAttempt))
      (Covers runId retryAttempt fun _ _ => False) (fun _ _ => True) fun _ _ => True := by
  have hcomplete : Solitary (do
      ask (.updateRun .completed (some .release) none)
      event "run.completed" [] : Routine Unit) :=
    .bind (solitary_ask rfl) fun _ => (incidental_event _ _).publishing.solitary
  refine .bind ((keeps_covers (asks_during (solitary_refresh settings run retryAttempt) _)).leads
    fun _ _ _ => trivial) fun refreshed => ?_
  cases refreshed with
  | none => exact .done fun _ _ => trivial
  | some refreshed =>
      show Program.Leads _ _ _ _ (if refreshed.status = .blocked then pure () else _)
      split
      next => exact .done fun _ _ => trivial
      next =>
        exact leads_executeStages tools settings (identityCourse hrun) (steady_covers _)
          (fun attempt census hcovers delegated hdelegated hsame hattempt =>
            (hcovers delegated hdelegated hsame hattempt).elim)
          ((keeps_true hcomplete).leads (fun _ _ _ => trivial) |>.mono (fun _ _ => trivial)
            (fun _ _ _ => trivial) fun _ _ _ => trivial)

/-- An execution delegates nothing twice. -/
theorem leads_execute :
    (execute tools settings retryAttempt).Leads
      (identities.protocol (.execution runId retryAttempt))
      (Covers runId retryAttempt fun _ _ => False) (fun _ _ => True) fun _ _ => True := by
  have hfound : (ask .getRun).Leads (identities.protocol (.execution runId retryAttempt))
      (Covers runId retryAttempt fun _ _ => False)
      (fun found census => census.Covers runId retryAttempt (fun _ _ => False) ∧
        ∀ run : WorkflowRun, found = some run → run.runId = runId) fun _ _ => True := by
    intro census hcovers
    have hneeds : census.Needs .getRun (.execution runId retryAttempt) := needs_of_solitary rfl
    refine .ask hneeds fun drifted hdrift answer next hanswered => ?_
    obtain rfl := hdrift.1 rfl
    have hspares := spares_of_answered hanswered fun _ _ => Actor.noConfusion
    refine ⟨.spares hspares, ?_⟩
    cases answer with
    | ok found =>
        exact ⟨hspares.covers hcovers, fun run hrun =>
          hanswered.tells runId rfl run (congrArg Except.ok hrun)⟩
    | error raised => trivial
  refine .bind hfound fun found => ?_
  cases found with
  | none => exact .done fun _ _ => trivial
  | some run =>
      refine .of_pre fun census hknown => ?_
      refine ⟨Covers runId retryAttempt fun _ _ => False, hknown.1, ?_⟩
      refine .handle (leads_executeBody tools settings (hknown.2 run rfl)) fun stopped => ?_
      exact ((keeps_true (solitary_concludeFailure stopped.1 stopped.2)).leads
        fun _ _ _ => trivial).mono (fun _ _ => trivial) (fun _ _ _ => trivial) fun _ _ _ => trivial

/-! ### Agents -/

variable {job : StageJob} {spec : AgentSpec}

/-- The task of an agent delegates once, and nothing afterwards. -/
theorem leads_delegate {context : AgentContext ContextItem} (hspec : spec ∈ agentSpecs)
    (hidentity : Delegated.id ⟨spec, context⟩ = job.identity spec) :
    (delegate tools settings job spec context).Leads (identities.protocol (.agent job spec))
      (Unused (job.identity spec)) (fun _ _ => True) fun _ _ => True := by
  have hinvoke : (ask (.invoke spec context)).Leads (identities.protocol (.agent job spec))
      (Unused (job.identity spec)) (fun _ _ => True) fun _ _ => True := by
    refine fun census hunused => .ask ⟨rfl, ?_⟩ fun drifted hdrift answer next hanswered => ?_
    · rintro other later hinvoke
      obtain ⟨rfl, rfl⟩ := Request.invoke.inj hinvoke
      exact ⟨rfl, hspec, hidentity, hunused⟩
    · refine ⟨.spares (spares_of_answered hanswered fun _ _ => Actor.noConfusion), ?_⟩
      cases answer <;> trivial
  have hpublish (result : AgentResult) : Solitary (do
      recordExecution settings spec.name result spec.stage
        (some (ownSelection tools settings job spec context))
      let artifact ← publish (resultRequest tools settings job spec context result)
      event "artifact.created" [artifactField artifact, kindField artifact.metadata.kind,
        stageField job.stage, ("agent_completed", .bool true),
        ("repair_attempt", .int job.repairAttempt)]
      event "agent.completed" [("agent", .str spec.name), stageField job.stage]
      return artifact.metadata.artifactId : Routine ArtifactId) :=
    .bind (incidental_recordExecution settings _ _ _ _).publishing.solitary fun _ =>
      .bind (publishing_publish _).solitary fun _ =>
        .bind (incidental_event _ _).publishing.solitary fun _ =>
          .bind (incidental_event _ _).publishing.solitary fun _ => .done _
  refine .bind ((keeps_unused (incidental_event _ _).publishing.solitary).leads
    fun _ _ _ => trivial) fun _ => .bind hinvoke fun result => ?_
  exact ((keeps_true (hpublish result)).leads fun _ _ _ => trivial).mono (fun _ _ => trivial)
    (fun _ _ _ => trivial) fun _ _ _ => trivial

/-- An agent with its identity unused follows the protocol. -/
theorem leads_invokeAgent (hspec : spec ∈ agentsByStage job.stage) :
    (invokeAgent tools settings job spec).Leads (identities.protocol (.agent job spec))
      (Unused (job.identity spec)) (fun _ _ => True) fun _ _ => True := by
  have hkeeps {ε α : Type} {program : Program Request Request.Answer ε α}
      (hincidental : Incidental program) :
      program.Leads (identities.protocol (.agent job spec)) (Unused (job.identity spec))
        (fun _ => Unused (job.identity spec)) fun _ _ => True :=
    (keeps_unused hincidental.publishing.solitary).leads fun _ _ _ => trivial
  unfold invokeAgent
  split
  next => exact .bind (hkeeps (incidental_event _ _)) fun _ => .done fun _ _ => trivial
  next =>
    refine .bind (hkeeps (incidental_ask rfl)) fun _ => ?_
    cases hbuild : buildAgentContext spec job.run.runId job.run.idea job.context.artifacts
        job.repairAttempt job.repairFeedback job.retryAttempt with
    | error error => exact .raise _ fun _ _ => trivial
    | ok context =>
        have hidentity := StageJob.identity_of_context hspec hbuild
        rw [lift_ok, Program.done_bind]
        refine .bind (hkeeps (incidental_event _ _)) fun _ => ?_
        extract_lets reuse
        have hreuse (cached : Option ArtifactRecord) :
            (reuse cached).Leads (identities.protocol (.agent job spec))
              (Unused (job.identity spec)) (fun _ _ => True) fun _ _ => True := by
          cases cached with
          | some artifact =>
              exact .bind (hkeeps (incidental_event _ _)) fun _ => .done fun _ _ => trivial
          | none => exact leads_delegate tools settings (List.mem_filter.mp hspec).1 hidentity
        split
        next => exact .bind (hkeeps (incidental_cachedOutput _ _ _)) hreuse
        next => exact hreuse none

end Programs

/-! ### The interface -/

section Interface

variable {runId : RunId} {attempt : Nat}

/-- A statement of a call of the interface, which nobody interrupts. -/
theorem leads_statement {request : Request} {before : Census → Prop}
    {after : request.Value → Census → Prop}
    (hneeds : ∀ census, before census → census.Needs request (.handler runId))
    (htask : ∀ retryAttempt, request ≠ .createTask retryAttempt)
    (hafter : ∀ census next value, census.Spares next →
      request.Informs runId census next (.ok value) → before census → after value next) :
    (ask request).Leads (identities.protocol (.handler runId)) before after fun _ _ => True := by
  refine fun census hbefore => .ask (hneeds census hbefore)
    fun drifted hdrift answer next hanswered => ?_
  obtain rfl : drifted = census := hdrift.2
  have hspares := spares_of_answered hanswered fun _ retryAttempt _ => htask retryAttempt
  refine ⟨.spares hspares, ?_⟩
  cases answer with
  | ok value => exact hafter drifted next value hspares (hanswered.tells runId rfl) hbefore
  | error raised => trivial

/-- A handler that starts a fresh attempt follows the protocol. -/
theorem leads_createTask :
    (ask (.createTask attempt)).Leads (identities.protocol (.handler runId))
      (fun census => census.Fresh runId attempt) (fun _ _ => True) fun _ _ => True := by
  refine fun census hfresh => .ask ⟨?_, ?_⟩ fun drifted hdrift answer next hanswered => ?_
  · rintro other hother
    obtain rfl := Request.createTask.inj hother
    exact hfresh
  · exact fun idea now hother => by cases hother
  · obtain rfl : drifted = census := hdrift.2
    have hends : Program.Ends (fun _ _ => True) (fun _ _ => True) answer next := by
      cases answer <;> trivial
    rcases hanswered.effect with hspares | ⟨run, retryAttempt, hactor, hrequest, rfl⟩
    · exact ⟨.spares hspares, hends⟩
    · obtain rfl := Actor.handler.inj hactor
      obtain rfl := Request.createTask.inj hrequest
      exact ⟨.launches hfresh, hends⟩

/-- What a call of the interface does between two of its own statements. -/
theorem leads_between {α : Type} {program : Routine α} {assertion : Census → Prop}
    (hsolitary : Solitary program)
    (hspares : ∀ census next, census.Spares next → assertion census → assertion next) :
    program.Leads (identities.protocol (.handler runId)) assertion (fun _ => assertion)
      fun _ _ => True := by
  have hkeeps : program.Keeps (identities.protocol (.handler runId)) assertion := by
    refine keeps_of_solitary hsolitary hspares fun request census next _ hdrift hassertion => ?_
    obtain rfl : next = census := hdrift
    exact hassertion
  exact hkeeps.leads fun _ _ _ => trivial

/-- Creating a run under a name of its own follows the protocol. -/
theorem leads_createRun (hnamed : ∃ id, runId = newRunId id) (idea : String) (now : Nat) :
    (createRun idea now).Leads (identities.protocol (.handler runId)) Accounted (fun _ _ => True)
      fun _ _ => True := by
  have hinitialize : (ask (.initializeProject idea)).Leads (identities.protocol (.handler runId))
      Accounted (fun _ => Accounted) fun _ _ => True :=
    leads_statement (fun _ _ => ⟨fun _ => Request.noConfusion, fun _ _ => Request.noConfusion⟩)
      (fun _ => Request.noConfusion) fun _ _ _ hspares _ => hspares.accounted
  have hcreate : (ask (.createRun idea now)).Leads (identities.protocol (.handler runId))
      Accounted (fun _ census => census.Fresh runId 0) fun _ _ => True := by
    refine leads_statement (fun _ _ => ⟨fun _ => Request.noConfusion, fun _ _ _ => hnamed⟩)
      (fun _ => Request.noConfusion) fun census next value hspares htells haccounted => ?_
    obtain ⟨habsent, hknown⟩ := htells rfl
    have hother {other : RunId} (hother : census.stores.database.hasRun other = true) :
        other ≠ runId := by
      rintro rfl
      rw [habsent] at hother
      cases hother
    refine ⟨hknown, Nat.zero_le _, hspares.idle fun task attempt hattempt => ?_,
      fun delegated hdelegated hsame => ?_⟩
    · exact hother (haccounted.known task attempt hattempt)
    · rw [hspares.delegated] at hdelegated
      exact absurd hsame (hother (haccounted.delegated delegated hdelegated).1)
  exact .bind hinitialize fun _ => .bind hcreate fun _ =>
    .bind (leads_between (incidental_event _ _).publishing.solitary fun _ _ hspares =>
      hspares.fresh) fun _ => leads_createTask

/-- The next retry of a run without an execution. -/
structure Ready (runId : RunId) (attempt : Nat) (census : Census) : Prop where
  idle : census.Idle runId
  bounded : attempt ≤ census.retries runId + 1
  unused : ∀ delegated ∈ census.delegated, delegated.id.runId = runId →
    delegated.id.retryAttempt < attempt

theorem Ready.spares {census next : Census} (hspares : census.Spares next)
    (hready : Ready runId attempt census) : Ready runId attempt next where
  idle := hspares.idle hready.idle
  bounded := hready.bounded.trans (Nat.succ_le_succ (hspares.retries runId))
  unused := hspares.delegated ▸ hready.unused

theorem leads_retry :
    retry.Leads (identities.protocol (.handler runId)) Accounted (fun _ _ => True)
      fun _ _ => True := by
  have hplain {request : Request} (hsolitary : request.solitary = true) (census : Census) :
      census.Needs request (.handler runId) := needs_of_solitary hsolitary
  have hidle : (ask (.activeTask false)).Leads (identities.protocol (.handler runId)) Accounted
      (fun active census => census.Accounted ∧ (active = false → census.Idle runId))
      fun _ _ => True := by
    refine leads_statement (fun _ _ => ⟨fun _ => Request.noConfusion, fun _ _ => Request.noConfusion⟩)
      (fun _ => Request.noConfusion) fun census next active hspares htells haccounted => ?_
    refine ⟨hspares.accounted haccounted, fun hnone => hspares.idle ?_⟩
    exact htells (congrArg Except.ok hnone) rfl
  have hcount : (ask .eventsAfter).Leads (identities.protocol (.handler runId))
      (fun census => census.Accounted ∧ census.Idle runId)
      (fun events : List EventRecord =>
        Ready runId (1 + events.countP fun event => event.eventType == "run.retry_requested"))
      fun _ _ => True := by
    refine leads_statement (fun census _ => hplain rfl census) (fun _ => Request.noConfusion)
      fun census next events hspares htells hknown => ?_
    obtain ⟨haccounted, hidle⟩ := hknown
    have hevents := htells events rfl
    refine Ready.spares hspares ⟨hidle, ?_, fun delegated hdelegated hsame => ?_⟩
    · exact (Nat.add_comm _ _).le.trans (Nat.succ_le_succ hevents.le)
    · have hbounded := (haccounted.delegated delegated hdelegated).2.1
      rw [hsame, ← hevents] at hbounded
      exact Nat.lt_one_add_iff.mpr hbounded
  have hrequest (attempt : Nat) (payload : List (String × Json)) :
      (event "run.retry_requested" payload).Leads (identities.protocol (.handler runId))
        (Ready runId attempt) (fun _ census => census.Fresh runId attempt) fun _ _ => True := by
    refine leads_statement (fun census _ => hplain rfl census) (fun _ => Request.noConfusion)
      fun census next _ hspares htells hready => ?_
    obtain ⟨hknown, hretries⟩ := htells rfl
    have hlater := Ready.spares hspares hready
    exact ⟨hknown, hready.bounded.trans (hretries rfl), hlater.idle,
      fun delegated hdelegated hsame => (hlater.unused delegated hdelegated hsame).ne⟩
  unfold retry
  refine .bind (leads_between (solitary_ask rfl) fun _ _ hspares => hspares.accounted)
    fun found => ?_
  cases found with
  | none => exact .raise _ fun _ _ => trivial
  | some run =>
      dsimp -zeta only
      extract_lets start check
      have hstart (idle : Unit) : (start idle).Leads (identities.protocol (.handler runId))
          (fun census => census.Accounted ∧ census.Idle runId) (fun _ _ => True) fun _ _ => True := by
        have hkept (census next : Census) (hspares : census.Spares next)
            (hknown : census.Accounted ∧ census.Idle runId) : next.Accounted ∧ next.Idle runId :=
          ⟨hspares.accounted hknown.1, hspares.idle hknown.2⟩
        exact .bind (leads_between incidental_artifactContext.publishing.solitary hkept)
          fun contents => .bind hcount fun events =>
            .bind (leads_between (solitary_ask rfl) fun _ _ => Ready.spares) fun _ =>
              .bind (hrequest _ _) fun _ => leads_createTask
      have hcheck (allowed : Unit) : (check allowed).Leads (identities.protocol (.handler runId))
          Accounted (fun _ _ => True) fun _ _ => True := by
        refine .bind hidle fun active => ?_
        cases active with
        | true => exact .raise _ fun _ _ => trivial
        | false =>
            exact (hstart ()).mono (fun _ hknown => ⟨hknown.1, hknown.2 rfl⟩)
              (fun _ _ _ => trivial) fun _ _ _ => trivial
      split
      next => exact .raise _ fun _ _ => trivial
      next => exact hcheck ()

/-- The requests by which runs and executions begin. -/
def opens : Request → Bool
  | .createRun .. | .createTask _ => true
  | _ => false

theorem opens_ask {request : Request} (hopens : opens request = false) :
    (ask request).Asks fun request => opens request = false := ⟨hopens, fun _ => .ofExcept _⟩

theorem asks_cancel : cancel.Asks fun request => opens request = false := by
  refine .bind (opens_ask rfl) fun active => ?_
  split
  next =>
    refine .bind (opens_ask rfl) fun found => ?_
    extract_lets stop
    have hstop (pending : Unit) : (stop pending).Asks fun request => opens request = false :=
      .bind (opens_ask rfl) fun _ => opens_ask rfl
    cases found with
    | none => exact hstop ()
    | some run =>
        dsimp only
        split
        next => exact .bind (opens_ask rfl) hstop
        next => exact hstop ()
  next => exact .done _

theorem opens_of_converses {request : Request} (hconverses : request.converses = true) :
    opens request = false := by
  cases request <;> first | rfl | cases hconverses

/-- A call of the interface that begins nothing uses no identity. -/
theorem leads_unopened {program : Routine Unit}
    (hasks : program.Asks fun request => opens request = false) :
    program.Leads (identities.protocol (.handler runId)) (fun _ => True) (fun _ _ => True)
      fun _ _ => True := by
  have hkeeps : program.Keeps (identities.protocol (.handler runId)) fun _ => True := by
    refine hasks.keeps (fun request hopens census _ => ⟨?_, ?_⟩)
      fun request hopens census drifted _ hdrift answer next hanswered => ⟨.spares ?_, trivial⟩
    · rintro retryAttempt rfl
      cases hopens
    · rintro idea now rfl
      cases hopens
    · refine spares_of_answered hanswered fun _ retryAttempt _ heq => ?_
      rw [heq] at hopens
      cases hopens
  exact hkeeps.leads fun _ _ _ => trivial

theorem leads_command (command : Command) :
    (Hub.command command).Leads (identities.protocol (.handler runId)) Accounted (fun _ _ => True)
      fun _ _ => True := by
  cases command with
  | retry => exact leads_retry
  | cancel =>
      exact (leads_unopened asks_cancel).mono (fun _ _ => trivial) (fun _ _ => id) fun _ _ => id
  | respond action =>
      refine (leads_unopened ((conversing_respond action).mono fun _ => opens_of_converses)).mono
        (fun _ _ => trivial) (fun _ _ => id) fun _ _ => id

end Interface

end Workflow

/-! ## No identifier is used twice -/

namespace Hub

open Census

variable {platform : Platform} {clock : Nat → Nat} {tools : HubTools platform}
  {settings : HubSettings} {hub next : Hub} {runId : RunId} {retryAttempt : Nat}
  {fault : StorageFault} {actor : Actor}

theorem census_createTask
    (hserve : hub.serve platform clock runId fault (.createTask retryAttempt) =
      some (.ok (), next)) : next.census = hub.census.launch runId retryAttempt := by
  obtain ⟨-, rfl⟩ := Prod.mk.inj (Option.some.inj hserve)
  refine congrArg (fun executions => { hub.census.launch runId retryAttempt with executions }) ?_
  exact executions_setCoroutine (some ⟨runId, retryAttempt, false, false, .scheduled⟩)

/-- An execution that is replaced by one of the same retry. -/
theorem settles_setCoroutine {task : Nat} {coroutine current : Coroutine}
    (hcoroutine : hub.coroutines task = some coroutine) (hrun : current.runId = coroutine.runId)
    (hretry : current.retryAttempt = coroutine.retryAttempt) :
    hub.census.Settles (hub.setCoroutine task (some current)).census := by
  refine settles_of_executions fun other attempt hattempt => ?_
  change (Function.update hub.coroutines task (some current) other).map Coroutine.attempt =
    some attempt at hattempt
  by_cases hother : other = task
  · rw [hother, Function.update_self, Option.map_some, Option.some.injEq] at hattempt
    exact ⟨coroutine.attempt, hother ▸ executions_of_coroutine hcoroutine, hattempt ▸ hrun.symm,
      hattempt ▸ hretry.symm⟩
  · rw [Function.update_of_ne hother] at hattempt
    exact ⟨attempt, hattempt, rfl, rfl⟩

/-- Cancelling a task begins no execution and touches nothing else. -/
theorem settles_cancelTask {answer : Except Raised Unit}
    (hserve : hub.serve platform clock runId fault .cancelTask = some (answer, next)) :
    hub.census.Settles next.census ∧ next.toShared = hub.toShared := by
  obtain ⟨-, rfl⟩ := Prod.mk.inj (Option.some.inj hserve)
  split
  next task coroutine hlive =>
    obtain ⟨filed, -, hfound⟩ := Option.bind_eq_some_iff.mp hlive
    obtain ⟨found, hcoroutine, hpair⟩ := Option.map_eq_some_iff.mp hfound
    obtain ⟨rfl, rfl⟩ := Prod.mk.inj hpair
    exact ⟨settles_setCoroutine hcoroutine rfl rfl, rfl⟩
  next => exact ⟨(Spares.refl _).toSettles, rfl⟩

/-- The table of workflows and the executions agree. -/
theorem idle_of_liveTask (hfiled : hub.census.Filed) (hnone : hub.liveTask runId = none) :
    hub.census.Idle runId := by
  rintro task attempt hattempt rfl
  have htask := hfiled.filed task attempt hattempt
  obtain ⟨coroutine, hcoroutine, -⟩ := Option.map_eq_some_iff.mp hattempt
  have hlive : hub.liveTask attempt.runId = some (task, coroutine) := by
    unfold liveTask
    rw [show hub.tasks attempt.runId = some task from htask, Option.bind_some, hcoroutine]
    rfl
  rw [hnone] at hlive
  cases hlive

/-- What the hub answers, as far as identities are concerned. -/
theorem answered_of_serve {request : Request} {answer : request.Answer}
    (hactor : actor.runId = some runId) (haccounted : hub.census.Accounted)
    (hneeds : hub.census.Needs request actor)
    (hserve : hub.serve platform clock runId fault request = some (answer, next)) :
    hub.census.Answered actor request answer next.census := by
  have hinner (hinterface : request.ofInterface = true) : actor = .handler runId := by
    cases actor with
    | handler run =>
        obtain rfl := Option.some.inj hactor
        rfl
    | execution run retryAttempt => exact absurd (hneeds.1.symm.trans hinterface) Bool.false_ne_true
    | agent job spec => exact absurd (hneeds.1.symm.trans hinterface) Bool.false_ne_true
    | surroundings => cases hactor
  have hself {run : RunId} (hrun : actor.runId = some run) : run = runId :=
    Option.some.inj (hrun.symm.trans hactor)
  cases request with
  | activeTask cancelable =>
      obtain ⟨rfl, rfl⟩ := Prod.mk.inj (Option.some.inj hserve)
      refine ⟨Or.inl (.refl _), fun run hrun hnone hcancelable => ?_⟩
      rw [hself hrun]
      refine idle_of_liveTask haccounted.toFiled
        (Option.eq_none_iff_forall_not_mem.mpr fun live hlive => ?_)
      have hany := Except.ok.inj hnone
      rw [hlive, hcancelable] at hany
      cases hany
  | createTask retryAttempt =>
      obtain rfl : answer = .ok () := (Prod.mk.inj (Option.some.inj hserve)).1.symm
      exact ⟨Or.inr ⟨runId, retryAttempt, hinner rfl, rfl, census_createTask hserve⟩,
        fun _ _ => trivial⟩
  | cancelTask =>
      obtain ⟨hsettles, hshared⟩ := settles_cancelTask hserve
      exact ⟨Or.inl (hsettles.spares hshared), fun _ _ => trivial⟩
  | _ =>
      obtain ⟨after, hanswer, rfl⟩ := stored_of_serve rfl hserve
      refine ⟨Or.inl (spares_of_stores (answer_writes hanswer).grows
        (named_of_answer hanswer fun idea now hcreate => ?_)), fun run hrun => ?_⟩
      · rw [hcreate] at hneeds hinner
        have hhandler := hinner rfl
        rw [hhandler] at hneeds
        exact hneeds.2 idea now rfl
      · rw [hself hrun]
        exact tells_of_answer hanswer

/-- Recovering one run creates and deletes none. -/
theorem hasRun_recoverRun {database last : Database} {run : WorkflowRun}
    (hlast : database.recoverRun run = .ok last) (other : RunId) :
    last.hasRun other = database.hasRun other := by
  unfold Database.recoverRun at hlast
  split at hlast
  next =>
    obtain ⟨-, rfl⟩ := Database.appendEvent_eq_ok.mp hlast
    refine (hasRun_updateRun _ other _ _ _).trans ?_
    split
    next => exact hasRun_updateStage _ other _ _ _
    next => rfl
  next =>
    cases hlast
    rfl

theorem hasRun_recoverStatements (database : Database) (run : WorkflowRun) (count : Nat)
    (other : RunId) : (database.recoverStatements run count).hasRun other = database.hasRun other := by
  unfold Database.recoverStatements
  split
  next =>
    cases run.currentStage with
    | none =>
      dsimp only
      split
      next => rfl
      next => rfl
      next => exact hasRun_updateRun _ other _ _ _
    | some stage =>
      dsimp only
      split
      next => rfl
      next => exact hasRun_updateStage _ other _ _ _
      next => exact (hasRun_updateRun _ other _ _ _).trans (hasRun_updateStage _ other _ _ _)
  next => rfl

theorem hasRun_recoverRuns {database last : Database} {listed : List WorkflowRun}
    (hlast : listed.foldlM Database.recoverRun database = .ok last) (other : RunId) :
    last.hasRun other = database.hasRun other :=
  @Database.foldlM_invariant database (fun recovered => recovered.hasRun other = database.hasRun other)
    (fun _ _ _ hsame hround => (hasRun_recoverRun hround other).trans hsame) listed last rfl hlast

theorem hasRun_recoverPart {database last : Database} {runs statements : Nat}
    (hlast : database.recoverPart runs statements = .ok last) (other : RunId) :
    last.hasRun other = database.hasRun other := by
  unfold Database.recoverPart at hlast
  dsimp only at hlast
  cases hfold : ((database.listRuns 10000).take runs).foldlM Database.recoverRun database with
  | error error =>
      rw [hfold] at hlast
      cases hlast
  | ok recovered =>
      rw [hfold] at hlast
      have hsame := hasRun_recoverRuns hfold other
      obtain rfl := Except.ok.inj hlast
      split
      next run _ => exact (hasRun_recoverStatements recovered run statements other).trans hsame
      next => exact hsame

/-- A startup creates no run. -/
theorem hasRun_recover {cut : Option (Nat × Nat)} (hnext : hub.recover cut = some next)
    (other : RunId) :
    next.stores.database.hasRun other = hub.stores.database.hasRun other := by
  unfold recover at hnext
  split at hnext
  next =>
    split at hnext
    next database hrecovered =>
      cases hnext
      exact hasRun_recoverRuns hrecovered other
    next => cases hnext
  next runs statements =>
    split at hnext
    next database hrecovered =>
      cases hnext
      exact hasRun_recoverPart hrecovered other
    next => cases hnext

/-- A startup changes nothing but the database. -/
theorem census_recover {cut : Option (Nat × Nat)} (hnext : hub.recover cut = some next) :
    ∃ database, next.census = hub.census.withDatabase database := by
  unfold recover at hnext
  split at hnext <;>
  · split at hnext
    next database _ =>
      cases hnext
      exact ⟨database, rfl⟩
    next => cases hnext

/-- A restart uses no identity. -/
theorem spares_recover {cut : Option (Nat × Nat)} (hnext : hub.recover cut = some next) :
    hub.census.Spares next.census := by
  obtain ⟨database, hdatabase⟩ := census_recover hnext
  have hstores : next.stores = hub.stores.withDatabase database :=
    congrArg (fun census : Census => census.stores) hdatabase
  have hgrows := grows_recover hnext
  have hruns := hasRun_recover hnext
  rw [hstores] at hgrows hruns
  rw [hdatabase]
  exact spares_of_stores hgrows fun other hother => Or.inl ((hruns other).symm.trans hother)

end Hub

/-- The answer to a request that waited tells nothing. -/
theorem tells_of_suspends {census next : Census} {runId : RunId} {request : Request}
    {answer : request.Answer} (hsuspends : request.suspends = true) :
    request.Informs runId census next answer := by
  cases request <;> trivial

/-- An agent only counts on its own identity. -/
theorem identities_stays {job : StageJob} {spec : AgentSpec} {census next : Census}
    (hunused : census.Unused (job.identity spec) → next.Unused (job.identity spec)) :
    identities.Stays job spec census next := by
  refine ⟨fun request hsuspends => ⟨fun hanswered => ?_, Or.inr hunused⟩, hunused, fun _ => trivial⟩
  rw [hsuspends] at hanswered
  cases hanswered

/-- Every program uses identities only as the others count on. -/
theorem sound_identities {platform : Platform} (clock : Nat → Nat) (tools : HubTools platform)
    (settings : HubSettings) : identities.Sound clock tools settings where
  initial := by
    refine ⟨⟨fun _ _ hattempt => ?_, fun _ _ hattempt => ?_, fun _ _ htask => ?_, fun _ _ => rfl⟩,
      fun _ _ hattempt => ?_, List.forall_mem_nil _, fun _ hrun => ?_, List.nodup_nil⟩
    · cases hattempt
    · cases hattempt
    · cases htask
    · cases hattempt
    · cases hrun
  distinct haccounted hfirst hsecond := haccounted.toFiled.distinct hfirst hsecond
  vacant haccounted := haccounted.vacant _ le_rfl
  create id idea now haccounted := by
    have hnamed : ∃ other, newRunId id = newRunId other := ⟨id, rfl⟩
    exact (leads_createRun hnamed idea now _ haccounted).mono fun _ _ _ => trivial
  command runId command haccounted :=
    (leads_command command _ haccounted).mono fun _ _ _ => trivial
  begin _ _ hcovers := (leads_execute tools settings _ hcovers).mono fun _ _ _ => trivial
  start _ hspec hunused := (leads_invokeAgent tools settings hspec _ hunused).mono fun _ _ _ => trivial
  input _ _ _ _ _ _ _ :=
    (keeps_true (solitary_humanInput tools settings _ _) _ trivial).mono fun _ _ _ => trivial
  inner {actor request census} hactor hneeds := by
    cases actor with
    | handler runId => exact absurd rfl (hactor runId)
    | execution runId retryAttempt => exact hneeds.1
    | agent job spec => exact hneeds.1
    | surroundings => exact hneeds
  idle {actor request census} := by
    refine ⟨fun _ => rfl, ?_⟩
    cases actor with
    | handler runId => rfl
    | execution runId retryAttempt => exact fun _ hdelegated _ _ => Or.inl hdelegated
    | agent job spec => exact Or.inr id
    | surroundings => trivial
  served hactor _ haccounted hneeds _ hserve := Hub.answered_of_serve hactor haccounted hneeds hserve
  replied _ hsuspends := ⟨Or.inl (.refl _), fun _ _ => tells_of_suspends hsuspends⟩
  refused _ hsuspends :=
    ⟨Or.inl ((Census.settles_calm _).spares rfl), fun _ _ => tells_of_suspends hsuspends⟩
  responded hsuspends _ := ⟨Or.inl (.refl _), fun _ _ => tells_of_suspends hsuspends⟩
  returned _ := ⟨Or.inl (.refl _), fun _ _ => trivial⟩
  kept huses haccounted := Census.Uses.accounted huses haccounted
  grouped hneeds := by
    obtain ⟨hrun, hretry, hcovers⟩ := hneeds.2 _ rfl
    refine ⟨hrun, hretry, fun spec _ delegated hdelegated hid => ?_⟩
    obtain ⟨hsame, hstage, -, hrepair, hattempt⟩ := InvocationId.mk.inj hid
    exact hcovers delegated hdelegated (hsame.trans hrun) (hattempt.trans hretry)
      (Prod.ext hstage hrepair)
  -- The only rule that uses up an identity.
  invoked {census job spec other context} haccounted hlive hneeds := by
    obtain ⟨rfl, hspec, hid, hunused⟩ := hneeds.2 _ _ rfl
    obtain ⟨hrun, hstage, -, -, -⟩ := InvocationId.mk.inj hid
    refine ⟨rfl, hrun, hstage, .delegates hspec hlive hid hunused, ⟨?_, ?_⟩, trivial⟩
    · exact fun hsuspends => by cases hsuspends
    · exact Or.inl ⟨_, _, rfl⟩
  client hconfined := .spares (Census.spares_of_stores hconfined.writes.grows fun runId hrun =>
    Or.inl ((Database.hasRun_congr hconfined.runs runId).symm.trans hrun))
  done _ := .spares ((Census.settles_forget _).spares rfl)
  calmed {census runId retryAttempt task} _ _ := by
    have hspares : census.Spares (census.calm task) := (Census.settles_calm task).spares rfl
    refine ⟨.spares hspares, fun job => ⟨fun hsuspends => (by cases hsuspends), ?_⟩,
      fun job spec _ _ => ⟨fun request hsuspends => ⟨fun hanswered => ?_, Or.inr hspares.unused⟩,
        hspares.unused, fun _ => trivial⟩⟩
    · exact fun _ hdelegated _ _ => Or.inl (hspares.delegated ▸ hdelegated)
    · rw [hsuspends] at hanswered
      cases hanswered
  stopped stopped := .spares ((Census.settles_stop stopped).spares rfl)
  popped htask hdone := .spares ((Census.settles_pop htask hdone).spares rfl)
  crashed {census} haccounted := by
    refine ⟨Census.filed_crash census, fun _ _ hattempt => ?_, haccounted.delegated,
      haccounted.named, haccounted.distinct⟩
    cases hattempt
  recovered haccounted _ hnext := (Hub.spares_recover hnext).accounted haccounted
  trans hfirst hsecond := ⟨fun hanswered => by rw [hsecond.1 hanswered, hfirst.1 hanswered],
    hfirst.2.trans hsecond.2⟩
  foreign {actor runId retryAttempt census next} _ _ hforeign huses := by
    refine ⟨fun request hsuspends => ⟨fun hanswered => ?_, fun _ hdelegated hrun _ =>
      Or.inl (Census.Uses.foreign huses hforeign hdelegated hrun)⟩, fun hcovers delegated hdelegated
        hrun hretry => ?_, fun job spec hrun _ => identities_stays fun hunused => ?_⟩
    · rw [hsuspends] at hanswered
      cases hanswered
    · exact hcovers delegated (Census.Uses.foreign huses hforeign hdelegated hrun) hrun hretry
    · refine Census.Uses.unused huses (fun other agent hactor hsame => ?_) hunused
      rw [hactor] at hforeign
      exact absurd (hsame.trans hrun) hforeign
  -- What a handler calls delegates nothing.
  called _ _ hchain _ := by
    have hdelegated := Census.delegated_of_chain hchain
    refine ⟨fun run retryAttempt _ => ⟨fun request hsuspends => ⟨fun hanswered => ?_,
      fun _ hmember _ _ => Or.inl (hdelegated ▸ hmember)⟩, fun hcovers _ hmember =>
        hcovers _ (hdelegated ▸ hmember), fun job spec _ _ => identities_stays fun hunused _ hmember =>
          hunused _ (hdelegated ▸ hmember)⟩, fun task attempt hnone hattempt =>
            Census.covers_of_chain hchain hnone hattempt⟩
    rw [hsuspends] at hanswered
    cases hanswered
  member _ huses := by
    refine ⟨fun hsuspends => (by cases hsuspends), fun delegated hdelegated hrun hretry => ?_⟩
    rcases Census.Uses.delegated huses hdelegated with hold | ⟨job, spec, hactor, hid⟩
    · exact Or.inl hold
    · obtain ⟨rfl, rfl⟩ := Actor.agent.inj hactor
      exact Or.inr ⟨_, rfl, congrArg InvocationId.stage hid,
        congrArg InvocationId.repairAttempt hid⟩
  -- The identities of two agents of one group differ in the agent.
  sibling _ _ hname huses := by
    refine identities_stays fun hunused => Census.Uses.unused huses (fun _ _ hactor _ => ?_) hunused
    obtain ⟨-, rfl⟩ := Actor.agent.inj hactor
    exact hname
  own _ _ := ⟨fun hsuspends => (by cases hsuspends), Or.inl ⟨_, _, rfl⟩⟩

theorem disciplined_identities {platform : Platform} {clock : Nat → Nat}
    {tools : HubTools platform} {settings : HubSettings} {labels : List HubLabel} {hub : Hub}
    (hrun : (orchestration clock tools settings).run .empty labels = some hub) :
    hub.Disciplined platform settings identities := by
  refine Regime.disciplined_of_run (sound_identities clock tools settings)
    (fun hub label _ _ => ?_) ((orchestration clock tools settings).along_true .empty labels) hrun
  cases label <;> first | trivial | exact fun _ _ _ _ => trivial

/-- However runs are repaired, canceled, interrupted and retried: no two delegations of the
hub spell the same invocation identifier, by which agents know them. -/
theorem invocations_distinct {platform : Platform} {clock : Nat → Nat} {tools : HubTools platform}
    {settings : HubSettings} {labels : List HubLabel} {hub : Hub}
    (hrun : (orchestration clock tools settings).run .empty labels = some hub) :
    (hub.delegated.map fun delegated => delegated.id.text).Nodup := by
  have haccounted : hub.census.Accounted := (disciplined_identities hrun).invariant
  have hwellformed (delegated : Delegated) (hdelegated : delegated ∈ hub.delegated) :
      delegated.id.Wellformed := by
    obtain ⟨hknown, -, hspec⟩ := haccounted.delegated delegated hdelegated
    obtain ⟨id, hid⟩ := haccounted.named _ hknown
    exact ⟨hid ▸ plain_of_uuid id, plain_agent hspec⟩
  have htexts : ((hub.delegated.map Delegated.id).map InvocationId.text).Nodup := by
    refine List.Nodup.map_on (fun first hfirst second hsecond htext => ?_) haccounted.distinct
    obtain ⟨one, hone, rfl⟩ := List.mem_map.mp hfirst
    obtain ⟨other, hother, rfl⟩ := List.mem_map.mp hsecond
    exact InvocationId.text_inj (hwellformed one hone) (hwellformed other hother) htext
  rw [List.map_map] at htexts
  exact htexts

def sampleFailingTools : HubTools samplePlatform where
  evaluateGates _ _ := .error storageFailure
  validateGates _ := .error storageFailure
  validateEvaluation _ := .error storageFailure
  mergeSources _ := .error storageFailure
  contextBytes _ := 0
  contextSha256 _ := ""
  fingerprint _ := ""

def sampleInspection : HostReport := ⟨0, true, false, "", "", "", "", []⟩

/-- The first delegation of an execution. -/
def sampleDelegation (task : Nat) : List HubLabel :=
  [.startChild task "intake-agent", .acquire task "intake-agent"] ++
    List.replicate 2 (.step .none)

/-- A run whose first delegation fails, and which is retried. -/
def sampleRetried : List HubLabel :=
  [.recover none, .create sampleUuid "Build a task list" 0] ++ List.replicate 4 (.step .none) ++
  [.start 0] ++ List.replicate 4 (.step .none) ++ [.reply 0 (.host sampleInspection)] ++
  List.replicate 12 (.step .none) ++ sampleDelegation 0 ++
  .client 0 "intake-agent" (.advance false) ::
    List.replicate 2 (.client 0 "intake-agent" (.advance true)) ++
  [.join 0] ++ List.replicate 3 (.step .none) ++
  [.pop (newRunId sampleUuid), .call (newRunId sampleUuid) .retry] ++
  List.replicate 8 (.step .none) ++ [.start 1] ++ List.replicate 5 (.step .none) ++
  [.reply 1 (.host sampleInspection)] ++ List.replicate 20 (.step .none) ++ sampleDelegation 1

theorem invocations_distinct_retried :
    ∃ hub, (orchestration id sampleFailingTools {}).run .empty sampleRetried = some hub ∧
      hub.delegated.length = 2 ∧
        (hub.delegated.map fun delegated => delegated.id.text).Nodup := by
  have hends : ((orchestration id sampleFailingTools {}).run .empty sampleRetried).any
      (fun hub => hub.delegated.length == 2) = true := by decide +kernel
  obtain ⟨hub, hrun, hlength⟩ := (Option.any_eq_true _ _).mp hends
  exact ⟨hub, hrun, beq_iff_eq.mp hlength, invocations_distinct hrun⟩

end Aidlc
