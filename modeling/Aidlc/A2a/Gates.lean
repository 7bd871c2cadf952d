import Aidlc.A2a.TaskLife

/-! # Human gates

In a gated stage every published draft carries the prompt of its gate, and only
the branch that checks a bound approval publishes a result without one. The
invariant follows a task from its reservation to its last event.
-/

namespace Aidlc

open Foundation TaskStore

/-- The decisions that let a gated stage complete. -/
def approvingDecisions : StageName → List Decision
  | .requirements | .planning => [.approve]
  | .evaluation => [.accept, .repair]
  | _ => []

/-- The prompt of the gate of a stage. -/
def gateKind (stage : StageName) : PromptKind :=
  if stage = .evaluation then .evaluationDecision else .approval

/-- A draft as a gated stage publishes it. -/
structure Draft (platform : AgentPlatform) (stage : StageName) (draft : AgentResult) : Prop where
  prompt : draft.humanPrompt.map HumanPrompt.kind = some (gateKind stage)
  content : platform.wire draft.content = .ok draft.content

/-- The message continues the task with an allowed decision on this very draft. -/
structure BoundApproval (platform : AgentPlatform) (stage : StageName) (taskId : TaskId)
    (message : AgentMessage) (draft : AgentResult) : Prop where
  continuation : message.taskId = some taskId
  response : ∃ context response, message.payload = some context ∧
    context.humanResponse = some response ∧
    response.get? "artifact_sha256" = some (.str (platform.sha256 draft.content)) ∧
    ∃ decision ∈ approvingDecisions stage,
      response.get? "decision" = some (.str decision.value)

/-- Some executed continuation of the task approved the draft that was stored
then, and the task holds exactly that draft now, without its prompt. -/
def Approved (platform : AgentPlatform) (stage : StageName) (handlings : List Handling)
    (owner : String) (taskId : TaskId) (task : AgentTask) : Prop :=
  ∃ handling ∈ handlings, handling.owner = owner ∧ handling.taskId = taskId ∧
    handling.message ∈ task.history ∧
    ∃ draft, handling.stored = some draft ∧
      BoundApproval platform stage taskId handling.message draft ∧
      task.artifact = some { draft with humanPrompt := none }

/-- A message waits for its execution: it opened the task, or it continues a
task whose draft is stored. -/
def Awaiting (platform : AgentPlatform) (stage : StageName) (taskId : TaskId)
    (message : AgentMessage) (task : AgentTask) : Prop :=
  message ∈ task.history ∧
    ((message.taskId = none ∧ task.artifact = none) ∨
      (message.taskId = some taskId ∧
        ∃ draft, task.artifact = some draft ∧ Draft platform stage draft))

def Executing (platform : AgentPlatform) (stage : StageName) (handlings : List Handling)
    (taskId : TaskId) (execution : Execution) (task : AgentTask) : Prop :=
  match execution.phase with
  | .reserved => Awaiting platform stage taskId execution.message task
  | .working prior =>
    Awaiting platform stage taskId execution.message task ∧ prior.artifact = task.artifact
  | .published prompted =>
    if prompted then ∃ draft, task.artifact = some draft ∧ Draft platform stage draft
    else Approved platform stage handlings execution.owner taskId task

/-- What a gated stage keeps: a draft waits for its approval, a completed task has it. -/
structure AgentServer.Guarded (platform : AgentPlatform) (stage : StageName)
    (server : AgentServer) : Prop where
  waiting : ∀ key task, server.store.tasks key = some task → task.state = .inputRequired →
    ∃ draft, task.artifact = some draft ∧ Draft platform stage draft
  completed : ∀ key task, server.store.tasks key = some task → task.state = .completed →
    Approved platform stage server.handlings key.1 key.2 task
  executing : ∀ taskId execution, server.executions taskId = some execution →
    ∃ task, server.store.tasks (execution.owner, taskId) = some task ∧
      Executing platform stage server.handlings taskId execution task

section

variable {platform : AgentPlatform} {settings : GateSettings} {stage : StageName}

theorem withGate_prompt (hgated : settings.gated stage) (result : AgentResult) :
    (settings.withGate stage result).humanPrompt.map HumanPrompt.kind = some (gateKind stage) := by
  have hrequirements : settings.gates.lookup .requirements =
      some settings.requireRequirementsApproval := rfl
  have hplanning : settings.gates.lookup .planning = some settings.requirePlanApproval := rfl
  unfold GateSettings.withGate gateKind
  cases stage with
  | requirements =>
      simp_all [GateSettings.gated, GateSettings.approvalPrompt]
  | planning =>
      simp_all [GateSettings.gated, GateSettings.approvalPrompt]
  | evaluation =>
      simp_all [GateSettings.gated, GateSettings.evaluationPrompt]
  | preflight | intake | discovery | implementation | integration | release =>
      simp [GateSettings.gated] at hgated

theorem approvingDecisions_gated (hgated : settings.gated stage) :
    approvingDecisions stage =
      if gateKind stage = .evaluationDecision then [.accept, .repair] else [.approve] := by
  cases stage with
  | requirements | planning | evaluation => rfl
  | preflight | intake | discovery | implementation | integration | release =>
      simp [GateSettings.gated] at hgated

theorem addResult_ok {result : Option AgentResult} {part : AgentResult}
    (hpart : addResult platform result = .ok (some part)) :
    ∃ value, result = some value ∧ platform.wire value.content = .ok part.content ∧
      part = { value with content := part.content } := by
  cases result with
  | none => simp [addResult] at hpart
  | some value =>
      cases hwire : platform.wire value.content with
      | error error => simp [addResult, jsonPart, hwire, Except.map] at hpart
      | ok content =>
          simp only [addResult, jsonPart, hwire, Except.map, Except.ok.injEq,
            Option.some.injEq] at hpart
          subst hpart
          exact ⟨value, rfl, hwire, rfl⟩

/-- A gated draft passes without its prompt, by a decision that fits the gate. -/
theorem verdict_ok {response : Json} {draft result : AgentResult}
    {handled : Except PyError AgentResult}
    (hverdict : verdict response draft handled = .ok (some result))
    (hprompt : draft.humanPrompt.map HumanPrompt.kind = some (gateKind stage)) :
    result = { draft with humanPrompt := none } ∧
      ((gateKind stage = .approval ∧ response.get? "decision" = some (.str "approve")) ∨
        (gateKind stage = .evaluationDecision ∧
          (response.get? "decision" = some (.str "accept") ∨
            response.get? "decision" = some (.str "repair")))) := by
  unfold verdict at hverdict
  split at hverdict
  next => cases hverdict
  next =>
    rw [hprompt] at hverdict
    cases hkind : gateKind stage with
    | approval =>
        simp only [hkind] at hverdict
        split at hverdict
        next => cases hverdict
        next happrove =>
          simp only [Except.ok.injEq, Option.some.injEq] at hverdict
          exact ⟨hverdict.symm, .inl ⟨rfl, not_not.mp happrove⟩⟩
    | evaluationDecision =>
        simp only [hkind] at hverdict
        split at hverdict
        next => cases hverdict
        next hdecision =>
          simp only [Except.ok.injEq, Option.some.injEq] at hverdict
          exact ⟨hverdict.symm, .inr ⟨rfl, by tauto⟩⟩
    | clarification =>
        exfalso
        unfold gateKind at hkind
        split at hkind <;> cases hkind

/-- What a bound response lets through: the stored draft without its prompt. -/
theorem review_ok {context : AgentContext Json} {response : Json} {prior : AgentTask}
    {draft result : AgentResult} {handled : Except PyError AgentResult}
    (hreview : review platform context response prior draft handled = .ok (some result))
    (hprompt : draft.humanPrompt.map HumanPrompt.kind = some (gateKind stage)) :
    response.get? "artifact_sha256" = some (.str (platform.sha256 draft.content)) ∧
      result = { draft with humanPrompt := none } ∧
      ((gateKind stage = .approval ∧ response.get? "decision" = some (.str "approve")) ∨
        (gateKind stage = .evaluationDecision ∧
          (response.get? "decision" = some (.str "accept") ∨
            response.get? "decision" = some (.str "repair")))) := by
  unfold review at hreview
  split at hreview
  next => cases hreview
  next hdigest =>
    refine ⟨not_not.mp hdigest, ?_⟩
    split at hreview
    next => cases hreview
    next =>
      split at hreview
      next => cases hreview
      next => exact verdict_ok hreview hprompt

/-- The two ways to a publication: the handler ran, or a response was reviewed. -/
theorem execute_ok {message : AgentMessage} {prior : AgentTask}
    {handled : Except PyError AgentResult} {result : AgentResult}
    (hexecute : execute platform settings stage message prior handled = .ok (some result)) :
    (∃ value, handled = .ok value ∧ result = settings.withGate stage value) ∨
      ∃ context response draft, message.payload = some context ∧
        context.humanResponse = some response ∧ prior.artifact = some draft ∧
        review platform context response prior draft handled = .ok (some result) := by
  have hhandler (hmap : handled.map (fun value => some (settings.withGate stage value)) =
      .ok (some result)) : ∃ value, handled = .ok value ∧ result = settings.withGate stage value := by
    cases handled with
    | error error => cases hmap
    | ok value =>
        simp only [Except.map, Except.ok.injEq, Option.some.injEq] at hmap
        exact ⟨value, rfl, hmap.symm⟩
  unfold execute at hexecute
  cases hpayload : message.payload with
  | none => simp [hpayload] at hexecute
  | some context =>
      cases hresponse : context.humanResponse with
      | none =>
          simp only [hpayload, hresponse] at hexecute
          exact Or.inl (hhandler hexecute)
      | some response =>
          cases hdraft : prior.artifact with
          | none =>
              simp only [hpayload, hresponse, hdraft] at hexecute
              exact Or.inl (hhandler hexecute)
          | some draft =>
              simp only [hpayload, hresponse, hdraft] at hexecute
              split at hexecute
              · exact Or.inr ⟨context, response, draft, rfl, hresponse, rfl, hexecute⟩
              · exact Or.inl (hhandler hexecute)

/-- A gated stage publishes a draft of its gate, or exactly the draft that was
stored and that the message approves. -/
theorem published_gated (hgated : settings.gated stage)
    (hwire : ∀ value sent, platform.wire value = .ok sent → platform.wire sent = .ok sent)
    {taskId : TaskId} {message : AgentMessage} {task prior : AgentTask}
    {handled : Except PyError AgentResult} {part : AgentResult}
    (hawaiting : Awaiting platform stage taskId message task)
    (hprior : prior.artifact = task.artifact)
    (hpart : published platform settings stage message prior handled = .ok (some part)) :
    Draft platform stage part ∨
      ∃ draft, task.artifact = some draft ∧ part = { draft with humanPrompt := none } ∧
        BoundApproval platform stage taskId message draft := by
  unfold published at hpart
  cases hexecute : execute platform settings stage message prior handled with
  | error error => simp [hexecute, Except.bind] at hpart
  | ok output =>
      simp only [hexecute, Except.bind] at hpart
      obtain ⟨result, rfl, hcontent, heq⟩ := addResult_ok hpart
      rcases execute_ok hexecute with ⟨value, -, hvalue⟩ |
        ⟨context, response, draft, hpayload, hresponse, hdraft, hreview⟩
      · left
        refine ⟨?_, hwire _ _ hcontent⟩
        rw [heq, hvalue]
        exact withGate_prompt hgated value
      · right
        have hstored : task.artifact = some draft := hprior ▸ hdraft
        obtain ⟨hmessage, hlink⟩ := hawaiting
        rcases hlink with ⟨-, hnone⟩ | ⟨hcontinues, other, hother, hgate⟩
        · rw [hnone] at hstored
          cases hstored
        · have hsame : other = draft := by
            rw [hother, Option.some.injEq] at hstored
            exact hstored
          subst hsame
          obtain ⟨hhash, hresult, hdecision⟩ := review_ok hreview hgate.prompt
          -- the stored content passes through a message unchanged
          have hunchanged : part.content = other.content := by
            rw [hresult, hgate.content, Except.ok.injEq] at hcontent
            exact hcontent.symm
          refine ⟨other, hother, ?_, hcontinues, context, response, hpayload, hresponse, hhash, ?_⟩
          · rw [heq, hresult, hunchanged]
          · rw [approvingDecisions_gated hgated]
            rcases hdecision with ⟨hkind, happrove⟩ | ⟨hkind, haccept | hrepair⟩
            · rw [hkind, if_neg (by decide)]
              exact ⟨.approve, List.mem_singleton_self _, happrove⟩
            · rw [hkind, if_pos rfl]
              exact ⟨.accept, List.mem_cons_self, haccept⟩
            · rw [hkind, if_pos rfl]
              exact ⟨.repair, List.mem_cons_of_mem _ (List.mem_singleton_self _), hrepair⟩

theorem Approved.mono {first second : List Handling} {owner : String} {taskId : TaskId}
    {task : AgentTask} (happroved : Approved platform stage first owner taskId task)
    (hsubset : first ⊆ second) : Approved platform stage second owner taskId task := by
  obtain ⟨handling, hmem, hrest⟩ := happroved
  exact ⟨handling, hsubset hmem, hrest⟩

theorem Executing.mono {first second : List Handling} {taskId : TaskId} {execution : Execution}
    {task : AgentTask} (hexecuting : Executing platform stage first taskId execution task)
    (hsubset : first ⊆ second) : Executing platform stage second taskId execution task := by
  unfold Executing at hexecuting ⊢
  cases hphase : execution.phase with
  | reserved | working => simpa [hphase] using hexecuting
  | published prompted =>
      cases prompted with
      | true => simpa [hphase] using hexecuting
      | false =>
          simp only [hphase, Bool.false_eq_true, if_false] at hexecuting ⊢
          exact hexecuting.mono hsubset

namespace AgentServer

variable {server next : AgentServer} {label : ServerLabel}

/-- Every operation stores one task and replaces the execution of that task: it
is enough to look at the stored task. -/
theorem Guarded.saved (hguarded : server.Guarded platform stage) {owner : String}
    {task : AgentTask} {execution : Option Execution}
    (htasks : next.store.tasks = (server.store.save owner task).tasks)
    (hexecutions : next.executions = Function.update server.executions task.id execution)
    (hhandlings : server.handlings ⊆ next.handlings)
    (hwaiting : task.state = .inputRequired →
      ∃ draft, task.artifact = some draft ∧ Draft platform stage draft)
    (hcompleted : task.state = .completed →
      Approved platform stage next.handlings owner task.id task)
    (hexecuting : ∀ running, execution = some running → running.owner = owner ∧
      Executing platform stage next.handlings task.id running task) :
    next.Guarded platform stage where
  waiting key found hfound hstate := by
    rw [htasks] at hfound
    rcases save_tasks_cases hfound with ⟨-, htask⟩ | ⟨-, hkept⟩
    · subst htask
      exact hwaiting hstate
    · exact hguarded.waiting key found hkept hstate
  completed key found hfound hstate := by
    rw [htasks] at hfound
    rcases save_tasks_cases hfound with ⟨hkey, htask⟩ | ⟨-, hkept⟩
    · subst htask
      rw [hkey]
      exact hcompleted hstate
    · exact (hguarded.completed key found hkept hstate).mono hhandlings
  executing taskId running hrunning := by
    rw [hexecutions] at hrunning
    by_cases hsame : taskId = task.id
    · subst hsame
      rw [Function.update_self] at hrunning
      obtain ⟨howner, hphase⟩ := hexecuting running hrunning
      refine ⟨task, ?_, hphase⟩
      rw [htasks, howner, save_tasks_self]
    · rw [Function.update_of_ne hsame] at hrunning
      obtain ⟨other, hother, hphase⟩ := hguarded.executing taskId running hrunning
      refine ⟨other, ?_, hphase.mono hhandlings⟩
      rw [htasks, save_tasks_of_ne (fun hkey => hsame (congrArg Prod.snd hkey)), hother]

theorem Guarded.task_executing (hguarded : server.Guarded platform stage) {taskId : TaskId}
    {execution : Execution} {task : AgentTask}
    (hexecution : server.executions taskId = some execution)
    (htask : server.store.tasks (execution.owner, taskId) = some task) :
    Executing platform stage server.handlings taskId execution task := by
  obtain ⟨other, hother, hexecuting⟩ := hguarded.executing taskId execution hexecution
  rw [htask, Option.some.injEq] at hother
  exact hother ▸ hexecuting

theorem Guarded.step (hgated : settings.gated stage)
    (hwire : ∀ value sent, platform.wire value = .ok sent → platform.wire sent = .ok sent)
    (hsound : server.Sound) (hguarded : server.Guarded platform stage)
    (houtcome : ServerOutcome platform settings stage server label next) :
    next.Guarded platform stage := by
  cases houtcome with
  | unchanged => exact hguarded
  -- A continuation keeps the draft of the question it answers.
  | reserved request freshContext task store hreserved =>
      cases hreserved with
      | continued taskId stored hfresh hmessage htask hcontext hwaiting =>
          cases hsound.task_id htask
          obtain ⟨draft, hdraft, hgate⟩ := hguarded.waiting _ _ htask hwaiting
          refine hguarded.saved rfl rfl (List.Subset.refl _) nofun nofun ?_
          intro running hrunning
          cases hrunning
          exact ⟨rfl, List.mem_append_right _ (List.mem_singleton_self _),
            Or.inr ⟨hmessage, draft, hdraft, hgate⟩⟩
      | created hfresh hmessage =>
          refine hguarded.saved rfl rfl (List.Subset.refl _) nofun nofun ?_
          intro running hrunning
          cases hrunning
          exact ⟨rfl, List.mem_singleton_self _, Or.inl ⟨hmessage, rfl⟩⟩
  | started taskId execution task hexecution hphase htask =>
      cases hsound.task_id htask
      have hawaiting := hguarded.task_executing hexecution htask
      simp only [Executing, hphase] at hawaiting
      refine hguarded.saved rfl rfl (List.Subset.refl _) nofun nofun ?_
      intro running hrunning
      cases hrunning
      exact ⟨rfl, hawaiting, rfl⟩
  | failed taskId handled execution prior task detail hexecution hphase htask =>
      cases hsound.task_id htask
      refine hguarded.saved rfl rfl (List.subset_append_left _ _) ?_ ?_ ?_
      · intro hstate
        cases hstate
      · intro hstate
        cases hstate
      · intro running hrunning
        cases hrunning
  -- Only here can an execution come to a completed task, and there the gate decided.
  | published taskId handled execution prior task result hexecution hphase htask hresult =>
      cases hsound.task_id htask
      have hworking := hsound.task_state hexecution htask
      have hexecuting := hguarded.task_executing hexecution htask
      simp only [hphase, Phase.state] at hworking
      simp only [Executing, hphase] at hexecuting
      obtain ⟨hawaiting, hprior⟩ := hexecuting
      refine hguarded.saved rfl rfl (List.subset_append_left _ _) ?_ ?_ ?_
      · intro hstate
        cases hworking.symm.trans hstate
      · intro hstate
        cases hworking.symm.trans hstate
      · intro running hrunning
        cases hrunning
        refine ⟨rfl, ?_⟩
        unfold Executing
        dsimp only
        rcases published_gated hgated hwire hawaiting hprior hresult with
          hgate | ⟨draft, hdraft, rfl, happroval⟩
        · have hprompted : result.humanPrompt.isSome = true := by
            cases hprompt : result.humanPrompt with
            | none => simpa [hprompt] using hgate.prompt
            | some prompt => rfl
          rw [if_pos hprompted]
          exact ⟨result, rfl, hgate⟩
        · rw [if_neg (by simp)]
          exact ⟨_, List.mem_append_right _ (List.mem_singleton_self _), rfl, rfl, hawaiting.1,
            draft, hdraft, happroval, rfl⟩
  | concluded taskId execution task prompted hexecution hphase htask =>
      cases hsound.task_id htask
      have hpublished := hguarded.task_executing hexecution htask
      simp only [Executing, hphase] at hpublished
      refine hguarded.saved rfl rfl (List.Subset.refl _) ?_ ?_ ?_
      · intro hstate
        cases prompted with
        | true => exact hpublished
        | false => cases hstate
      · intro hstate
        cases prompted with
        | true => cases hstate
        | false => exact hpublished
      · intro running hrunning
        cases hrunning
  | canceled owner taskId task htask hactive =>
      cases hsound.task_id htask
      refine hguarded.saved rfl rfl (List.Subset.refl _) ?_ ?_ ?_
      · intro hstate
        cases hstate
      · intro hstate
        cases hstate
      · intro running hrunning
        cases hrunning
  | restarted =>
      constructor
      · intro key task htask hstate
        obtain ⟨stored, hstored, rfl⟩ := recover_tasks htask
        -- A restart fails what was active, so a task in this state was not touched.
        have hkept : interrupted stored = stored := interrupted_of_state (by rw [hstate]; decide)
        rw [hkept] at hstate ⊢
        exact hguarded.waiting key stored hstored hstate
      · intro key task htask hstate
        obtain ⟨stored, hstored, rfl⟩ := recover_tasks htask
        have hkept : interrupted stored = stored := interrupted_of_state (by rw [hstate]; decide)
        rw [hkept] at hstate ⊢
        exact hguarded.completed key stored hstored hstate
      · intro taskId execution hexecution
        cases hexecution

theorem guarded_empty (platform : AgentPlatform) (stage : StageName) :
    empty.Guarded platform stage where
  waiting _ _ htask := by cases htask
  completed _ _ htask := by cases htask
  executing _ _ hexecution := by cases hexecution

theorem guarded_of_run (hgated : settings.gated stage)
    (hwire : ∀ value sent, platform.wire value = .ok sent → platform.wire sent = .ok sent)
    {labels : List ServerLabel}
    (hrun : (agentServer platform settings stage).run empty labels = some server) :
    server.Guarded platform stage := by
  have hboth : server.Sound ∧ server.Guarded platform stage := by
    refine (agentServer platform settings stage).run_invariant
      (fun state => state.Sound ∧ state.Guarded platform stage) ?_
      ⟨sound_empty, guarded_empty platform stage⟩ hrun
    intro state label next hstate hstep
    have houtcome := outcome_of_serverStep hstep
    exact ⟨hstate.1.step houtcome, hstate.2.step hgated hwire hstate.1 houtcome⟩
  exact hboth.2

end AgentServer

/-- A task of a gated specialist completes only after an executed continuation of
that task approved the draft stored then, and it holds exactly that draft. -/
theorem completed_only_by_approval (hgated : settings.gated stage)
    (hwire : ∀ value sent, platform.wire value = .ok sent → platform.wire sent = .ok sent)
    {labels : List ServerLabel} {server : AgentServer}
    (hrun : (agentServer platform settings stage).run .empty labels = some server)
    {owner : String} {taskId : TaskId} {task : AgentTask}
    (htask : server.store.tasks (owner, taskId) = some task) (hdone : task.state = .completed) :
    ∃ handling ∈ server.handlings, handling.owner = owner ∧ handling.taskId = taskId ∧
      handling.message ∈ task.history ∧ handling.message.taskId = some taskId ∧
      ∃ draft context response, handling.stored = some draft ∧
        handling.message.payload = some context ∧ context.humanResponse = some response ∧
        response.get? "artifact_sha256" = some (.str (platform.sha256 draft.content)) ∧
        (∃ decision ∈ approvingDecisions stage,
          response.get? "decision" = some (.str decision.value)) ∧
        ∃ result, task.artifact = some result ∧ result.content = draft.content := by
  obtain ⟨handling, hmem, howner, htaskId, hhistory, draft, hstored, happroval, hartifact⟩ :=
    (AgentServer.guarded_of_run hgated hwire hrun).completed _ _ htask hdone
  obtain ⟨context, response, hpayload, hresponse, hhash, hdecision⟩ := happroval.response
  exact ⟨handling, hmem, howner, htaskId, hhistory, happroval.continuation, draft, context,
    response, hstored, hpayload, hresponse, hhash, hdecision, _, hartifact, rfl⟩

end

/-- Content made of one text is told apart by its digest, messages by their
identifier, and text passes through a message unchanged. -/
def sampleAgentPlatform : AgentPlatform where
  sha256 content := ((content.get? "text").bind Json.str?).getD ""
  fingerprint message :=
    match message.messageId with
    | .invocation id | .human id _ => id.text
    | .other text => text
  wire := .ok

def sampleContext : AgentContext Json where
  runId := "run_a"
  idea := "idea"
  stage := .requirements
  artifacts := []
  retryAttempt := 0
  humanResponse := none
  repairAttempt := 0
  repairFeedback := none
  repairArtifactId := none
  repairArtifactSha256 := none

def sampleDraft : AgentResult where
  artifactKind := .requirementsSpec
  content := .obj [("text", .str "draft")]
  markdown := ""
  humanPrompt := none
  execution := ⟨none, "deterministic", "deterministic-v1", none, none, none, "unavailable"⟩

def approvedDraft : List ServerLabel :=
  let response := Json.obj [("artifact_sha256", .str "draft"), ("decision", .str "approve")]
  [.send ⟨"", [], .other "first", none, "context", .data (some sampleContext), ""⟩ "fresh",
    .start 0, .handle 0 (.ok sampleDraft), .conclude 0,
    .send ⟨"", [], .other "second", some 0, "context",
      .data (some { sampleContext with humanResponse := some response }), ""⟩ "fresh",
    .start 0, .handle 0 (.error ⟨.runtimeError, "not called"⟩), .conclude 0]

/-- A draft of requirements is approved, and its task completes. -/
theorem completed_only_by_approval_sample : ∃ server task handling draft,
    (agentServer sampleAgentPlatform {} .requirements).run .empty approvedDraft = some server ∧
      server.store.tasks ("", 0) = some task ∧ task.state = .completed ∧
      handling ∈ server.handlings ∧ handling.message.taskId = some 0 ∧
      handling.stored = some draft := by
  have hsome : ((agentServer sampleAgentPlatform {} .requirements).run .empty
      approvedDraft).isSome = true := by decide +kernel
  have htask : ((((agentServer sampleAgentPlatform {} .requirements).run .empty
      approvedDraft).get hsome).store.tasks ("", 0)).isSome = true := by decide +kernel +revert
  have hdone : (((((agentServer sampleAgentPlatform {} .requirements).run .empty
      approvedDraft).get hsome).store.tasks ("", 0)).get htask).state = .completed := by
    decide +kernel +revert
  have hrun := (Option.some_get hsome).symm
  obtain ⟨handling, hmem, -, -, -, hcontinues, draft, -, -, hstored, -⟩ :=
    completed_only_by_approval (by decide) (fun _ _ _ => rfl) hrun (Option.some_get htask).symm
      hdone
  exact ⟨_, _, handling, draft, hrun, (Option.some_get htask).symm, hdone, hmem, hcontinues,
    hstored⟩

end Aidlc
