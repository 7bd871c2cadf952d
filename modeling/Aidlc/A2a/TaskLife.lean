import Aidlc.A2a.Server

/-! # The life of a task

A task keeps its identifier, its execution follows its state, a reservation is
never withdrawn, and a terminal task stays as it is. These facts hold of every
specialist, whatever its handler returns.
-/

namespace Aidlc

open Foundation TaskStore

/-- The state of a task whose execution has reached this phase. -/
def Phase.state : Phase → TaskState
  | .reserved => .submitted
  | .working _ | .published _ => .working

/-- No phase of an execution shows a terminal state. -/
theorem Phase.state_not_terminal (phase : Phase) : phase.state ∉ AgentServer.terminal := by
  have hsubmitted : TaskState.submitted ∉ AgentServer.terminal := by decide
  have hworking : TaskState.working ∉ AgentServer.terminal := by decide
  cases phase with
  | reserved => exact hsubmitted
  | working | published => exact hworking

namespace AgentServer

/-- Tasks, reservations, and executions refer to each other consistently. -/
structure Sound (server : AgentServer) : Prop where
  identified : ∀ key task, server.store.tasks key = some task →
    task.id = key.2 ∧ task.id < server.store.nextTaskId
  reserved : ∀ owner messageId row, server.store.messages (owner, messageId) = some row →
    ∃ task, server.store.tasks (owner, row.taskId) = some task
  executing : ∀ taskId execution, server.executions taskId = some execution →
    ∃ task, server.store.tasks (execution.owner, taskId) = some task ∧
      task.state = execution.phase.state

/-- What no step of a server takes back. -/
structure Kept (server next : AgentServer) : Prop where
  messages : ∀ key row, server.store.messages key = some row →
    next.store.messages key = some row
  tasks : ∀ key task, server.store.tasks key = some task →
    ∃ later, next.store.tasks key = some later ∧ later.id = task.id ∧
      later.contextId = task.contextId ∧
      (task.state ∈ terminal → later.state = task.state)

variable {server next : AgentServer}

theorem Kept.refl (server : AgentServer) : Kept server server where
  messages _ _ hrow := hrow
  tasks _ task htask := ⟨task, htask, rfl, rfl, fun _ => rfl⟩

/-- Storing a later version of a task keeps the others. -/
theorem Kept.saved {owner : String} {task stored : AgentTask}
    (htasks : next.store.tasks = (server.store.save owner task).tasks)
    (hmessages : ∀ key row, server.store.messages key = some row →
      next.store.messages key = some row)
    (hstored : server.store.tasks (owner, task.id) = some stored)
    (hid : task.id = stored.id) (hcontext : task.contextId = stored.contextId)
    (hactive : stored.state ∉ terminal) : Kept server next where
  messages := hmessages
  tasks key other hother := by
    rw [htasks]
    by_cases hkey : key = (owner, task.id)
    · subst hkey
      rw [hstored, Option.some.injEq] at hother
      subst hother
      exact ⟨task, save_tasks_self _ _ _, hid, hcontext, fun hterminal => (hactive hterminal).elim⟩
    · rw [save_tasks_of_ne hkey]
      exact ⟨other, hother, rfl, rfl, fun _ => rfl⟩

/-- Saving the task of an execution keeps the server sound. -/
theorem Sound.saved (hsound : server.Sound) {owner : String} {task : AgentTask}
    {execution : Option Execution}
    (htasks : next.store.tasks = (server.store.save owner task).tasks)
    (hexecutions : next.executions = Function.update server.executions task.id execution)
    (hcounter : server.store.nextTaskId ≤ next.store.nextTaskId)
    (hid : task.id < next.store.nextTaskId)
    (hreserved : ∀ holder messageId row, next.store.messages (holder, messageId) = some row →
      server.store.messages (holder, messageId) = some row ∨
        (holder = owner ∧ row.taskId = task.id))
    (hstate : ∀ running, execution = some running →
      running.owner = owner ∧ task.state = running.phase.state) : next.Sound where
  identified key found hfound := by
    rw [htasks] at hfound
    rcases save_tasks_cases hfound with ⟨hkey, htask⟩ | ⟨-, hkept⟩
    · subst htask
      exact ⟨by rw [hkey], hid⟩
    · obtain ⟨hkey, hlt⟩ := hsound.identified key found hkept
      exact ⟨hkey, Nat.lt_of_lt_of_le hlt hcounter⟩
  reserved holder messageId row hrow := by
    rw [htasks]
    by_cases hkey : (holder, row.taskId) = (owner, task.id)
    · rw [hkey]
      exact ⟨task, save_tasks_self _ _ _⟩
    · rw [save_tasks_of_ne hkey]
      rcases hreserved holder messageId row hrow with hold | ⟨howner, htaskId⟩
      · exact hsound.reserved holder messageId row hold
      · exact (hkey (by rw [howner, htaskId])).elim
  executing taskId running hrunning := by
    rw [hexecutions] at hrunning
    by_cases hsame : taskId = task.id
    · subst hsame
      rw [Function.update_self] at hrunning
      obtain ⟨howner, hphase⟩ := hstate running hrunning
      refine ⟨task, ?_, hphase⟩
      rw [htasks, howner, save_tasks_self]
    · rw [Function.update_of_ne hsame] at hrunning
      obtain ⟨other, hother, hphase⟩ := hsound.executing taskId running hrunning
      refine ⟨other, ?_, hphase⟩
      rw [htasks, save_tasks_of_ne (fun hkey => hsame (congrArg Prod.snd hkey)), hother]

/-- The task of an execution is the one it was found for. -/
theorem Sound.task_id (hsound : server.Sound) {owner : String} {taskId : TaskId}
    {task : AgentTask} (htask : server.store.tasks (owner, taskId) = some task) :
    task.id = taskId :=
  (hsound.identified _ _ htask).1

theorem Sound.task_state (hsound : server.Sound) {taskId : TaskId} {execution : Execution}
    {task : AgentTask} (hexecution : server.executions taskId = some execution)
    (htask : server.store.tasks (execution.owner, taskId) = some task) :
    task.state = execution.phase.state := by
  obtain ⟨other, hother, hstate⟩ := hsound.executing taskId execution hexecution
  rw [htask, Option.some.injEq] at hother
  exact hother ▸ hstate

section Steps

variable {platform : AgentPlatform} {settings : GateSettings} {stage : StageName}
  {label : ServerLabel}

/-- Every step keeps the server sound. -/
theorem Sound.step (hsound : server.Sound)
    (houtcome : ServerOutcome platform settings stage server label next) : next.Sound := by
  -- Each outcome saves one task, and only a reservation adds a message.
  cases houtcome with
  | unchanged => exact hsound
  | reserved request freshContext task store hreserved =>
      cases hreserved with
      | continued taskId stored hfresh hmessage htask hcontext hwaiting =>
          refine hsound.saved rfl rfl (Nat.le_refl _) (hsound.identified _ _ htask).2 ?_ ?_
          · intro holder messageId row hrow
            by_cases hkey : (holder, messageId) = (request.owner, request.message.messageId)
            · rw [hkey] at hrow
              cases (Function.update_self _ _ _).symm.trans hrow
              exact Or.inr ⟨congrArg Prod.fst hkey, rfl⟩
            · exact Or.inl ((Function.update_of_ne hkey _ _).symm.trans hrow)
          · intro running hrunning
            cases hrunning
            exact ⟨rfl, rfl⟩
      | created hfresh hmessage =>
          refine hsound.saved rfl rfl (Nat.le_succ _) (Nat.lt_succ_self _) ?_ ?_
          · intro holder messageId row hrow
            by_cases hkey : (holder, messageId) = (request.owner, request.message.messageId)
            · rw [hkey] at hrow
              cases (Function.update_self _ _ _).symm.trans hrow
              exact Or.inr ⟨congrArg Prod.fst hkey, rfl⟩
            · exact Or.inl ((Function.update_of_ne hkey _ _).symm.trans hrow)
          · intro running hrunning
            cases hrunning
            exact ⟨rfl, rfl⟩
  | started taskId execution task hexecution hphase htask =>
      cases hsound.task_id htask
      refine hsound.saved rfl rfl (Nat.le_refl _) (hsound.identified _ _ htask).2
        (fun _ _ _ hrow => Or.inl hrow) ?_
      intro running hrunning
      cases hrunning
      exact ⟨rfl, rfl⟩
  | failed taskId handled execution prior task detail hexecution hphase htask =>
      cases hsound.task_id htask
      refine hsound.saved rfl rfl (Nat.le_refl _) (hsound.identified _ _ htask).2
        (fun _ _ _ hrow => Or.inl hrow) ?_
      intro running hrunning
      cases hrunning
  | published taskId handled execution prior task result hexecution hphase htask hresult =>
      cases hsound.task_id htask
      have hworking := hsound.task_state hexecution htask
      rw [hphase] at hworking
      refine hsound.saved rfl rfl (Nat.le_refl _) (hsound.identified _ _ htask).2
        (fun _ _ _ hrow => Or.inl hrow) ?_
      intro running hrunning
      cases hrunning
      exact ⟨rfl, hworking⟩
  | concluded taskId execution task prompted hexecution hphase htask =>
      cases hsound.task_id htask
      refine hsound.saved rfl rfl (Nat.le_refl _) (hsound.identified _ _ htask).2
        (fun _ _ _ hrow => Or.inl hrow) ?_
      intro running hrunning
      cases hrunning
  | canceled owner taskId task htask hactive =>
      refine hsound.saved rfl rfl (Nat.le_refl _) (hsound.identified _ _ htask).2
        (fun _ _ _ hrow => Or.inl hrow) ?_
      intro running hrunning
      cases hrunning
  -- After a restart nothing is running.
  | restarted =>
      constructor
      · intro key task htask
        obtain ⟨stored, hstored, rfl⟩ := recover_tasks htask
        rw [interrupted_id]
        exact hsound.identified key stored hstored
      · intro owner messageId row hrow
        obtain ⟨task, htask⟩ := hsound.reserved owner messageId row hrow
        exact ⟨interrupted task, by simp [restart, recover, htask]⟩
      · intro taskId execution hexecution
        cases hexecution

/-- A new reservation leaves the others in place. -/
theorem recordMessage_kept {store : TaskStore} {owner fingerprint : String}
    {messageId : MessageId} {taskId : TaskId}
    (hfresh : store.messages (owner, messageId) = none) {key : String × MessageId}
    {row : Reservation} (hrow : store.messages key = some row) :
    (store.recordMessage owner messageId fingerprint taskId).messages key = some row := by
  have hne : key ≠ (owner, messageId) := by
    intro hkey
    rw [hkey, hfresh] at hrow
    cases hrow
  exact (Function.update_of_ne hne _ _).trans hrow

/-- No step takes a message row back. -/
theorem Kept.step (hsound : server.Sound)
    (houtcome : ServerOutcome platform settings stage server label next) : Kept server next := by
  cases houtcome with
  | unchanged => exact .refl server
  | reserved request freshContext task store hreserved =>
      cases hreserved with
      | continued taskId stored hfresh hmessage htask hcontext hwaiting =>
          cases hsound.task_id htask
          refine Kept.saved rfl (fun _ _ => recordMessage_kept hfresh) htask rfl rfl ?_
          rw [hwaiting]
          decide
      | created hfresh hmessage =>
          constructor
          · exact fun _ _ => recordMessage_kept hfresh
          · intro key other hother
            have hne : key ≠ (request.owner, server.store.nextTaskId) := by
              rintro rfl
              obtain ⟨hid, hlt⟩ := hsound.identified _ _ hother
              exact Nat.lt_irrefl _ (hid ▸ hlt)
            exact ⟨other, (Function.update_of_ne hne _ _).trans hother, rfl, rfl, fun _ => rfl⟩
  | started taskId execution task hexecution hphase htask =>
      cases hsound.task_id htask
      refine Kept.saved rfl (fun _ _ hrow => hrow) htask rfl rfl ?_
      rw [hsound.task_state hexecution htask]
      exact execution.phase.state_not_terminal
  | failed taskId handled execution prior task detail hexecution hphase htask =>
      cases hsound.task_id htask
      refine Kept.saved rfl (fun _ _ hrow => hrow) htask rfl rfl ?_
      rw [hsound.task_state hexecution htask]
      exact execution.phase.state_not_terminal
  | published taskId handled execution prior task result hexecution hphase htask hresult =>
      cases hsound.task_id htask
      refine Kept.saved rfl (fun _ _ hrow => hrow) htask rfl rfl ?_
      rw [hsound.task_state hexecution htask]
      exact execution.phase.state_not_terminal
  | concluded taskId execution task prompted hexecution hphase htask =>
      cases hsound.task_id htask
      refine Kept.saved rfl (fun _ _ hrow => hrow) htask rfl rfl ?_
      rw [hsound.task_state hexecution htask]
      exact execution.phase.state_not_terminal
  | canceled owner taskId task htask hactive =>
      cases hsound.task_id htask
      exact Kept.saved rfl (fun _ _ hrow => hrow) htask rfl rfl hactive
  | restarted =>
      constructor
      · exact fun _ _ hrow => hrow
      · intro key task htask
        refine ⟨interrupted task, by simp [restart, recover, htask], interrupted_id task, ?_, ?_⟩
        · unfold interrupted
          split <;> rfl
        · intro hterminal
          rw [interrupted_of_active hterminal]

theorem sound_empty : empty.Sound where
  identified _ _ htask := by cases htask
  reserved _ _ _ hrow := by cases hrow
  executing _ _ hexecution := by cases hexecution

/-- Every server that is reached is sound. -/
theorem sound_of_run {labels : List ServerLabel}
    (hrun : (agentServer platform settings stage).run empty labels = some server) :
    server.Sound :=
  (agentServer platform settings stage).run_invariant Sound
    (fun _ _ _ hsound hstep => hsound.step (outcome_of_serverStep hstep)) sound_empty hrun

/-- Only the delivery of a message reserves its identifier. -/
theorem reservation_new (houtcome : ServerOutcome platform settings stage server label next)
    {owner : String} {messageId : MessageId} {row : Reservation}
    (hrow : next.store.messages (owner, messageId) = some row) :
    server.store.messages (owner, messageId) = some row ∨
      ∃ request freshContext, label = .send request freshContext ∧ request.owner = owner ∧
        request.message.messageId = messageId := by
  cases houtcome with
  | unchanged => exact Or.inl hrow
  | reserved request freshContext task store hreserved =>
      by_cases hkey : (owner, messageId) = (request.owner, request.message.messageId)
      · exact Or.inr ⟨request, freshContext, rfl, (congrArg Prod.fst hkey).symm,
          (congrArg Prod.snd hkey).symm⟩
      · left
        cases hreserved with
        | continued | created => exact (Function.update_of_ne hkey _ _).symm.trans hrow
  | started | failed | published | concluded | canceled | restarted => exact Or.inl hrow

end Steps

end AgentServer

end Aidlc
