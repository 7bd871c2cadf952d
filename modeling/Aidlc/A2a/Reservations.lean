import Aidlc.Foundation.Effects
import Aidlc.Foundation.Transition
import Aidlc.A2a.TaskStore

/-! # The task database of the fleet

The agents of a fleet share one database, and every row names its agent and its
owner. Each operation is a transaction of statements: it raises when one of its
statements does or when the database refuses it, and is then rolled back.
-/

namespace Aidlc

open Foundation TaskStore

namespace TaskStore

variable {α : Type}

/-- `with self._connect()`: a body that raises is rolled back. -/
def connected (committed : Bool) (body : EStateM PyError TaskStore α) :
    EStateM PyError TaskStore α := fun store =>
  match body store with
  | .error error _ => .error error store
  | .ok value next =>
    if committed then .ok value next
    else .error ⟨.storageError, "database is locked"⟩ store

/-- `SELECT payload FROM tasks` -/
def selectTask (owner : String) (taskId : TaskId) :
    EStateM PyError TaskStore (Option AgentTask) :=
  return (← get).tasks (owner, taskId)

/-- `UPDATE tasks SET payload = ?` -/
def updateTask (owner : String) (task : AgentTask) : EStateM PyError TaskStore Unit :=
  modify fun store => store.save owner task

/-- `INSERT INTO tasks`: the key must be free. -/
def insertTask (owner : String) (task : AgentTask) : EStateM PyError TaskStore Unit := do
  match ← selectTask owner task.id with
  | some _ =>
    throw ⟨.integrityError, "UNIQUE constraint failed: tasks.agent, tasks.owner, tasks.id"⟩
  | none => modify fun store => store.save owner task

/-- `INSERT INTO messages`: the key must be free. -/
def insertMessage (owner : String) (messageId : MessageId) (fingerprint : String)
    (taskId : TaskId) : EStateM PyError TaskStore Unit := do
  match (← get).messages (owner, messageId) with
  | some _ =>
    throw ⟨.integrityError,
      "UNIQUE constraint failed: messages.agent, messages.owner, messages.message_id"⟩
  | none => modify fun store => store.recordMessage owner messageId fingerprint taskId

/-- The task a fresh message gets: the one it continues, or a new one. -/
def accept (owner : String) (message : AgentMessage) (uuid : TaskId) (freshContext : String) :
    EStateM PyError TaskStore AgentTask :=
  match message.taskId with
  | some taskId => do
    match ← selectTask owner taskId with
    | none => throw ⟨.invalidParamsError, "Unknown continuation task"⟩
    | some task =>
      if task.contextId ≠ message.contextId then
        throw ⟨.invalidParamsError, "Continuation context mismatch"⟩
      else if task.state ≠ .inputRequired then
        throw ⟨.invalidParamsError, "Task is not waiting for input"⟩
      else do
        updateTask owner (resumed task message)
        return resumed task message
  | none => do
    insertTask owner (opened uuid message freshContext)
    return opened uuid message freshContext

/-- The statements of `reserve`, where `uuid4()` returned `uuid` for a new task. -/
def reserveRows (fingerprint : AgentMessage → String) (owner : String) (message : AgentMessage)
    (uuid : TaskId) (freshContext : String) : EStateM PyError TaskStore (AgentTask × Bool) := do
  match (← get).messages (owner, message.messageId) with
  | some row =>
    if row.fingerprint ≠ fingerprint message then
      throw ⟨.invalidParamsError, "messageId reused with different input"⟩
    else
      match ← selectTask owner row.taskId with
      | none => throw ⟨.invalidParamsError, "The reserved task was deleted"⟩
      | some task => return (task, false)
  | none =>
    let task ← accept owner message uuid freshContext
    insertMessage owner message.messageId (fingerprint message) task.id
    return (task, true)

def delete (store : TaskStore) (owner : String) (taskId : TaskId) : TaskStore :=
  { store with tasks := Function.update store.tasks (owner, taskId) none }

end TaskStore

inductive StoreCall where
  | reserve (message : AgentMessage) (uuid : TaskId) (freshContext : String)
  | save (task : AgentTask)
  | get (taskId : TaskId)
  | delete (taskId : TaskId)

inductive StoreReply where
  | reserved (task : AgentTask) (created : Bool)
  | found (task : Option AgentTask)
  | done
  deriving DecidableEq

/-- The statements of an operation for one owner. -/
def StoreCall.body (fingerprint : AgentMessage → String) (owner : String) :
    StoreCall → EStateM PyError TaskStore StoreReply
  | .reserve message uuid freshContext => do
    let (task, created) ← reserveRows fingerprint owner message uuid freshContext
    return .reserved task created
  | .save task => do
    updateTask owner task
    return .done
  | .get taskId => return .found (← selectTask owner taskId)
  | .delete taskId => do
    modify fun store => store.delete owner taskId
    return .done

inductive StoreLabel where
  | call (agent owner : String) (call : StoreCall) (committed : Bool)
  | reopen (agent : String) (committed : Bool)

/-- The rows of every agent. -/
abbrev TaskTables := String → TaskStore

namespace TaskTables

/-- What a call answers, and the rows of its agent after it. -/
def answer (fingerprint : AgentMessage → String) (tables : TaskTables) (agent owner : String)
    (call : StoreCall) (committed : Bool) : EStateM.Result PyError TaskStore StoreReply :=
  connected committed (call.body fingerprint owner) (tables agent)

/-- Opening the store of an agent, which fails its interrupted tasks. -/
def reopened (tables : TaskTables) (agent : String) (committed : Bool) :
    EStateM.Result PyError TaskStore Unit :=
  connected committed (modify TaskStore.recover) (tables agent)

end TaskTables

/-- The stores of all agents: any agent calls for any owner at any time, and is
restarted at any time. -/
def taskStores (fingerprint : AgentMessage → String) : System TaskTables StoreLabel where
  step tables
    | .call agent owner call committed =>
      some (Function.update tables agent
        (finalState (tables.answer fingerprint agent owner call committed)))
    | .reopen agent committed =>
      some (Function.update tables agent (finalState (tables.reopened agent committed)))

namespace TaskStore

variable {fingerprint : AgentMessage → String} {store next : TaskStore}
  {owner freshContext : String} {message : AgentMessage} {uuid : TaskId}

theorem selectTask_run (taskId : TaskId) :
    selectTask owner taskId store = .ok (store.tasks (owner, taskId)) store := rfl

/-- A known message is answered from its row. -/
theorem reserveRows_known {row : Reservation}
    (hrow : store.messages (owner, message.messageId) = some row) :
    reserveRows fingerprint owner message uuid freshContext store =
      if row.fingerprint ≠ fingerprint message then
        .error ⟨.invalidParamsError, "messageId reused with different input"⟩ store
      else match store.tasks (owner, row.taskId) with
        | none => .error ⟨.invalidParamsError, "The reserved task was deleted"⟩ store
        | some task => .ok (task, false) store := by
  unfold reserveRows
  rw [bind_of_ok (get_run store)]
  simp only [hrow]
  split
  · rfl
  · rw [bind_of_ok (selectTask_run _)]
    cases store.tasks (owner, row.taskId) <;> rfl

/-- A task id that is taken violates the primary key. -/
theorem insertTask_taken {task other : AgentTask}
    (htaken : store.tasks (owner, task.id) = some other) :
    insertTask owner task store =
      .error ⟨.integrityError,
        "UNIQUE constraint failed: tasks.agent, tasks.owner, tasks.id"⟩ store := by
  unfold insertTask
  rw [bind_of_ok (selectTask_run _)]
  simp only [htaken]
  rfl

/-- A free task id is inserted. -/
theorem insertTask_free {task : AgentTask} (hfree : store.tasks (owner, task.id) = none) :
    insertTask owner task store = .ok () (store.save owner task) := by
  unfold insertTask
  rw [bind_of_ok (selectTask_run _)]
  simp only [hfree]
  rfl

theorem accept_run :
    accept owner message uuid freshContext store =
      match message.taskId with
      | some taskId =>
        match store.tasks (owner, taskId) with
        | none => .error ⟨.invalidParamsError, "Unknown continuation task"⟩ store
        | some task =>
          if task.contextId ≠ message.contextId then
            .error ⟨.invalidParamsError, "Continuation context mismatch"⟩ store
          else if task.state ≠ .inputRequired then
            .error ⟨.invalidParamsError, "Task is not waiting for input"⟩ store
          else .ok (resumed task message) (store.save owner (resumed task message))
      | none =>
        match store.tasks (owner, uuid) with
        | some _ =>
          .error ⟨.integrityError,
            "UNIQUE constraint failed: tasks.agent, tasks.owner, tasks.id"⟩ store
        | none =>
          .ok (opened uuid message freshContext)
            (store.save owner (opened uuid message freshContext)) := by
  unfold accept
  cases message.taskId with
  | some taskId =>
      simp only
      rw [bind_of_ok (selectTask_run _)]
      cases store.tasks (owner, taskId) with
      | none => rfl
      | some task =>
          simp only
          split
          · rfl
          · split <;> rfl
  | none =>
      cases hfree : store.tasks (owner, uuid) with
      | some task => exact bind_of_error (insertTask_taken hfree) _
      | none => exact bind_of_ok (insertTask_free hfree) _

theorem insertMessage_run (hfresh : store.messages (owner, message.messageId) = none)
    (taskId : TaskId) :
    insertMessage owner message.messageId (fingerprint message) taskId store =
      .ok () (store.recordMessage owner message.messageId (fingerprint message) taskId) := by
  unfold insertMessage
  rw [bind_of_ok (get_run store)]
  simp only [hfresh]
  rfl

/-- Accepting a message writes no message row. -/
theorem accept_messages {task : AgentTask}
    (haccept : accept owner message uuid freshContext store = .ok task next) :
    next.messages = store.messages := by
  rw [accept_run] at haccept
  repeat' split at haccept
  all_goals cases haccept
  all_goals rfl

/-- A fresh message is accepted and then recorded. -/
theorem reserveRows_fresh (hfresh : store.messages (owner, message.messageId) = none) :
    reserveRows fingerprint owner message uuid freshContext store =
      match accept owner message uuid freshContext store with
      | .error error middle => .error error middle
      | .ok task middle =>
        .ok (task, true)
          (middle.recordMessage owner message.messageId (fingerprint message) task.id) := by
  unfold reserveRows
  rw [bind_of_ok (get_run store)]
  simp only [hfresh]
  cases haccept : accept owner message uuid freshContext store with
  | error error middle => exact bind_of_error haccept _
  | ok task middle =>
      rw [bind_of_ok haccept]
      have hkept : middle.messages (owner, message.messageId) = none := by
        rw [accept_messages haccept, hfresh]
      exact bind_of_ok (insertMessage_run hkept task.id) _

theorem reserved_of_reserveRows {task : AgentTask} {created : Bool}
    (hreserve : reserveRows fingerprint owner message uuid freshContext store =
      .ok (task, created) next) :
    Reserved fingerprint store owner message uuid store.nextTaskId freshContext task created
      next := by
  cases hrow : store.messages (owner, message.messageId) with
  | some row =>
      rw [reserveRows_known hrow] at hreserve
      split at hreserve
      · cases hreserve
      · rename_i hsame
        split at hreserve
        · cases hreserve
        · rename_i stored htask
          cases hreserve
          exact .repeated row _ hrow (not_not.mp hsame) htask
  | none =>
      rw [reserveRows_fresh hrow, accept_run] at hreserve
      cases hmessage : message.taskId with
      | some taskId =>
          cases htask : store.tasks (owner, taskId) with
          | none => simp only [hmessage, htask] at hreserve; cases hreserve
          | some stored =>
              simp only [hmessage, htask] at hreserve
              by_cases hcontext : stored.contextId = message.contextId
              · by_cases hwaiting : stored.state = .inputRequired
                · simp only [hcontext, hwaiting, ne_eq, not_true_eq_false, if_false] at hreserve
                  cases hreserve
                  exact .continued taskId stored hrow hmessage htask hcontext hwaiting
                · simp [hcontext, hwaiting] at hreserve
              · simp [hcontext] at hreserve
      | none =>
          cases hfree : store.tasks (owner, uuid) with
          | some stored => simp only [hmessage, hfree] at hreserve; cases hreserve
          | none =>
              simp only [hmessage, hfree] at hreserve
              cases hreserve
              exact .created hrow hmessage

/-- Where the next identifier is free, a committed reservation is the one the
server of the agent makes. -/
theorem connected_reserveRows (hfree : store.tasks (owner, store.nextTaskId) = none) :
    connected true (reserveRows fingerprint owner message store.nextTaskId freshContext) store =
      match store.reserve fingerprint owner message freshContext with
      | .error error => .error error store
      | .ok (reserved, next) => .ok reserved { next with nextTaskId := store.nextTaskId } := by
  unfold connected
  cases hrow : store.messages (owner, message.messageId) with
  | some row =>
      rw [reserveRows_known hrow]
      simp only [reserve, hrow]
      by_cases hsame : row.fingerprint = fingerprint message
      · cases store.tasks (owner, row.taskId) <;> simp [hsame]
      · simp [hsame]
  | none =>
      rw [reserveRows_fresh hrow, accept_run]
      cases hmessage : message.taskId with
      | some taskId =>
          simp only [reserve, hrow, hmessage]
          cases htask : store.tasks (owner, taskId) with
          | none => rfl
          | some stored =>
              by_cases hcontext : stored.contextId = message.contextId
              · by_cases hwaiting : stored.state = .inputRequired
                · simp only [hcontext, hwaiting, ne_eq, not_true_eq_false, if_false]
                  rfl
                · simp [hcontext, hwaiting]
              · simp [hcontext]
      | none =>
          simp only [reserve, hrow, hmessage, hfree]
          rfl

end TaskStore

section

variable {fingerprint : AgentMessage → String}

/-- Every task is stored under its own identifier. -/
def TaskStore.Keyed (store : TaskStore) : Prop :=
  ∀ owner taskId task, store.tasks (owner, taskId) = some task → task.id = taskId

/-- What a step does to the rows of one agent. -/
inductive RowsOutcome (fingerprint : AgentMessage → String) (agent : String)
    (store : TaskStore) : StoreLabel → TaskStore → Prop
  | unchanged (label : StoreLabel) : RowsOutcome fingerprint agent store label store
  | reserved (owner : String) (message : AgentMessage) (uuid : TaskId) (freshContext : String)
      (task : AgentTask) (created : Bool) (next : TaskStore)
      (hreserved : Reserved fingerprint store owner message uuid store.nextTaskId freshContext task
        created next) :
      RowsOutcome fingerprint agent store
        (.call agent owner (.reserve message uuid freshContext) true) next
  | saved (owner : String) (task : AgentTask) :
      RowsOutcome fingerprint agent store (.call agent owner (.save task) true)
        (store.save owner task)
  | deleted (owner : String) (taskId : TaskId) :
      RowsOutcome fingerprint agent store (.call agent owner (.delete taskId) true)
        (store.delete owner taskId)
  | reopened : RowsOutcome fingerprint agent store (.reopen agent true) store.recover

variable {α : Type} {tables next : TaskTables} {label : StoreLabel}

theorem TaskStore.connected_eq_ok {committed : Bool} {body : EStateM PyError TaskStore α}
    {store last : TaskStore} {value : α} :
    connected committed body store = .ok value last ↔
      committed = true ∧ body store = .ok value last := by
  unfold connected
  cases hbody : body store with
  | error error middle => simp
  | ok result middle => cases committed <;> simp

theorem TaskStore.connected_error {committed : Bool} {body : EStateM PyError TaskStore α}
    {store last : TaskStore} {error : PyError}
    (herror : connected committed body store = .error error last) : last = store := by
  unfold connected at herror
  cases hbody : body store with
  | error raised middle =>
      simp only [hbody, EStateM.Result.error.injEq] at herror
      exact herror.2.symm
  | ok result middle =>
      cases committed with
      | true => simp [hbody] at herror
      | false =>
          simp only [hbody, Bool.false_eq_true, if_false, EStateM.Result.error.injEq] at herror
          exact herror.2.symm

theorem answer_reserve_ok {agent owner : String} {message : AgentMessage} {uuid : TaskId}
    {freshContext : String} {committed : Bool} {reply : StoreReply} {last : TaskStore} :
    tables.answer fingerprint agent owner (.reserve message uuid freshContext) committed =
        .ok reply last ↔
      committed = true ∧ ∃ task created, reply = .reserved task created ∧
        reserveRows fingerprint owner message uuid freshContext (tables agent) =
          .ok (task, created) last := by
  unfold TaskTables.answer
  rw [connected_eq_ok]
  refine and_congr_right fun _ => ?_
  simp only [StoreCall.body]
  rw [bind_eq_ok]
  constructor
  · rintro ⟨⟨task, created⟩, middle, hreserve, hreply⟩
    rw [pure_eq_ok] at hreply
    obtain ⟨rfl, rfl⟩ := hreply
    exact ⟨task, created, rfl, hreserve⟩
  · rintro ⟨task, created, rfl, hreserve⟩
    exact ⟨(task, created), last, hreserve, rfl⟩

theorem outcome_of_call {agent owner : String} {call : StoreCall} {committed : Bool} :
    RowsOutcome fingerprint agent (tables agent) (.call agent owner call committed)
      (finalState (tables.answer fingerprint agent owner call committed)) := by
  cases hanswer : tables.answer fingerprint agent owner call committed with
  | error error last =>
      have hsame : last = tables agent := connected_error hanswer
      rw [hsame]
      exact .unchanged _
  | ok reply last =>
      cases call with
      | reserve message uuid freshContext =>
          obtain ⟨rfl, task, created, rfl, hreserve⟩ := answer_reserve_ok.mp hanswer
          exact .reserved owner message uuid freshContext task created last
            (reserved_of_reserveRows hreserve)
      | save task =>
          obtain ⟨rfl, hbody⟩ := connected_eq_ok.mp hanswer
          cases hbody
          exact .saved owner task
      | get taskId =>
          obtain ⟨rfl, hbody⟩ := connected_eq_ok.mp hanswer
          cases hbody
          exact .unchanged _
      | delete taskId =>
          obtain ⟨rfl, hbody⟩ := connected_eq_ok.mp hanswer
          cases hbody
          exact .deleted owner taskId

theorem outcome_of_storeStep (hstep : (taskStores fingerprint).step tables label = some next)
    (agent : String) : RowsOutcome fingerprint agent (tables agent) label (next agent) := by
  cases label with
  | call caller owner call committed =>
      simp only [taskStores, Option.some.injEq] at hstep
      subst hstep
      by_cases hagent : agent = caller
      · subst hagent
        rw [Function.update_self]
        exact outcome_of_call
      · rw [Function.update_of_ne hagent]
        exact .unchanged _
  | reopen caller committed =>
      simp only [taskStores, Option.some.injEq] at hstep
      subst hstep
      by_cases hagent : agent = caller
      · subst hagent
        rw [Function.update_self]
        cases committed with
        | true => exact .reopened
        | false => exact .unchanged _
      · rw [Function.update_of_ne hagent]
        exact .unchanged _

end

section

variable {fingerprint : AgentMessage → String} {store rows : TaskStore}

namespace TaskStore

theorem Keyed.save (hkeyed : store.Keyed) (owner : String) (task : AgentTask) :
    (store.save owner task).Keyed := by
  intro other taskId found hfound
  rcases save_tasks_cases hfound with ⟨hkey, rfl⟩ | ⟨-, hold⟩
  · exact (congrArg Prod.snd hkey).symm
  · exact hkeyed other taskId found hold

@[simp] theorem delete_tasks_self (store : TaskStore) (owner : String) (taskId : TaskId) :
    (store.delete owner taskId).tasks (owner, taskId) = none :=
  Function.update_self _ _ _

theorem delete_tasks_of_ne {owner : String} {taskId : TaskId} {key : String × TaskId}
    (hne : key ≠ (owner, taskId)) : (store.delete owner taskId).tasks key = store.tasks key :=
  Function.update_of_ne hne _ _

@[simp] theorem recordMessage_messages_self (store : TaskStore) (owner : String)
    (messageId : MessageId) (text : String) (taskId : TaskId) :
    (store.recordMessage owner messageId text taskId).messages (owner, messageId) =
      some ⟨text, taskId⟩ :=
  Function.update_self _ _ _

theorem recordMessage_messages_of_ne {owner text : String} {messageId : MessageId}
    {taskId : TaskId} {key : String × MessageId} (hne : key ≠ (owner, messageId)) :
    (store.recordMessage owner messageId text taskId).messages key = store.messages key :=
  Function.update_of_ne hne _ _

theorem Keyed.delete (hkeyed : store.Keyed) (owner : String) (taskId : TaskId) :
    (store.delete owner taskId).Keyed := by
  intro other otherId found hfound
  by_cases hkey : (other, otherId) = (owner, taskId)
  · rw [hkey, delete_tasks_self] at hfound
    cases hfound
  · rw [delete_tasks_of_ne hkey] at hfound
    exact hkeyed other otherId found hfound

theorem Keyed.recover (hkeyed : store.Keyed) : store.recover.Keyed := by
  intro owner taskId task htask
  obtain ⟨stored, hstored, rfl⟩ := recover_tasks htask
  rw [interrupted_id]
  exact hkeyed owner taskId stored hstored

section Reserve

variable {owner freshContext : String} {message : AgentMessage} {uuid counter : TaskId}
  {task : AgentTask} {created : Bool}

theorem Reserved.keyed
    (hreserved : Reserved fingerprint store owner message uuid counter freshContext task created
      rows)
    (hkeyed : store.Keyed) : rows.Keyed := by
  cases hreserved with
  | repeated row task hrow hsame htask => exact hkeyed
  | continued taskId task hfresh hmessage htask hcontext hwaiting => exact hkeyed.save owner _
  | created hfresh hmessage => exact hkeyed.save owner _

/-- A reservation stands once it is made. -/
theorem Reserved.messages_kept
    (hreserved : Reserved fingerprint store owner message uuid counter freshContext task created
      rows)
    {key : String × MessageId} {row : Reservation} (hrow : store.messages key = some row) :
    rows.messages key = some row := by
  cases hreserved with
  | repeated => exact hrow
  | continued taskId task hfresh hmessage htask hcontext hwaiting =>
      have hne : key ≠ (owner, message.messageId) := by
        rintro rfl
        rw [hfresh] at hrow
        cases hrow
      exact (recordMessage_messages_of_ne hne).trans hrow
  | created hfresh hmessage =>
      have hne : key ≠ (owner, message.messageId) := by
        rintro rfl
        rw [hfresh] at hrow
        cases hrow
      exact (recordMessage_messages_of_ne hne).trans hrow

/-- The task a reservation returned is stored, and reserved for the message. -/
theorem Reserved.stored
    (hreserved : Reserved fingerprint store owner message uuid counter freshContext task created
      rows)
    (hkeyed : store.Keyed) :
    rows.messages (owner, message.messageId) = some ⟨fingerprint message, task.id⟩ ∧
      rows.tasks (owner, task.id) = some task := by
  cases hreserved with
  | repeated row task hrow hsame htask =>
      have hid := hkeyed owner row.taskId task htask
      rw [hid, hrow, ← hsame]
      exact ⟨rfl, htask⟩
  | continued taskId task hfresh hmessage htask hcontext hwaiting =>
      exact ⟨Function.update_self _ _ _, Function.update_self _ _ _⟩
  | created hfresh hmessage =>
      exact ⟨Function.update_self _ _ _, Function.update_self _ _ _⟩

theorem Reserved.fresh_of_created
    (hreserved : Reserved fingerprint store owner message uuid counter freshContext task true rows) :
    store.messages (owner, message.messageId) = none := by
  cases hreserved with
  | continued taskId task hfresh hmessage htask hcontext hwaiting => exact hfresh
  | created hfresh hmessage => exact hfresh

/-- A reservation leaves the tasks of other owners alone, and puts no task into
`input_required`. -/
theorem Reserved.tasks_cases
    (hreserved : Reserved fingerprint store owner message uuid counter freshContext task created
      rows)
    (key : String × TaskId) :
    rows.tasks key = store.tasks key ∨
      (key.1 = owner ∧ ∃ found, rows.tasks key = some found ∧ found.state = .submitted) := by
  cases hreserved with
  | repeated => exact Or.inl rfl
  | continued taskId task hfresh hmessage htask hcontext hwaiting =>
      by_cases hkey : key = (owner, task.id)
      · subst hkey
        exact Or.inr ⟨rfl, resumed task message, Function.update_self _ _ _, rfl⟩
      · exact Or.inl (save_tasks_of_ne hkey)
  | created hfresh hmessage =>
      by_cases hkey : key = (owner, uuid)
      · subst hkey
        exact Or.inr ⟨rfl, opened uuid message freshContext, Function.update_self _ _ _, rfl⟩
      · exact Or.inl (save_tasks_of_ne hkey)

/-- A continuation is accepted by a task that waits for input, which then no
longer waits. -/
theorem Reserved.continues
    (hreserved : Reserved fingerprint store owner message uuid counter freshContext task true rows)
    (hkeyed : store.Keyed) {taskId : TaskId} (hmessage : message.taskId = some taskId) :
    (∃ waiting, store.tasks (owner, taskId) = some waiting ∧ waiting.state = .inputRequired) ∧
      ∃ found, rows.tasks (owner, taskId) = some found ∧ found.state = .submitted := by
  cases hreserved with
  | continued otherId stored hfresh hother htask hcontext hwaiting =>
      have hsame : otherId = taskId := Option.some.inj (hother.symm.trans hmessage)
      subst hsame
      have hid := hkeyed owner otherId stored htask
      refine ⟨⟨stored, htask, hwaiting⟩, resumed stored message, ?_, rfl⟩
      rw [← hid]
      exact Function.update_self _ _ _
  | created hfresh hnone =>
      rw [hmessage] at hnone
      cases hnone

end Reserve

end TaskStore

variable {tables next : TaskTables} {label : StoreLabel} {agent : String}

theorem RowsOutcome.keyed (houtcome : RowsOutcome fingerprint agent store label rows)
    (hkeyed : store.Keyed) : rows.Keyed := by
  cases houtcome with
  | unchanged => exact hkeyed
  | reserved owner message uuid freshContext task created rows hreserved =>
      exact hreserved.keyed hkeyed
  | saved owner task => exact hkeyed.save owner task
  | deleted owner taskId => exact hkeyed.delete owner taskId
  | reopened => exact hkeyed.recover

theorem RowsOutcome.messages_kept (houtcome : RowsOutcome fingerprint agent store label rows)
    {key : String × MessageId} {row : Reservation} (hrow : store.messages key = some row) :
    rows.messages key = some row := by
  cases houtcome with
  | reserved owner message uuid freshContext task created rows hreserved =>
      exact hreserved.messages_kept hrow
  | unchanged | saved | deleted | reopened => exact hrow

/-- A task only disappears when its owner deletes it. -/
theorem RowsOutcome.tasks_kept (houtcome : RowsOutcome fingerprint agent store label rows)
    {owner : String} {taskId : TaskId} (hlabel : label ≠ .call agent owner (.delete taskId) true)
    (htask : (store.tasks (owner, taskId)).isSome) : (rows.tasks (owner, taskId)).isSome := by
  cases houtcome with
  | unchanged => exact htask
  | reserved caller message uuid freshContext task created rows hreserved =>
      rcases hreserved.tasks_cases _ with hsame | ⟨-, found, hfound, -⟩
      · rw [hsame]
        exact htask
      · rw [hfound]
        rfl
  | saved caller task =>
      by_cases hkey : (owner, taskId) = (caller, task.id)
      · rw [hkey, save_tasks_self]
        rfl
      · rw [save_tasks_of_ne hkey]
        exact htask
  | deleted caller other =>
      have hkey : (owner, taskId) ≠ (caller, other) := by
        intro hsame
        cases hsame
        exact hlabel rfl
      rw [delete_tasks_of_ne hkey]
      exact htask
  | reopened =>
      simp only [recover, Option.isSome_map]
      exact htask

/-- Only a save puts a task into `input_required`. -/
theorem RowsOutcome.waiting_before (houtcome : RowsOutcome fingerprint agent store label rows)
    {owner : String} {taskId : TaskId} {task : AgentTask}
    (hlabel : ∀ saved : AgentTask, saved.id = taskId → saved.state = .inputRequired →
      label ≠ .call agent owner (.save saved) true)
    (htask : rows.tasks (owner, taskId) = some task) (hwaiting : task.state = .inputRequired) :
    store.tasks (owner, taskId) = some task := by
  cases houtcome with
  | unchanged => exact htask
  | reserved caller message uuid freshContext other created rows hreserved =>
      rcases hreserved.tasks_cases _ with
        hsame | ⟨-, found, hfound, hsubmitted⟩
      · rw [← hsame]
        exact htask
      · rw [hfound, Option.some.injEq] at htask
        rw [htask, hwaiting] at hsubmitted
        cases hsubmitted
  | saved caller saved =>
      rcases save_tasks_cases htask with ⟨hkey, rfl⟩ | ⟨-, hold⟩
      · cases hkey
        exact absurd rfl (hlabel task rfl hwaiting)
      · exact hold
  | deleted caller other =>
      by_cases hkey : (owner, taskId) = (caller, other)
      · rw [hkey, delete_tasks_self] at htask
        cases htask
      · rw [delete_tasks_of_ne hkey] at htask
        exact htask
  | reopened =>
      obtain ⟨stored, hstored, rfl⟩ := recover_tasks htask
      rw [interrupted_of_state (by rw [hwaiting]; decide)]
      exact hstored

/-- A message the predicate selects is newly reserved by this step. -/
def reserves (fingerprint : AgentMessage → String) (agent owner : String)
    (selects : AgentMessage → Bool) (tables : TaskTables) : StoreLabel → Bool
  | .call caller other (.reserve message uuid freshContext) committed =>
    caller == agent && other == owner && selects message &&
      match tables.answer fingerprint caller other (.reserve message uuid freshContext)
        committed with
      | .ok (.reserved _ true) _ => true
      | _ => false
  | _ => false

theorem reserved_of_reserves {owner : String} {selects : AgentMessage → Bool}
    (hreserves : reserves fingerprint agent owner selects tables label = true)
    (hstep : (taskStores fingerprint).step tables label = some next) :
    ∃ message uuid freshContext task, selects message = true ∧
      Reserved fingerprint (tables agent) owner message uuid (tables agent).nextTaskId freshContext
        task true (next agent) := by
  unfold reserves at hreserves
  split at hreserves
  · rename_i caller other message uuid freshContext committed
    simp only [Bool.and_eq_true, beq_iff_eq] at hreserves
    obtain ⟨⟨⟨rfl, rfl⟩, hselects⟩, hreserves⟩ := hreserves
    split at hreserves
    · rename_i task last hanswer
      obtain ⟨-, stored, created, hreply, hreserve⟩ := answer_reserve_ok.mp hanswer
      cases hreply
      simp only [taskStores, Option.some.injEq, hanswer, finalState] at hstep
      subst hstep
      rw [Function.update_self]
      exact ⟨message, uuid, freshContext, task, hselects, reserved_of_reserveRows hreserve⟩
    · cases hreserves
  · cases hreserves

/-- Every task of every agent is stored under its own identifier. -/
def TaskTables.Keyed (tables : TaskTables) : Prop := ∀ agent, (tables agent).Keyed

theorem TaskTables.Keyed.step (hkeyed : tables.Keyed)
    (hstep : (taskStores fingerprint).step tables label = some next) : next.Keyed :=
  fun agent => (outcome_of_storeStep hstep agent).keyed (hkeyed agent)

theorem created_at_most_once (hkeyed : tables.Keyed) (owner : String) (messageId : MessageId)
    {labels : List StoreLabel} {last : TaskTables}
    (hrun : (taskStores fingerprint).run tables labels = some last) :
    (taskStores fingerprint).occurrences
      (reserves fingerprint agent owner fun message => message.messageId == messageId)
      tables labels ≤ 1 := by
  refine ((taskStores fingerprint).occurrences_le_one _ TaskTables.Keyed
    (fun tables => (tables agent).messages (owner, messageId) = none) (fun _ => True)
    (fun _ _ _ => TaskTables.Keyed.step) ?_ ?_ (fun _ _ => trivial) hkeyed hrun).1
  · intro state label next hkeyed hreserves hstep
    obtain ⟨message, uuid, freshContext, task, hid, hreserved⟩ :=
      reserved_of_reserves hreserves hstep
    rw [beq_iff_eq] at hid
    subst hid
    refine ⟨hreserved.fresh_of_created, ?_⟩
    rw [(hreserved.stored (hkeyed agent)).1]
    exact Option.some_ne_none _
  · intro state label next _ _ hstep hnone
    cases hrow : (state agent).messages (owner, messageId) with
    | none => rfl
    | some row =>
        rw [(outcome_of_storeStep hstep agent).messages_kept hrow] at hnone
        cases hnone

theorem continued_at_most_once (hkeyed : tables.Keyed) (owner : String) (taskId : TaskId)
    {labels : List StoreLabel} {last : TaskTables}
    (hquiet : ∀ saved : AgentTask, saved.id = taskId → saved.state = .inputRequired →
      StoreLabel.call agent owner (.save saved) true ∉ labels)
    (hrun : (taskStores fingerprint).run tables labels = some last) :
    (taskStores fingerprint).occurrences
      (reserves fingerprint agent owner fun message => message.taskId == some taskId)
      tables labels ≤ 1 := by
  refine ((taskStores fingerprint).occurrences_le_one _ TaskTables.Keyed
    (fun tables => ∃ task, (tables agent).tasks (owner, taskId) = some task ∧
      task.state = .inputRequired)
    (fun label => ∀ saved : AgentTask, saved.id = taskId → saved.state = .inputRequired →
      label ≠ .call agent owner (.save saved) true)
    (fun _ _ _ => TaskTables.Keyed.step) ?_ ?_ ?_ hkeyed hrun).1
  · intro state label next hkeyed hreserves hstep
    obtain ⟨message, uuid, freshContext, task, hmessage, hreserved⟩ :=
      reserved_of_reserves hreserves hstep
    obtain ⟨hbefore, found, hfound, hsubmitted⟩ :=
      hreserved.continues (hkeyed agent) (beq_iff_eq.mp hmessage)
    refine ⟨hbefore, ?_⟩
    rintro ⟨other, hother, hwaiting⟩
    rw [hfound, Option.some.injEq] at hother
    rw [← hother, hsubmitted] at hwaiting
    cases hwaiting
  · intro state label next hlabel _ hstep ⟨task, htask, hwaiting⟩
    exact ⟨task, (outcome_of_storeStep hstep agent).waiting_before hlabel htask hwaiting,
      hwaiting⟩
  · intro label hmem saved hid hstate hlabel
    exact hquiet saved hid hstate (hlabel ▸ hmem)

section Repeated

variable {owner : String} {message repeated : AgentMessage} {task : AgentTask}

/-- The reservation of a message names this task. -/
def TaskTables.Names (fingerprint : AgentMessage → String) (agent owner : String)
    (message : AgentMessage) (taskId : TaskId) (tables : TaskTables) : Prop :=
  (tables agent).messages (owner, message.messageId) = some ⟨fingerprint message, taskId⟩

theorem TaskTables.Names.run {taskId : TaskId} {labels : List StoreLabel} {last : TaskTables}
    (hnames : tables.Names fingerprint agent owner message taskId)
    (hrun : (taskStores fingerprint).run tables labels = some last) :
    last.Names fingerprint agent owner message taskId :=
  (taskStores fingerprint).run_invariant
    (TaskTables.Names fingerprint agent owner message taskId)
    (fun _ _ _ hnames hstep => (outcome_of_storeStep hstep agent).messages_kept hnames)
    hnames hrun

/-- A task that has disappeared was deleted by its owner. -/
theorem deleted_of_run {taskId : TaskId} {labels : List StoreLabel} {last : TaskTables}
    (hsome : ((tables agent).tasks (owner, taskId)).isSome)
    (hrun : (taskStores fingerprint).run tables labels = some last)
    (hnone : (last agent).tasks (owner, taskId) = none) :
    StoreLabel.call agent owner (.delete taskId) true ∈ labels := by
  by_contra hnever
  have hkept := (taskStores fingerprint).run_invariant_of
    (fun tables => ((tables agent).tasks (owner, taskId)).isSome)
    (fun label => label ≠ .call agent owner (.delete taskId) true)
    (fun state label next hlabel hsome hstep =>
      (outcome_of_storeStep hstep agent).tasks_kept hlabel hsome)
    (fun label hmem hlabel => hnever (hlabel ▸ hmem)) hsome hrun
  rw [hnone] at hkept
  cases hkept

theorem answer_reserve {uuid : TaskId} {freshContext : String} (committed : Bool) :
    tables.answer fingerprint agent owner (.reserve message uuid freshContext) committed =
      match reserveRows fingerprint owner message uuid freshContext (tables agent) with
      | .error error _ => .error error (tables agent)
      | .ok (task, created) next =>
        if committed then .ok (.reserved task created) next
        else .error ⟨.storageError, "database is locked"⟩ (tables agent) := by
  unfold TaskTables.answer connected
  simp only [StoreCall.body]
  cases hreserve : reserveRows fingerprint owner message uuid freshContext (tables agent) with
  | error error last => rw [bind_of_error hreserve]
  | ok reserved last =>
      rw [bind_of_ok hreserve]
      rfl

/-- What a message gets whose identifier is reserved: its own task again, or an
error. -/
theorem answer_named {taskId uuid : TaskId} {freshContext : String} (committed : Bool)
    (hnames : tables.Names fingerprint agent owner message taskId)
    (hid : repeated.messageId = message.messageId) :
    tables.answer fingerprint agent owner (.reserve repeated uuid freshContext) committed =
      if fingerprint message ≠ fingerprint repeated then
        .error ⟨.invalidParamsError, "messageId reused with different input"⟩ (tables agent)
      else match (tables agent).tasks (owner, taskId) with
        | none => .error ⟨.invalidParamsError, "The reserved task was deleted"⟩ (tables agent)
        | some task =>
          if committed then .ok (.reserved task false) (tables agent)
          else .error ⟨.storageError, "database is locked"⟩ (tables agent) := by
  have hrow : (tables agent).messages (owner, repeated.messageId) =
      some ⟨fingerprint message, taskId⟩ := by
    rw [hid]
    exact hnames
  rw [answer_reserve, reserveRows_known hrow]
  by_cases hsame : fingerprint message = fingerprint repeated
  · simp only [hsame, ne_eq, not_true_eq_false, if_false]
    cases (tables agent).tasks (owner, taskId) <;> rfl
  · simp only [hsame, ne_eq, not_false_eq_true, if_true]

end Repeated

section Isolation

/-- Two stores with the same rows of one owner. -/
def TaskStore.Agree (owner : String) (first second : TaskStore) : Prop :=
  (∀ taskId, first.tasks (owner, taskId) = second.tasks (owner, taskId)) ∧
    ∀ messageId, first.messages (owner, messageId) = second.messages (owner, messageId)

variable {owner : String} {first second : TaskStore}

theorem TaskStore.Agree.save (hagree : Agree owner first second) (task : AgentTask) :
    Agree owner (first.save owner task) (second.save owner task) := by
  refine ⟨fun taskId => ?_, hagree.2⟩
  by_cases hkey : (owner, taskId) = (owner, task.id)
  · rw [hkey, save_tasks_self, save_tasks_self]
  · rw [save_tasks_of_ne hkey, save_tasks_of_ne hkey]
    exact hagree.1 taskId

theorem TaskStore.Agree.delete (hagree : Agree owner first second) (taskId : TaskId) :
    Agree owner (first.delete owner taskId) (second.delete owner taskId) := by
  refine ⟨fun other => ?_, hagree.2⟩
  by_cases hkey : (owner, other) = (owner, taskId)
  · rw [hkey, delete_tasks_self, delete_tasks_self]
  · rw [delete_tasks_of_ne hkey, delete_tasks_of_ne hkey]
    exact hagree.1 other

theorem TaskStore.Agree.recordMessage (hagree : Agree owner first second)
    (messageId : MessageId) (text : String) (taskId : TaskId) :
    Agree owner (first.recordMessage owner messageId text taskId)
      (second.recordMessage owner messageId text taskId) := by
  refine ⟨hagree.1, fun other => ?_⟩
  by_cases hkey : (owner, other) = (owner, messageId)
  · rw [hkey, recordMessage_messages_self, recordMessage_messages_self]
  · rw [recordMessage_messages_of_ne hkey, recordMessage_messages_of_ne hkey]
    exact hagree.2 other

theorem accept_related (hagree : Agree owner first second) (message : AgentMessage)
    (uuid : TaskId) (freshContext : String) :
    Related (Agree owner) (accept owner message uuid freshContext first)
      (accept owner message uuid freshContext second) := by
  rw [accept_run, accept_run]
  cases message.taskId with
  | some taskId =>
      simp only [← hagree.1]
      cases first.tasks (owner, taskId) with
      | none => exact .error _ hagree
      | some task =>
          simp only
          split
          · exact .error _ hagree
          · split
            · exact .error _ hagree
            · exact .ok _ (hagree.save _)
  | none =>
      simp only [← hagree.1]
      cases first.tasks (owner, uuid) with
      | some task => exact .error _ hagree
      | none => exact .ok _ (hagree.save _)

/-- Reserving depends on the rows of its own owner alone. -/
theorem reserveRows_related (hagree : Agree owner first second) (message : AgentMessage)
    (uuid : TaskId) (freshContext : String) :
    Related (Agree owner) (reserveRows fingerprint owner message uuid freshContext first)
      (reserveRows fingerprint owner message uuid freshContext second) := by
  cases hrow : first.messages (owner, message.messageId) with
  | some row =>
      rw [reserveRows_known hrow, reserveRows_known (by rw [← hagree.2, hrow])]
      simp only [← hagree.1]
      split
      · exact .error _ hagree
      · cases first.tasks (owner, row.taskId) with
        | none => exact .error _ hagree
        | some task => exact .ok _ hagree
  | none =>
      rw [reserveRows_fresh hrow, reserveRows_fresh (by rw [← hagree.2, hrow])]
      have haccept := accept_related hagree message uuid freshContext
      revert haccept
      generalize accept owner message uuid freshContext first = left
      generalize accept owner message uuid freshContext second = right
      intro haccept
      cases haccept with
      | ok task hnext => exact .ok _ (hnext.recordMessage _ _ _)
      | error error hnext => exact .error _ hnext

theorem body_related (hagree : Agree owner first second) (call : StoreCall) :
    Related (Agree owner) (call.body fingerprint owner first)
      (call.body fingerprint owner second) := by
  cases call with
  | reserve message uuid freshContext =>
      exact (reserveRows_related hagree message uuid freshContext).bind
        fun _ _ _ hnext => .ok _ hnext
  | save task => exact .ok _ (hagree.save task)
  | get taskId =>
      have hsame : second.tasks (owner, taskId) = first.tasks (owner, taskId) :=
        (hagree.1 taskId).symm
      change Related _ (.ok (StoreReply.found (first.tasks (owner, taskId))) first)
        (.ok (StoreReply.found (second.tasks (owner, taskId))) second)
      rw [hsame]
      exact .ok _ hagree
  | delete taskId => exact .ok _ (hagree.delete taskId)

theorem connected_related (hagree : Agree owner first second) (committed : Bool)
    {body : EStateM PyError TaskStore StoreReply}
    (hbody : Related (Agree owner) (body first) (body second)) :
    Related (Agree owner) (connected committed body first) (connected committed body second) := by
  unfold connected
  revert hbody
  generalize body first = left
  generalize body second = right
  intro hbody
  cases hbody with
  | ok value hnext =>
      cases committed with
      | true => exact .ok _ hnext
      | false => exact .error _ hagree
  | error error hnext => exact .error _ hagree

/-- A call leaves the rows of every other owner alone. -/
theorem RowsOutcome.other_owner {call : StoreCall} {committed : Bool}
    (houtcome : RowsOutcome fingerprint agent store (.call agent owner call committed) rows)
    {other : String} (hother : other ≠ owner) : Agree other store rows := by
  cases houtcome with
  | unchanged => exact ⟨fun _ => rfl, fun _ => rfl⟩
  | reserved owner message uuid freshContext task created rows hreserved =>
      refine ⟨fun taskId => ?_, fun messageId => ?_⟩
      · rcases hreserved.tasks_cases (other, taskId) with hsame | ⟨howner, -⟩
        · exact hsame.symm
        · exact absurd howner hother
      · have hne : (other, messageId) ≠ (owner, message.messageId) :=
          fun hkey => hother (congrArg Prod.fst hkey)
        cases hreserved with
        | repeated => rfl
        | continued | created => exact (recordMessage_messages_of_ne hne).symm
  | saved owner task =>
      refine ⟨fun taskId => (save_tasks_of_ne ?_).symm, fun _ => rfl⟩
      exact fun hkey => hother (congrArg Prod.fst hkey)
  | deleted owner taskId =>
      refine ⟨fun taskId => (delete_tasks_of_ne ?_).symm, fun _ => rfl⟩
      exact fun hkey => hother (congrArg Prod.fst hkey)

end Isolation

/-- What the task stores promise about everything that happens after `tables`. -/
structure ReservationContract (fingerprint : AgentMessage → String) (tables : TaskTables) :
    Prop where
  /-- A message of an owner creates at most one reservation. -/
  created_once : ∀ agent owner messageId labels last,
    (taskStores fingerprint).run tables labels = some last →
      (taskStores fingerprint).occurrences
        (reserves fingerprint agent owner fun message => message.messageId == messageId)
        tables labels ≤ 1
  /-- A message that was reserved gets its task again, unless the task was
  deleted; a different message under its identifier is rejected. -/
  same_task : ∀ agent owner message uuid freshContext committed task created rows,
    tables.answer fingerprint agent owner (.reserve message uuid freshContext) committed =
      .ok (.reserved task created) rows →
    ∀ labels last, (taskStores fingerprint).run tables
        (.call agent owner (.reserve message uuid freshContext) committed :: labels) =
      some last →
    ∀ repeated otherUuid otherContext otherCommitted,
      repeated.messageId = message.messageId →
      (fingerprint repeated = fingerprint message → repeated = message) →
      let again := last.answer fingerprint agent owner
        (.reserve repeated otherUuid otherContext) otherCommitted
      (repeated ≠ message → again =
        .error ⟨.invalidParamsError, "messageId reused with different input"⟩ (last agent)) ∧
      (∀ found recreated state, again = .ok (.reserved found recreated) state →
        recreated = false ∧ found.id = task.id) ∧
      (∀ error state, repeated = message → otherCommitted = true → again = .error error state →
        error = ⟨.invalidParamsError, "The reserved task was deleted"⟩ ∧
          .call agent owner (.delete task.id) true ∈ labels)
  /-- Between two saves that put a task into `input_required`, at most one
  continuation of it is accepted. -/
  continued_once : ∀ agent owner taskId labels last,
    (taskStores fingerprint).run tables labels = some last →
    (∀ saved : AgentTask, saved.id = taskId → saved.state = .inputRequired →
      StoreLabel.call agent owner (.save saved) true ∉ labels) →
    (taskStores fingerprint).occurrences
      (reserves fingerprint agent owner fun message => message.taskId == some taskId)
      tables labels ≤ 1
  /-- Reopening fails exactly the submitted and working tasks of its agent. -/
  reopened : ∀ agent next,
    (taskStores fingerprint).step tables (.reopen agent true) = some next →
    (∀ other, other ≠ agent → next other = tables other) ∧
    (next agent).messages = (tables agent).messages ∧
    ∀ key, (next agent).tasks key = ((tables agent).tasks key).map fun task =>
      if task.state = .submitted ∨ task.state = .working then
        { task with state := .failed, detail := "Agent process restarted" }
      else task
  /-- A call that raises changes no row. -/
  raised : ∀ agent owner call committed error rows next,
    tables.answer fingerprint agent owner call committed = .error error rows →
    (taskStores fingerprint).step tables (.call agent owner call committed) = some next →
    next = tables
  /-- A call changes only rows of its agent and its owner. -/
  writes : ∀ agent owner call committed next,
    (taskStores fingerprint).step tables (.call agent owner call committed) = some next →
    (∀ other, other ≠ agent → next other = tables other) ∧
    ∀ other, other ≠ owner → Agree other (tables agent) (next agent)
  /-- A call reads only rows of its agent and its owner. -/
  reads : ∀ agent owner call committed (others : TaskTables),
    Agree owner (tables agent) (others agent) →
    Related (Agree owner) (tables.answer fingerprint agent owner call committed)
      (others.answer fingerprint agent owner call committed)

/-- Under the keys a repeated message is given the task of the first. -/
theorem same_task_of_keyed (hkeyed : tables.Keyed) {owner : String}
    {message repeated : AgentMessage} {uuid otherUuid : TaskId}
    {freshContext otherContext : String} {committed otherCommitted created : Bool}
    {task : AgentTask} {rows : TaskStore} {labels : List StoreLabel} {last : TaskTables}
    (hanswer : tables.answer fingerprint agent owner (.reserve message uuid freshContext)
      committed = .ok (.reserved task created) rows)
    (hrun : (taskStores fingerprint).run tables
      (.call agent owner (.reserve message uuid freshContext) committed :: labels) = some last)
    (hid : repeated.messageId = message.messageId)
    (hdistinct : fingerprint repeated = fingerprint message → repeated = message) :
    let again := last.answer fingerprint agent owner
      (.reserve repeated otherUuid otherContext) otherCommitted
    (repeated ≠ message → again =
      .error ⟨.invalidParamsError, "messageId reused with different input"⟩ (last agent)) ∧
    (∀ found recreated state, again = .ok (.reserved found recreated) state →
      recreated = false ∧ found.id = task.id) ∧
    (∀ error state, repeated = message → otherCommitted = true → again = .error error state →
      error = ⟨.invalidParamsError, "The reserved task was deleted"⟩ ∧
        .call agent owner (.delete task.id) true ∈ labels) := by
  obtain ⟨next, hstep, hrest⟩ := (System.run_cons_eq_some _).mp hrun
  obtain ⟨-, stored, isNew, hreply, hreserve⟩ := answer_reserve_ok.mp hanswer
  cases hreply
  have hnext : next agent = rows := by
    simp only [taskStores, hanswer, finalState, Option.some.injEq] at hstep
    rw [← hstep, Function.update_self]
  obtain ⟨hrow, htask⟩ := (reserved_of_reserveRows hreserve).stored (hkeyed agent)
  rw [← hnext] at hrow htask
  -- The row names the task for good, and a task is found under its own id.
  have hnames : last.Names fingerprint agent owner message task.id :=
    TaskTables.Names.run hrow hrest
  have hkept : last.Keyed :=
    (taskStores fingerprint).run_invariant TaskTables.Keyed
      (fun _ _ _ => TaskTables.Keyed.step) hkeyed hrun
  intro again
  have hagain : again = _ := answer_named otherCommitted hnames hid
  -- The fingerprint decides between the repeated message and another one.
  by_cases hsame : fingerprint message = fingerprint repeated
  · rw [if_neg (not_not.mpr hsame)] at hagain
    refine ⟨fun hne => absurd (hdistinct hsame.symm) hne, ?_, ?_⟩
    · intro found recreated state hok
      rw [hagain] at hok
      split at hok
      · cases hok
      · rename_i other hother
        split at hok
        · cases hok
          exact ⟨rfl, hkept agent owner task.id _ hother⟩
        · cases hok
    · intro error state _ hcommitted herror
      rw [hagain] at herror
      split at herror
      · rename_i hnone
        cases herror
        exact ⟨rfl, deleted_of_run (by rw [htask]; rfl) hrest hnone⟩
      · rw [if_pos hcommitted] at herror
        cases herror
  · rw [if_pos hsame] at hagain
    refine ⟨fun _ => hagain, ?_, ?_⟩
    · intro found recreated state hok
      rw [hagain] at hok
      cases hok
    · intro error state heq
      exact absurd (congrArg fingerprint heq.symm) hsame

/-- The promises hold in every reachable state of the database. -/
theorem reservations_idempotent {labels : List StoreLabel}
    (hrun : (taskStores fingerprint).run (fun _ => .empty) labels = some tables) :
    ReservationContract fingerprint tables := by
  have hkeyed : tables.Keyed :=
    (taskStores fingerprint).run_invariant TaskTables.Keyed
      (fun _ _ _ => TaskTables.Keyed.step)
      (fun _ _ _ _ hnone => by cases hnone) hrun
  refine ⟨?_, ?_, ?_, ?_, ?_, ?_, ?_⟩
  · intro agent owner messageId labels last hrun
    exact created_at_most_once hkeyed owner messageId hrun
  · intro agent owner message uuid freshContext committed task created rows hanswer labels last
      hrun repeated otherUuid otherContext otherCommitted hid hdistinct
    exact same_task_of_keyed hkeyed hanswer hrun hid hdistinct
  · intro agent owner taskId labels last hrun hquiet
    exact continued_at_most_once hkeyed owner taskId hquiet hrun
  · intro agent next hstep
    simp only [taskStores, Option.some.injEq] at hstep
    subst hstep
    refine ⟨fun other hother => Function.update_of_ne hother _ _, ?_, ?_⟩
    · rw [Function.update_self]
      rfl
    · intro key
      rw [Function.update_self]
      rfl
  · intro agent owner call committed error rows next hanswer hstep
    simp only [taskStores, hanswer, finalState, Option.some.injEq] at hstep
    rw [← hstep, connected_error hanswer, Function.update_eq_self]
  · intro agent owner call committed next hstep
    have houtcome := outcome_of_storeStep hstep
    refine ⟨fun other hother => ?_, fun other hother => (houtcome agent).other_owner hother⟩
    simp only [taskStores, Option.some.injEq] at hstep
    rw [← hstep, Function.update_of_ne hother]
  · intro agent owner call committed others hagree
    exact connected_related hagree committed (body_related hagree call)

end

def sampleMessage : AgentMessage where
  messageId := .other "first"
  taskId := none
  contextId := "context"
  parts := .unsupported

/-- A message is reserved before and after its agent is restarted. -/
theorem reservations_idempotent_restarted : ∃ tables : TaskTables,
    (taskStores AgentMessage.contextId).run (fun _ => .empty)
        [.call "intake-agent" "" (.reserve sampleMessage 7 "fresh") true,
          .reopen "intake-agent" true,
          .call "intake-agent" "" (.reserve sampleMessage 8 "other") true] = some tables ∧
      ReservationContract AgentMessage.contextId tables := by
  have hsome : ((taskStores AgentMessage.contextId).run (fun _ => .empty)
      [.call "intake-agent" "" (.reserve sampleMessage 7 "fresh") true,
        .reopen "intake-agent" true,
        .call "intake-agent" "" (.reserve sampleMessage 8 "other") true]).isSome = true := by
    decide
  exact ⟨_, (Option.some_get hsome).symm,
    reservations_idempotent (Option.some_get hsome).symm⟩

end Aidlc
