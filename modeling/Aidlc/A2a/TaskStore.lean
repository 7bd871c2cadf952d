import Mathlib.Logic.Function.Basic
import Aidlc.Domain.Models

/-! # Durable tasks and message reservations

The task store of one agent: its tasks, keyed by owner and identifier, and the
reservation each message identifier holds. Both tables are partial functions of
their primary key.
-/

namespace Aidlc

open Foundation

/-- The parts of a message: one `application/json` data part, or anything else.
Data that is not a valid agent context is kept as `none`. -/
inductive MessageParts where
  | unsupported
  | data (payload : Option (AgentContext Json))
  deriving DecidableEq

/-- The identifier of a message: of an invocation, of the answer to a request for
human input, or any other text. -/
inductive MessageId where
  | invocation (id : InvocationId)
  | human (id : InvocationId) (actionId : String)
  | other (text : String)
  deriving DecidableEq

/-- A message as its agent receives it; what the agent never looks at is kept
serialized in `rest`. -/
structure AgentMessage where
  messageId : MessageId
  taskId : Option TaskId
  contextId : String
  parts : MessageParts
  rest : String := ""
  deriving DecidableEq

/-- `AgentContext.model_validate` of the data of a message. -/
def AgentMessage.payload (message : AgentMessage) : Option (AgentContext Json) :=
  match message.parts with
  | .unsupported => none
  | .data payload => payload

/-- A task as its agent stores it. The detail is the text of the status message;
the only artifact of a task is the result published under its identifier. -/
structure AgentTask where
  id : TaskId
  contextId : String
  state : TaskState
  detail : String
  history : List AgentMessage
  artifact : Option AgentResult
  deriving DecidableEq

structure Reservation where
  fingerprint : String
  taskId : TaskId
  deriving DecidableEq, Repr

structure TaskStore where
  tasks : String × TaskId → Option AgentTask
  messages : String × MessageId → Option Reservation
  nextTaskId : TaskId

namespace TaskStore

def empty : TaskStore := ⟨fun _ => none, fun _ => none, 0⟩

def save (store : TaskStore) (owner : String) (task : AgentTask) : TaskStore :=
  { store with tasks := Function.update store.tasks (owner, task.id) (some task) }

def recordMessage (store : TaskStore) (owner : String) (messageId : MessageId)
    (fingerprint : String) (taskId : TaskId) : TaskStore :=
  { store with
    messages := Function.update store.messages (owner, messageId) (some ⟨fingerprint, taskId⟩) }

/-- The task a continuation resumes. -/
def resumed (task : AgentTask) (message : AgentMessage) : AgentTask :=
  { task with history := task.history ++ [message], state := .submitted }

/-- The task of a new message. -/
def opened (taskId : TaskId) (message : AgentMessage) (freshContext : String) : AgentTask where
  id := taskId
  contextId := if message.contextId = "" then freshContext else message.contextId
  state := .submitted
  detail := ""
  history := [message]
  artifact := none

/-- The task reserved for a message, and whether the reservation is new. -/
def reserve (fingerprint : AgentMessage → String) (store : TaskStore) (owner : String)
    (message : AgentMessage) (freshContext : String) :
    Except PyError ((AgentTask × Bool) × TaskStore) :=
  match store.messages (owner, message.messageId) with
  | some row =>
    if row.fingerprint ≠ fingerprint message then
      .error ⟨.invalidParamsError, "messageId reused with different input"⟩
    else match store.tasks (owner, row.taskId) with
      | none => .error ⟨.invalidParamsError, "The reserved task was deleted"⟩
      | some task => .ok ((task, false), store)
  | none =>
    match message.taskId with
    | some taskId =>
      match store.tasks (owner, taskId) with
      | none => .error ⟨.invalidParamsError, "Unknown continuation task"⟩
      | some task =>
        if task.contextId ≠ message.contextId then
          .error ⟨.invalidParamsError, "Continuation context mismatch"⟩
        else if task.state ≠ .inputRequired then
          .error ⟨.invalidParamsError, "Task is not waiting for input"⟩
        else
          .ok ((resumed task message, true),
            (store.save owner (resumed task message)).recordMessage owner message.messageId
              (fingerprint message) task.id)
    | none =>
      let task := opened store.nextTaskId message freshContext
      .ok ((task, true),
        { (store.save owner task).recordMessage owner message.messageId
            (fingerprint message) task.id with
          nextTaskId := store.nextTaskId + 1 })

/-- What a process restart does to a task: running work is lost. -/
def interrupted (task : AgentTask) : AgentTask :=
  if task.state = .submitted ∨ task.state = .working then
    { task with state := .failed, detail := "Agent process restarted" }
  else task

/-- Opening the store again after a restart of the agent. -/
def recover (store : TaskStore) : TaskStore :=
  { store with tasks := fun key => (store.tasks key).map interrupted }

/-- What a successful reservation did, where a new task has the identifier `uuid` and
`counter` is the next one after it. -/
inductive Reserved (fingerprint : AgentMessage → String) (store : TaskStore) (owner : String)
    (message : AgentMessage) (uuid counter : TaskId) (freshContext : String) :
    AgentTask → Bool → TaskStore → Prop
  | repeated (row : Reservation) (task : AgentTask)
      (hrow : store.messages (owner, message.messageId) = some row)
      (hsame : row.fingerprint = fingerprint message)
      (htask : store.tasks (owner, row.taskId) = some task) :
      Reserved fingerprint store owner message uuid counter freshContext task false store
  | continued (taskId : TaskId) (task : AgentTask)
      (hfresh : store.messages (owner, message.messageId) = none)
      (hmessage : message.taskId = some taskId)
      (htask : store.tasks (owner, taskId) = some task)
      (hcontext : task.contextId = message.contextId)
      (hwaiting : task.state = .inputRequired) :
      Reserved fingerprint store owner message uuid counter freshContext (resumed task message)
        true ((store.save owner (resumed task message)).recordMessage owner message.messageId
          (fingerprint message) task.id)
  | created (hfresh : store.messages (owner, message.messageId) = none)
      (hmessage : message.taskId = none) :
      Reserved fingerprint store owner message uuid counter freshContext
        (opened uuid message freshContext) true
        { (store.save owner (opened uuid message freshContext)).recordMessage owner
            message.messageId (fingerprint message) uuid with nextTaskId := counter }

/-- Every reservation that succeeds has the rows it describes. -/
theorem reserved_of_reserve {fingerprint : AgentMessage → String} {store next : TaskStore}
    {owner freshContext : String} {message : AgentMessage} {task : AgentTask} {created : Bool}
    (hreserve : store.reserve fingerprint owner message freshContext =
      .ok ((task, created), next)) :
    Reserved fingerprint store owner message store.nextTaskId (store.nextTaskId + 1) freshContext
      task created next := by
  cases hrow : store.messages (owner, message.messageId) with
  | some row =>
      simp only [reserve, hrow] at hreserve
      by_cases hsame : row.fingerprint = fingerprint message
      · cases htask : store.tasks (owner, row.taskId) with
        | none => simp [hsame, htask] at hreserve
        | some stored =>
            simp only [hsame, ne_eq, not_true_eq_false, if_false, htask, Except.ok.injEq,
              Prod.mk.injEq] at hreserve
            obtain ⟨⟨rfl, rfl⟩, rfl⟩ := hreserve
            exact .repeated row stored hrow hsame htask
      · simp [hsame] at hreserve
  | none =>
      cases hmessage : message.taskId with
      | some taskId =>
          cases htask : store.tasks (owner, taskId) with
          | none => simp [reserve, hrow, hmessage, htask] at hreserve
          | some stored =>
              simp only [reserve, hrow, hmessage, htask] at hreserve
              by_cases hcontext : stored.contextId = message.contextId
              · by_cases hwaiting : stored.state = .inputRequired
                · simp only [hcontext, hwaiting, ne_eq, not_true_eq_false, if_false,
                    Except.ok.injEq, Prod.mk.injEq] at hreserve
                  obtain ⟨⟨rfl, rfl⟩, rfl⟩ := hreserve
                  exact .continued taskId stored hrow hmessage htask hcontext hwaiting
                · simp [hcontext, hwaiting] at hreserve
              · simp [hcontext] at hreserve
      | none =>
          simp only [reserve, hrow, hmessage, Except.ok.injEq, Prod.mk.injEq] at hreserve
          obtain ⟨⟨rfl, rfl⟩, rfl⟩ := hreserve
          exact .created hrow hmessage

@[simp] theorem save_tasks_self (store : TaskStore) (owner : String) (task : AgentTask) :
    (store.save owner task).tasks (owner, task.id) = some task :=
  Function.update_self _ _ _

theorem save_tasks_of_ne {store : TaskStore} {owner : String} {task : AgentTask}
    {key : String × TaskId} (hne : key ≠ (owner, task.id)) :
    (store.save owner task).tasks key = store.tasks key :=
  Function.update_of_ne hne _ _

@[simp] theorem save_nextTaskId (store : TaskStore) (owner : String) (task : AgentTask) :
    (store.save owner task).nextTaskId = store.nextTaskId := rfl

@[simp] theorem recordMessage_tasks (store : TaskStore) (owner : String)
    (messageId : MessageId) (fingerprint : String) (taskId : TaskId) :
    (store.recordMessage owner messageId fingerprint taskId).tasks = store.tasks := rfl

@[simp] theorem recordMessage_nextTaskId (store : TaskStore) (owner : String)
    (messageId : MessageId) (fingerprint : String) (taskId : TaskId) :
    (store.recordMessage owner messageId fingerprint taskId).nextTaskId =
      store.nextTaskId := rfl

/-- A stored task is either the one saved or one that was there before. -/
theorem save_tasks_cases {store : TaskStore} {owner : String} {task found : AgentTask}
    {key : String × TaskId} (hfound : (store.save owner task).tasks key = some found) :
    (key = (owner, task.id) ∧ found = task) ∨
      (key ≠ (owner, task.id) ∧ store.tasks key = some found) := by
  by_cases hkey : key = (owner, task.id)
  · subst hkey
    rw [save_tasks_self, Option.some.injEq] at hfound
    exact Or.inl ⟨rfl, hfound.symm⟩
  · rw [save_tasks_of_ne hkey] at hfound
    exact Or.inr ⟨hkey, hfound⟩

/-- A recovered task is a stored one, interrupted. -/
theorem recover_tasks {store : TaskStore} {key : String × TaskId} {task : AgentTask}
    (htask : store.recover.tasks key = some task) :
    ∃ stored, store.tasks key = some stored ∧ task = interrupted stored := by
  obtain ⟨stored, hstored, heq⟩ := Option.map_eq_some_iff.mp htask
  exact ⟨stored, hstored, heq.symm⟩

@[simp] theorem interrupted_id (task : AgentTask) : (interrupted task).id = task.id := by
  unfold interrupted
  split <;> rfl

/-- Interrupting a task that does not end up failed has changed nothing. -/
theorem interrupted_of_state {task : AgentTask} (hstate : (interrupted task).state ≠ .failed) :
    interrupted task = task := by
  unfold interrupted at hstate ⊢
  split
  · simp_all
  · rfl

/-- A terminal task is not interrupted. -/
theorem interrupted_of_active {task : AgentTask}
    (hterminal : task.state ∈ [TaskState.completed, .canceled, .failed, .rejected]) :
    interrupted task = task := by
  unfold interrupted
  rw [if_neg]
  rintro (hstate | hstate) <;> simp [hstate] at hterminal

end TaskStore

end Aidlc
