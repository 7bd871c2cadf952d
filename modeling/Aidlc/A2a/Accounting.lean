import Aidlc.A2a.Delegation
import Aidlc.A2a.TaskLife

/-! # What the rows of the hub account for

A remote task is quiet when it can no longer run: it ended, or its message was
neither reserved nor is it still under way. The invariant of this module says
that a row in a terminal state stands for a quiet task, that a row with a task
identifier names the task its message reserved, and that an execution delegates
only while every earlier invocation it could repeat is quiet.
-/

namespace Aidlc

open Foundation

/-- The packet makes its agent reserve the message of this invocation. -/
def opens (id : InvocationId) : Packet → Bool
  | .message _ message => message.messageId = .invocation id
  | .cancel _ _ => false

namespace World

/-- No task of this invocation runs, and none will start. -/
def quiet (world : World) (id : InvocationId) : Bool :=
  match world.reservation id with
  | some _ => (world.remoteTask id).any fun task => task.state ∈ AgentServer.terminal
  | none => !world.packets.any (opens id)

/-- The message of the invocation reserved this task. -/
def Linked (world : World) (id : InvocationId) (taskId : TaskId) : Prop :=
  (world.reservation id).map Reservation.taskId = some taskId

/-- The message of the invocation is neither reserved nor under way. -/
def Untouched (world : World) (id : InvocationId) : Prop :=
  world.reservation id = none ∧ ∀ packet ∈ world.packets, opens id packet = false

/-- The invocation has a row. -/
def Recorded (world : World) (id : InvocationId) : Prop :=
  ∃ row ∈ world.database.delegatedTasks, row.invocationId = id

end World

/-- The invocation never sends its message again. -/
def Invocation.Mute (invocation : Invocation) : Prop :=
  invocation.mapping.taskId ≠ none ∨ ∃ error, invocation.point = .reporting error

namespace World

/-- Nobody sends the message of the invocation again. -/
def Speechless (world : World) (id : InvocationId) : Prop :=
  (∀ invocation, world.invocations id = some invocation → invocation.Mute) ∧
    ∀ left phase, world.detached id = some (left, phase) → left.mapping.taskId ≠ none

def Settled (world : World) (id : InvocationId) : Prop :=
  world.quiet id = true ∧ world.Speechless id

/-- What a recorded mapping says is true. -/
structure Accounts (world : World) (mapping : DelegatedTask) : Prop where
  linked : ∀ taskId, mapping.taskId = some taskId → world.Linked mapping.invocationId taskId
  speechless : mapping.taskId ≠ none → world.Speechless mapping.invocationId
  settled : mapping.state.settled = true → world.Settled mapping.invocationId

/-- What an invocation or a cancellation holds in memory is true. -/
structure Holds (world : World) (id : InvocationId) (delegation : Delegation) : Prop where
  named : delegation.spec.name = id.agent
  request : delegation.request.messageId = .invocation id
  identified : delegation.mapping.invocationId = id
  runId : delegation.mapping.runId = id.runId
  linked : ∀ taskId, delegation.mapping.taskId = some taskId → world.Linked id taskId
  quiet : delegation.mapping.state.settled = true → world.quiet id = true

end World

/-- The phases of a cancellation that ask about the task know it. -/
def CancelPhase.Knows (phase : CancelPhase) (delegation : Delegation) : Prop :=
  match phase with
  | .canceling | .fetching | .saving | .announcing => delegation.mapping.taskId ≠ none
  | .recovering | .failing _ | .done | .broken => True

/-- The points only reached after the row was saved. -/
def Point.saved : Point → Bool
  | .attempting | .marking _ | .reporting _ => false
  | _ => true

namespace World

/-- What is known where an invocation stands. -/
def Stands (world : World) (id : InvocationId) (invocation : Invocation) : Prop :=
  match invocation.point with
  | .updating task _ => world.reported id task = true
  | .announcing task _ | .examining task =>
    invocation.mapping.taskId ≠ none ∧ invocation.mapping.state = .reported task.state
  | .canceling phase _ => phase.Knows invocation.toDelegation
  | _ => True

/-- A running invocation of an executing run. -/
structure Attends (world : World) (id : InvocationId) (invocation : Invocation) : Prop where
  started : id ∈ world.started
  attached : world.detached id = none
  holds : world.Holds id invocation.toDelegation
  settled : invocation.mapping.state.settled = true → invocation.Mute
  recorded : invocation.point.saved = true ∨ invocation.mapping.state ≠ .pending →
    world.Recorded id
  stands : world.Stands id invocation
  executing : ∃ failed, world.phases id.runId = .executing failed

/-- A cancellation whose invocation has ended. -/
structure Remains (world : World) (id : InvocationId) (left : Delegation) (phase : CancelPhase) :
    Prop where
  started : id ∈ world.started
  ended : world.invocations id = none
  recorded : world.Recorded id
  holds : world.Holds id left
  knows : phase.Knows left

/-- What is known during a phase of a run. -/
def Follow (world : World) (runId : RunId) : RunPhase → Prop
  | .idle => ∀ id ∈ world.started, id.runId = runId → world.invocations id = none
  | .reconciling queue point =>
    (∀ id ∈ world.started, id.runId = runId → world.invocations id = none ∧
      ((∃ mapping ∈ queue, mapping.invocationId = id) ∨ world.Settled id)) ∧
    (∀ mapping ∈ queue, mapping.invocationId ∈ world.started ∧
      mapping.invocationId.runId = runId ∧ mapping.runId = runId ∧ world.Accounts mapping) ∧
    ∀ mapping rest, queue = mapping :: rest → point ≠ .examining → mapping.taskId ≠ none
  | .executing failed => ∀ id ∈ world.started, id.runId = runId →
    match world.invocations id with
    | some _ => (id.agent, id.stage) ∉ failed
    | none => (id.agent, id.stage) ∈ failed ∨ world.Settled id

/-- The hub, the network, and the agents agree. -/
structure Accountable (world : World) : Prop where
  servers : ∀ agent, (world.servers agent).Sound
  replies : ∀ agent task, (agent, task) ∈ world.replies →
    ∃ current, (world.servers agent).store.tasks (hubOwner, task.id) = some current ∧
      (task.state ∈ AgentServer.terminal → current.state = task.state)
  packets : ∀ spec message id, Packet.message spec message ∈ world.packets →
    message.messageId = .invocation id → spec.name = id.agent
  known : ∀ id ∈ world.started, world.database.hasRun id.runId = true
  active : ∀ runId, world.phases runId ≠ .idle → world.database.hasRun runId = true
  unrecorded : ∀ id, ¬ world.Recorded id → world.Untouched id ∧ world.detached id = none
  rows : ∀ row ∈ world.database.delegatedTasks, row.invocationId ∈ world.started ∧
    row.runId = row.invocationId.runId ∧ row.record.runId = row.invocationId.runId ∧
    row.record.invocationId = row.invocationId ∧ world.Accounts row.record
  invocations : ∀ id invocation, world.invocations id = some invocation →
    world.Attends id invocation
  detached : ∀ id left phase, world.detached id = some (left, phase) →
    world.Remains id left phase
  exclusive : ∀ first second one other, world.invocations first = some one →
    world.invocations second = some other → first.runId = second.runId →
    first.agent = second.agent → first.stage = second.stage → first = second
  phases : ∀ runId, world.Follow runId (world.phases runId)

/-! ## What later states keep -/

/-- Reservations, tasks, and answers of the first state are kept by the second,
and only the given invocations may have sent their message in between. -/
structure Follows (world next : World) (opened : InvocationId → Prop) : Prop where
  servers : ∀ agent, AgentServer.Kept (world.servers agent) (next.servers agent)
  reservations : ∀ id row, next.reservation id = some row →
    world.reservation id = some row ∨ ∃ packet ∈ world.packets, opens id packet = true
  packets : ∀ packet ∈ next.packets, ∀ id, opens id packet = true →
    packet ∈ world.packets ∨ opened id
  replies : world.replies ⊆ next.replies

variable {world next : World} {opened : InvocationId → Prop} {id : InvocationId}

/-- Reservations are never taken back. -/
theorem Follows.reservation (hfollows : Follows world next opened) {row : Reservation}
    (hrow : world.reservation id = some row) : next.reservation id = some row :=
  (hfollows.servers id.agent).messages _ _ hrow

theorem Follows.linked (hfollows : Follows world next opened) {taskId : TaskId}
    (hlinked : world.Linked id taskId) : next.Linked id taskId := by
  unfold Linked at hlinked ⊢
  obtain ⟨row, hrow, htaskId⟩ := Option.map_eq_some_iff.mp hlinked
  rw [hfollows.reservation hrow, Option.map_some, htaskId]

theorem Follows.reported (hfollows : Follows world next opened) {task : AgentTask}
    (hreported : world.reported id task = true) : next.reported id task = true := by
  simp only [World.reported, decide_eq_true_eq] at hreported ⊢
  exact ⟨hfollows.replies hreported.1, hfollows.linked hreported.2⟩

/-- A message nobody opens stays untouched. -/
theorem Follows.untouched (hfollows : Follows world next opened) (hopened : ¬ opened id)
    (huntouched : world.Untouched id) : next.Untouched id := by
  obtain ⟨hnone, hpackets⟩ := huntouched
  constructor
  · cases hrow : next.reservation id with
    | none => rfl
    | some row =>
        rcases hfollows.reservations id row hrow with hold | ⟨packet, hmem, hopens⟩
        · rw [hnone] at hold
          cases hold
        · rw [hpackets packet hmem] at hopens
          cases hopens
  · intro packet hmem
    cases hopens : opens id packet with
    | false => rfl
    | true =>
        rcases hfollows.packets packet hmem id hopens with hold | hopen
        · rw [hpackets packet hold] at hopens
          cases hopens
        · exact (hopened hopen).elim

theorem quiet_of_untouched (huntouched : world.Untouched id) : world.quiet id = true := by
  obtain ⟨hnone, hpackets⟩ := huntouched
  simp only [quiet, hnone, Bool.not_eq_true', List.any_eq_false, Bool.not_eq_true]
  exact hpackets

/-- An invocation is quiet when untouched or when its task is terminal. -/
theorem quiet_iff : world.quiet id = true ↔ world.Untouched id ∨
    ∃ row task, world.reservation id = some row ∧
      (world.servers id.agent).store.tasks (hubOwner, row.taskId) = some task ∧
      task.state ∈ AgentServer.terminal := by
  constructor
  · intro hquiet
    cases hrow : world.reservation id with
    | none =>
        left
        simp only [quiet, hrow, Bool.not_eq_true', List.any_eq_false, Bool.not_eq_true] at hquiet
        exact ⟨hrow, hquiet⟩
    | some row =>
        right
        simp only [quiet, remoteTask, hrow, Option.bind_some, Option.any_eq_true_iff_get,
          decide_eq_true_eq] at hquiet
        obtain ⟨hsome, hterminal⟩ := hquiet
        exact ⟨row, _, rfl, (Option.some_get hsome).symm, hterminal⟩
  · rintro (huntouched | ⟨row, task, hrow, htask, hterminal⟩)
    · exact quiet_of_untouched huntouched
    · simp [quiet, remoteTask, hrow, htask, hterminal]

/-- A quiet invocation stays quiet unless its message is opened. -/
theorem Follows.quiet (hfollows : Follows world next opened) (hopened : ¬ opened id)
    (hquiet : world.quiet id = true) : next.quiet id = true := by
  rw [quiet_iff] at hquiet ⊢
  rcases hquiet with huntouched | ⟨row, task, hrow, htask, hterminal⟩
  · exact Or.inl (hfollows.untouched hopened huntouched)
  · obtain ⟨later, hlater, -, -, hstate⟩ := (hfollows.servers id.agent).tasks _ task htask
    exact Or.inr ⟨row, later, hfollows.reservation hrow, hlater, hstate hterminal ▸ hterminal⟩

/-- What an agent said about the end of a task of an invocation. -/
theorem Accountable.quiet_of_reported (haccountable : world.Accountable) {task : AgentTask}
    (hreported : world.reported id task = true) (hterminal : task.state ∈ AgentServer.terminal) :
    world.quiet id = true := by
  simp only [World.reported, decide_eq_true_eq] at hreported
  obtain ⟨hmem, hlinked⟩ := hreported
  obtain ⟨row, hrow, htaskId⟩ := Option.map_eq_some_iff.mp hlinked
  obtain ⟨current, hcurrent, hstate⟩ := haccountable.replies id.agent task hmem
  rw [quiet_iff]
  refine Or.inr ⟨row, current, hrow, ?_, hstate hterminal ▸ hterminal⟩
  rw [htaskId, hcurrent]

/-- A settled invocation stays settled while nothing speaks for it. -/
theorem Follows.settled (hfollows : Follows world next opened) (hopened : ¬ opened id)
    (hspeechless : world.Speechless id → next.Speechless id) (hsettled : world.Settled id) :
    next.Settled id :=
  ⟨hfollows.quiet hopened hsettled.1, hspeechless hsettled.2⟩

/-- A delegation that holds keeps holding. -/
theorem Follows.holds (hfollows : Follows world next opened) {delegation : Delegation}
    (hopened : delegation.mapping.state.settled = true → ¬ opened id)
    (hholds : world.Holds id delegation) : next.Holds id delegation where
  named := hholds.named
  request := hholds.request
  identified := hholds.identified
  runId := hholds.runId
  linked taskId htaskId := hfollows.linked (hholds.linked taskId htaskId)
  quiet hsettled := hfollows.quiet (hopened hsettled) (hholds.quiet hsettled)

/-- An invocation that stands keeps standing. -/
theorem Follows.stands (hfollows : Follows world next opened) {invocation : Invocation}
    (hstands : world.Stands id invocation) : next.Stands id invocation := by
  unfold Stands at hstands ⊢
  cases hpoint : invocation.point with
  | updating task resume =>
      simp only [hpoint] at hstands
      exact hfollows.reported hstands
  | announcing | examining | canceling =>
      simp only [hpoint] at hstands
      exact hstands
  | attempting | marking | reporting | discovering | discovered | sending | streaming | noting
  | fetching | asking | continuing | sleeping | retrying | backoff => trivial

/-! ## Rows -/

/-- What saving a mapping does to the rows. -/
structure Saved (database : Database) (mapping : DelegatedTask) (next : Database) : Prop where
  runs : next.runs = database.runs
  rows : ∀ row ∈ next.delegatedTasks,
    (row ∈ database.delegatedTasks ∧ row.invocationId ≠ mapping.invocationId) ∨
    (row.invocationId = mapping.invocationId ∧ row.record = mapping ∧
      (row.runId = mapping.runId ∨ ∃ old ∈ database.delegatedTasks,
        old.invocationId = mapping.invocationId ∧ row.runId = old.runId))
  kept : ∀ row ∈ database.delegatedTasks, ∃ later ∈ next.delegatedTasks,
    later.invocationId = row.invocationId
  present : ∃ row ∈ next.delegatedTasks, row.invocationId = mapping.invocationId

theorem saved_of_save {database next : Database} {mapping : DelegatedTask}
    (hsave : database.saveDelegatedTask mapping = .ok next) : Saved database mapping next := by
  unfold Database.saveDelegatedTask at hsave
  split at hsave
  · rename_i hexists
    cases hsave
    obtain ⟨old, hold, hid⟩ := List.any_eq_true.mp hexists
    rw [beq_iff_eq] at hid
    refine ⟨rfl, ?_, ?_, ?_⟩
    · intro row hrow
      obtain ⟨previous, hprevious, rfl⟩ := List.mem_map.mp hrow
      by_cases hsame : previous.invocationId = mapping.invocationId
      · rw [if_pos hsame]
        exact Or.inr ⟨hsame, rfl, Or.inr ⟨previous, hprevious, hsame, rfl⟩⟩
      · rw [if_neg hsame]
        exact Or.inl ⟨hprevious, hsame⟩
    · intro row hrow
      refine ⟨_, List.mem_map_of_mem hrow, ?_⟩
      split <;> rfl
    · refine ⟨_, List.mem_map_of_mem hold, ?_⟩
      rw [if_pos hid]
      exact hid
  · split at hsave
    · cases hsave
      refine ⟨rfl, ?_, ?_, ?_⟩
      · intro row hrow
        rcases List.mem_append.mp hrow with hold | hnew
        · by_cases hsame : row.invocationId = mapping.invocationId
          · rename_i hnone hrun
            exact (hnone (List.any_eq_true.mpr ⟨row, hold, beq_iff_eq.mpr hsame⟩)).elim
          · exact Or.inl ⟨hold, hsame⟩
        · rw [List.mem_singleton] at hnew
          subst hnew
          exact Or.inr ⟨rfl, rfl, Or.inl rfl⟩
      · exact fun row hrow => ⟨row, List.mem_append_left _ hrow, rfl⟩
      · exact ⟨_, List.mem_append_right _ (List.mem_singleton_self _), rfl⟩
    · cases hsave

/-- An event leaves runs and rows alone. -/
theorem appendEvent_rows {database next : Database} {runId : RunId} {eventType : String}
    {payload : List (String × Json)}
    (hevent : database.appendEvent runId eventType payload = .ok next) :
    next.runs = database.runs ∧ next.delegatedTasks = database.delegatedTasks := by
  unfold Database.appendEvent at hevent
  split at hevent
  · cases hevent
    exact ⟨rfl, rfl⟩
  · cases hevent

theorem write_of_written {accepted : Bool} {write : Except PyError Database} {next : Database}
    (hwritten : written accepted write = .ok next) : write = .ok next := by
  cases accepted with
  | true => exact hwritten
  | false => cases hwritten

/-! ## Steps of the hub -/

/-- What a step of the hub for one invocation may change: its row, the packets
on their way, and who may still send a message. -/
structure HubStep (world next : World) (id : InvocationId) : Prop where
  servers : next.servers = world.servers
  replies : next.replies = world.replies
  started : next.started = world.started
  known : ∀ runId, world.database.hasRun runId = true → next.database.hasRun runId = true
  rows : next.database.delegatedTasks = world.database.delegatedTasks ∨
    ∃ mapping, mapping.invocationId = id ∧ mapping.runId = id.runId ∧ id ∈ world.started ∧
      Saved world.database mapping next.database ∧ next.Accounts mapping
  packets : ∀ packet ∈ next.packets, packet ∈ world.packets ∨
    (∀ other, opens other packet = false) ∨
    ∃ spec message, packet = .message spec message ∧ message.messageId = .invocation id ∧
      spec.name = id.agent ∧ ¬ world.Speechless id ∧ world.Recorded id
  speechless : ∀ other, world.Speechless other → next.Speechless other
  detached : ∀ other, next.detached other ≠ none → next.Recorded other

/-- The invocation whose step this is sent its message. -/
def Opened (world next : World) (id other : InvocationId) : Prop :=
  other = id ∧ ¬ world.Speechless id ∧ world.Recorded id ∧
    ∃ packet ∈ next.packets, packet ∉ world.packets ∧ opens id packet = true

/-- A packet opens the invocation it names. -/
theorem opens_message {spec : AgentSpec} {message : AgentMessage} {other : InvocationId}
    (hmessage : message.messageId = .invocation id)
    (hopens : opens other (.message spec message) = true) : other = id := by
  simp only [opens, hmessage, decide_eq_true_eq, MessageId.invocation.injEq] at hopens
  exact hopens.symm

section Hub

variable {mover : InvocationId}

/-- A step of the hub reaches the agents through its packets alone. -/
theorem HubStep.follows (hhub : HubStep world next mover) :
    Follows world next (Opened world next mover) where
  servers agent := by
    rw [hhub.servers]
    exact .refl _
  reservations other row hrow := by
    simp only [reservation, hhub.servers] at hrow
    exact Or.inl hrow
  packets packet hmem other hopens := by
    by_cases hold : packet ∈ world.packets
    · exact Or.inl hold
    · rcases hhub.packets packet hmem with hin | hsilent | ⟨spec, message, rfl, hmessage, -, hrest⟩
      · exact Or.inl hin
      · rw [hsilent other] at hopens
        cases hopens
      · cases opens_message hmessage hopens
        exact Or.inr ⟨rfl, hrest.1, hrest.2, _, hmem, hold, hopens⟩
  replies := by rw [hhub.replies]; exact List.Subset.refl _

theorem HubStep.recorded (hhub : HubStep world next mover) (hrecorded : world.Recorded id) :
    next.Recorded id := by
  obtain ⟨row, hrow, hid⟩ := hrecorded
  rcases hhub.rows with hsame | ⟨mapping, -, -, -, hsaved, -⟩
  · exact ⟨row, hsame ▸ hrow, hid⟩
  · obtain ⟨later, hlater, hlaterId⟩ := hsaved.kept row hrow
    exact ⟨later, hlater, hlaterId.trans hid⟩

theorem HubStep.settled (hhub : HubStep world next mover) (hsettled : world.Settled id) :
    next.Settled id := by
  refine hhub.follows.settled ?_ (hhub.speechless id) hsettled
  rintro ⟨rfl, hspeaks, -, -⟩
  exact hspeaks hsettled.2

/-- A step of the hub keeps the mappings accounted for. -/
theorem HubStep.accounts (hhub : HubStep world next mover) {mapping : DelegatedTask}
    (haccounts : world.Accounts mapping) : next.Accounts mapping where
  linked taskId htaskId := hhub.follows.linked (haccounts.linked taskId htaskId)
  speechless htaskId := hhub.speechless _ (haccounts.speechless htaskId)
  settled hsettled := hhub.settled (haccounts.settled hsettled)

/-- The phase of a run is kept when the same of its invocations run. -/
theorem HubStep.follow (hhub : HubStep world next mover) {runId : RunId} {phase : RunPhase}
    (hsame : ∀ other ∈ world.started, other.runId = runId →
      (next.invocations other).isSome = (world.invocations other).isSome)
    (hfollow : world.Follow runId phase) : next.Follow runId phase := by
  have hnone {other : InvocationId} (hmem : other ∈ world.started) (hrun : other.runId = runId)
      (hidle : world.invocations other = none) : next.invocations other = none := by
    rw [← Option.not_isSome_iff_eq_none, hsame other hmem hrun, hidle]
    nofun
  cases phase with
  | idle =>
      intro other hmem hrun
      rw [hhub.started] at hmem
      exact hnone hmem hrun (hfollow other hmem hrun)
  | reconciling queue point =>
      obtain ⟨hall, hqueue, hhead⟩ := hfollow
      refine ⟨?_, ?_, hhead⟩
      · intro other hmem hrun
        rw [hhub.started] at hmem
        obtain ⟨hidle, hcovered⟩ := hall other hmem hrun
        exact ⟨hnone hmem hrun hidle, hcovered.imp_right hhub.settled⟩
      · intro mapping hmapping
        rw [hhub.started]
        obtain ⟨hstarted, hrun, hmappingRun, haccounts⟩ := hqueue mapping hmapping
        exact ⟨hstarted, hrun, hmappingRun, hhub.accounts haccounts⟩
  | executing failed =>
      intro other hmem hrun
      rw [hhub.started] at hmem
      have hother := hfollow other hmem hrun
      cases hinvocation : world.invocations other with
      | none =>
          simp only [hinvocation] at hother
          rw [hnone hmem hrun hinvocation]
          exact hother.imp_right hhub.settled
      | some invocation =>
          simp only [hinvocation] at hother
          have hsome : (next.invocations other).isSome = true := by
            rw [hsame other hmem hrun, hinvocation]
            rfl
          obtain ⟨later, hlater⟩ := Option.isSome_iff_exists.mp hsome
          rw [hlater]
          exact hother

/-- The parts of the invariant that look at one invocation are left to check. -/
theorem Accountable.hub (haccountable : world.Accountable) (hhub : HubStep world next mover)
    (hrunning : ∀ id, (next.invocations id).isSome = true → (world.invocations id).isSome = true)
    (hactive : ∀ runId, next.phases runId ≠ .idle →
      world.phases runId ≠ .idle ∨ next.database.hasRun runId = true)
    (hinvocations : ∀ id invocation, next.invocations id = some invocation →
      next.Attends id invocation)
    (hdetached : ∀ id left phase, next.detached id = some (left, phase) →
      next.Remains id left phase)
    (hphases : ∀ runId, next.Follow runId (next.phases runId)) : next.Accountable where
  servers agent := by
    rw [hhub.servers]
    exact haccountable.servers agent
  replies agent task hmem := by
    rw [hhub.replies] at hmem
    rw [hhub.servers]
    exact haccountable.replies agent task hmem
  packets spec message id hmem hmessage := by
    rcases hhub.packets _ hmem with hold | hsilent | ⟨named, sent, heq, hsent, hname, -⟩
    · exact haccountable.packets spec message id hold hmessage
    · have hopens := hsilent id
      simp [opens, hmessage] at hopens
    · cases heq
      rw [hmessage, MessageId.invocation.injEq] at hsent
      exact hsent ▸ hname
  known id hmem := by
    rw [hhub.started] at hmem
    exact hhub.known _ (haccountable.known id hmem)
  active runId hphase := by
    rcases hactive runId hphase with hold | hrun
    · exact hhub.known _ (haccountable.active runId hold)
    · exact hrun
  unrecorded id hunrecorded := by
    have hbefore : ¬ world.Recorded id := fun hrecorded => hunrecorded (hhub.recorded hrecorded)
    refine ⟨hhub.follows.untouched ?_ (haccountable.unrecorded id hbefore).1, ?_⟩
    · rintro ⟨rfl, -, hrecorded, -⟩
      exact hbefore hrecorded
    · by_contra hsome
      exact hunrecorded (hhub.detached id hsome)
  rows row hrow := by
    rw [hhub.started]
    rcases hhub.rows with hsame | ⟨mapping, hid, hrun, hstarted, hsaved, haccounts⟩
    · rw [hsame] at hrow
      obtain ⟨hmem, hrowRun, hrecordRun, hrecord, hold⟩ := haccountable.rows row hrow
      exact ⟨hmem, hrowRun, hrecordRun, hrecord, hhub.accounts hold⟩
    · rcases hsaved.rows row hrow with ⟨hold, -⟩ | ⟨hrowId, hrecord, hrowRun⟩
      · obtain ⟨hmem, hrowRun, hrecordRun, hrecord, hkept⟩ := haccountable.rows row hold
        exact ⟨hmem, hrowRun, hrecordRun, hrecord, hhub.accounts hkept⟩
      · rw [hrecord, hrowId, hid]
        refine ⟨hstarted, ?_, hrun, rfl, haccounts⟩
        rcases hrowRun with hnew | ⟨old, hold, holdId, holdRun⟩
        · rw [hnew, hrun]
        · rw [holdRun, (haccountable.rows old hold).2.1, holdId, hid]
  invocations := hinvocations
  detached := hdetached
  exclusive first second one other hfirst hsecond := by
    obtain ⟨before, hone⟩ := Option.isSome_iff_exists.mp (hrunning first (by rw [hfirst]; rfl))
    obtain ⟨earlier, hother⟩ := Option.isSome_iff_exists.mp (hrunning second (by rw [hsecond]; rfl))
    exact haccountable.exclusive first second before earlier hone hother
  phases := hphases

end Hub

end World

end Aidlc
