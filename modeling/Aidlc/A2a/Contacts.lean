import Aidlc.A2a.Reconciliation

/-! # Invocations that never contacted their agent

What an invocation touches is its own: its row, the messages of its identifier,
and what it leaves behind. Until it sends its message its row is pending, and
only the general handler of `invoke` gives it a final state.
-/

namespace Aidlc

open Foundation

open World (Saved saved_of_save write_of_written beginCancel_cases)

/-- A mapping of this invocation, with the run of its identifier. -/
def DelegatedTask.Owned (mapping : DelegatedTask) (id : InvocationId) : Prop :=
  mapping.invocationId = id ∧ mapping.runId = id.runId

/-- The task a point looks at. -/
def Point.task : Point → Option AgentTask
  | .noting task | .updating task _ | .announcing task _ | .examining task | .asking task _ =>
    some task
  | _ => none

namespace Invocation

variable {invocation carried current : Invocation} {database : Database} {event : ClientEvent}
  {settings : ClientSettings} {id : InvocationId}

/-- The same invocation at a later point; a message that was sent stays sent. -/
structure Continues (invocation current : Invocation) : Prop where
  spec : current.spec = invocation.spec
  request : current.request = invocation.request
  context : current.context = invocation.context
  invocationId : current.mapping.invocationId = invocation.mapping.invocationId
  runId : current.mapping.runId = invocation.mapping.runId
  sent : invocation.sent = true → current.sent = true

theorem Continues.refl (invocation : Invocation) : Continues invocation invocation :=
  ⟨rfl, rfl, rfl, rfl, rfl, id⟩

/-- The packets an invocation may post with a statement. -/
inductive Posts (invocation : Invocation) (event : ClientEvent) : Packet → Prop where
  | request : Posts invocation event (.message invocation.spec invocation.request)
  | cancel (taskId : TaskId) : Posts invocation event (.cancel invocation.spec taskId)
  | continuation (task : AgentTask) (draft : AgentResult) (response : Json) (actionId : String)
      (hpoint : invocation.point = .asking task draft) (hevent : event = .answered response)
      (haction : (response.get? "action_id").bind Json.str? = some actionId) :
      Posts invocation event
        (.message invocation.spec (invocation.continuation task response actionId))

/-- The task an invocation looks at is one it was told of. -/
def Hears (invocation : Invocation) (event : ClientEvent) (point : Point) : Prop :=
  ∀ task, point.task = some task →
    invocation.point.task = some task ∨ event = .receive task ∨ event = .artifact task

/-- A point without a task has heard nothing new. -/
theorem hears_none {point : Point} (hnone : point.task = none) : Hears invocation event point := by
  intro task htask
  rw [hnone] at htask
  cases htask

theorem hears_same {point : Point} (hsame : point.task = invocation.point.task) :
    Hears invocation event point :=
  fun _ htask => Or.inl (hsame ▸ htask)

/-- What a statement of an invocation does to the rest of the hub. -/
structure Steady (invocation : Invocation) (database : Database) (event : ClientEvent)
    (turn : Turn) : Prop where
  rows : turn.database.delegatedTasks = database.delegatedTasks ∨
    ∃ mapping, mapping.invocationId = invocation.mapping.invocationId ∧
      mapping.runId = invocation.mapping.runId ∧ Saved database mapping turn.database
  posted : ∀ packet ∈ turn.posted, Posts invocation event packet
  running : ∀ current, turn.progress = .running current →
    Continues invocation current ∧ Hears invocation event current.point
  left : ∀ ending left phase, turn.progress = .raised ending (some (left, phase)) →
    left = invocation.toDelegation

/-- Going on is steady when the rows stay or only the own row is saved. -/
theorem Steady.running_of {database next : Database} {posted : List Packet}
    (hcurrent : Continues invocation current) (hhears : Hears invocation event current.point)
    (hrows : next.delegatedTasks = database.delegatedTasks ∨
      ∃ mapping, mapping.invocationId = invocation.mapping.invocationId ∧
        mapping.runId = invocation.mapping.runId ∧ Saved database mapping next)
    (hposted : ∀ packet ∈ posted, Posts invocation event packet) :
    Steady invocation database event ⟨next, posted, .running current⟩ where
  rows := hrows
  posted := hposted
  running other hother := by
    cases hother
    exact ⟨hcurrent, hhears⟩
  left _ _ _ hraised := by cases hraised

/-- The invocation only goes to another point. -/
theorem Steady.goto (hcarried : Continues invocation carried) {next : Database}
    (hrows : next.delegatedTasks = database.delegatedTasks) {point : Point}
    (hhears : Hears invocation event point) :
    Steady invocation database event ⟨next, [], .running (carried.goto point)⟩ :=
  .running_of ⟨hcarried.spec, hcarried.request, hcarried.context, hcarried.invocationId,
    hcarried.runId, hcarried.sent⟩ hhears (Or.inl hrows) (List.forall_mem_nil _)

/-- Starting a cancel is steady. -/
theorem Steady.startCancel (hcarried : Continues invocation carried) (ending : Ending) :
    Steady invocation database event (carried.startCancel database ending) := by
  unfold Invocation.startCancel
  rcases beginCancel_cases carried.toDelegation with ⟨hbegin, -⟩ | ⟨taskId, hbegin, -⟩ |
    hbegin
  all_goals
    rw [hbegin]
    refine .running_of ⟨hcarried.spec, hcarried.request, hcarried.context, hcarried.invocationId,
      hcarried.runId, fun hsent => ?_⟩ (hears_none rfl) (Or.inl rfl) ?_
    · simp [hcarried.sent hsent]
  · intro packet hmem
    rw [List.mem_singleton] at hmem
    rw [hmem, hcarried.spec, hcarried.request]
    exact .request
  · intro packet hmem
    rw [List.mem_singleton] at hmem
    rw [hmem, hcarried.spec]
    exact .cancel taskId
  · exact List.forall_mem_nil _

/-- Escalating an error is steady. -/
theorem Steady.escalate (hcarried : Continues invocation carried) (error : PyError) :
    Steady invocation database event (carried.escalate database error) := by
  unfold Invocation.escalate
  split
  · exact .startCancel hcarried _
  · split
    · exact .startCancel hcarried _
    · exact .goto hcarried rfl (hears_none rfl)

/-- A failed attempt is retried or escalated. -/
theorem Steady.fail (hcarried : Continues invocation carried) (error : PyError)
    (transient : Bool) :
    Steady invocation database event (carried.fail settings database error transient) := by
  unfold Invocation.fail
  split
  · exact .escalate hcarried error
  · exact .goto hcarried rfl (hears_none rfl)

theorem Steady.raised {next : Database} (hrows : next.delegatedTasks = database.delegatedTasks)
    (ending : Ending) : Steady invocation database event ⟨next, [], .raised ending none⟩ where
  rows := Or.inl hrows
  posted _ hmem := by cases hmem
  running _ hrunning := by cases hrunning
  left _ _ _ hraised := by cases hraised

/-- An invocation that is interrupted leaves its cancellation with what it held. -/
theorem Steady.abandoned (ending : Ending) (phase : CancelPhase) :
    Steady invocation database event
      ⟨database, [], .raised ending (some (invocation.toDelegation, phase))⟩ where
  rows := Or.inl rfl
  posted _ hmem := by cases hmem
  running _ hrunning := by cases hrunning
  left _ _ _ hraised := by
    cases hraised
    rfl

theorem Steady.returned (result : AgentResult) :
    Steady invocation database event ⟨database, [], .returned result⟩ where
  rows := Or.inl rfl
  posted _ hmem := by cases hmem
  running _ hrunning := by cases hrunning
  left _ _ _ hraised := by cases hraised

/-- Examining a reply is steady. -/
theorem Steady.examine {task : AgentTask} (hpoint : invocation.point = .examining task) :
    Steady invocation database event (invocation.examine settings database task) := by
  unfold Invocation.examine
  split
  · split
    · exact .fail (.refl _) _ _
    · split
      · exact .fail (.refl _) _ _
      · exact .goto (.refl _) rfl (hears_same (by rw [hpoint]; rfl))
  · split
    · split
      · exact .fail (.refl _) _ _
      · exact .returned _
    · exact .goto (.refl _) rfl (hears_none rfl)

/-- A point reached with a row that was just saved. -/
theorem Steady.saved (hcarried : Continues invocation carried) {next : Database}
    (hsaved : Saved database carried.mapping next) {point : Point}
    (hhears : Hears invocation event point) :
    Steady invocation database event ⟨next, [], .running (carried.goto point)⟩ :=
  .running_of ⟨hcarried.spec, hcarried.request, hcarried.context, hcarried.invocationId,
    hcarried.runId, hcarried.sent⟩ hhears
    (Or.inr ⟨_, hcarried.invocationId, hcarried.runId, hsaved⟩) (List.forall_mem_nil _)

/-- Where an invocation goes on after its row was updated. -/
theorem hears_resume {task : AgentTask} (htask : invocation.point.task = some task)
    (resume : Resume) : Hears invocation event (carried.resumeAt task resume).point := by
  cases resume with
  | stream | continuation => exact hears_none rfl
  | poll => exact hears_same htask.symm

theorem Steady.update {task : AgentTask} {resume : Resume}
    (hpoint : invocation.point = .updating task resume) (accepted : Bool) :
    Steady invocation database event
      (invocation.update settings database task resume accepted) := by
  have hupdated : Continues invocation (invocation.withMapping
      { invocation.mapping with taskId := some task.id, state := .reported task.state }) :=
    ⟨rfl, rfl, rfl, rfl, rfl, id⟩
  have htask : invocation.point.task = some task := by
    rw [hpoint]
    rfl
  unfold Invocation.update
  dsimp only
  split
  · exact .fail (.refl _) _ _
  · split
    · exact .fail (.refl _) _ _
    · split
      · exact .fail hupdated _ _
      · rename_i next hwritten
        have hsaved := saved_of_save (write_of_written hwritten)
        split
        · have hresume : Hears invocation event (invocation.resumeAt task resume).point :=
            hears_resume htask resume
          cases resume with
          | stream | poll | continuation => exact .saved hupdated hsaved hresume
        · exact .saved hupdated hsaved (hears_same htask.symm)

theorem emit_kept {next : Database} {eventType : String} {payload : List (String × Json)}
    {accepted : Bool} (hemit : invocation.emit database accepted eventType payload = .ok next) :
    next.delegatedTasks = database.delegatedTasks :=
  (World.appendEvent_rows (write_of_written hemit)).2

theorem hears_opening (client : Bool) :
    Hears invocation event (if client then Point.sending else .discovering) := by
  cases client with
  | true | false => exact hears_none rfl

/-- One step of the client's own code is steady. -/
theorem Steady.advance {accepted : Bool} {turn : Turn}
    (hadvance : invocation.advance settings database accepted = some turn) :
    Steady invocation database event turn := by
  have hsame := Continues.refl invocation
  unfold Invocation.advance at hadvance
  -- One case for each point at which the client's own code goes on.
  cases hpoint : invocation.point with
  | attempting =>
      have hstarted : Continues invocation (invocation.withMapping
          { invocation.mapping with attempts := invocation.mapping.attempts + 1 }) :=
        ⟨rfl, rfl, rfl, rfl, rfl, id⟩
      simp only [hpoint] at hadvance
      split at hadvance
      · cases hadvance
        exact .escalate hstarted _
      · rename_i next hwritten
        cases hadvance
        exact .saved hstarted (saved_of_save (write_of_written hwritten)) (hears_opening _)
  | discovered | noting | retrying =>
      simp only [hpoint] at hadvance
      split at hadvance
      · cases hadvance
        first
        | exact .fail hsame _ _
        | exact .escalate hsame _
      · rename_i next hemit
        cases hadvance
        exact .goto hsame (emit_kept hemit) (hears_none rfl)
  | announcing task resume =>
      have htask : invocation.point.task = some task := by
        rw [hpoint]
        rfl
      simp only [hpoint] at hadvance
      split at hadvance
      · cases hadvance
        exact .fail hsame _ _
      · rename_i next hemit
        cases hadvance
        have hrows := emit_kept hemit
        have hresume : Hears invocation event (invocation.resumeAt task resume).point :=
            hears_resume htask resume
        cases resume with
        | stream | poll | continuation => exact .goto hsame hrows hresume
  | sending =>
      simp only [hpoint] at hadvance
      split at hadvance
      · cases hadvance
        refine .running_of ⟨rfl, rfl, rfl, rfl, rfl, fun _ => rfl⟩ (hears_none rfl) (Or.inl rfl) ?_
        intro packet hmem
        rw [List.mem_singleton.mp hmem]
        exact .request
      · cases hadvance
        exact .goto hsame rfl (hears_none rfl)
  | updating task resume =>
      simp only [hpoint] at hadvance
      cases hadvance
      exact .update hpoint accepted
  | examining task =>
      simp only [hpoint] at hadvance
      cases hadvance
      exact .examine hpoint
  | canceling phase ending =>
      simp only [hpoint] at hadvance
      cases phase with
      | done =>
          cases ending with
          | interrupted =>
              cases hadvance
              exact .raised rfl _
          | failed error =>
              cases hadvance
              exact .goto hsame rfl (hears_none rfl)
      | broken =>
          cases hadvance
          exact .raised rfl _
      | recovering | canceling | fetching | saving | announcing | failing => cases hadvance
  | marking error =>
      simp only [hpoint] at hadvance
      split at hadvance
      · split at hadvance
        · cases hadvance
          exact .raised rfl _
        · rename_i next hwritten
          cases hadvance
          have hmarked : Continues invocation (invocation.withMapping
              { invocation.mapping with state := .reported .failed }) :=
            ⟨rfl, rfl, rfl, rfl, rfl, id⟩
          exact .saved hmarked (saved_of_save (write_of_written hwritten)) (hears_none rfl)
      · cases hadvance
        exact .goto hsame rfl (hears_none rfl)
  | reporting error =>
      simp only [hpoint] at hadvance
      split at hadvance
      · cases hadvance
        exact .raised rfl _
      · rename_i next hemit
        cases hadvance
        exact .raised (emit_kept hemit) _
  -- Here the client waits for an answer.
  | discovering | streaming | fetching | asking | continuing | sleeping | backoff =>
      simp only [hpoint] at hadvance
      cases hadvance

/-- A statement of a cancellation changes nothing but its own row. -/
structure CancelSteady (left : Delegation) (database : Database) (turn : CancelTurn) : Prop where
  rows : turn.database.delegatedTasks = database.delegatedTasks ∨
    (turn.delegation = left ∧ Saved database left.mapping turn.database)
  posted : ∀ packet ∈ turn.posted, ∃ taskId, packet = .cancel left.spec taskId
  spec : turn.delegation.spec = left.spec
  request : turn.delegation.request = left.request
  invocationId : turn.delegation.mapping.invocationId = left.mapping.invocationId
  runId : turn.delegation.mapping.runId = left.mapping.runId

theorem CancelSteady.same {left : Delegation} {next : Database} {phase : CancelPhase}
    (hrows : next.delegatedTasks = database.delegatedTasks) :
    CancelSteady left database ⟨next, [], left, phase⟩ :=
  ⟨Or.inl hrows, List.forall_mem_nil _, rfl, rfl, rfl, rfl⟩

/-- Every step of a detached cancel is steady. -/
theorem cancelStep_steady {left : Delegation} {phase : CancelPhase} {turn : CancelTurn}
    (hstep : cancelStep database left phase event = some turn) :
    CancelSteady left database turn := by
  unfold cancelStep at hstep
  dsimp only at hstep
  split at hstep
  · cases hstep
    exact ⟨Or.inl rfl, List.forall_mem_nil _, rfl, rfl, rfl, rfl⟩
  · split at hstep
    · cases hstep
      exact .same rfl
    · rename_i taskId _
      cases hstep
      refine ⟨Or.inl rfl, ?_, rfl, rfl, rfl, rfl⟩
      intro packet hmem
      exact ⟨taskId, List.mem_singleton.mp hmem⟩
  · cases hstep
    exact .same rfl
  · cases hstep
    exact ⟨Or.inl rfl, List.forall_mem_nil _, rfl, rfl, rfl, rfl⟩
  · split at hstep
    · rename_i next hwritten
      cases hstep
      exact ⟨Or.inr ⟨rfl, saved_of_save (write_of_written hwritten)⟩, List.forall_mem_nil _,
        rfl, rfl, rfl, rfl⟩
    · cases hstep
      exact .same rfl
  · split at hstep
    · rename_i next hwritten
      cases hstep
      have hkept := World.appendEvent_rows (write_of_written hwritten)
      exact .same hkept.2
    · cases hstep
      exact .same rfl
  · split at hstep
    · rename_i next hwritten
      cases hstep
      have hkept := World.appendEvent_rows (write_of_written hwritten)
      exact .same hkept.2
    · cases hstep
      exact .same rfl
  all_goals
    cases hstep
    try exact .same rfl

theorem hears_received (task : AgentTask) {resume : Resume} :
    Hears invocation (.receive task) (.updating task resume) := by
  intro heard hheard
  cases hheard
  exact Or.inr (Or.inl rfl)

theorem hears_artifact (task : AgentTask) :
    Hears invocation (.artifact task) (.noting task) := by
  intro heard hheard
  cases hheard
  exact Or.inr (Or.inr rfl)

/-- Every event an invocation takes is steady. -/
theorem Steady.step {turn : Turn}
    (hstep : invocation.step settings database event = some turn) :
    Steady invocation database event turn := by
  have hsame := Continues.refl invocation
  unfold Invocation.step at hstep
  dsimp only at hstep
  split at hstep
  · cases hstep
    have hopened : Continues invocation { invocation with card := true, client := true } :=
      ⟨rfl, rfl, rfl, rfl, rfl, id⟩
    exact .goto hopened rfl (hears_none (show Point.discovered.task = none from rfl))
  · cases hstep
    have hfetched : Continues invocation { invocation with card := true } :=
      ⟨rfl, rfl, rfl, rfl, rfl, id⟩
    exact .fail hfetched _ _
  · cases hstep
    exact .goto hsame rfl (hears_received _)
  · split at hstep
    · cases hstep
      exact .fail hsame _ _
    · cases hstep
      exact .goto hsame rfl (hears_artifact _)
  · split at hstep
    · cases hstep
      exact .fail hsame _ _
    · cases hstep
      exact .goto hsame rfl (hears_none rfl)
  · cases hstep
    exact .goto hsame rfl (hears_received _)
  · rename_i task draft response hpoint
    split at hstep
    · cases hstep
      exact .fail hsame _ _
    · rename_i actionId haction
      cases hstep
      refine .running_of ⟨rfl, rfl, rfl, rfl, rfl, id⟩ (hears_none rfl) (Or.inl rfl) ?_
      intro packet hmem
      rw [List.mem_singleton.mp hmem]
      exact .continuation task draft response actionId hpoint rfl haction
  · cases hstep
    exact .goto hsame rfl (hears_received _)
  · cases hstep
    exact .goto hsame rfl (hears_none rfl)
  · cases hstep
    exact .goto hsame rfl (hears_none rfl)
  · cases hstep
    exact .goto hsame rfl (hears_none rfl)
  · cases hstep
    exact .abandoned _ _
  · split at hstep
    · rename_i cancelTurn hcancel
      cases hstep
      have hkept := cancelStep_steady hcancel
      refine .running_of ⟨hkept.spec, hkept.request, rfl, hkept.invocationId, hkept.runId, id⟩
        (hears_none rfl) (hkept.rows.imp_right fun hsaved => ⟨_, rfl, rfl, hsaved.2⟩) ?_
      intro packet hmem
      obtain ⟨taskId, rfl⟩ := hkept.posted packet hmem
      exact .cancel taskId
    · split at hstep
      · exact .advance hstep
      · cases hstep
  · split at hstep
    · split at hstep
      · cases hstep
        exact .escalate hsame _
      · cases hstep
        exact .fail hsame _ _
    · cases hstep
  · split at hstep
    · cases hstep
      exact .startCancel hsame _
    · cases hstep
  · exact .advance hstep
  · cases hstep

end Invocation

/-! ## Before the message is sent -/

/-- Whether a retry takes the row of the invocation, if there is one, for final. -/
def Database.unblocked (database : Database) (id : InvocationId) : Bool :=
  database.delegatedTasks.all fun row => row.invocationId != id || row.record.state.settled

def Database.hasRow (database : Database) (id : InvocationId) : Bool :=
  database.delegatedTasks.any fun row => row.invocationId == id

namespace Invocation

variable {invocation carried current : Invocation} {database next : Database}
  {event : ClientEvent} {settings : ClientSettings}

/-- The invocation knows of no task, and neither does its row. -/
structure Pending (database : Database) (mapping : DelegatedTask) : Prop where
  taskId : mapping.taskId = none
  state : mapping.state = .pending
  row : ∀ row ∈ database.delegatedTasks, row.invocationId = mapping.invocationId →
    row.record.state = .pending

/-- Where an invocation stands that has not sent its message. -/
def Unsent (database : Database) (invocation : Invocation) : Prop :=
  match invocation.point with
  | .attempting | .marking _ => Pending database invocation.mapping
  | .discovering | .discovered | .sending | .retrying _ | .backoff | .canceling .done _ =>
    Pending database invocation.mapping ∧ database.hasRow invocation.mapping.invocationId = true
  | .reporting _ => database.unblocked invocation.mapping.invocationId = true
  | _ => False

/-- What a statement of such an invocation leads to. -/
def Leads (database : Database) (invocation : Invocation) (turn : Turn) : Prop :=
  match turn.progress with
  | .running current => current.sent = false → Unsent turn.database current
  | .returned _ => False
  | .raised _ _ =>
    (turn.database.unblocked invocation.mapping.invocationId = true ↔
      (∃ error, invocation.point = .reporting error) ∨
        database.hasRow invocation.mapping.invocationId = false)

theorem Pending.congr (hpending : Pending database carried.mapping)
    (hrows : next.delegatedTasks = database.delegatedTasks) : Pending next carried.mapping :=
  ⟨hpending.taskId, hpending.state, fun row hrow => hpending.row row (hrows ▸ hrow)⟩

theorem hasRow_congr {id : InvocationId} (hrows : next.delegatedTasks = database.delegatedTasks) :
    next.hasRow id = database.hasRow id := by
  simp only [Database.hasRow, hrows]

theorem unblocked_congr {id : InvocationId}
    (hrows : next.delegatedTasks = database.delegatedTasks) :
    next.unblocked id = database.unblocked id := by
  simp only [Database.unblocked, hrows]

/-- A pending row keeps a retry from delegating. -/
theorem Pending.blocked (hpending : Pending database invocation.mapping) :
    database.unblocked invocation.mapping.invocationId = true ↔
      database.hasRow invocation.mapping.invocationId = false := by
  constructor
  · intro hunblocked
    rw [Database.hasRow, List.any_eq_false]
    intro row hrow hid
    rw [beq_iff_eq] at hid
    have hsettled := List.all_eq_true.mp hunblocked row hrow
    rw [hpending.row row hrow hid] at hsettled
    simp [hid, DelegationState.settled] at hsettled
  · intro hnone
    rw [Database.unblocked, List.all_eq_true]
    intro row hrow
    have hid := List.any_eq_false.mp hnone row hrow
    simp only [beq_iff_eq] at hid
    simp [hid]

theorem leads_startCancel (hpending : Pending database carried.mapping)
    (hrow : database.hasRow carried.mapping.invocationId = true) (ending : Ending) :
    Leads database invocation (carried.startCancel database ending) := by
  unfold Invocation.startCancel
  rcases beginCancel_cases carried.toDelegation with ⟨hbegin, -⟩ | ⟨taskId, -, htask⟩ | hbegin
  · rw [hbegin]
    -- the recovery of a lost task sends the message
    intro hsent
    simp at hsent
  · rw [hpending.taskId] at htask
    cases htask
  · rw [hbegin]
    exact fun _ => ⟨hpending, hrow⟩

theorem leads_escalate (hpending : Pending database carried.mapping) {error : PyError}
    (hrow : error.type = .timeoutError →
      database.hasRow carried.mapping.invocationId = true) :
    Leads database invocation (carried.escalate database error) := by
  unfold Invocation.escalate
  split
  · rename_i htype
    exact leads_startCancel hpending (hrow htype) _
  · split
    · rename_i hstate
      rw [hpending.state] at hstate
      simp at hstate
    · exact fun _ => hpending

theorem leads_fail (hpending : Pending database carried.mapping)
    (hrow : database.hasRow carried.mapping.invocationId = true) (error : PyError)
    (transient : Bool) :
    Leads database invocation (carried.fail settings database error transient) := by
  unfold Invocation.fail
  split
  · exact leads_escalate hpending fun _ => hrow
  · exact fun _ => ⟨hpending, hrow⟩

theorem hasRow_of_saved {mapping : DelegatedTask} (hsaved : Saved database mapping next) :
    next.hasRow mapping.invocationId = true := by
  obtain ⟨row, hrow, hid⟩ := hsaved.present
  exact List.any_eq_true.mpr ⟨row, hrow, beq_iff_eq.mpr hid⟩

/-- The row of a mapping that was just saved. -/
theorem record_of_saved {mapping : DelegatedTask} (hsaved : Saved database mapping next)
    {row : DelegatedRow} (hrow : row ∈ next.delegatedTasks)
    (hid : row.invocationId = mapping.invocationId) : row.record = mapping := by
  rcases hsaved.rows row hrow with ⟨-, hother⟩ | ⟨-, hrecord, -⟩
  · exact (hother hid).elim
  · exact hrecord

/-- Opening a conversation leaves the message unsent. -/
theorem unsent_opening (hpending : Pending database carried.mapping)
    (hrow : database.hasRow carried.mapping.invocationId = true) (client : Bool) :
    Unsent database (carried.goto (if client then .sending else .discovering)) := by
  cases client with
  | true | false => exact ⟨hpending, hrow⟩

theorem Unsent.advance (hunsent : Unsent database invocation)
    {accepted : Bool} {turn : Turn}
    (hadvance : invocation.advance settings database accepted = some turn) :
    Leads database invocation turn := by
  unfold Unsent at hunsent
  unfold Invocation.advance at hadvance
  cases hpoint : invocation.point with
  | attempting =>
      simp only [hpoint] at hunsent hadvance
      have hstarted : Pending database (invocation.withMapping
          { invocation.mapping with attempts := invocation.mapping.attempts + 1 }).mapping :=
        ⟨hunsent.taskId, hunsent.state, hunsent.row⟩
      split at hadvance
      · rename_i error hwritten
        cases hadvance
        exact leads_escalate hstarted fun htype =>
          (World.not_timeout_of_written hwritten htype).elim
      · rename_i saved hwritten
        cases hadvance
        have hsaved := saved_of_save (write_of_written hwritten)
        have hpending : Pending saved (invocation.withMapping
            { invocation.mapping with attempts := invocation.mapping.attempts + 1 }).mapping := by
          refine ⟨hunsent.taskId, hunsent.state, fun row hrow hid => ?_⟩
          rw [record_of_saved hsaved hrow hid]
          exact hunsent.state
        exact fun _ => unsent_opening hpending (hasRow_of_saved hsaved) _
  | discovered | retrying =>
      simp only [hpoint] at hunsent hadvance
      obtain ⟨hpending, hrow⟩ := hunsent
      split at hadvance
      · cases hadvance
        first
        | exact leads_fail hpending hrow _ _
        | exact leads_escalate hpending fun _ => hrow
      · rename_i saved hemit
        cases hadvance
        have hrows := emit_kept hemit
        exact fun _ => ⟨hpending.congr hrows, (hasRow_congr hrows).trans hrow⟩
  | sending =>
      simp only [hpoint] at hunsent hadvance
      rw [hunsent.1.taskId] at hadvance
      cases hadvance
      intro hsent
      cases hsent
  | canceling phase ending =>
      cases phase with
      | done =>
          simp only [hpoint] at hunsent hadvance
          obtain ⟨hpending, hrow⟩ := hunsent
          cases ending with
          | interrupted =>
              cases hadvance
              refine hpending.blocked.trans ⟨Or.inr, ?_⟩
              rintro (⟨error, hreporting⟩ | hnone)
              · rw [hpoint] at hreporting
                cases hreporting
              · exact hnone
          | failed error =>
              cases hadvance
              exact fun _ => hpending
      | recovering | canceling | fetching | saving | announcing | failing | broken =>
          simp only [hpoint] at hunsent
  | marking error =>
      simp only [hpoint] at hunsent hadvance
      rw [if_pos hunsent.state] at hadvance
      split at hadvance
      · cases hadvance
        refine hunsent.blocked.trans ⟨Or.inr, ?_⟩
        rintro (⟨other, hreporting⟩ | hnone)
        · rw [hpoint] at hreporting
          cases hreporting
        · exact hnone
      · rename_i saved hwritten
        cases hadvance
        have hsaved := saved_of_save (write_of_written hwritten)
        intro _
        change saved.unblocked invocation.mapping.invocationId = true
        rw [Database.unblocked, List.all_eq_true]
        intro row hrow
        by_cases hid : row.invocationId = invocation.mapping.invocationId
        · simp [record_of_saved hsaved hrow hid, withMapping, DelegationState.settled,
            AgentServer.terminal]
        · simp [hid]
  | reporting error =>
      simp only [hpoint] at hunsent hadvance
      split at hadvance
      · cases hadvance
        exact ⟨fun _ => Or.inl ⟨error, hpoint⟩, fun _ => hunsent⟩
      · rename_i saved hemit
        cases hadvance
        have hkept : saved.unblocked invocation.mapping.invocationId = _ :=
          unblocked_congr (emit_kept hemit)
        exact ⟨fun _ => Or.inl ⟨error, hpoint⟩, fun _ => hkept.trans hunsent⟩
  | streaming | noting | fetching | updating | announcing | examining | asking | continuing
  | sleeping => simp only [hpoint] at hunsent
  | discovering | backoff =>
      simp only [hpoint] at hadvance
      cases hadvance

/-- Where an unsent invocation waits, it is pending and has a row. -/
theorem Unsent.waiting (hunsent : Unsent database invocation)
    (hawaiting : awaiting invocation.point = true) :
    Pending database invocation.mapping ∧
      database.hasRow invocation.mapping.invocationId = true := by
  unfold Unsent at hunsent
  split at hunsent
  all_goals
    rename_i hpoint
    first
    | exact hunsent
    | (rw [hpoint] at hawaiting; cases hawaiting)
    | exact hunsent.elim

/-- Every statement of an unsent invocation. -/
theorem Unsent.step (hunsent : Unsent database invocation) {turn : Turn}
    (hstep : invocation.step settings database event = some turn) : Leads database invocation turn := by
  unfold Invocation.step at hstep
  dsimp only at hstep
  have hstands := hunsent
  unfold Unsent at hstands
  split at hstep
  · rename_i hpoint
    cases hstep
    simp only [hpoint] at hstands
    exact fun _ => hstands
  · rename_i hpoint
    cases hstep
    simp only [hpoint] at hstands
    have hfetched : Pending database ({ invocation with card := true } : Invocation).mapping :=
      hstands.1
    exact leads_fail hfetched hstands.2 _ _
  · rename_i hpoint
    simp only [hpoint] at hstands
  · rename_i hpoint
    simp only [hpoint] at hstands
  · rename_i hpoint
    simp only [hpoint] at hstands
  · rename_i hpoint
    simp only [hpoint] at hstands
  · rename_i hpoint
    simp only [hpoint] at hstands
  · rename_i hpoint
    simp only [hpoint] at hstands
  · rename_i hpoint
    simp only [hpoint] at hstands
  · rename_i hpoint
    simp only [hpoint] at hstands
  · rename_i hpoint
    cases hstep
    simp only [hpoint] at hstands
    exact fun _ => hstands.1
  · rename_i phase ending hpoint
    cases hstep
    simp only [hpoint] at hstands
    cases phase with
    | done =>
        refine hstands.1.blocked.trans ⟨Or.inr, ?_⟩
        rintro (⟨error, hreporting⟩ | hnone)
        · rw [hpoint] at hreporting
          cases hreporting
        · exact hnone
    | recovering | canceling | fetching | saving | announcing | failing | broken =>
        exact hstands.elim
  · rename_i phase ending hpoint _
    simp only [hpoint] at hstands
    split at hstep
    · rename_i cancelTurn hcancel
      cases phase with
      | done => simp [cancelStep] at hcancel
      | recovering | canceling | fetching | saving | announcing | failing | broken =>
          exact hstands.elim
    · split at hstep
      · exact hunsent.advance hstep
      · cases hstep
  · split at hstep
    · rename_i hawaiting
      obtain ⟨hpending, hrow⟩ := hunsent.waiting hawaiting
      split at hstep
      · cases hstep
        exact leads_escalate hpending fun _ => hrow
      · cases hstep
        exact leads_fail hpending hrow _ _
    · cases hstep
  · split at hstep
    · rename_i hawaiting
      obtain ⟨hpending, hrow⟩ := hunsent.waiting hawaiting
      cases hstep
      exact leads_startCancel hpending hrow _
    · cases hstep
  · exact hunsent.advance hstep
  · cases hstep

end Invocation

/-! ## The hub -/

namespace Invocation

variable {invocation : Invocation} {database next : Database} {mapping : DelegatedTask}

theorem Unsent.congr (hunsent : Unsent database invocation)
    (hrows : next.delegatedTasks = database.delegatedTasks) : Unsent next invocation := by
  have hpending (hbefore : Pending database invocation.mapping) :
      Pending next invocation.mapping := hbefore.congr hrows
  unfold Unsent at hunsent ⊢
  rw [hasRow_congr hrows, unblocked_congr hrows]
  cases hpoint : invocation.point <;> simp only [hpoint] at hunsent ⊢
  case canceling phase ending =>
    cases phase <;> first | exact ⟨hpending hunsent.1, hunsent.2⟩ | exact hunsent
  all_goals first | exact hpending hunsent | exact ⟨hpending hunsent.1, hunsent.2⟩ | exact hunsent

/-- The row of another invocation was saved. -/
theorem Unsent.saved_other (hunsent : Unsent database invocation)
    (hsaved : Saved database mapping next)
    (hne : invocation.mapping.invocationId ≠ mapping.invocationId) : Unsent next invocation := by
  have hold {row : DelegatedRow} (hrow : row ∈ next.delegatedTasks)
      (hid : row.invocationId = invocation.mapping.invocationId) :
      row ∈ database.delegatedTasks := by
    rcases hsaved.rows row hrow with ⟨hmem, -⟩ | ⟨hother, -⟩
    · exact hmem
    · exact (hne (hid.symm.trans hother)).elim
  have hpending (hbefore : Pending database invocation.mapping) :
      Pending next invocation.mapping :=
    ⟨hbefore.taskId, hbefore.state, fun row hrow hid => hbefore.row row (hold hrow hid) hid⟩
  have hrow (hbefore : database.hasRow invocation.mapping.invocationId = true) :
      next.hasRow invocation.mapping.invocationId = true := by
    obtain ⟨row, hmem, hid⟩ := List.any_eq_true.mp hbefore
    obtain ⟨later, hlater, hlaterId⟩ := hsaved.kept row hmem
    exact List.any_eq_true.mpr
      ⟨later, hlater, beq_iff_eq.mpr (hlaterId.trans (beq_iff_eq.mp hid))⟩
  have hunblocked (hbefore : database.unblocked invocation.mapping.invocationId = true) :
      next.unblocked invocation.mapping.invocationId = true := by
    rw [Database.unblocked, List.all_eq_true] at hbefore ⊢
    intro row hmem
    by_cases hid : row.invocationId = invocation.mapping.invocationId
    · exact hbefore row (hold hmem hid)
    · simp [hid]
  unfold Unsent at hunsent ⊢
  cases hpoint : invocation.point <;> simp only [hpoint] at hunsent ⊢
  case canceling phase ending =>
    cases phase <;> first | exact ⟨hpending hunsent.1, hrow hunsent.2⟩ | exact hunsent
  all_goals
    first
    | exact hpending hunsent
    | exact ⟨hpending hunsent.1, hrow hunsent.2⟩
    | exact hunblocked hunsent

end Invocation

namespace World

variable {world next : World} {id mover : InvocationId}

/-- Rows, invocations, and what they left behind belong to who they say. -/
structure Tidy (world : World) : Prop where
  invocations : ∀ id invocation, world.invocations id = some invocation →
    id ∈ world.started ∧ invocation.mapping.Owned id ∧
      (invocation.sent = false → Invocation.Unsent world.database invocation)
  executing : ∀ id, (world.invocations id).isSome →
    ∃ failed, world.phases id.runId = .executing failed
  detached : ∀ id left phase, world.detached id = some (left, phase) →
    world.invocations id = none ∧ id ∈ world.started ∧ left.mapping.Owned id
  rows : ∀ row ∈ world.database.delegatedTasks, row.invocationId ∈ world.started ∧
    row.runId = row.invocationId.runId ∧ row.record.Owned row.invocationId
  queues : ∀ runId queue point, world.phases runId = .reconciling queue point →
    ∀ mapping ∈ queue, mapping.invocationId ∈ world.started ∧
      mapping.invocationId.runId = runId ∧ mapping.Owned mapping.invocationId

/-- The row of the mover was saved, or none was. -/
def Moves (world next : World) (mover : InvocationId) : Prop :=
  next.database.delegatedTasks = world.database.delegatedTasks ∨
    ∃ mapping, mapping.Owned mover ∧ mover ∈ world.started ∧
      Saved world.database mapping next.database

theorem Tidy.unsent (htidy : world.Tidy) (hmoves : Moves world next mover)
    {invocation : Invocation} (hinvocation : world.invocations id = some invocation)
    (hne : id ≠ mover) (hsent : invocation.sent = false) :
    Invocation.Unsent next.database invocation := by
  obtain ⟨-, howned, hunsent⟩ := htidy.invocations id invocation hinvocation
  rcases hmoves with hrows | ⟨mapping, hmover, -, hsaved⟩
  · exact (hunsent hsent).congr hrows
  · refine (hunsent hsent).saved_other hsaved ?_
    rw [howned.1, hmover.1]
    exact hne

/-- The rows stay those of started invocations. -/
theorem Tidy.rows_moved (htidy : world.Tidy) (hmoves : Moves world next mover)
    (hstarted : world.started ⊆ next.started) :
    ∀ row ∈ next.database.delegatedTasks, row.invocationId ∈ next.started ∧
      row.runId = row.invocationId.runId ∧ row.record.Owned row.invocationId := by
  intro row hrow
  rcases hmoves with hsame | ⟨mapping, hmover, hmem, hsaved⟩
  · obtain ⟨hold, hrun, howned⟩ := htidy.rows row (hsame ▸ hrow)
    exact ⟨hstarted hold, hrun, howned⟩
  · rcases hsaved.rows row hrow with ⟨hold, -⟩ | ⟨hid, hrecord, hrun⟩
    · obtain ⟨hold, hrowRun, howned⟩ := htidy.rows row hold
      exact ⟨hstarted hold, hrowRun, howned⟩
    · rw [hid, hmover.1, hrecord]
      refine ⟨hstarted hmem, ?_, hmover⟩
      rcases hrun with hnew | ⟨old, hold, holdId, holdRun⟩
      · rw [hnew, hmover.2]
      · rw [holdRun, (htidy.rows old hold).2.1, holdId, hmover.1]

/-- A step that leaves the invocations alone, and saves the row of none of them. -/
theorem Tidy.keep (htidy : world.Tidy) (hmoves : Moves world next mover)
    (hstarted : next.started = world.started) (hinvocations : next.invocations = world.invocations)
    (hdetached : next.detached = world.detached)
    (hmover : world.invocations mover = none ∨
      next.database.delegatedTasks = world.database.delegatedTasks)
    (hexecuting : ∀ id, (world.invocations id).isSome →
      ∃ failed, next.phases id.runId = .executing failed)
    (hqueues : ∀ runId queue point, next.phases runId = .reconciling queue point →
      ∀ mapping ∈ queue, mapping.invocationId ∈ world.started ∧
        mapping.invocationId.runId = runId ∧ mapping.Owned mapping.invocationId) :
    next.Tidy where
  invocations id invocation hinvocation := by
    rw [hinvocations] at hinvocation
    obtain ⟨hmem, howned, hunsent⟩ := htidy.invocations id invocation hinvocation
    refine ⟨hstarted ▸ hmem, howned, fun hsent => ?_⟩
    rcases hmover with hnone | hrows
    · refine htidy.unsent hmoves hinvocation ?_ hsent
      rintro rfl
      rw [hnone] at hinvocation
      cases hinvocation
    · exact (hunsent hsent).congr hrows
  executing id hsome := hexecuting id (hinvocations ▸ hsome)
  detached id left phase hleft := by
    rw [hdetached] at hleft
    obtain ⟨hnone, hmem, howned⟩ := htidy.detached id left phase hleft
    exact ⟨hinvocations ▸ hnone, hstarted ▸ hmem, howned⟩
  rows := htidy.rows_moved hmoves (by rw [hstarted]; exact List.Subset.refl _)
  queues runId queue point hphase mapping hmapping := by
    rw [hstarted]
    exact hqueues runId queue point hphase mapping hmapping

/-- Only the phase of one run changes. -/
theorem Tidy.setPhase (htidy : world.Tidy) {runId : RunId} {phase : RunPhase}
    (hidle : (∃ failed, phase = .executing failed) ∨
      ∀ id, (world.invocations id).isSome → id.runId ≠ runId)
    (hqueue : ∀ queue point, phase = .reconciling queue point →
      ∀ mapping ∈ queue, mapping.invocationId ∈ world.started ∧
        mapping.invocationId.runId = runId ∧ mapping.Owned mapping.invocationId)
    (hmoves : Moves world next mover) (hstarted : next.started = world.started)
    (hinvocations : next.invocations = world.invocations)
    (hdetached : next.detached = world.detached)
    (hphases : next.phases = Function.update world.phases runId phase)
    (hmover : world.invocations mover = none ∨
      next.database.delegatedTasks = world.database.delegatedTasks) : next.Tidy := by
  refine htidy.keep hmoves hstarted hinvocations hdetached hmover ?_ ?_
  · intro id hsome
    obtain ⟨failed, hfailed⟩ := htidy.executing id hsome
    rw [hphases]
    by_cases hrun : id.runId = runId
    · subst hrun
      rw [Function.update_self]
      exact hidle.resolve_right fun hnone => hnone id hsome rfl
    · rw [Function.update_of_ne hrun]
      exact ⟨failed, hfailed⟩
  · intro other queue point hphase
    rw [hphases] at hphase
    by_cases hrun : other = runId
    · subst hrun
      rw [Function.update_self] at hphase
      exact hqueue queue point hphase
    · rw [Function.update_of_ne hrun] at hphase
      exact htidy.queues other queue point hphase

/-- Only a run that executes has running invocations. -/
theorem Tidy.idle_of_phase (htidy : world.Tidy) {runId : RunId}
    (hphase : ∀ failed, world.phases runId ≠ .executing failed) (id : InvocationId)
    (hsome : (world.invocations id).isSome) : id.runId ≠ runId := by
  rintro rfl
  obtain ⟨failed, hfailed⟩ := htidy.executing id hsome
  exact hphase failed hfailed

/-- A listed mapping belongs to a started invocation of its run. -/
theorem Tidy.listed (htidy : world.Tidy) {runId : RunId} {mapping : DelegatedTask}
    (hmem : mapping ∈ world.database.listDelegatedTasks runId) :
    mapping.invocationId ∈ world.started ∧ mapping.invocationId.runId = runId ∧
      mapping.Owned mapping.invocationId := by
  obtain ⟨row, hrow, hrun, rfl⟩ := listed_row hmem
  obtain ⟨hstarted, hrowRun, hid, hrecordRun⟩ := htidy.rows row hrow
  rw [hid]
  exact ⟨hstarted, hrowRun.symm.trans hrun, hid, hrecordRun⟩

/-- What a statement of `reconcile_run` may change. -/
structure Reconciles (world next : World) (runId : RunId) (queue : List DelegatedTask)
    (phase : RunPhase) : Prop where
  phases : next.phases = Function.update world.phases runId phase
  started : next.started = world.started
  invocations : next.invocations = world.invocations
  detached : next.detached = world.detached
  rows : next.database.delegatedTasks = world.database.delegatedTasks ∨
    ∃ mapping ∈ queue, Saved world.database mapping next.database
  queue : ∀ later reached, phase = .reconciling later reached → ∀ mapping ∈ later,
    ∃ earlier ∈ queue, mapping.invocationId = earlier.invocationId ∧ mapping.runId = earlier.runId

section Reconcile

variable {runId : RunId} {queue : List DelegatedTask} {mapping : DelegatedTask}
  {rest : List DelegatedTask} {database : Database} {posted : List Packet}

/-- A reconciliation may end with the rows as they were. -/
theorem reconciles_idle (hrows : database.delegatedTasks = world.database.delegatedTasks) :
    Reconciles world ((world.after database posted).setPhase runId .idle) runId queue .idle :=
  ⟨rfl, rfl, rfl, rfl, Or.inl hrows, fun _ _ hphase => by cases hphase⟩

theorem reconciles_next (hrows : database.delegatedTasks = world.database.delegatedTasks)
    {later : List DelegatedTask} (hsub : later ⊆ queue) (point : ReconcilePoint) :
    Reconciles world ((world.after database posted).setPhase runId (.reconciling later point))
      runId queue (.reconciling later point) := by
  refine ⟨rfl, rfl, rfl, rfl, Or.inl hrows, ?_⟩
  rintro _ _ hphase found hmem
  cases hphase
  exact ⟨found, hsub hmem, rfl, rfl⟩

/-- The first mapping took on another state. -/
theorem reconciles_state (state : DelegationState) (point : ReconcilePoint) :
    Reconciles world ((world.after world.database posted).setPhase runId
      (.reconciling ({ mapping with state } :: rest) point)) runId (mapping :: rest)
      (.reconciling ({ mapping with state } :: rest) point) := by
  refine ⟨rfl, rfl, rfl, rfl, Or.inl rfl, ?_⟩
  rintro _ _ hphase found hmem
  cases hphase
  rcases List.mem_cons.mp hmem with rfl | hrest
  · exact ⟨mapping, List.mem_cons_self, rfl, rfl⟩
  · exact ⟨found, List.mem_cons_of_mem _ hrest, rfl, rfl⟩

theorem after_nil : world.after world.database [] = world := by
  simp [after]

/-- Every step of a reconciliation is one of these. -/
theorem reconcile_cases {point : ReconcilePoint} {event : ClientEvent}
    (hstep : world.reconcile runId queue point event = some next) :
    ∃ phase, Reconciles world next runId queue phase := by
  have hidle : Reconciles world (world.setPhase runId .idle) runId queue .idle := by
    have hkept : Reconciles world ((world.after world.database []).setPhase runId .idle) runId
      queue .idle := reconciles_idle rfl
    rwa [after_nil] at hkept
  have hpoint {later : List DelegatedTask} (hsub : later ⊆ queue) (point : ReconcilePoint) :
      Reconciles world (world.setPhase runId (.reconciling later point)) runId queue
        (.reconciling later point) := by
    have hkept : Reconciles world
        ((world.after world.database []).setPhase runId (.reconciling later point)) runId queue
        (.reconciling later point) := reconciles_next rfl hsub point
    rwa [after_nil] at hkept
  have hstate {mapping : DelegatedTask} {rest : List DelegatedTask} (state : DelegationState)
      (point : ReconcilePoint) :
      Reconciles world (world.setPhase runId (.reconciling ({ mapping with state } :: rest) point))
        runId (mapping :: rest) (.reconciling ({ mapping with state } :: rest) point) := by
    have hkept : Reconciles world ((world.after world.database []).setPhase runId
        (.reconciling ({ mapping with state } :: rest) point)) runId (mapping :: rest)
        (.reconciling ({ mapping with state } :: rest) point) := reconciles_state state point
    rwa [after_nil] at hkept
  unfold World.reconcile at hstep
  split at hstep
  · cases hstep
    exact ⟨_, rfl, rfl, rfl, rfl, Or.inl rfl, fun _ _ hphase => by cases hphase⟩
  · split at hstep
    · cases hstep
      exact ⟨_, hpoint (List.subset_cons_self _ _) _⟩
    · split at hstep
      · cases hstep
        exact ⟨_, hidle⟩
      · cases hstep
        exact ⟨_, hpoint (List.Subset.refl _) _⟩
  · cases hstep
    exact ⟨_, hpoint (List.Subset.refl _) _⟩
  · cases hstep
    exact ⟨_, hidle⟩
  · split at hstep
    · dsimp only at hstep
      split at hstep
      · cases hstep
        exact ⟨_, hstate _ _⟩
      · split at hstep
        · cases hstep
          exact ⟨_, reconciles_state _ _⟩
        · cases hstep
    · cases hstep
  · cases hstep
    exact ⟨_, hpoint (List.Subset.refl _) _⟩
  · split at hstep
    · cases hstep
      exact ⟨_, hstate _ _⟩
    · cases hstep
  · split at hstep
    · cases hstep
      exact ⟨_, hidle⟩
    · rename_i mapping rest _ _ saved hwritten
      cases hstep
      refine ⟨_, rfl, rfl, rfl, rfl,
        Or.inr ⟨mapping, List.mem_cons_self, saved_of_save (write_of_written hwritten)⟩, ?_⟩
      rintro _ _ hphase found hmem
      cases hphase
      exact ⟨found, hmem, rfl, rfl⟩
  · split at hstep
    · cases hstep
      exact ⟨_, hidle⟩
    · rename_i saved hwritten
      cases hstep
      have hkept := World.appendEvent_rows (write_of_written hwritten)
      exact ⟨_, reconciles_next hkept.2 (List.Subset.refl _) _⟩
  · split at hstep
    · cases hstep
      exact ⟨_, hpoint (List.subset_cons_self _ _) _⟩
    · cases hstep
      exact ⟨_, hidle⟩
  all_goals
    cases hstep
    try exact ⟨_, hidle⟩

end Reconcile

/-- Reconciling keeps the world tidy. -/
theorem Tidy.reconcile (htidy : world.Tidy) {runId : RunId} {queue : List DelegatedTask}
    {point : ReconcilePoint} {event : ClientEvent}
    (hphase : world.phases runId = .reconciling queue point)
    (hstep : world.reconcile runId queue point event = some next) : next.Tidy := by
  obtain ⟨phase, hkept⟩ := reconcile_cases hstep
  have hqueue := htidy.queues runId queue point hphase
  have hidle := htidy.idle_of_phase (by rw [hphase]; nofun)
  have hlater (later : List DelegatedTask) (reached : ReconcilePoint)
      (hreached : phase = .reconciling later reached) (mapping : DelegatedTask)
      (hmem : mapping ∈ later) : mapping.invocationId ∈ world.started ∧
        mapping.invocationId.runId = runId ∧ mapping.Owned mapping.invocationId := by
    obtain ⟨earlier, hearlier, hid, hrun⟩ := hkept.queue later reached hreached mapping hmem
    obtain ⟨hstarted, hidRun, howned⟩ := hqueue earlier hearlier
    rw [hid]
    exact ⟨hstarted, hidRun, hid, hrun.trans howned.2⟩
  rcases hkept.rows with hrows | ⟨mapping, hmem, hsaved⟩
  · have hmoves : Moves world next ⟨runId, .preflight, "", 0, 0⟩ := Or.inl hrows
    exact htidy.setPhase (Or.inr hidle) hlater hmoves hkept.started hkept.invocations
      hkept.detached hkept.phases (Or.inr hrows)
  · obtain ⟨hstarted, hidRun, howned⟩ := hqueue mapping hmem
    refine htidy.setPhase (Or.inr hidle) hlater (Or.inr ⟨mapping, howned, hstarted, hsaved⟩)
      hkept.started hkept.invocations hkept.detached hkept.phases (Or.inl ?_)
    -- a run that reconciles has no running invocation
    by_contra hsome
    exact hidle mapping.invocationId (Option.isSome_iff_ne_none.mpr hsome) hidRun

/-- An invocation took a step or ended. -/
theorem Tidy.turned (htidy : world.Tidy) {invocation : Invocation}
    (hinvocation : world.invocations id = some invocation) {current : Option Invocation}
    (hmoves : Moves world next id) (hstarted : next.started = world.started)
    (hinvocations : next.invocations = Function.update world.invocations id current)
    (hcurrent : ∀ found, current = some found → found.mapping.Owned id ∧
      (found.sent = false → Invocation.Unsent next.database found))
    (hdetached : next.detached = world.detached ∨ current = none ∧
      ∃ left phase, left.mapping.Owned id ∧
        next.detached = Function.update world.detached id (some (left, phase)))
    (hphases : next.phases = world.phases ∨
      ∃ failed, next.phases = Function.update world.phases id.runId (.executing failed)) :
    next.Tidy := by
  obtain ⟨hmem, -, -⟩ := htidy.invocations id invocation hinvocation
  obtain ⟨before, hbefore⟩ := htidy.executing id (by rw [hinvocation]; rfl)
  have hexecuting {other : InvocationId} (hsome : (world.invocations other).isSome) :
      ∃ failed, next.phases other.runId = .executing failed := by
    obtain ⟨failed, hfailed⟩ := htidy.executing other hsome
    rcases hphases with hsame | ⟨marked, hmarked⟩
    · exact ⟨failed, hsame ▸ hfailed⟩
    · rw [hmarked]
      by_cases hrun : other.runId = id.runId
      · rw [hrun, Function.update_self]
        exact ⟨marked, rfl⟩
      · rw [Function.update_of_ne hrun]
        exact ⟨failed, hfailed⟩
  refine ⟨?_, ?_, ?_, htidy.rows_moved hmoves (by rw [hstarted]; exact List.Subset.refl _), ?_⟩
  · intro other found hfound
    rw [hstarted]
    rw [hinvocations] at hfound
    by_cases hother : other = id
    · rw [hother, Function.update_self] at hfound
      rw [hother]
      exact ⟨hmem, hcurrent found hfound⟩
    · rw [Function.update_of_ne hother] at hfound
      obtain ⟨hotherMem, howned, -⟩ := htidy.invocations other found hfound
      exact ⟨hotherMem, howned, htidy.unsent hmoves hfound hother⟩
  · intro other hsome
    rw [hinvocations] at hsome
    by_cases hother : other = id
    · exact hexecuting (by rw [hother, hinvocation]; rfl)
    · rw [Function.update_of_ne hother] at hsome
      exact hexecuting hsome
  · intro other left phase hleft
    rw [hinvocations, hstarted]
    rcases hdetached with hsame | ⟨hended, remains, reached, howned, hnew⟩
    · rw [hsame] at hleft
      obtain ⟨hnone, hotherMem, howned⟩ := htidy.detached other left phase hleft
      have hother : other ≠ id := by
        rintro rfl
        rw [hinvocation] at hnone
        cases hnone
      rw [Function.update_of_ne hother]
      exact ⟨hnone, hotherMem, howned⟩
    · rw [hnew] at hleft
      by_cases hother : other = id
      · rw [hother, Function.update_self, Option.some.injEq, Prod.mk.injEq] at hleft
        rw [hother, Function.update_self]
        exact ⟨hended, hmem, hleft.1 ▸ howned⟩
      · rw [Function.update_of_ne hother] at hleft ⊢
        exact htidy.detached other left phase hleft
  · intro runId queue point hphase
    rw [hstarted]
    rcases hphases with hsame | ⟨marked, hmarked⟩
    · exact htidy.queues runId queue point (hsame ▸ hphase)
    · rw [hmarked] at hphase
      by_cases hrun : runId = id.runId
      · rw [hrun, Function.update_self] at hphase
        cases hphase
      · rw [Function.update_of_ne hrun] at hphase
        exact htidy.queues runId queue point hphase

/-- A client's step keeps the world tidy. -/
theorem Tidy.client (htidy : world.Tidy) {invocation : Invocation} {settings : ClientSettings}
    {event : ClientEvent} {turn : Turn} (hinvocation : world.invocations id = some invocation)
    (hstep : invocation.step settings world.database event = some turn) :
    (world.turned id turn).Tidy := by
  obtain ⟨hmem, howned, hunsent⟩ := htidy.invocations id invocation hinvocation
  have hexecuting := htidy.executing id (by rw [hinvocation]; rfl)
  have hsteady := Invocation.Steady.step hstep
  obtain ⟨database, posted, progress⟩ := turn
  have hmoves {later : World} (hlater : later.database = database) : Moves world later id := by
    rw [Moves, hlater]
    refine hsteady.rows.imp_right ?_
    rintro ⟨mapping, hid, hrun, hsaved⟩
    exact ⟨mapping, ⟨hid.trans howned.1, hrun.trans howned.2⟩, hmem, hsaved⟩
  cases progress with
  | running current =>
      have hcontinues := (hsteady.running current rfl).1
      refine htidy.turned hinvocation (hmoves rfl) rfl rfl ?_ (Or.inl rfl) (Or.inl rfl)
      intro found hfound
      cases hfound
      refine ⟨⟨hcontinues.invocationId.trans howned.1, hcontinues.runId.trans howned.2⟩, ?_⟩
      intro hsent
      have hbefore : invocation.sent = false := by
        cases hcase : invocation.sent with
        | false => rfl
        | true => rw [hcontinues.sent hcase] at hsent; cases hsent
      exact (hunsent hbefore).step hstep hsent
  | returned result =>
      exact htidy.turned hinvocation (hmoves rfl) rfl rfl (fun _ hfound => by cases hfound)
        (Or.inl rfl) (Or.inl rfl)
  | raised ending left =>
      obtain ⟨failed, hfailed⟩ := hexecuting
      have hmarked := markFailed_of_executing
        (show ((world.after database posted).setInvocation id none).phases id.runId =
          .executing failed from hfailed)
      have hleft := hsteady.left ending
      cases left with
      | none =>
          change (((world.after database posted).setInvocation id none).markFailed id).Tidy
          rw [hmarked]
          exact htidy.turned hinvocation (hmoves rfl) rfl rfl (fun _ hfound => by cases hfound)
            (Or.inl rfl) (Or.inr ⟨_, rfl⟩)
      | some remains =>
          obtain ⟨left, phase⟩ := remains
          cases hleft left phase rfl
          change ({ ((world.after database posted).setInvocation id none).markFailed id with
            detached := _ } : World).Tidy
          rw [hmarked]
          exact htidy.turned hinvocation (hmoves rfl) rfl rfl (fun _ hfound => by cases hfound)
            (Or.inr ⟨rfl, _, _, howned, rfl⟩) (Or.inr ⟨_, rfl⟩)

theorem Tidy.remaining (htidy : world.Tidy) {left : Delegation} {phase : CancelPhase}
    {event : ClientEvent} {turn : CancelTurn} (hleft : world.detached id = some (left, phase))
    (hstep : cancelStep world.database left phase event = some turn) :
    ({ world.after turn.database turn.posted with
      detached := Function.update world.detached id (some (turn.delegation, turn.phase)) } :
      World).Tidy := by
  obtain ⟨hnone, hmem, howned⟩ := htidy.detached id left phase hleft
  have hsteady := Invocation.cancelStep_steady hstep
  have hmoves : Moves world (world.after turn.database turn.posted) id :=
    hsteady.rows.imp_right fun hsaved => ⟨left.mapping, howned, hmem, hsaved.2⟩
  have hafter : (world.after turn.database turn.posted).Tidy :=
    htidy.keep hmoves rfl rfl rfl (Or.inl hnone) htidy.executing htidy.queues
  refine ⟨hafter.invocations, hafter.executing, ?_, hafter.rows, hafter.queues⟩
  intro other found reached hfound
  by_cases hother : other = id
  · subst hother
    simp only [Function.update_self, Option.some.injEq, Prod.mk.injEq] at hfound
    obtain ⟨rfl, -⟩ := hfound
    exact ⟨hnone, hmem, hsteady.invocationId.trans howned.1, hsteady.runId.trans howned.2⟩
  · simp only [Function.update_of_ne hother] at hfound
    exact htidy.detached other found reached hfound

/-- A new invocation keeps the world tidy. -/
theorem Tidy.invoke (htidy : world.Tidy) {invocation : Invocation}
    (hphase : ∃ failed, world.phases id.runId = .executing failed) (hnew : id ∉ world.started)
    (howned : invocation.mapping.Owned id) (hpoint : invocation.point = .attempting)
    (htask : invocation.mapping.taskId = none) (hstate : invocation.mapping.state = .pending) :
    (world.invoked id invocation).Tidy := by
  have hne {other : InvocationId} (hmem : other ∈ world.started) : other ≠ id := by
    rintro rfl
    exact hnew hmem
  refine ⟨?_, ?_, ?_, ?_, ?_⟩
  · intro other found hfound
    by_cases hother : other = id
    · subst hother
      rw [invoked_self, Option.some.injEq] at hfound
      subst hfound
      refine ⟨List.mem_append_right _ (List.mem_singleton_self _), howned, fun _ => ?_⟩
      simp only [Invocation.Unsent, hpoint]
      refine ⟨htask, hstate, fun row hrow hid => ?_⟩
      rw [howned.1] at hid
      exact (hne (htidy.rows row hrow).1 hid).elim
    · rw [invoked_of_ne hother] at hfound
      obtain ⟨hmem, hother, hunsent⟩ := htidy.invocations other found hfound
      exact ⟨List.mem_append_left _ hmem, hother, hunsent⟩
  · intro other hsome
    by_cases hother : other = id
    · rw [hother]
      exact hphase
    · rw [invoked_of_ne hother] at hsome
      exact htidy.executing other hsome
  · intro other left phase hleft
    obtain ⟨hnone, hmem, hremains⟩ := htidy.detached other left phase hleft
    rw [invoked_of_ne (hne hmem)]
    exact ⟨hnone, List.mem_append_left _ hmem, hremains⟩
  · intro row hrow
    obtain ⟨hmem, hrun, hrecord⟩ := htidy.rows row hrow
    exact ⟨List.mem_append_left _ hmem, hrun, hrecord⟩
  · intro runId queue point hreconciling mapping hmapping
    obtain ⟨hmem, hrun, hqueue⟩ := htidy.queues runId queue point hreconciling mapping hmapping
    exact ⟨List.mem_append_left _ hmem, hrun, hqueue⟩

/-- A step that touches neither the database nor the hub. -/
theorem Tidy.outside (htidy : world.Tidy) (hdatabase : next.database = world.database)
    (hphases : next.phases = world.phases) (hstarted : next.started = world.started)
    (hinvocations : next.invocations = world.invocations)
    (hdetached : next.detached = world.detached) : next.Tidy := by
  have hrows : next.database.delegatedTasks = world.database.delegatedTasks := by rw [hdatabase]
  have hmoves : Moves world next ⟨"", .preflight, "", 0, 0⟩ := Or.inl hrows
  apply htidy.keep hmoves hstarted hinvocations hdetached (Or.inr hrows)
  · rw [hphases]
    exact htidy.executing
  · rw [hphases]
    exact htidy.queues

/-- An empty world is tidy. -/
theorem tidy_empty : World.empty.Tidy where
  invocations _ _ hfound := by cases hfound
  executing _ hsome := by cases hsome
  detached _ _ _ hleft := by cases hleft
  rows _ hrow := by cases hrow
  queues _ _ _ hphase := by cases hphase

section Runs

variable {platform : AgentPlatform} {settings : WorldSettings}

/-- Every step keeps the world tidy. -/
theorem Tidy.step (htidy : world.Tidy) {label : WorldLabel}
    (hstep : (delegation platform settings).step world label = some next) : next.Tidy := by
  cases label with
  | create runId idea now =>
      simp only [delegation] at hstep
      split at hstep
      · rename_i database hcreate
        cases hstep
        obtain ⟨-, -, hrows, -⟩ := createRun_rows hcreate
        have hmoves : Moves world (({ world with database } : World).setPhase runId
          (.executing [])) ⟨runId, .preflight, "", 0, 0⟩ := Or.inl hrows
        exact htidy.setPhase (Or.inl ⟨[], rfl⟩) (fun _ _ hphase => by cases hphase) hmoves rfl rfl
          rfl rfl (Or.inr hrows)
      · cases hstep
  | retry runId =>
      simp only [delegation] at hstep
      split at hstep
      · rename_i hretry
        cases hstep
        have hmoves : Moves world (world.setPhase runId
          (.reconciling (world.database.listDelegatedTasks runId) .examining))
          ⟨runId, .preflight, "", 0, 0⟩ := Or.inl rfl
        have hidle := htidy.idle_of_phase (by rw [hretry.1]; intro _ heq; cases heq)
        apply htidy.setPhase (Or.inr hidle) ?_ hmoves rfl rfl rfl rfl (Or.inr rfl)
        intro queue point hphase mapping hmem
        cases hphase
        exact htidy.listed hmem
      · cases hstep
  | reconcile runId event =>
      simp only [delegation] at hstep
      split at hstep
      · rename_i queue point hphase
        exact htidy.reconcile hphase hstep
      · cases hstep
  | finish runId =>
      simp only [delegation] at hstep
      split at hstep
      · split at hstep
        · cases hstep
        · rename_i hrunning
          cases hstep
          have hmoves : Moves world (world.setPhase runId .idle) ⟨runId, .preflight, "", 0, 0⟩ :=
            Or.inl rfl
          apply htidy.setPhase (Or.inr ?_) (fun _ _ hphase => by cases hphase) hmoves rfl rfl rfl
            rfl (Or.inr rfl)
          rintro id hsome rfl
          obtain ⟨invocation, hinvocation⟩ := Option.isSome_iff_exists.mp hsome
          apply hrunning
          apply List.any_eq_true.mpr
          refine ⟨id, (htidy.invocations id invocation hinvocation).1, ?_⟩
          simp [hinvocation]
      · cases hstep
  | invoke spec context =>
      simp only [delegation] at hstep
      split at hstep
      · rename_i failed hphase
        split at hstep
        · rename_i hallowed
          cases hstep
          exact htidy.invoke ⟨failed, hphase⟩ hallowed.2.2.2.2 ⟨rfl, rfl⟩ rfl rfl rfl
        · cases hstep
      · cases hstep
  | client id event =>
      simp only [delegation] at hstep
      split at hstep
      · rename_i invocation hinvocation
        split at hstep
        · obtain ⟨turn, hturn, rfl⟩ := Option.map_eq_some_iff.mp hstep
          exact htidy.client hinvocation hturn
        · cases hstep
      · cases hstep
  | detached id event =>
      simp only [delegation] at hstep
      split at hstep
      · rename_i left phase hleft
        split at hstep
        · obtain ⟨turn, hturn, rfl⟩ := Option.map_eq_some_iff.mp hstep
          exact htidy.remaining hleft hturn
        · cases hstep
      · cases hstep
  | deliver packet freshContext =>
      simp only [delegation] at hstep
      split at hstep
      · obtain ⟨server, -, rfl⟩ := Option.map_eq_some_iff.mp hstep
        exact htidy.outside rfl rfl rfl rfl rfl
      · cases hstep
  | lose packet =>
      simp only [delegation] at hstep
      split at hstep
      · cases hstep
        exact htidy.outside rfl rfl rfl rfl rfl
      · cases hstep
  | serve agent label =>
      simp only [delegation] at hstep
      split at hstep
      · obtain ⟨server, -, rfl⟩ := Option.map_eq_some_iff.mp hstep
        exact htidy.outside rfl rfl rfl rfl rfl
      · cases hstep
  | report agent taskId =>
      obtain ⟨task, -, rfl⟩ := Option.map_eq_some_iff.mp hstep
      exact htidy.outside rfl rfl rfl rfl rfl
  | crash =>
      cases hstep
      exact ⟨fun _ _ hfound => (by cases hfound), fun _ hsome => (by cases hsome),
        fun _ _ _ hleft => (by cases hleft), htidy.rows, fun _ _ _ hphase => (by cases hphase)⟩

/-- Every world that is reached is tidy. -/
theorem tidy_of_run {labels : List WorldLabel}
    (hrun : (delegation platform settings).run .empty labels = some world) : world.Tidy :=
  (delegation platform settings).run_invariant Tidy
    (fun _ _ _ htidy hstep => htidy.step hstep) tidy_empty hrun

theorem markFailed_database (world : World) (id : InvocationId) :
    (world.markFailed id).database = world.database := by
  unfold markFailed
  split <;> rfl

/-- The invocation ends through the general handler, which marked its row, or
never had a row. -/
def marked (world : World) (id : InvocationId) : Bool :=
  !world.database.hasRow id || (world.invocations id).any fun invocation =>
    match invocation.point with
    | .reporting _ => true
    | _ => false

end Runs

end World

/-- An invocation that ends before it sent its message leaves a final row, or
none, exactly if it ends through the general handler after that marked the row. -/
theorem uncontacted_unblocked_iff {platform : AgentPlatform} {settings : WorldSettings}
    {labels : List WorldLabel} {world next : World} {id : InvocationId} {event : ClientEvent}
    {invocation : Invocation}
    (hrun : (delegation platform settings).run .empty labels = some world)
    (hinvocation : world.invocations id = some invocation) (hunsent : invocation.sent = false)
    (hstep : (delegation platform settings).step world (.client id event) = some next)
    (hended : next.invocations id = none) :
    next.database.unblocked id = true ↔ world.marked id = true := by
  have htidy := World.tidy_of_run hrun
  obtain ⟨-, howned, hstands⟩ := htidy.invocations id invocation hinvocation
  simp only [delegation, hinvocation] at hstep
  split at hstep
  · obtain ⟨⟨database, posted, progress⟩, hturn, rfl⟩ := Option.map_eq_some_iff.mp hstep
    have hleads := (hstands hunsent).step hturn
    cases progress with
    | running current =>
        exact absurd hended (by simp [World.proceed, World.setInvocation])
    | returned result => exact hleads.elim
    | raised ending left =>
        have hdatabase : (World.proceed (world.after database posted) id
            (.raised ending left)).database = database := by
          cases left with
          | none => exact World.markFailed_database _ _
          | some remains => exact World.markFailed_database _ _
        rw [hdatabase]
        simp only [Invocation.Leads, howned.1] at hleads
        rw [hleads, World.marked, hinvocation, Option.any_some]
        cases invocation.point <;> simp
  · cases hstep

/-- The discovery of the agent fails, and the handler marks the row. -/
def failedDiscovery : List WorldLabel :=
  let id := sampleId 0
  [.create "run_a" "idea" 0, .invoke sampleSpec (sampleTurn 0), .client id (.advance true),
    .client id (.raised ⟨.osError, "no agent"⟩ false), .client id (.advance true)]

/-- The invocation is cancelled while it discovers its agent. -/
def canceledDiscovery : List WorldLabel :=
  let id := sampleId 0
  [.create "run_a" "idea" 0, .invoke sampleSpec (sampleTurn 0), .client id (.advance true),
    .client id .interrupted]

theorem uncontacted_unblocked_iff_failed : ∃ world next,
    (delegation sampleAgentPlatform {}).run .empty failedDiscovery = some world ∧
      (delegation sampleAgentPlatform {}).step world (sampleSend 0) = some next ∧
      next.invocations (sampleId 0) = none ∧ next.database.hasRow (sampleId 0) = true ∧
      next.database.unblocked (sampleId 0) = true := by
  have hsome : ((delegation sampleAgentPlatform {}).run .empty failedDiscovery).isSome = true := by
    decide +kernel
  have hinvocation : ((((delegation sampleAgentPlatform {}).run .empty failedDiscovery).get
      hsome).invocations (sampleId 0)).isSome = true := by decide +kernel +revert
  have hunsent : (((((delegation sampleAgentPlatform {}).run .empty failedDiscovery).get
      hsome).invocations (sampleId 0)).get hinvocation).sent = false := by decide +kernel +revert
  have hnext : ((delegation sampleAgentPlatform {}).step
      (((delegation sampleAgentPlatform {}).run .empty failedDiscovery).get hsome)
      (sampleSend 0)).isSome = true := by decide +kernel +revert
  have hended : (((delegation sampleAgentPlatform {}).step
      (((delegation sampleAgentPlatform {}).run .empty failedDiscovery).get hsome)
      (sampleSend 0)).get hnext).invocations (sampleId 0) = none := by decide +kernel +revert
  have hrow : (((delegation sampleAgentPlatform {}).step
      (((delegation sampleAgentPlatform {}).run .empty failedDiscovery).get hsome)
      (sampleSend 0)).get hnext).database.hasRow (sampleId 0) = true := by decide +kernel +revert
  have hmarked : (((delegation sampleAgentPlatform {}).run .empty failedDiscovery).get
      hsome).marked (sampleId 0) = true := by decide +kernel +revert
  have hstep := (Option.some_get hnext).symm
  exact ⟨_, _, (Option.some_get hsome).symm, hstep, hended, hrow,
    (uncontacted_unblocked_iff (Option.some_get hsome).symm (Option.some_get hinvocation).symm
      hunsent hstep hended).mpr hmarked⟩

/-- A cancellation during the discovery leaves the row pending. -/
theorem uncontacted_blocked : ∃ world next invocation,
    (delegation sampleAgentPlatform {}).run .empty canceledDiscovery = some world ∧
      world.invocations (sampleId 0) = some invocation ∧ invocation.sent = false ∧
      (delegation sampleAgentPlatform {}).step world (sampleSend 0) = some next ∧
      next.invocations (sampleId 0) = none ∧
      next.database.unblocked (sampleId 0) = false := by
  have hsome : ((delegation sampleAgentPlatform {}).run .empty canceledDiscovery).isSome = true := by
    decide +kernel
  have hinvocation : ((((delegation sampleAgentPlatform {}).run .empty canceledDiscovery).get
      hsome).invocations (sampleId 0)).isSome = true := by decide +kernel +revert
  have hnext : ((delegation sampleAgentPlatform {}).step
      (((delegation sampleAgentPlatform {}).run .empty canceledDiscovery).get hsome)
      (sampleSend 0)).isSome = true := by decide +kernel +revert
  refine ⟨_, _, _, (Option.some_get hsome).symm, (Option.some_get hinvocation).symm, ?_,
    (Option.some_get hnext).symm, ?_, ?_⟩
  all_goals decide +kernel +revert

end Aidlc
