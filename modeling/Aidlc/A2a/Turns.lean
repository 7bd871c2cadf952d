import Aidlc.A2a.Invocations

/-! # Turns of an invocation

Each statement of an invocation keeps the account, whatever it is answered and
whether its writes are accepted. The one condition is that a row marked as
failed before it ever named a task belongs to a quiet task.
-/

namespace Aidlc

open Foundation

namespace World

variable {world : World} {id : InvocationId} {invocation carried : Invocation}
  {database : Database} {posted : List Packet}

/-- What an invocation that may still speak carries through one of its statements. -/
structure Carries (world : World) (id : InvocationId) (invocation carried : Invocation) : Prop where
  holds : world.Holds id carried.toDelegation
  speaks : ∀ error, invocation.point ≠ .reporting error
  task : invocation.mapping.taskId ≠ none → carried.mapping.taskId ≠ none
  settled : carried.mapping.state.settled = true → carried.mapping.taskId ≠ none
  recorded : carried.mapping.state ≠ .pending → world.Recorded id

theorem Attends.carries (hattends : world.Attends id invocation)
    (hspeaks : ∀ error, invocation.point ≠ .reporting error) :
    Carries world id invocation invocation where
  holds := hattends.holds
  speaks := hspeaks
  task := fun htask => htask
  settled hsettled := by
    rcases hattends.settled hsettled with htask | ⟨error, hpoint⟩
    · exact htask
    · exact (hspeaks error hpoint).elim
  recorded hstate := hattends.recorded (Or.inr hstate)

/-- A change of what identifies neither the task nor its state. -/
theorem Carries.congr {other : Invocation} (hcarries : Carries world id invocation carried)
    (hspec : other.spec = carried.spec) (hrequest : other.request = carried.request)
    (hidentity : other.mapping.invocationId = carried.mapping.invocationId)
    (hrunId : other.mapping.runId = carried.mapping.runId)
    (htaskId : other.mapping.taskId = carried.mapping.taskId)
    (hstate : other.mapping.state = carried.mapping.state) :
    Carries world id invocation other where
  holds :=
    { named := hspec ▸ hcarries.holds.named
      request := hrequest ▸ hcarries.holds.request
      identified := hidentity ▸ hcarries.holds.identified
      runId := hrunId ▸ hcarries.holds.runId
      linked := htaskId ▸ hcarries.holds.linked
      quiet := hstate ▸ hcarries.holds.quiet }
  speaks := hcarries.speaks
  task htask := htaskId ▸ hcarries.task htask
  settled := htaskId ▸ hstate ▸ hcarries.settled
  recorded := hstate ▸ hcarries.recorded

theorem Carries.mute {current : Invocation} (hcarries : Carries world id invocation carried)
    (hmapping : current.mapping = carried.mapping) (hmute : invocation.Mute) : current.Mute := by
  rcases hmute with htask | ⟨error, hpoint⟩
  · exact Or.inl (hmapping ▸ hcarries.task htask)
  · exact (hcarries.speaks error hpoint).elim

/-- The invocation goes on at another point. -/
theorem Accountable.goto (haccountable : world.Accountable)
    (hinvocation : world.invocations id = some invocation)
    (hcarries : Carries world id invocation carried)
    (hruns : database.runs = world.database.runs)
    (hrows : database.delegatedTasks = world.database.delegatedTasks ∨
      Saved world.database carried.mapping database)
    (hposted : Silent posted) {point : Point}
    (hsaved : point.saved = true → world.Recorded id ∨
      Saved world.database carried.mapping database)
    (hstands : world.Stands id (carried.goto point)) :
    (world.turned id ⟨database, posted, .running (carried.goto point)⟩).Accountable := by
  refine haccountable.running hinvocation hruns hrows (Or.inl hposted) hcarries.holds
    (hcarries.mute rfl) (fun hstate => Or.inl (hcarries.settled hstate)) ?_ hstands
  intro hneeded
  rcases hneeded with hpoint | hstate
  · exact hsaved hpoint
  · exact Or.inl (hcarries.recorded hstate)

/-- A statement that leaves the rows alone, at a point that was reached with a row. -/
theorem Accountable.pass (haccountable : world.Accountable)
    (hinvocation : world.invocations id = some invocation)
    (hcarries : Carries world id invocation carried) (hrecorded : world.Recorded id)
    (hruns : database.runs = world.database.runs)
    (hrows : database.delegatedTasks = world.database.delegatedTasks) {point : Point}
    (hstands : world.Stands id (carried.goto point)) :
    (world.turned id ⟨database, [], .running (carried.goto point)⟩).Accountable :=
  haccountable.goto hinvocation hcarries hruns (Or.inl hrows) silent_nil
    (fun _ => Or.inl hrecorded) hstands

/-- A cancellation asks for the task again, cancels the task it knows, or has
nothing to do. -/
theorem beginCancel_cases (left : Delegation) :
    (left.beginCancel = (.recovering, [.message left.spec left.request]) ∧
      left.mapping.taskId = none) ∨
    (∃ taskId, left.beginCancel = (.canceling, [.cancel left.spec taskId]) ∧
      left.mapping.taskId = some taskId) ∨ left.beginCancel = (.done, []) := by
  unfold Delegation.beginCancel
  split
  · cases htask : left.mapping.taskId with
    | none => exact Or.inl ⟨rfl, rfl⟩
    | some taskId => exact Or.inr (Or.inl ⟨taskId, rfl, rfl⟩)
  · exact Or.inr (Or.inr rfl)

theorem Accountable.startCancel (haccountable : world.Accountable)
    (hinvocation : world.invocations id = some invocation)
    (hcarries : Carries world id invocation carried) (hrecorded : world.Recorded id)
    (ending : Ending) :
    (world.turned id (carried.startCancel world.database ending)).Accountable := by
  unfold Invocation.startCancel
  rcases beginCancel_cases carried.toDelegation with ⟨hbegin, htask⟩ | ⟨taskId, hbegin, htask⟩ |
    hbegin
  · rw [hbegin]
    have hnone : invocation.mapping.taskId = none := by
      by_contra hsome
      exact hcarries.task hsome htask
    refine haccountable.running hinvocation rfl (Or.inl rfl)
      (Or.inr ⟨rfl, hnone, hrecorded, hcarries.speaks, ?_⟩) hcarries.holds (hcarries.mute rfl)
      (fun hstate => Or.inl (hcarries.settled hstate)) (fun _ => Or.inl hrecorded) trivial
    cases hstate : carried.mapping.state.settled with
    | false => rfl
    | true => exact (hcarries.settled hstate htask).elim
  · rw [hbegin]
    refine haccountable.running hinvocation rfl (Or.inl rfl) (Or.inl (silent_cancel _ _))
      hcarries.holds (hcarries.mute rfl) (fun hstate => Or.inl (hcarries.settled hstate))
      (fun _ => Or.inl hrecorded) ?_
    change carried.mapping.taskId ≠ none
    rw [htask]
    nofun
  · rw [hbegin]
    exact haccountable.running hinvocation rfl (Or.inl rfl) (Or.inl silent_nil)
      hcarries.holds (hcarries.mute rfl) (fun hstate => Or.inl (hcarries.settled hstate))
      (fun _ => Or.inl hrecorded) trivial

theorem Accountable.escalate (haccountable : world.Accountable)
    (hinvocation : world.invocations id = some invocation)
    (hcarries : Carries world id invocation carried) {error : PyError}
    (hrecorded : error.type = .timeoutError → world.Recorded id) :
    (world.turned id (carried.escalate world.database error)).Accountable := by
  unfold Invocation.escalate
  split
  · rename_i htype
    exact haccountable.startCancel hinvocation hcarries (hrecorded htype) _
  · split
    · rename_i hstate
      refine haccountable.startCancel hinvocation hcarries (hcarries.recorded ?_) _
      intro hpending
      rw [hpending] at hstate
      simp at hstate
    · exact haccountable.goto hinvocation hcarries rfl (Or.inl rfl) silent_nil nofun trivial

theorem Accountable.fail (haccountable : world.Accountable)
    (hinvocation : world.invocations id = some invocation)
    (hcarries : Carries world id invocation carried) (hrecorded : world.Recorded id)
    (settings : ClientSettings) (error : PyError) (transient : Bool) :
    (world.turned id (carried.fail settings world.database error transient)).Accountable := by
  unfold Invocation.fail
  split
  · exact haccountable.escalate hinvocation hcarries fun _ => hrecorded
  · exact haccountable.pass hinvocation hcarries hrecorded rfl rfl trivial

theorem markFailed_of_executing {failed : List (String × StageName)}
    (hfailed : world.phases id.runId = .executing failed) : world.markFailed id =
      world.setPhase id.runId (.executing ((id.agent, id.stage) :: failed)) := by
  unfold markFailed
  rw [hfailed]

/-- An invocation that ends without a result fails its agent. -/
theorem Accountable.raised (haccountable : world.Accountable)
    (hinvocation : world.invocations id = some invocation)
    (hruns : database.runs = world.database.runs)
    (hrows : database.delegatedTasks = world.database.delegatedTasks) (ending : Ending)
    {left : Option (Delegation × CancelPhase)}
    (hleft : left = none ∨ ∃ phase reason, invocation.point = .canceling phase reason ∧
      left = some (invocation.toDelegation, phase)) :
    (world.turned id ⟨database, [], .raised ending left⟩).Accountable := by
  obtain ⟨failed, hfailed⟩ := (haccountable.invocations id invocation hinvocation).executing
  have hmarked := markFailed_of_executing
    (show ((world.after database []).setInvocation id none).phases id.runId = .executing failed
      from hfailed)
  rcases hleft with rfl | ⟨phase, reason, hpoint, rfl⟩
  · change (((world.after database []).setInvocation id none).markFailed id).Accountable
    rw [hmarked]
    exact haccountable.ended hinvocation rfl rfl rfl hruns hrows (List.append_nil _) rfl
      (Or.inl rfl) (Or.inr ⟨failed, hfailed, rfl⟩)
  · change ({ ((world.after database []).setInvocation id none).markFailed id with
      detached := _ } : World).Accountable
    rw [hmarked]
    exact haccountable.ended hinvocation rfl rfl rfl hruns hrows (List.append_nil _) rfl
      (Or.inr ⟨phase, reason, hpoint, rfl⟩) (Or.inr ⟨failed, hfailed, rfl⟩)

theorem Accountable.returned (haccountable : world.Accountable)
    (hinvocation : world.invocations id = some invocation) (hquiet : world.quiet id = true)
    (result : AgentResult) :
    (world.turned id ⟨world.database, [], .returned result⟩).Accountable :=
  haccountable.ended hinvocation rfl rfl rfl rfl rfl (List.append_nil _) rfl (Or.inl rfl)
    (Or.inl ⟨rfl, hquiet, rfl⟩)

theorem Carries.update (haccountable : world.Accountable) {task : AgentTask}
    (hcarries : Carries world id invocation invocation) (hrecorded : world.Recorded id)
    (hreported : world.reported id task = true) :
    Carries world id invocation (invocation.withMapping
      { invocation.mapping with taskId := some task.id, state := .reported task.state }) where
  holds := (hcarries.holds.receive hreported).report haccountable hreported
  speaks := hcarries.speaks
  task _ := nofun
  settled _ := nofun
  recorded _ := hrecorded

theorem Accountable.update (haccountable : world.Accountable)
    (hinvocation : world.invocations id = some invocation)
    (hcarries : Carries world id invocation invocation) (hrecorded : world.Recorded id)
    {task : AgentTask} (hreported : world.reported id task = true) (settings : ClientSettings)
    (resume : Resume) (accepted : Bool) :
    (world.turned id
      (invocation.update settings world.database task resume accepted)).Accountable := by
  have hupdated := hcarries.update haccountable hrecorded hreported
  unfold Invocation.update
  dsimp only
  split
  · exact haccountable.fail hinvocation hcarries hrecorded _ _ _
  · split
    · exact haccountable.fail hinvocation hcarries hrecorded _ _ _
    · split
      · exact haccountable.fail hinvocation hupdated hrecorded _ _ _
      · rename_i database hwritten
        have hsaved := saved_of_save (write_of_written hwritten)
        have hgoto (point : Point) (hstands : world.Stands id ((invocation.withMapping
            { invocation.mapping with
              taskId := some task.id, state := .reported task.state }).goto point)) :=
          haccountable.goto hinvocation hupdated hsaved.runs (Or.inr hsaved) silent_nil
            (fun _ => Or.inl hrecorded) hstands
        split
        · cases resume with
          | stream => exact hgoto .streaming trivial
          | poll => exact hgoto (.examining task) ⟨nofun, rfl⟩
          | continuation => exact hgoto .continuing trivial
        · exact hgoto (.announcing task resume) ⟨nofun, rfl⟩

theorem state_of_taskResult {spec : AgentSpec} {task : AgentTask} {result : AgentResult}
    (hresult : Invocation.taskResult spec task = .ok result) : task.state = .completed := by
  unfold Invocation.taskResult at hresult
  split at hresult
  · cases hresult
  · split at hresult
    · cases hresult
    · exact not_not.mp ‹_›

theorem Accountable.examine (haccountable : world.Accountable)
    (hinvocation : world.invocations id = some invocation)
    (hcarries : Carries world id invocation invocation) (hrecorded : world.Recorded id)
    {task : AgentTask} (hstate : invocation.mapping.state = .reported task.state)
    (settings : ClientSettings) :
    (world.turned id (invocation.examine settings world.database task)).Accountable := by
  unfold Invocation.examine
  split
  · split
    · exact haccountable.fail hinvocation hcarries hrecorded _ _ _
    · split
      · exact haccountable.fail hinvocation hcarries hrecorded _ _ _
      · exact haccountable.pass hinvocation hcarries hrecorded rfl rfl trivial
  · split
    · split
      · exact haccountable.fail hinvocation hcarries hrecorded _ _ _
      · rename_i result hresult
        refine haccountable.returned hinvocation (hcarries.holds.quiet ?_) result
        rw [hstate, state_of_taskResult hresult]
        rfl
    · exact haccountable.pass hinvocation hcarries hrecorded rfl rfl trivial

/-- The row that the handler marks as failed belongs to a quiet task. -/
def marksQuietly (world : World) : WorldLabel → Bool
  | .client id (.advance true) =>
    match world.invocations id with
    | some invocation =>
      match invocation.point with
      | .marking _ => invocation.mapping.state != .pending || world.quiet id
      | _ => true
    | none => true
  | _ => true

theorem emit_rows {eventType : String} {payload : List (String × Json)} {accepted : Bool}
    (hemit : invocation.emit world.database accepted eventType payload = .ok database) :
    database.runs = world.database.runs ∧
      database.delegatedTasks = world.database.delegatedTasks :=
  appendEvent_rows (write_of_written hemit)

/-- The handler that marks the row of an invocation without a task. -/
theorem Accountable.mark (haccountable : world.Accountable)
    (hinvocation : world.invocations id = some invocation) (error : PyError)
    (hquiet : world.quiet id = true)
    (hsaved : Saved world.database { invocation.mapping with state := .reported .failed }
      database) :
    (world.turned id ⟨database, [], .running ((invocation.withMapping
      { invocation.mapping with state := .reported .failed }).goto
        (.reporting error))⟩).Accountable := by
  have hattends := haccountable.invocations id invocation hinvocation
  have hholds : world.Holds id (invocation.withMapping
      { invocation.mapping with state := .reported .failed }).toDelegation :=
    { named := hattends.holds.named
      request := hattends.holds.request
      identified := hattends.holds.identified
      runId := hattends.holds.runId
      linked := hattends.holds.linked
      quiet := fun _ => hquiet }
  exact haccountable.running hinvocation hsaved.runs (Or.inr hsaved) (Or.inl silent_nil) hholds
    (fun _ => Or.inr ⟨error, rfl⟩) (fun _ => Or.inr ⟨error, rfl⟩) (fun _ => Or.inr hsaved) trivial

/-- A refused write is no timeout. -/
theorem not_timeout_of_written {accepted : Bool} {mapping : DelegatedTask} {error : PyError}
    (hwritten : written accepted (database.saveDelegatedTask mapping) = .error error) :
    error.type ≠ .timeoutError := by
  cases accepted with
  | false =>
      cases hwritten
      nofun
  | true =>
      change database.saveDelegatedTask mapping = .error error at hwritten
      unfold Database.saveDelegatedTask at hwritten
      split at hwritten
      · cases hwritten
      · split at hwritten
        · cases hwritten
        · cases hwritten
          nofun

theorem stands_opening (client : Bool) :
    world.Stands id (invocation.goto (if client then .sending else .discovering)) := by
  cases client <;> trivial

theorem Accountable.advance (haccountable : world.Accountable)
    (hinvocation : world.invocations id = some invocation) {settings : ClientSettings}
    {accepted : Bool} {turn : Turn}
    (hmarks : marksQuietly world (.client id (.advance accepted)) = true)
    (hadvance : invocation.advance settings world.database accepted = some turn) :
    (world.turned id turn).Accountable := by
  have hattends := haccountable.invocations id invocation hinvocation
  have hstands := hattends.stands
  have hcarries := hattends.carries
  have hrecorded := fun hsaved => hattends.recorded (Or.inl hsaved)
  unfold Stands at hstands
  unfold Invocation.advance at hadvance
  -- One case for each point at which the client's own code goes on.
  cases hpoint : invocation.point with
  | attempting =>
      simp only [hpoint] at hadvance hcarries
      have hstarted : Carries world id invocation (invocation.withMapping
          { invocation.mapping with attempts := invocation.mapping.attempts + 1 }) :=
        (hcarries nofun).congr rfl rfl rfl rfl rfl rfl
      split at hadvance
      · rename_i error hwritten
        cases hadvance
        exact haccountable.escalate hinvocation hstarted fun htype =>
          (not_timeout_of_written hwritten htype).elim
      · rename_i database hwritten
        cases hadvance
        have hsaved := saved_of_save (write_of_written hwritten)
        refine haccountable.goto hinvocation hstarted hsaved.runs (Or.inr hsaved) silent_nil
          (fun _ => Or.inr hsaved) (stands_opening _)
  | discovered | noting | retrying =>
      simp only [hpoint] at hadvance hcarries hrecorded
      have hrow := hrecorded rfl
      split at hadvance
      · cases hadvance
        first
        | exact haccountable.fail hinvocation (hcarries nofun) hrow _ _ _
        | exact haccountable.escalate hinvocation (hcarries nofun) fun _ => hrow
      · rename_i database hemit
        cases hadvance
        obtain ⟨hruns, hrows⟩ := emit_rows hemit
        exact haccountable.pass hinvocation (hcarries nofun) hrow hruns hrows trivial
  | announcing task resume =>
      simp only [hpoint] at hadvance hcarries hrecorded hstands
      have hrow := hrecorded rfl
      split at hadvance
      · cases hadvance
        exact haccountable.fail hinvocation (hcarries nofun) hrow _ _ _
      · rename_i database hemit
        cases hadvance
        obtain ⟨hruns, hrows⟩ := emit_rows hemit
        cases resume with
        | stream | continuation =>
            exact haccountable.pass hinvocation (hcarries nofun) hrow hruns hrows trivial
        | poll => exact haccountable.pass hinvocation (hcarries nofun) hrow hruns hrows hstands
  | sending =>
      simp only [hpoint] at hadvance hcarries hrecorded
      have hrow := hrecorded rfl
      cases htask : invocation.mapping.taskId with
      | none =>
          simp only [htask] at hadvance
          cases hadvance
          -- Nothing is settled before there is a task.
          have hunsettled : invocation.mapping.state.settled = false := by
            cases hstate : invocation.mapping.state.settled with
            | false => rfl
            | true => exact ((hcarries nofun).settled hstate htask).elim
          refine haccountable.running hinvocation rfl (Or.inl rfl)
            (Or.inr ⟨rfl, htask, hrow, ?_, hunsettled⟩) (hcarries nofun).holds
            ((hcarries nofun).mute rfl) (fun hstate => Or.inl ((hcarries nofun).settled hstate))
            (fun _ => Or.inl hrow) trivial
          rw [hpoint]
          nofun
      | some taskId =>
          simp only [htask] at hadvance
          cases hadvance
          exact haccountable.pass hinvocation (hcarries nofun) hrow rfl rfl trivial
  | updating task resume =>
      simp only [hpoint] at hadvance hcarries hrecorded hstands
      cases hadvance
      exact haccountable.update hinvocation (hcarries nofun) (hrecorded rfl) hstands _ _ _
  | examining task =>
      simp only [hpoint] at hadvance hcarries hrecorded hstands
      cases hadvance
      exact haccountable.examine hinvocation (hcarries nofun) (hrecorded rfl) hstands.2 _
  | canceling phase ending =>
      simp only [hpoint] at hadvance hcarries
      cases phase with
      | done =>
          cases ending with
          | interrupted =>
              cases hadvance
              exact haccountable.raised hinvocation rfl rfl _ (Or.inl rfl)
          | failed error =>
              cases hadvance
              exact haccountable.goto hinvocation (hcarries nofun) rfl (Or.inl rfl) silent_nil
                nofun trivial
      | broken =>
          cases hadvance
          exact haccountable.raised hinvocation rfl rfl _ (Or.inl rfl)
      | recovering | canceling | fetching | saving | announcing | failing => cases hadvance
  | marking error =>
      simp only [hpoint] at hadvance hcarries
      split at hadvance
      · rename_i hpending
        split at hadvance
        · cases hadvance
          exact haccountable.raised hinvocation rfl rfl _ (Or.inl rfl)
        · rename_i database hwritten
          cases hadvance
          -- The only point where the condition on the step is needed.
          have hquiet : world.quiet id = true := by
            cases accepted with
            | false => cases hwritten
            | true => simpa [marksQuietly, hinvocation, hpoint, hpending] using hmarks
          exact haccountable.mark hinvocation error hquiet
            (saved_of_save (write_of_written hwritten))
      · cases hadvance
        exact haccountable.goto hinvocation (hcarries nofun) rfl (Or.inl rfl) silent_nil
          nofun trivial
  | reporting error =>
      simp only [hpoint] at hadvance
      split at hadvance
      · cases hadvance
        exact haccountable.raised hinvocation rfl rfl _ (Or.inl rfl)
      · rename_i database hemit
        cases hadvance
        obtain ⟨hruns, hrows⟩ := emit_rows hemit
        exact haccountable.raised hinvocation hruns hrows _ (Or.inl rfl)
  -- Here the client waits for an answer.
  | discovering | streaming | fetching | asking | continuing | sleeping | backoff =>
      simp only [hpoint] at hadvance
      cases hadvance

/-- A statement of the cancellation an invocation waits for. -/
theorem Accountable.cancelStep (haccountable : world.Accountable)
    (hinvocation : world.invocations id = some invocation) {phase : CancelPhase} {ending : Ending}
    (hpoint : invocation.point = .canceling phase ending) {event : ClientEvent} {turn : CancelTurn}
    (hanswers : world.answers id event = true)
    (hstep : cancelStep world.database invocation.toDelegation phase event = some turn) :
    (world.turned id ⟨turn.database, turn.posted, .running { invocation with
      toDelegation := turn.delegation
      point := .canceling turn.phase ending }⟩).Accountable := by
  have hattends := haccountable.invocations id invocation hinvocation
  have hrow : world.Recorded id := hattends.recorded (Or.inl (by rw [hpoint]; rfl))
  have hcarries := hattends.carries (by rw [hpoint]; nofun)
  have hknows := hattends.stands
  simp only [Stands, hpoint] at hknows
  have hkept := cancelStep_kept haccountable hattends.holds hknows hanswers hstep
  refine haccountable.running hinvocation hkept.runs (hkept.rows.imp_right And.left)
    (Or.inl hkept.silent) hkept.holds ?_ ?_ (fun _ => Or.inl hrow) hkept.knows
  · rintro (htask | ⟨error, hreporting⟩)
    · exact Or.inl (hkept.task htask)
    · rw [hpoint] at hreporting
      cases hreporting
  · exact fun hsettled => Or.inl (hkept.settled hcarries.settled hsettled)

theorem silent_continuation (invocation : Invocation) (task : AgentTask) (response : Json)
    (actionId : String) :
    Silent [.message invocation.spec (invocation.continuation task response actionId)] := by
  intro packet hmem other
  rw [List.mem_singleton] at hmem
  subst hmem
  simp [opens, Invocation.continuation]

theorem saved_of_awaiting {point : Point} (hawaiting : Invocation.awaiting point = true) :
    point.saved = true := by
  cases point <;> first | rfl | cases hawaiting

theorem speaks_of_awaiting {point : Point} (hawaiting : Invocation.awaiting point = true)
    (error : PyError) : point ≠ .reporting error := by
  rintro rfl
  cases hawaiting

/-- Every statement of an invocation keeps the account. -/
theorem Accountable.turn (haccountable : world.Accountable)
    (hinvocation : world.invocations id = some invocation) {settings : ClientSettings}
    {event : ClientEvent} {turn : Turn} (hanswers : world.answers id event = true)
    (hmarks : marksQuietly world (.client id event) = true)
    (hstep : invocation.step settings world.database event = some turn) :
    (world.turned id turn).Accountable := by
  have hattends := haccountable.invocations id invocation hinvocation
  have hcarries := hattends.carries
  have hrecorded := fun hsaved => hattends.recorded (Or.inl hsaved)
  unfold Invocation.step at hstep
  dsimp only at hstep
  split at hstep
  · rename_i hpoint
    rw [hpoint] at hcarries hrecorded
    cases hstep
    have hopened : Carries world id invocation { invocation with card := true, client := true } :=
      (hcarries nofun).congr rfl rfl rfl rfl rfl rfl
    exact haccountable.pass hinvocation hopened (hrecorded rfl) rfl rfl trivial
  · rename_i hpoint
    rw [hpoint] at hcarries hrecorded
    cases hstep
    have hfetched : Carries world id invocation { invocation with card := true } :=
      (hcarries nofun).congr rfl rfl rfl rfl rfl rfl
    exact haccountable.fail hinvocation hfetched (hrecorded rfl) _ _ _
  · rename_i task hpoint
    rw [hpoint] at hcarries hrecorded
    cases hstep
    exact haccountable.pass hinvocation (hcarries nofun) (hrecorded rfl) rfl rfl hanswers
  · rename_i task hpoint
    rw [hpoint] at hcarries hrecorded
    split at hstep
    · cases hstep
      exact haccountable.fail hinvocation (hcarries nofun) (hrecorded rfl) _ _ _
    · cases hstep
      exact haccountable.pass hinvocation (hcarries nofun) (hrecorded rfl) rfl rfl trivial
  · rename_i hpoint
    rw [hpoint] at hcarries hrecorded
    split at hstep
    · cases hstep
      exact haccountable.fail hinvocation (hcarries nofun) (hrecorded rfl) _ _ _
    · cases hstep
      exact haccountable.pass hinvocation (hcarries nofun) (hrecorded rfl) rfl rfl trivial
  · rename_i task hpoint
    rw [hpoint] at hcarries hrecorded
    cases hstep
    exact haccountable.pass hinvocation (hcarries nofun) (hrecorded rfl) rfl rfl hanswers
  · rename_i task draft response hpoint
    rw [hpoint] at hcarries hrecorded
    split at hstep
    · cases hstep
      exact haccountable.fail hinvocation (hcarries nofun) (hrecorded rfl) _ _ _
    · cases hstep
      exact haccountable.goto hinvocation (hcarries nofun) rfl (Or.inl rfl)
        (silent_continuation invocation task response _) (fun _ => Or.inl (hrecorded rfl)) trivial
  · rename_i task hpoint
    rw [hpoint] at hcarries hrecorded
    cases hstep
    exact haccountable.pass hinvocation (hcarries nofun) (hrecorded rfl) rfl rfl hanswers
  · rename_i hpoint
    rw [hpoint] at hcarries hrecorded
    cases hstep
    exact haccountable.pass hinvocation (hcarries nofun) (hrecorded rfl) rfl rfl trivial
  · rename_i hpoint
    rw [hpoint] at hcarries hrecorded
    cases hstep
    exact haccountable.pass hinvocation (hcarries nofun) (hrecorded rfl) rfl rfl trivial
  · rename_i hpoint
    rw [hpoint] at hcarries hrecorded
    cases hstep
    exact haccountable.pass hinvocation (hcarries nofun) (hrecorded rfl) rfl rfl trivial
  · rename_i phase ending hpoint
    cases hstep
    exact haccountable.raised hinvocation rfl rfl _ (Or.inr ⟨phase, ending, hpoint, rfl⟩)
  · rename_i phase ending hpoint _
    split at hstep
    · rename_i cancelTurn hcancel
      cases hstep
      exact haccountable.cancelStep hinvocation hpoint hanswers hcancel
    · split at hstep
      · exact haccountable.advance hinvocation hmarks hstep
      · cases hstep
  · split at hstep
    · rename_i hawaiting
      have hrow := hrecorded (saved_of_awaiting hawaiting)
      have hheld := hcarries (speaks_of_awaiting hawaiting)
      split at hstep
      · cases hstep
        exact haccountable.escalate hinvocation hheld fun _ => hrow
      · cases hstep
        exact haccountable.fail hinvocation hheld hrow _ _ _
    · cases hstep
  · split at hstep
    · rename_i hawaiting
      cases hstep
      exact haccountable.startCancel hinvocation (hcarries (speaks_of_awaiting hawaiting))
        (hrecorded (saved_of_awaiting hawaiting)) _
    · cases hstep
  · exact haccountable.advance hinvocation hmarks hstep
  · cases hstep

end World

end Aidlc
