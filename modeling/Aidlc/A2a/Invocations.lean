import Aidlc.A2a.Accounting

/-! # Invocations keep the account

Every statement of an invocation keeps what the hub accounts for, with one
exception: the handler that marks a pending row as failed does not look for
the message of the invocation, so it has to find the task quiet.
-/

namespace Aidlc

open Foundation

namespace World

variable {world : World} {id : InvocationId} {invocation current : Invocation}
  {database : Database} {posted : List Packet}

/-- The state an invocation leads to. -/
def turned (world : World) (id : InvocationId) (turn : Turn) : World :=
  (world.after turn.database turn.posted).proceed id turn.progress

/-- The packets make no agent reserve the message of an invocation. -/
def Silent (posted : List Packet) : Prop :=
  ∀ packet ∈ posted, ∀ other, opens other packet = false

theorem follows_after (world next : World) (posted : List Packet)
    (hservers : next.servers = world.servers) (hreplies : next.replies = world.replies)
    (hpackets : next.packets = world.packets ++ posted) :
    Follows world next fun other => ∃ packet ∈ posted, opens other packet = true where
  servers agent := by
    rw [hservers]
    exact .refl _
  reservations other row hrow := by
    simp only [reservation, hservers] at hrow
    exact Or.inl hrow
  packets packet hmem other hopens := by
    rw [hpackets] at hmem
    exact (List.mem_append.mp hmem).imp_right fun hnew => ⟨packet, hnew, hopens⟩
  replies := by rw [hreplies]; exact List.Subset.refl _

theorem not_mute (hspeaks : ∀ error, invocation.point ≠ .reporting error)
    (htaskId : invocation.mapping.taskId = none) : ¬ invocation.Mute := by
  rintro (hknown | ⟨error, hpoint⟩)
  · exact hknown htaskId
  · exact hspeaks error hpoint

/-- An idle invocation is speechless. -/
theorem speechless_idle (hidle : world.invocations id = none) (hdetached : world.detached id = none) :
    world.Speechless id := by
  constructor
  · intro found hfound
    rw [hidle] at hfound
    cases hfound
  · intro left phase hleft
    rw [hdetached] at hleft
    cases hleft

theorem speechless_update {next : World} (hinvocation : world.invocations id = some invocation)
    (hinvocations : next.invocations = Function.update world.invocations id (some current))
    (hdetached : next.detached = world.detached) (hmute : invocation.Mute → current.Mute)
    (other : InvocationId) (hspeechless : world.Speechless other) : next.Speechless other := by
  obtain ⟨hmutes, hleft⟩ := hspeechless
  refine ⟨?_, by rw [hdetached]; exact hleft⟩
  intro found hfound
  rw [hinvocations] at hfound
  by_cases hsame : other = id
  · subst hsame
    rw [Function.update_self, Option.some.injEq] at hfound
    exact hfound ▸ hmute (hmutes invocation hinvocation)
  · rw [Function.update_of_ne hsame] at hfound
    exact hmutes found hfound

/-- A statement after which the invocation goes on. -/
theorem Accountable.running (haccountable : world.Accountable)
    (hinvocation : world.invocations id = some invocation)
    (hruns : database.runs = world.database.runs)
    (hrows : database.delegatedTasks = world.database.delegatedTasks ∨
      Saved world.database current.mapping database)
    (hposted : Silent posted ∨ (posted = [.message current.spec current.request] ∧
      invocation.mapping.taskId = none ∧ world.Recorded id ∧
      (∀ error, invocation.point ≠ .reporting error) ∧ current.mapping.state.settled = false))
    (hholds : world.Holds id current.toDelegation) (hmute : invocation.Mute → current.Mute)
    (hsettled : current.mapping.state.settled = true → current.Mute)
    (hrecorded : current.point.saved = true ∨ current.mapping.state ≠ .pending →
      world.Recorded id ∨ Saved world.database current.mapping database)
    (hstands : world.Stands id current) :
    (world.turned id ⟨database, posted, .running current⟩).Accountable := by
  -- What the turn leaves alone, field by field, and then the account of the rest.
  have hattends := haccountable.invocations id invocation hinvocation
  generalize hnext : world.turned id ⟨database, posted, .running current⟩ = next
  have hinvocations : next.invocations = Function.update world.invocations id (some current) := by
    rw [← hnext]
    rfl
  have hdetached : next.detached = world.detached := by
    rw [← hnext]
    rfl
  have hphases : next.phases = world.phases := by
    rw [← hnext]
    rfl
  have hstarted : next.started = world.started := by
    rw [← hnext]
    rfl
  have hdatabase : next.database = database := by
    rw [← hnext]
    rfl
  have hpackets : next.packets = world.packets ++ posted := by
    rw [← hnext]
    rfl
  have hafter : Follows world next fun other => ∃ packet ∈ posted, opens other packet = true :=
    follows_after world next posted (by rw [← hnext]; rfl) (by rw [← hnext]; rfl) hpackets
  have hnextHolds : next.Holds id current.toDelegation := by
    refine hafter.holds ?_ hholds
    rintro hstate ⟨packet, hmem, hopens⟩
    rcases hposted with hsilent | ⟨-, -, -, -, hunsettled⟩
    · rw [hsilent packet hmem] at hopens
      cases hopens
    · rw [hunsettled] at hstate
      cases hstate
  have hspeechless := speechless_update hinvocation hinvocations hdetached hmute
  have hspeechlessNext (hmuted : current.Mute) : next.Speechless id := by
    refine ⟨?_, ?_⟩
    · intro found hfound
      rw [hinvocations, Function.update_self, Option.some.injEq] at hfound
      exact hfound ▸ hmuted
    · intro left phase hleft
      rw [hdetached, hattends.attached] at hleft
      cases hleft
  -- The step reaches the agents through the packets it posts.
  have hhub : HubStep world next id := by
    refine ⟨by rw [← hnext]; rfl, by rw [← hnext]; rfl, hstarted, ?_, ?_, ?_, hspeechless, ?_⟩
    · intro runId hrun
      rw [hdatabase, Database.hasRun_congr hruns, hrun]
    · rw [hdatabase]
      refine hrows.imp_right fun hsaved => ⟨current.mapping, hnextHolds.identified,
        hnextHolds.runId, hattends.started, hsaved, ?_⟩
      constructor
      · rw [hnextHolds.identified]
        exact hnextHolds.linked
      · rw [hnextHolds.identified]
        exact fun htaskId => hspeechlessNext (Or.inl htaskId)
      · rw [hnextHolds.identified]
        exact fun hstate => ⟨hnextHolds.quiet hstate, hspeechlessNext (hsettled hstate)⟩
    · intro packet hmem
      rw [hpackets] at hmem
      rcases List.mem_append.mp hmem with hold | hnew
      · exact Or.inl hold
      · rcases hposted with hsilent | ⟨rfl, htaskId, hrow, hspeaks, -⟩
        · exact Or.inr (Or.inl (hsilent packet hnew))
        · rw [List.mem_singleton] at hnew
          refine Or.inr (Or.inr ⟨_, _, hnew, hholds.request, hholds.named, ?_, hrow⟩)
          exact fun hsilent => not_mute hspeaks htaskId (hsilent.1 invocation hinvocation)
    · intro other hleft
      rw [hdetached] at hleft
      have hrecordedBefore : world.Recorded other := by
        by_contra hunrecorded
        exact hleft (haccountable.unrecorded other hunrecorded).2
      obtain ⟨row, hrow, hid⟩ := hrecordedBefore
      rw [Recorded, hdatabase]
      rcases hrows with hsame | hsaved
      · exact ⟨row, hsame ▸ hrow, hid⟩
      · obtain ⟨later, hlater, hlaterId⟩ := hsaved.kept row hrow
        exact ⟨later, hlater, hlaterId.trans hid⟩
  have hsome (other : InvocationId) :
      (next.invocations other).isSome = (world.invocations other).isSome := by
    rw [hinvocations]
    by_cases hsame : other = id
    · subst hsame
      rw [Function.update_self, hinvocation]
      rfl
    · rw [Function.update_of_ne hsame]
  refine haccountable.hub hhub (fun other hother => hsome other ▸ hother)
    (fun _ hphase => Or.inl (hphases ▸ hphase)) ?_ ?_ ?_
  · intro other found hfound
    rw [hinvocations] at hfound
    by_cases hsame : other = id
    · subst hsame
      rw [Function.update_self, Option.some.injEq] at hfound
      subst hfound
      refine ⟨hstarted ▸ hattends.started, hdetached ▸ hattends.attached, hnextHolds, hsettled, ?_,
        hafter.stands hstands, hphases ▸ hattends.executing⟩
      intro hneeded
      rcases hrecorded hneeded with hold | hsaved
      · exact hhub.recorded hold
      · obtain ⟨row, hrow, hid⟩ := hsaved.present
        exact ⟨row, hdatabase ▸ hrow, hid.trans hholds.identified⟩
    · rw [Function.update_of_ne hsame] at hfound
      have hother := haccountable.invocations other found hfound
      refine ⟨hstarted ▸ hother.started, hdetached ▸ hother.attached, ?_, hother.settled,
        fun hneeded => hhub.recorded (hother.recorded hneeded), hafter.stands hother.stands,
        hphases ▸ hother.executing⟩
      exact hhub.follows.holds (fun _ hopened => hsame hopened.1) hother.holds
  -- A detached cancel belongs to another invocation, since this one still runs.
  · intro other left phase hleft
    rw [hdetached] at hleft
    have hother := haccountable.detached other left phase hleft
    have hne : other ≠ id := by
      rintro rfl
      rw [hattends.attached] at hleft
      cases hleft
    refine ⟨hstarted ▸ hother.started, ?_, hhub.recorded hother.recorded,
      hhub.follows.holds (fun _ hopened => hne hopened.1) hother.holds, hother.knows⟩
    rw [hinvocations, Function.update_of_ne hne, hother.ended]
  · intro runId
    rw [hphases]
    exact hhub.follow (fun other _ _ => hsome other) (haccountable.phases runId)

/-- The run of an invocation that ended goes on, or stops delegating to its agent. -/
theorem HubStep.follow_ended {next : World} (hhub : HubStep world next id)
    (haccountable : world.Accountable) (hinvocation : world.invocations id = some invocation)
    {failed last : List (String × StageName)} (hfailed : world.phases id.runId = .executing failed)
    (hidle : next.invocations id = none)
    (hkept : ∀ other, other ≠ id → next.invocations other = world.invocations other)
    (hlast : (last = failed ∧ next.Settled id) ∨ last = (id.agent, id.stage) :: failed) :
    next.Follow id.runId (.executing last) := by
  have hfollow := haccountable.phases id.runId
  rw [hfailed] at hfollow
  intro other hmem hother
  rw [hhub.started] at hmem
  by_cases hid : other = id
  · subst hid
    rw [hidle]
    rcases hlast with ⟨-, hsettled⟩ | rfl
    · exact Or.inr hsettled
    · exact Or.inl List.mem_cons_self
  · have hbefore := hfollow other hmem hother
    rw [hkept other hid]
    cases hfound : world.invocations other with
    | some found =>
        simp only [hfound] at hbefore ⊢
        rcases hlast with ⟨rfl, -⟩ | rfl
        · exact hbefore
        · intro hin
          rcases List.mem_cons.mp hin with hkey | hold
          · rw [Prod.mk.injEq] at hkey
            exact hid (haccountable.exclusive other id found invocation hfound hinvocation
              hother hkey.1 hkey.2)
          · exact hbefore hold
    | none =>
        simp only [hfound] at hbefore ⊢
        rcases hlast with ⟨rfl, -⟩ | rfl
        · exact hbefore.imp_right hhub.settled
        · exact hbefore.imp (List.mem_cons_of_mem _) hhub.settled

/-- A statement with which the invocation ends, and what it leaves behind. -/
theorem Accountable.ended {next : World} (haccountable : world.Accountable)
    (hinvocation : world.invocations id = some invocation)
    (hservers : next.servers = world.servers) (hreplies : next.replies = world.replies)
    (hstarted : next.started = world.started) (hruns : next.database.runs = world.database.runs)
    (hrows : next.database.delegatedTasks = world.database.delegatedTasks)
    (hpackets : next.packets = world.packets)
    (hinvocations : next.invocations = Function.update world.invocations id none)
    (hdetached : next.detached = world.detached ∨ ∃ phase ending,
      invocation.point = .canceling phase ending ∧
      next.detached = Function.update world.detached id (some (invocation.toDelegation, phase)))
    (hphases : (next.phases = world.phases ∧ world.quiet id = true ∧
        next.detached = world.detached) ∨
      ∃ failed, world.phases id.runId = .executing failed ∧
        next.phases = Function.update world.phases id.runId
          (.executing ((id.agent, id.stage) :: failed))) : next.Accountable := by
  have hattends := haccountable.invocations id invocation hinvocation
  have hafter : Follows world next fun _ => False := by
    simpa using follows_after world next [] hservers hreplies (by simp [hpackets])
  have hidle : next.invocations id = none := by rw [hinvocations, Function.update_self]
  have hkept {other : InvocationId} (hne : other ≠ id) :
      next.invocations other = world.invocations other ∧
        next.detached other = world.detached other := by
    refine ⟨by rw [hinvocations, Function.update_of_ne hne], ?_⟩
    rcases hdetached with hsame | ⟨phase, ending, -, hleft⟩
    · rw [hsame]
    · rw [hleft, Function.update_of_ne hne]
  have hspeechless (other : InvocationId) (hbefore : world.Speechless other) :
      next.Speechless other := by
    by_cases hsame : other = id
    · subst hsame
      refine ⟨by simp [hidle], ?_⟩
      intro left phase hleft
      rcases hdetached with hold | ⟨reached, ending, hpoint, hnew⟩
      · rw [hold, hattends.attached] at hleft
        cases hleft
      · rw [hnew, Function.update_self, Option.some.injEq, Prod.mk.injEq] at hleft
        obtain ⟨rfl, rfl⟩ := hleft
        -- an invocation that is being canceled is not reporting
        rcases hbefore.1 invocation hinvocation with hknown | ⟨error, hreporting⟩
        · exact hknown
        · rw [hpoint] at hreporting
          cases hreporting
    · rw [Speechless, (hkept hsame).1, (hkept hsame).2]
      exact hbefore
  have hrecorded {other : InvocationId} (hbefore : world.Recorded other) : next.Recorded other := by
    obtain ⟨row, hrow, hid⟩ := hbefore
    exact ⟨row, hrows ▸ hrow, hid⟩
  have hhub : HubStep world next id := by
    refine ⟨hservers, hreplies, hstarted, ?_, Or.inl hrows,
      fun packet hmem => Or.inl (hpackets ▸ hmem), hspeechless, ?_⟩
    · intro runId hrun
      rw [Database.hasRun_congr hruns, hrun]
    intro other hleft
    by_cases hsame : other = id
    · subst hsame
      rcases hdetached with hold | ⟨phase, ending, hpoint, -⟩
      · rw [hold, hattends.attached] at hleft
        cases hleft rfl
      · exact hrecorded (hattends.recorded (Or.inl (by rw [hpoint]; rfl)))
    · rw [(hkept hsame).2] at hleft
      by_contra hunrecorded
      exact hleft (haccountable.unrecorded other fun hbefore => hunrecorded (hrecorded hbefore)).2
  have hexecuting {other : InvocationId}
      (hbefore : ∃ failed, world.phases other.runId = .executing failed) :
      ∃ failed, next.phases other.runId = .executing failed := by
    rcases hphases with ⟨hsame, -, -⟩ | ⟨failed, hfailed, hnew⟩
    · rw [hsame]
      exact hbefore
    · rw [hnew]
      by_cases hrun : other.runId = id.runId
      · rw [hrun, Function.update_self]
        exact ⟨_, rfl⟩
      · rw [Function.update_of_ne hrun]
        exact hbefore
  refine haccountable.hub hhub ?_ ?_ ?_ ?_ ?_
  · intro other hsome
    by_cases hsame : other = id
    · subst hsame
      rw [hidle] at hsome
      cases hsome
    · exact (hkept hsame).1 ▸ hsome
  · intro runId hphase
    left
    rcases hphases with ⟨hsame, -, -⟩ | ⟨failed, hfailed, hnew⟩
    · exact hsame ▸ hphase
    · by_cases hrun : runId = id.runId
      · rw [hrun, hfailed]
        nofun
      · rw [hnew, Function.update_of_ne hrun] at hphase
        exact hphase
  · intro other found hfound
    have hne : other ≠ id := by
      rintro rfl
      rw [hidle] at hfound
      cases hfound
    rw [(hkept hne).1] at hfound
    have hother := haccountable.invocations other found hfound
    exact ⟨hstarted ▸ hother.started, (hkept hne).2 ▸ hother.attached,
      hafter.holds (fun _ => not_false) hother.holds, hother.settled,
      fun hneeded => hrecorded (hother.recorded hneeded), hafter.stands hother.stands,
      hexecuting hother.executing⟩
  · intro other left phase hleft
    by_cases hsame : other = id
    · subst hsame
      rcases hdetached with hold | ⟨reached, ending, hpoint, hnew⟩
      · rw [hold, hattends.attached] at hleft
        cases hleft
      · rw [hnew, Function.update_self, Option.some.injEq, Prod.mk.injEq] at hleft
        obtain ⟨rfl, rfl⟩ := hleft
        have hstands := hattends.stands
        simp only [Stands, hpoint] at hstands
        exact ⟨hstarted ▸ hattends.started, hidle,
          hrecorded (hattends.recorded (Or.inl (by rw [hpoint]; rfl))),
          hafter.holds (fun _ => not_false) hattends.holds, hstands⟩
    · rw [(hkept hsame).2] at hleft
      have hother := haccountable.detached other left phase hleft
      exact ⟨hstarted ▸ hother.started, (hkept hsame).1 ▸ hother.ended, hrecorded hother.recorded,
        hafter.holds (fun _ => not_false) hother.holds, hother.knows⟩
  · intro runId
    have hfollow := haccountable.phases runId
    have hrun {other : InvocationId} (hne : other ≠ id) :
        (next.invocations other).isSome = (world.invocations other).isSome := by
      rw [(hkept hne).1]
    by_cases hsame : runId = id.runId
    · subst hsame
      have hothers (other : InvocationId) (hne : other ≠ id) := (hkept hne).1
      rcases hphases with ⟨hphase, hquiet, hdetachedSame⟩ | ⟨failed, hfailed, hphase⟩
      · obtain ⟨failed, hfailed⟩ := hattends.executing
        rw [hphase, hfailed]
        refine hhub.follow_ended haccountable hinvocation hfailed hidle hothers (Or.inl ⟨rfl, ?_⟩)
        refine ⟨hafter.quiet not_false hquiet, speechless_idle hidle ?_⟩
        rw [hdetachedSame, hattends.attached]
      · rw [hphase, Function.update_self]
        exact hhub.follow_ended haccountable hinvocation hfailed hidle hothers (Or.inr rfl)
    · have hphase : next.phases runId = world.phases runId := by
        rcases hphases with ⟨hold, -, -⟩ | ⟨failed, -, hnew⟩
        · rw [hold]
        · rw [hnew, Function.update_of_ne hsame]
      rw [hphase]
      refine hhub.follow (fun other _ hother => hrun ?_) hfollow
      rintro rfl
      exact hsame hother.symm

/-! ## Cancellations -/

/-- What a statement of a cancellation does. -/
structure CancelKept (world : World) (id : InvocationId) (left : Delegation)
    (turn : CancelTurn) : Prop where
  runs : turn.database.runs = world.database.runs
  rows : turn.database.delegatedTasks = world.database.delegatedTasks ∨
    (Saved world.database turn.delegation.mapping turn.database ∧
      turn.delegation.mapping.taskId ≠ none)
  silent : Silent turn.posted
  holds : world.Holds id turn.delegation
  knows : turn.phase.Knows turn.delegation
  task : left.mapping.taskId ≠ none → turn.delegation.mapping.taskId ≠ none
  reported : turn.delegation.mapping.state ≠ .pending →
    left.mapping.state ≠ .pending ∨ left.mapping.taskId ≠ none
  settled : (left.mapping.state.settled = true → left.mapping.taskId ≠ none) →
    turn.delegation.mapping.state.settled = true → turn.delegation.mapping.taskId ≠ none

theorem silent_nil : Silent [] := by
  intro packet hmem
  cases hmem

theorem silent_cancel (spec : AgentSpec) (taskId : TaskId) : Silent [.cancel spec taskId] := by
  intro packet hmem other
  rw [List.mem_singleton] at hmem
  subst hmem
  rfl

/-- A delegation may take over a reported task id. -/
theorem Holds.receive {left : Delegation} {task : AgentTask} (hholds : world.Holds id left)
    (hreported : world.reported id task = true) :
    world.Holds id { left with mapping := { left.mapping with taskId := some task.id } } where
  named := hholds.named
  request := hholds.request
  identified := hholds.identified
  runId := hholds.runId
  linked taskId htaskId := by
    cases htaskId
    simp only [World.reported, decide_eq_true_eq] at hreported
    exact hreported.2
  quiet := hholds.quiet

/-- A reported state is settled exactly when it is terminal. -/
theorem settled_reported {state : TaskState} :
    (DelegationState.reported state).settled = true ↔ state ∈ AgentServer.terminal := by
  simp [DelegationState.settled]

/-- A delegation may take over a reported state. -/
theorem Holds.report {left : Delegation} {task : AgentTask} (haccountable : world.Accountable)
    (hholds : world.Holds id left) (hreported : world.reported id task = true) :
    world.Holds id { left with mapping := { left.mapping with state := .reported task.state } } where
  named := hholds.named
  request := hholds.request
  identified := hholds.identified
  runId := hholds.runId
  linked := hholds.linked
  quiet hsettled := haccountable.quiet_of_reported hreported (settled_reported.mp hsettled)

/-- A statement that changes nothing the delegation holds. -/
theorem CancelKept.same {left : Delegation} {phase : CancelPhase}
    (hholds : world.Holds id left) (hruns : database.runs = world.database.runs)
    (hrows : database.delegatedTasks = world.database.delegatedTasks ∨
      (Saved world.database left.mapping database ∧ left.mapping.taskId ≠ none))
    (hsilent : Silent posted) (hknows : phase.Knows left) :
    CancelKept world id left ⟨database, posted, left, phase⟩ :=
  ⟨hruns, hrows, hsilent, hholds, hknows, fun htask => htask, fun hstate => Or.inl hstate,
    fun hsettled => hsettled⟩

/-- A detached cancel keeps the delegation accounted for. -/
theorem cancelStep_kept (haccountable : world.Accountable) {left : Delegation}
    {phase : CancelPhase} {event : ClientEvent} {turn : CancelTurn}
    (hholds : world.Holds id left) (hknows : phase.Knows left)
    (hanswers : world.answers id event = true)
    (hstep : cancelStep world.database left phase event = some turn) :
    CancelKept world id left turn := by
  unfold cancelStep at hstep
  dsimp only at hstep
  split at hstep
  · -- the reservation of the message is recovered
    cases hstep
    refine ⟨rfl, Or.inl rfl, silent_nil, hholds.receive hanswers, trivial, ?_,
      fun hstate => Or.inl hstate, ?_⟩
    · intro _ hnone
      cases hnone
    · intro _ _ hnone
      cases hnone
  · split at hstep
    · cases hstep
      exact .same hholds rfl (Or.inl rfl) silent_nil trivial
    · rename_i taskId htaskId
      cases hstep
      refine .same hholds rfl (Or.inl rfl) (silent_cancel _ _) ?_
      intro hnone
      rw [hnone] at htaskId
      cases htaskId
  · cases hstep
    exact .same hholds rfl (Or.inl rfl) silent_nil hknows
  · cases hstep
    exact ⟨rfl, Or.inl rfl, silent_nil, hholds.report haccountable hanswers, hknows,
      fun htask => htask, fun _ => Or.inr hknows, fun _ _ => hknows⟩
  · split at hstep
    · rename_i next hwritten
      cases hstep
      have hsaved := saved_of_save (write_of_written hwritten)
      exact .same hholds hsaved.runs (Or.inr ⟨hsaved, hknows⟩) silent_nil hknows
    · cases hstep
      exact .same hholds rfl (Or.inl rfl) silent_nil trivial
  · split at hstep
    · rename_i next hwritten
      cases hstep
      obtain ⟨hruns, hrows⟩ := appendEvent_rows (write_of_written hwritten)
      exact .same hholds hruns (Or.inl hrows) silent_nil trivial
    · cases hstep
      exact .same hholds rfl (Or.inl rfl) silent_nil trivial
  · split at hstep
    · rename_i next hwritten
      cases hstep
      obtain ⟨hruns, hrows⟩ := appendEvent_rows (write_of_written hwritten)
      exact .same hholds hruns (Or.inl hrows) silent_nil trivial
    · cases hstep
      exact .same hholds rfl (Or.inl rfl) silent_nil trivial
  · cases hstep
    exact .same hholds rfl (Or.inl rfl) silent_nil trivial
  · cases hstep
    exact .same hholds rfl (Or.inl rfl) silent_nil trivial
  · cases hstep
    exact .same hholds rfl (Or.inl rfl) silent_nil trivial
  · cases hstep

/-- A statement of a cancellation that goes on without its invocation. -/
theorem Accountable.remaining (haccountable : world.Accountable) {left : Delegation}
    {phase : CancelPhase} {event : ClientEvent} {turn : CancelTurn}
    (hleft : world.detached id = some (left, phase)) (hanswers : world.answers id event = true)
    (hstep : cancelStep world.database left phase event = some turn) :
    ({ world.after turn.database turn.posted with
      detached := Function.update world.detached id (some (turn.delegation, turn.phase)) } :
      World).Accountable := by
  have hremains := haccountable.detached id left phase hleft
  -- The cancel itself keeps its delegation in order; the rest is what it leaves alone.
  have hkept := cancelStep_kept haccountable hremains.holds hremains.knows hanswers hstep
  generalize hnext : ({ world.after turn.database turn.posted with
    detached := Function.update world.detached id (some (turn.delegation, turn.phase)) } :
    World) = next
  have hinvocations : next.invocations = world.invocations := by
    rw [← hnext]
    rfl
  have hdetached : next.detached =
      Function.update world.detached id (some (turn.delegation, turn.phase)) := by rw [← hnext]
  have hphases : next.phases = world.phases := by
    rw [← hnext]
    rfl
  have hstarted : next.started = world.started := by
    rw [← hnext]
    rfl
  have hdatabase : next.database = turn.database := by
    rw [← hnext]
    rfl
  have hpackets : next.packets = world.packets ++ turn.posted := by
    rw [← hnext]
    rfl
  have hafter : Follows world next fun other =>
      ∃ packet ∈ turn.posted, opens other packet = true :=
    follows_after world next turn.posted (by rw [← hnext]; rfl) (by rw [← hnext]; rfl) hpackets
  have hsilent (other : InvocationId) :
      ¬ ∃ packet ∈ turn.posted, opens other packet = true := by
    rintro ⟨packet, hmem, hopens⟩
    rw [hkept.silent packet hmem other] at hopens
    cases hopens
  have hspeechlessNext (htask : turn.delegation.mapping.taskId ≠ none) : next.Speechless id := by
    constructor
    · intro found hfound
      rw [hinvocations, hremains.ended] at hfound
      cases hfound
    · intro other reached hother
      rw [hdetached, Function.update_self, Option.some.injEq, Prod.mk.injEq] at hother
      exact hother.1 ▸ htask
  have hspeechless (other : InvocationId) (hbefore : world.Speechless other) :
      next.Speechless other := by
    by_cases hsame : other = id
    · subst hsame
      exact hspeechlessNext (hkept.task (hbefore.2 left phase hleft))
    · refine ⟨hinvocations ▸ hbefore.1, ?_⟩
      rw [hdetached, Function.update_of_ne hsame]
      exact hbefore.2
  have hholds := hafter.holds (fun _ => hsilent id) hkept.holds
  have hrecorded : ∀ other, world.Recorded other → next.Recorded other := by
    intro other hbefore
    obtain ⟨row, hrow, hid⟩ := hbefore
    rw [Recorded, hdatabase]
    rcases hkept.rows with hsame | ⟨hsaved, -⟩
    · exact ⟨row, hsame ▸ hrow, hid⟩
    · obtain ⟨later, hlater, hlaterId⟩ := hsaved.kept row hrow
      exact ⟨later, hlater, hlaterId.trans hid⟩
  -- A cancel opens nothing at the agents.
  have hhub : HubStep world next id := by
    refine ⟨by rw [← hnext]; rfl, by rw [← hnext]; rfl, hstarted, ?_, ?_, ?_, hspeechless, ?_⟩
    · intro runId hrun
      rw [hdatabase, Database.hasRun_congr hkept.runs, hrun]
    · rw [hdatabase]
      refine hkept.rows.imp_right fun hsaved => ⟨turn.delegation.mapping, hholds.identified,
        hholds.runId, hremains.started, hsaved.1, ?_⟩
      constructor
      · rw [hholds.identified]
        exact hholds.linked
      · rw [hholds.identified]
        exact hspeechlessNext
      · rw [hholds.identified]
        exact fun hstate => ⟨hholds.quiet hstate, hspeechlessNext hsaved.2⟩
    · intro packet hmem
      rw [hpackets] at hmem
      exact (List.mem_append.mp hmem).imp_right fun hnew => Or.inl (hkept.silent packet hnew)
    · intro other hother
      by_cases hsame : other = id
      · subst hsame
        exact hrecorded other hremains.recorded
      · rw [hdetached, Function.update_of_ne hsame] at hother
        by_contra hunrecorded
        exact hother (haccountable.unrecorded other
          fun hbefore => hunrecorded (hrecorded other hbefore)).2
  refine haccountable.hub hhub (by rw [hinvocations]; exact fun _ hsome => hsome)
    (fun _ hphase => Or.inl (hphases ▸ hphase)) ?_ ?_ ?_
  · intro other found hfound
    rw [hinvocations] at hfound
    have hother := haccountable.invocations other found hfound
    have hne : other ≠ id := by
      rintro rfl
      rw [hremains.ended] at hfound
      cases hfound
    refine ⟨hstarted ▸ hother.started, ?_, hafter.holds (fun _ => hsilent other) hother.holds,
      hother.settled, fun hneeded => hrecorded other (hother.recorded hneeded),
      hafter.stands hother.stands, hphases ▸ hother.executing⟩
    rw [hdetached, Function.update_of_ne hne, hother.attached]
  · intro other reached point hother
    by_cases hsame : other = id
    · subst hsame
      rw [hdetached, Function.update_self, Option.some.injEq, Prod.mk.injEq] at hother
      obtain ⟨rfl, rfl⟩ := hother
      exact ⟨hstarted ▸ hremains.started, hinvocations ▸ hremains.ended,
        hrecorded other hremains.recorded, hholds, hkept.knows⟩
    · rw [hdetached, Function.update_of_ne hsame] at hother
      have hbefore := haccountable.detached other reached point hother
      exact ⟨hstarted ▸ hbefore.started, hinvocations ▸ hbefore.ended,
        hrecorded other hbefore.recorded, hafter.holds (fun _ => hsilent other) hbefore.holds,
        hbefore.knows⟩
  · intro runId
    rw [hphases]
    exact hhub.follow (fun other _ _ => by rw [hinvocations]) (haccountable.phases runId)

end World

end Aidlc
