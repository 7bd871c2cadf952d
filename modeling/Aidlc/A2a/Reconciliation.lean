import Aidlc.A2a.Gates
import Aidlc.A2a.Turns

/-! # Retries withhold what still runs

A retry first asks about every row of its run whose state is not final. What
the network, the agents, and the reconciliation do keeps the account, so an
execution that delegates has only quiet tasks behind it.
-/

namespace Aidlc

open Foundation

namespace World

variable {world next : World} {id mover : InvocationId} {runId : RunId}

/-! ## The hub between its invocations -/

/-- A step of the hub that starts no invocation and ends none. -/
structure Bookkeeping (world next : World) (mover : InvocationId) : Prop where
  servers : next.servers = world.servers
  replies : next.replies = world.replies
  started : next.started = world.started
  invocations : next.invocations = world.invocations
  detached : next.detached = world.detached
  known : ∀ runId, world.database.hasRun runId = true → next.database.hasRun runId = true
  rows : next.database.delegatedTasks = world.database.delegatedTasks ∨
    ∃ mapping, mapping.invocationId = mover ∧ mapping.runId = mover.runId ∧ mover ∈ world.started ∧
      Saved world.database mapping next.database ∧ world.Accounts mapping
  packets : ∃ posted, next.packets = world.packets ++ posted ∧ Silent posted

theorem Bookkeeping.follows (hkept : Bookkeeping world next mover) :
    Follows world next fun _ => False := by
  obtain ⟨posted, hpackets, hsilent⟩ := hkept.packets
  have hfollows := follows_after world next posted hkept.servers hkept.replies hpackets
  refine ⟨hfollows.servers, hfollows.reservations, ?_, hfollows.replies⟩
  intro packet hmem other hopens
  rcases hfollows.packets packet hmem other hopens with hold | ⟨sent, hsent, hopened⟩
  · exact Or.inl hold
  · rw [hsilent sent hsent other] at hopened
    cases hopened

theorem Bookkeeping.speechless (hkept : Bookkeeping world next mover)
    (hbefore : world.Speechless id) : next.Speechless id := by
  rw [Speechless, hkept.invocations, hkept.detached]
  exact hbefore

theorem Bookkeeping.hub (haccountable : world.Accountable)
    (hkept : Bookkeeping world next mover) : HubStep world next mover := by
  refine ⟨hkept.servers, hkept.replies, hkept.started, hkept.known, ?_, ?_,
    fun _ => hkept.speechless, ?_⟩
  · refine hkept.rows.imp_right ?_
    rintro ⟨mapping, hid, hrun, hstarted, hsaved, haccounts⟩
    refine ⟨mapping, hid, hrun, hstarted, hsaved, ?_⟩
    exact
      { linked := fun taskId htaskId => hkept.follows.linked (haccounts.linked taskId htaskId)
        speechless := fun htaskId => hkept.speechless (haccounts.speechless htaskId)
        settled := fun hsettled =>
          hkept.follows.settled not_false hkept.speechless (haccounts.settled hsettled) }
  · intro packet hmem
    obtain ⟨posted, hpackets, hsilent⟩ := hkept.packets
    rw [hpackets] at hmem
    exact (List.mem_append.mp hmem).imp_right fun hnew => Or.inl (hsilent packet hnew)
  · intro other hleft
    rw [hkept.detached] at hleft
    have hrecorded : world.Recorded other := by
      by_contra hunrecorded
      exact hleft (haccountable.unrecorded other hunrecorded).2
    obtain ⟨row, hrow, hrowId⟩ := hrecorded
    rcases hkept.rows with hsame | ⟨mapping, -, -, -, hsaved, -⟩
    · exact ⟨row, hsame ▸ hrow, hrowId⟩
    · obtain ⟨later, hlater, hlaterId⟩ := hsaved.kept row hrow
      exact ⟨later, hlater, hlaterId.trans hrowId⟩

/-- The invariant after such a step, which moves one run to another phase. -/
theorem Accountable.bookkeeping (haccountable : world.Accountable)
    (hkept : Bookkeeping world next mover) {phase : RunPhase}
    (hphases : next.phases = Function.update world.phases runId phase)
    (hfollow : world.Follow runId phase)
    (hactive : phase ≠ .idle → next.database.hasRun runId = true)
    (hidle : (∃ failed, phase = .executing failed) ∨
      ∀ id invocation, world.invocations id = some invocation → id.runId ≠ runId) :
    next.Accountable := by
  have hhub := hkept.hub haccountable
  have hsame (other : InvocationId) :
      (next.invocations other).isSome = (world.invocations other).isSome := by
    rw [hkept.invocations]
  refine haccountable.hub hhub (fun other hsome => hsame other ▸ hsome) ?_ ?_ ?_ ?_
  · intro other hphase
    rw [hphases] at hphase
    by_cases hrun : other = runId
    · rw [hrun, Function.update_self] at hphase
      exact Or.inr (hrun ▸ hactive hphase)
    · rw [Function.update_of_ne hrun] at hphase
      exact Or.inl hphase
  · intro other found hfound
    rw [hkept.invocations] at hfound
    have hother := haccountable.invocations other found hfound
    refine ⟨hkept.started ▸ hother.started, hkept.detached ▸ hother.attached,
      hkept.follows.holds (fun _ => not_false) hother.holds, hother.settled,
      fun hneeded => hhub.recorded (hother.recorded hneeded), hkept.follows.stands hother.stands,
      ?_⟩
    rw [hphases]
    by_cases hrun : other.runId = runId
    · rcases hidle with ⟨failed, rfl⟩ | hnone
      · exact ⟨failed, by rw [hrun, Function.update_self]⟩
      · exact (hnone other found hfound hrun).elim
    · rw [Function.update_of_ne hrun]
      exact hother.executing
  · intro other left phase hleft
    rw [hkept.detached] at hleft
    have hother := haccountable.detached other left phase hleft
    exact ⟨hkept.started ▸ hother.started, hkept.invocations ▸ hother.ended,
      hhub.recorded hother.recorded, hkept.follows.holds (fun _ => not_false) hother.holds,
      hother.knows⟩
  · intro other
    rw [hphases]
    by_cases hrun : other = runId
    · rw [hrun, Function.update_self]
      exact hhub.follow (fun other _ _ => hsame other) hfollow
    · rw [Function.update_of_ne hrun]
      exact hhub.follow (fun other _ _ => hsame other) (haccountable.phases other)

/-- A step that only moves a run to another phase. -/
theorem Accountable.setPhase (haccountable : world.Accountable) {phase : RunPhase}
    (hfollow : world.Follow runId phase)
    (hactive : phase ≠ .idle → world.database.hasRun runId = true)
    (hidle : (∃ failed, phase = .executing failed) ∨
      ∀ id invocation, world.invocations id = some invocation → id.runId ≠ runId) :
    (world.setPhase runId phase).Accountable := by
  have hkept : Bookkeeping world (world.setPhase runId phase) ⟨runId, .preflight, "", 0, 0⟩ :=
    ⟨rfl, rfl, rfl, rfl, rfl, fun _ hrun => hrun, Or.inl rfl, [], (List.append_nil _).symm,
      silent_nil⟩
  exact haccountable.bookkeeping hkept rfl hfollow hactive hidle

/-- Only a run that executes has running invocations. -/
theorem Accountable.idle_of_phase (haccountable : world.Accountable)
    (hphase : ∀ failed, world.phases runId ≠ .executing failed) (id : InvocationId)
    (invocation : Invocation) (hinvocation : world.invocations id = some invocation) :
    id.runId ≠ runId := by
  rintro rfl
  obtain ⟨failed, hfailed⟩ := (haccountable.invocations id invocation hinvocation).executing
  exact hphase failed hfailed

/-! ## Reconciliation -/

theorem listed_row {database : Database} {mapping : DelegatedTask}
    (hmem : mapping ∈ database.listDelegatedTasks runId) :
    ∃ row ∈ database.delegatedTasks, row.runId = runId ∧ row.record = mapping := by
  obtain ⟨row, hrow, rfl⟩ := List.mem_map.mp hmem
  obtain ⟨hrow, hrun⟩ := List.mem_filter.mp hrow
  exact ⟨row, hrow, beq_iff_eq.mp hrun, rfl⟩

/-- A retry begins with every row of its run, and every invocation without one is quiet. -/
theorem Accountable.follow_listed (haccountable : world.Accountable)
    (hphase : world.phases runId = .idle) :
    world.Follow runId
      (.reconciling (world.database.listDelegatedTasks runId) .examining) := by
  have hfollow := haccountable.phases runId
  rw [hphase] at hfollow
  refine ⟨?_, ?_, fun _ _ _ hpoint => (hpoint rfl).elim⟩
  · intro id hstarted hrun
    refine ⟨hfollow id hstarted hrun, ?_⟩
    by_cases hrecorded : world.Recorded id
    · obtain ⟨row, hrow, hid⟩ := hrecorded
      obtain ⟨-, hrowRun, -, hrecord, -⟩ := haccountable.rows row hrow
      refine Or.inl ⟨row.record, ?_, hrecord.trans hid⟩
      refine List.mem_map.mpr ⟨row, List.mem_filter.mpr ⟨hrow, ?_⟩, rfl⟩
      rw [beq_iff_eq, hrowRun, hid, hrun]
    · obtain ⟨huntouched, hdetached⟩ := haccountable.unrecorded id hrecorded
      exact Or.inr ⟨quiet_of_untouched huntouched,
        speechless_idle (hfollow id hstarted hrun) hdetached⟩
  · intro mapping hmem
    obtain ⟨row, hrow, hrun, rfl⟩ := listed_row hmem
    obtain ⟨hstarted, hrowRun, hrecordRun, hrecord, haccounts⟩ := haccountable.rows row hrow
    rw [hrecord]
    exact ⟨hstarted, hrowRun.symm.trans hrun, hrecordRun.trans (hrowRun.symm.trans hrun),
      haccounts⟩

/-- A mapping whose state was asked for again. -/
theorem Accountable.accounts_reported (haccountable : world.Accountable) {mapping : DelegatedTask}
    {task : AgentTask} (haccounts : world.Accounts mapping) (htask : mapping.taskId ≠ none)
    (hreported : world.reported mapping.invocationId task = true) :
    world.Accounts { mapping with state := .reported task.state } where
  linked := haccounts.linked
  speechless := haccounts.speechless
  settled hsettled := ⟨haccountable.quiet_of_reported hreported (settled_reported.mp hsettled),
    haccounts.speechless htask⟩

/-- The first mapping of the queue was asked for again. -/
theorem Follow.report {mapping : DelegatedTask} {rest : List DelegatedTask}
    {point later : ReconcilePoint} {task : AgentTask} (haccountable : world.Accountable)
    (hfollow : world.Follow runId (.reconciling (mapping :: rest) point))
    (hpoint : point ≠ .examining)
    (hreported : world.reported mapping.invocationId task = true) :
    world.Follow runId
      (.reconciling ({ mapping with state := .reported task.state } :: rest) later) := by
  obtain ⟨hstarted, hqueue, hknown⟩ := hfollow
  have htask := hknown mapping rest rfl hpoint
  refine ⟨?_, ?_, ?_⟩
  · intro id hmem hrun
    obtain ⟨hidle, hcovered⟩ := hstarted id hmem hrun
    refine ⟨hidle, hcovered.imp_left ?_⟩
    rintro ⟨other, hother, hid⟩
    rcases List.mem_cons.mp hother with rfl | hother
    · exact ⟨_, List.mem_cons_self, hid⟩
    · exact ⟨other, List.mem_cons_of_mem _ hother, hid⟩
  · intro other hother
    rcases List.mem_cons.mp hother with rfl | hother
    · obtain ⟨hmem, hid, hrun, haccounts⟩ := hqueue mapping List.mem_cons_self
      exact ⟨hmem, hid, hrun, haccountable.accounts_reported haccounts htask hreported⟩
    · exact hqueue other (List.mem_cons_of_mem _ hother)
  · intro other others heq _
    cases heq
    exact htask

/-- The reconciliation of the first mapping goes on. -/
theorem Follow.point {queue : List DelegatedTask} {point later : ReconcilePoint}
    (hfollow : world.Follow runId (.reconciling queue point)) (hpoint : point ≠ .examining) :
    world.Follow runId (.reconciling queue later) :=
  ⟨hfollow.1, hfollow.2.1, fun mapping rest heq _ => hfollow.2.2 mapping rest heq hpoint⟩

/-- A settled mapping leaves the queue. -/
theorem Follow.settled {mapping : DelegatedTask} {rest : List DelegatedTask}
    {point : ReconcilePoint}
    (hfollow : world.Follow runId (.reconciling (mapping :: rest) point))
    (hsettled : mapping.state.settled = true) :
    world.Follow runId (.reconciling rest .examining) := by
  obtain ⟨hstarted, hqueue, -⟩ := hfollow
  refine ⟨?_, fun other hother => hqueue other (List.mem_cons_of_mem _ hother),
    fun _ _ _ hpoint => (hpoint rfl).elim⟩
  intro id hmem hrun
  obtain ⟨hidle, hcovered⟩ := hstarted id hmem hrun
  refine ⟨hidle, ?_⟩
  rcases hcovered with ⟨other, hother, rfl⟩ | hquiet
  · rcases List.mem_cons.mp hother with rfl | hother
    · exact Or.inr ((hqueue _ List.mem_cons_self).2.2.2.settled hsettled)
    · exact Or.inl ⟨other, hother, rfl⟩
  · exact Or.inr hquiet

/-- An execution that reconciles can always be given up. -/
theorem Follow.idle {queue : List DelegatedTask} {point : ReconcilePoint}
    (hfollow : world.Follow runId (.reconciling queue point)) : world.Follow runId .idle :=
  fun id hmem hrun => (hfollow.1 id hmem hrun).1

/-- With an empty queue, every earlier invocation of the run is settled. -/
theorem Follow.executing {point : ReconcilePoint}
    (hfollow : world.Follow runId (.reconciling [] point)) :
    world.Follow runId (.executing []) := by
  intro id hmem hrun
  obtain ⟨hidle, hcovered⟩ := hfollow.1 id hmem hrun
  rw [hidle]
  rcases hcovered with ⟨mapping, hmapping, -⟩ | hsettled
  · cases hmapping
  · exact Or.inr hsettled

theorem bookkeeping_after {database : Database} {posted : List Packet} {phase : RunPhase}
    (hruns : database.runs = world.database.runs)
    (hrows : database.delegatedTasks = world.database.delegatedTasks ∨
      ∃ mapping, mapping.invocationId = mover ∧ mapping.runId = mover.runId ∧
        mover ∈ world.started ∧ Saved world.database mapping database ∧ world.Accounts mapping)
    (hsilent : Silent posted) :
    Bookkeeping world ((world.after database posted).setPhase runId phase) mover where
  servers := rfl
  replies := rfl
  started := rfl
  invocations := rfl
  detached := rfl
  known other hrun := (Database.hasRun_congr hruns other).trans hrun
  rows := hrows
  packets := ⟨posted, rfl, hsilent⟩

theorem Accountable.reconcile (haccountable : world.Accountable) {queue : List DelegatedTask}
    {point : ReconcilePoint} {event : ClientEvent}
    (hphase : world.phases runId = .reconciling queue point)
    (hstep : world.reconcile runId queue point event = some next) : next.Accountable := by
  have hactive : world.database.hasRun runId = true :=
    haccountable.active runId (by rw [hphase]; nofun)
  have hidle := haccountable.idle_of_phase (by rw [hphase]; nofun)
  have hfollow := haccountable.phases runId
  rw [hphase] at hfollow
  have hstop : (world.setPhase runId .idle).Accountable :=
    haccountable.setPhase (Follow.idle hfollow) (fun _ => hactive) (Or.inr hidle)
  unfold World.reconcile at hstep
  split at hstep
  · cases hstep
    exact haccountable.setPhase (Follow.executing hfollow) (fun _ => hactive) (Or.inl ⟨[], rfl⟩)
  · rename_i mapping rest _
    split at hstep
    · rename_i hsettled
      cases hstep
      exact haccountable.setPhase (Follow.settled hfollow hsettled) (fun _ => hactive) (Or.inr hidle)
    · split at hstep
      · cases hstep
        exact hstop
      · rename_i htask
        cases hstep
        refine haccountable.setPhase ⟨hfollow.1, hfollow.2.1, ?_⟩ (fun _ => hactive) (Or.inr hidle)
        intro other others heq _
        cases heq
        exact htask
  · cases hstep
    exact haccountable.setPhase (Follow.point hfollow nofun) (fun _ => hactive) (Or.inr hidle)
  · cases hstep
    exact hstop
  · rename_i mapping rest task
    split at hstep
    · rename_i hreported
      dsimp only at hstep
      split at hstep
      · cases hstep
        exact haccountable.setPhase (Follow.report haccountable hfollow nofun hreported)
          (fun _ => hactive) (Or.inr hidle)
      · split at hstep
        · rename_i spec _
          cases hstep
          exact haccountable.bookkeeping
            (bookkeeping_after rfl (Or.inl rfl) (silent_cancel spec task.id) :
              Bookkeeping world _ mapping.invocationId) rfl
            (Follow.report haccountable hfollow nofun hreported) (fun _ => hactive) (Or.inr hidle)
        · cases hstep
    · cases hstep
  · cases hstep
    exact haccountable.setPhase (Follow.point hfollow nofun) (fun _ => hactive) (Or.inr hidle)
  · rename_i mapping rest task
    split at hstep
    · rename_i hreported
      cases hstep
      exact haccountable.setPhase (Follow.report haccountable hfollow nofun hreported)
        (fun _ => hactive) (Or.inr hidle)
    · cases hstep
  · rename_i mapping rest accepted
    split at hstep
    · cases hstep
      exact hstop
    · rename_i database hwritten
      cases hstep
      have hsaved := saved_of_save (write_of_written hwritten)
      obtain ⟨hstarted, hid, hrun, haccounts⟩ := hfollow.2.1 mapping List.mem_cons_self
      exact haccountable.bookkeeping
        (bookkeeping_after hsaved.runs
          (Or.inr ⟨mapping, rfl, hrun.trans hid.symm, hstarted, hsaved, haccounts⟩) silent_nil)
        rfl (Follow.point hfollow nofun)
        (fun _ => (Database.hasRun_congr hsaved.runs runId).trans hactive) (Or.inr hidle)
  · rename_i mapping rest accepted
    split at hstep
    · cases hstep
      exact hstop
    · rename_i database hwritten
      cases hstep
      obtain ⟨hruns, hrows⟩ := appendEvent_rows (write_of_written hwritten)
      exact haccountable.bookkeeping
        (bookkeeping_after hruns (Or.inl hrows) silent_nil :
          Bookkeeping world _ mapping.invocationId)
        rfl (Follow.point hfollow nofun)
        (fun _ => (Database.hasRun_congr hruns runId).trans hactive) (Or.inr hidle)
  · rename_i mapping rest _
    split at hstep
    · rename_i hsettled
      cases hstep
      exact haccountable.setPhase (Follow.settled hfollow hsettled) (fun _ => hactive) (Or.inr hidle)
    · cases hstep
      exact hstop
  -- an exception or an interruption ends the execution
  all_goals
    cases hstep
    try exact hstop

/-! ## Executions -/

theorem createRun_rows {database next : Database} {idea : String} {now : Nat}
    (hcreate : database.createRun runId idea now = .ok next) :
    database.hasRun runId = false ∧ next.hasRun runId = true ∧
      next.delegatedTasks = database.delegatedTasks ∧
      ∀ other, database.hasRun other = true → next.hasRun other = true := by
  unfold Database.createRun at hcreate
  split at hcreate
  · cases hcreate
  · rename_i hnew
    cases hcreate
    refine ⟨Bool.eq_false_iff.mpr hnew, ?_, rfl, ?_⟩
    · simp [Database.hasRun, Database.getRun, List.find?_append]
    intro other hrun
    obtain ⟨run, hfound⟩ := Option.isSome_iff_exists.mp hrun
    simp only [Database.hasRun, Database.getRun, List.find?_append]
    rw [show database.runs.find? (fun run => run.runId == other) = some run from hfound]
    rfl

/-- A run that is created has no invocations yet. -/
theorem Accountable.create (haccountable : world.Accountable) {idea : String} {now : Nat}
    {database : Database} (hcreate : world.database.createRun runId idea now = .ok database) :
    (({ world with database } : World).setPhase runId (.executing [])).Accountable := by
  obtain ⟨hnew, hrun, hrows, hkept⟩ := createRun_rows hcreate
  have hstep : Bookkeeping world (({ world with database } : World).setPhase runId (.executing []))
      ⟨runId, .preflight, "", 0, 0⟩ :=
    ⟨rfl, rfl, rfl, rfl, rfl, hkept, Or.inl hrows, [], (List.append_nil _).symm, silent_nil⟩
  refine haccountable.bookkeeping hstep rfl ?_ (fun _ => hrun) (Or.inl ⟨[], rfl⟩)
  rintro id hmem rfl
  rw [haccountable.known id hmem] at hnew
  cases hnew

/-- An execution that waits for none of its invocations may end. -/
theorem Accountable.finish (haccountable : world.Accountable)
    (hrunning : world.running runId = false) : (world.setPhase runId .idle).Accountable := by
  have hidle (id : InvocationId) (invocation : Invocation)
      (hinvocation : world.invocations id = some invocation) : id.runId ≠ runId := by
    rintro rfl
    have hattends := haccountable.invocations id invocation hinvocation
    refine (Bool.eq_false_iff.mp hrunning) (List.any_eq_true.mpr ⟨id, hattends.started, ?_⟩)
    simp [hinvocation]
  refine haccountable.setPhase ?_ (fun hphase => (hphase rfl).elim) (Or.inr hidle)
  intro id _ hrun
  cases hinvocation : world.invocations id with
  | none => rfl
  | some invocation => exact (hidle id invocation hinvocation hrun).elim

/-- The process dies with everything it held in memory. -/
theorem Accountable.crash (haccountable : world.Accountable) :
    ({ world with
      phases := fun _ => .idle, invocations := fun _ => none, detached := fun _ => none } :
      World).Accountable := by
  have hhub : HubStep world { world with
      phases := fun _ => .idle, invocations := fun _ => none, detached := fun _ => none }
      ⟨"", .preflight, "", 0, 0⟩ :=
    ⟨rfl, rfl, rfl, fun _ hrun => hrun, Or.inl rfl, fun _ => Or.inl,
      fun _ _ => speechless_idle rfl rfl, fun _ hleft => (hleft rfl).elim⟩
  exact haccountable.hub hhub (fun _ hsome => by cases hsome) (fun _ hphase => (hphase rfl).elim)
    (fun _ _ hfound => by cases hfound)
    (fun _ _ _ hleft => by cases hleft) (fun _ _ _ _ => rfl)

/-- One more invocation was started. -/
def invoked (world : World) (id : InvocationId) (invocation : Invocation) : World :=
  { world with started := world.started ++ [id] }.setInvocation id (some invocation)

theorem invoked_of_ne {invocation : Invocation} {other : InvocationId} (hne : other ≠ id) :
    (world.invoked id invocation).invocations other = world.invocations other :=
  Function.update_of_ne hne _ _

theorem invoked_self {invocation : Invocation} :
    (world.invoked id invocation).invocations id = some invocation :=
  Function.update_self _ _ _

/-- Another invocation leaves what is known about the earlier ones. -/
theorem settled_invoked {invocation : Invocation} {other : InvocationId} (hne : other ≠ id)
    (hsettled : world.Settled other) :
    (world.invoked id invocation).Settled other := by
  obtain ⟨hquiet, hmutes, hleft⟩ := hsettled
  refine ⟨hquiet, ?_, hleft⟩
  intro found hfound
  rw [invoked_of_ne hne] at hfound
  exact hmutes found hfound

theorem accounts_invoked {invocation : Invocation} {mapping : DelegatedTask}
    (hne : mapping.invocationId ≠ id) (haccounts : world.Accounts mapping) :
    (world.invoked id invocation).Accounts mapping where
  linked := haccounts.linked
  speechless htaskId := by
    obtain ⟨hmutes, hleft⟩ := haccounts.speechless htaskId
    refine ⟨?_, hleft⟩
    intro found hfound
    rw [invoked_of_ne hne] at hfound
    exact hmutes found hfound
  settled hsettled := settled_invoked hne (haccounts.settled hsettled)

theorem holds_invoked {invocation : Invocation} {other : InvocationId} {delegation : Delegation}
    (hholds : world.Holds other delegation) :
    (world.invoked id invocation).Holds other delegation :=
  ⟨hholds.named, hholds.request, hholds.identified, hholds.runId, hholds.linked, hholds.quiet⟩

/-- An execution delegates to an agent that neither runs for it nor failed it. -/
theorem Accountable.invoke (haccountable : world.Accountable) {failed : List (String × StageName)}
    {invocation : Invocation} (hphase : world.phases id.runId = .executing failed)
    (hnew : id ∉ world.started) (hfailed : (id.agent, id.stage) ∉ failed)
    (hbusy : world.busy id.runId id.agent id.stage = false)
    (hholds : world.Holds id invocation.toDelegation) (hpoint : invocation.point = .attempting)
    (hstate : invocation.mapping.state = .pending) :
    (world.invoked id invocation).Accountable := by
  have hne {other : InvocationId} (hmem : other ∈ world.started) : other ≠ id := by
    rintro rfl
    exact hnew hmem
  have hunrecorded : ¬ world.Recorded id := by
    rintro ⟨row, hrow, rfl⟩
    exact hnew (haccountable.rows row hrow).1
  -- Its agent was not busy, so no other invocation of the run holds it.
  have halone (other : InvocationId) (found : Invocation)
      (hfound : world.invocations other = some found) (hrun : other.runId = id.runId)
      (hagent : other.agent = id.agent) (hstage : other.stage = id.stage) : False := by
    refine (Bool.eq_false_iff.mp hbusy) (List.any_eq_true.mpr
      ⟨other, (haccountable.invocations other found hfound).started, ?_⟩)
    simp [hrun, hagent, hstage, hfound]
  refine
    { servers := haccountable.servers
      replies := haccountable.replies
      packets := haccountable.packets
      known := ?_
      active := haccountable.active
      unrecorded := haccountable.unrecorded
      rows := ?_
      invocations := ?_
      detached := ?_
      exclusive := ?_
      phases := ?_ }
  · intro other hmem
    rcases List.mem_append.mp hmem with hold | hlast
    · exact haccountable.known other hold
    · rw [List.mem_singleton.mp hlast]
      exact haccountable.active id.runId (by rw [hphase]; nofun)
  · intro row hrow
    obtain ⟨hmem, hrun, hrecordRun, hrecord, haccounts⟩ := haccountable.rows row hrow
    exact ⟨List.mem_append_left _ hmem, hrun, hrecordRun, hrecord,
      accounts_invoked (hrecord ▸ hne hmem) haccounts⟩
  · intro other found hfound
    by_cases hother : other = id
    · subst hother
      rw [invoked_self, Option.some.injEq] at hfound
      subst hfound
      refine ⟨List.mem_append_right _ (List.mem_singleton_self _),
        (haccountable.unrecorded _ hunrecorded).2, holds_invoked hholds, ?_, ?_, ?_, ⟨failed, hphase⟩⟩
      · intro hsettled
        rw [hstate] at hsettled
        cases hsettled
      · rintro (hsaved | hpending)
        · rw [hpoint] at hsaved
          cases hsaved
        · exact (hpending hstate).elim
      · simp only [Stands, hpoint]
    · rw [invoked_of_ne hother] at hfound
      have hattends := haccountable.invocations other found hfound
      exact ⟨List.mem_append_left _ hattends.started, hattends.attached,
        holds_invoked hattends.holds, hattends.settled, hattends.recorded, hattends.stands,
        hattends.executing⟩
  · intro other left phase hleft
    have hremains := haccountable.detached other left phase hleft
    refine ⟨List.mem_append_left _ hremains.started, ?_, hremains.recorded,
      holds_invoked hremains.holds, hremains.knows⟩
    rw [invoked_of_ne (hne hremains.started), hremains.ended]
  · intro first second one other hfirst hsecond hrun hagent hstage
    by_cases hfirstId : first = id
    · subst hfirstId
      by_contra hdiffer
      rw [invoked_of_ne (Ne.symm hdiffer)] at hsecond
      exact halone second other hsecond hrun.symm hagent.symm hstage.symm
    · rw [invoked_of_ne hfirstId] at hfirst
      by_cases hsecondId : second = id
      · subst hsecondId
        exact (halone first one hfirst hrun hagent hstage).elim
      · rw [invoked_of_ne hsecondId] at hsecond
        exact haccountable.exclusive first second one other hfirst hsecond hrun hagent hstage
  · intro other
    -- Only the run of the new invocation is executing its agents here.
    have hfollow := haccountable.phases other
    have hstarted {earlier : InvocationId} (hmem : earlier ∈ world.started ++ [id])
        (hrun : earlier.runId ≠ id.runId) : earlier ∈ world.started := by
      rcases List.mem_append.mp hmem with hold | hlast
      · exact hold
      · exact (hrun (congrArg InvocationId.runId (List.mem_singleton.mp hlast))).elim
    change (world.invoked id invocation).Follow other (world.phases other)
    cases hother : world.phases other with
    | idle =>
        rw [hother] at hfollow
        have hdiffer : other ≠ id.runId := by
          rintro rfl
          rw [hphase] at hother
          cases hother
        intro earlier hmem hrun
        have hold := hstarted hmem (hrun ▸ hdiffer)
        rw [invoked_of_ne (hne hold)]
        exact hfollow earlier hold hrun
    | reconciling queue point =>
        rw [hother] at hfollow
        have hdiffer : other ≠ id.runId := by
          rintro rfl
          rw [hphase] at hother
          cases hother
        obtain ⟨hall, hqueue, hknown⟩ := hfollow
        refine ⟨?_, ?_, hknown⟩
        · intro earlier hmem hrun
          have hold := hstarted hmem (hrun ▸ hdiffer)
          rw [invoked_of_ne (hne hold)]
          obtain ⟨hidle, hcovered⟩ := hall earlier hold hrun
          exact ⟨hidle, hcovered.imp_right (settled_invoked (hne hold))⟩
        · intro mapping hmapping
          obtain ⟨hmem, hid, hrun, haccounts⟩ := hqueue mapping hmapping
          exact ⟨List.mem_append_left _ hmem, hid, hrun, accounts_invoked (hne hmem) haccounts⟩
    | executing marked =>
        rw [hother] at hfollow
        intro earlier hmem hrun
        by_cases hid : earlier = id
        · subst hid
          rw [invoked_self]
          rw [← hrun, hphase, RunPhase.executing.injEq] at hother
          exact hother ▸ hfailed
        · have hold : earlier ∈ world.started :=
            (List.mem_append.mp hmem).resolve_right fun hlast => hid (List.mem_singleton.mp hlast)
          have hearlier := hfollow earlier hold hrun
          rw [invoked_of_ne hid]
          cases hfound : world.invocations earlier with
          | some found =>
              simp only [hfound] at hearlier
              exact hearlier
          | none =>
              simp only [hfound] at hearlier
              exact hearlier.imp_right (settled_invoked hid)

/-! ## The network and the agents -/

/-- A step of the network or of an agent. -/
structure NetworkStep (world next : World) : Prop where
  follows : Follows world next fun _ => False
  servers : ∀ agent, (next.servers agent).Sound
  replies : ∀ agent task, (agent, task) ∈ next.replies →
    ∃ current, (next.servers agent).store.tasks (hubOwner, task.id) = some current ∧
      (task.state ∈ AgentServer.terminal → current.state = task.state)
  packets : next.packets ⊆ world.packets
  database : next.database = world.database
  phases : next.phases = world.phases
  invocations : next.invocations = world.invocations
  detached : next.detached = world.detached
  started : next.started = world.started

theorem NetworkStep.speechless (hnetwork : NetworkStep world next)
    (hbefore : world.Speechless id) : next.Speechless id := by
  rw [Speechless, hnetwork.invocations, hnetwork.detached]
  exact hbefore

theorem NetworkStep.settled (hnetwork : NetworkStep world next) (hbefore : world.Settled id) :
    next.Settled id :=
  hnetwork.follows.settled not_false hnetwork.speechless hbefore

theorem NetworkStep.accounts (hnetwork : NetworkStep world next) {mapping : DelegatedTask}
    (haccounts : world.Accounts mapping) : next.Accounts mapping where
  linked taskId htaskId := hnetwork.follows.linked (haccounts.linked taskId htaskId)
  speechless htaskId := hnetwork.speechless (haccounts.speechless htaskId)
  settled hsettled := hnetwork.settled (haccounts.settled hsettled)

theorem NetworkStep.recorded (hnetwork : NetworkStep world next) :
    next.Recorded id ↔ world.Recorded id := by
  simp only [Recorded, hnetwork.database]

theorem NetworkStep.follow (hnetwork : NetworkStep world next) {phase : RunPhase}
    (hfollow : world.Follow runId phase) : next.Follow runId phase := by
  cases phase with
  | idle =>
      intro other hmem hrun
      rw [hnetwork.started] at hmem
      rw [hnetwork.invocations]
      exact hfollow other hmem hrun
  | reconciling queue point =>
      obtain ⟨hall, hqueue, hknown⟩ := hfollow
      refine ⟨?_, ?_, hknown⟩
      · intro other hmem hrun
        rw [hnetwork.started] at hmem
        rw [hnetwork.invocations]
        obtain ⟨hidle, hcovered⟩ := hall other hmem hrun
        exact ⟨hidle, hcovered.imp_right hnetwork.settled⟩
      · intro mapping hmapping
        rw [hnetwork.started]
        obtain ⟨hmem, hid, hrun, haccounts⟩ := hqueue mapping hmapping
        exact ⟨hmem, hid, hrun, hnetwork.accounts haccounts⟩
  | executing failed =>
      intro other hmem hrun
      rw [hnetwork.started] at hmem
      have hother := hfollow other hmem hrun
      rw [hnetwork.invocations]
      cases hfound : world.invocations other with
      | some found =>
          simp only [hfound] at hother
          exact hother
      | none =>
          simp only [hfound] at hother
          exact hother.imp_right hnetwork.settled

theorem Accountable.network (haccountable : world.Accountable)
    (hnetwork : NetworkStep world next) : next.Accountable where
  servers := hnetwork.servers
  replies := hnetwork.replies
  packets spec message other hmem := haccountable.packets spec message other (hnetwork.packets hmem)
  known other hmem := by
    rw [hnetwork.database]
    exact haccountable.known other (hnetwork.started ▸ hmem)
  active other hphase := by
    rw [hnetwork.database]
    exact haccountable.active other (hnetwork.phases ▸ hphase)
  unrecorded other hunrecorded := by
    obtain ⟨huntouched, hdetached⟩ :=
      haccountable.unrecorded other (fun hrow => hunrecorded (hnetwork.recorded.mpr hrow))
    exact ⟨hnetwork.follows.untouched not_false huntouched, hnetwork.detached ▸ hdetached⟩
  rows row hrow := by
    rw [hnetwork.database] at hrow
    obtain ⟨hmem, hrun, hrecordRun, hrecord, haccounts⟩ := haccountable.rows row hrow
    exact ⟨hnetwork.started ▸ hmem, hrun, hrecordRun, hrecord, hnetwork.accounts haccounts⟩
  invocations other found hfound := by
    rw [hnetwork.invocations] at hfound
    have hattends := haccountable.invocations other found hfound
    exact ⟨hnetwork.started ▸ hattends.started, hnetwork.detached ▸ hattends.attached,
      hnetwork.follows.holds (fun _ => not_false) hattends.holds, hattends.settled,
      fun hneeded => hnetwork.recorded.mpr (hattends.recorded hneeded),
      hnetwork.follows.stands hattends.stands, hnetwork.phases ▸ hattends.executing⟩
  detached other left phase hleft := by
    rw [hnetwork.detached] at hleft
    have hremains := haccountable.detached other left phase hleft
    exact ⟨hnetwork.started ▸ hremains.started, hnetwork.invocations ▸ hremains.ended,
      hnetwork.recorded.mpr hremains.recorded,
      hnetwork.follows.holds (fun _ => not_false) hremains.holds, hremains.knows⟩
  exclusive := by
    rw [hnetwork.invocations]
    exact haccountable.exclusive
  phases other := by
    rw [hnetwork.phases]
    exact hnetwork.follow (haccountable.phases other)

section Agents

variable {platform : AgentPlatform} {settings : WorldSettings}

/-- A server takes a step, perhaps for a packet that left the network. -/
theorem Accountable.served (haccountable : world.Accountable) {agent : String}
    {label : ServerLabel} {server : AgentServer} {packets : List Packet}
    (hpackets : packets ⊆ world.packets)
    (hserver : (agentServer platform settings.gates (stageOf agent)).step (world.servers agent)
      label = some server)
    (hopened : ∀ id request freshContext, label = .send request freshContext →
      request.owner = hubOwner → request.message.messageId = .invocation id →
      ∃ packet ∈ world.packets, opens id packet = true) :
    ({ world with packets, servers := Function.update world.servers agent server } :
      World).Accountable := by
  have houtcome := outcome_of_serverStep hserver
  have hsound := haccountable.servers agent
  have hkept (other : String) :
      AgentServer.Kept (world.servers other) (Function.update world.servers agent server other) := by
    by_cases hagent : other = agent
    · subst hagent
      rw [Function.update_self]
      exact AgentServer.Kept.step hsound houtcome
    · rw [Function.update_of_ne hagent]
      exact .refl _
  refine haccountable.network ⟨⟨hkept, ?_, fun packet hmem _ _ => Or.inl (hpackets hmem),
    List.Subset.refl _⟩, ?_, ?_, hpackets, rfl, rfl, rfl, rfl, rfl⟩
  · intro id row hrow
    by_cases hagent : id.agent = agent
    · simp only [reservation, hagent, Function.update_self] at hrow ⊢
      rcases AgentServer.reservation_new houtcome hrow with hold | ⟨request, fresh, hlabel, hsent⟩
      · exact Or.inl hold
      · exact Or.inr (hopened id request fresh hlabel hsent.1 hsent.2)
    · simp only [reservation, Function.update_of_ne hagent] at hrow
      exact Or.inl hrow
  · intro other
    by_cases hagent : other = agent
    · subst hagent
      change (Function.update world.servers other server other).Sound
      rw [Function.update_self]
      exact AgentServer.Sound.step hsound houtcome
    · change (Function.update world.servers agent server other).Sound
      rw [Function.update_of_ne hagent]
      exact haccountable.servers other
  · intro other task hmem
    obtain ⟨current, hcurrent, hstate⟩ := haccountable.replies other task hmem
    obtain ⟨later, hlater, -, -, hlaterState⟩ := (hkept other).tasks _ current hcurrent
    refine ⟨later, hlater, fun hterminal => ?_⟩
    have hsame := hstate hterminal
    rw [hlaterState (hsame ▸ hterminal), hsame]

theorem Accountable.deliver (haccountable : world.Accountable) {packet : Packet}
    {freshContext : String} (hmem : packet ∈ world.packets)
    (hstep : ({ world with packets := world.packets.erase packet } : World).serve platform settings
      (serverLabel freshContext packet).1 (serverLabel freshContext packet).2 = some next) :
    next.Accountable := by
  obtain ⟨server, hserver, rfl⟩ := Option.map_eq_some_iff.mp hstep
  refine haccountable.served (List.erase_subset) hserver ?_
  intro id request fresh hlabel _ hmessage
  refine ⟨packet, hmem, ?_⟩
  cases packet with
  | message spec message =>
      cases hlabel
      simpa [opens] using hmessage
  | cancel spec taskId => cases hlabel

theorem Accountable.lose (haccountable : world.Accountable) (packet : Packet) :
    ({ world with packets := world.packets.erase packet } : World).Accountable :=
  haccountable.network ⟨⟨fun _ => .refl _, fun _ _ hrow => Or.inl hrow,
    fun _ hmem _ _ => Or.inl (List.erase_subset hmem), List.Subset.refl _⟩, haccountable.servers,
    haccountable.replies, List.erase_subset, rfl, rfl, rfl, rfl, rfl⟩

theorem Accountable.report (haccountable : world.Accountable) {agent : String} {taskId : TaskId}
    {task : AgentTask} (htask : (world.servers agent).store.tasks (hubOwner, taskId) = some task) :
    ({ world with replies := world.replies ++ [(agent, task)] } : World).Accountable := by
  refine haccountable.network ⟨⟨fun _ => .refl _, fun _ _ hrow => Or.inl hrow,
    fun _ hmem _ _ => Or.inl hmem, List.subset_append_left _ _⟩, haccountable.servers, ?_,
    List.Subset.refl _, rfl, rfl, rfl, rfl, rfl⟩
  intro other reply hmem
  rcases List.mem_append.mp hmem with hold | hlast
  · exact haccountable.replies other reply hold
  · rw [List.mem_singleton, Prod.mk.injEq] at hlast
    obtain ⟨rfl, rfl⟩ := hlast
    obtain ⟨hid, -⟩ := (haccountable.servers other).identified _ _ htask
    exact ⟨reply, hid ▸ htask, fun _ => rfl⟩

theorem holds_initial {spec : AgentSpec} {context : AgentContext Json} :
    world.Holds (Invocation.invocationId spec context)
      (Invocation.initial settings.baseUrl spec context).toDelegation where
  named := rfl
  request := rfl
  identified := rfl
  runId := rfl
  linked _ htaskId := by cases htaskId
  quiet hsettled := by cases hsettled

theorem accountable_empty : World.empty.Accountable where
  servers _ := AgentServer.sound_empty
  replies _ _ hmem := by cases hmem
  packets _ _ _ hmem := by cases hmem
  known _ hmem := by cases hmem
  active _ hphase := (hphase rfl).elim
  unrecorded _ _ := ⟨⟨rfl, fun _ hmem => by cases hmem⟩, rfl⟩
  rows _ hrow := by cases hrow
  invocations _ _ hfound := by cases hfound
  detached _ _ _ hleft := by cases hleft
  exclusive _ _ _ _ hfirst := by cases hfirst
  phases _ _ hmem := by cases hmem

/-- Every step keeps the account, provided rows are marked as failed only where
their task is quiet. -/
theorem Accountable.step (haccountable : world.Accountable) {label : WorldLabel}
    (hmarks : marksQuietly world label = true)
    (hstep : (delegation platform settings).step world label = some next) :
    next.Accountable := by
  cases label with
  | create runId idea now =>
      simp only [delegation] at hstep
      split at hstep
      · rename_i database hcreate
        cases hstep
        exact haccountable.create hcreate
      · cases hstep
  | retry runId =>
      simp only [delegation] at hstep
      split at hstep
      · rename_i hretry
        cases hstep
        exact haccountable.setPhase (haccountable.follow_listed hretry.1) (fun _ => hretry.2)
          (Or.inr (haccountable.idle_of_phase (by rw [hretry.1]; nofun)))
      · cases hstep
  | reconcile runId event =>
      simp only [delegation] at hstep
      split at hstep
      · rename_i queue point hphase
        exact haccountable.reconcile hphase hstep
      · cases hstep
  | finish runId =>
      simp only [delegation] at hstep
      split at hstep
      · split at hstep
        · cases hstep
        · rename_i hrunning
          cases hstep
          exact haccountable.finish (Bool.eq_false_iff.mpr hrunning)
      · cases hstep
  | invoke spec context =>
      simp only [delegation] at hstep
      split at hstep
      · rename_i failed hphase
        split at hstep
        · rename_i hallowed
          obtain ⟨-, hstage, hfailed, hbusy, hnew⟩ := hallowed
          cases hstep
          refine haccountable.invoke hphase hnew ?_ ?_ holds_initial rfl rfl
          · simpa only [Invocation.invocationId, hstage] using hfailed
          · simpa only [Invocation.invocationId, hstage] using hbusy
        · cases hstep
      · cases hstep
  | client id event =>
      simp only [delegation] at hstep
      split at hstep
      · rename_i invocation hinvocation
        split at hstep
        · rename_i hanswers
          obtain ⟨turn, hturn, rfl⟩ := Option.map_eq_some_iff.mp hstep
          exact haccountable.turn hinvocation hanswers hmarks hturn
        · cases hstep
      · cases hstep
  | detached id event =>
      simp only [delegation] at hstep
      split at hstep
      · rename_i left phase hleft
        split at hstep
        · rename_i hanswers
          obtain ⟨turn, hturn, rfl⟩ := Option.map_eq_some_iff.mp hstep
          exact haccountable.remaining hleft hanswers hturn
        · cases hstep
      · cases hstep
  | deliver packet freshContext =>
      simp only [delegation] at hstep
      split at hstep
      · rename_i hmem
        exact haccountable.deliver hmem hstep
      · cases hstep
  | lose packet =>
      simp only [delegation] at hstep
      split at hstep
      · cases hstep
        exact haccountable.lose packet
      · cases hstep
  | serve agent label =>
      simp only [delegation] at hstep
      split at hstep
      · rename_i hforeign
        obtain ⟨server, hserver, rfl⟩ := Option.map_eq_some_iff.mp hstep
        refine haccountable.served (List.Subset.refl _) hserver ?_
        rintro id request fresh rfl howner _
        simp [foreign, howner] at hforeign
      · cases hstep
  | report agent taskId =>
      obtain ⟨task, htask, rfl⟩ := Option.map_eq_some_iff.mp hstep
      exact haccountable.report htask
  | crash =>
      cases hstep
      exact haccountable.crash

theorem accountable_of_run {labels : List WorldLabel}
    (halong : (delegation platform settings).along marksQuietly .empty labels = true)
    (hrun : (delegation platform settings).run .empty labels = some world) :
    world.Accountable :=
  (delegation platform settings).run_invariant_along Accountable marksQuietly
    (fun _ _ _ hmarks haccountable hstep => haccountable.step hmarks hstep) halong
    accountable_empty hrun

end Agents

end World

/-! ## Delegations -/

/-- The states in which a remote task still works or can be made to. -/
def liveStates : List TaskState := [.submitted, .working, .inputRequired]

namespace World

/-- The hub sends the message of an invocation for the first time. -/
def FirstSent (world next : World) (id : InvocationId) : Prop :=
  (world.invocations id).map Invocation.sent = some false ∧
    (next.invocations id).map Invocation.sent = some true

/-- Another invocation of the same agent for the same stage of the run left a live task. -/
def duplicated (world : World) (id : InvocationId) : Bool :=
  world.started.any fun other =>
    other != id && other.runId == id.runId && other.agent == id.agent && other.stage == id.stage &&
      (world.remoteTask other).any fun task => task.state ∈ liveStates

/-- Beside a running invocation, all others of its agent and stage are quiet. -/
theorem Accountable.quiet_beside {world : World} (haccountable : world.Accountable)
    {id other : InvocationId} {invocation : Invocation}
    (hinvocation : world.invocations id = some invocation) (hstarted : other ∈ world.started)
    (hne : other ≠ id) (hrun : other.runId = id.runId) (hagent : other.agent = id.agent)
    (hstage : other.stage = id.stage) : world.quiet other = true := by
  have hattends := haccountable.invocations id invocation hinvocation
  obtain ⟨failed, hphase⟩ := hattends.executing
  have hfollow := haccountable.phases id.runId
  rw [hphase] at hfollow
  have hallowed := hfollow id hattends.started rfl
  simp only [hinvocation] at hallowed
  have hother := hfollow other hstarted hrun
  cases hfound : world.invocations other with
  | some found =>
      exact (hne (haccountable.exclusive other id found invocation hfound hinvocation hrun hagent
        hstage)).elim
  | none =>
      simp only [hfound, hagent, hstage] at hother
      exact (hother.resolve_left hallowed).1

/-- A quiet invocation has no live task. -/
theorem not_live_of_quiet {world : World} {id : InvocationId} (hquiet : world.quiet id = true) :
    ((world.remoteTask id).any fun task => task.state ∈ liveStates) = false := by
  rcases quiet_iff.mp hquiet with huntouched | ⟨row, task, hrow, htask, hterminal⟩
  · simp [remoteTask, huntouched.1]
  · simp only [remoteTask, hrow, Option.bind_some, htask, Option.any_some]
    cases hstate : task.state <;> simp_all [liveStates, AgentServer.terminal]

end World

/-- No delegation is sent beside a live task of an earlier one, as long as rows
are marked as failed only where their task is quiet. -/
theorem delegations_withheld {platform : AgentPlatform} {settings : WorldSettings}
    {labels : List WorldLabel} {world next : World} {id : InvocationId}
    (halong : (delegation platform settings).along World.marksQuietly .empty labels = true)
    (hrun : (delegation platform settings).run .empty labels = some world)
    (hfirst : world.FirstSent next id) : world.duplicated id = false := by
  have haccountable := World.accountable_of_run halong hrun
  obtain ⟨invocation, hinvocation, -⟩ := Option.map_eq_some_iff.mp hfirst.1
  rw [World.duplicated, List.any_eq_false]
  intro other hstarted hother
  simp only [Bool.and_eq_true, bne_iff_ne, beq_iff_eq] at hother
  obtain ⟨⟨⟨⟨hne, hrunId⟩, hagent⟩, hstage⟩, hlive⟩ := hother
  have hquiet := haccountable.quiet_beside hinvocation hstarted hne hrunId hagent hstage
  rw [World.not_live_of_quiet hquiet] at hlive
  cases hlive

/-! ## Two retries -/

def sampleSpec : AgentSpec := agentSpecs.head agentSpecs_ne_nil

def sampleTurn (retryAttempt : Nat) : AgentContext Json :=
  { sampleContext with stage := .intake, retryAttempt }

def sampleId (retryAttempt : Nat) : InvocationId :=
  Invocation.invocationId sampleSpec (sampleTurn retryAttempt)

/-- An invocation up to the statement that sends its message. -/
def sampleOpening (retryAttempt : Nat) : List WorldLabel :=
  let id := sampleId retryAttempt
  [.invoke sampleSpec (sampleTurn retryAttempt), .client id (.advance true), .client id (.card true),
    .client id (.advance true)]

def sampleSend (retryAttempt : Nat) : WorldLabel := .client (sampleId retryAttempt) (.advance true)

def sampleMessageOf (retryAttempt : Nat) : AgentMessage :=
  (Invocation.initial "http://127.0.0.1:8001" sampleSpec (sampleTurn retryAttempt)).request

/-- The first delegation of a run, on which the agent begins to work. -/
def sampleWork : List WorldLabel :=
  [.create "run_a" "idea" 0] ++ sampleOpening 0 ++ [sampleSend 0,
    .deliver (.message sampleSpec (sampleMessageOf 0)) "fresh", .serve sampleSpec.name (.start 0)]

/-- The execution ends, and a retry delegates again. -/
def sampleRetry : List WorldLabel :=
  [.finish "run_a", .retry "run_a", .reconcile "run_a" (.advance true),
    .reconcile "run_a" (.advance true)] ++ sampleOpening 1

def sampleTask (state : TaskState) : AgentTask :=
  ⟨0, "run_a:intake", state, "", [sampleMessageOf 0], none⟩

/-- The first task is cancelled before the retry. -/
def canceledWork : List WorldLabel :=
  let id := sampleId 0
  sampleWork ++ [.report sampleSpec.name 0, .client id (.receive (sampleTask .working)),
    .client id (.advance true), .client id (.advance true), .client id .interrupted,
    .deliver (.cancel sampleSpec 0) "fresh", .client id .returned, .report sampleSpec.name 0,
    .client id (.receive (sampleTask .canceled)), .client id (.advance true),
    .client id (.advance true), .client id (.advance true)] ++ sampleRetry

/-- Every response is lost until the transient retries are used up. -/
def unansweredWork : List WorldLabel :=
  let id := sampleId 0
  let lost := .client id (.raised ⟨.osError, "connection lost"⟩ true)
  let again := [.client id (.advance true), .client id .returned, .client id (.advance true),
    .client id (.advance true)]
  sampleWork ++ [lost] ++ again ++ [lost] ++ again ++
    [lost, .client id (.advance true), .client id (.advance true)] ++ sampleRetry

/-- The retry delegates once the task of the first execution is canceled. -/
theorem delegations_withheld_canceled : ∃ world next,
    (delegation sampleAgentPlatform {}).run .empty canceledWork = some world ∧
      (delegation sampleAgentPlatform {}).step world (sampleSend 1) = some next ∧
      world.FirstSent next (sampleId 1) ∧ world.duplicated (sampleId 1) = false := by
  have hsome : ((delegation sampleAgentPlatform {}).run .empty canceledWork).isSome = true := by
    decide +kernel
  have hnext : ((delegation sampleAgentPlatform {}).step
      (((delegation sampleAgentPlatform {}).run .empty canceledWork).get hsome)
      (sampleSend 1)).isSome = true := by decide +kernel +revert
  have hfirst : (((delegation sampleAgentPlatform {}).run .empty canceledWork).get hsome).FirstSent
      (((delegation sampleAgentPlatform {}).step
        (((delegation sampleAgentPlatform {}).run .empty canceledWork).get hsome)
        (sampleSend 1)).get hnext) (sampleId 1) := by
    unfold World.FirstSent
    decide +kernel +revert
  have hrun := (Option.some_get hsome).symm
  have hstep := (Option.some_get hnext).symm
  exact ⟨_, _, hrun, hstep, hfirst,
    delegations_withheld (by decide +kernel) hrun hfirst⟩

/-- With every response lost, the row is marked as failed while the agent works,
and the retry delegates beside it. -/
theorem delegation_duplicated : ∃ world next,
    (delegation sampleAgentPlatform {}).run .empty unansweredWork = some world ∧
      (delegation sampleAgentPlatform {}).step world (sampleSend 1) = some next ∧
      world.FirstSent next (sampleId 1) ∧ world.duplicated (sampleId 1) = true := by
  have hsome : ((delegation sampleAgentPlatform {}).run .empty unansweredWork).isSome = true := by
    decide +kernel
  have hnext : ((delegation sampleAgentPlatform {}).step
      (((delegation sampleAgentPlatform {}).run .empty unansweredWork).get hsome)
      (sampleSend 1)).isSome = true := by decide +kernel +revert
  refine ⟨_, _, (Option.some_get hsome).symm, (Option.some_get hnext).symm, ?_, ?_⟩
  · unfold World.FirstSent
    decide +kernel +revert
  · decide +kernel +revert

end Aidlc
