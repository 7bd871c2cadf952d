import Aidlc.Orchestration.Discipline

/-! # Identities in use

An invocation is identified by its run, its stage, its agent, its repair attempt and the
retry it belongs to. What a step of the hub makes of the identities in use, and what
everybody may count on while the others work, is said here once for all programs.
-/

namespace Aidlc

open Foundation Workflow

/-- The identity under which the job is delegated to an agent. -/
def StageJob.identity (job : StageJob) (spec : AgentSpec) : InvocationId where
  runId := job.run.runId
  stage := job.stage
  agent := spec.name
  repairAttempt := job.repairAttempt
  retryAttempt := job.retryAttempt

theorem StageJob.identity_of_context {job : StageJob} {spec : AgentSpec}
    {context : AgentContext ContextItem} (hspec : spec ∈ agentsByStage job.stage)
    (hbuild : buildAgentContext spec job.run.runId job.run.idea job.context.artifacts
      job.repairAttempt job.repairFeedback job.retryAttempt = .ok context) :
    Delegated.id ⟨spec, context⟩ = job.identity spec := by
  have hstage : spec.stage = job.stage := beq_iff_eq.mp (List.mem_filter.mp hspec).2
  unfold buildAgentContext at hbuild
  obtain ⟨selected, -, hbuild⟩ := except_bind_eq_ok.mp hbuild
  cases hbuild
  exact congrArg (fun stage => InvocationId.mk _ stage _ _ _) hstage

namespace Census

/-- The retries requested for a run so far. -/
def retries (census : Census) (runId : RunId) : Nat :=
  (census.stores.database.eventsAfter runId 0).countP fun event =>
    event.eventType == "run.retry_requested"

/-- The hub with one more execution. -/
def launch (census : Census) (runId : RunId) (retryAttempt : Nat) : Census :=
  { census with
    tasks := Function.update census.tasks runId (some census.nextTask)
    executions := Function.update census.executions census.nextTask
      (some ⟨runId, retryAttempt, false⟩)
    nextTask := census.nextTask + 1 }

/-- No execution of the run is left. -/
def Idle (census : Census) (runId : RunId) : Prop :=
  ∀ task attempt, census.executions task = some attempt → attempt.runId ≠ runId

/-- The table of workflows has every execution, and the next one takes the place of none. -/
structure Filed (census : Census) : Prop where
  filed : ∀ task attempt, census.executions task = some attempt →
    census.tasks attempt.runId = some task
  known : ∀ task attempt, census.executions task = some attempt →
    census.stores.database.hasRun attempt.runId = true
  owned : ∀ runId task, census.tasks runId = some task → task < census.nextTask ∧
    ∀ attempt, census.executions task = some attempt → attempt.runId = runId
  vacant : ∀ task, census.nextTask ≤ task → census.executions task = none

/-- A step by which no execution begins. -/
structure Settles (census next : Census) : Prop where
  kept : ∀ runId, census.stores.database.hasRun runId = true →
    next.stores.database.hasRun runId = true
  executions : ∀ task attempt, next.executions task = some attempt →
    ∃ before, census.executions task = some before ∧ before.runId = attempt.runId ∧
      before.retryAttempt = attempt.retryAttempt
  tasks : ∀ runId, next.tasks runId = census.tasks runId ∨ next.tasks runId = none ∧
    ∃ task, census.tasks runId = some task ∧ census.executions task = none
  nextTask : census.nextTask ≤ next.nextTask

variable {census next : Census} {runId : RunId} {retryAttempt : Nat}

/-- A run has one execution. -/
theorem Filed.distinct (hfiled : census.Filed) {task other : Nat} {first second : Attempt}
    (hfirst : census.executions task = some first)
    (hsecond : census.executions other = some second) (hrun : first.runId = second.runId) :
    task = other := by
  have hone := hfiled.filed task first hfirst
  have htwo := hfiled.filed other second hsecond
  rw [hrun] at hone
  exact Option.some.inj (hone.symm.trans htwo)

theorem settles_of_stores {stores : Stores}
    (hkept : ∀ runId, census.stores.database.hasRun runId = true →
      stores.database.hasRun runId = true) :
    census.Settles (census.withStores stores) where
  kept := hkept
  executions _ attempt hattempt := ⟨attempt, hattempt, rfl, rfl⟩
  tasks _ := Or.inl rfl
  nextTask := le_rfl

/-- Only the executions changed, and no new one began. -/
theorem settles_of_executions {executions : Nat → Option Attempt}
    (hexecutions : ∀ task attempt, executions task = some attempt →
      ∃ before, census.executions task = some before ∧ before.runId = attempt.runId ∧
        before.retryAttempt = attempt.retryAttempt) :
    census.Settles { census with executions } :=
  ⟨fun _ => id, hexecutions, fun _ => Or.inl rfl, le_rfl⟩

/-- Where an execution ends, none begins. -/
theorem settles_forget (task : Nat) : census.Settles (census.forget task) := by
  refine settles_of_executions fun other attempt hattempt => ?_
  by_cases hother : other = task
  · rw [hother, Function.update_self] at hattempt
    cases hattempt
  · rw [Function.update_of_ne hother] at hattempt
    exact ⟨attempt, hattempt, rfl, rfl⟩

theorem settles_calm (task : Nat) : census.Settles (census.calm task) := by
  refine settles_of_executions fun other attempt hattempt => ?_
  by_cases hother : other = task
  · rw [hother, Function.update_self] at hattempt
    obtain ⟨before, hbefore, rfl⟩ := Option.map_eq_some_iff.mp hattempt
    exact ⟨before, hother ▸ hbefore, rfl, rfl⟩
  · rw [Function.update_of_ne hother] at hattempt
    exact ⟨attempt, hattempt, rfl, rfl⟩

theorem settles_stop (stopped : Nat → Bool) : census.Settles (census.stop stopped) := by
  refine settles_of_executions fun task attempt hattempt => ?_
  obtain ⟨before, hbefore, rfl⟩ := Option.map_eq_some_iff.mp hattempt
  exact ⟨before, hbefore, rfl, rfl⟩

theorem settles_pop {task : Nat} (htask : census.tasks runId = some task)
    (hdone : census.executions task = none) : census.Settles (census.pop runId) := by
  refine ⟨fun _ => id, fun _ attempt hattempt => ⟨attempt, hattempt, rfl, rfl⟩, fun other => ?_,
    le_rfl⟩
  by_cases hother : other = runId
  · exact Or.inr ⟨hother ▸ Function.update_self .., task, hother ▸ htask, hdone⟩
  · exact Or.inl (Function.update_of_ne hother ..)

/-- An idle run stays idle while no execution begins. -/
theorem Settles.idle (hsettles : census.Settles next) (hidle : census.Idle runId) :
    next.Idle runId := by
  intro task attempt hattempt
  obtain ⟨before, hbefore, hrun, -⟩ := hsettles.executions task attempt hattempt
  exact hrun ▸ hidle task before hbefore

/-- While no execution begins the tasks stay filed. -/
theorem Settles.filed (hsettles : census.Settles next) (hfiled : census.Filed) : next.Filed where
  filed task attempt hattempt := by
    obtain ⟨before, hbefore, hrun, -⟩ := hsettles.executions task attempt hattempt
    have hbeforeFiled := hfiled.filed task before hbefore
    rw [hrun] at hbeforeFiled
    rcases hsettles.tasks attempt.runId with hsame | ⟨-, other, hother, hnone⟩
    · rw [hsame, hbeforeFiled]
    · rw [hbeforeFiled, Option.some.injEq] at hother
      rw [← hother, hbefore] at hnone
      cases hnone
  known task attempt hattempt := by
    obtain ⟨before, hbefore, hrun, -⟩ := hsettles.executions task attempt hattempt
    exact hsettles.kept _ (hrun ▸ hfiled.known task before hbefore)
  owned runId task htask := by
    rcases hsettles.tasks runId with hsame | ⟨hnone, -⟩
    · obtain ⟨hbound, howned⟩ := hfiled.owned runId task (hsame ▸ htask)
      refine ⟨hbound.trans_le hsettles.nextTask, fun attempt hattempt => ?_⟩
      obtain ⟨before, hbefore, hrun, -⟩ := hsettles.executions task attempt hattempt
      exact hrun ▸ howned before hbefore
    · rw [hnone] at htask
      cases htask
  vacant task htask := by
    have hnone := hfiled.vacant task (hsettles.nextTask.trans htask)
    refine Option.eq_none_iff_forall_ne_some.mpr fun attempt hattempt => ?_
    obtain ⟨before, hbefore, -⟩ := hsettles.executions task attempt hattempt
    rw [hnone] at hbefore
    cases hbefore

/-- A process that died leaves no executions behind. -/
theorem filed_crash (census : Census) : census.crash.Filed := by
  refine ⟨fun _ _ hattempt => ?_, fun _ _ hattempt => ?_, fun _ _ htask => ?_, fun _ _ => rfl⟩
  · cases hattempt
  · cases hattempt
  · cases htask

/-- A new execution of a run without one. -/
theorem Filed.launch (hfiled : census.Filed)
    (hknown : census.stores.database.hasRun runId = true) (hidle : census.Idle runId) :
    (census.launch runId retryAttempt).Filed where
  filed task attempt hattempt := by
    change Function.update census.executions census.nextTask _ task = some attempt at hattempt
    show Function.update census.tasks runId _ attempt.runId = some task
    by_cases hnew : task = census.nextTask
    · rw [hnew, Function.update_self, Option.some.injEq] at hattempt
      rw [← hattempt, Function.update_self, hnew]
    · rw [Function.update_of_ne hnew] at hattempt
      rw [Function.update_of_ne (hidle task attempt hattempt)]
      exact hfiled.filed task attempt hattempt
  known task attempt hattempt := by
    change Function.update census.executions census.nextTask _ task = some attempt at hattempt
    by_cases hnew : task = census.nextTask
    · rw [hnew, Function.update_self, Option.some.injEq] at hattempt
      rw [← hattempt]
      exact hknown
    · rw [Function.update_of_ne hnew] at hattempt
      exact hfiled.known task attempt hattempt
  owned other task htask := by
    change Function.update census.tasks runId _ other = some task at htask
    show task < census.nextTask + 1 ∧
      ∀ attempt, Function.update census.executions census.nextTask _ task = some attempt → _
    by_cases hother : other = runId
    · rw [hother, Function.update_self, Option.some.injEq] at htask
      subst htask
      refine ⟨Nat.lt_succ_self _, fun attempt hattempt => ?_⟩
      rw [Function.update_self, Option.some.injEq] at hattempt
      rw [← hattempt, hother]
    · rw [Function.update_of_ne hother] at htask
      obtain ⟨hbound, howned⟩ := hfiled.owned other task htask
      refine ⟨Nat.lt_succ_of_lt hbound, fun attempt hattempt => howned attempt ?_⟩
      rwa [Function.update_of_ne hbound.ne] at hattempt
  vacant task htask := by
    have hlater : census.nextTask < task := htask
    show Function.update census.executions census.nextTask _ task = none
    rw [Function.update_of_ne hlater.ne']
    exact hfiled.vacant task hlater.le

/-- The run may be executed under this retry number. -/
structure Fresh (census : Census) (runId : RunId) (retryAttempt : Nat) : Prop where
  known : census.stores.database.hasRun runId = true
  bounded : retryAttempt ≤ census.retries runId
  idle : census.Idle runId
  unused : ∀ delegated ∈ census.delegated, delegated.id.runId = runId →
    delegated.id.retryAttempt ≠ retryAttempt

/-- No delegation has a retry number that was not requested, and none has the identity of
another. -/
structure Accounted (census : Census) : Prop extends Filed census where
  bounded : ∀ task attempt, census.executions task = some attempt →
    attempt.retryAttempt ≤ census.retries attempt.runId
  delegated : ∀ delegated ∈ census.delegated,
    census.stores.database.hasRun delegated.id.runId = true ∧
      delegated.id.retryAttempt ≤ census.retries delegated.id.runId ∧ delegated.spec ∈ agentSpecs
  named : ∀ runId, census.stores.database.hasRun runId = true → ∃ id, runId = newRunId id
  distinct : (census.delegated.map Delegated.id).Nodup

/-- A step that uses no identity. -/
structure Spares (census next : Census) : Prop extends Settles census next where
  grows : census.stores.database.Grows next.stores.database
  named : ∀ runId, next.stores.database.hasRun runId = true →
    census.stores.database.hasRun runId = true ∨ ∃ id, runId = newRunId id
  delegated : next.delegated = census.delegated

/-- Nothing changed but the table of workflows and the executions. -/
theorem Settles.spares (hsettles : census.Settles next) (hshared : next.toShared = census.toShared) :
    census.Spares next where
  toSettles := hsettles
  grows := by
    rw [hshared]
    exact .refl _
  named runId hrun := by
    rw [hshared] at hrun
    exact Or.inl hrun
  delegated := congrArg Shared.delegated hshared

theorem spares_of_stores {stores : Stores}
    (hgrows : census.stores.database.Grows stores.database)
    (hnamed : ∀ runId, stores.database.hasRun runId = true →
      census.stores.database.hasRun runId = true ∨ ∃ id, runId = newRunId id) :
    census.Spares (census.withStores stores) where
  toSettles := settles_of_stores hgrows.kept
  grows := hgrows
  named := hnamed
  delegated := rfl

theorem Spares.refl (census : Census) : census.Spares census :=
  spares_of_stores (.refl _) fun _ => Or.inl

/-- A step that uses no identity lowers no count of retries. -/
theorem Spares.retries (hspares : census.Spares next) (runId : RunId) :
    census.retries runId ≤ next.retries runId := by
  obtain ⟨appended, happended⟩ := hspares.grows.events
  unfold Census.retries Database.eventsAfter
  rw [← happended, List.filter_append, List.countP_append]
  exact Nat.le_add_right _ _

/-- A fresh attempt stays fresh. -/
theorem Spares.fresh (hspares : census.Spares next) (hfresh : census.Fresh runId retryAttempt) :
    next.Fresh runId retryAttempt where
  known := hspares.kept runId hfresh.known
  bounded := hfresh.bounded.trans (hspares.retries runId)
  idle := hspares.idle hfresh.idle
  unused := hspares.delegated ▸ hfresh.unused

/-- A step that uses no identity keeps the account. -/
theorem Spares.accounted (hspares : census.Spares next) (haccounted : census.Accounted) :
    next.Accounted where
  toFiled := hspares.toSettles.filed haccounted.toFiled
  bounded task attempt hattempt := by
    obtain ⟨before, hbefore, hrun, hretry⟩ := hspares.executions task attempt hattempt
    have hbounded := haccounted.bounded task before hbefore
    rw [← hrun, ← hretry]
    exact hbounded.trans (hspares.retries _)
  delegated delegated hdelegated := by
    rw [hspares.delegated] at hdelegated
    obtain ⟨hknown, hbounded, hspec⟩ := haccounted.delegated delegated hdelegated
    exact ⟨hspares.kept _ hknown, hbounded.trans (hspares.retries _), hspec⟩
  named runId hrun := (hspares.named runId hrun).elim (haccounted.named runId) id
  distinct := hspares.delegated ▸ haccounted.distinct

/-- The execution of a fresh retry. -/
theorem Accounted.launch (haccounted : census.Accounted) (hfresh : census.Fresh runId retryAttempt) :
    (census.launch runId retryAttempt).Accounted where
  toFiled := haccounted.toFiled.launch hfresh.known hfresh.idle
  bounded task attempt hattempt := by
    change Function.update census.executions census.nextTask _ task = some attempt at hattempt
    by_cases hnew : task = census.nextTask
    · rw [hnew, Function.update_self, Option.some.injEq] at hattempt
      rw [← hattempt]
      exact hfresh.bounded
    · rw [Function.update_of_ne hnew] at hattempt
      exact haccounted.bounded task attempt hattempt
  delegated := haccounted.delegated
  named := haccounted.named
  distinct := haccounted.distinct

/-- A delegation under an identity of its own. -/
theorem Accounted.delegate (haccounted : census.Accounted) {spec : AgentSpec}
    {context : AgentContext ContextItem} (hspec : spec ∈ agentSpecs)
    (hlive : census.Live context.runId context.retryAttempt)
    (hnew : ∀ delegated ∈ census.delegated, delegated.id ≠ Delegated.id ⟨spec, context⟩) :
    (census.delegate spec context).Accounted where
  toFiled := ⟨haccounted.filed, haccounted.known, haccounted.owned, haccounted.vacant⟩
  bounded := haccounted.bounded
  delegated delegated hdelegated := by
    rcases List.mem_append.mp hdelegated with hold | hadded
    · exact haccounted.delegated delegated hold
    · obtain rfl := List.mem_singleton.mp hadded
      obtain ⟨task, stopping, hexecution⟩ := hlive
      exact ⟨haccounted.known task _ hexecution, haccounted.bounded task _ hexecution, hspec⟩
  named := haccounted.named
  distinct := by
    show ((census.delegated ++ [(⟨spec, context⟩ : Delegated)]).map Delegated.id).Nodup
    rw [List.map_append, List.nodup_append]
    refine ⟨haccounted.distinct, List.nodup_singleton _, fun id hold other hadded => ?_⟩
    obtain ⟨delegated, hdelegated, rfl⟩ := List.mem_map.mp hold
    rw [List.mem_singleton.mp hadded]
    exact hnew delegated hdelegated

end Census

/-! ## What storage tells of identities -/

section Telling

variable {platform : Platform} {clock : Nat → Nat} {stores after : Stores} {runId : RunId}
  {fault : StorageFault} {request : Request}

/-- Only a statement that did not fail returns. -/
theorem serve_of_answer {value : request.Value}
    (hanswer : stores.answer platform clock runId request fault = some (.ok value, after)) :
    stores.serve platform clock runId request = some (.ok value, after) := by
  obtain ⟨⟨served, next⟩, hserve, hresult⟩ := Option.map_eq_some_iff.mp hanswer
  cases fault with
  | none =>
      obtain ⟨hraised, rfl⟩ := Prod.mk.inj hresult
      rw [hserve, ok_of_raisedBy hraised]
  | before => cases hresult
  | after => cases hresult
  | torn lost => cases hresult

theorem hasRun_modifyRun {database : Database} {change : WorkflowRun → WorkflowRun} (other : RunId)
    (hkept : ∀ run, (change run).runId = run.runId) :
    (database.modifyRun runId change).hasRun other = database.hasRun other := by
  unfold Database.hasRun
  rw [Database.getRun_modifyRun other hkept]
  split
  next => rw [Option.isSome_map]
  next => rfl

theorem hasRun_updateRun (database : Database) (other : RunId) (status : RunStatus)
    (currentStage : Option StageName) (error : Option String) :
    (database.updateRun runId status currentStage error).hasRun other = database.hasRun other :=
  hasRun_modifyRun other fun _ => rfl

theorem hasRun_updateStage (database : Database) (other : RunId) (stage : StageName)
    (status : RunStatus) (error : Option String) :
    (database.updateStage runId stage status error).hasRun other = database.hasRun other :=
  hasRun_modifyRun other fun _ => rfl

theorem hasRun_of_serve {value : Except PyError request.Value}
    (hcreate : ∀ idea now, request ≠ .createRun idea now)
    (hserve : stores.serve platform clock runId request = some (value, after)) (other : RunId) :
    after.database.hasRun other = stores.database.hasRun other := by
  by_cases hquiet : request.quiet = true
  · exact Database.hasRun_congr (serve_quiet hquiet hserve).runs other
  cases request with
  | getRun =>
      cases hserve
      rfl
  | updateRun status currentStage error =>
      cases hserve
      exact hasRun_updateRun _ other _ _ _
  | updateStage stage status error =>
      cases hserve
      exact hasRun_updateStage _ other _ _ _
  | appendEvent eventType payload =>
      rcases statement_eq (Option.some.inj hserve) with
        ⟨database, hchange, -, rfl⟩ | ⟨error, -, -, rfl⟩
      · obtain ⟨-, rfl⟩ := Database.appendEvent_eq_ok.mp hchange
        rfl
      · rfl
  | createRun idea now => exact absurd rfl (hcreate idea now)
  | acceptAction action =>
      obtain ⟨-, rfl⟩ := Prod.mk.inj (Option.some.inj hserve)
      have hsame := (sameRuns_acceptCall platform runId action (stores.now clock) .none stores).1
      exact Database.hasRun_congr hsame.runs other
  | activeTask cancelable => cases hserve
  | createTask retryAttempt => cases hserve
  | cancelTask => cases hserve
  | _ => exact absurd rfl hquiet

/-- Whatever fails, only the creation of a run adds one. -/
theorem hasRun_of_answer {answer : request.Answer}
    (hcreate : ∀ idea now, request ≠ .createRun idea now)
    (hanswer : stores.answer platform clock runId request fault = some (answer, after))
    (other : RunId) : after.database.hasRun other = stores.database.hasRun other := by
  obtain ⟨⟨value, next⟩, hserve, hresult⟩ := Option.map_eq_some_iff.mp hanswer
  have hserved := hasRun_of_serve hcreate hserve other
  cases fault with
  | none =>
      cases hresult
      exact hserved
  | before =>
      cases hresult
      rfl
  | after =>
      cases hresult
      exact hserved
  | torn lost =>
      cases hresult
      exact Database.hasRun_congr (sameRuns_torn runId platform clock stores request lost).runs other

/-- A run comes into being under the identifier of whoever creates it. -/
theorem named_of_answer {answer : request.Answer}
    (hanswer : stores.answer platform clock runId request fault = some (answer, after))
    (hnamed : ∀ idea now, request = .createRun idea now → ∃ id, runId = newRunId id)
    (other : RunId) (hother : after.database.hasRun other = true) :
    stores.database.hasRun other = true ∨ ∃ id, other = newRunId id := by
  by_cases hcreate : ∃ idea now, request = .createRun idea now
  · obtain ⟨idea, now, hcreates⟩ := hcreate
    by_cases hrun : other = runId
    · exact Or.inr (hrun ▸ hnamed idea now hcreates)
    · have hsame := (answer_writes hanswer).others other hrun
      exact Or.inl (by rwa [Database.hasRun, hsame] at hother)
  · refine Or.inl ?_
    rw [← hasRun_of_answer (fun idea now hcreates => hcreate ⟨idea, now, hcreates⟩) hanswer other]
    exact hother

end Telling

/-- What an answer tells of the identities in use. -/
def Request.Informs (runId : RunId) (census next : Census) :
    (request : Request) → request.Answer → Prop
  | .getRun, answer => ∀ run : WorkflowRun, answer = .ok (some run) → run.runId = runId
  | .eventsAfter, answer => ∀ events : List EventRecord, answer = .ok events →
    (events.countP fun event => event.eventType == "run.retry_requested") = census.retries runId
  | .appendEvent eventType _, answer => answer = .ok () →
    next.stores.database.hasRun runId = true ∧
      (eventType = "run.retry_requested" → census.retries runId < next.retries runId)
  | .createRun .., answer => answer = .ok () →
    census.stores.database.hasRun runId = false ∧ next.stores.database.hasRun runId = true
  | .activeTask cancelable, answer => answer = .ok false → cancelable = false → census.Idle runId
  | _, _ => True

theorem tells_of_answer {platform : Platform} {clock : Nat → Nat} {census : Census} {after : Stores}
    {runId : RunId} {fault : StorageFault} {request : Request} {answer : request.Answer}
    (hanswer : census.stores.answer platform clock runId request fault = some (answer, after)) :
    request.Informs runId census (census.withStores after) answer := by
  cases request with
  | getRun =>
      rintro run rfl
      have hserve := serve_of_answer hanswer
      obtain ⟨hfound, -⟩ := Prod.mk.inj (Option.some.inj hserve)
      have hkey := List.find?_some (Except.ok.inj hfound)
      exact beq_iff_eq.mp hkey
  | eventsAfter =>
      rintro events rfl
      obtain ⟨hevents, -⟩ := Prod.mk.inj (Option.some.inj (serve_of_answer hanswer))
      rw [← Except.ok.inj hevents]
      rfl
  | appendEvent eventType payload =>
      rintro rfl
      rcases statement_eq (Option.some.inj (serve_of_answer hanswer)) with
        ⟨database, hchange, -, rfl⟩ | ⟨error, -, hvalue, -⟩
      · have hlog := Database.eventsAfter_appendEvent runId hchange
        rw [if_pos rfl] at hlog
        refine ⟨(Database.writes_appendEvent hchange).kept (Database.appendEvent_eq_ok.mp hchange).1,
          fun htype => ?_⟩
        show List.countP _ _ < List.countP _ (database.eventsAfter runId 0)
        rw [hlog, List.countP_append, List.countP_singleton, htype]
        exact Nat.lt_succ_self _
      · cases hvalue
  | createRun idea now =>
      rintro rfl
      rcases statement_eq (Option.some.inj (serve_of_answer hanswer)) with
        ⟨database, hchange, -, rfl⟩ | ⟨error, -, hvalue, -⟩
      · obtain ⟨hnone, -, -, hpending, -⟩ := Database.createRun_eq_ok hchange
        refine ⟨by rw [Database.hasRun, hnone]; rfl, ?_⟩
        show (database.getRun runId).isSome = true
        rw [← Option.isSome_map, hpending]
        rfl
      · cases hvalue
  | activeTask cancelable => cases hanswer
  | _ => trivial

/-! ## The regime of identities -/

namespace Census

/-- Every delegation of the execution was made for one of these stages and attempts. -/
def Covers (runId : RunId) (retryAttempt : Nat) (visited : StageName → Nat → Prop)
    (census : Census) : Prop :=
  ∀ delegated ∈ census.delegated, delegated.id.runId = runId →
    delegated.id.retryAttempt = retryAttempt → visited delegated.id.stage delegated.id.repairAttempt

/-- The identity is free. -/
def Unused (id : InvocationId) (census : Census) : Prop :=
  ∀ delegated ∈ census.delegated, delegated.id ≠ id

/-- What a step makes of the identities, and who may take it. -/
inductive Uses : Actor → Census → Census → Prop
  | spares {actor census next} (hspares : census.Spares next) : Uses actor census next
  | launches {runId retryAttempt census} (hfresh : census.Fresh runId retryAttempt) :
      Uses (.handler runId) census (census.launch runId retryAttempt)
  | delegates {job spec census} {context : AgentContext ContextItem} (hspec : spec ∈ agentSpecs)
      (hlive : census.Live job.run.runId job.retryAttempt)
      (hid : Delegated.id ⟨spec, context⟩ = job.identity spec)
      (hunused : census.Unused (job.identity spec)) :
      Uses (.agent job spec) census (census.delegate spec context)

/-- What the identities need of a request. -/
def Needs (request : Request) (census : Census) : Actor → Prop
  | .handler runId =>
    (∀ retryAttempt, request = .createTask retryAttempt → census.Fresh runId retryAttempt) ∧
      ∀ idea now, request = .createRun idea now → ∃ id, runId = newRunId id
  | .execution runId retryAttempt => request.ofInterface = false ∧
    ∀ job, request = .runAgents job → job.run.runId = runId ∧ job.retryAttempt = retryAttempt ∧
      census.Covers runId retryAttempt fun stage repairAttempt =>
        (stage, repairAttempt) ≠ (job.stage, job.repairAttempt)
  | .agent job spec => request.ofInterface = false ∧
    ∀ other context, request = .invoke other context → other = spec ∧ spec ∈ agentSpecs ∧
      Delegated.id ⟨spec, context⟩ = job.identity spec ∧ census.Unused (job.identity spec)
  | .surroundings => request.ofInterface = false

/-- What may happen to the identities while a request waits. -/
def Drifts (request : Request) (census next : Census) : Actor → Prop
  | .execution runId retryAttempt => ∀ delegated ∈ next.delegated, delegated.id.runId = runId →
    delegated.id.retryAttempt = retryAttempt → delegated ∈ census.delegated ∨
      ∃ job, request = .runAgents job ∧ delegated.id.stage = job.stage ∧
        delegated.id.repairAttempt = job.repairAttempt
  | .agent job spec => (∃ other context, request = .invoke other context) ∨
    (census.Unused (job.identity spec) → next.Unused (job.identity spec))
  | .handler _ => next = census
  | .surroundings => True

/-- What an answer does to the identities, and what it tells of them. -/
structure Answered (actor : Actor) (request : Request) (census : Census) (answer : request.Answer)
    (next : Census) : Prop where
  effect : census.Spares next ∨ ∃ runId retryAttempt, actor = .handler runId ∧
    request = .createTask retryAttempt ∧ next = census.launch runId retryAttempt
  tells : ∀ runId, actor.runId = some runId → request.Informs runId census next answer

end Census

/-- Nobody delegates under an identity that was used before. -/
def identities : Regime where
  protocol actor :=
    { requires := fun request census => census.Needs request actor
      drifts := fun request census next =>
        (request.suspends = false → next = census) ∧ census.Drifts request next actor
      answers := Census.Answered actor
      guarantees := Census.Uses actor }
  invariant := Census.Accounted
  begins runId retryAttempt := Census.Covers runId retryAttempt fun _ _ => False
  starts job spec := Census.Unused (job.identity spec)
  attends _ _ _ := True
  calls _ _ _ := True
  permits _ _ _ _ := True

namespace Census

variable {census next last : Census} {actor : Actor} {request : Request}

/-- Using an identity keeps the account. -/
theorem Uses.accounted (huses : Uses actor census next) (haccounted : census.Accounted) :
    next.Accounted := by
  cases huses with
  | spares hspares => exact hspares.accounted haccounted
  | launches hfresh => exact haccounted.launch hfresh
  | delegates hspec hlive hid hunused =>
      obtain ⟨hrun, -, -, -, hretry⟩ := InvocationId.mk.inj hid
      refine haccounted.delegate hspec ?_ (hid ▸ hunused)
      rw [hrun, hretry]
      exact hlive

/-- What a step adds to the delegations. -/
theorem Uses.delegated (huses : Uses actor census next) {delegated : Delegated}
    (hdelegated : delegated ∈ next.delegated) :
    delegated ∈ census.delegated ∨
      ∃ job spec, actor = .agent job spec ∧ delegated.id = job.identity spec := by
  cases huses with
  | spares hspares => exact Or.inl (hspares.delegated ▸ hdelegated)
  | launches hfresh => exact Or.inl hdelegated
  | @delegates job spec _ context hspec hlive hid hunused =>
      rcases List.mem_append.mp hdelegated with hold | hadded
      · exact Or.inl hold
      · exact Or.inr ⟨job, spec, rfl, List.mem_singleton.mp hadded ▸ hid⟩

/-- What an execution may still visit stays unused. -/
theorem Spares.covers {runId : RunId} {retryAttempt : Nat} {visited : StageName → Nat → Prop}
    (hspares : census.Spares next) (hcovers : census.Covers runId retryAttempt visited) :
    next.Covers runId retryAttempt visited := by
  unfold Covers
  rw [hspares.delegated]
  exact hcovers

/-- An unused identity stays unused. -/
theorem Spares.unused {id : InvocationId} (hspares : census.Spares next)
    (hunused : census.Unused id) : next.Unused id := by
  unfold Unused
  rw [hspares.delegated]
  exact hunused

/-- Drifting composes. -/
theorem Drifts.trans {middle : Census} (hfirst : census.Drifts request middle actor)
    (hsecond : middle.Drifts request last actor) : census.Drifts request last actor := by
  cases actor with
  | handler runId => exact Eq.trans hsecond hfirst
  | surroundings => trivial
  | execution runId retryAttempt =>
      intro delegated hdelegated hrun hretry
      rcases hsecond delegated hdelegated hrun hretry with hmiddle | hjob
      · exact hfirst delegated hmiddle hrun hretry
      · exact Or.inr hjob
  | agent job spec =>
      rcases hfirst with hinvoke | hfirst
      · exact Or.inl hinvoke
      · exact hsecond.imp_right fun hsecond => hsecond ∘ hfirst

/-- Whoever takes no part in an execution makes no delegation for it. -/
theorem Uses.foreign (huses : Uses actor census next) {runId : RunId}
    (hforeign : actor.Foreign runId) {delegated : Delegated}
    (hdelegated : delegated ∈ next.delegated) (hrun : delegated.id.runId = runId) :
    delegated ∈ census.delegated := by
  rcases huses.delegated hdelegated with hold | ⟨job, spec, rfl, hid⟩
  · exact hold
  · exact absurd ((congrArg InvocationId.runId hid).symm.trans hrun) hforeign

/-- Nobody but the agent uses its identity. -/
theorem Uses.unused (huses : Uses actor census next) {job : StageJob} {spec : AgentSpec}
    (hothers : ∀ other agent, actor = .agent other agent →
      other.run.runId = job.run.runId → agent.name ≠ spec.name)
    (hunused : census.Unused (job.identity spec)) : next.Unused (job.identity spec) := by
  intro delegated hdelegated hid
  rcases huses.delegated hdelegated with hold | ⟨other, agent, hactor, hother⟩
  · exact hunused delegated hold hid
  · obtain ⟨hrun, -, hname, -, -⟩ := InvocationId.mk.inj (hother.symm.trans hid)
    exact hothers other agent hactor hrun hname

/-- Calls of the interface make no delegation. -/
theorem delegated_of_chain {runId : RunId}
    (hchain : Relation.ReflTransGen (Uses (.handler runId)) census next) :
    next.delegated = census.delegated := by
  induction hchain with
  | refl => rfl
  | tail _ huses ih =>
      refine Eq.trans ?_ ih
      cases huses with
      | spares hspares => exact hspares.delegated
      | launches hfresh => rfl

/-- Where a call of the interface began an execution, nothing was delegated under its retry
number. -/
theorem covers_of_chain {runId : RunId}
    (hchain : Relation.ReflTransGen (Uses (.handler runId)) census next) {task : Nat}
    {attempt : Attempt} (hnone : census.executions task = none)
    (hattempt : next.executions task = some attempt) :
    next.Covers attempt.runId attempt.retryAttempt fun _ _ => False := by
  induction hchain generalizing attempt with
  | refl =>
      rw [hnone] at hattempt
      cases hattempt
  | @tail middle last _ huses ih =>
      cases huses with
      | spares hspares =>
          obtain ⟨before, hbefore, hrun, hretry⟩ := hspares.executions task attempt hattempt
          have hcovers := hspares.covers (ih hbefore)
          rwa [hrun, hretry] at hcovers
      | @launches _ retryAttempt _ hfresh =>
          change Function.update middle.executions middle.nextTask _ task = some attempt at hattempt
          by_cases hnew : task = middle.nextTask
          · rw [hnew, Function.update_self, Option.some.injEq] at hattempt
            rw [← hattempt]
            exact hfresh.unused
          · rw [Function.update_of_ne hnew] at hattempt
            exact ih hattempt

end Census

end Aidlc
