import Aidlc.Orchestration.Advancing
import Aidlc.Orchestration.Distinctness

/-! # A run is completed with all its stages

Every program of the hub keeps to the regime of progress: agents mark only the stage they
work for, an execution completes its run after all of its stages, and only the interface
starts a run that is over again. So it goes whatever runs in between, and wherever runs
are canceled, interrupted or stopped with the process.
-/

namespace Aidlc

open Foundation Workflow

/-! ## What the hub answers -/

namespace Hub

open Census

variable {platform : Platform} {clock : Nat → Nat} {settings : HubSettings} {hub next : Hub}
  {runId : RunId} {fault : StorageFault} {actor : Actor}

theorem persists_of_stores {census : Census} {stores : Stores}
    (hkept : ∀ runId, census.stores.database.hasRun runId = true →
      stores.database.hasRun runId = true) : census.Persists (census.withStores stores) where
  toSettles := settles_of_stores hkept
  live _ _ hlive := hlive
  calm _ _ hattempt _ := hattempt

/-- The execution of a run is asked to stop. -/
theorem persists_cancelTask (hfiled : hub.census.Filed) {answer : Except Raised Unit}
    (hserve : hub.serve platform clock runId fault .cancelTask = some (answer, next)) :
    hub.census.Persists next.census ∧
      ∀ task attempt, next.census.executions task = some attempt → attempt.runId = runId →
        attempt.stopping = true := by
  have hsettles := (settles_cancelTask hserve).1
  obtain ⟨-, rfl⟩ := Prod.mk.inj (Option.some.inj hserve)
  cases hlive : hub.liveTask runId with
  | none =>
      have hidle := idle_of_liveTask hfiled hlive
      exact ⟨⟨(Spares.refl _).toSettles, fun _ _ hlive => hlive, fun _ _ hattempt _ => hattempt⟩,
        fun task attempt hattempt hrun => absurd hrun (hidle task attempt hattempt)⟩
  | some live =>
      obtain ⟨stopped, coroutine⟩ := live
      rw [hlive] at hsettles
      obtain ⟨filed, htask, hfound⟩ := Option.bind_eq_some_iff.mp hlive
      obtain ⟨found, hcoroutine, hpair⟩ := Option.map_eq_some_iff.mp hfound
      obtain ⟨rfl, rfl⟩ := Prod.mk.inj hpair
      have hbefore := executions_of_coroutine hcoroutine
      have hsame {task : Nat} (htask : task ≠ filed) :
          (hub.stopping filed found).census.executions task = hub.census.executions task := by
        rw [stopping, executions_setCoroutine, Function.update_of_ne htask]
      have hstopping : (hub.stopping filed found).census.executions filed =
          some ⟨found.runId, found.retryAttempt, true⟩ := by
        rw [stopping, executions_setCoroutine, Function.update_self]
        rfl
      show hub.census.Persists (hub.stopping filed found).census ∧
        ∀ task attempt, (hub.stopping filed found).census.executions task = some attempt → _
      refine ⟨⟨hsettles, ?_, ?_⟩, ?_⟩
      · rintro run retryAttempt ⟨task, stopping, hattempt⟩
        by_cases hother : task = filed
        · rw [hother, hbefore, Option.some.injEq] at hattempt
          obtain ⟨rfl, rfl, -⟩ := Attempt.mk.inj hattempt
          exact ⟨filed, true, hstopping⟩
        · exact ⟨task, stopping, (hsame hother).trans hattempt⟩
      · intro task attempt hattempt hcalm
        by_cases hother : task = filed
        · rw [hother, hstopping, Option.some.injEq] at hattempt
          rw [← hattempt] at hcalm
          cases hcalm
        · exact (hsame hother).symm.trans hattempt
      · intro task attempt hattempt hrun
        by_cases hother : task = filed
        · rw [hother, hstopping, Option.some.injEq] at hattempt
          rw [← hattempt]
        · have htaskFiled := hfiled.filed task attempt ((hsame hother).symm.trans hattempt)
          rw [hrun, show hub.census.tasks runId = some filed from htask] at htaskFiled
          exact absurd (Option.some.inj htaskFiled).symm hother

/-- What storage answers without a fault. -/
theorem succeeds_of_answer {stores after : Stores} {census : Census} {request : Request}
    {answer : request.Answer} (hstores : census.stores = stores)
    (hanswer : stores.answer platform clock runId request .none = some (answer, after)) :
    request.Succeeds runId census answer := by
  subst hstores
  obtain ⟨⟨value, served⟩, hserve, hresult⟩ := Option.map_eq_some_iff.mp hanswer
  obtain ⟨rfl, rfl⟩ := Prod.mk.inj hresult
  cases request with
  | getRun | updateRun status currentStage error | updateStage stage status error =>
      obtain ⟨rfl, rfl⟩ := Prod.mk.inj (Option.some.inj hserve)
      rfl
  | appendEvent eventType payload =>
      intro hrun
      rcases statement_eq (Option.some.inj hserve) with
        ⟨database, hchange, rfl, rfl⟩ | ⟨error, hchange, rfl, rfl⟩
      · rfl
      · rw [Database.appendEvent, if_pos hrun] at hchange
        cases hchange
  | _ => trivial

theorem reports_of_answer {census : Census} {after : Stores} {request : Request}
    {answer : request.Answer}
    (hanswer : census.stores.answer platform clock runId request fault = some (answer, after)) :
    request.Reports runId census (census.withStores after) answer := by
  cases request with
  | getRun =>
      rintro found rfl
      obtain ⟨hfound, -⟩ := Prod.mk.inj (Option.some.inj (serve_of_answer hanswer))
      exact (Except.ok.inj hfound).symm
  | createRun idea now =>
      rintro rfl
      rcases statement_eq (Option.some.inj (serve_of_answer hanswer)) with
        ⟨database, hchange, -, rfl⟩ | ⟨error, -, hvalue, -⟩
      · obtain ⟨hnone, -, -, hpending, -⟩ := Database.createRun_eq_ok hchange
        exact ⟨congrArg (Option.map WorkflowRun.status) hnone, hpending⟩
      · cases hvalue
  | activeTask cancelable => cases hanswer
  | cancelTask => cases hanswer
  | _ => trivial

/-- The workflow that the table has for a run is an execution of it. -/
theorem not_idle_of_liveTask (hfiled : hub.census.Filed) {live : Nat × Coroutine}
    (hlive : hub.liveTask runId = some live) : ¬hub.census.Idle runId := by
  obtain ⟨task, htask, hfound⟩ := Option.bind_eq_some_iff.mp hlive
  obtain ⟨coroutine, hcoroutine, -⟩ := Option.map_eq_some_iff.mp hfound
  have hexecution := executions_of_coroutine hcoroutine
  exact fun hidle => hidle task _ hexecution ((hfiled.owned runId task htask).2 _ hexecution)

/-- What the hub does for a statement, and what its answer tells of the run. -/
theorem effects_of_serve {request : Request} {answer : request.Answer}
    (hactor : actor.runId = some runId)
    (hlive : (∀ run, actor ≠ .handler run) → ∃ retryAttempt, hub.census.Live runId retryAttempt)
    (hfiled : hub.census.Filed) (hpermits : progress.permits hub.census runId request fault)
    (hserve : hub.serve platform clock runId fault request = some (answer, next)) :
    request.Effects actor runId hub.census next.census answer := by
  have hattends (hattends : actor.Attends hub.census) : ¬hub.census.Idle runId := by
    cases actor with
    | handler run =>
        obtain rfl := Option.some.inj hactor
        exact hattends
    | execution run retryAttempt | agent job spec =>
        intro hidle
        obtain ⟨_, task, stopping, hattempt⟩ := hlive fun _ => Actor.noConfusion
        exact hidle task _ hattempt rfl
    | surroundings => cases hactor
  have hfault (hends : request.final = true ∨
      hub.census.Over runId ∧ actor.Attends hub.census) : fault = .none := by
    rcases hpermits with hnone | ⟨hfinal, hover⟩
    · exact hnone
    · rcases hends with hends | ⟨hended, hattended⟩
      · rw [hfinal] at hends
        cases hends
      · exact absurd ⟨hended, hattends hattended⟩ hover
  have hrefl : hub.census.Persists hub.census :=
    ⟨(Spares.refl _).toSettles, fun _ _ hlive => hlive, fun _ _ hattempt _ => hattempt⟩
  cases request with
  | activeTask cancelable =>
      obtain ⟨rfl, rfl⟩ := Prod.mk.inj (Option.some.inj hserve)
      refine ⟨Or.inl hrefl, Or.inl rfl, fun _ _ _ => (modifyRun_id _).symm, ⟨?_, ?_⟩,
        fun _ => trivial⟩
      · intro hnone hcancelable
        refine idle_of_liveTask hfiled (Option.eq_none_iff_forall_ne_some.mpr fun live hlive => ?_)
        have hany := Except.ok.inj hnone
        rw [hlive, hcancelable] at hany
        cases hany
      · intro hsome
        obtain ⟨live, hlive, -⟩ := (Option.any_eq_true _ _).mp (Except.ok.inj hsome)
        exact not_idle_of_liveTask hfiled hlive
  | createTask retryAttempt =>
      obtain rfl : answer = .ok () := (Prod.mk.inj (Option.some.inj hserve)).1.symm
      have hlaunch := census_createTask hserve
      rw [hlaunch]
      exact ⟨Or.inr ⟨retryAttempt, rfl, rfl⟩, Or.inl rfl, fun _ _ _ => (modifyRun_id _).symm,
        trivial, fun _ => trivial⟩
  | cancelTask =>
      obtain ⟨hpersists, hstopping⟩ := persists_cancelTask hfiled hserve
      have hshared := (settles_cancelTask hserve).2
      have hruns : next.census.stores.database.runs = hub.census.stores.database.runs :=
        congrArg (fun shared : Shared => shared.stores.database.runs) hshared
      exact ⟨Or.inl hpersists, Or.inl hruns, fun _ _ _ => hruns.trans (modifyRun_id _).symm,
        hstopping, fun _ => trivial⟩
  | createRun idea now =>
      obtain ⟨after, hanswer, rfl⟩ := stored_of_serve rfl hserve
      refine ⟨Or.inl (persists_of_stores (answer_writes hanswer).grows.kept), ?_,
        fun _ _ hcreate => absurd rfl (hcreate idea now), reports_of_answer hanswer,
        fun _ => trivial⟩
      rcases create_of_answer hanswer with hsame | ⟨database, hcreate, hdatabase⟩
      · exact Or.inl hsame
      · exact Or.inr (Or.inr ⟨idea, now, rfl, hdatabase ▸ hcreate⟩)
  | _ =>
      obtain ⟨after, hanswer, rfl⟩ := stored_of_serve rfl hserve
      refine ⟨Or.inl (persists_of_stores (answer_writes hanswer).grows.kept), ?_,
        fun value hvalue hcreate => ?_, reports_of_answer hanswer, fun hends => ?_⟩
      · exact (runs_of_answer (fun _ _ => Request.noConfusion) hanswer).imp_right Or.inl
      · subst hvalue
        exact runs_of_serve hcreate (serve_of_answer hanswer)
      · rw [hfault hends] at hanswer
        exact succeeds_of_answer rfl hanswer

end Hub

/-! ## What others do -/

namespace Census

variable {census middle next origin final : Census} {runId : RunId} {retryAttempt : Nat}
  {actor : Actor} {request : Request} {job : StageJob} {spec other : AgentSpec}

theorem Moves.ordered (hmoves : census.Moves actor next) (hordered : census.Ordered) :
    next.Ordered := by
  refine ⟨?_, hmoves.lawful hordered.lawful⟩
  rcases hmoves.executions with hsettles | ⟨run, attempt, -, hidle, hpending, rfl⟩
  · exact hsettles.filed hordered.toFiled
  · exact hordered.toFiled.launch (hasRun_of_status hpending) hidle

/-- A step that changes neither a run nor an execution. -/
theorem moves_of_stores (hexecutions : next.executions = census.executions)
    (hsettles : census.Settles next) (hruns : next.stores.database.runs = census.stores.database.runs) :
    census.Moves actor next := by
  have hviews (run : RunId) := views_of_getRun (Database.getRun_congr hruns run)
  refine ⟨Or.inl hsettles, fun task attempt hattempt _ => Or.inl (hexecutions ▸ hattempt),
    fun run _ => Database.getRun_congr hruns run, ?_, (·.congr hruns)⟩
  cases actor with
  | handler run =>
      refine ⟨Or.inl (hviews run).1, fun _ => (hviews run).2, fun other attempt hlive => ?_⟩
      unfold Live
      rw [hexecutions]
      exact hlive
  | execution run attempt => exact Or.inl (hviews run).1
  | agent job spec =>
      refine ⟨Or.inl (hviews _).1, fun stage _ => (hviews _).2 stage, fun stage hsome => ?_⟩
      rwa [(hviews _).2 stage]
  | surroundings => trivial

theorem Moves.working (hmoves : census.Moves (.agent job other) next)
    (hworking : census.Working job.run.runId) : next.Working job.run.runId := by
  rcases hmoves.turns.1 with hsame | ⟨-, hlater⟩
  · exact hworking.congr hsame
  · exact hlater

/-- An agent only counts on its run being executed. -/
theorem progress_stays (hworking : census.Working job.run.runId → next.Working job.run.runId) :
    progress.Stays job spec census next := by
  refine ⟨fun request hsuspends => ⟨fun hserved => ?_, hworking⟩, hworking, hworking⟩
  rw [hsuspends] at hserved
  cases hserved

/-- Nothing of a run changed but that it may be canceled before its execution runs. -/
structure Spared (runId : RunId) (retryAttempt : Nat) (census next : Census) : Prop where
  calm : next.Calm runId retryAttempt →
    census.Calm runId retryAttempt ∧ next.status runId = census.status runId
  status : next.status runId = census.status runId ∨
    census.status runId = some .pending ∧ next.status runId = some .canceled
  rows : ∀ stage, next.row runId stage = census.row runId stage

theorem Spared.trans (hfirst : Spared runId retryAttempt census middle)
    (hsecond : Spared runId retryAttempt middle next) : Spared runId retryAttempt census next := by
  refine ⟨fun hcalm => ?_, ?_, fun stage => (hsecond.rows stage).trans (hfirst.rows stage)⟩
  · obtain ⟨hmiddle, hlater⟩ := hsecond.calm hcalm
    obtain ⟨hbefore, hsame⟩ := hfirst.calm hmiddle
    exact ⟨hbefore, hlater.trans hsame⟩
  · rcases hfirst.status with hsame | ⟨hpending, hcanceled⟩
    · rw [← hsame]
      exact hsecond.status
    · rcases hsecond.status with hlater | ⟨hagain, -⟩
      · exact Or.inr ⟨hpending, hlater.trans hcanceled⟩
      · rw [hcanceled] at hagain
        cases hagain

theorem Spared.working (hspared : Spared runId retryAttempt census next)
    (hworking : census.Working runId) : next.Working runId := by
  rcases hspared.status with hsame | ⟨hpending, -⟩
  · exact hworking.congr hsame
  · exact absurd hpending hworking.ne_pending

theorem Spared.undisturbed (hspared : Spared runId retryAttempt census next) :
    progress.Undisturbed runId retryAttempt census next := by
  refine ⟨fun request hsuspends => ⟨fun hserved => ?_, ?_⟩, fun hbegins hcalm => ?_,
    fun job spec hrun _ => progress_stays fun hworking => ?_⟩
  · rw [hsuspends] at hserved
    cases hserved
  · cases request with
    | runAgents job =>
        exact ⟨hspared.working, fun stage _ => hspared.rows stage, fun stage hsome => by
          rwa [hspared.rows stage]⟩
    | _ => exact ⟨hspared.calm, hspared.status, hspared.rows⟩
  · obtain ⟨hbefore, hsame⟩ := hspared.calm hcalm
    exact hsame.trans (hbegins hbefore)
  · rw [hrun] at hworking ⊢
    exact hspared.working hworking

/-- Who does not work for a run leaves it alone. -/
theorem Moves.spared (hmoves : census.Moves actor next) (hforeign : actor.Foreign runId) :
    Spared runId retryAttempt census next := by
  have hother : actor.runId ≠ some runId := by
    intro hsame
    cases actor with
    | handler run => exact hforeign
    | execution run attempt => exact hforeign (Option.some.inj hsame)
    | agent job spec => exact hforeign (Option.some.inj hsame)
    | surroundings => cases hsame
  obtain ⟨hstatus, hrows⟩ := views_of_getRun (hmoves.others runId hother)
  refine ⟨fun ⟨task, hattempt⟩ => ⟨⟨task, ?_⟩, hstatus⟩, Or.inl hstatus, hrows⟩
  rcases hmoves.calm task _ hattempt rfl with hbefore | ⟨attempt, rfl⟩ | ⟨rfl, -⟩
  · exact hbefore
  · exact absurd rfl hother
  · exact absurd rfl hother

/-! ### Calls of the interface -/

/-- What a call of the interface did so far. -/
structure Calls (runId : RunId) (origin census : Census) : Prop where
  others : ∀ other, other ≠ runId →
    census.stores.database.getRun other = origin.stores.database.getRun other
  live : ∀ run retryAttempt, origin.Live run retryAttempt → census.Live run retryAttempt
  calm : ∀ task attempt, census.executions task = some attempt → attempt.stopping = false →
    origin.executions task = some attempt ∨ attempt.runId = runId ∧ origin.Idle runId
  begun : ∀ task attempt, census.executions task = some attempt → attempt.runId ≠ runId →
    origin.executions task ≠ none
  /-- What becomes of a run that has an execution. -/
  kept : ¬origin.Idle runId →
    (census.status runId = origin.status runId ∨
      origin.status runId = some .pending ∧ census.status runId = some .canceled) ∧
      ∀ stage, census.row runId stage = origin.row runId stage

theorem idle_of_live (hlive : ∀ run retryAttempt, origin.Live run retryAttempt →
    census.Live run retryAttempt) (hidle : census.Idle runId) : origin.Idle runId := by
  rintro task attempt hattempt rfl
  obtain ⟨other, stopping, hother⟩ := hlive attempt.runId attempt.retryAttempt
    ⟨task, attempt.stopping, hattempt⟩
  exact hidle other _ hother rfl

theorem calls_of_chain (hordered : origin.Ordered)
    (hchain : Relation.ReflTransGen (progress.protocol (.handler runId)).guarantees origin census) :
    Calls runId origin census := by
  induction hchain with
  | refl =>
      exact ⟨fun _ _ => rfl, fun _ _ hlive => hlive, fun _ _ hattempt _ => Or.inl hattempt,
        fun task attempt hattempt _ hnone => by simp [hattempt] at hnone,
        fun _ => ⟨Or.inl rfl, fun _ => rfl⟩⟩
  | @tail census next _ hstep ih =>
      have hmoves : census.Moves (.handler runId) next := hstep
      obtain ⟨hturn, hrows, hlive⟩ := hmoves.turns
      refine ⟨fun other hother => ?_, fun run attempt horigin => hlive _ _ (ih.live _ _ horigin),
        fun task attempt hattempt hcalm => ?_, fun task attempt hattempt hrun => ?_,
        fun hbusy => ?_⟩
      · have hsame := hmoves.others other fun heq => hother (Option.some.inj heq).symm
        exact hsame.trans (ih.others other hother)
      · rcases hmoves.calm task attempt hattempt hcalm with hbefore | ⟨_, heq⟩ | ⟨heq, hidle⟩
        · exact ih.calm task attempt hbefore hcalm
        · cases heq
        · obtain rfl := Actor.handler.inj heq
          exact Or.inr ⟨rfl, idle_of_live ih.live hidle⟩
      · rcases hmoves.executions with hsettles | ⟨run, retryAttempt, heq, -, -, rfl⟩
        · obtain ⟨before, hbefore, hsame, -⟩ := hsettles.executions task attempt hattempt
          exact ih.begun task before hbefore (hsame ▸ hrun)
        · obtain rfl := Actor.handler.inj heq
          change Function.update census.executions census.nextTask _ task = some attempt at hattempt
          by_cases hnew : task = census.nextTask
          · rw [hnew, Function.update_self, Option.some.injEq] at hattempt
            exact absurd (congrArg Attempt.runId hattempt).symm hrun
          · rw [Function.update_of_ne hnew] at hattempt
            exact ih.begun task attempt hattempt hrun
      · obtain ⟨hstatus, hsame⟩ := ih.kept hbusy
        have hsome : (census.status runId).isSome := by
          rcases hstatus with hstatus | ⟨-, hcanceled⟩
          · rw [hstatus, Option.isSome_iff_ne_none]
            exact fun hnone => hbusy (hordered.toFiled.idle_of_status hnone)
          · rw [hcanceled]
            rfl
        refine ⟨?_, fun stage => (hrows hsome stage).trans (hsame stage)⟩
        rcases hturn with hlater | ⟨hpending, hcanceled⟩ | ⟨hidle, -⟩
        · rw [hlater]
          exact hstatus
        · rcases hstatus with hstatus | ⟨-, hbefore⟩
          · exact Or.inr ⟨hstatus.symm.trans hpending, hcanceled⟩
          · rw [hbefore] at hpending
            cases hpending
        · exact absurd (idle_of_live ih.live hidle) hbusy

/-- What a call amounts to for a run that has an execution. -/
theorem Calls.spared (hcalls : Calls runId origin final)
    (hleft : progress.calls runId origin final) {run : RunId}
    (hlive : origin.Live run retryAttempt) : Spared run retryAttempt origin final := by
  obtain ⟨live, stopping, hlive⟩ := hlive
  by_cases hrun : run = runId
  · subst hrun
    have hbusy : ¬origin.Idle run := fun hidle => hidle live _ hlive rfl
    obtain ⟨hstatus, hrows⟩ := hcalls.kept hbusy
    refine ⟨fun ⟨task, hattempt⟩ => ?_, hstatus, hrows⟩
    have hbefore := (hcalls.calm task _ hattempt rfl).resolve_right fun hidle => hbusy hidle.2
    refine ⟨⟨task, hbefore⟩, ?_⟩
    rcases hleft task retryAttempt hattempt with hpending | ⟨-, hsame⟩
    · refine hstatus.resolve_right fun hcanceled => ?_
      rw [hcanceled.2] at hpending
      cases hpending
    · exact hsame
  · obtain ⟨hstatus, hrows⟩ := views_of_getRun (hcalls.others run hrun)
    refine ⟨fun ⟨task, hattempt⟩ => ⟨⟨task, ?_⟩, hstatus⟩, Or.inl hstatus, hrows⟩
    exact (hcalls.calm task _ hattempt rfl).resolve_right fun hidle => hrun hidle.1

/-- An execution that a call begins finds its run pending. -/
theorem Calls.begins (hcalls : Calls runId origin final)
    (hleft : progress.calls runId origin final) (hordered : final.Ordered) {task : Nat}
    {attempt : Attempt} (hnone : origin.executions task = none)
    (hattempt : final.executions task = some attempt) :
    progress.begins attempt.runId attempt.retryAttempt final := by
  obtain rfl : attempt.runId = runId :=
    by_contra fun hother => hcalls.begun task attempt hattempt hother hnone
  rintro ⟨other, hother⟩
  obtain rfl := hordered.toFiled.distinct hattempt hother rfl
  refine (hleft task attempt.retryAttempt hother).resolve_right fun hbefore => ?_
  exact hbefore.1 hnone

end Census

/-! ## Over a run of the hub -/

open Census

/-- A startup stops runs that were not over. -/
theorem Hub.stops_recover {hub next : Hub} {cut : Option (Nat × Nat)}
    (hkeyed : hub.stores.database.RunsKeyed) (hnext : hub.recover cut = some next) :
    hub.stores.database.Stops next.stores.database := by
  unfold Hub.recover at hnext
  split at hnext
  next =>
    split at hnext
    next database hrecovered =>
      cases hnext
      exact (Database.stops_recoverRuns hkeyed (Database.listRuns_nodup hkeyed _)
        (fun run hrun => Database.mem_of_listRuns hrun) hrecovered).2
    next => cases hnext
  next runs statements =>
    split at hnext
    next database hrecovered =>
      cases hnext
      exact Database.stops_recoverPart hkeyed hrecovered
    next => cases hnext

/-- A program that leads somewhere, seen by the others. -/
theorem Regime.keeps_of_leads {regime : Regime} {actor : Actor} {ε α : Type}
    {program : Program Request Request.Answer ε α} {pre post : Census → Prop} {census : Census}
    (hleads : program.Leads (regime.protocol actor) pre (fun _ => post) fun _ => post)
    (hpre : pre census) : regime.Keeps actor post program census := by
  refine (hleads census hpre).mono fun result final hends => ?_
  cases result with
  | ok value => exact hends
  | error error => exact hends

/-- Every program advances its run only as the others count on. -/
theorem sound_progress {platform : Platform} (clock : Nat → Nat) (tools : HubTools platform)
    (settings : HubSettings) : progress.Sound clock tools settings where
  initial := by
    refine ⟨⟨fun _ _ hattempt => ?_, fun _ _ hattempt => ?_, fun _ _ htask => ?_, fun _ _ => rfl⟩,
      List.nodup_nil, List.forall_mem_nil _⟩
    · cases hattempt
    · cases hattempt
    · cases htask
  distinct hordered hfirst hsecond := hordered.toFiled.distinct hfirst hsecond
  vacant hordered := hordered.vacant _ le_rfl
  create id idea now _ :=
    Regime.keeps_of_leads (advances_createRun idea now) (Untouched.refl _ _)
  command runId command _ := Regime.keeps_of_leads (advances_command command) (Untouched.refl _ _)
  begin hordered hattempt hbegins :=
    Regime.keeps_of_leads (advances_execute tools settings) ⟨hbegins ⟨_, hattempt⟩, hordered.lawful⟩
  start _ hspec hworking :=
    (keeps_working (asks_invokeAgent tools settings hspec) _ hworking).mono fun _ _ _ => trivial
  input _ _ hworking _ hstage _ _ := keeps_working (asks_humanInput tools settings hstage _) _ hworking
  inner {actor request census} hactor hdemands := by
    cases actor with
    | handler runId => exact absurd rfl (hactor runId)
    | execution runId retryAttempt => exact hdemands.1
    | agent job spec => exact hdemands.1
    | surroundings => exact hdemands
  -- Time passing leaves every actor where it was.
  idle {actor request census} := by
    refine ⟨fun _ => rfl, ?_⟩
    cases actor with
    | handler runId => rfl
    | execution runId retryAttempt =>
        cases request with
        | runAgents job => exact ⟨id, fun _ _ => rfl, fun _ => id⟩
        | _ => exact ⟨fun hcalm => ⟨hcalm, rfl⟩, Or.inl rfl, fun _ => rfl⟩
    | agent job spec => exact id
    | surroundings => trivial
  served hactor hlive hordered _ hpermits hserve :=
    .stored hactor (Hub.suspends_of_serve hserve) hordered.toFiled
      (Hub.effects_of_serve hactor hlive hordered.toFiled hpermits hserve)
  replied hattempt hsuspends := .waited hsuspends fun run attempt hactor => by
    obtain ⟨rfl, rfl⟩ := Actor.execution.inj hactor
    exact ⟨_, hattempt⟩
  refused hattempt hsuspends := .refused hsuspends rfl hattempt rfl
  responded hsuspends _ := .waited hsuspends fun _ _ => Actor.noConfusion
  returned _ := .waited rfl fun _ _ => Actor.noConfusion
  kept hmoves hordered := Moves.ordered hmoves hordered
  grouped {census runId retryAttempt job} hdemands := by
    obtain ⟨-, rfl, hretry, hworking⟩ := hdemands
    exact ⟨rfl, hretry, fun _ _ => hworking⟩
  invoked {census job spec other context} _ _ hdemands := by
    obtain ⟨-, rfl, hrun, hstage, hworking⟩ := hdemands
    have hsettles : census.Settles (census.delegate other context) :=
      ⟨fun _ => id, fun _ attempt hattempt => ⟨attempt, hattempt, rfl, rfl⟩, fun _ => Or.inl rfl,
        le_rfl⟩
    exact ⟨rfl, hrun, hstage, moves_of_stores rfl hsettles rfl,
      ⟨fun hsuspends => (by cases hsuspends), id⟩, hworking⟩
  client hconfined := moves_of_stores rfl (settles_of_stores fun runId hrun =>
    (Database.hasRun_congr hconfined.runs runId).trans hrun) hconfined.runs
  -- An execution that ends is no longer counted, and the others keep their attempts.
  done {census runId retryAttempt task stopping} _ := by
    refine ⟨Or.inl (settles_forget task), fun other attempt hattempt _ => Or.inl ?_,
      fun _ _ => rfl, Or.inl rfl, id⟩
    change Function.update census.executions task none other = some attempt at hattempt
    by_cases hother : other = task
    · rw [hother, Function.update_self] at hattempt
      cases hattempt
    · rwa [Function.update_of_ne hother] at hattempt
  calmed _ hattempt :=
    ⟨moves_calm hattempt, fun job => ⟨fun hsuspends => (by cases hsuspends),
      ⟨id, fun _ _ => rfl, fun _ => id⟩⟩, fun job spec _ _ => progress_stays id⟩
  stopped {census} stopped := by
    refine ⟨Or.inl (settles_stop stopped), fun task attempt hattempt hcalm => Or.inl ?_,
      fun _ _ => rfl, trivial, id⟩
    obtain ⟨before, hbefore, rfl⟩ := Option.map_eq_some_iff.mp hattempt
    obtain ⟨runId, retryAttempt, stopping⟩ := before
    obtain ⟨rfl, hkept⟩ := Bool.or_eq_false_iff.mp hcalm
    rw [hbefore, hkept]
    rfl
  popped htask hdone := moves_of_stores rfl (settles_pop htask hdone) rfl
  crashed {census} hordered := ⟨filed_crash census, hordered.lawful⟩
  -- A restart stops runs, which keeps them lawful.
  recovered hordered _ hnext := by
    refine ⟨(Hub.spares_recover hnext).toSettles.filed hordered.toFiled, ?_⟩
    exact (Hub.stops_recover hordered.lawful.keyed hnext).lawful hordered.lawful
  -- What two moves of the surroundings do to a run composes.
  trans {actor request first second third} hfirst hsecond := by
    refine ⟨fun hsuspends => by rw [hsecond.1 hsuspends, hfirst.1 hsuspends], ?_⟩
    cases actor with
    | handler runId => exact hsecond.2.trans hfirst.2
    | execution runId retryAttempt =>
        cases request with
        | runAgents job =>
            obtain ⟨hworking, hothers, hown⟩ := hfirst.2
            obtain ⟨hlater, hafter, hstill⟩ := hsecond.2
            exact ⟨hlater ∘ hworking,
              fun stage hother => (hafter stage hother).trans (hothers stage hother),
              fun stage => hstill stage ∘ hown stage⟩
        | _ =>
            have hspared := Spared.trans ⟨hfirst.2.1, hfirst.2.2.1, hfirst.2.2.2⟩
              ⟨hsecond.2.1, hsecond.2.2.1, hsecond.2.2.2⟩
            exact ⟨hspared.calm, hspared.status, hspared.rows⟩
    | agent job spec => exact hsecond.2 ∘ hfirst.2
    | surroundings => trivial
  foreign _ _ hforeign hmoves := (Moves.spared hmoves hforeign).undisturbed
  called hordered hfinal hchain hleft := by
    have hcalls := calls_of_chain hordered hchain
    exact ⟨fun run attempt hlive => (hcalls.spared hleft hlive).undisturbed,
      fun task attempt hnone hattempt => hcalls.begins hleft hfinal hnone hattempt⟩
  member _ hmoves := by
    obtain ⟨-, hothers, hown⟩ := Moves.turns hmoves
    exact ⟨fun hsuspends => (by cases hsuspends), Moves.working hmoves, hothers, hown⟩
  sibling _ _ _ hmoves := progress_stays (Moves.working hmoves)
  own _ hmoves := ⟨fun hsuspends => (by cases hsuspends), Moves.working hmoves⟩

/-- Storage does not fail where a run ends, nor for a run that is over before its
execution is. -/
def Hub.endsSafely (hub : Hub) : HubLabel → Bool
  | .step fault => fault = .none || hub.owner.all fun runId =>
    !hub.request.any Request.final && !((hub.liveTask runId).isSome &&
      (hub.stores.database.getRun runId).any fun run => run.status ∈ terminalRunStatuses)
  | _ => true

theorem Hub.allows_of_endsSafely {hub : Hub} {label : HubLabel} (hfiled : hub.census.Filed)
    (hsafely : hub.endsSafely label = true) : progress.Allows hub label := by
  cases label with
  | step fault =>
      intro runId request howner hrequest
      rw [endsSafely, howner, hrequest, Bool.or_eq_true] at hsafely
      refine hsafely.imp of_decide_eq_true fun hsafely => ?_
      obtain ⟨hfinal, hlive⟩ := Bool.and_eq_true_iff.mp hsafely
      refine ⟨Bool.not_eq_true' _ ▸ hfinal, fun ⟨⟨status, hover, hstatus⟩, hbusy⟩ => ?_⟩
      obtain ⟨run, hrun, rfl⟩ := Option.map_eq_some_iff.mp hstatus
      obtain ⟨live, hlive'⟩ : ∃ live, hub.liveTask runId = some live :=
        Option.ne_none_iff_exists'.mp fun hnone => hbusy (idle_of_liveTask hfiled hnone)
      rw [hlive', show hub.stores.database.getRun runId = some run from hrun] at hlive
      simp [hover] at hlive
  | _ => trivial

section Runs

variable {platform : Platform} {clock : Nat → Nat} {tools : HubTools platform}
  {settings : HubSettings} {labels : List HubLabel} {hub : Hub}

theorem disciplined_progress
    (halong : (orchestration clock tools settings).along Hub.endsSafely .empty labels = true)
    (hrun : (orchestration clock tools settings).run .empty labels = some hub) :
    hub.Disciplined platform settings progress := by
  refine Regime.disciplined_of_run (sound_progress clock tools settings)
    (fun hub label hdisciplined hsafely => ?_) halong hrun
  have hordered : hub.census.Ordered := hdisciplined.invariant
  exact Hub.allows_of_endsSafely hordered.toFiled hsafely

/-- Whatever runs in between: a run has a record of every stage, and is completed only
with all of them. -/
theorem completed_with_stages
    (halong : (orchestration clock tools settings).along Hub.endsSafely .empty labels = true)
    (hrun : (orchestration clock tools settings).run .empty labels = some hub)
    {run : WorkflowRun} (hmember : run ∈ hub.stores.database.runs) :
    run.stages.map StageRecord.name = stageOrder ∧
      (run.status = .completed → ∀ record ∈ run.stages, record.status = .completed) := by
  have hordered : hub.census.Ordered := (disciplined_progress halong hrun).invariant
  have hlawful := hordered.lawful.runs run hmember
  exact ⟨hlawful.order, fun hcompleted record hrecord =>
    WorkflowRun.status_of_stageStatus hlawful.order hrecord (hlawful.completed hcompleted _)⟩

def sampleBlockedGates : QualityGateReport := ⟨"", "", 0, .blocked, [], [], []⟩

theorem scoreOf_unjudged :
    ∃ score, scoreOf samplePlatform .notEvaluated
      ([none, none, none, none, none, none] : List (Option (RubricScore ArtifactId))) = .ok score :=
  ⟨none, rfl⟩

def sampleUnjudged : EvaluationReport samplePlatform where
  status := .notEvaluated
  requirementCoverage := none
  mvpCompleteness := none
  usability := none
  architecture := none
  maintainability := none
  riskAcceptance := none
  summary := ""
  recommendedRepairs := []
  qualityGates := none
  judged := scoreOf_unjudged

/-- Gates that cannot be run, so the release is deferred. -/
def sampleDeferringTools : HubTools samplePlatform where
  evaluateGates _ _ := .ok sampleBlockedGates
  validateGates _ := .ok sampleBlockedGates
  validateEvaluation _ := .ok sampleUnjudged
  mergeSources _ := SourceBundle.validate
    (.obj [("files", .arr [.obj [("path", .str "a.py"), ("content", .str "pass")]])])
  contextBytes _ := 0
  contextSha256 _ := ""
  fingerprint _ := ""

def sampleOutput (spec : AgentSpec) : AgentTask where
  id := agentSpecs.findIdx fun other => other.name == spec.name
  contextId := newRunId sampleUuid ++ ":" ++ spec.stage.value
  state := .completed
  detail := ""
  history := []
  artifact := some
    { artifactKind := spec.artifactKind
      content := .str ""
      markdown := ""
      humanPrompt := none
      execution := ⟨none, "provider:model", goalVersion, none, none, none, "unknown"⟩ }

def sampleStatements (count : Nat) : List HubLabel := List.replicate count (.step .none)

/-- An agent is delegated to, and its result is published. -/
def sampleDelegated (spec : AgentSpec) : List HubLabel :=
  [.startChild 0 spec.name, .acquire 0 spec.name] ++
    sampleStatements (if spec.cacheable then 3 else 2) ++
    [.advance true, .card true, .advance true, .advance true, .receive (sampleOutput spec),
      .advance true, .advance true, .closed, .receive (sampleOutput spec), .advance true,
      .advance true].map (HubLabel.client 0 spec.name) ++ sampleStatements 6

def sampleStage (count : Nat) (stage : StageName) : List HubLabel :=
  sampleStatements count ++ (agentsByStage stage).flatMap sampleDelegated ++ [.join 0]

/-- A run from its creation to its end. -/
def sampleCompleted : List HubLabel :=
  [.recover none, .create sampleUuid "Build a task list" 0] ++ sampleStatements 4 ++ [.start 0] ++
    sampleStatements 4 ++ [.reply 0 (.host sampleInspection)] ++ sampleStage 12 .intake ++
    sampleStage 7 .requirements ++ sampleStage 7 .discovery ++ sampleStage 7 .planning ++
    sampleStage 7 .implementation ++ sampleStage 12 .integration ++ sampleStage 13 .evaluation ++
    sampleStage 11 .release ++ sampleStatements 4

theorem along_sampleCompleted :
    (orchestration id sampleDeferringTools {}).along Hub.endsSafely .empty sampleCompleted =
      true := by decide +kernel

theorem completed_with_stages_deferred :
    ∃ hub run, (orchestration id sampleDeferringTools {}).run .empty sampleCompleted = some hub ∧
      run ∈ hub.stores.database.runs ∧ run.status = .completed ∧
        run.stages.map StageRecord.name = stageOrder ∧
          ∀ record ∈ run.stages, record.status = .completed := by
  have hends : ((orchestration id sampleDeferringTools {}).run .empty sampleCompleted).any
      (fun hub => hub.stores.database.runs.any fun run => run.status == .completed) = true := by
    decide +kernel
  obtain ⟨hub, hrun, hany⟩ := (Option.any_eq_true _ _).mp hends
  obtain ⟨run, hmember, hstatus⟩ := List.any_eq_true.mp hany
  have hcompleted : run.status = .completed := beq_iff_eq.mp hstatus
  obtain ⟨horder, hstages⟩ := completed_with_stages along_sampleCompleted hrun hmember
  exact ⟨hub, run, hrun, hmember, hcompleted, horder, hstages hcompleted⟩

/-- Every execution is the one that the table of workflows has for its run, so no run has
two of them. -/
theorem execution_filed
    (hrun : (orchestration clock tools settings).run .empty labels = some hub) {task : Nat}
    {coroutine : Coroutine} (hcoroutine : hub.coroutines task = some coroutine) :
    hub.tasks coroutine.runId = some task ∧
      hub.stores.database.hasRun coroutine.runId = true ∧
        ∀ other later, hub.coroutines other = some later → later.runId = coroutine.runId →
          other = task := by
  have haccounted : hub.census.Accounted := (disciplined_identities hrun).invariant
  have hexecution := Hub.executions_of_coroutine hcoroutine
  refine ⟨haccounted.filed task _ hexecution, haccounted.known task _ hexecution,
    fun other later hlater hsame => ?_⟩
  exact haccounted.toFiled.distinct (Hub.executions_of_coroutine hlater) hexecution hsame

end Runs

theorem execution_filed_retried :
    ∃ hub coroutine, (orchestration id sampleFailingTools {}).run .empty sampleRetried = some hub ∧
      hub.coroutines 1 = some coroutine ∧ hub.tasks coroutine.runId = some 1 ∧
        hub.stores.database.hasRun coroutine.runId = true ∧
          ∀ other later, hub.coroutines other = some later → later.runId = coroutine.runId →
            other = 1 := by
  have hends : ((orchestration id sampleFailingTools {}).run .empty sampleRetried).any
      (fun hub => (hub.coroutines 1).isSome) = true := by decide +kernel
  obtain ⟨hub, hrun, hsome⟩ := (Option.any_eq_true _ _).mp hends
  obtain ⟨coroutine, hcoroutine⟩ := Option.isSome_iff_exists.mp hsome
  exact ⟨hub, coroutine, hrun, hcoroutine, execution_filed hrun hcoroutine⟩

end Aidlc
