import Aidlc.Orchestration.Completion

/-! # A run that is over is only retried

The status of a run that is over changes in one place only: in a call of the interface
that retries it, and not before all its executions are gone. Recoveries, cancellations and
the executions of the run leave it as it is.
-/

namespace Aidlc

open Foundation Workflow

/-! ## Who writes to runs -/

namespace Hub

section Quiet

variable {platform : Platform} {clock : Nat → Nat} {tools : HubTools platform}
  {settings : HubSettings} {hub next : Hub} {task : Nat} {agent : String}
  {coroutine : Coroutine} {group : Group} {child : Child}

/-- The call of the interface that runs. -/
def calling (hub : Hub) : Option (RunId × Routine Unit) :=
  match hub.active with
  | some (.handler runId routine) => some (runId, routine)
  | _ => none

theorem calling_of_handler {runId : RunId} {routine : Routine Unit}
    (hactive : hub.active = some (.handler runId routine)) :
    hub.calling = some (runId, routine) := by
  unfold calling
  rw [hactive]

theorem calling_of_none (hactive : hub.active = none) : hub.calling = none := by
  unfold calling
  rw [hactive]

/-- A step that writes to no run, and after which no call of the interface runs. -/
structure Quiet (hub next : Hub) : Prop where
  runs : next.stores.database.runs = hub.stores.database.runs
  calling : next.calling = none

/-- A step is quiet when it writes nothing and calls nothing. -/
theorem Quiet.of_stores (hstores : next.stores = hub.stores) (hcalling : next.calling = none) :
    hub.Quiet next := ⟨by rw [hstores], hcalling⟩

/-- An execution that stops does so quietly. -/
theorem quiet_settle (routine : Routine Unit) : hub.Quiet (hub.settle task coroutine routine) := by
  refine .of_stores (stores_settle routine) ?_
  cases routine with
  | done value => rfl
  | raise raised => rfl
  | call request resume => cases request <;> rfl

theorem quiet_settleChild (routine : Routine ArtifactId) :
    hub.Quiet (hub.settleChild platform settings task coroutine group child routine) := by
  refine .of_stores (stores_settleChild routine) ?_
  cases routine with
  | done value => rfl
  | raise raised => rfl
  | call request resume => cases request <;> rfl

/-- A turn of the client writes to no run. -/
theorem quiet_proceed {invocation : Invocation} {event : ClientEvent} {turn : Turn}
    (hstep : invocation.step settings.client hub.stores.database event = some turn)
    (resume : Except Raised AgentResult → Routine ArtifactId) :
    hub.Quiet (hub.proceed tools settings task coroutine group child resume turn) := by
  refine ⟨?_, ?_⟩
  · rw [stores_proceed]
    exact (Invocation.proceeds_step hstep).confined.runs
  · unfold proceed
    dsimp only
    split
    next => split <;> rfl
    next => exact (quiet_settleChild _).calling
    next => exact (quiet_settleChild _).calling

/-- A reconciliation on behalf of a child writes to no run. -/
theorem quiet_settleAsking {invocation : Invocation}
    {resume : Except Raised AgentResult → Routine ArtifactId} {routine : Routine Json}
    (hnext : hub.settleAsking tools settings task coroutine group child invocation resume routine =
      some next) : hub.Quiet next := by
  have hconclude (result : Except Raised Json)
      (hturn : ((invocation.step settings.client hub.stores.database (inputEvent result)).map
        fun turn => hub.proceed tools settings task coroutine group child resume turn) =
          some next) : hub.Quiet next := by
    obtain ⟨turn, hstep, rfl⟩ := Option.map_eq_some_iff.mp hturn
    exact quiet_proceed hstep resume
  cases routine with
  | done response => exact hconclude (.ok response) hnext
  | raise raised => exact hconclude (.error raised) hnext
  | call request resume =>
      cases hnext
      refine .of_stores rfl ?_
      cases request <;> rfl

/-- Beginning an execution is quiet. -/
theorem quiet_begin (hidle : hub.active = none)
    (hnext : hub.begin tools settings task = some next) : hub.Quiet next := by
  obtain ⟨coroutine, -, hnext⟩ := Option.bind_eq_some_iff.mp hnext
  split at hnext
  next =>
    split at hnext
    next =>
      cases hnext
      exact .of_stores rfl (calling_of_none hidle)
    next =>
      cases hnext
      exact quiet_settle _
  next => cases hnext

theorem quiet_receive {reply : Reply} (hnext : hub.receive task reply = some next) :
    hub.Quiet next := by
  obtain ⟨coroutine, -, hnext⟩ := Option.bind_eq_some_iff.mp hnext
  split at hnext
  next =>
    split at hnext
    next => cases hnext
    next =>
      obtain ⟨answer, -, rfl⟩ := Option.map_eq_some_iff.mp hnext
      exact quiet_settle _
  next => cases hnext

theorem quiet_interrupt (hidle : hub.active = none) (hnext : hub.interrupt task = some next) :
    hub.Quiet next := by
  obtain ⟨coroutine, -, hnext⟩ := Option.bind_eq_some_iff.mp hnext
  split at hnext
  next => cases hnext
  next =>
    dsimp only at hnext
    split at hnext
    next =>
      split at hnext
      next =>
        cases hnext
        exact quiet_settle _
      next => cases hnext
    next =>
      cases hnext
      exact .of_stores rfl (calling_of_none hidle)
    next => cases hnext

theorem quiet_join (hnext : hub.join task = some next) : hub.Quiet next := by
  obtain ⟨coroutine, -, hnext⟩ := Option.bind_eq_some_iff.mp hnext
  split at hnext
  next =>
    split at hnext
    next => cases hnext
    next =>
      cases hnext
      exact quiet_settle _
  next => cases hnext

theorem quiet_startChild (hnext : hub.startChild tools settings task agent = some next) :
    hub.Quiet next := by
  obtain ⟨⟨coroutine, group, child⟩, -, hnext⟩ := Option.bind_eq_some_iff.mp hnext
  dsimp only at hnext
  split at hnext
  next =>
    split at hnext
    next => cases hnext
    next =>
      cases hnext
      exact quiet_settleChild _
  next => cases hnext

theorem quiet_acquire (hnext : hub.acquire platform settings task agent = some next) :
    hub.Quiet next := by
  obtain ⟨⟨coroutine, group, child⟩, -, hnext⟩ := Option.bind_eq_some_iff.mp hnext
  dsimp only at hnext
  split at hnext
  next =>
    split at hnext
    next => cases hnext
    next =>
      cases hnext
      exact quiet_settleChild _
  next => cases hnext

theorem quiet_invoke {event : ClientEvent}
    (hnext : hub.invoke tools settings task agent event = some next) : hub.Quiet next := by
  obtain ⟨⟨coroutine, group, child⟩, -, hnext⟩ := Option.bind_eq_some_iff.mp hnext
  dsimp only at hnext
  split at hnext
  next invocation resume hbody =>
    split at hnext
    next => cases hnext
    next =>
      obtain ⟨turn, hstep, rfl⟩ := Option.map_eq_some_iff.mp hnext
      exact quiet_proceed hstep resume
  next => cases hnext

theorem quiet_poll {accepted : Bool}
    (hnext : hub.poll tools settings task agent accepted = some next) : hub.Quiet next := by
  obtain ⟨⟨coroutine, group, child⟩, -, hnext⟩ := Option.bind_eq_some_iff.mp hnext
  dsimp only at hnext
  split at hnext
  next =>
    split at hnext
    next => cases hnext
    next =>
      split at hnext
      next =>
        split at hnext
        next =>
          split at hnext
          next => exact quiet_settleAsking hnext
          next => cases hnext
        next => cases hnext
      next => exact quiet_settleAsking hnext
  next => cases hnext

theorem quiet_interruptChild (hidle : hub.active = none)
    (hnext : hub.interruptChild tools settings task agent = some next) : hub.Quiet next := by
  obtain ⟨⟨coroutine, group, child⟩, -, hnext⟩ := Option.bind_eq_some_iff.mp hnext
  dsimp only at hnext
  split at hnext
  next => cases hnext
  next =>
    split at hnext
    next =>
      cases hnext
      exact .of_stores rfl (calling_of_none hidle)
    next =>
      split at hnext
      next =>
        cases hnext
        exact quiet_settleChild _
      next => cases hnext
    next invocation resume hbody =>
      obtain ⟨turn, hstep, rfl⟩ := Option.map_eq_some_iff.mp hnext
      exact quiet_proceed hstep resume
    next =>
      split at hnext
      next => exact quiet_settleAsking hnext
      next => cases hnext
    next => cases hnext

theorem quiet_stepDetached {index : Nat} {event : ClientEvent} (hidle : hub.active = none)
    (hnext : hub.stepDetached index event = some next) : hub.Quiet next := by
  obtain ⟨⟨delegation, phase⟩, -, hnext⟩ := Option.bind_eq_some_iff.mp hnext
  obtain ⟨turn, hstep, rfl⟩ := Option.map_eq_some_iff.mp hnext
  exact ⟨(Invocation.confined_cancelStep hstep).1.runs, calling_of_none hidle⟩

/-- Labels that neither are statements, nor begin a call or a startup. -/
def silent : HubLabel → Bool
  | .create .. | .call .. | .step _ | .recover _ => false
  | _ => true

/-- Every label that neither calls nor serves a request is quiet. -/
theorem quiet_of_silent {label : HubLabel} (hsilent : silent label = true)
    (hnext : (orchestration clock tools settings).step hub label = some next) :
    hub.Quiet next := by
  unfold orchestration at hnext
  dsimp only at hnext
  split at hnext
  next => cases hnext
  next hwaits =>
    have hidle (hlabel : label.waits = true) : hub.active = none := by
      rw [← Option.not_isSome_iff_eq_none]
      exact fun hactive => hwaits ⟨hlabel, hactive⟩
    cases label with
    | create id idea now | call runId command | step fault | recover cut => cases hsilent
    | start task => exact quiet_begin (hidle rfl) hnext
    | reply task reply => exact quiet_receive hnext
    | interrupt task => exact quiet_interrupt (hidle rfl) hnext
    | join task => exact quiet_join hnext
    | pop runId =>
        dsimp only at hnext
        split at hnext
        next =>
          split at hnext
          next =>
            cases hnext
            exact .of_stores rfl (calling_of_none (hidle rfl))
          next => cases hnext
        next => cases hnext
    | startChild task agent => exact quiet_startChild hnext
    | acquire task agent => exact quiet_acquire hnext
    | client task agent event => exact quiet_invoke hnext
    | poll task agent accepted => exact quiet_poll hnext
    | interruptChild task agent => exact quiet_interruptChild (hidle rfl) hnext
    | detached index event => exact quiet_stepDetached (hidle rfl) hnext
    | shutdown =>
        dsimp only at hnext
        split at hnext
        next =>
          cases hnext
          exact .of_stores rfl (calling_of_none (hidle rfl))
        next => cases hnext
    | crash =>
        dsimp only at hnext
        split at hnext
        next => cases hnext
        next =>
          cases hnext
          exact .of_stores rfl rfl

/-- Recovery starts no coroutine. -/
theorem active_recover {cut : Option (Nat × Nat)} (hnext : hub.recover cut = some next) :
    next.active = hub.active := by
  unfold recover at hnext
  split at hnext <;>
  · split at hnext
    next =>
      cases hnext
      rfl
    next => cases hnext

/-- A handler that goes on is still the same call. -/
theorem calling_settleHandler {runId other : RunId} {routine rest : Routine Unit}
    (hcalling : (hub.settleHandler runId routine).calling = some (other, rest)) :
    other = runId ∧ rest = routine := by
  cases routine with
  | call request resume =>
      obtain ⟨rfl, rfl⟩ := Prod.mk.inj (Option.some.inj hcalling)
      exact ⟨rfl, rfl⟩
  | done value => cases hcalling
  | raise raised => cases hcalling

/-- The next statement of a call of the interface. -/
theorem served_of_handler {fault : StorageFault} {runId : RunId} {routine : Routine Unit}
    (hactive : hub.active = some (.handler runId routine))
    (hnext : hub.advance clock tools settings fault = some next) :
    ∃ request resume answer served, routine = .call request resume ∧
      hub.serve platform clock runId fault request = some (answer, served) ∧
        next = served.settleHandler runId (resume answer) := by
  unfold advance at hnext
  rw [hactive] at hnext
  cases routine with
  | call request resume =>
      obtain ⟨⟨answer, served⟩, hserve, rfl⟩ := Option.map_eq_some_iff.mp hnext
      exact ⟨request, resume, answer, served, rfl, hserve, rfl⟩
  | done value => cases hnext
  | raise raised => cases hnext

theorem active_of_actor {runId : RunId} (hactor : hub.actor = some (.handler runId)) :
    ∃ routine, hub.active = some (.handler runId routine) := by
  unfold actor at hactor
  split at hactor
  next run routine hactive =>
    obtain rfl := Actor.handler.inj (Option.some.inj hactor)
    exact ⟨routine, hactive⟩
  next =>
    obtain ⟨coroutine, -, heq⟩ := Option.map_eq_some_iff.mp hactor
    cases heq
  next =>
    obtain ⟨⟨coroutine, group, child⟩, -, heq⟩ := Option.map_eq_some_iff.mp hactor
    cases heq
  next => cases hactor

/-- A call of the interface that runs after a statement ran before it. -/
theorem calling_of_advance {fault : StorageFault} {runId : RunId} {routine : Routine Unit}
    (hnext : hub.advance clock tools settings fault = some next)
    (hcalling : next.calling = some (runId, routine)) :
    ∃ request resume answer served, hub.active = some (.handler runId (.call request resume)) ∧
      hub.serve platform clock runId fault request = some (answer, served) ∧
        next = served.settleHandler runId (resume answer) ∧ routine = resume answer := by
  unfold advance at hnext
  split at hnext
  next => cases hnext
  next run request resume hactive =>
    obtain ⟨⟨answer, served⟩, hserve, rfl⟩ := Option.map_eq_some_iff.mp hnext
    obtain ⟨rfl, rfl⟩ := calling_settleHandler hcalling
    exact ⟨request, resume, answer, served, hactive, hserve, rfl, rfl⟩
  next => cases hnext
  next =>
    obtain ⟨coroutine, -, hnext⟩ := Option.bind_eq_some_iff.mp hnext
    split at hnext
    next =>
      obtain ⟨⟨answer, served⟩, -, rfl⟩ := Option.map_eq_some_iff.mp hnext
      cases (quiet_settle _).calling.symm.trans hcalling
    next => cases hnext
  next =>
    obtain ⟨⟨coroutine, group, child⟩, -, hnext⟩ := Option.bind_eq_some_iff.mp hnext
    dsimp only at hnext
    split at hnext
    next =>
      obtain ⟨⟨answer, served⟩, -, rfl⟩ := Option.map_eq_some_iff.mp hnext
      cases (quiet_settleChild _).calling.symm.trans hcalling
    next =>
      obtain ⟨⟨answer, served⟩, -, hsettle⟩ := Option.bind_eq_some_iff.mp hnext
      cases (quiet_settleAsking hsettle).calling.symm.trans hcalling
    next => cases hnext

end Quiet

end Hub

/-! ## Where a run starts again -/

/-- The requests by which a run that is over becomes pending. -/
def Request.restarts : Request → Bool
  | .updateRun status _ _ => status = .pending
  | _ => false

namespace Workflow

/-- The program restarts no run. -/
abbrev Leaves {α : Type} (routine : Routine α) : Prop :=
  routine.Asks fun request => request.restarts = false

theorem leaves_ask {request : Request} (hrestarts : request.restarts = false) :
    Leaves (ask request) := ⟨hrestarts, fun _ => .ofExcept _⟩

/-- Creating a run restarts none. -/
theorem leaves_createRun (idea : String) (now : Nat) : Leaves (createRun idea now) :=
  .bind (leaves_ask rfl) fun _ => .bind (leaves_ask rfl) fun _ =>
    .bind (leaves_ask rfl) fun _ => leaves_ask rfl

theorem leaves_cancel : Leaves cancel := by
  refine .bind (leaves_ask rfl) fun active => ?_
  split
  next =>
    refine .bind (leaves_ask rfl) fun found => ?_
    extract_lets stop
    have hstop (pending : Unit) : Leaves (stop pending) :=
      .bind (leaves_ask rfl) fun _ => leaves_ask rfl
    cases found with
    | none => exact hstop ()
    | some run =>
        dsimp only
        split
        next => exact .bind (leaves_ask rfl) hstop
        next => exact hstop ()
  next => exact .done _

theorem leaves_respond (action : HumanAction) : Leaves (respond action) := by
  refine (conversing_respond action).mono fun request hconverses => ?_
  cases request <;> first | rfl | cases hconverses

end Workflow

namespace Hub

variable {platform : Platform} {clock : Nat → Nat} {tools : HubTools platform}
  {settings : HubSettings} {hub next : Hub} {past : List HubLabel} {label : HubLabel}
  {runId : RunId}

/-- The last of these steps belong to a retry of the run. -/
def Retrying (runId : RunId) (past : List HubLabel) : Prop :=
  ∃ (earlier : List HubLabel) (faults : List StorageFault),
    past = earlier ++ .call runId .retry :: faults.map HubLabel.step

/-- A retry call stays in progress over its own statements. -/
theorem Retrying.step (hretrying : Retrying runId past) (fault : StorageFault) :
    Retrying runId (past ++ [.step fault]) := by
  obtain ⟨earlier, faults, rfl⟩ := hretrying
  refine ⟨earlier, faults ++ [fault], ?_⟩
  rw [List.map_append, List.append_assoc]
  rfl

/-- Only a retry may restart the run of the call that runs. -/
def Traces (past : List HubLabel) (hub : Hub) : Prop :=
  ∀ runId routine, hub.calling = some (runId, routine) → Leaves routine ∨ Retrying runId past

/-- Every step keeps the account of which call is in progress. -/
theorem traces_step (htraces : Traces past hub)
    (hnext : (orchestration clock tools settings).step hub label = some next) :
    Traces (past ++ [label]) next := by
  intro runId routine hcalling
  by_cases hsilent : silent label = true
  · cases (quiet_of_silent hsilent hnext).calling.symm.trans hcalling
  unfold orchestration at hnext
  dsimp only at hnext
  split at hnext
  next => cases hnext
  next hwaits =>
    cases label with
    | create id idea now =>
        dsimp only at hnext
        split at hnext
        next =>
          cases hnext
          obtain ⟨rfl, rfl⟩ := calling_settleHandler hcalling
          exact Or.inl (leaves_createRun idea now)
        next => cases hnext
    | call run command =>
        dsimp only at hnext
        split at hnext
        next =>
          cases hnext
          obtain ⟨rfl, rfl⟩ := calling_settleHandler hcalling
          cases command with
          | retry => exact Or.inr ⟨past, [], rfl⟩
          | cancel => exact Or.inl leaves_cancel
          | respond action => exact Or.inl (leaves_respond action)
        next => cases hnext
    | step fault =>
        obtain ⟨request, resume, answer, served, hactive, -, -, rfl⟩ :=
          calling_of_advance hnext hcalling
        rcases htraces runId _ (calling_of_handler hactive) with hleaves | hretrying
        · exact Or.inl (hleaves.2 answer)
        · exact Or.inr (hretrying.step fault)
    | recover cut =>
        dsimp only at hnext
        split at hnext
        next =>
          have hidle : hub.active = none := by
            rw [← Option.not_isSome_iff_eq_none]
            exact fun hactive => hwaits ⟨rfl, hactive⟩
          have hquiet := calling_of_none ((active_recover hnext).trans hidle)
          cases hquiet.symm.trans hcalling
        next => cases hnext
    | _ => exact absurd rfl hsilent

/-- Every run from the start has the account of the call in progress. -/
theorem traces_of_run {labels : List HubLabel}
    (hrun : (orchestration clock tools settings).run .empty labels = some hub) :
    Traces labels hub := by
  have hempty : Traces [] Hub.empty := by
    intro runId routine hcalling
    cases hcalling
  have htraces : Traces ([] ++ labels) hub := (orchestration clock tools settings).run_history Traces
    (fun _ _ _ _ htraces hnext => traces_step htraces hnext) hempty hrun
  exact htraces

/-! ## How a run that is over changes -/

/-- A statement that makes a run pending that was not restarts it. -/
theorem restarts_of_effects {census later : Census} {request : Request} {answer : request.Answer}
    {actor : Actor} {status : RunStatus}
    (heffects : request.Effects actor runId census later answer)
    (hbefore : census.status runId = some status) (hpending : status ≠ .pending)
    (hafter : later.status runId = some .pending) : request.restarts = true := by
  have hchanged : later.status runId ≠ census.status runId := by
    rw [hbefore, hafter]
    exact fun hsame => hpending (Option.some.inj hsame).symm
  cases request with
  | updateRun written currentStage error =>
      rcases heffects.views_or fun _ _ => Request.noConfusion with ⟨hsame, -⟩ | ⟨hwritten, -⟩
      · exact absurd hsame hchanged
      · rw [hbefore, hafter] at hwritten
        exact decide_eq_true (Option.some.inj hwritten).symm
  | createRun idea now =>
      rcases heffects.runs with hsame | hsame | ⟨_, _, -, hcreated⟩
      · exact absurd (Census.views_of_getRun (Database.getRun_congr hsame runId)).1 hchanged
      · have hkept := Database.getRun_congr (hsame.trans (modifyRun_id _)) runId
        exact absurd (Census.views_of_getRun hkept).1 hchanged
      · have hnone := congrArg (Option.map WorkflowRun.status) (Database.createRun_eq_ok hcreated).1
        cases hnone.symm.trans hbefore
  | _ =>
      rcases heffects.views_or fun _ _ => Request.noConfusion with ⟨hsame, -⟩ | ⟨hsame, -⟩
      · exact absurd hsame hchanged
      · exact absurd (hsame.trans Option.map_id') hchanged

/-- A handler whose statement starts a run again is that of a retry: no other call asks for
it. -/
theorem retrying_of_handler {fault : StorageFault} {status : RunStatus}
    (hordered : hub.census.Ordered) (htraces : Traces past hub)
    (hallows : progress.Allows hub (.step fault)) (hactor : hub.actor = some (.handler runId))
    (hnext : hub.advance clock tools settings fault = some next)
    (hbefore : hub.census.status runId = some status) (hover : status ∈ terminalRunStatuses)
    (hpending : next.census.status runId = some .pending) : Retrying runId past := by
  obtain ⟨routine, hactive⟩ := active_of_actor hactor
  obtain ⟨request, resume, answer, served, rfl, hserve, rfl⟩ := served_of_handler hactive hnext
  refine (htraces runId _ (calling_of_handler hactive)).resolve_left fun hleaves => ?_
  have howned : hub.owner = some runId := by
    unfold owner
    rw [hactive]
  have hrequest : hub.request = some request := by
    unfold Hub.request
    rw [hactive]
  have heffects : request.Effects (.handler runId) runId hub.census served.census answer :=
    effects_of_serve rfl (fun hforeign => absurd rfl (hforeign runId)) hordered.toFiled
      (hallows runId request howned hrequest) hserve
  have hstores : (served.settleHandler runId (resume answer)).census.stores = served.stores :=
    stores_settleHandler _
  have hstarted : served.census.status runId = some .pending := by
    rw [← hpending]
    exact congrArg (fun stores : Stores => (stores.database.getRun runId).map WorkflowRun.status)
      hstores.symm
  have hother : status ≠ .pending := by
    rintro rfl
    revert hover
    decide
  cases hleaves.1.symm.trans (restarts_of_effects heffects hbefore hother hstarted)

/-- The statement by which a run that is over starts again. -/
theorem restarted_of_advance {fault : StorageFault} {status : RunStatus}
    (hdisciplined : hub.Disciplined platform settings progress) (htraces : Traces past hub)
    (hallows : progress.Allows hub (.step fault))
    (hnext : hub.advance clock tools settings fault = some next)
    (hbefore : hub.census.status runId = some status) (hover : status ∈ terminalRunStatuses)
    (hchanged : next.census.status runId ≠ some status) :
    hub.census.Restartable runId ∧ next.census.status runId = some .pending ∧
      hub.census.Idle runId ∧ Retrying runId past := by
  have hordered : hub.census.Ordered := hdisciplined.invariant
  obtain ⟨-, actor, middle, hactor, hmoves, hruns⟩ :=
    disciplined_advance (sound_progress clock tools settings) hdisciplined hallows hnext
  replace hmoves : hub.census.Moves actor middle := hmoves
  have hlater : next.census.status runId = middle.status runId :=
    (Census.views_of_getRun (Database.getRun_congr hruns runId)).1
  rw [hlater] at hchanged ⊢
  have hmoved : middle.status runId ≠ hub.census.status runId := hbefore ▸ hchanged
  -- A run that is over is not open, so only its own handler can move it.
  have hclosed : ¬hub.census.Open runId := by
    rintro ⟨current, hcurrent, hopen⟩
    rw [hbefore, Option.some.injEq] at hcurrent
    exact hopen (hcurrent ▸ hover)
  by_cases howner : actor.runId = some runId
  · cases actor with
    | handler run =>
        obtain rfl := Option.some.inj howner
        obtain ⟨hturn, -, -⟩ := hmoves.turns
        obtain ⟨hidle, hstart, hpending⟩ : hub.census.Idle run ∧
            (hub.census.status run = none ∨ hub.census.Restartable run) ∧
              middle.status run = some .pending := by
          rcases hturn with hsame | ⟨hpending, -⟩ | hstart
          · exact absurd hsame hmoved
          · exact absurd ⟨_, hpending, by decide⟩ hclosed
          · exact hstart
        refine ⟨hstart.resolve_left fun hnone => ?_, hpending, hidle, ?_⟩
        · cases hnone.symm.trans hbefore
        exact retrying_of_handler hordered htraces hallows hactor hnext hbefore hover
          (hlater.trans hpending)
    | execution run retryAttempt =>
        obtain rfl := Option.some.inj howner
        exact absurd hmoves.turns (not_or_intro hmoved hclosed)
    | agent job spec =>
        obtain rfl := Option.some.inj howner
        rcases hmoves.turns.1 with hsame | ⟨hworking, -⟩
        · exact absurd hsame hmoved
        · exact absurd hworking.open hclosed
    | surroundings => cases howner
  · exact absurd (Census.views_of_getRun (hmoves.others runId howner)).1 hmoved

/-- A run that is over changes only where it is retried. -/
theorem restarted_of_step {status : RunStatus}
    (hdisciplined : hub.Disciplined platform settings progress) (htraces : Traces past hub)
    (hsafely : hub.endsSafely label = true)
    (hnext : (orchestration clock tools settings).step hub label = some next)
    (hbefore : hub.census.status runId = some status) (hover : status ∈ terminalRunStatuses)
    (hchanged : next.census.status runId ≠ some status) :
    (∃ fault, label = .step fault) ∧ hub.census.Restartable runId ∧
      next.census.status runId = some .pending ∧ hub.census.Idle runId ∧ Retrying runId past := by
  have hordered : hub.census.Ordered := hdisciplined.invariant
  have hkept : next.stores.database.runs ≠ hub.stores.database.runs := fun hruns =>
    hchanged ((Census.views_of_getRun (Database.getRun_congr hruns runId)).1.trans hbefore)
  by_cases hsilent : silent label = true
  · exact absurd (quiet_of_silent hsilent hnext).runs hkept
  unfold orchestration at hnext
  dsimp only at hnext
  split at hnext
  next => cases hnext
  next =>
    cases label with
    | create id idea now =>
        dsimp only at hnext
        split at hnext
        next =>
          cases hnext
          exact absurd (by rw [stores_settleHandler]) hkept
        next => cases hnext
    | call run command =>
        dsimp only at hnext
        split at hnext
        next =>
          cases hnext
          exact absurd (by rw [stores_settleHandler]) hkept
        next => cases hnext
    | step fault =>
        exact ⟨⟨fault, rfl⟩, restarted_of_advance hdisciplined htraces
          (allows_of_endsSafely hordered.toFiled hsafely) hnext hbefore hover hchanged⟩
    | recover cut =>
        dsimp only at hnext
        split at hnext
        next =>
          obtain ⟨run, hrun, rfl⟩ := Option.map_eq_some_iff.mp hbefore
          obtain ⟨later, hlater, hstop⟩ := (stops_recover hordered.lawful.keyed hnext).getRun hrun
          rcases hstop with rfl | ⟨hunfinished, -⟩
          · exact absurd (Census.status_of_getRun hlater) hchanged
          · have hlive : ∀ status ∈ terminalRunStatuses,
                status ∉ [RunStatus.pending, .running, .inputRequired] := by decide
            exact absurd (of_decide_eq_true hunfinished) (hlive _ hover)
        next => cases hnext
    | _ => exact absurd rfl hsilent

end Hub

section Runs

variable {platform : Platform} {clock : Nat → Nat} {tools : HubTools platform}
  {settings : HubSettings} {labels : List HubLabel} {hub : Hub}

/-- Whatever runs, is canceled or interrupted: only a statement of a retry changes the status
of a run that is over, unless it is completed, and no execution of the run is left then. -/
theorem over_until_retried {label : HubLabel} {next : Hub} {run later : WorkflowRun}
    (halong : (orchestration clock tools settings).along Hub.endsSafely .empty labels = true)
    (hrun : (orchestration clock tools settings).run .empty labels = some hub)
    (hsafely : hub.endsSafely label = true)
    (hnext : (orchestration clock tools settings).step hub label = some next)
    (hbefore : hub.stores.database.getRun run.runId = some run)
    (hover : run.status ∈ terminalRunStatuses)
    (hafter : next.stores.database.getRun run.runId = some later)
    (hchanged : later.status ≠ run.status) :
    (∃ fault, label = .step fault) ∧
      run.status ∈ [RunStatus.failed, .blocked, .canceled] ∧ later.status = .pending ∧
      (∀ task coroutine, hub.coroutines task = some coroutine → coroutine.runId ≠ run.runId) ∧
        Hub.Retrying run.runId labels := by
  have hstatus : hub.census.status run.runId = some run.status := Census.status_of_getRun hbefore
  have hlater : next.census.status run.runId = some later.status := Census.status_of_getRun hafter
  obtain ⟨hlabel, ⟨status, hmember, hrestartable⟩, hpending, hidle, hretrying⟩ :=
    Hub.restarted_of_step (disciplined_progress halong hrun) (Hub.traces_of_run hrun) hsafely hnext
      hstatus hover fun hsame => hchanged (Option.some.inj (hlater.symm.trans hsame))
  rw [hstatus, Option.some.injEq] at hrestartable
  rw [hlater, Option.some.injEq] at hpending
  exact ⟨hlabel, hrestartable ▸ hmember, hpending, fun task coroutine hcoroutine =>
    hidle task _ (Hub.executions_of_coroutine hcoroutine), hretrying⟩

/-- A completed run stays completed, whatever the hub does later. -/
theorem completed_forever {more : List HubLabel} {last : Hub} {run : WorkflowRun}
    (halong : (orchestration clock tools settings).along Hub.endsSafely .empty labels = true)
    (hrun : (orchestration clock tools settings).run .empty labels = some hub)
    (hmore : (orchestration clock tools settings).along Hub.endsSafely hub more = true)
    (hlast : (orchestration clock tools settings).run hub more = some last)
    (hbefore : hub.stores.database.getRun run.runId = some run)
    (hcompleted : run.status = .completed) :
    ∃ later, last.stores.database.getRun run.runId = some later ∧ later.status = .completed := by
  have hstatus : hub.census.status run.runId = some .completed :=
    hcompleted ▸ Census.status_of_getRun hbefore
  have hends := (orchestration clock tools settings).run_invariant_along
    (fun hub => hub.Disciplined platform settings progress ∧ (∃ past, Hub.Traces past hub) ∧
      hub.census.status run.runId = some .completed) Hub.endsSafely
    (fun hub label next hsafely hknown hnext => ?_) hmore
    ⟨disciplined_progress halong hrun, ⟨labels, Hub.traces_of_run hrun⟩, hstatus⟩ hlast
  · obtain ⟨later, hlater, hstatus⟩ := Option.map_eq_some_iff.mp hends.2.2
    exact ⟨later, hlater, hstatus⟩
  · obtain ⟨hdisciplined, ⟨past, htraces⟩, hstatus⟩ := hknown
    have hordered : hub.census.Ordered := hdisciplined.invariant
    refine ⟨Regime.disciplined_step (sound_progress clock tools settings) hdisciplined
      (Hub.allows_of_endsSafely hordered.toFiled hsafely) hnext,
      ⟨past ++ [label], Hub.traces_step htraces hnext⟩, by_contra fun hchanged => ?_⟩
    obtain ⟨-, ⟨status, hmember, hrestartable⟩, -⟩ :=
      Hub.restarted_of_step hdisciplined htraces hsafely hnext hstatus (by decide) hchanged
    rw [hstatus, Option.some.injEq] at hrestartable
    subst hrestartable
    revert hmember
    decide

end Runs

/-- A run that failed, up to the statement that makes it pending again. -/
def sampleFailed : List HubLabel := sampleRetried.take 42

theorem over_until_retried_failed :
    ∃ hub next run later,
      (orchestration id sampleFailingTools {}).run .empty sampleFailed = some hub ∧
        (orchestration id sampleFailingTools {}).step hub (.step .none) = some next ∧
          hub.stores.database.getRun (newRunId sampleUuid) = some run ∧
            next.stores.database.getRun (newRunId sampleUuid) = some later ∧
              run.status = .failed ∧ later.status = .pending ∧
                Hub.Retrying run.runId sampleFailed := by
  have halong : (orchestration id sampleFailingTools {}).along Hub.endsSafely .empty sampleFailed =
      true := by decide +kernel
  have hends : ((orchestration id sampleFailingTools {}).run .empty sampleFailed).any
      (fun hub => hub.endsSafely (.step .none) &&
        ((orchestration id sampleFailingTools {}).step hub (.step .none)).any fun next =>
          (hub.stores.database.getRun (newRunId sampleUuid)).any fun run =>
            (next.stores.database.getRun (newRunId sampleUuid)).any fun later =>
              run.status == .failed && later.status == .pending) = true := by decide +kernel
  obtain ⟨hub, hrun, hend⟩ := (Option.any_eq_true _ _).mp hends
  obtain ⟨hsafely, hany⟩ := Bool.and_eq_true_iff.mp hend
  obtain ⟨next, hnext, hany⟩ := (Option.any_eq_true _ _).mp hany
  obtain ⟨run, hfound, hany⟩ := (Option.any_eq_true _ _).mp hany
  obtain ⟨later, hlater, hstatus⟩ := (Option.any_eq_true _ _).mp hany
  obtain ⟨hfailed, hpending⟩ := Bool.and_eq_true_iff.mp hstatus
  replace hfailed : run.status = .failed := beq_iff_eq.mp hfailed
  replace hpending : later.status = .pending := beq_iff_eq.mp hpending
  have hid := (Database.mem_of_getRun hfound).2
  have hretrying := over_until_retried halong hrun hsafely hnext (hid ▸ hfound)
    (by rw [hfailed]; decide) (hid ▸ hlater) (by rw [hfailed, hpending]; decide)
  exact ⟨hub, next, run, later, hrun, hnext, hfound, hlater, hfailed, hpending, hretrying.2.2.2.2⟩

theorem completed_forever_retried :
    ∃ hub last run later,
      (orchestration id sampleDeferringTools {}).run .empty sampleCompleted = some hub ∧
        (orchestration id sampleDeferringTools {}).run hub
          (.call (newRunId sampleUuid) .retry :: sampleStatements 1) = some last ∧
          hub.stores.database.getRun (newRunId sampleUuid) = some run ∧ run.status = .completed ∧
            last.stores.database.getRun run.runId = some later ∧ later.status = .completed := by
  have hends : ((orchestration id sampleDeferringTools {}).run .empty sampleCompleted).any
      (fun hub => (orchestration id sampleDeferringTools {}).along Hub.endsSafely hub
          (.call (newRunId sampleUuid) .retry :: sampleStatements 1) &&
        ((orchestration id sampleDeferringTools {}).run hub
          (.call (newRunId sampleUuid) .retry :: sampleStatements 1)).isSome &&
        (hub.stores.database.getRun (newRunId sampleUuid)).any fun run =>
          run.status == .completed) = true := by decide +kernel
  obtain ⟨hub, hrun, hend⟩ := (Option.any_eq_true _ _).mp hends
  obtain ⟨hend, hany⟩ := Bool.and_eq_true_iff.mp hend
  obtain ⟨hmore, hsome⟩ := Bool.and_eq_true_iff.mp hend
  obtain ⟨last, hlast⟩ := Option.isSome_iff_exists.mp hsome
  obtain ⟨run, hfound, hstatus⟩ := (Option.any_eq_true _ _).mp hany
  have hcompleted : run.status = .completed := beq_iff_eq.mp hstatus
  have hbefore : hub.stores.database.getRun run.runId = some run := by
    rw [(Database.mem_of_getRun hfound).2]
    exact hfound
  obtain ⟨later, hlater, hkept⟩ :=
    completed_forever along_sampleCompleted hrun hmore hlast hbefore hcompleted
  exact ⟨hub, last, run, later, hrun, hlast, hfound, hcompleted, hlater, hkept⟩

end Aidlc
