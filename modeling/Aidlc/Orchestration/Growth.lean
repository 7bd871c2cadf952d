import Aidlc.Orchestration.Order

/-! # The logs of the hub only grow

Whatever the hub does, in order or not: every statement adds to the end of the logs it
writes, and no run is lost. What moves programs on leaves the stores alone.
-/

namespace Aidlc

open Foundation

namespace Hub

variable {platform : Platform} {clock : Nat → Nat} {settings : HubSettings}
  {tools : HubTools platform} {hub next : Hub} {runId : RunId} {task : Nat}
  {coroutine : Coroutine} {group : Group} {child : Child} {fault : StorageFault}

/-- Where a handler stops, the stores stay as it left them. -/
@[simp] theorem stores_settleHandler (routine : Routine Unit) :
    (hub.settleHandler runId routine).stores = hub.stores := by
  cases routine <;> rfl

@[simp] theorem stores_settle (routine : Routine Unit) :
    (hub.settle task coroutine routine).stores = hub.stores := by
  unfold settle
  split <;> rfl

@[simp] theorem stores_settleChild (routine : Routine ArtifactId) :
    (hub.settleChild platform settings task coroutine group child routine).stores =
      hub.stores := by
  unfold settleChild
  split <;> rfl

/-- A child takes the database from the turn of its client. -/
theorem stores_proceed (resume : Except Raised AgentResult → Routine ArtifactId) (turn : Turn) :
    (hub.proceed tools settings task coroutine group child resume turn).stores.database =
      turn.database := by
  unfold proceed
  dsimp only
  split
  next => split <;> rfl
  next => rw [stores_settleChild]; rfl
  next => rw [stores_settleChild]; rfl

/-- A turn of the client lets the database grow. -/
theorem grows_proceed {invocation : Invocation} {event : ClientEvent} {turn : Turn}
    (hstep : invocation.step settings.client hub.stores.database event = some turn)
    (resume : Except Raised AgentResult → Routine ArtifactId) :
    hub.stores.database.Grows
      (hub.proceed tools settings task coroutine group child resume turn).stores.database := by
  rw [stores_proceed]
  exact (Invocation.proceeds_step hstep).confined.writes.grows

/-- A reconciliation on behalf of a child lets the database grow. -/
theorem grows_settleAsking {invocation : Invocation}
    {resume : Except Raised AgentResult → Routine ArtifactId} {routine : Routine Json}
    (hnext : hub.settleAsking tools settings task coroutine group child invocation resume routine =
      some next) : hub.stores.database.Grows next.stores.database := by
  have hconclude (result : Except Raised Json)
      (hturn : ((invocation.step settings.client hub.stores.database (inputEvent result)).map
        fun turn => hub.proceed tools settings task coroutine group child resume turn) =
          some next) : hub.stores.database.Grows next.stores.database := by
    obtain ⟨turn, hstep, rfl⟩ := Option.map_eq_some_iff.mp hturn
    exact grows_proceed hstep resume
  cases routine with
  | done response => exact hconclude (.ok response) hnext
  | raise raised => exact hconclude (.error raised) hnext
  | call request resume =>
      cases hnext
      exact .refl _

/-- Serving a request lets the database grow, whatever it asks for. -/
theorem grows_serve {request : Request} {answer : request.Answer}
    (hserve : hub.serve platform clock runId fault request = some (answer, next)) :
    hub.stores.database.Grows next.stores.database := by
  cases request with
  | activeTask cancelable =>
      cases hserve
      exact .refl _
  | createTask attempt =>
      cases hserve
      exact .refl _
  | cancelTask =>
      obtain ⟨-, rfl⟩ := Prod.mk.inj (Option.some.inj hserve)
      split <;> exact .refl _
  | _ =>
      obtain ⟨after, hanswer, rfl⟩ := stored_of_serve rfl hserve
      exact (answer_writes hanswer).grows

/-- The next statement of whichever coroutine is active lets the database grow. -/
theorem grows_advance (hnext : hub.advance clock tools settings fault = some next) :
    hub.stores.database.Grows next.stores.database := by
  unfold advance at hnext
  split at hnext
  next => cases hnext
  next =>
    obtain ⟨⟨answer, after⟩, hserve, rfl⟩ := Option.map_eq_some_iff.mp hnext
    rw [stores_settleHandler]
    exact grows_serve hserve
  next => cases hnext
  next =>
    obtain ⟨coroutine, -, hnext⟩ := Option.bind_eq_some_iff.mp hnext
    split at hnext
    next =>
      obtain ⟨⟨answer, after⟩, hserve, rfl⟩ := Option.map_eq_some_iff.mp hnext
      rw [stores_settle]
      exact grows_serve hserve
    next => cases hnext
  next =>
    obtain ⟨⟨coroutine, group, child⟩, -, hnext⟩ := Option.bind_eq_some_iff.mp hnext
    dsimp only at hnext
    split at hnext
    next =>
      obtain ⟨⟨answer, after⟩, hserve, rfl⟩ := Option.map_eq_some_iff.mp hnext
      rw [stores_settleChild]
      exact grows_serve hserve
    next =>
      obtain ⟨⟨answer, after⟩, hserve, hsettle⟩ := Option.bind_eq_some_iff.mp hnext
      exact (grows_serve hserve).trans (grows_settleAsking hsettle)
    next => cases hnext

/-- A step that leaves the stores alone leaves the database. -/
theorem grows_of_stores (hsame : next.stores = hub.stores) :
    hub.stores.database.Grows next.stores.database := by
  rw [hsame]
  exact .refl _

/-- Beginning an execution does not touch the stores. -/
theorem stores_begin (hnext : hub.begin tools settings task = some next) :
    next.stores = hub.stores := by
  obtain ⟨coroutine, -, hnext⟩ := Option.bind_eq_some_iff.mp hnext
  split at hnext
  next =>
    split at hnext
    next =>
      cases hnext
      rfl
    next =>
      cases hnext
      exact stores_settle _
  next => cases hnext

theorem stores_receive {reply : Reply} (hnext : hub.receive task reply = some next) :
    next.stores = hub.stores := by
  obtain ⟨coroutine, -, hnext⟩ := Option.bind_eq_some_iff.mp hnext
  split at hnext
  next =>
    split at hnext
    next => cases hnext
    next =>
      obtain ⟨answer, -, rfl⟩ := Option.map_eq_some_iff.mp hnext
      exact stores_settle _
  next => cases hnext

theorem stores_interrupt (hnext : hub.interrupt task = some next) : next.stores = hub.stores := by
  obtain ⟨coroutine, -, hnext⟩ := Option.bind_eq_some_iff.mp hnext
  split at hnext
  next => cases hnext
  next =>
    dsimp only at hnext
    split at hnext
    next =>
      split at hnext
      next =>
        cases hnext
        exact stores_settle _
      next => cases hnext
    next =>
      cases hnext
      rfl
    next => cases hnext

theorem stores_join (hnext : hub.join task = some next) : next.stores = hub.stores := by
  obtain ⟨coroutine, -, hnext⟩ := Option.bind_eq_some_iff.mp hnext
  split at hnext
  next =>
    split at hnext
    next => cases hnext
    next =>
      cases hnext
      exact stores_settle _
  next => cases hnext

variable {agent : String}

theorem stores_startChild (hnext : hub.startChild tools settings task agent = some next) :
    next.stores = hub.stores := by
  obtain ⟨⟨coroutine, group, child⟩, -, hnext⟩ := Option.bind_eq_some_iff.mp hnext
  dsimp only at hnext
  split at hnext
  next =>
    split at hnext
    next => cases hnext
    next =>
      cases hnext
      exact stores_settleChild _
  next => cases hnext

theorem stores_acquire (hnext : hub.acquire platform settings task agent = some next) :
    next.stores = hub.stores := by
  obtain ⟨⟨coroutine, group, child⟩, -, hnext⟩ := Option.bind_eq_some_iff.mp hnext
  dsimp only at hnext
  split at hnext
  next =>
    split at hnext
    next => cases hnext
    next =>
      cases hnext
      exact stores_settleChild _
  next => cases hnext

/-- A client's event lets the database grow. -/
theorem grows_invoke {event : ClientEvent}
    (hnext : hub.invoke tools settings task agent event = some next) :
    hub.stores.database.Grows next.stores.database := by
  obtain ⟨⟨coroutine, group, child⟩, -, hnext⟩ := Option.bind_eq_some_iff.mp hnext
  dsimp only at hnext
  split at hnext
  next invocation resume hbody =>
    split at hnext
    next => cases hnext
    next =>
      obtain ⟨turn, hstep, rfl⟩ := Option.map_eq_some_iff.mp hnext
      exact grows_proceed hstep resume
  next => cases hnext

theorem grows_poll {accepted : Bool} (hnext : hub.poll tools settings task agent accepted = some next) :
    hub.stores.database.Grows next.stores.database := by
  obtain ⟨⟨coroutine, group, child⟩, -, hnext⟩ := Option.bind_eq_some_iff.mp hnext
  dsimp only at hnext
  split at hnext
  next =>
    split at hnext
    next => cases hnext
    next =>
      split at hnext
      next =>
        split at hnext
        next =>
          split at hnext
          next => exact grows_settleAsking hnext
          next => cases hnext
        next => cases hnext
      next => exact grows_settleAsking hnext
  next => cases hnext

theorem grows_interruptChild
    (hnext : hub.interruptChild tools settings task agent = some next) :
    hub.stores.database.Grows next.stores.database := by
  obtain ⟨⟨coroutine, group, child⟩, -, hnext⟩ := Option.bind_eq_some_iff.mp hnext
  dsimp only at hnext
  split at hnext
  next => cases hnext
  next =>
    split at hnext
    next =>
      cases hnext
      exact .refl _
    next =>
      split at hnext
      next =>
        cases hnext
        exact grows_of_stores (stores_settleChild _)
      next => cases hnext
    next invocation resume hbody =>
      obtain ⟨turn, hstep, rfl⟩ := Option.map_eq_some_iff.mp hnext
      exact grows_proceed hstep resume
    next =>
      split at hnext
      next => exact grows_settleAsking hnext
      next => cases hnext
    next => cases hnext

theorem grows_stepDetached {index : Nat} {event : ClientEvent}
    (hnext : hub.stepDetached index event = some next) :
    hub.stores.database.Grows next.stores.database := by
  obtain ⟨⟨delegation, phase⟩, -, hnext⟩ := Option.bind_eq_some_iff.mp hnext
  obtain ⟨turn, hstep, rfl⟩ := Option.map_eq_some_iff.mp hnext
  exact (Invocation.confined_cancelStep hstep).1.writes.grows

/-- Any number of the recovery's statements for one run lets the database grow. -/
theorem grows_recoverStatements (database : Database) (run : WorkflowRun) (count : Nat) :
    database.Grows (database.recoverStatements run count) := by
  unfold Database.recoverStatements
  split
  next =>
    cases run.currentStage with
    | none =>
        dsimp only
        split
        next => exact .refl _
        next => exact .refl _
        next => exact Database.grows_updateRun _ _ _ _
    | some stage =>
        have hmarked := @Database.grows_updateStage database run.runId stage .blocked
          (some Database.interruptedReason)
        dsimp only
        split
        next => exact .refl _
        next => exact hmarked
        next => exact hmarked.trans (Database.grows_updateRun _ _ _ _)
  next => exact .refl _

/-- A recovery that stopped anywhere lets the database grow. -/
theorem grows_recoverPart {database last : Database} {runs statements : Nat}
    (hlast : database.recoverPart runs statements = .ok last) : database.Grows last := by
  unfold Database.recoverPart at hlast
  dsimp only at hlast
  cases hfold : ((database.listRuns 10000).take runs).foldlM Database.recoverRun database with
  | error error =>
      rw [hfold] at hlast
      cases hlast
  | ok recovered =>
      rw [hfold] at hlast
      have hgrows := Database.grows_foldlM hfold
      obtain rfl := Except.ok.inj hlast
      split
      next run _ => exact hgrows.trans (grows_recoverStatements recovered run statements)
      next => exact hgrows

/-- A restart recovers by growing the database. -/
theorem grows_recover {cut : Option (Nat × Nat)} (hnext : hub.recover cut = some next) :
    hub.stores.database.Grows next.stores.database := by
  unfold recover at hnext
  split at hnext
  next =>
    split at hnext
    next database hrecovered =>
      cases hnext
      exact Database.grows_foldlM hrecovered
    next => cases hnext
  next =>
    split at hnext
    next database hrecovered =>
      cases hnext
      exact grows_recoverPart hrecovered
    next => cases hnext

/-- Whatever the hub does, logs only grow at their end, and no run is lost. -/
theorem grows_step {label : HubLabel}
    (hnext : (orchestration clock tools settings).step hub label = some next) :
    hub.stores.database.Grows next.stores.database := by
  unfold orchestration at hnext
  dsimp only at hnext
  split at hnext
  next => cases hnext
  next =>
    cases label with
    | create id idea now =>
        dsimp only at hnext
        split at hnext
        next =>
          cases hnext
          exact grows_of_stores (stores_settleHandler _)
        next => cases hnext
    | call runId command =>
        dsimp only at hnext
        split at hnext
        next =>
          cases hnext
          exact grows_of_stores (stores_settleHandler _)
        next => cases hnext
    | step fault => exact grows_advance hnext
    | start task => exact grows_of_stores (stores_begin hnext)
    | reply task reply => exact grows_of_stores (stores_receive hnext)
    | interrupt task => exact grows_of_stores (stores_interrupt hnext)
    | join task => exact grows_of_stores (stores_join hnext)
    | pop runId =>
        dsimp only at hnext
        split at hnext
        next =>
          split at hnext
          next =>
            cases hnext
            exact .refl _
          next => cases hnext
        next => cases hnext
    | startChild task agent => exact grows_of_stores (stores_startChild hnext)
    | acquire task agent => exact grows_of_stores (stores_acquire hnext)
    | client task agent event => exact grows_invoke hnext
    | poll task agent accepted => exact grows_poll hnext
    | interruptChild task agent => exact grows_interruptChild hnext
    | detached index event => exact grows_stepDetached hnext
    | shutdown =>
        dsimp only at hnext
        split at hnext
        next =>
          cases hnext
          exact .refl _
        next => cases hnext
    | crash =>
        dsimp only at hnext
        split at hnext
        next => cases hnext
        next =>
          cases hnext
          exact .refl _
    | recover cut =>
        dsimp only at hnext
        split at hnext
        next => exact grows_recover hnext
        next => cases hnext

end Hub

end Aidlc
