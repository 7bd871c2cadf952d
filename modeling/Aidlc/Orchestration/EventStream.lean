import Aidlc.Orchestration.Growth

/-! # The event stream of a run

A client reads the events of one run over any number of connections, each of which goes
on after the last id the client received. Events are stored and read between two awaits
of one event loop; while an event is being sent, any number of others may be stored.
-/

namespace Aidlc

open Foundation

/-! ## Cursors -/

section Cursors

variable {α : Type} (key : α → Nat)

/-- The key to go on after. -/
def lastKey (items : List α) : Nat := (items.getLast?.map key).getD 0

/-- In ascending order, what has a greater key than the last of the first is the rest. -/
theorem filter_lastKey {first rest : List α}
    (hascending : (first ++ rest).Pairwise fun one other => key one < key other)
    (hpositive : ∀ item ∈ first ++ rest, 0 < key item) :
    (first ++ rest).filter (fun item => key item > lastKey key first) = rest := by
  rw [List.filter_append]
  have hrest : rest.filter (fun item => key item > lastKey key first) = rest := by
    refine List.filter_eq_self.mpr fun item hitem => decide_eq_true ?_
    unfold lastKey
    cases hlast : first.getLast? with
    | none => exact hpositive item (List.mem_append_right _ hitem)
    | some last =>
        exact (List.pairwise_append.mp hascending).2.2 last (List.mem_of_getLast? hlast) item hitem
  have hfirst : first.filter (fun item => key item > lastKey key first) = [] := by
    refine List.filter_eq_nil_iff.mpr fun item hitem => ?_
    rw [decide_eq_true_eq, not_lt]
    obtain ⟨start, last, rfl⟩ : ∃ start last, first = start ++ [last] :=
      ⟨_, _, (List.dropLast_concat_getLast (List.ne_nil_of_mem hitem)).symm⟩
    have hlast : lastKey key (start ++ [last]) = key last := by simp [lastKey]
    rw [hlast]
    rcases List.mem_append.mp hitem with hstart | hsame
    · have horder := (List.pairwise_append.mp (List.pairwise_append.mp hascending).1).2.2
      exact (horder item hstart last (List.mem_singleton_self _)).le
    · rw [List.mem_singleton.mp hsame]
  rw [hfirst, hrest, List.nil_append]

end Cursors

namespace Database

variable {database next : Database} {runId : RunId}

/-- The events of a run. -/
def log (database : Database) (runId : RunId) : List EventRecord := database.eventsAfter runId 0

theorem eventsAfter_eq_filter (eventId : Nat) :
    database.eventsAfter runId eventId =
      (database.log runId).filter fun event => event.eventId > eventId := by
  unfold log eventsAfter
  rw [List.filter_filter]
  refine List.filter_congr fun event _ => ?_
  rw [Bool.eq_iff_iff]
  simp only [Bool.and_eq_true, decide_eq_true_eq, gt_iff_lt]
  constructor
  · intro ⟨hrun, hlater⟩
    exact ⟨hlater, hrun, Nat.zero_lt_of_lt hlater⟩
  · intro ⟨hlater, hrun, _⟩
    exact ⟨hrun, hlater⟩

theorem Numbered.log_ascending (hnumbered : database.Numbered) (runId : RunId) :
    (database.log runId).Pairwise fun first second => first.eventId < second.eventId :=
  hnumbered.ascending.filter _

theorem Grows.log (hgrows : database.Grows next) (runId : RunId) :
    database.log runId <+: next.log runId :=
  hgrows.events.filter _

/-- Where a client has received the first events of a run, the others come next. -/
theorem eventsAfter_of_log (hnumbered : database.Numbered) {first rest : List EventRecord}
    (hlog : database.log runId = first ++ rest) :
    database.eventsAfter runId (lastKey EventRecord.eventId first) = rest := by
  rw [eventsAfter_eq_filter, hlog]
  refine filter_lastKey _ ?_ fun event hevent => ?_
  · rw [← hlog]
    exact hnumbered.log_ascending runId
  · rw [← hlog] at hevent
    exact hnumbered.positive event (mem_eventsAfter.mp hevent).1

end Database

/-! ## Connections -/

/-- Where `event_source` is suspended. -/
inductive Pause where
  /-- at `is_disconnected` -/
  | checking
  /-- in the `yield` of an event, with these events to follow -/
  | yielding (rest : List EventRecord)
  /-- in the `yield` of a keep-alive -/
  | keepingAlive
  | sleeping
  /-- The server ended the stream. -/
  | ended
  deriving DecidableEq

/-- A connection, with the ids that were sent over it and not received so far. -/
structure Connection where
  cursor : Nat
  pause : Pause
  flight : List Nat
  deriving DecidableEq

namespace Connection

/-- `yield` the first event, and remember it as the last one sent. -/
def emit (connection : Connection) (event : EventRecord) (rest : List EventRecord) : Connection where
  cursor := event.eventId
  pause := .yielding rest
  flight := connection.flight ++ [event.eventId]

/-- What follows the events of a round, of which there may be none. -/
def conclude (connection : Connection) (database : Database) (runId : RunId) (idle : Bool) :
    Connection :=
  let isOver := match database.getRun runId with
    | none => true
    | some run => run.status ∈ terminalRunStatuses && idle
  { connection with
    pause := if isOver then .ended else if idle then .keepingAlive else .sleeping }

/-- `event_source` goes on to its next await. -/
def resume (connection : Connection) (database : Database) (runId : RunId) : Option Connection :=
  match connection.pause with
  | .checking =>
    match database.eventsAfter runId connection.cursor with
    | [] => some (connection.conclude database runId true)
    | event :: rest => some (connection.emit event rest)
  | .yielding (event :: rest) => some (connection.emit event rest)
  | .yielding [] => some (connection.conclude database runId false)
  | .keepingAlive => some { connection with pause := .sleeping }
  | .sleeping => some { connection with pause := .checking }
  | .ended => none

/-- The events that were read and not sent so far. -/
def queue (connection : Connection) : List EventRecord :=
  match connection.pause with
  | .yielding rest => rest
  | _ => []

end Connection

/-- The hub and a client of the stream of one run, which remembers the ids it received. -/
structure Watch where
  hub : Hub
  received : List Nat
  connection : Option Connection

inductive WatchLabel where
  | hub (label : HubLabel)
  /-- The client connects, with the last id it received as `Last-Event-ID`. -/
  | connect
  /-- The server goes on with the stream. -/
  | resume
  /-- The next event reaches the client. -/
  | receive
  /-- The connection ends, and what is under way is lost. -/
  | disconnect
  deriving DecidableEq

namespace Watch

def start : Watch := ⟨.empty, [], none⟩

def log (watch : Watch) (runId : RunId) : List EventRecord := watch.hub.stores.database.log runId

/-- The steps that keep the run in order. -/
def keepsOrder (watch : Watch) : WatchLabel → Bool
  | .hub label => watch.hub.keepsOrder label
  | _ => true

/-- The server ended the stream. -/
def closed (watch : Watch) : Bool :=
  watch.connection.any fun connection => connection.pause == .ended

/-- The event loop is free, in a process that serves. -/
def free (watch : Watch) : Bool := watch.hub.active.isNone && watch.hub.phase != .down

end Watch

/-- The hub with a client of the stream of a run. -/
def streaming {platform : Platform} (clock : Nat → Nat) (tools : HubTools platform)
    (settings : HubSettings) (runId : RunId) : System Watch WatchLabel where
  step watch
    | .hub label =>
      ((orchestration clock tools settings).step watch.hub label).map fun hub =>
        { watch with
          hub
          connection := if hub.phase = .down then none else watch.connection }
    | .connect =>
      if watch.free && watch.connection.isNone &&
          (watch.hub.stores.database.getRun runId).isSome then
        some { watch with connection := some ⟨lastKey id watch.received, .checking, []⟩ }
      else none
    | .resume =>
      if watch.free then
        watch.connection.bind fun connection =>
          (connection.resume watch.hub.stores.database runId).map fun connection =>
            { watch with connection := some connection }
      else none
    | .receive =>
      watch.connection.bind fun connection =>
        match connection.flight with
        | [] => none
        | eventId :: flight =>
          some { watch with
            received := watch.received ++ [eventId]
            connection := some { connection with flight } }
    | .disconnect =>
      if watch.connection.isSome then some { watch with connection := none } else none

/-! ## What reaches the client -/

namespace Watch

section Following

variable {platform : Platform} {clock : Nat → Nat} {tools : HubTools platform}
  {settings : HubSettings} {runId : RunId} {watch next last : Watch} {connection : Connection}

/-- The ids received so far begin the log of the run, which is in increasing order. -/
structure InOrder (runId : RunId) (watch : Watch) : Prop where
  received : watch.received <+: (watch.log runId).map EventRecord.eventId
  ascending : ((watch.log runId).map EventRecord.eventId).Pairwise (· < ·)

/-- What was sent over a connection, what it has to send, and what it has not read yet. -/
def Sends (runId : RunId) (watch : Watch) (connection : Connection) : Prop :=
  watch.hub.stores.database.hasRun runId = true ∧
    ∃ told rest, watch.log runId = told ++ (connection.queue ++ rest) ∧
      told.map EventRecord.eventId = watch.received ++ connection.flight ∧
        connection.cursor = lastKey EventRecord.eventId told

structure Follows (runId : RunId) (watch : Watch) : Prop where
  numbered : watch.hub.stores.database.Numbered
  received : watch.received <+: (watch.log runId).map EventRecord.eventId
  sends : ∀ connection, watch.connection = some connection → watch.Sends runId connection

theorem Follows.inOrder (hfollows : watch.Follows runId) : watch.InOrder runId where
  received := hfollows.received
  ascending := List.pairwise_map.mpr (hfollows.numbered.log_ascending runId)

theorem Sends.received (hsends : watch.Sends runId connection) :
    watch.received <+: (watch.log runId).map EventRecord.eventId := by
  obtain ⟨-, told, rest, hlog, htold, -⟩ := hsends
  rw [hlog, List.map_append, htold, List.append_assoc]
  exact List.prefix_append _ _

theorem lastKey_map {told : List EventRecord} {received : List Nat}
    (htold : told.map EventRecord.eventId = received) :
    lastKey id received = lastKey EventRecord.eventId told := by
  rw [← htold, lastKey, lastKey, List.getLast?_map, Option.map_map]
  rfl

/-- A new connection goes on where the client stopped. -/
theorem Follows.connect (hfollows : watch.Follows runId)
    (hrun : (watch.hub.stores.database.getRun runId).isSome = true) :
    watch.Sends runId ⟨lastKey id watch.received, .checking, []⟩ := by
  obtain ⟨later, hlater⟩ := hfollows.received
  obtain ⟨told, rest, hlog, htold, -⟩ := List.map_eq_append_iff.mp hlater.symm
  refine ⟨hrun, told, rest, hlog, ?_, lastKey_map htold⟩
  rw [List.append_nil]
  exact htold

theorem Follows.step_hub (hfollows : watch.Follows runId) {hub : Hub}
    (hgrows : watch.hub.stores.database.Grows hub.stores.database) (lost : Bool) :
    ({ watch with hub, connection := if lost then none else watch.connection } : Watch).Follows
      runId where
  numbered := hgrows.numbered hfollows.numbered
  received := hfollows.received.trans ((hgrows.log runId).map _)
  sends connection hconnection := by
    cases lost with
    | true => cases hconnection
    | false =>
        obtain ⟨hkept, told, rest, hlog, htold, hcursor⟩ := hfollows.sends connection hconnection
        obtain ⟨more, hmore⟩ := hgrows.log runId
        refine ⟨hgrows.kept runId hkept, told, rest ++ more, ?_, htold, hcursor⟩
        show hub.stores.database.log runId = _
        rw [← hmore, show watch.hub.stores.database.log runId = _ from hlog, List.append_assoc,
          List.append_assoc]

/-- The first event that was read is sent. -/
theorem sends_emit {told more : List EventRecord} {event : EventRecord} {rest : List EventRecord}
    (hkept : watch.hub.stores.database.hasRun runId = true)
    (hlog : watch.log runId = told ++ (event :: rest ++ more))
    (htold : told.map EventRecord.eventId = watch.received ++ connection.flight) :
    watch.Sends runId (connection.emit event rest) := by
  refine ⟨hkept, told ++ [event], more, ?_, ?_, ?_⟩
  · rw [hlog, List.append_assoc]
    rfl
  · rw [List.map_append, htold, List.append_assoc]
    rfl
  · rw [lastKey, List.getLast?_concat]
    rfl

theorem ne_yielding_of_conclude (isOver idle : Bool) (rest : List EventRecord) :
    (if isOver then Pause.ended else if idle then .keepingAlive else .sleeping) ≠ .yielding rest := by
  cases isOver <;> cases idle <;> nofun

/-- What `event_source` does until its next await. -/
theorem Sends.resume (hsends : watch.Sends runId connection)
    (hnumbered : watch.hub.stores.database.Numbered) {later : Connection}
    (hresume : connection.resume watch.hub.stores.database runId = some later) :
    watch.Sends runId later := by
  obtain ⟨hkept, told, rest, hlog, htold, hcursor⟩ := hsends
  unfold Connection.resume at hresume
  unfold Connection.queue at hlog
  -- Where nothing is sent, only the pause changes.
  have hquiet (pause : Pause) (hempty : ∀ rest, pause ≠ .yielding rest)
      (hsame : watch.log runId = told ++ rest) :
      watch.Sends runId { connection with pause } := by
    refine ⟨hkept, told, rest, ?_, htold, hcursor⟩
    unfold Connection.queue
    cases pause with
    | yielding rest => exact absurd rfl (hempty rest)
    | _ => exact hsame
  have hconclude (idle : Bool) (hsame : watch.log runId = told ++ rest) :
      watch.Sends runId (connection.conclude watch.hub.stores.database runId idle) :=
    hquiet _ (fun other => ne_yielding_of_conclude _ idle other) hsame
  cases hpause : connection.pause with
  | checking =>
      simp only [hpause] at hresume hlog
      -- The next read starts after the last number that was sent.
      have hread := Database.eventsAfter_of_log hnumbered hlog
      rw [← hcursor] at hread
      split at hresume
      next =>
        cases hresume
        exact hconclude true hlog
      next event after hevents =>
        cases hresume
        rw [hevents] at hread
        have hrest : watch.log runId = told ++ (event :: after ++ []) := by
          rw [List.append_nil, hread]
          exact hlog
        exact sends_emit hkept hrest htold
  | yielding waiting =>
      simp only [hpause] at hresume hlog
      cases waiting with
      | nil =>
          cases hresume
          exact hconclude false hlog
      | cons event after =>
          cases hresume
          exact sends_emit hkept hlog htold
  | keepingAlive =>
      simp only [hpause] at hresume hlog
      cases hresume
      exact hquiet .sleeping nofun hlog
  | sleeping =>
      simp only [hpause] at hresume hlog
      cases hresume
      exact hquiet .checking nofun hlog
  | ended =>
      simp only [hpause] at hresume
      cases hresume

theorem follows_step {label : WatchLabel} (hfollows : watch.Follows runId)
    (hnext : (streaming clock tools settings runId).step watch label = some next) :
    next.Follows runId := by
  cases label with
  | hub label =>
      obtain ⟨hub, hstep, rfl⟩ := Option.map_eq_some_iff.mp hnext
      have hstepped := hfollows.step_hub (Hub.grows_step hstep) (decide (hub.phase = .down))
      simpa only [decide_eq_true_eq] using hstepped
  | connect =>
      obtain ⟨hallowed, hnext⟩ := Option.ite_none_right_eq_some.mp hnext
      cases hnext
      simp only [Bool.and_eq_true] at hallowed
      refine ⟨hfollows.numbered, hfollows.received, fun connection hconnection => ?_⟩
      cases hconnection
      exact hfollows.connect hallowed.2
  | resume =>
      obtain ⟨-, hnext⟩ := Option.ite_none_right_eq_some.mp hnext
      obtain ⟨connection, hconnection, hnext⟩ := Option.bind_eq_some_iff.mp hnext
      obtain ⟨later, hresume, rfl⟩ := Option.map_eq_some_iff.mp hnext
      have hsends := (hfollows.sends connection hconnection).resume hfollows.numbered hresume
      refine ⟨hfollows.numbered, hfollows.received, fun other hother => ?_⟩
      cases hother
      exact hsends
  | receive =>
      obtain ⟨connection, hconnection, hnext⟩ := Option.bind_eq_some_iff.mp hnext
      obtain ⟨hkept, told, rest, hlog, htold, hcursor⟩ := hfollows.sends connection hconnection
      split at hnext
      next => cases hnext
      next eventId flight hflight =>
        cases hnext
        have hsends : Sends runId ⟨watch.hub, watch.received ++ [eventId],
            some { connection with flight }⟩ { connection with flight } := by
          refine ⟨hkept, told, rest, hlog, ?_, hcursor⟩
          rw [htold, hflight, List.append_assoc]
          rfl
        refine ⟨hfollows.numbered, hsends.received, fun other hother => ?_⟩
        cases hother
        exact hsends
  | disconnect =>
      obtain ⟨-, hnext⟩ := Option.ite_none_right_eq_some.mp hnext
      cases hnext
      exact ⟨hfollows.numbered, hfollows.received, fun _ hnone => by cases hnone⟩

theorem follows_start : Follows runId .start :=
  ⟨Database.numbered_empty, List.nil_prefix, fun _ hnone => by cases hnone⟩

/-- Everything the run has told was sent. The run is over and said so last, and no
execution of it is under way. -/
structure Complete (runId : RunId) (watch : Watch) (connection : Connection) : Prop where
  sent : watch.received ++ connection.flight = (watch.log runId).map EventRecord.eventId
  ended : ∃ run, watch.hub.stores.database.getRun runId = some run ∧
    run.status ∈ terminalRunStatuses ∧
      (watch.log runId).getLast?.map EventRecord.eventType = some (finalEvent run.status)
  idle : ∀ task coroutine, watch.hub.coroutines task = some coroutine → coroutine.runId ≠ runId

/-- The server only ends a stream without news, and of a run that is over. -/
theorem Sends.ended (hsends : watch.Sends runId connection)
    (hnumbered : watch.hub.stores.database.Numbered) {later : Connection}
    (hresume : connection.resume watch.hub.stores.database runId = some later)
    (hended : later.pause = .ended) :
    watch.received ++ later.flight = (watch.log runId).map EventRecord.eventId ∧
      ∃ run, watch.hub.stores.database.getRun runId = some run ∧
        run.status ∈ terminalRunStatuses := by
  obtain ⟨hkept, told, rest, hlog, htold, hcursor⟩ := hsends
  obtain ⟨run, hrun⟩ := Option.isSome_iff_exists.mp hkept
  unfold Connection.resume at hresume
  unfold Connection.queue at hlog
  cases hpause : connection.pause with
  | checking =>
      simp only [hpause] at hresume hlog
      have hread := Database.eventsAfter_of_log hnumbered hlog
      rw [← hcursor] at hread
      split at hresume
      next hnothing =>
        cases hresume
        rw [hnothing] at hread
        obtain rfl : rest = [] := hread.symm
        unfold Connection.conclude at hended
        simp only [hrun, Bool.and_true] at hended
        refine ⟨?_, run, hrun, ?_⟩
        · rw [hlog, List.nil_append, List.append_nil, htold]
          rfl
        · by_contra hlive
          simp [hlive] at hended
      next event after hevents =>
        cases hresume
        cases hended
  | yielding waiting =>
      simp only [hpause] at hresume
      cases waiting with
      | nil =>
          cases hresume
          unfold Connection.conclude at hended
          simp [hrun] at hended
      | cons event after =>
          cases hresume
          cases hended
  | keepingAlive =>
      simp only [hpause] at hresume
      cases hresume
      cases hended
  | sleeping =>
      simp only [hpause] at hresume
      cases hresume
      cases hended
  | ended =>
      simp only [hpause] at hresume
      cases hresume

/-- In order, a run that is over has told so and is left alone. -/
theorem over_of_orderly (horderly : watch.hub.Orderly) (hidle : watch.hub.active = none)
    {run : WorkflowRun} (hrun : watch.hub.stores.database.getRun runId = some run)
    (hover : run.status ∈ terminalRunStatuses) :
    (watch.log runId).getLast?.map EventRecord.eventType = some (finalEvent run.status) ∧
      ∀ task coroutine, watch.hub.coroutines task = some coroutine → coroutine.runId ≠ runId := by
  have haside := horderly.aside hidle
  have hstable := haside.stable runId nofun
  have hstatus : (watch.hub.view runId).status = some run.status :=
    congrArg (Option.map WorkflowRun.status) hrun
  refine ⟨hstable.rested run.status hstatus hover, fun task coroutine hcoroutine => ?_⟩
  refine haside.filed.idle ?_ hcoroutine
  rw [← Bool.not_eq_true]
  intro hattended
  obtain ⟨status, hlive, hopen⟩ := hstable.active false hattended
  rw [hstatus, Option.some.injEq] at hlive
  exact hopen (hlive ▸ hover)

theorem follows_of_run {labels : List WatchLabel}
    (hrun : (streaming clock tools settings runId).run .start labels = some watch) :
    watch.Follows runId :=
  (streaming clock tools settings runId).run_invariant (Follows runId)
    (fun _ _ _ => follows_step) follows_start hrun

theorem orderly_of_run {labels : List WatchLabel}
    (halong : (streaming clock tools settings runId).along keepsOrder .start labels = true)
    (hrun : (streaming clock tools settings runId).run .start labels = some watch) :
    watch.hub.Orderly := by
  refine (streaming clock tools settings runId).run_invariant_along (fun watch => watch.hub.Orderly)
    keepsOrder (fun watch label next hkeeps horderly hnext => ?_) halong Hub.orderly_empty hrun
  cases label with
  | hub label =>
      obtain ⟨hub, hstep, rfl⟩ := Option.map_eq_some_iff.mp hnext
      exact Hub.orderly_step horderly hkeeps hstep
  | connect =>
      obtain ⟨-, hnext⟩ := Option.ite_none_right_eq_some.mp hnext
      cases hnext
      exact horderly
  | resume =>
      obtain ⟨-, hnext⟩ := Option.ite_none_right_eq_some.mp hnext
      obtain ⟨connection, -, hnext⟩ := Option.bind_eq_some_iff.mp hnext
      obtain ⟨later, -, rfl⟩ := Option.map_eq_some_iff.mp hnext
      exact horderly
  | receive =>
      obtain ⟨connection, -, hnext⟩ := Option.bind_eq_some_iff.mp hnext
      split at hnext
      next => cases hnext
      next =>
        cases hnext
        exact horderly
  | disconnect =>
      obtain ⟨-, hnext⟩ := Option.ite_none_right_eq_some.mp hnext
      cases hnext
      exact horderly

end Following

end Watch

section Streams

variable {platform : Platform} {clock : Nat → Nat} {tools : HubTools platform}
  {settings : HubSettings} {runId : RunId} {watch : Watch}

/-- In every run the ids a client received over all its connections begin the log. Where
all steps keep order, a stream that the server ends has sent the whole log of a run that
is over, with the event that says so at its end. -/
theorem stream_delivers {labels : List WatchLabel}
    (hrun : (streaming clock tools settings runId).run .start labels = some watch) :
    watch.InOrder runId ∧
      ((streaming clock tools settings runId).along Watch.keepsOrder .start labels = true →
        ∀ next connection, (streaming clock tools settings runId).step watch .resume = some next →
          next.connection = some connection → connection.pause = .ended →
            next.Complete runId connection) := by
  have hfollows := Watch.follows_of_run hrun
  refine ⟨hfollows.inOrder, fun halong next later hnext hlater hended => ?_⟩
  have horderly := Watch.orderly_of_run halong hrun
  obtain ⟨hfree, hnext⟩ := Option.ite_none_right_eq_some.mp hnext
  obtain ⟨connection, hconnection, hnext⟩ := Option.bind_eq_some_iff.mp hnext
  obtain ⟨resumed, hresume, rfl⟩ := Option.map_eq_some_iff.mp hnext
  obtain rfl := Option.some.inj hlater
  have hidle : watch.hub.active = none := by
    simp only [Watch.free, Bool.and_eq_true, Option.isNone_iff_eq_none] at hfree
    exact hfree.1
  obtain ⟨hsent, run, hfound, hover⟩ := (hfollows.sends connection hconnection).ended
    hfollows.numbered hresume hended
  obtain ⟨htold, hleft⟩ := Watch.over_of_orderly horderly hidle hfound hover
  exact ⟨hsent, ⟨run, hfound, hover, htold⟩, hleft⟩

end Streams

def sampleStreamTools : HubTools samplePlatform where
  evaluateGates _ _ := .error storageFailure
  validateGates _ := .error storageFailure
  validateEvaluation _ := .error storageFailure
  mergeSources _ := .error storageFailure
  contextBytes _ := 0
  contextSha256 _ := ""
  fingerprint _ := ""

def sampleStreamRun : RunId := "run_0123456789abcdef0123456789abcdef"

def sampleStream : System Watch WatchLabel :=
  streaming id sampleStreamTools {} sampleStreamRun

/-- A run that fails because its host cannot be inspected. -/
def failedInPreflight : List HubLabel :=
  [.recover none,
    .create sampleUuid "Build a task list" 0] ++
  List.replicate 4 (.step .none) ++ [.start 0] ++ List.replicate 4 (.step .none) ++
  [.reply 0 (.raised storageFailure)] ++ List.replicate 3 (.step .none)

/-- A client that connects then, up to the last statement of the stream. -/
def failedStream : List WatchLabel :=
  failedInPreflight.map .hub ++ [.connect] ++ List.replicate 5 .resume

/-- The run is retried, and canceled before its new execution began. -/
def canceledStream : List WatchLabel :=
  List.map .hub (failedInPreflight ++ [.call sampleStreamRun .retry] ++
    List.replicate 8 (.step .none) ++ [.call sampleStreamRun .cancel] ++
    List.replicate 5 (.step .none) ++ [.start 1]) ++
  [.connect] ++ List.replicate 7 .resume

theorem stream_delivers_failed :
    ∃ watch next connection, sampleStream.run .start failedStream = some watch ∧
      watch.InOrder sampleStreamRun ∧ sampleStream.step watch .resume = some next ∧
        next.connection = some connection ∧ next.Complete sampleStreamRun connection := by
  have halong : sampleStream.along Watch.keepsOrder .start failedStream = true := by
    decide +kernel
  have hends : (sampleStream.run .start failedStream).any (fun watch =>
      (sampleStream.step watch .resume).any Watch.closed) = true := by decide +kernel
  obtain ⟨watch, hrun, hstep⟩ := (Option.any_eq_true _ _).mp hends
  obtain ⟨next, hnext, hclosed⟩ := (Option.any_eq_true _ _).mp hstep
  obtain ⟨connection, hconnection, hpause⟩ := (Option.any_eq_true _ _).mp hclosed
  obtain ⟨hordered, hcomplete⟩ := stream_delivers hrun
  exact ⟨watch, next, connection, hrun, hordered, hnext, hconnection,
    hcomplete halong next connection hnext hconnection (beq_iff_eq.mp hpause)⟩

/-- The stream of a run that was canceled before its execution began ends although no event
says that the run was canceled, and none ever will. -/
theorem canceled_untold :
    ∃ watch next connection, sampleStream.run .start canceledStream = some watch ∧
      sampleStream.step watch .resume = some next ∧ next.connection = some connection ∧
        connection.pause = .ended ∧ ¬next.Complete sampleStreamRun connection := by
  have hends : (sampleStream.run .start canceledStream).any (fun watch =>
      (sampleStream.step watch .resume).any fun next => next.closed &&
        (next.log sampleStreamRun).getLast?.map EventRecord.eventType ==
          some "run.cancellation_requested") = true := by decide +kernel
  obtain ⟨watch, hrun, hstep⟩ := (Option.any_eq_true _ _).mp hends
  obtain ⟨next, hnext, hclosed⟩ := (Option.any_eq_true _ _).mp hstep
  obtain ⟨hclosed, hlast⟩ := Bool.and_eq_true_iff.mp hclosed
  obtain ⟨connection, hconnection, hpause⟩ := (Option.any_eq_true _ _).mp hclosed
  refine ⟨watch, next, connection, hrun, hnext, hconnection, beq_iff_eq.mp hpause, ?_⟩
  intro hcomplete
  obtain ⟨run, -, -, htold⟩ := hcomplete.ended
  rw [beq_iff_eq.mp hlast, Option.some.injEq] at htold
  have huntold : ∀ status, "run.cancellation_requested" ≠ finalEvent status := by
    intro status
    cases status <;> decide
  exact huntold run.status htold

end Aidlc
