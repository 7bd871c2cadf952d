import Aidlc.Storage.Database

/-! # Event logs

Events are numbered over all runs in the order in which they are stored, and
none is ever changed or deleted, so the log of a run only grows at its end.
-/

namespace Aidlc

open Foundation

namespace Database

/-- Events are numbered from one, in the order in which they were stored. -/
structure Numbered (database : Database) : Prop where
  ascending : database.events.Pairwise fun first second => first.eventId < second.eventId
  positive : ∀ event ∈ database.events, 0 < event.eventId
  bounded : ∀ event ∈ database.events, event.eventId ≤ database.lastEventId

variable {database next : Database} {runId : RunId} {eventType : String}
  {payload : List (String × Json)}

theorem numbered_empty : Database.empty.Numbered where
  ascending := .nil
  positive _ hevent := absurd hevent List.not_mem_nil
  bounded _ hevent := absurd hevent List.not_mem_nil

theorem Numbered.congr (hnumbered : database.Numbered) (hevents : next.events = database.events)
    (hlast : next.lastEventId = database.lastEventId) : next.Numbered where
  ascending := hevents ▸ hnumbered.ascending
  positive := hevents ▸ hnumbered.positive
  bounded := hevents ▸ hlast ▸ hnumbered.bounded

/-- The event that is stored next. -/
def nextEvent (database : Database) (runId : RunId) (eventType : String)
    (payload : List (String × Json)) : EventRecord :=
  ⟨database.lastEventId + 1, runId, eventType, .obj payload⟩

/-- An event is appended exactly to a stored run, under the next number. -/
theorem appendEvent_eq_ok :
    database.appendEvent runId eventType payload = .ok next ↔
      database.hasRun runId = true ∧ next = { database with
        events := database.events ++ [database.nextEvent runId eventType payload]
        lastEventId := database.lastEventId + 1 } := by
  unfold appendEvent
  split
  next hrun =>
    rw [Except.ok.injEq, eq_comm]
    exact (and_iff_right hrun).symm
  next hrun => simp [integrityError, hrun]

/-- A new event continues the numbering. -/
theorem Numbered.appendEvent (hnumbered : database.Numbered)
    (hnext : database.appendEvent runId eventType payload = .ok next) : next.Numbered := by
  obtain ⟨-, rfl⟩ := appendEvent_eq_ok.mp hnext
  refine ⟨?_, fun event hevent => ?_, fun event hevent => ?_⟩
  · rw [List.pairwise_append]
    refine ⟨hnumbered.ascending, List.pairwise_singleton _ _, fun earlier hearlier event hevent => ?_⟩
    rw [List.mem_singleton.mp hevent]
    exact Nat.lt_succ_of_le (hnumbered.bounded earlier hearlier)
  · rcases List.mem_append.mp hevent with hold | hnew
    · exact hnumbered.positive event hold
    · rw [List.mem_singleton.mp hnew]
      exact Nat.succ_pos _
  · rcases List.mem_append.mp hevent with hold | hnew
    · exact Nat.le_succ_of_le (hnumbered.bounded event hold)
    · rw [List.mem_singleton.mp hnew]
      rfl

/-- The events after a number are those of the run with a greater one. -/
theorem mem_eventsAfter {event : EventRecord} {eventId : Nat} :
    event ∈ database.eventsAfter runId eventId ↔
      event ∈ database.events ∧ event.runId = runId ∧ eventId < event.eventId := by
  simp [eventsAfter]

/-- The log of a run after one more event. -/
theorem eventsAfter_appendEvent (other : RunId)
    (hnext : database.appendEvent runId eventType payload = .ok next) :
    next.eventsAfter other 0 = if runId = other
      then database.eventsAfter other 0 ++ [database.nextEvent runId eventType payload]
      else database.eventsAfter other 0 := by
  obtain ⟨-, rfl⟩ := appendEvent_eq_ok.mp hnext
  by_cases hother : runId = other
  · simp [eventsAfter, nextEvent, hother]
  · simp [eventsAfter, nextEvent, hother]

/-! ## Changes on behalf of one run -/

/-- A change on behalf of one run. -/
structure Writes (runId : RunId) (database next : Database) : Prop where
  others : ∀ other, other ≠ runId → next.getRun other = database.getRun other
  events : ∃ appended, next.events = database.events ++ appended ∧
    ∀ event ∈ appended, event.runId = runId
  numbered : database.Numbered → next.Numbered
  kept : database.hasRun runId = true → next.hasRun runId = true

theorem writes_of_eq (hruns : next.runs = database.runs) (hevents : next.events = database.events)
    (hlast : next.lastEventId = database.lastEventId) : database.Writes runId next where
  others other _ := by simp only [getRun, hruns]
  events := ⟨[], by rw [hevents, List.append_nil], nofun⟩
  numbered hnumbered := hnumbered.congr hevents hlast
  kept hkept := (hasRun_congr hruns runId).trans hkept

theorem Writes.refl (database : Database) (runId : RunId) : database.Writes runId database :=
  writes_of_eq rfl rfl rfl

/-- The row of a run after a change of it. -/
theorem getRun_modifyRun {change : WorkflowRun → WorkflowRun} (other : RunId)
    (hkept : ∀ run, (change run).runId = run.runId) :
    (database.modifyRun runId change).getRun other =
      if other = runId then (database.getRun other).map change else database.getRun other := by
  unfold getRun modifyRun
  induction database.runs with
  | nil => simp
  | cons run rest ih =>
      rw [List.map_cons, List.find?_cons, List.find?_cons]
      by_cases hrun : run.runId = runId
      · rw [if_pos hrun, hkept]
        by_cases hother : run.runId = other
        · have hsame : other = runId := hother.symm.trans hrun
          simp [hother, hsame]
        · have hnot : (run.runId == other) = false := by simpa using hother
          simp only [hnot]
          exact ih
      · rw [if_neg hrun]
        by_cases hother : run.runId = other
        · have hdiffers : other ≠ runId := fun hsame => hrun (hother.trans hsame)
          simp [hother, hdiffers]
        · have hnot : (run.runId == other) = false := by simpa using hother
          simp only [hnot]
          exact ih

/-- Changing a run by its id leaves the other runs alone. -/
theorem writes_modifyRun {change : WorkflowRun → WorkflowRun}
    (hkept : ∀ run, (change run).runId = run.runId) :
    database.Writes runId (database.modifyRun runId change) where
  others other hother := by rw [getRun_modifyRun other hkept, if_neg hother]
  events := ⟨[], (List.append_nil _).symm, nofun⟩
  numbered hnumbered := hnumbered.congr rfl rfl
  kept hrun := by
    rw [hasRun, getRun_modifyRun runId hkept, if_pos rfl, Option.isSome_map]
    exact hrun

/-- An event is written to its own run. -/
theorem writes_appendEvent {eventType : String} {payload : List (String × Json)}
    (hnext : database.appendEvent runId eventType payload = .ok next) :
    database.Writes runId next := by
  refine ⟨?_, ?_, fun hnumbered => hnumbered.appendEvent hnext, ?_⟩
  · obtain ⟨-, rfl⟩ := appendEvent_eq_ok.mp hnext
    exact fun _ _ => rfl
  rotate_left
  · obtain ⟨-, rfl⟩ := appendEvent_eq_ok.mp hnext
    exact id
  · obtain ⟨-, rfl⟩ := appendEvent_eq_ok.mp hnext
    exact ⟨_, rfl, fun event hevent => by rw [List.mem_singleton.mp hevent]; rfl⟩

/-- A run is created pending, and only where there was none. -/
theorem createRun_eq_ok {idea : String} {now : Nat}
    (hnext : database.createRun runId idea now = .ok next) :
    database.getRun runId = none ∧ next.events = database.events ∧
      next.lastEventId = database.lastEventId ∧
      (next.getRun runId).map WorkflowRun.status = some .pending ∧
      ∀ other, other ≠ runId → next.getRun other = database.getRun other := by
  unfold createRun at hnext
  split at hnext
  · cases hnext
  · rename_i hfresh
    cases hnext
    have hnone : database.getRun runId = none := by
      rw [hasRun, Option.not_isSome_iff_eq_none] at hfresh
      exact hfresh
    refine ⟨hnone, rfl, rfl, ?_, fun other hother => ?_⟩
    · rw [getRun, List.find?_append, ← getRun, hnone, Option.none_or, List.find?_singleton,
        beq_self_eq_true, if_pos rfl]
      rfl
    · have hnot : (runId == other) = false := by simpa using hother.symm
      rw [getRun, List.find?_append, List.find?_singleton, hnot, if_neg Bool.false_ne_true,
        Option.or_none, getRun]

/-- The events of another run. -/
theorem Writes.eventsAfter (hwrites : database.Writes runId next) {other : RunId}
    (hother : other ≠ runId) (eventId : Nat) :
    next.eventsAfter other eventId = database.eventsAfter other eventId := by
  obtain ⟨appended, happended, howner⟩ := hwrites.events
  have hnone : appended.filter (fun event => event.runId == other && event.eventId > eventId) =
      [] := by
    refine List.filter_eq_nil_iff.mpr fun event hevent => ?_
    simp [howner event hevent, hother.symm]
  rw [Database.eventsAfter, happended, List.filter_append, hnone, List.append_nil]
  rfl

/-- Logs only grow at their end, and no run is lost. -/
structure Grows (database next : Database) : Prop where
  events : database.events <+: next.events
  numbered : database.Numbered → next.Numbered
  kept : ∀ runId, database.hasRun runId = true → next.hasRun runId = true

theorem Grows.refl (database : Database) : database.Grows database :=
  ⟨List.prefix_refl _, id, fun _ => id⟩

/-- Growth composes. -/
theorem Grows.trans {last : Database} (hfirst : database.Grows next) (hsecond : next.Grows last) :
    database.Grows last where
  events := hfirst.events.trans hsecond.events
  numbered := hsecond.numbered ∘ hfirst.numbered
  kept runId := hsecond.kept runId ∘ hfirst.kept runId

/-- A write lets the database grow. -/
theorem Writes.grows (hwrites : database.Writes runId next) : database.Grows next where
  events := by
    obtain ⟨appended, happended, -⟩ := hwrites.events
    exact ⟨appended, happended.symm⟩
  numbered := hwrites.numbered
  kept other hother := by
    by_cases hsame : other = runId
    · exact hsame ▸ hwrites.kept (hsame ▸ hother)
    · rw [hasRun, hwrites.others other hsame]
      exact hother

/-- Publishing an artifact or recording a decision leaves runs and events alone. -/
structure SameRuns (database next : Database) : Prop where
  runs : next.runs = database.runs
  events : next.events = database.events
  last : next.lastEventId = database.lastEventId

theorem SameRuns.refl (database : Database) : SameRuns database database := ⟨rfl, rfl, rfl⟩

theorem SameRuns.writes (hsame : SameRuns database next) (runId : RunId) :
    database.Writes runId next :=
  writes_of_eq hsame.runs hsame.events hsame.last

theorem sameRuns_saveInteraction {interaction : HumanInteraction}
    (hsave : database.saveInteraction interaction = .ok next) : SameRuns database next := by
  unfold saveInteraction at hsave
  split at hsave
  · cases hsave
  · split at hsave
    · cases hsave
      exact ⟨rfl, rfl, rfl⟩
    · cases hsave

theorem sameRuns_saveDelegatedTask {mapping : DelegatedTask}
    (hsave : database.saveDelegatedTask mapping = .ok next) : SameRuns database next := by
  unfold saveDelegatedTask at hsave
  split at hsave
  · cases hsave
    exact ⟨rfl, rfl, rfl⟩
  · split at hsave
    · cases hsave
      exact ⟨rfl, rfl, rfl⟩
    · cases hsave

end Database

end Aidlc
