import Aidlc.Orchestration.Hub
import Aidlc.Orchestration.Lifecycle
import Aidlc.Storage.Events

/-! # What storage shows of a run

Every statement of storage concerns one run: it has the effect on that run which
the programs of the orchestrator count on, and other runs do not see it.
-/

namespace Aidlc

open Foundation

/-- What the tables show of a run. -/
def Database.view (database : Database) (runId : RunId) (attended cancelable : Bool) : RunView where
  status := (database.getRun runId).map WorkflowRun.status
  attended
  cancelable
  last := (database.eventsAfter runId 0).getLast?.map EventRecord.eventType

variable {database next : Database} {runId : RunId} {attended cancelable : Bool}

namespace Database

theorem view_congr (hruns : next.runs = database.runs) (hevents : next.events = database.events) :
    next.view runId attended cancelable = database.view runId attended cancelable := by
  simp only [view, getRun, hruns, eventsAfter, hevents]

theorem view_updateRun (status : RunStatus) (currentStage : Option StageName)
    (error : Option String) :
    (database.updateRun runId status currentStage error).view runId attended cancelable =
      (database.view runId attended cancelable).update status := by
  unfold view updateRun
  rw [getRun_modifyRun runId, if_pos rfl, Option.map_map]
  · simp only [RunView.update, Option.map_map]
    rfl
  · exact fun _ => rfl

theorem view_updateStage (stage : StageName) (status : RunStatus) (error : Option String) :
    (database.updateStage runId stage status error).view runId attended cancelable =
      database.view runId attended cancelable := by
  unfold view updateStage
  rw [getRun_modifyRun runId, if_pos rfl, Option.map_map]
  · rfl
  · exact fun _ => rfl

theorem view_appendEvent {eventType : String} {payload : List (String × Json)}
    (hnext : database.appendEvent runId eventType payload = .ok next) :
    next.view runId attended cancelable =
      (database.view runId attended cancelable).record eventType := by
  have hlog := eventsAfter_appendEvent runId hnext
  rw [if_pos rfl] at hlog
  have hruns : next.getRun runId = database.getRun runId := by
    obtain ⟨-, rfl⟩ := appendEvent_eq_ok.mp hnext
    rfl
  simp only [view, hlog, List.getLast?_append, List.getLast?_singleton, hruns, RunView.record]
  rfl

end Database

/-! ## Storage -/

variable {platform : Platform} {clock : Nat → Nat} {stores after : Stores}

theorem sameRuns_insertArtifact {artifact : ArtifactRecord}
    (hinsert : database.insertArtifact artifact = .ok next) : Database.SameRuns database next := by
  obtain ⟨-, -, rfl⟩ := insertArtifact_ok hinsert
  exact ⟨rfl, rfl, rfl⟩

theorem sameRuns_addArtifact (artifact : ArtifactRecord) (stores : Stores) :
    Database.SameRuns stores.database (outcome (addArtifact platform artifact stores)).2.database := by
  cases hadd : addArtifact platform artifact stores with
  | ok value after => exact sameRuns_insertArtifact (addArtifact_ok hadd).2.2.1
  | error error after =>
      obtain ⟨final, -, rfl⟩ := transaction_eq_error.mp hadd
      exact .refl _

theorem sameRuns_writeArtifact (request : WriteRequest) (now : Nat) (stores : Stores) :
    Database.SameRuns stores.database (outcome (writeArtifact platform request now stores)).2.database := by
  cases hwrite : writeArtifact platform request now stores with
  | ok record after =>
      have hsame : after.database = stores.database := (writeArtifact_ok hwrite).2.2
      exact ⟨congrArg _ hsame, congrArg _ hsame, congrArg _ hsame⟩
  | error error after =>
      rw [writeArtifact_error hwrite]
      exact .refl _

/-- A call that accepts an action records it for a run that waits for one. -/
theorem sameRuns_acceptAction (action : HumanAction)
    (publishResponse : HumanInteraction → StoreM ArtifactRecord) (now : Nat)
    (hpublish : ∀ interaction artifact (before middle : Stores),
      publishResponse interaction before = .ok artifact middle →
        middle.database = before.database) :
    Database.SameRuns stores.database
        (outcome (acceptAction platform runId action publishResponse now stores)).2.database ∧
      ∀ interaction, (outcome (acceptAction platform runId action publishResponse now stores)).1 =
          .ok (interaction, true) →
        (stores.database.getRun runId).map WorkflowRun.status = some .inputRequired := by
  cases haccept : acceptAction platform runId action publishResponse now stores with
  | error error after =>
      obtain ⟨final, -, rfl⟩ := transaction_eq_error.mp haccept
      exact ⟨.refl _, nofun⟩
  | ok result after =>
      obtain ⟨interaction, created⟩ := result
      obtain ⟨found, -, hcases⟩ := acceptAction_ok haccept
      rcases hcases with ⟨-, -, rfl, rfl, -⟩ | ⟨-, -, -, hvalid, artifact, middle, inserted, hmade,
        hinsert, rfl⟩
      · exact ⟨.refl _, nofun⟩
      · have hsame := sameRuns_insertArtifact hinsert
        rw [hpublish _ _ _ _ hmade] at hsame
        refine ⟨⟨hsame.runs, hsame.events, hsame.last⟩, fun _ _ => ?_⟩
        by_contra hwaiting
        rw [validateAction, if_pos hwaiting] at hvalid
        cases hvalid

theorem sameRuns_acceptCall (platform : Platform) (runId : RunId) (action : HumanAction) (now : Nat)
    (fault : CallFault) (stores : Stores) :
    Database.SameRuns stores.database
        (outcome (acceptCall platform runId action now fault stores)).2.database ∧
      ∀ interaction, (outcome (acceptCall platform runId action now fault stores)).1 =
          .ok (interaction, true) →
        (stores.database.getRun runId).map WorkflowRun.status = some .inputRequired := by
  cases fault with
  | none =>
      exact sameRuns_acceptAction action
        (fun answered => writeArtifact platform (responseRequest runId answered action) now) now
        fun _ _ _ _ hwrite => (writeArtifact_ok hwrite).2.2
  | publish error =>
      exact sameRuns_acceptAction action (fun _ => throw error) now
        fun _ _ _ _ hthrow => absurd hthrow throw_ne_ok
  | published error =>
      refine sameRuns_acceptAction action (fun answered => do
        let _ ← writeArtifact platform (responseRequest runId answered action) now
        throw error) now fun _ _ _ _ hthrow => ?_
      obtain ⟨_, _, -, hthrow⟩ := bind_eq_ok.mp hthrow
      exact absurd hthrow throw_ne_ok
  | statement error =>
      cases hcall : acceptCall platform runId action now (.statement error) stores with
      | error raised after =>
          obtain ⟨final, -, rfl⟩ := transaction_eq_error.mp hcall
          exact ⟨.refl _, nofun⟩
      | ok value after =>
          obtain ⟨_, _, -, hthrow⟩ := bind_eq_ok.mp (transaction_eq_ok.mp hcall)
          exact absurd hthrow throw_ne_ok

namespace Request

/-- What a request does and how it is answered, as the programs count on it. -/
structure Answers (runId : RunId) (stores after : Stores) (request : Request)
    (answer : request.Answer) : Prop where
  writes : stores.database.Writes runId after.database
  effect : ∀ attended cancelable, request.Effect runId
    (stores.database.view runId attended cancelable) (after.database.view runId attended cancelable)
    answer

/-- The requests that leave runs and events alone, and whose answer says nothing of them. -/
def quiet : Request → Bool
  | getRun | updateRun .. | updateStage .. | appendEvent .. | createRun .. | acceptAction _ | activeTask _
  | createTask _ | cancelTask => false
  | _ => true

theorem effect_of_quiet {request : Request} (hquiet : request.quiet = true) {view : RunView}
    (answer : request.Answer) : request.Effect runId view view answer := by
  cases request <;> first | rfl | cases hquiet

theorem answers_of_quiet {request : Request} (hquiet : request.quiet = true)
    (hsame : Database.SameRuns stores.database after.database) (answer : request.Answer) :
    Answers runId stores after request answer where
  writes := hsame.writes runId
  effect attended cancelable := by
    rw [Database.view_congr hsame.runs hsame.events]
    exact effect_of_quiet hquiet answer

end Request

theorem ok_of_raisedBy {α : Type} {result : Except PyError α} {value : α}
    (hraised : raisedBy result = .ok value) : result = .ok value := by
  cases result with
  | ok other => exact congrArg Except.ok (Except.ok.inj hraised)
  | error error => cases hraised

theorem statement_eq {stores : Stores} {change : Except PyError Database}
    {value : Except PyError Unit} {after : Stores}
    (hstatement : statement stores change = (value, after)) :
    (∃ database, change = .ok database ∧ value = .ok () ∧ after = stores.withDatabase database) ∨
      (∃ error, change = .error error ∧ value = .error error ∧ after = stores) := by
  unfold statement at hstatement
  split at hstatement
  next database =>
    cases hstatement
    exact Or.inl ⟨database, rfl, rfl, rfl⟩
  next error =>
    cases hstatement
    exact Or.inr ⟨error, rfl, rfl, rfl⟩

theorem sameRuns_of_statement {change : Except PyError Database} {value : Except PyError Unit}
    (hchange : ∀ database, change = .ok database → Database.SameRuns stores.database database)
    (hstatement : statement stores change = (value, after)) :
    Database.SameRuns stores.database after.database := by
  rcases statement_eq hstatement with ⟨database, hdatabase, -, rfl⟩ | ⟨error, -, -, rfl⟩
  · exact hchange database hdatabase
  · exact .refl _

theorem serve_quiet {request : Request} {value : Except PyError request.Value}
    (hquiet : request.quiet = true)
    (hserve : stores.serve platform clock runId request = some (value, after)) :
    Database.SameRuns stores.database after.database := by
  cases request with
  | eventsAfter => cases hserve; exact .refl _
  | listArtifacts => cases hserve; exact .refl _
  | listInteractions => cases hserve; exact .refl _
  | listDelegatedTasks => cases hserve; exact .refl _
  | readContents records => cases hserve; exact .refl _
  | initializeProject idea => cases hserve; exact .refl _
  | saveInteraction interaction =>
      exact sameRuns_of_statement (fun _ => Database.sameRuns_saveInteraction) (Option.some.inj hserve)
  | saveDelegatedTask mapping =>
      exact sameRuns_of_statement (fun _ => Database.sameRuns_saveDelegatedTask) (Option.some.inj hserve)
  | write request =>
      obtain rfl : _ = after := congrArg Prod.snd (Option.some.inj hserve)
      exact sameRuns_writeArtifact request _ stores
  | addArtifact record =>
      obtain rfl : _ = after := congrArg Prod.snd (Option.some.inj hserve)
      exact sameRuns_addArtifact record stores
  | getRun => cases hquiet
  | updateRun status currentStage error => cases hquiet
  | updateStage stage status error => cases hquiet
  | appendEvent eventType payload => cases hquiet
  | createRun idea now => cases hquiet
  | acceptAction action => cases hquiet
  | _ => cases hserve

/-- What a statement of storage that fails by itself or not at all answers. -/
theorem serve_answers {request : Request} {value : Except PyError request.Value}
    (hserve : stores.serve platform clock runId request = some (value, after)) :
    request.Answers runId stores after (raisedBy value) := by
  by_cases hquiet : request.quiet = true
  · exact Request.answers_of_quiet hquiet (serve_quiet hquiet hserve) _
  cases request with
  | getRun =>
      cases hserve
      refine ⟨.refl _ _, fun attended cancelable => ⟨rfl, fun found hfound => ?_⟩⟩
      cases hfound
      refine ⟨rfl, fun run hrun => ?_⟩
      have hkey := List.find?_some hrun
      exact beq_iff_eq.mp hkey
  | updateRun status currentStage error =>
      cases hserve
      refine ⟨Database.writes_modifyRun fun _ => rfl, fun attended cancelable => Or.inl ⟨rfl, ?_⟩⟩
      exact Database.view_updateRun status currentStage error
  | updateStage stage status error =>
      cases hserve
      exact ⟨Database.writes_modifyRun fun _ => rfl,
        fun attended cancelable => Database.view_updateStage stage status error⟩
  | appendEvent eventType payload =>
      rcases statement_eq (Option.some.inj hserve) with
        ⟨database, hchange, rfl, rfl⟩ | ⟨error, hchange, rfl, rfl⟩
      · refine ⟨Database.writes_appendEvent hchange, fun attended cancelable => Or.inl ⟨rfl, ?_, ?_⟩⟩
        · exact Option.isSome_map.trans (Database.appendEvent_eq_ok.mp hchange).1
        · exact Database.view_appendEvent hchange
      · refine ⟨.refl _ _, fun attended cancelable => Or.inr ⟨fun _ => ?_, ⟨_, rfl⟩, Or.inl rfl⟩⟩
        unfold Database.appendEvent at hchange
        split at hchange
        · cases hchange
        · rename_i hmissing
          rw [Database.hasRun, Option.not_isSome_iff_eq_none] at hmissing
          simp [Database.view, hmissing]
  | createRun idea now =>
      rcases statement_eq (Option.some.inj hserve) with
        ⟨database, hchange, rfl, rfl⟩ | ⟨error, hchange, rfl, rfl⟩
      · obtain ⟨hnone, hevents, hlast, hpending, hothers⟩ := Database.createRun_eq_ok hchange
        refine ⟨⟨hothers, ⟨[], ?_, List.forall_mem_nil _⟩,
          fun hnumbered => hnumbered.congr hevents hlast, ?_⟩, fun attended cancelable => Or.inl ⟨?_, ?_⟩⟩
        · rw [List.append_nil]
          exact hevents
        · rw [Database.hasRun, hnone]
          exact fun hrun => absurd hrun Bool.false_ne_true
        · simp [Database.view, hnone]
        · simp only [Database.view, Database.eventsAfter]
          rw [show (stores.withDatabase database).database = database from rfl, hpending, hevents]
      · exact ⟨.refl _ _, fun attended cancelable => Or.inr ⟨rfl, _, rfl⟩⟩
  | acceptAction action =>
      obtain ⟨rfl, rfl⟩ := Prod.mk.inj (Option.some.inj hserve)
      obtain ⟨hsame, hwaiting⟩ := sameRuns_acceptCall platform runId action (stores.now clock)
        .none stores
      refine ⟨hsame.writes runId, fun attended cancelable =>
        ⟨Database.view_congr hsame.runs hsame.events, fun interaction hanswer => ?_⟩⟩
      exact hwaiting interaction (ok_of_raisedBy hanswer)
  | activeTask cancelable => cases hserve
  | createTask attempt => cases hserve
  | cancelTask => cases hserve
  | _ => exact absurd rfl hquiet

namespace Request

/-- A statement that fails before it had an effect. -/
theorem effect_refused {request : Request} (hfinal : request.final = false)
    (hstored : stores.serve platform clock runId request ≠ none) {view : RunView}
    (raised : Raised) : request.Effect runId view view (.error raised) := by
  cases request with
  | getRun => exact ⟨rfl, nofun⟩
  | updateRun status currentStage error =>
      exact Or.inr ⟨of_decide_eq_false hfinal, ⟨raised, rfl⟩, Or.inl rfl⟩
  | appendEvent eventType payload =>
      exact Or.inr ⟨fun hmem => absurd hmem (of_decide_eq_false hfinal), ⟨raised, rfl⟩, Or.inl rfl⟩
  | createRun idea now => exact Or.inr ⟨rfl, raised, rfl⟩
  | acceptAction action => exact ⟨rfl, nofun⟩
  | activeTask cancelable => exact absurd rfl hstored
  | createTask attempt => exact absurd rfl hstored
  | cancelTask => exact absurd rfl hstored
  | _ => rfl

/-- A statement that fails after it had its effect. -/
theorem Effect.refused {request : Request} (hfinal : request.final = false)
    (hstored : stores.serve platform clock runId request ≠ none) {view next : RunView}
    {answer : request.Answer} (heffect : request.Effect runId view next answer) (raised : Raised) :
    request.Effect runId view next (.error raised) := by
  cases request with
  | getRun => exact ⟨heffect.1, nofun⟩
  | updateRun status currentStage error =>
      refine Or.inr ⟨of_decide_eq_false hfinal, ⟨raised, rfl⟩, ?_⟩
      exact heffect.elim (fun hdone => Or.inr hdone.2) fun hleft => hleft.2.2
  | appendEvent eventType payload =>
      refine Or.inr ⟨fun hmem => absurd hmem (of_decide_eq_false hfinal), ⟨raised, rfl⟩, ?_⟩
      exact heffect.elim (fun hdone => Or.inr hdone.2.2) fun hleft => hleft.2.2
  | createRun idea now => exact heffect.imp_right fun hsame => ⟨hsame.1, raised, rfl⟩
  | acceptAction action => exact ⟨heffect.1, nofun⟩
  | activeTask cancelable => exact absurd rfl hstored
  | createTask attempt => exact absurd rfl hstored
  | cancelTask => exact absurd rfl hstored
  | _ => exact heffect

end Request

variable (platform clock runId stores) in
theorem sameRuns_torn (request : Request) (lost : List Location) :
    Database.SameRuns stores.database (stores.torn platform clock runId lost request).database := by
  cases request with
  | acceptAction action => exact (sameRuns_acceptCall platform runId action _ _ stores).1
  | _ => exact .refl _

/-- A statement of storage is one on behalf of its run, however it ends. -/
theorem answer_writes {request : Request} {answer : request.Answer} {fault : StorageFault}
    (hanswer : stores.answer platform clock runId request fault = some (answer, after)) :
    stores.database.Writes runId after.database := by
  obtain ⟨⟨value, next⟩, hserve, hresult⟩ := Option.map_eq_some_iff.mp hanswer
  have hserved := (serve_answers hserve).writes
  cases fault with
  | none =>
      cases hresult
      exact hserved
  | before =>
      cases hresult
      exact .refl _ _
  | after =>
      cases hresult
      exact hserved
  | torn lost =>
      cases hresult
      exact (sameRuns_torn runId platform clock stores request lost).writes runId

/-- What storage answers; only the statements with which a run comes to its end have
to succeed. -/
theorem answer_answers {request : Request} {answer : request.Answer} {fault : StorageFault}
    (hfault : request.final = true → fault = .none)
    (hanswer : stores.answer platform clock runId request fault = some (answer, after)) :
    request.Answers runId stores after answer := by
  refine ⟨answer_writes hanswer, fun attended cancelable => ?_⟩
  obtain ⟨⟨value, next⟩, hserve, hresult⟩ := Option.map_eq_some_iff.mp hanswer
  have hserved := (serve_answers hserve).effect attended cancelable
  have hstored : stores.serve platform clock runId request ≠ none := by
    rw [hserve]
    nofun
  cases hfinal : request.final with
  | true =>
      rw [hfault hfinal] at hresult
      cases hresult
      exact hserved
  | false =>
      cases fault with
      | none =>
          cases hresult
          exact hserved
      | before =>
          cases hresult
          exact Request.effect_refused hfinal hstored _
      | after =>
          cases hresult
          exact hserved.refused hfinal hstored _
      | torn lost =>
          cases hresult
          have hsame := sameRuns_torn runId platform clock stores request lost
          rw [Database.view_congr hsame.runs hsame.events]
          exact Request.effect_refused hfinal hstored _

end Aidlc
