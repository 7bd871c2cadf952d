import Aidlc.Storage.Validity
import Aidlc.Foundation.Effects
import Aidlc.Foundation.Transition

/-! # Human decisions

Calls of `accept_action`, duplicate, conflicting, or stale, interleave with new
interactions, with changes of the other tables, and with the publication of
other artifacts. A call may fail while it publishes the response or while the
database commits.
-/

namespace Aidlc

open Foundation StoreM

variable (platform : Platform)

/-- The write of `publish_response`. -/
def responseRequest (runId : RunId) (interaction : HumanInteraction) (action : HumanAction) :
    WriteRequest :=
  .simple runId interaction.stage .humanResponse "local-learner"
    (interaction.response.getD (.obj []))
    s!"# Human response\n\n{action.decision.value}\n\n{action.answer}" [interaction.artifactId]

/-- What fails during a call: the publication of the response before or after
its file was written, or a statement of the transaction. -/
inductive CallFault where
  | none
  | publish (error : PyError)
  | published (error : PyError)
  | statement (error : PyError)

/-- One call of `accept_action` with the response publisher of the hub. -/
def acceptCall (runId : RunId) (action : HumanAction) (now : Nat) (fault : CallFault) :
    StoreM (HumanInteraction × Bool) :=
  let publishResponse (interaction : HumanInteraction) : StoreM ArtifactRecord :=
    writeArtifact platform (responseRequest runId interaction action) now
  match fault with
  | .none => acceptAction platform runId action publishResponse now
  | .publish error => acceptAction platform runId action (fun _ => throw error) now
  | .published error =>
      acceptAction platform runId action
        (fun interaction => do
          let _ ← publishResponse interaction
          throw error) now
  | .statement error => transaction do
      let _ ← acceptAction platform runId action publishResponse now
      throw error

inductive DecisionLabel where
  | update (change : Database → Database)
  | request (interaction : HumanInteraction)
  | write (request : WriteRequest) (now : Nat)
  | add (record : ArtifactRecord)
  | accept (runId : RunId) (action : HumanAction) (now : Nat) (fault : CallFault)

/-- Only `accept_action` publishes responses; an interaction starts unanswered. -/
def decisions : System Stores DecisionLabel where
  step stores label :=
    match label with
    | .update change =>
        if (change stores.database).artifacts = stores.database.artifacts ∧
            (change stores.database).humanInteractions = stores.database.humanInteractions then
          some { stores with database := change stores.database }
        else none
    | .request interaction =>
        if interaction.response = none then
          some (finalState (liftDatabase (·.saveInteraction interaction) stores))
        else none
    | .write request now =>
        if request.kind ≠ .humanResponse then
          some (finalState (writeArtifact platform request now stores))
        else none
    | .add record =>
        if record ∈ stores.written.map Prod.fst ∧ record.metadata.kind ≠ .humanResponse then
          some (finalState (addArtifact platform record stores))
        else none
    | .accept runId action now fault =>
        some (finalState (acceptCall platform runId action now fault stores))

/-- The surface that the action of a response names. -/
def surfaceOf (response : Json) : Option String :=
  ((response.get? "action").bind fun action => action.get? "surface_id").bind Json.str?

/-- The response of an interaction as `accept_action` records it. -/
def Recorded (interaction : HumanInteraction) (response : Json) : Prop :=
  ∃ action now, action.surfaceId = interaction.surfaceId ∧
    response = recordedResponse platform interaction action now

structure Stores.Decided (stores : Stores) : Prop where
  valid : stores.Valid platform
  surfaces_nodup : (stores.database.humanInteractions.map HumanInteraction.surfaceId).Nodup
  recorded : ∀ interaction ∈ stores.database.humanInteractions, ∀ response,
    interaction.response = some response → Recorded platform interaction response
  published : ∀ interaction ∈ stores.database.humanInteractions, ∀ response,
    interaction.response = some response →
    ∃ row ∈ stores.database.listArtifacts interaction.runId,
      row.metadata.kind = .humanResponse ∧ (row, response) ∈ stores.written
  answered : ∀ row ∈ stores.database.artifacts, row.metadata.kind = .humanResponse →
    ∃ interaction ∈ stores.database.humanInteractions, ∃ response,
      interaction.response = some response ∧ (row, response) ∈ stores.written
  distinct : ∀ first ∈ stores.database.artifacts, ∀ second ∈ stores.database.artifacts,
    first.metadata.kind = .humanResponse → second.metadata.kind = .humanResponse →
    ∀ response, (first, response) ∈ stores.written → (second, response) ∈ stores.written →
    first = second

section Steps

variable {platform}

/-- A recorded response names the surface it answers. -/
theorem surfaceOf_recorded {interaction : HumanInteraction} {response : Json}
    (hrecorded : Recorded platform interaction response) :
    surfaceOf response = some interaction.surfaceId := by
  obtain ⟨action, now, hsurface, rfl⟩ := hrecorded
  simp [surfaceOf, recordedResponse, HumanAction.modelDump, Json.str?, hsurface]

theorem truthy_recorded {interaction : HumanInteraction} {response : Json}
    (hrecorded : Recorded platform interaction response) :
    Json.truthy (some response) = true := by
  obtain ⟨action, now, -, rfl⟩ := hrecorded
  rfl

/-- No two questions share a surface. -/
theorem interaction_ext {stores : Stores} (hdecided : stores.Decided platform)
    {first second : HumanInteraction} (hfirst : first ∈ stores.database.humanInteractions)
    (hsecond : second ∈ stores.database.humanInteractions)
    (hsurface : first.surfaceId = second.surfaceId) : first = second :=
  List.inj_on_of_nodup_map hdecided.surfaces_nodup hfirst hsecond hsurface

/-- A call that returns either found the same action recorded and changed
nothing, or recorded the action on an unanswered interaction. -/
theorem acceptAction_ok {runId : RunId} {action : HumanAction}
    {publishResponse : HumanInteraction → StoreM ArtifactRecord} {now : Nat}
    {interaction : HumanInteraction} {created : Bool} {stores next : Stores}
    (haccept : acceptAction platform runId action publishResponse now stores =
      .ok (interaction, created) next) :
    ∃ found, stores.database.findSurface runId action.surfaceId = some found ∧
      ((Json.truthy found.response = true ∧ interaction = found ∧ created = false ∧
          next = stores ∧ (found.response.getD .null).get? "action" = some action.modelDump) ∨
        (Json.truthy found.response = false ∧ created = true ∧
          interaction = found.answeredBy platform action now ∧
          validateAction stores.database runId found action = .ok () ∧
          ∃ artifact middle inserted, publishResponse interaction stores = .ok artifact middle ∧
            middle.database.insertArtifact artifact = .ok inserted ∧
            next = { middle with database := inserted.updateInteraction interaction })) := by
  unfold acceptAction at haccept
  rw [transaction_eq_ok, bind_eq_ok] at haccept
  obtain ⟨_, _, hget, haccept⟩ := haccept
  rw [get_eq_ok] at hget
  obtain ⟨rfl, rfl⟩ := hget
  cases hfound : stores.database.findSurface runId action.surfaceId with
  | none =>
      rw [hfound] at haccept
      exact absurd haccept throw_ne_ok
  | some found =>
      simp only [hfound] at haccept
      refine ⟨found, rfl, ?_⟩
      cases htruthy : Json.truthy found.response with
      | true =>
          left
          rw [htruthy, if_pos rfl] at haccept
          cases hstored : (found.response.getD .null).get? "action" with
          | none =>
              rw [hstored] at haccept
              exact absurd haccept throw_ne_ok
          | some stored =>
              simp only [hstored] at haccept
              split at haccept
              · rename_i hsame
                rw [pure_eq_ok, Prod.mk.injEq] at haccept
                obtain ⟨⟨rfl, rfl⟩, rfl⟩ := haccept
                exact ⟨rfl, rfl, rfl, rfl, congrArg some hsame⟩
              · exact absurd haccept throw_ne_ok
      | false =>
          right
          rw [htruthy, if_neg Bool.false_ne_true] at haccept
          cases hvalidate : validateAction stores.database runId found action with
          | error error =>
              rw [hvalidate] at haccept
              exact absurd haccept throw_ne_ok
          | ok checked =>
              simp only [hvalidate, bind_eq_ok, pure_eq_ok, Prod.mk.injEq] at haccept
              obtain ⟨artifact, middle, hpublish, ⟨⟩, afterInsert, hinsert, ⟨⟩, last, hupdate,
                ⟨rfl, rfl⟩, rfl⟩ := haccept
              obtain ⟨hinserted, hfiles, hwritten⟩ := liftDatabase_ok hinsert
              obtain ⟨hupdated, hlastFiles, hlastWritten⟩ := liftDatabase_ok hupdate
              refine ⟨rfl, rfl, rfl, rfl, artifact, middle, afterInsert.database, hpublish,
                hinserted, ?_⟩
              cases last
              simp only [Except.ok.injEq] at hupdated hlastFiles hlastWritten
              simp only [← hupdated, hlastFiles, hlastWritten, hfiles, hwritten]

/-- A call that raises changes no table; a file may have been published. -/
theorem acceptAction_error {runId : RunId} {action : HumanAction}
    {publishResponse : HumanInteraction → StoreM ArtifactRecord} {now : Nat} {error : PyError}
    {stores next : Stores}
    (haccept : acceptAction platform runId action publishResponse now stores =
      .error error next) :
    next = stores ∨ ∃ found middle,
      ((∃ artifact, publishResponse found stores = .ok artifact middle) ∨
        ∃ raised, publishResponse found stores = .error raised middle) ∧
      next = { middle with database := stores.database } := by
  unfold acceptAction at haccept
  rw [transaction_eq_error] at haccept
  obtain ⟨final, hbody, rfl⟩ := haccept
  rw [bind_eq_error] at hbody
  rcases hbody with hget | ⟨_, _, hget, hbody⟩
  · exact absurd hget get_ne_error
  rw [get_eq_ok] at hget
  obtain ⟨rfl, rfl⟩ := hget
  have hthrown : ∀ thrown : PyError, (throw thrown : StoreM (HumanInteraction × Bool)) stores =
      .error error final → ({ final with database := stores.database } : Stores) = stores := by
    intro thrown hthrow
    rw [throw_eq_error] at hthrow
    rw [← hthrow.2]
  cases hfound : stores.database.findSurface runId action.surfaceId with
  | none =>
      rw [hfound] at hbody
      exact Or.inl (hthrown _ hbody)
  | some found =>
      simp only [hfound] at hbody
      cases htruthy : Json.truthy found.response with
      | true =>
          rw [htruthy, if_pos rfl] at hbody
          cases hstored : (found.response.getD .null).get? "action" with
          | none =>
              rw [hstored] at hbody
              exact Or.inl (hthrown _ hbody)
          | some stored =>
              simp only [hstored] at hbody
              split at hbody
              · exact absurd hbody pure_ne_error
              · exact Or.inl (hthrown _ hbody)
      | false =>
          rw [htruthy, if_neg Bool.false_ne_true] at hbody
          cases hvalidate : validateAction stores.database runId found action with
          | error refused =>
              rw [hvalidate] at hbody
              exact Or.inl (hthrown _ hbody)
          | ok checked =>
              right
              simp only [hvalidate, bind_eq_error] at hbody
              rcases hbody with hpublish | ⟨artifact, middle, hpublish, hbody⟩
              · exact ⟨_, final, Or.inr ⟨error, hpublish⟩, rfl⟩
              · refine ⟨_, middle, Or.inl ⟨artifact, hpublish⟩, ?_⟩
                rcases hbody with hinsert | ⟨_, afterInsert, hinsert, hbody⟩
                · rw [liftDatabase_error hinsert]
                · obtain ⟨-, hfiles, hwritten⟩ := liftDatabase_ok hinsert
                  rcases hbody with hupdate | ⟨_, afterUpdate, hupdate, hbody⟩
                  · rw [liftDatabase_error hupdate, hfiles, hwritten]
                  · exact absurd hbody pure_ne_error

/-- What a call leaves behind: nothing, a response file without a row, or a
recorded decision. -/
inductive CallOutcome (platform : Platform) (runId : RunId) (action : HumanAction) (now : Nat)
    (stores : Stores) : Stores → Prop
  | unchanged : CallOutcome platform runId action now stores stores
  | orphan (request : WriteRequest) (record : ArtifactRecord) (next : Stores)
      (hwritten : Written platform request stores next record) :
      CallOutcome platform runId action now stores next
  | recorded (found : HumanInteraction) (request : WriteRequest) (row : ArtifactRecord)
      (middle : Stores) (inserted : Database)
      (hfound : stores.database.findSurface runId action.surfaceId = some found)
      (hunanswered : Json.truthy found.response = false)
      (hrequest : request.runId = runId ∧ request.kind = .humanResponse ∧
        request.content = recordedResponse platform found action now)
      (hwritten : Written platform request stores middle row)
      (hinsert : stores.database.insertArtifact row = .ok inserted) :
      CallOutcome platform runId action now stores
        { middle with
          database := inserted.updateInteraction (found.answeredBy platform action now) }

/-- The response publisher writes the file or does nothing. -/
theorem response_written {runId : RunId} {action : HumanAction} {now : Nat}
    {found : HumanInteraction} {stores middle : Stores} {result : EStateM.Result PyError Stores
      ArtifactRecord}
    (hpublish : writeArtifact platform (responseRequest runId found action) now stores = result)
    (hmiddle : finalState result = middle) :
    middle = stores ∨ ∃ record,
      Written platform (responseRequest runId found action) stores middle record := by
  subst hmiddle
  cases result with
  | ok record next => exact Or.inr ⟨record, written_of_writeArtifact hpublish⟩
  | error error next => exact Or.inl (writeArtifact_error hpublish)

/-- What a call of a human action does, whether it returns or raises. -/
theorem outcome_of_acceptCall (runId : RunId) (action : HumanAction) (now : Nat)
    (fault : CallFault) (stores : Stores) :
    CallOutcome platform runId action now stores
      (finalState (acceptCall platform runId action now fault stores)) := by
  -- A call that raises rolls the database back and may leave a file behind.
  have hleft : ∀ middle next : Stores, (middle = stores ∨ ∃ request record,
      Written platform request stores middle record) →
      next = { middle with database := stores.database } →
      CallOutcome platform runId action now stores next := by
    rintro middle next (rfl | ⟨request, record, hwritten⟩) rfl
    · exact .unchanged
    · refine .orphan request record _ ?_
      rw [← hwritten.database]
      exact hwritten
  have hraised : ∀ (publishResponse : HumanInteraction → StoreM ArtifactRecord),
      (∀ found, finalState (publishResponse found stores) = stores ∨ ∃ request record,
        Written platform request stores (finalState (publishResponse found stores)) record) →
      ∀ error next, acceptAction platform runId action publishResponse now stores =
        .error error next → CallOutcome platform runId action now stores next := by
    intro publishResponse hpublish error next haccept
    rcases acceptAction_error haccept with rfl | ⟨found, middle, hmiddle, hnext⟩
    · exact .unchanged
    · have hfinal := hpublish found
      have hsame : finalState (publishResponse found stores) = middle := by
        rcases hmiddle with ⟨artifact, hok⟩ | ⟨raised, herror⟩
        · rw [hok]
          rfl
        · rw [herror]
          rfl
      rw [hsame] at hfinal
      exact hleft middle next hfinal hnext
  have hwrites : ∀ found, finalState (writeArtifact platform
      (responseRequest runId found action) now stores) = stores ∨ ∃ request record,
        Written platform request stores (finalState (writeArtifact platform
          (responseRequest runId found action) now stores)) record := by
    intro found
    exact (response_written rfl rfl).imp_right fun ⟨record, hwritten⟩ => ⟨_, record, hwritten⟩
  -- Without a fault the call either repeats a decision or records one.
  have hplain : ∀ result, acceptAction platform runId action
      (fun interaction => writeArtifact platform (responseRequest runId interaction action) now)
      now stores = result →
      CallOutcome platform runId action now stores (finalState result) := by
    intro result haccept
    cases result with
    | error error next => exact hraised _ hwrites error next haccept
    | ok value next =>
        obtain ⟨interaction, created⟩ := value
        obtain ⟨found, hfound, ⟨-, -, -, rfl, -⟩ | ⟨hunanswered, -, rfl, -, row, middle, inserted,
          hpublish, hinsert, rfl⟩⟩ := acceptAction_ok haccept
        · exact .unchanged
        · have hwritten := written_of_writeArtifact hpublish
          rw [hwritten.database] at hinsert
          exact .recorded found _ row middle inserted hfound hunanswered ⟨rfl, rfl, rfl⟩ hwritten
            hinsert
  -- A fault before the response, between the two writes, or at the last statement.
  cases fault with
  | none => exact hplain _ rfl
  | publish error =>
      simp only [acceptCall]
      cases haccept : acceptAction platform runId action (fun _ => throw error) now stores with
      | error raised next =>
          exact hraised _ (fun _ => Or.inl rfl) raised next haccept
      | ok value next =>
          obtain ⟨interaction, created⟩ := value
          obtain ⟨found, -, ⟨-, -, -, rfl, -⟩ | ⟨-, -, -, -, row, middle, inserted,
            hpublish, -⟩⟩ := acceptAction_ok haccept
          · exact .unchanged
          · exact absurd hpublish throw_ne_ok
  | published error =>
      have hfinal : ∀ found, finalState (((do
          let _ ← writeArtifact platform (responseRequest runId found action) now
          throw error) : StoreM ArtifactRecord) stores) =
          finalState (writeArtifact platform (responseRequest runId found action) now stores) := by
        intro found
        change finalState (EStateM.bind _ _ stores) = _
        unfold EStateM.bind
        cases writeArtifact platform (responseRequest runId found action) now stores <;> rfl
      simp only [acceptCall]
      cases haccept : acceptAction platform runId action (fun found => do
          let _ ← writeArtifact platform (responseRequest runId found action) now
          throw error) now stores with
      | error raised next =>
          refine hraised _ (fun found => ?_) raised next haccept
          rw [hfinal]
          exact hwrites found
      | ok value next =>
          obtain ⟨interaction, created⟩ := value
          obtain ⟨found, -, ⟨-, -, -, rfl, -⟩ | ⟨-, -, -, -, row, middle, inserted,
            hpublish, -⟩⟩ := acceptAction_ok haccept
          · exact .unchanged
          · obtain ⟨_, _, -, hthrow⟩ := bind_eq_ok.mp hpublish
            exact absurd hthrow throw_ne_ok
  | statement error =>
      simp only [acceptCall]
      cases hbody : transaction (do
          let _ ← acceptAction platform runId action
            (fun found => writeArtifact platform (responseRequest runId found action) now) now
          throw error : StoreM (HumanInteraction × Bool)) stores with
      | ok value next =>
          obtain ⟨_, _, -, hthrow⟩ := bind_eq_ok.mp (transaction_eq_ok.mp hbody)
          exact absurd hthrow throw_ne_ok
      | error raised next =>
          obtain ⟨final, hfinal, rfl⟩ := transaction_eq_error.mp hbody
          rcases bind_eq_error.mp hfinal with haccept | ⟨value, middle, haccept, hthrow⟩
          · have hsame := hplain _ haccept
            have hdatabase : final.database = stores.database := by
              unfold acceptAction at haccept
              exact transaction_error haccept
            rw [← hdatabase]
            exact hsame
          · obtain ⟨rfl, rfl⟩ := throw_eq_error.mp hthrow
            obtain ⟨interaction, created⟩ := value
            obtain ⟨found, -, ⟨-, -, -, rfl, -⟩ | ⟨-, -, -, -, row, afterWrite, inserted,
              hpublish, -, rfl⟩⟩ := acceptAction_ok haccept
            · exact .unchanged
            · exact hleft afterWrite _ (Or.inr ⟨_, row, written_of_writeArtifact hpublish⟩) rfl

/-- Responses are individual records, which no other artifact displaces. -/
theorem not_displaced_response {row : ArtifactRecord} {content : Json} {metadata : ArtifactMetadata}
    (hpublished : Published platform row content) (hrow : row.metadata.kind = .humanResponse)
    (hkind : metadata.kind ≠ .humanResponse ∨ metadata.currentSnapshot = false) :
    Database.displacedBy metadata row.metadata = false := by
  have hsnapshot : row.metadata.currentSnapshot = false := by
    rw [hpublished.snapshot, hrow]
    rfl
  rcases hkind with hkind | hkind
  · have hslot : (row.metadata.kind == metadata.kind) = false := by
      rw [hrow]
      exact beq_false_of_ne hkind.symm
    simp [Database.displacedBy, Database.sameSlot, hslot, hsnapshot]
  · simp [Database.displacedBy, hkind]

/-- Every interaction is still there, and an answered one is unchanged. -/
def DecisionsKept (platform : Platform) (stores next : Stores) : Prop :=
  ∀ interaction ∈ stores.database.humanInteractions,
    ∃ later ∈ next.database.humanInteractions, later.surfaceId = interaction.surfaceId ∧
      (later = interaction ∨ (interaction.response = none ∧
        ∃ action now, later = interaction.answeredBy platform action now))

theorem decisionsKept_of_eq {stores next : Stores}
    (hsame : next.database.humanInteractions = stores.database.humanInteractions) :
    DecisionsKept platform stores next := by
  intro interaction hmem
  exact ⟨interaction, hsame ▸ hmem, rfl, Or.inl rfl⟩

/-- Keeping the decisions composes. -/
theorem DecisionsKept.trans {first second third : Stores}
    (hfirst : DecisionsKept platform first second)
    (hsecond : DecisionsKept platform second third) : DecisionsKept platform first third := by
  intro interaction hmem
  obtain ⟨middle, hmiddle, hsurface, hcase⟩ := hfirst interaction hmem
  obtain ⟨later, hlater, hlaterSurface, hlaterCase⟩ := hsecond middle hmiddle
  refine ⟨later, hlater, hlaterSurface.trans hsurface, ?_⟩
  rcases hcase with rfl | ⟨hnone, action, now, rfl⟩
  · exact hlaterCase
  · rcases hlaterCase with rfl | ⟨hunanswered, -⟩
    · exact Or.inr ⟨hnone, action, now, rfl⟩
    · simp [HumanInteraction.answeredBy] at hunanswered

namespace Stores.Decided

variable {stores next : Stores}

/-- A question without a truthy response has none. -/
theorem response_none (hdecided : stores.Decided platform) {interaction : HumanInteraction}
    (hmem : interaction ∈ stores.database.humanInteractions)
    (huntruthy : Json.truthy interaction.response = false) : interaction.response = none := by
  cases hresponse : interaction.response with
  | none => rfl
  | some response =>
      have htruthy := truthy_recorded (hdecided.recorded interaction hmem response hresponse)
      rw [hresponse, htruthy] at huntruthy
      cases huntruthy

theorem update {database : Database} (hdecided : stores.Decided platform)
    (hrows : database.artifacts = stores.database.artifacts)
    (hinteractions : database.humanInteractions = stores.database.humanInteractions) :
    Stores.Decided platform { stores with database } where
  valid := hdecided.valid.update hrows
  surfaces_nodup := by
    rw [hinteractions]
    exact hdecided.surfaces_nodup
  recorded := by
    rw [hinteractions]
    exact hdecided.recorded
  published := by
    rw [hinteractions]
    simp only [Database.listArtifacts, hrows]
    exact hdecided.published
  answered := by
    rw [hinteractions, hrows]
    exact hdecided.answered
  distinct := by
    rw [hrows]
    exact hdecided.distinct

theorem write {request : WriteRequest} {record : ArtifactRecord}
    (hdecided : stores.Decided platform) (hwritten : Written platform request stores next record) :
    next.Decided platform where
  valid := hdecided.valid.write hwritten
  surfaces_nodup := by
    rw [hwritten.database]
    exact hdecided.surfaces_nodup
  recorded := by
    rw [hwritten.database]
    exact hdecided.recorded
  published := by
    rw [hwritten.database, hwritten.written]
    intro interaction hmem response hresponse
    obtain ⟨row, hrow, hkind, hcontent⟩ := hdecided.published interaction hmem response hresponse
    exact ⟨row, hrow, hkind, List.mem_append_left _ hcontent⟩
  answered := by
    rw [hwritten.database, hwritten.written]
    intro row hrow hkind
    obtain ⟨interaction, hmem, response, hresponse, hcontent⟩ := hdecided.answered row hrow hkind
    exact ⟨interaction, hmem, response, hresponse, List.mem_append_left _ hcontent⟩
  distinct := by
    rw [hwritten.database, hwritten.written]
    intro first hfirst second hsecond hfirstKind hsecondKind response hfirstContent hsecondContent
    -- A row was written before, so its entry is not the new one.
    have hold : ∀ row ∈ stores.database.artifacts,
        (row, response) ∈ stores.written ++ [(record, request.content)] →
        (row, response) ∈ stores.written := by
      intro row hrow hmem
      rcases List.mem_append.mp hmem with hmem | hmem
      · exact hmem
      · obtain ⟨content, hcontent⟩ := hdecided.valid.rows_written row hrow
        have hlt := hdecided.valid.artifactId_lt hcontent
        rw [(Prod.mk.inj (List.mem_singleton.mp hmem)).1] at hlt
        exact absurd hwritten.fresh (Nat.ne_of_lt hlt)
    exact hdecided.distinct first hfirst second hsecond hfirstKind hsecondKind response
      (hold first hfirst hfirstContent) (hold second hsecond hsecondContent)

/-- Inserting an artifact of another kind keeps every response row. -/
theorem insert {record : ArtifactRecord} {content : Json} (hdecided : stores.Decided platform)
    (hmem : (record, content) ∈ stores.written) (hkind : record.metadata.kind ≠ .humanResponse)
    (hfiles : next.files = stores.files) (hwritten : next.written = stores.written)
    (hinsert : stores.database.insertArtifact record = .ok next.database) :
    next.Decided platform := by
  have hvalid := hdecided.valid.insert hmem hfiles hwritten hinsert
  obtain ⟨-, -, hrows⟩ := insertArtifact_ok hinsert
  have hinteractions : next.database.humanInteractions = stores.database.humanInteractions := by
    rw [hrows]
  have hmemRows : ∀ row, row.metadata.kind = .humanResponse →
      (row ∈ next.database.artifacts ↔ row ∈ stores.database.artifacts) := by
    intro row hrow
    rw [hrows]
    simp only [Database.keptRows, List.mem_append, List.mem_filter, List.mem_singleton]
    constructor
    · rintro (⟨hold, -⟩ | rfl)
      · exact hold
      · exact absurd hrow hkind
    · intro hold
      obtain ⟨rowContent, hrowWritten⟩ := hdecided.valid.rows_written row hold
      have hkept := not_displaced_response (hdecided.valid.published _ _ hrowWritten) hrow
        (Or.inl hkind)
      exact Or.inl ⟨hold, by simp [hkept]⟩
  refine ⟨hvalid, ?_, ?_, ?_, ?_, ?_⟩
  · rw [hinteractions]
    exact hdecided.surfaces_nodup
  · rw [hinteractions]
    exact hdecided.recorded
  · rw [hinteractions, hwritten]
    intro interaction hinteraction response hresponse
    obtain ⟨row, hrow, hrowKind, hcontent⟩ :=
      hdecided.published interaction hinteraction response hresponse
    rw [Database.mem_listArtifacts] at hrow
    exact ⟨row, Database.mem_listArtifacts.mpr ⟨(hmemRows row hrowKind).mpr hrow.1, hrow.2⟩,
      hrowKind, hcontent⟩
  · rw [hinteractions, hwritten]
    intro row hrow hrowKind
    exact hdecided.answered row ((hmemRows row hrowKind).mp hrow) hrowKind
  · intro first hfirst second hsecond hfirstKind hsecondKind response hfirstContent hsecondContent
    rw [hwritten] at hfirstContent hsecondContent
    exact hdecided.distinct first ((hmemRows first hfirstKind).mp hfirst) second
      ((hmemRows second hsecondKind).mp hsecond) hfirstKind hsecondKind response hfirstContent
      hsecondContent

theorem request {interaction : HumanInteraction} {database : Database}
    (hdecided : stores.Decided platform) (hunanswered : interaction.response = none)
    (hsave : stores.database.saveInteraction interaction = .ok database) :
    Stores.Decided platform { stores with database } ∧
      DecisionsKept platform stores { stores with database } := by
  unfold Database.saveInteraction at hsave
  split at hsave
  · simp [integrityError] at hsave
  rename_i hfresh
  split at hsave
  · obtain rfl := Except.ok.inj hsave
    have hsurface : ∀ other ∈ stores.database.humanInteractions,
        other.surfaceId ≠ interaction.surfaceId := by
      intro other hother heq
      exact hfresh (List.any_eq_true.mpr ⟨other, hother, by simpa using heq⟩)
    have hanswered : ∀ other ∈ stores.database.humanInteractions ++ [interaction], ∀ response,
        other.response = some response → other ∈ stores.database.humanInteractions := by
      intro other hother response hresponse
      rcases List.mem_append.mp hother with hold | hnew
      · exact hold
      · rw [List.mem_singleton.mp hnew, hunanswered] at hresponse
        cases hresponse
    refine ⟨⟨hdecided.valid.update rfl, ?_, ?_, ?_, ?_, hdecided.distinct⟩, ?_⟩
    · rw [List.map_append, List.nodup_append]
      refine ⟨hdecided.surfaces_nodup, List.nodup_singleton _, ?_⟩
      intro first hfirst second hsecond
      obtain ⟨other, hother, rfl⟩ := List.mem_map.mp hfirst
      rw [List.map_singleton, List.mem_singleton] at hsecond
      rw [hsecond]
      exact hsurface other hother
    · intro other hother response hresponse
      exact hdecided.recorded other (hanswered other hother response hresponse) response hresponse
    · intro other hother response hresponse
      exact hdecided.published other (hanswered other hother response hresponse) response hresponse
    · intro row hrow hkind
      obtain ⟨other, hother, response, hresponse, hcontent⟩ := hdecided.answered row hrow hkind
      exact ⟨other, List.mem_append_left _ hother, response, hresponse, hcontent⟩
    · intro other hother
      exact ⟨other, List.mem_append_left _ hother, rfl, Or.inl rfl⟩
  · simp [integrityError] at hsave

/-- Recording a decision answers one interaction, with one new row. -/
theorem record {runId : RunId} {action : HumanAction} {now : Nat} {found : HumanInteraction}
    {request : WriteRequest} {row : ArtifactRecord} {middle : Stores} {inserted : Database}
    (hdecided : stores.Decided platform)
    (hfound : stores.database.findSurface runId action.surfaceId = some found)
    (hunanswered : Json.truthy found.response = false)
    (hrequest : request.runId = runId ∧ request.kind = .humanResponse ∧
      request.content = recordedResponse platform found action now)
    (hwritten : Written platform request stores middle row)
    (hinsert : stores.database.insertArtifact row = .ok inserted) :
    Stores.Decided platform
        { middle with
          database := inserted.updateInteraction (found.answeredBy platform action now) } ∧
      DecisionsKept platform stores
        { middle with
          database := inserted.updateInteraction (found.answeredBy platform action now) } := by
  obtain ⟨hrunId, hkind, hcontent⟩ := hrequest
  have hfoundMem := List.mem_of_find?_eq_some hfound
  have hfoundKeys := List.find?_some hfound
  simp only [Bool.and_eq_true, beq_iff_eq] at hfoundKeys
  have hnone := hdecided.response_none hfoundMem hunanswered
  have hrowKind := hwritten.kind.trans hkind
  have hsnapshot : row.metadata.currentSnapshot = false := by
    rw [hwritten.published.snapshot, hrowKind]
    rfl
  obtain ⟨-, -, rfl⟩ := insertArtifact_ok hinsert
  have hkept : stores.database.keptRows row.metadata = stores.database.artifacts := by
    simp [Database.keptRows, Database.displacedBy, hsnapshot]
  let answered := found.answeredBy platform action now
  let interactions := stores.database.humanInteractions.map fun other =>
    if other.surfaceId = found.surfaceId then answered else other
  have hvalid : Stores.Valid platform { middle with database := { stores.database with
      artifacts := stores.database.artifacts ++ [row] } } :=
    (hdecided.valid.write hwritten).insert
      (by rw [hwritten.written]; exact List.mem_append_right _ List.mem_cons_self) rfl rfl
      (by rw [hwritten.database, hinsert, hkept])
  have hrecorded : Recorded platform answered (recordedResponse platform found action now) :=
    ⟨action, now, hfoundKeys.1.symm, rfl⟩
  have hcases : ∀ other ∈ interactions, other = answered ∨
      (other ∈ stores.database.humanInteractions ∧ other.surfaceId ≠ found.surfaceId) := by
    intro other hother
    obtain ⟨before, hbefore, rfl⟩ := List.mem_map.mp hother
    by_cases hsame : before.surfaceId = found.surfaceId
    · exact Or.inl (if_pos hsame)
    · exact Or.inr (by rw [if_neg hsame]; exact ⟨hbefore, hsame⟩)
  have hanswered : answered ∈ interactions :=
    List.mem_map.mpr ⟨found, hfoundMem, if_pos rfl⟩
  have hkeptInteraction : ∀ other ∈ stores.database.humanInteractions,
      other.surfaceId ≠ found.surfaceId → other ∈ interactions := fun other hother hne =>
    List.mem_map.mpr ⟨other, hother, if_neg hne⟩
  have hnewContent : (row, recordedResponse platform found action now) ∈ middle.written := by
    rw [hwritten.written, hcontent]
    exact List.mem_append_right _ List.mem_cons_self
  have hnewRow : row ∈ stores.database.artifacts ++ [row] :=
    List.mem_append_right _ List.mem_cons_self
  have hmiddle := hdecided.write hwritten
  have hpublished := hmiddle.published
  have hrows := hmiddle.answered
  have hdistinct := hmiddle.distinct
  rw [hwritten.database] at hpublished hrows hdistinct
  -- No earlier response names the surface, which was unanswered.
  have hnewResponse : ∀ other ∈ stores.database.artifacts, other.metadata.kind = .humanResponse →
      ∀ response, (other, response) ∈ middle.written → (row, response) ∉ middle.written := by
    intro other hother hotherKind response hresponse hrow
    obtain ⟨interaction, hmem, stored, hstored, hstoredContent⟩ := hrows other hother hotherKind
    have hother := hmiddle.valid.eq_of_artifactId hresponse hstoredContent rfl
    have hnew := hmiddle.valid.eq_of_artifactId hrow hnewContent rfl
    rw [Prod.mk.injEq] at hother hnew
    have hsurface := surfaceOf_recorded (hdecided.recorded interaction hmem stored hstored)
    rw [← hother.2, hnew.2, surfaceOf_recorded hrecorded, Option.some.injEq] at hsurface
    rw [← interaction_ext hdecided hfoundMem hmem hsurface, hnone] at hstored
    cases hstored
  rw [hkept]
  refine ⟨⟨hvalid.update rfl, ?_, ?_, ?_, ?_, ?_⟩, ?_⟩
  · change (interactions.map HumanInteraction.surfaceId).Nodup
    have hsurfaces : interactions.map HumanInteraction.surfaceId =
        stores.database.humanInteractions.map HumanInteraction.surfaceId := by
      rw [List.map_map]
      apply List.map_congr_left
      intro other _
      by_cases hsame : other.surfaceId = found.surfaceId
      · simp [hsame, answered, HumanInteraction.answeredBy]
      · simp [hsame]
    rw [hsurfaces]
    exact hdecided.surfaces_nodup
  · intro other hother response hresponse
    rcases hcases other hother with rfl | ⟨hold, -⟩
    · cases hresponse
      exact hrecorded
    · exact hdecided.recorded other hold response hresponse
  · intro other hother response hresponse
    rcases hcases other hother with rfl | ⟨hold, -⟩
    · cases hresponse
      refine ⟨row, Database.mem_listArtifacts.mpr ⟨hnewRow, ?_⟩, hrowKind, hnewContent⟩
      exact hwritten.runId.trans (hrunId.trans hfoundKeys.2.symm)
    · obtain ⟨otherRow, hrow, hotherKind, hotherContent⟩ :=
        hpublished other hold response hresponse
      rw [Database.mem_listArtifacts] at hrow
      exact ⟨otherRow, Database.mem_listArtifacts.mpr ⟨List.mem_append_left _ hrow.1, hrow.2⟩,
        hotherKind, hotherContent⟩
  · intro other hother hotherKind
    rcases List.mem_append.mp hother with hold | hlast
    · obtain ⟨interaction, hmem, response, hresponse, hotherContent⟩ :=
        hrows other hold hotherKind
      refine ⟨interaction, hkeptInteraction interaction hmem ?_, response, hresponse, hotherContent⟩
      intro hsame
      rw [interaction_ext hdecided hmem hfoundMem hsame, hnone] at hresponse
      cases hresponse
    · rw [List.mem_singleton.mp hlast]
      exact ⟨answered, hanswered, _, rfl, hnewContent⟩
  · intro first hfirst second hsecond hfirstKind hsecondKind response hfirstContent hsecondContent
    rcases List.mem_append.mp hfirst with hfirstOld | hfirstNew <;>
      rcases List.mem_append.mp hsecond with hsecondOld | hsecondNew
    · exact hdistinct first hfirstOld second hsecondOld hfirstKind hsecondKind response
        hfirstContent hsecondContent
    · rw [List.mem_singleton.mp hsecondNew] at hsecondContent
      exact absurd hsecondContent
        (hnewResponse first hfirstOld hfirstKind response hfirstContent)
    · rw [List.mem_singleton.mp hfirstNew] at hfirstContent
      exact absurd hfirstContent
        (hnewResponse second hsecondOld hsecondKind response hsecondContent)
    · rw [List.mem_singleton.mp hfirstNew, List.mem_singleton.mp hsecondNew]
  · intro other hother
    by_cases hsame : other.surfaceId = found.surfaceId
    · obtain rfl := interaction_ext hdecided hother hfoundMem hsame
      exact ⟨answered, hanswered, rfl, Or.inr ⟨hnone, action, now, rfl⟩⟩
    · exact ⟨other, hkeptInteraction other hother hsame, rfl, Or.inl rfl⟩

end Stores.Decided

/-- One step keeps the decisions and what is known about them. -/
theorem Stores.Decided.step {stores next : Stores} {label : DecisionLabel}
    (hdecided : stores.Decided platform)
    (hstep : (decisions platform).step stores label = some next) :
    next.Decided platform ∧ DecisionsKept platform stores next := by
  cases label with
  | update change =>
      simp only [decisions, Option.ite_none_right_eq_some, Option.some.injEq] at hstep
      obtain ⟨⟨hrows, hinteractions⟩, rfl⟩ := hstep
      exact ⟨hdecided.update hrows hinteractions, decisionsKept_of_eq hinteractions⟩
  | request interaction =>
      simp only [decisions, Option.ite_none_right_eq_some, Option.some.injEq] at hstep
      obtain ⟨hunanswered, rfl⟩ := hstep
      cases hlift : liftDatabase (·.saveInteraction interaction) stores with
      | error error final =>
          obtain rfl := liftDatabase_error hlift
          exact ⟨hdecided, decisionsKept_of_eq rfl⟩
      | ok value final =>
          obtain ⟨hsave, hfiles, hwritten⟩ := liftDatabase_ok hlift
          obtain ⟨files, database, written⟩ := final
          obtain rfl : files = stores.files := hfiles
          obtain rfl : written = stores.written := hwritten
          exact hdecided.request hunanswered hsave
  | write request now =>
      simp only [decisions, Option.ite_none_right_eq_some, Option.some.injEq] at hstep
      obtain ⟨-, rfl⟩ := hstep
      cases hwrite : writeArtifact platform request now stores with
      | error error final =>
          obtain rfl := writeArtifact_error hwrite
          exact ⟨hdecided, decisionsKept_of_eq rfl⟩
      | ok record final =>
          have hwritten := written_of_writeArtifact hwrite
          have hsame : final.database.humanInteractions = stores.database.humanInteractions := by
            rw [hwritten.database]
          exact ⟨hdecided.write hwritten, decisionsKept_of_eq hsame⟩
  | add record =>
      simp only [decisions, Option.ite_none_right_eq_some, Option.some.injEq] at hstep
      obtain ⟨⟨hmem, hkind⟩, rfl⟩ := hstep
      obtain ⟨⟨written, content⟩, hentry, rfl⟩ := List.mem_map.mp hmem
      cases hadd : addArtifact platform written stores with
      | error error final =>
          have hpath := (hdecided.valid.published _ _ hentry).path_project
          obtain rfl := (addArtifact_error hpath hadd).1
          exact ⟨hdecided, decisionsKept_of_eq rfl⟩
      | ok value final =>
          obtain ⟨hfiles, hwritten, hinsert, -⟩ := addArtifact_ok hadd
          have hsame : final.database.humanInteractions = stores.database.humanInteractions := by
            rw [(insertArtifact_ok hinsert).2.2]
          exact ⟨hdecided.insert hentry hkind hfiles hwritten hinsert, decisionsKept_of_eq hsame⟩
  | accept runId action now fault =>
      simp only [decisions, Option.some.injEq] at hstep
      subst hstep
      have houtcome := @outcome_of_acceptCall platform runId action now fault stores
      generalize finalState (acceptCall platform runId action now fault stores) = next
        at houtcome ⊢
      cases houtcome with
      | unchanged => exact ⟨hdecided, decisionsKept_of_eq rfl⟩
      | orphan request record next hwritten =>
          have hsame : next.database.humanInteractions = stores.database.humanInteractions := by
            rw [hwritten.database]
          exact ⟨hdecided.write hwritten, decisionsKept_of_eq hsame⟩
      | recorded found request row middle inserted hfound hunanswered hrequest hwritten hinsert =>
          exact hdecided.record hfound hunanswered hrequest hwritten hinsert

theorem decided_empty : Stores.empty.Decided platform := by
  constructor
  · exact valid_empty
  all_goals simp [Stores.empty, Database.empty]

theorem decided_of_run {labels : List DecisionLabel} {last : Stores}
    (hrun : (decisions platform).run .empty labels = some last) : last.Decided platform :=
  (decisions platform).run_invariant (Stores.Decided platform)
    (fun _ _ _ hdecided hstep => (hdecided.step hstep).1) decided_empty hrun

theorem decisionsKept_of_run {labels : List DecisionLabel} {stores last : Stores}
    (hdecided : stores.Decided platform)
    (hrun : (decisions platform).run stores labels = some last) :
    DecisionsKept platform stores last :=
  ((decisions platform).run_invariant
    (fun current => current.Decided platform ∧ DecisionsKept platform stores current)
    (fun _ _ _ hcurrent hstep =>
      ⟨(hcurrent.1.step hstep).1, hcurrent.2.trans (hcurrent.1.step hstep).2⟩)
    ⟨hdecided, decisionsKept_of_eq rfl⟩ hrun).2

/-- The content was read and its action names the surface. -/
def namesSurface (surfaceId : String) : Except PyError Json → Bool
  | .ok content => surfaceOf content == some surfaceId
  | .error _ => false

/-- The listed responses of the run of an interaction that name its surface. -/
def responseRows (platform : Platform) (stores : Stores) (interaction : HumanInteraction) :
    List ArtifactRecord :=
  (stores.database.listArtifacts interaction.runId).filter fun row =>
    row.metadata.kind == .humanResponse &&
      namesSurface interaction.surfaceId (stores.files.readContent platform row)

theorem eq_singleton_of_nodup {α : Type} {values : List α} {value : α} (hnodup : values.Nodup)
    (hmem : value ∈ values) (hall : ∀ other ∈ values, other = value) : values = [value] := by
  have hreplicate := List.eq_replicate_of_mem hall
  cases values with
  | nil => simp at hmem
  | cons first rest =>
      cases rest with
      | nil => rw [hall first List.mem_cons_self]
      | cons second tail =>
          rw [hall first List.mem_cons_self, hall second (by simp)] at hnodup
          simp at hnodup

theorem listArtifacts_nodup {stores : Stores} (hvalid : stores.Valid platform) (runId : RunId) :
    (stores.database.listArtifacts runId).Nodup := by
  refine (List.perm_insertionSort _ _).nodup_iff.mpr (List.Nodup.filter _ ?_)
  exact List.Nodup.of_map _ hvalid.rows_nodup

/-- An answered surface has exactly one response row, which reads back the
stored response. -/
theorem responseRows_of_answered {stores : Stores} (hdecided : stores.Decided platform)
    {interaction : HumanInteraction}
    (hmem : interaction ∈ stores.database.humanInteractions) {response : Json}
    (hresponse : interaction.response = some response) :
    ∃ row, responseRows platform stores interaction = [row] ∧
      stores.files.readContent platform row = .ok response := by
  obtain ⟨row, hrow, hkind, hcontent⟩ := hdecided.published interaction hmem response hresponse
  have hread : ∀ other content, (other, content) ∈ stores.written →
      other.metadata.kind = .humanResponse →
      stores.files.readContent platform other = .ok content := by
    intro other content hother hotherKind
    have hsnapshot : other.metadata.currentSnapshot = false := by
      rw [(hdecided.valid.published _ _ hother).snapshot, hotherKind]
      rfl
    exact hdecided.valid.readContent_of_live hother
      (hdecided.valid.records_live _ _ hother hsnapshot)
  have hsurface := surfaceOf_recorded (hdecided.recorded interaction hmem response hresponse)
  refine ⟨row, eq_singleton_of_nodup ?_ ?_ ?_, hread row response hcontent hkind⟩
  · exact (listArtifacts_nodup hdecided.valid _).filter _
  · simp [responseRows, hrow, hkind, hread row response hcontent hkind, namesSurface, hsurface]
  · intro other hother
    simp only [responseRows, List.mem_filter, Bool.and_eq_true, beq_iff_eq] at hother
    obtain ⟨hlisted, hotherKind, hnames⟩ := hother
    have hstored := (Database.mem_listArtifacts.mp hlisted).1
    obtain ⟨answered, hanswered, content, hotherResponse, hotherContent⟩ :=
      hdecided.answered other hstored hotherKind
    rw [hread other content hotherContent hotherKind, namesSurface, beq_iff_eq] at hnames
    have hotherSurface :=
      surfaceOf_recorded (hdecided.recorded answered hanswered content hotherResponse)
    have hsame : answered = interaction := interaction_ext hdecided hanswered hmem
      (Option.some.inj (hotherSurface.symm.trans hnames))
    subst hsame
    rw [hresponse, Option.some.injEq] at hotherResponse
    subst hotherResponse
    exact hdecided.distinct other hstored row (Database.mem_listArtifacts.mp hrow).1 hotherKind
      hkind response hotherContent hcontent

/-- Repeating the recorded action returns the stored interaction. -/
theorem acceptAction_repeated {stores : Stores} (hdecided : stores.Decided platform)
    {runId : RunId} {action : HumanAction} {interaction : HumanInteraction} {response : Json}
    (hfound : stores.database.findSurface runId action.surfaceId = some interaction)
    (hresponse : interaction.response = some response)
    (hsame : response.get? "action" = some action.modelDump)
    (publishResponse : HumanInteraction → StoreM ArtifactRecord) (now : Nat) :
    acceptAction platform runId action publishResponse now stores =
      .ok (interaction, false) stores := by
  have hmem := List.mem_of_find?_eq_some hfound
  have htruthy := truthy_recorded (hdecided.recorded interaction hmem response hresponse)
  unfold acceptAction
  rw [transaction_eq_ok, bind_eq_ok]
  refine ⟨stores, stores, get_eq_ok.mpr ⟨rfl, rfl⟩, ?_⟩
  simp only [hfound, hresponse, htruthy, if_true, Option.getD_some, hsame]
  exact pure_eq_ok.mpr ⟨rfl, rfl⟩

/-- A human decision is recorded exactly once. From every reachable state, in
every run: an answered interaction never changes and an unanswered one changes
at most by an accepted action; each answered surface has exactly one response
row, whose content is the stored response; a repeated identical action returns
the stored interaction and changes nothing; and a call that raises, whatever
its response publisher does, changes no table. -/
theorem decisions_recorded_once {labels : List DecisionLabel} {stores : Stores}
    (hrun : (decisions platform).run .empty labels = some stores) :
    (∀ (more : List DecisionLabel) (last : Stores),
      (decisions platform).run stores more = some last → DecisionsKept platform stores last) ∧
    (∀ interaction ∈ stores.database.humanInteractions, ∀ response,
      interaction.response = some response →
      ∃ row, responseRows platform stores interaction = [row] ∧
        stores.files.readContent platform row = .ok response) ∧
    (∀ runId action interaction response publishResponse now,
      stores.database.findSurface runId action.surfaceId = some interaction →
      interaction.response = some response →
      response.get? "action" = some action.modelDump →
      acceptAction platform runId action publishResponse now stores =
        .ok (interaction, false) stores) ∧
    (∀ runId action publishResponse now error last,
      acceptAction platform runId action publishResponse now stores = .error error last →
      last.database = stores.database) ∧
    (∀ runId action now fault error last,
      acceptCall platform runId action now fault stores = .error error last →
      last.database = stores.database) := by
  have hdecided := decided_of_run hrun
  refine ⟨fun more last => decisionsKept_of_run hdecided, ?_, ?_, ?_, ?_⟩
  · exact fun interaction hmem response => responseRows_of_answered hdecided hmem
  · exact fun runId action interaction response publishResponse now hfound hresponse hsame =>
      acceptAction_repeated hdecided hfound hresponse hsame publishResponse now
  · exact fun runId action publishResponse now error last haccept => transaction_error haccept
  · intro runId action now fault error last hcall
    cases fault with
    | none | publish raised | published raised | statement raised =>
        exact transaction_error hcall

end Steps

/-- A run waits for the approval of its requirements. -/
def waitingRun (database : Database) : Database :=
  match database.createRun "run_a" "idea" 0 with
  | .ok next => next.updateRun "run_a" .inputRequired (some .requirements) none
  | .error _ => database

def sampleInteraction : HumanInteraction where
  surfaceId := "surface"
  runId := "run_a"
  stage := .requirements
  agent := "requirements-agent"
  taskId := 1
  contextId := "context"
  prompt := ⟨.approval, "Approve the requirements?"⟩
  artifactId := 0
  artifactSha256 := "digest"
  version := 1
  response := none

def sampleAction : HumanAction := ⟨"action", "surface", "digest", 1, .approve, ""⟩

def approvedTwice : List DecisionLabel :=
  [.update waitingRun, .request sampleInteraction, .accept "run_a" sampleAction 1 .none,
    .accept "run_a" sampleAction 2 .none]

theorem decisions_recorded_once_approved : ∃ stores interaction response row,
    (decisions samplePlatform).run .empty approvedTwice = some stores ∧
      interaction ∈ stores.database.humanInteractions ∧
      interaction.response = some response ∧
      responseRows samplePlatform stores interaction = [row] ∧
      stores.files.readContent samplePlatform row = .ok response := by
  have hsome : ((decisions samplePlatform).run .empty approvedTwice).isSome = true := by
    decide +kernel
  have hmem : sampleInteraction.answeredBy samplePlatform sampleAction 1 ∈
      (((decisions samplePlatform).run .empty approvedTwice).get
        hsome).database.humanInteractions := by decide +kernel +revert
  have hrun := (Option.some_get hsome).symm
  obtain ⟨row, hrows, hread⟩ := (decisions_recorded_once hrun).2.1 _ hmem _ rfl
  exact ⟨_, _, _, row, hrun, hmem, rfl, hrows, hread⟩

end Aidlc
