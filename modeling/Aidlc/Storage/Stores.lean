import Aidlc.Storage.Database

/-! # Stores

The artifact root and the database together, and the operations that touch
both. `written` records every completed write with the content it was given;
nothing reads it except the source of fresh artifact identifiers, which never
repeat.
-/

namespace Aidlc

open Foundation

structure Stores where
  files : FileStore
  database : Database
  written : List (ArtifactRecord × Json)

def Stores.empty : Stores := ⟨.empty, .empty, []⟩

abbrev StoreM := EStateM PyError Stores

namespace StoreM

/-- A transaction of the database: an exception rolls every table back. -/
def transaction {α : Type} (body : StoreM α) : StoreM α := fun stores =>
  match body stores with
  | .ok value next => .ok value next
  | .error error next => .error error { next with database := stores.database }

def liftDatabase (change : Database → Except PyError Database) : StoreM Unit := fun stores =>
  match change stores.database with
  | .ok database => .ok () { stores with database }
  | .error error => .error error stores

end StoreM

open StoreM

variable (platform : Platform)

/-- `ArtifactStore.write` with a fresh identifier. -/
def writeArtifact (request : WriteRequest) (now : Nat) : StoreM ArtifactRecord := fun stores =>
  match stores.files.write platform request stores.written.length now with
  | .ok (record, files) =>
      .ok record { stores with files, written := stores.written ++ [(record, request.content)] }
  | .error error => .error error stores

def readArtifact (record : ArtifactRecord) : StoreM Json := fun stores =>
  match stores.files.readContent platform record with
  | .ok content => .ok content stores
  | .error error => .error error stores

/-- `WorkflowDatabase.add_artifact` -/
def addArtifact (artifact : ArtifactRecord) : StoreM Unit := transaction do
  if artifact.metadata.currentSnapshot then
    -- `next` over the parents of the path finds no project directory
    if artifact.contentPath.project ≠ artifact.metadata.projectId then
      throw ⟨.stopIteration, ""⟩
    -- An out-of-order publisher must not index an already superseded snapshot.
    let _ ← readArtifact platform artifact
    liftDatabase (·.insertArtifact artifact)
  else
    liftDatabase (·.insertArtifact artifact)

def allowedDecisions : PromptKind → List Decision
  | .clarification => [.submit]
  | .approval => [.approve, .reject]
  | .evaluationDecision => [.accept, .repair]

/-- The response recorded for an accepted action. -/
def recordedResponse (interaction : HumanInteraction) (action : HumanAction) (now : Nat) : Json :=
  .obj [("action", action.modelDump), ("actor", .str "local-learner"),
    ("answered_at", .str (platform.isoformat now)), ("decision", .str action.decision.value),
    ("answer", .str action.answer), ("artifact_id", idJson interaction.artifactId),
    ("artifact_sha256", .str interaction.artifactSha256), ("action_id", .str action.actionId)]

/-- The interaction once the action is accepted. -/
def HumanInteraction.answeredBy (interaction : HumanInteraction) (action : HumanAction)
    (now : Nat) : HumanInteraction :=
  { interaction with response := some (recordedResponse platform interaction action now) }

/-- The checks of `accept_action` on an unanswered interaction. -/
def validateAction (database : Database) (runId : RunId) (interaction : HumanInteraction)
    (action : HumanAction) : Except PyError Unit :=
  if (database.getRun runId).map WorkflowRun.status ≠ some .inputRequired then
    .error ⟨.valueError, "Run is not waiting for human input"⟩
  else if action.version ≠ interaction.version
      ∨ action.artifactSha256 ≠ interaction.artifactSha256 then
    .error ⟨.valueError, "Stale artifact or surface version"⟩
  else if action.decision ∉ allowedDecisions interaction.prompt.kind
      ∨ (action.decision = .submit ∧ action.answer = "") then
    .error ⟨.valueError, "Invalid decision or empty clarification answer"⟩
  else .ok ()

/-- Store the record of an interaction under its surface. -/
def Database.updateInteraction (database : Database) (interaction : HumanInteraction) : Database :=
  { database with
    humanInteractions := database.humanInteractions.map fun other =>
      if other.surfaceId = interaction.surfaceId then interaction else other }

def Database.findSurface (database : Database) (runId : RunId) (surfaceId : String) :
    Option HumanInteraction :=
  database.humanInteractions.find? fun interaction =>
    interaction.surfaceId == surfaceId && interaction.runId == runId

/-- `WorkflowDatabase.accept_action` -/
def acceptAction (runId : RunId) (action : HumanAction)
    (publishResponse : HumanInteraction → StoreM ArtifactRecord) (now : Nat) :
    StoreM (HumanInteraction × Bool) := transaction do
  let database := (← get).database
  match database.findSurface runId action.surfaceId with
  | none => throw ⟨.valueError, "Unknown surface"⟩
  | some interaction =>
      if Json.truthy interaction.response then
        match (interaction.response.getD .null).get? "action" with
        | none => throw ⟨.keyError, "action"⟩
        | some stored =>
            if stored = action.modelDump then return (interaction, false)
            throw ⟨.valueError, "Surface already answered; conflicting or stale action"⟩
      else
        match validateAction database runId interaction action with
        | .error error => throw error
        | .ok () =>
            let answered := interaction.answeredBy platform action now
            -- Publish the immutable file before committing the decision.
            let artifact ← publishResponse answered
            liftDatabase (·.insertArtifact artifact)
            liftDatabase fun database => .ok (database.updateInteraction answered)
            return (answered, true)

section Specifications

variable {platform}

theorem transaction_eq_ok {α : Type} {body : StoreM α} {stores next : Stores} {value : α} :
    transaction body stores = .ok value next ↔ body stores = .ok value next := by
  unfold transaction
  cases hbody : body stores <;> simp

theorem transaction_eq_error {α : Type} {body : StoreM α} {stores next : Stores}
    {error : PyError} :
    transaction body stores = .error error next ↔
      ∃ final, body stores = .error error final ∧
        next = { final with database := stores.database } := by
  unfold transaction
  cases hbody : body stores with
  | ok value final => simp
  | error raised final =>
      constructor
      · intro heq
        obtain ⟨rfl, rfl⟩ := EStateM.Result.error.inj heq
        exact ⟨final, rfl, rfl⟩
      · rintro ⟨other, heq, rfl⟩
        cases heq
        rfl

/-- A transaction that raises leaves every table as it was. -/
theorem transaction_error {α : Type} {body : StoreM α} {stores next : Stores} {error : PyError}
    (herror : transaction body stores = .error error next) :
    next.database = stores.database := by
  obtain ⟨final, -, rfl⟩ := transaction_eq_error.mp herror
  rfl

theorem writeArtifact_ok {request : WriteRequest} {now : Nat} {stores next : Stores}
    {record : ArtifactRecord}
    (hwrite : writeArtifact platform request now stores = .ok record next) :
    stores.files.write platform request stores.written.length now = .ok (record, next.files) ∧
      next.written = stores.written ++ [(record, request.content)] ∧
      next.database = stores.database := by
  unfold writeArtifact at hwrite
  cases hfiles : stores.files.write platform request stores.written.length now with
  | error error => simp [hfiles] at hwrite
  | ok result =>
      obtain ⟨returned, files⟩ := result
      simp only [hfiles, EStateM.Result.ok.injEq] at hwrite
      obtain ⟨rfl, rfl⟩ := hwrite
      exact ⟨rfl, rfl, rfl⟩

theorem writeArtifact_error {request : WriteRequest} {now : Nat} {stores next : Stores}
    {error : PyError} (hwrite : writeArtifact platform request now stores = .error error next) :
    next = stores := by
  unfold writeArtifact at hwrite
  cases hfiles : stores.files.write platform request stores.written.length now with
  | error raised =>
      simp only [hfiles, EStateM.Result.error.injEq] at hwrite
      exact hwrite.2.symm
  | ok result => simp [hfiles] at hwrite

theorem insertArtifact_ok {database next : Database} {artifact : ArtifactRecord}
    (hinsert : database.insertArtifact artifact = .ok next) :
    database.hasRun artifact.metadata.workflowRunId = true ∧
      (∀ row ∈ database.keptRows artifact.metadata,
        row.metadata.artifactId ≠ artifact.metadata.artifactId) ∧
      next = { database with artifacts := database.keptRows artifact.metadata ++ [artifact] } := by
  unfold Database.insertArtifact at hinsert
  split at hinsert
  · simp [integrityError] at hinsert
  · rename_i hfresh
    split at hinsert
    · rename_i hrun
      refine ⟨hrun, ?_, (Except.ok.inj hinsert).symm⟩
      intro row hrow heq
      exact hfresh (List.any_eq_true.mpr ⟨row, hrow, by simpa using heq⟩)
    · simp [integrityError] at hinsert

/-- What an add does to the tables, as a function of the two stores. -/
def indexed (platform : Platform) (stores : Stores) (artifact : ArtifactRecord) :
    Except PyError Database :=
  if artifact.metadata.currentSnapshot then
    if artifact.contentPath.project ≠ artifact.metadata.projectId then .error ⟨.stopIteration, ""⟩
    else (stores.files.readContent platform artifact).bind fun _ =>
      stores.database.insertArtifact artifact
  else stores.database.insertArtifact artifact

theorem addArtifact_apply (artifact : ArtifactRecord) (stores : Stores) :
    addArtifact platform artifact stores =
      match indexed platform stores artifact with
      | .ok database => .ok () { stores with database }
      | .error error => .error error stores := by
  unfold addArtifact indexed transaction
  have hlift : liftDatabase (·.insertArtifact artifact) stores =
      match stores.database.insertArtifact artifact with
      | .ok database => .ok () { stores with database }
      | .error error => .error error stores := rfl
  cases hsnapshot : artifact.metadata.currentSnapshot with
  | false =>
      simp only [Bool.false_eq_true, if_false, hlift]
      cases stores.database.insertArtifact artifact <;> rfl
  | true =>
      by_cases hpath : artifact.contentPath.project = artifact.metadata.projectId
      · cases hread : stores.files.readContent platform artifact with
        | error error => simp [hpath, bind, EStateM.bind, readArtifact, hread, Except.bind]
        | ok content =>
            simp only [hpath, bind, EStateM.bind, readArtifact, hread, hlift, Except.bind, if_true,
              ne_eq, not_true_eq_false, if_false]
            cases stores.database.insertArtifact artifact <;> rfl
      · simp only [ne_eq, hpath, not_false_eq_true, if_true]
        rfl

/-- A completed add leaves the files alone and inserts the row; for a snapshot
the artifact was readable at that moment. -/
theorem addArtifact_ok {artifact : ArtifactRecord} {stores next : Stores}
    (hadd : addArtifact platform artifact stores = .ok () next) :
    next.files = stores.files ∧ next.written = stores.written ∧
      stores.database.insertArtifact artifact = .ok next.database ∧
      (artifact.metadata.currentSnapshot = true →
        ∃ content, stores.files.readContent platform artifact = .ok content) := by
  rw [addArtifact_apply] at hadd
  cases hindexed : indexed platform stores artifact with
  | error error => simp [hindexed] at hadd
  | ok database =>
      simp only [hindexed, EStateM.Result.ok.injEq, true_and] at hadd
      subst hadd
      unfold indexed at hindexed
      split at hindexed
      · split at hindexed
        · simp at hindexed
        · cases hread : stores.files.readContent platform artifact with
          | error error => simp [hread, Except.bind] at hindexed
          | ok content =>
              rw [hread] at hindexed
              exact ⟨rfl, rfl, hindexed, fun _ => ⟨content, rfl⟩⟩
      · rename_i hsnapshot
        exact ⟨rfl, rfl, hindexed, fun htrue => absurd htrue hsnapshot⟩

/-- An add that raises changes nothing, and it raised because the snapshot was
no longer readable or the row could not be inserted. -/
theorem addArtifact_error {artifact : ArtifactRecord} {stores next : Stores} {error : PyError}
    (hpath : artifact.contentPath.project = artifact.metadata.projectId)
    (hadd : addArtifact platform artifact stores = .error error next) :
    next = stores ∧
      ((artifact.metadata.currentSnapshot = true ∧
          stores.files.readContent platform artifact = .error error) ∨
        stores.database.insertArtifact artifact = .error error) := by
  rw [addArtifact_apply] at hadd
  cases hindexed : indexed platform stores artifact with
  | ok database => simp [hindexed] at hadd
  | error raised =>
      simp only [hindexed, EStateM.Result.error.injEq] at hadd
      obtain ⟨rfl, rfl⟩ := hadd
      refine ⟨rfl, ?_⟩
      unfold indexed at hindexed
      rw [if_neg (not_not.mpr hpath)] at hindexed
      split at hindexed
      · rename_i hsnapshot
        cases hread : stores.files.readContent platform artifact with
        | ok content =>
            rw [hread] at hindexed
            exact Or.inr hindexed
        | error unreadable =>
            rw [hread] at hindexed
            have heq : unreadable = raised := Except.error.inj hindexed
            exact Or.inl ⟨hsnapshot, congrArg Except.error heq⟩
      · exact Or.inr hindexed

theorem appendEvent_ok {database next : Database} {runId : RunId} {eventType : String}
    {payload : List (String × Json)}
    (hevent : database.appendEvent runId eventType payload = .ok next) :
    next = { database with
      events := database.events ++ [⟨database.lastEventId + 1, runId, eventType, .obj payload⟩]
      lastEventId := database.lastEventId + 1 } := by
  unfold Database.appendEvent at hevent
  split at hevent
  · exact (Except.ok.inj hevent).symm
  · simp [integrityError] at hevent

theorem liftDatabase_ok {change : Database → Except PyError Database} {stores next : Stores}
    (hlift : liftDatabase change stores = .ok () next) :
    change stores.database = .ok next.database ∧ next.files = stores.files ∧
      next.written = stores.written := by
  unfold liftDatabase at hlift
  cases hchange : change stores.database with
  | error error => simp [hchange] at hlift
  | ok database =>
      simp only [hchange, EStateM.Result.ok.injEq, true_and] at hlift
      subst hlift
      exact ⟨rfl, rfl, rfl⟩

theorem liftDatabase_error {change : Database → Except PyError Database} {stores next : Stores}
    {error : PyError} (hlift : liftDatabase change stores = .error error next) : next = stores := by
  unfold liftDatabase at hlift
  cases hchange : change stores.database with
  | error raised =>
      simp only [hchange, EStateM.Result.error.injEq] at hlift
      exact hlift.2.symm
  | ok database => simp [hchange] at hlift

end Specifications

/-- A platform on which runs can be evaluated: the digest of a content is
the text it carries. -/
def samplePlatform : Platform where
  sha256 content := ((content.get? "text").bind Json.str?).getD ""
  projectIdForRun runId := "project_" ++ runId
  isoformat now := toString now
  roundFloat value := value

end Aidlc
