import Aidlc.Foundation.Effects
import Aidlc.Foundation.Transition
import Aidlc.A2a.Accounting

/-! # Whatever an agent answers

The client does not rely on its agents. Here every response is what the
transport can carry: any identity, a state of any number, any artifacts, in any
order, while other routines write to the database. A response that has the
shape of a task is one of the client's events; the others are handled here.
-/

namespace Aidlc

open Foundation

/-- A part of an artifact, and the data it holds if it holds data. -/
structure ArtifactPart (Value : Type) where
  data : Option Value
  mediaType : String
  deriving DecidableEq

structure RemoteArtifact (Value : Type) where
  artifactId : String
  parts : List (ArtifactPart Value)
  deriving DecidableEq

/-- The identity and the state of a response: no identifier where its text is
empty, a number where its state has no name. -/
structure TaskReport where
  taskId : Option TaskId
  contextId : String
  state : TaskState ⊕ Int
  deriving DecidableEq

/-- A task as any agent can report it. -/
structure RemoteTask (Value : Type) extends TaskReport where
  detail : String
  artifacts : List (RemoteArtifact Value)
  deriving DecidableEq

/-- A `StreamResponse`, by the field it has. -/
inductive StreamResponse (Value : Type) where
  | task (task : RemoteTask Value)
  | statusUpdate (report : TaskReport)
  | artifactUpdate (taskId : Option TaskId) (contextId artifactId : String)
  | message

/-- How the data of a part becomes a result. -/
structure ResultReader (Value : Type) where
  messageToDict : Value → Except PyError Json
  modelValidate : Json → Except PyError AgentResult

variable {Value : Type}

/-- `_decode_result`, up to the comparison of the artifact kind. -/
def RemoteTask.read (reader : ResultReader Value) (task : RemoteTask Value) :
    Except PyError AgentResult :=
  match task.artifacts with
  | [⟨_, [part]⟩] =>
    match part.data with
    | some data =>
      if part.mediaType = "application/json" then
        (reader.messageToDict data).bind reader.modelValidate
      else .error ⟨.valueError, "Expected application/json result artifact"⟩
    | none => .error ⟨.valueError, "Expected application/json result artifact"⟩
  | _ => .error ⟨.valueError, "Expected exactly one structured result artifact"⟩

/-- `update` of a response, up to its database write. -/
def Invocation.hear (settings : ClientSettings) (invocation : Invocation) (database : Database)
    (report : TaskReport) (detail : String) (artifact : Option AgentResult) (resume : Resume) :
    Turn :=
  let mapping := invocation.mapping
  match report.taskId with
  | none =>
    invocation.fail settings database ⟨.valueError, "A2A task/context identity mismatch"⟩ false
  | some taskId =>
    match report.state with
    | .inl state =>
      ⟨database, [], .running (invocation.goto
        (.updating ⟨taskId, report.contextId, state, detail, [], artifact⟩ resume))⟩
    -- the identity is stored before the name of the state is looked up
    | .inr number =>
      if report.contextId ≠ mapping.contextId then
        invocation.fail settings database ⟨.valueError, "A2A task/context identity mismatch"⟩ false
      else if mapping.taskId.isSome ∧ mapping.taskId ≠ some taskId then
        invocation.fail settings database ⟨.valueError, "Agent changed the delegated task ID"⟩ false
      else
        (invocation.withMapping { mapping with taskId := some taskId }).fail settings database
          ⟨.valueError, "Enum TaskState has no name defined for value " ++ toString number⟩ false

/-- The point from which a stream continues after a response. -/
def Point.reads : Point → Option Resume
  | .streaming => some .stream
  | .continuing => some .continuation
  | _ => none

/-- The points from which an invocation can still return. -/
def Point.live : Point → Bool
  | .canceling .. | .marking _ | .reporting _ => false
  | _ => true

/-- An event that says something about a task. -/
def ClientEvent.told : ClientEvent → Bool
  | .receive _ | .artifact _ => true
  | _ => false

/-- An invocation with its agent: the database it shares, the responses that
reached `update`, the task fetched last, and the attempts that began. -/
structure Session (Value : Type) where
  database : Database
  progress : Progress
  heard : List TaskReport
  fetched : Option (RemoteTask Value)
  attempts : Nat

inductive SessionLabel (Value : Type) where
  | streamed (response : StreamResponse Value) (accepted : Bool)
  | polled (task : RemoteTask Value)
  /-- Everything that is not said about the task: statements, errors, answers of
  people. A cancellation hears tasks here, and no result comes of it. -/
  | client (event : ClientEvent)
  /-- Another routine changes the database. -/
  | elsewhere (database : Database)

namespace Session

def start (database : Database) (invocation : Invocation) : Session Value :=
  ⟨database, .running invocation, [], none, 0⟩

def turned (session : Session Value) (turn : Turn) : Session Value :=
  { session with database := turn.database, progress := turn.progress }

/-- A response reaches `update`. -/
def hears (settings : ClientSettings) (session : Session Value) (invocation : Invocation)
    (report : TaskReport) (detail : String) (artifact : Option AgentResult) (resume : Resume) :
    Session Value :=
  { session with heard := session.heard ++ [report] }.turned
    (invocation.hear settings session.database report detail artifact resume)

/-- The body of the loops over a stream. -/
def stream (settings : ClientSettings) (session : Session Value) (invocation : Invocation)
    (accepted : Bool) (resume : Resume) : StreamResponse Value → Session Value
  | .task task => session.hears settings invocation task.toTaskReport task.detail none resume
  | .statusUpdate report => session.hears settings invocation report "" none resume
  | .artifactUpdate taskId contextId artifactId =>
    let mapping := invocation.mapping
    -- the stream of a continuation passes over everything else
    if resume ≠ .stream then session
    else match taskId with
      | none => session.turned (invocation.fail settings session.database
          ⟨.valueError, "Artifact task/context identity mismatch"⟩ false)
      | some id =>
        if mapping.taskId ≠ some id ∨ contextId ≠ mapping.contextId then
          session.turned (invocation.fail settings session.database
            ⟨.valueError, "Artifact task/context identity mismatch"⟩ false)
        else match invocation.emit session.database accepted "a2a.artifact_received"
            [("agent", .str mapping.agent), ("task_id", idJson id),
              ("artifact_id", .str artifactId)] with
          | .error error => session.turned (invocation.fail settings session.database error false)
          | .ok database => { session with database }
  | .message =>
    if resume ≠ .stream then session
    else session.turned (invocation.fail settings session.database
      ⟨.valueError, "Expected A2A task events, not a direct message"⟩ false)

/-- The states in which the polling loop decodes the artifact of its task. -/
def decoding (state : TaskState) : Bool := state = .inputRequired ∨ state = .completed

/-- The attempts, with the one that begins here. -/
def attempted (session : Session Value) (invocation : Invocation) : Nat :=
  if invocation.point = .attempting then session.attempts + 1 else session.attempts

/-- What the polling loop raises where it decodes a task that cannot be read. -/
def misread (reader : ResultReader Value) (session : Session Value) :
    Point → ClientEvent → Option PyError
  | .examining task, .advance _ =>
    match session.fetched.map (RemoteTask.read reader) with
    | some (.error error) => if decoding task.state then some error else none
    | _ => none
  | _, _ => none

/-- A statement of the client. What is said about its task arrives as a response,
except where it is canceled. -/
def client (reader : ResultReader Value) (settings : ClientSettings) (session : Session Value)
    (invocation : Invocation) (event : ClientEvent) : Option (Session Value) :=
  let turned := { session with attempts := session.attempted invocation }.turned
  match session.misread reader invocation.point event with
  | some error => some (turned (invocation.fail settings session.database error false))
  | none =>
    if event.told ∧ invocation.point.live then none
    else (invocation.step settings session.database event).map turned

end Session

/-- The rows of an invocation are the same in two databases. -/
def SameRows (id : InvocationId) (database next : Database) : Prop :=
  (∀ row ∈ database.delegatedTasks, row.invocationId = id → row ∈ next.delegatedTasks) ∧
    ∀ row ∈ next.delegatedTasks, row.invocationId = id → row ∈ database.delegatedTasks

instance (id : InvocationId) (database next : Database) : Decidable (SameRows id database next) :=
  inferInstanceAs (Decidable (_ ∧ _))

/-- An invocation among arbitrary responses. The other routines of the hub leave
the rows of this invocation alone. -/
def session (reader : ResultReader Value) (settings : ClientSettings) (id : InvocationId) :
    System (Session Value) (SessionLabel Value) where
  step session
    | .elsewhere database =>
      if SameRows id session.database database then some { session with database } else none
    | .streamed response accepted =>
      match session.progress with
      | .running invocation =>
        (invocation.point.reads).map fun resume =>
          session.stream settings invocation accepted resume response
      | _ => none
    | .polled task =>
      match session.progress with
      | .running invocation =>
        if invocation.point = .fetching then
          some ({ session with fetched := some task }.hears settings invocation task.toTaskReport
            task.detail (task.read reader).toOption .poll)
        else none
      | _ => none
    | .client event =>
      match session.progress with
      | .running invocation => session.client reader settings invocation event
      | _ => none

/-! ## No way back to a result -/

def Progress.result? : Progress → Option AgentResult
  | .returned result => some result
  | _ => none

theorem returned_of_result? {progress : Progress} {result : AgentResult}
    (hresult : progress.result? = some result) : progress = .returned result := by
  cases progress with
  | returned found =>
      cases hresult
      rfl
  | running | raised => cases hresult

/-- An invocation that will not return a result. -/
def Progress.lost : Progress → Prop
  | .running invocation => invocation.point.live = false
  | .returned _ => False
  | .raised .. => True

section Losses

variable {settings : ClientSettings} {invocation : Invocation} {database : Database}
  {error : PyError}

theorem lost_startCancel (ending : Ending) : (invocation.startCancel database ending).progress.lost := by
  rfl

theorem lost_escalate : (invocation.escalate database error).progress.lost := by
  unfold Invocation.escalate
  split
  · exact lost_startCancel _
  · split
    · exact lost_startCancel _
    · rfl

/-- An error ends the invocation, or leads to another attempt. -/
theorem fail_cases (settings : ClientSettings) (invocation : Invocation) (database : Database)
    (error : PyError) (transient : Bool) :
    (invocation.fail settings database error transient).progress.lost ∨
      (transient = true ∧ invocation.mapping.attempts ≤ settings.a2aMaxRetries ∧
        invocation.fail settings database error transient =
          ⟨database, [], .running (invocation.goto (.retrying error))⟩) := by
  unfold Invocation.fail
  split
  · exact Or.inl lost_escalate
  · rename_i hagain
    simp only [Bool.or_eq_true, Bool.not_eq_true', decide_eq_true_eq, not_or, Bool.not_eq_false,
      Nat.not_lt] at hagain
    exact Or.inr ⟨hagain.1, hagain.2, rfl⟩

theorem lost_fail : (invocation.fail settings database error false).progress.lost := by
  rcases fail_cases settings invocation database error false with hlost | ⟨hfalse, -, -⟩
  · exact hlost
  · cases hfalse

theorem live_of_awaiting {point : Point} (hawaiting : Invocation.awaiting point = true) :
    point.live = true := by
  cases point with
  | canceling | marking | reporting => cases hawaiting
  | attempting | discovering | discovered | sending | streaming | noting | fetching | updating
  | announcing | examining | asking | continuing | sleeping | retrying | backoff => rfl

theorem lost_advance {accepted : Bool} {turn : Turn} (hdead : invocation.point.live = false)
    (hadvance : invocation.advance settings database accepted = some turn) :
    turn.progress.lost := by
  unfold Invocation.advance at hadvance
  cases hpoint : invocation.point with
  | canceling phase ending =>
      simp only [hpoint] at hadvance
      cases phase with
      | done =>
          cases ending with
          | interrupted =>
              cases hadvance
              trivial
          | failed error =>
              cases hadvance
              rfl
      | broken =>
          cases hadvance
          trivial
      | recovering | canceling | fetching | saving | announcing | failing => cases hadvance
  | marking error =>
      simp only [hpoint] at hadvance
      split at hadvance
      · split at hadvance
        · cases hadvance
          trivial
        · cases hadvance
          rfl
      · cases hadvance
        rfl
  | reporting error =>
      simp only [hpoint] at hadvance
      split at hadvance
      · cases hadvance
        trivial
      · cases hadvance
        trivial
  | attempting | discovering | discovered | sending | streaming | noting | fetching | updating
  | announcing | examining | asking | continuing | sleeping | retrying | backoff =>
      rw [hpoint] at hdead
      cases hdead

/-- An invocation that cancels its task or reports its failure goes on to its end. -/
theorem lost_step {event : ClientEvent} {turn : Turn} (hdead : invocation.point.live = false)
    (hstep : invocation.step settings database event = some turn) : turn.progress.lost := by
  unfold Invocation.step at hstep
  dsimp only at hstep
  split at hstep
  case h_12 =>
    cases hstep
    trivial
  case h_13 =>
    split at hstep
    · cases hstep
      rfl
    · split at hstep
      · exact lost_advance hdead hstep
      · cases hstep
  case h_14 =>
    split at hstep
    · rename_i hawaiting
      rw [live_of_awaiting hawaiting] at hdead
      cases hdead
    · cases hstep
  case h_15 =>
    split at hstep
    · cases hstep
      exact lost_startCancel _
    · cases hstep
  case h_16 => exact lost_advance hdead hstep
  case h_17 => cases hstep
  all_goals
    rename_i hpoint
    rw [hpoint] at hdead
    cases hdead

end Losses

/-! ## One task -/

/-- The only row of an invocation is its mapping. -/
structure Database.Keeps (database : Database) (mapping : DelegatedTask) : Prop where
  present : ∃ row ∈ database.delegatedTasks, row.invocationId = mapping.invocationId
  only : ∀ row ∈ database.delegatedTasks, row.invocationId = mapping.invocationId →
    row.record = mapping

theorem keeps_of_saved {database next : Database} {mapping : DelegatedTask}
    (hsaved : World.Saved database mapping next) : next.Keeps mapping where
  present := hsaved.present
  only row hrow hid := by
    rcases hsaved.rows row hrow with ⟨-, hother⟩ | ⟨-, hrecord, -⟩
    · exact absurd hid hother
    · exact hrecord

theorem Database.Keeps.congr {database next : Database} {mapping : DelegatedTask}
    (hkeeps : database.Keeps mapping) (hrows : next.delegatedTasks = database.delegatedTasks) :
    next.Keeps mapping where
  present := hrows ▸ hkeeps.present
  only := hrows ▸ hkeeps.only

theorem Database.Keeps.elsewhere {database next : Database} {mapping : DelegatedTask}
    (hkeeps : database.Keeps mapping) (hsame : SameRows mapping.invocationId database next) :
    next.Keeps mapping where
  present := by
    obtain ⟨row, hrow, hid⟩ := hkeeps.present
    exact ⟨row, hsame.1 row hrow hid, hid⟩
  only row hrow hid := hkeeps.only row (hsame.2 row hrow hid) hid

namespace Session

variable {reader : ResultReader Value} {settings : ClientSettings} {first invocation current : Invocation}
  {session : Session Value} {database : Database} {posted : List Packet}

/-- The reports are of the task of the mapping, in its context. -/
def Hears (heard : List TaskReport) (mapping : DelegatedTask) : Prop :=
  ∀ report ∈ heard, ∃ taskId, report.taskId = some taskId ∧ mapping.taskId = some taskId ∧
    report.contextId = mapping.contextId

/-- The task is the one that was fetched last. -/
structure Fetched (reader : ResultReader Value) (fetched : Option (RemoteTask Value))
    (task : AgentTask) (remote : RemoteTask Value) : Prop where
  fetched : fetched = some remote
  taskId : remote.taskId = some task.id
  contextId : remote.contextId = task.contextId
  state : remote.state = .inl task.state
  artifact : task.artifact = (remote.read reader).toOption

/-- The mapping has taken over what the task reports. -/
structure Follows (mapping : DelegatedTask) (task : AgentTask) : Prop where
  taskId : mapping.taskId = some task.id
  contextId : task.contextId = mapping.contextId
  state : mapping.state = .reported task.state

/-- What is known where an invocation stands. -/
def Stands (reader : ResultReader Value) (settings : ClientSettings) (session : Session Value)
    (mapping : DelegatedTask) : Point → Prop
  | .attempting | .retrying _ | .backoff =>
    Hears session.heard mapping ∧ session.attempts ≤ settings.a2aMaxRetries
  -- the last report has not been compared yet
  | .updating task resume =>
    (∃ past report, session.heard = past ++ [report] ∧ Hears past mapping ∧
      report.taskId = some task.id ∧ report.contextId = task.contextId) ∧
    (resume = .poll → ∃ remote, Fetched reader session.fetched task remote)
  | .announcing task resume =>
    Hears session.heard mapping ∧ Follows mapping task ∧
      (resume = .poll → ∃ remote, Fetched reader session.fetched task remote)
  | .examining task =>
    Hears session.heard mapping ∧ Follows mapping task ∧
      ∃ remote, Fetched reader session.fetched task remote
  | _ => Hears session.heard mapping

theorem Stands.congr {next : Session Value} {mapping : DelegatedTask} {point : Point}
    (hheard : next.heard = session.heard) (hfetched : next.fetched = session.fetched)
    (hattempts : next.attempts = session.attempts)
    (hstands : Stands reader settings session mapping point) :
    Stands reader settings next mapping point := by
  cases point <;> simpa only [Stands, hheard, hfetched, hattempts] using hstands

/-- A running invocation is bound to one task. -/
structure Bound (reader : ResultReader Value) (settings : ClientSettings) (first : Invocation)
    (session : Session Value) (invocation : Invocation) : Prop where
  spec : invocation.spec = first.spec
  invocationId : invocation.mapping.invocationId = first.mapping.invocationId
  contextId : invocation.mapping.contextId = first.mapping.contextId
  counted : invocation.mapping.attempts = session.attempts
  keeps : invocation.point ≠ .attempting → session.database.Keeps invocation.mapping
  stands : Stands reader settings session invocation.mapping invocation.point

/-- The result is what the only artifact of the one task holds. -/
structure Delivered (reader : ResultReader Value) (first : Invocation) (session : Session Value)
    (result : AgentResult) (mapping : DelegatedTask) (remote : RemoteTask Value) : Prop where
  invocationId : mapping.invocationId = first.mapping.invocationId
  contextId : mapping.contextId = first.mapping.contextId
  keeps : session.database.Keeps mapping
  state : mapping.state = .reported .completed
  heard : Hears session.heard mapping
  fetched : session.fetched = some remote
  taskId : ∃ taskId, mapping.taskId = some taskId ∧ remote.taskId = some taskId
  remoteContext : remote.contextId = mapping.contextId
  completed : remote.state = .inl .completed
  read : remote.read reader = .ok result
  kind : result.artifactKind = first.spec.artifactKind

/-- The invariant of a session. -/
def Sound (reader : ResultReader Value) (settings : ClientSettings) (first : Invocation)
    (session : Session Value) : Prop :=
  session.attempts ≤ settings.a2aMaxRetries + 1 ∧
    match session.progress with
    | .running invocation =>
      invocation.point.live = true → Bound reader settings first session invocation
    | .returned result => ∃ mapping remote, Delivered reader first session result mapping remote
    | .raised .. => True

theorem Sound.bound (hsound : Sound reader settings first session)
    (hrunning : session.progress = .running invocation) (hlive : invocation.point.live = true) :
    Bound reader settings first session invocation := by
  have hbound := hsound.2
  rw [hrunning] at hbound
  exact hbound hlive

theorem Sound.lost {turn : Turn} (hlimit : session.attempts ≤ settings.a2aMaxRetries + 1)
    (hlost : turn.progress.lost) : Sound reader settings first (session.turned turn) := by
  refine ⟨hlimit, ?_⟩
  simp only [turned]
  cases hprogress : turn.progress with
  | running current =>
      intro hlive
      rw [hprogress, Progress.lost, hlive] at hlost
      cases hlost
  | returned result =>
      rw [hprogress] at hlost
      exact hlost.elim
  | raised => trivial

theorem Sound.running (hlimit : session.attempts ≤ settings.a2aMaxRetries + 1)
    (hspec : current.spec = first.spec)
    (hid : current.mapping.invocationId = first.mapping.invocationId)
    (hcontext : current.mapping.contextId = first.mapping.contextId)
    (hcounted : current.mapping.attempts = session.attempts)
    (hkeeps : database.Keeps current.mapping)
    (hstands : Stands reader settings session current.mapping current.point) :
    Sound reader settings first (session.turned ⟨database, posted, .running current⟩) :=
  ⟨hlimit, fun _ => ⟨hspec, hid, hcontext, hcounted, fun _ => hkeeps, hstands.congr rfl rfl rfl⟩⟩

/-- The invocation goes on with the same mapping. -/
theorem Bound.goes (hbound : Bound reader settings first session invocation)
    (hlimit : session.attempts ≤ settings.a2aMaxRetries + 1)
    (hpoint : invocation.point ≠ .attempting)
    (hrows : database.delegatedTasks = session.database.delegatedTasks)
    (hspec : current.spec = invocation.spec) (hmapping : current.mapping = invocation.mapping)
    (hstands : Stands reader settings session invocation.mapping current.point) :
    Sound reader settings first (session.turned ⟨database, posted, .running current⟩) := by
  rw [← hmapping] at hstands
  exact .running hlimit (hspec.trans hbound.spec) (hmapping ▸ hbound.invocationId)
    (hmapping ▸ hbound.contextId) (hmapping ▸ hbound.counted)
    (hmapping ▸ (hbound.keeps hpoint).congr hrows) hstands

/-- An error that is handled where nothing has been heard but the one task. -/
theorem Bound.fail (hbound : Bound reader settings first session invocation)
    (hlimit : session.attempts ≤ settings.a2aMaxRetries + 1)
    (hpoint : invocation.point ≠ .attempting) (hhears : Hears session.heard invocation.mapping)
    (error : PyError) (transient : Bool) :
    Sound reader settings first
      (session.turned (invocation.fail settings session.database error transient)) := by
  rcases fail_cases settings invocation session.database error transient with
    hlost | ⟨-, hagain, hretry⟩
  · exact .lost hlimit hlost
  · rw [hretry]
    exact hbound.goes hlimit hpoint rfl rfl rfl ⟨hhears, hbound.counted ▸ hagain⟩

theorem Bound.update (hbound : Bound reader settings first session invocation)
    (hlimit : session.attempts ≤ settings.a2aMaxRetries + 1) {task : AgentTask} {resume : Resume}
    (hpoint : invocation.point = .updating task resume) (accepted : Bool) :
    Sound reader settings first
      (session.turned (invocation.update settings session.database task resume accepted)) := by
  have hstands := hbound.stands
  rw [hpoint] at hstands
  obtain ⟨⟨past, report, hheard, hpast, htaskId, hcontextId⟩, hfetched⟩ := hstands
  unfold Invocation.update
  dsimp only
  split
  · exact .lost hlimit lost_fail
  · rename_i hcontext
    rw [not_not] at hcontext
    split
    · exact .lost hlimit lost_fail
    · rename_i hchanged
      generalize hupdated : invocation.withMapping { invocation.mapping with
        taskId := some task.id, state := .reported task.state } = updated
      have hhears : Hears session.heard updated.mapping := by
        intro other hother
        rw [hheard] at hother
        rcases List.mem_append.mp hother with hold | hnew
        · obtain ⟨taskId, hreported, hknown, hsame⟩ := hpast other hold
          have hkept : taskId = task.id := by
            by_contra hne
            refine hchanged ⟨by rw [hknown]; rfl, ?_⟩
            rw [hknown]
            exact fun hequal => hne (Option.some.inj hequal)
          subst hkept
          exact ⟨task.id, hreported, by rw [← hupdated]; rfl, by rw [← hupdated]; exact hsame⟩
        · rw [List.mem_singleton] at hnew
          subst hnew
          exact ⟨task.id, htaskId, by rw [← hupdated]; rfl,
            by rw [← hupdated]; exact hcontextId.trans hcontext⟩
      have hfollows : Follows updated.mapping task := by
        rw [← hupdated]
        exact ⟨rfl, hcontext, rfl⟩
      have hspec : updated.spec = first.spec := by
        rw [← hupdated]
        exact hbound.spec
      have hid : updated.mapping.invocationId = first.mapping.invocationId := by
        rw [← hupdated]
        exact hbound.invocationId
      have hsameContext : updated.mapping.contextId = first.mapping.contextId := by
        rw [← hupdated]
        exact hbound.contextId
      have hcounted : updated.mapping.attempts = session.attempts := by
        rw [← hupdated]
        exact hbound.counted
      split
      · exact .lost hlimit lost_fail
      · rename_i next hwritten
        have hkeeps := keeps_of_saved (World.saved_of_save (World.write_of_written hwritten))
        split
        · cases resume with
          | stream | continuation =>
              exact .running hlimit hspec hid hsameContext hcounted hkeeps hhears
          | poll =>
              exact .running hlimit hspec hid hsameContext hcounted hkeeps
                ⟨hhears, hfollows, hfetched rfl⟩
        · exact .running hlimit hspec hid hsameContext hcounted hkeeps ⟨hhears, hfollows, hfetched⟩

/-- A result is the artifact of a completed task, of the kind of its agent. -/
theorem completed_of_taskResult {spec : AgentSpec} {task : AgentTask} {result : AgentResult}
    (hresult : Invocation.taskResult spec task = .ok result) :
    task.state = .completed ∧ task.artifact = some result ∧
      result.artifactKind = spec.artifactKind := by
  unfold Invocation.taskResult at hresult
  split at hresult
  · cases hresult
  · split at hresult
    · cases hresult
    · rename_i hcompleted
      unfold Invocation.decodeResult at hresult
      split at hresult
      · cases hresult
      · rename_i found hartifact
        split at hresult
        · cases hresult
        · rename_i hkind
          cases hresult
          exact ⟨not_not.mp hcompleted, hartifact, not_not.mp hkind⟩

theorem read_of_toOption {task : RemoteTask Value} {result : AgentResult}
    (hread : some result = (task.read reader).toOption) : task.read reader = .ok result := by
  cases hresult : task.read reader with
  | error error =>
      rw [hresult] at hread
      cases hread
  | ok found =>
      rw [hresult] at hread
      cases hread
      rfl

theorem Bound.examine (hbound : Bound reader settings first session invocation)
    (hlimit : session.attempts ≤ settings.a2aMaxRetries + 1) {task : AgentTask}
    (hpoint : invocation.point = .examining task) :
    Sound reader settings first
      (session.turned (invocation.examine settings session.database task)) := by
  have hstands := hbound.stands
  rw [hpoint] at hstands
  obtain ⟨hhears, hfollows, remote, hremote⟩ := hstands
  have hlive : invocation.point ≠ .attempting := by
    rw [hpoint]
    nofun
  unfold Invocation.examine
  split
  · split
    · exact .lost hlimit lost_fail
    · split
      · exact .lost hlimit lost_fail
      · exact hbound.goes hlimit hlive rfl rfl rfl hhears
  · split
    · split
      · exact .lost hlimit lost_fail
      · rename_i result hresult
        obtain ⟨hstate, hartifact, hkind⟩ := completed_of_taskResult hresult
        have hread : some result = (remote.read reader).toOption := hartifact ▸ hremote.artifact
        refine ⟨hlimit, invocation.mapping, remote, ?_⟩
        exact
          { invocationId := hbound.invocationId
            contextId := hbound.contextId
            keeps := hbound.keeps hlive
            state := hstate ▸ hfollows.state
            heard := hhears
            fetched := hremote.fetched
            taskId := ⟨task.id, hfollows.taskId, hremote.taskId⟩
            remoteContext := hremote.contextId.trans hfollows.contextId
            completed := hstate ▸ hremote.state
            read := read_of_toOption hread
            kind := hbound.spec ▸ hkind }
    · exact hbound.goes hlimit hlive rfl rfl rfl hhears

theorem rows_of_emit {accepted : Bool} {eventType : String} {payload : List (String × Json)}
    (hemit : invocation.emit session.database accepted eventType payload = .ok database) :
    database.delegatedTasks = session.database.delegatedTasks :=
  (World.appendEvent_rows (World.write_of_written hemit)).2

/-- The next statement of an invocation that can still return. -/
theorem Bound.advance (hbound : Bound reader settings first session invocation)
    (hlimit : session.attempts ≤ settings.a2aMaxRetries + 1)
    (hlive : invocation.point.live = true) (hpoint : invocation.point ≠ .attempting)
    {accepted : Bool} {turn : Turn}
    (hadvance : invocation.advance settings session.database accepted = some turn) :
    Sound reader settings first (session.turned turn) := by
  have hstands := hbound.stands
  unfold Invocation.advance at hadvance
  cases hwhere : invocation.point with
  | attempting => exact absurd hwhere hpoint
  | discovered | noting =>
      simp only [hwhere] at hadvance hstands
      split at hadvance
      · cases hadvance
        exact .lost hlimit lost_fail
      · rename_i next hemit
        cases hadvance
        exact hbound.goes hlimit hpoint (rows_of_emit hemit) rfl rfl hstands
  | sending =>
      simp only [hwhere] at hadvance hstands
      split at hadvance
      · cases hadvance
        exact hbound.goes hlimit hpoint rfl rfl rfl hstands
      · cases hadvance
        exact hbound.goes hlimit hpoint rfl rfl rfl hstands
  | updating task resume =>
      simp only [hwhere] at hadvance
      cases hadvance
      exact hbound.update hlimit hwhere accepted
  | announcing task resume =>
      simp only [hwhere] at hadvance hstands
      obtain ⟨hhears, hfollows, hfetched⟩ := hstands
      split at hadvance
      · cases hadvance
        exact .lost hlimit lost_fail
      · rename_i next hemit
        cases hadvance
        have hrows := rows_of_emit hemit
        cases resume with
        | stream | continuation => exact hbound.goes hlimit hpoint hrows rfl rfl hhears
        | poll =>
            exact hbound.goes hlimit hpoint hrows rfl rfl ⟨hhears, hfollows, hfetched rfl⟩
  | examining task =>
      simp only [hwhere] at hadvance
      cases hadvance
      exact hbound.examine hlimit hwhere
  | retrying error =>
      simp only [hwhere] at hadvance hstands
      split at hadvance
      · cases hadvance
        exact .lost hlimit lost_escalate
      · rename_i next hemit
        cases hadvance
        exact hbound.goes hlimit hpoint (rows_of_emit hemit) rfl rfl hstands
  | canceling | marking | reporting =>
      rw [hwhere] at hlive
      cases hlive
  | discovering | streaming | fetching | asking | continuing | sleeping | backoff =>
      simp only [hwhere] at hadvance
      cases hadvance

/-- Another attempt begins with the same mapping. -/
theorem Bound.attempt (hbound : Bound reader settings first session invocation)
    (hwhere : invocation.point = .attempting) {accepted : Bool} {turn : Turn}
    (hadvance : invocation.advance settings session.database accepted = some turn) :
    Sound reader settings first ({ session with attempts := session.attempts + 1 }.turned turn) := by
  have hstands := hbound.stands
  rw [hwhere] at hstands
  obtain ⟨hhears, hagain⟩ := hstands
  have hlimit : session.attempts + 1 ≤ settings.a2aMaxRetries + 1 := Nat.succ_le_succ hagain
  simp only [Invocation.advance, hwhere] at hadvance
  split at hadvance
  · cases hadvance
    exact .lost hlimit lost_escalate
  · rename_i next hwritten
    cases hadvance
    have hkeeps := keeps_of_saved (World.saved_of_save (World.write_of_written hwritten))
    have hcounted : invocation.mapping.attempts + 1 = session.attempts + 1 :=
      congrArg Nat.succ hbound.counted
    cases hclient : invocation.client with
    | true | false =>
        simp only [Invocation.withMapping, hclient]
        exact .running hlimit hbound.spec hbound.invocationId hbound.contextId hcounted hkeeps hhears

/-- Nothing has been heard but the one task where an invocation waits. -/
theorem hears_of_awaiting {mapping : DelegatedTask} {point : Point}
    (hawaiting : Invocation.awaiting point = true)
    (hstands : Stands reader settings session mapping point) : Hears session.heard mapping := by
  cases point with
  | backoff => exact hstands.1
  | discovering | streaming | fetching | asking | continuing | sleeping => exact hstands
  | attempting | discovered | sending | noting | updating | announcing | examining | retrying
  | canceling | marking | reporting => cases hawaiting

theorem Bound.step (hbound : Bound reader settings first session invocation)
    (hlimit : session.attempts ≤ settings.a2aMaxRetries + 1)
    (hlive : invocation.point.live = true) (hpoint : invocation.point ≠ .attempting)
    {event : ClientEvent} {turn : Turn} (htold : event.told = false)
    (hstep : invocation.step settings session.database event = some turn) :
    Sound reader settings first (session.turned turn) := by
  have hstands := hbound.stands
  unfold Invocation.step at hstep
  dsimp only at hstep
  split at hstep
  · rename_i hwhere
    rw [hwhere] at hstands
    cases hstep
    exact hbound.goes hlimit hpoint rfl rfl rfl hstands
  · cases hstep
    exact .lost hlimit lost_fail
  · cases htold
  · cases htold
  · rename_i hwhere
    rw [hwhere] at hstands
    split at hstep
    · cases hstep
      exact .lost hlimit lost_fail
    · cases hstep
      exact hbound.goes hlimit hpoint rfl rfl rfl hstands
  · cases htold
  · rename_i task draft response hwhere
    rw [hwhere] at hstands
    split at hstep
    · cases hstep
      exact .lost hlimit lost_fail
    · cases hstep
      exact hbound.goes hlimit hpoint rfl rfl rfl hstands
  · cases htold
  · rename_i hwhere
    rw [hwhere] at hstands
    cases hstep
    exact hbound.goes hlimit hpoint rfl rfl rfl hstands
  · rename_i hwhere
    rw [hwhere] at hstands
    cases hstep
    exact hbound.goes hlimit hpoint rfl rfl rfl hstands
  · rename_i hwhere
    rw [hwhere] at hstands
    cases hstep
    -- the next attempt saves its row first
    exact hbound.goes hlimit hpoint rfl rfl rfl hstands
  · rename_i phase ending hwhere
    rw [hwhere] at hlive
    cases hlive
  · rename_i phase ending hwhere _
    rw [hwhere] at hlive
    cases hlive
  · split at hstep
    · rename_i hawaiting
      have hhears := hears_of_awaiting hawaiting hstands
      split at hstep
      · cases hstep
        exact .lost hlimit lost_escalate
      · cases hstep
        exact hbound.fail hlimit hpoint hhears _ _
    · cases hstep
  · split at hstep
    · cases hstep
      exact .lost hlimit (lost_startCancel _)
    · cases hstep
  · exact hbound.advance hlimit hlive hpoint hstep
  · cases hstep

/-- Where an attempt begins there is nothing else to do. -/
theorem step_attempting (hwhere : invocation.point = .attempting) {event : ClientEvent}
    {turn : Turn} (hstep : invocation.step settings database event = some turn) :
    ∃ accepted, event = .advance accepted ∧
      invocation.advance settings database accepted = some turn := by
  cases event with
  | advance accepted =>
      simp only [Invocation.step, hwhere] at hstep
      exact ⟨accepted, rfl, hstep⟩
  | card valid =>
      cases valid <;> simp [Invocation.step, hwhere] at hstep
  | receive | artifact | closed | returned | answered | raised | interrupted =>
      simp [Invocation.step, hwhere, Invocation.awaiting] at hstep

/-- A statement of the client is one of its invocation, or raises what reading
the fetched task raises. -/
theorem client_cases {event : ClientEvent} {next : Session Value}
    (hclient : session.client reader settings invocation event = some next) :
    ∃ turn, next = { session with attempts := session.attempted invocation }.turned turn ∧
      (turn.progress.lost ∨
        (invocation.step settings session.database event = some turn ∧
          (invocation.point.live = true → event.told = false))) := by
  unfold client at hclient
  dsimp only at hclient
  split at hclient
  · cases hclient
    exact ⟨_, rfl, Or.inl lost_fail⟩
  · split at hclient
    · cases hclient
    · rename_i htold
      obtain ⟨turn, hstep, rfl⟩ := Option.map_eq_some_iff.mp hclient
      refine ⟨turn, rfl, Or.inr ⟨hstep, fun hlive => ?_⟩⟩
      rw [hlive] at htold
      simpa using htold

theorem Sound.client (hsound : Sound reader settings first session)
    (hrunning : session.progress = .running invocation) {event : ClientEvent}
    {next : Session Value}
    (hclient : session.client reader settings invocation event = some next) :
    Sound reader settings first next := by
  have hlimit := hsound.1
  have hbound := hsound.bound hrunning
  obtain ⟨turn, rfl, hturn⟩ := client_cases hclient
  by_cases hwhere : invocation.point = .attempting
  · have hattempted : session.attempted invocation = session.attempts + 1 := if_pos hwhere
    rw [hattempted]
    have hlive : invocation.point.live = true := by rw [hwhere]; rfl
    have hagain := (hbound hlive).stands
    rw [hwhere] at hagain
    rcases hturn with hlost | ⟨hstep, -⟩
    · exact .lost (Nat.succ_le_succ hagain.2) hlost
    · obtain ⟨accepted, -, hadvance⟩ := step_attempting hwhere hstep
      exact (hbound hlive).attempt hwhere hadvance
  · have hattempted : session.attempted invocation = session.attempts := if_neg hwhere
    rw [hattempted]
    rcases hturn with hlost | ⟨hstep, hnothing⟩
    · exact .lost hlimit hlost
    · cases hlive : invocation.point.live with
      | false => exact .lost hlimit (lost_step hlive hstep)
      | true =>
          exact (hbound hlive).step hlimit hlive hwhere (hnothing hlive) hstep

/-- A response reaches `update` where nothing has been heard but the one task. -/
theorem Bound.hears (hbound : Bound reader settings first session invocation)
    (hlimit : session.attempts ≤ settings.a2aMaxRetries + 1)
    (hpoint : invocation.point ≠ .attempting) (hhears : Hears session.heard invocation.mapping)
    (report : TaskReport) (detail : String) (artifact : Option AgentResult) (resume : Resume)
    (hfetched : resume = .poll → ∃ remote, session.fetched = some remote ∧
      remote.toTaskReport = report ∧ artifact = (remote.read reader).toOption) :
    Sound reader settings first
      (session.hears settings invocation report detail artifact resume) := by
  unfold Session.hears Invocation.hear
  dsimp only
  split
  · exact .lost hlimit lost_fail
  · rename_i taskId htaskId
    split
    · rename_i state hstate
      refine .running hlimit hbound.spec hbound.invocationId hbound.contextId hbound.counted
        (hbound.keeps hpoint) ⟨⟨session.heard, report, rfl, hhears, htaskId, rfl⟩, ?_⟩
      intro hpoll
      obtain ⟨remote, hremote, rfl, hartifact⟩ := hfetched hpoll
      exact ⟨remote, hremote, htaskId, rfl, hstate, hartifact⟩
    · split
      · exact .lost hlimit lost_fail
      · split
        · exact .lost hlimit lost_fail
        · exact .lost hlimit lost_fail

/-- A stream is read where nothing has been heard but the one task. -/
theorem Bound.stream (hbound : Bound reader settings first session invocation)
    (hlimit : session.attempts ≤ settings.a2aMaxRetries + 1) {resume : Resume}
    (hreads : invocation.point.reads = some resume) (hpoint : invocation.point ≠ .attempting)
    (hhears : Hears session.heard invocation.mapping)
    (hrunning : session.progress = .running invocation) (accepted : Bool)
    (response : StreamResponse Value) :
    Sound reader settings first (session.stream settings invocation accepted resume response) := by
  have hpoll : resume ≠ .poll := by
    rintro rfl
    cases hwhere : invocation.point <;> rw [hwhere] at hreads <;> cases hreads
  have hsound : Sound reader settings first session := by
    refine ⟨hlimit, ?_⟩
    rw [hrunning]
    exact fun _ => hbound
  unfold Session.stream
  cases response with
  | task task =>
      exact hbound.hears hlimit hpoint hhears _ _ _ _ fun hequal => absurd hequal hpoll
  | statusUpdate report =>
      exact hbound.hears hlimit hpoint hhears _ _ _ _ fun hequal => absurd hequal hpoll
  | artifactUpdate taskId contextId artifactId =>
      dsimp only
      split
      · exact hsound
      · split
        · exact .lost hlimit lost_fail
        · split
          · exact .lost hlimit lost_fail
          · split
            · exact .lost hlimit lost_fail
            · rename_i next hemit
              have hnext : Sound reader settings first
                  (session.turned ⟨next, [], .running invocation⟩) :=
                hbound.goes hlimit hpoint (rows_of_emit hemit) rfl rfl hbound.stands
              simpa only [turned, ← hrunning] using hnext
  | message =>
      dsimp only
      split
      · exact hsound
      · exact .lost hlimit lost_fail

theorem Sound.elsewhere (hsound : Sound reader settings first session) {database : Database}
    (hsame : SameRows first.mapping.invocationId session.database database) :
    Sound reader settings first { session with database } := by
  obtain ⟨hlimit, hprogress⟩ := hsound
  refine ⟨hlimit, ?_⟩
  dsimp only
  cases hwhere : session.progress with
  | running invocation =>
      rw [hwhere] at hprogress
      intro hlive
      have hbound := hprogress hlive
      exact
        { hbound with
          keeps := fun hpoint => (hbound.keeps hpoint).elsewhere (hbound.invocationId ▸ hsame)
          stands := hbound.stands.congr rfl rfl rfl }
  | returned result =>
      rw [hwhere] at hprogress
      obtain ⟨mapping, remote, hdelivered⟩ := hprogress
      exact ⟨mapping, remote,
        { hdelivered with keeps := hdelivered.keeps.elsewhere (hdelivered.invocationId ▸ hsame) }⟩
  | raised => trivial

/-- Every step of a session keeps it sound. -/
theorem Sound.step (hsound : Sound reader settings first session) {label : SessionLabel Value}
    {next : Session Value}
    (hstep : (Aidlc.session reader settings first.mapping.invocationId).step session label =
      some next) : Sound reader settings first next := by
  have hlimit := hsound.1
  simp only [Aidlc.session] at hstep
  cases label with
  | elsewhere database =>
      simp only [Option.ite_none_right_eq_some, Option.some.injEq] at hstep
      obtain ⟨hsame, rfl⟩ := hstep
      exact hsound.elsewhere hsame
  | streamed response accepted =>
      cases hrunning : session.progress with
      | running invocation =>
          simp only [hrunning] at hstep
          obtain ⟨resume, hreads, rfl⟩ := Option.map_eq_some_iff.mp hstep
          have hstands {point : Point} (hwhere : invocation.point = point)
              (hlive : point.live = true) (hpoint : point ≠ .attempting)
              (hhears : Stands reader settings session invocation.mapping point →
                Hears session.heard invocation.mapping) :
              Sound reader settings first
                (session.stream settings invocation accepted resume response) := by
            subst hwhere
            have hheld := hsound.bound hrunning hlive
            exact hheld.stream hlimit hreads hpoint (hhears hheld.stands) hrunning accepted response
          cases hwhere : invocation.point with
          | streaming | continuing => exact hstands hwhere rfl nofun fun hhears => hhears
          | attempting | discovering | discovered | sending | noting | fetching | updating
          | announcing | examining | asking | sleeping | retrying | backoff | canceling | marking
          | reporting =>
              rw [hwhere] at hreads
              cases hreads
      | returned | raised =>
          simp only [hrunning] at hstep
          cases hstep
  | polled task =>
      cases hrunning : session.progress with
      | running invocation =>
          simp only [hrunning, Option.ite_none_right_eq_some, Option.some.injEq] at hstep
          obtain ⟨hwhere, rfl⟩ := hstep
          have hheld := hsound.bound hrunning (by rw [hwhere]; rfl)
          have hhears := hheld.stands
          rw [hwhere] at hhears
          have hpolled : Bound reader settings first { session with fetched := some task }
              invocation := by
            refine { hheld with stands := ?_ }
            rw [hwhere]
            exact hhears
          exact hpolled.hears hlimit (by rw [hwhere]; nofun) hhears _ _ _ _
            fun _ => ⟨task, rfl, rfl, rfl⟩
      | returned | raised =>
          simp only [hrunning] at hstep
          cases hstep
  | client event =>
      cases hrunning : session.progress with
      | running invocation =>
          simp only [hrunning] at hstep
          exact hsound.client hrunning hstep
      | returned | raised =>
          simp only [hrunning] at hstep
          cases hstep

theorem sound_start (baseUrl : String) (spec : AgentSpec) (context : AgentContext Json)
    (database : Database) :
    Sound reader settings (Invocation.initial baseUrl spec context)
      (start database (Invocation.initial baseUrl spec context)) := by
  refine ⟨Nat.zero_le _, fun _ => ⟨rfl, rfl, rfl, rfl, fun hpoint => absurd rfl hpoint, ?_⟩⟩
  exact ⟨fun report hreport => (List.not_mem_nil hreport).elim, Nat.zero_le _⟩

/-- A result was read where the only artifact has one part of JSON data. -/
theorem read_eq_ok {task : RemoteTask Value} {result : AgentResult}
    (hread : task.read reader = .ok result) :
    ∃ artifactId data document,
      task.artifacts = [⟨artifactId, [⟨some data, "application/json"⟩]⟩] ∧
        reader.messageToDict data = .ok document ∧ reader.modelValidate document = .ok result := by
  unfold RemoteTask.read at hread
  split at hread
  · rename_i artifactId part hartifacts
    split at hread
    · rename_i data hdata
      split at hread
      · rename_i hmedia
        obtain ⟨document, hdocument, hresult⟩ := except_bind_eq_ok.mp hread
        refine ⟨artifactId, data, document, ?_, hdocument, hresult⟩
        obtain ⟨found, mediaType⟩ := part
        simp only at hdata hmedia
        rw [hartifacts, hdata, hmedia]
      · cases hread
    · cases hread
  · cases hread

end Session

/-- However an agent answers, and whatever happens in between: an invocation
makes a limited number of attempts, and a result it returns is the only artifact
of the one task that everything was said about. -/
theorem result_bound_to_task (reader : ResultReader Value) (settings : ClientSettings)
    (baseUrl : String) (spec : AgentSpec) (context : AgentContext Json) (database : Database)
    {labels : List (SessionLabel Value)} {last : Session Value}
    (hrun : (session reader settings (Invocation.invocationId spec context)).run
      (.start database (Invocation.initial baseUrl spec context)) labels = some last) :
    last.attempts ≤ settings.a2aMaxRetries + 1 ∧
      ∀ result, last.progress = .returned result →
        ∃ taskId, ∃ row ∈ last.database.delegatedTasks,
          row.invocationId = Invocation.invocationId spec context ∧
          row.record.taskId = some taskId ∧
          row.record.contextId = (Invocation.initial baseUrl spec context).mapping.contextId ∧
          row.record.state = .reported .completed ∧
          (∀ report ∈ last.heard, report.taskId = some taskId ∧
            report.contextId = (Invocation.initial baseUrl spec context).mapping.contextId) ∧
          ∃ task artifactId data document,
            last.fetched = some task ∧ task.taskId = some taskId ∧
            task.contextId = (Invocation.initial baseUrl spec context).mapping.contextId ∧
            task.state = .inl .completed ∧
            task.artifacts = [⟨artifactId, [⟨some data, "application/json"⟩]⟩] ∧
            reader.messageToDict data = .ok document ∧
            reader.modelValidate document = .ok result ∧
            result.artifactKind = spec.artifactKind := by
  generalize hfirst : Invocation.initial baseUrl spec context = first at hrun
  have hid : Invocation.invocationId spec context = first.mapping.invocationId := by
    rw [← hfirst]
    rfl
  have hspec : first.spec = spec := by
    rw [← hfirst]
    rfl
  rw [hid] at hrun
  have hsound := (session reader settings first.mapping.invocationId).run_invariant
    (Session.Sound reader settings first) (fun _ _ _ hheld hstep => hheld.step hstep)
    (hfirst ▸ Session.sound_start baseUrl spec context database) hrun
  refine ⟨hsound.1, fun result hresult => ?_⟩
  have hprogress := hsound.2
  rw [hresult] at hprogress
  obtain ⟨mapping, remote, hdelivered⟩ := hprogress
  obtain ⟨row, hrow, hrowId⟩ := hdelivered.keeps.present
  obtain ⟨taskId, hknown, hremote⟩ := hdelivered.taskId
  obtain ⟨artifactId, data, document, hartifacts, hdocument, hvalid⟩ :=
    Session.read_eq_ok hdelivered.read
  have hrecord := hdelivered.keeps.only row hrow hrowId
  have hcontext := hdelivered.contextId
  refine ⟨taskId, row, hrow, hid ▸ hrowId.trans hdelivered.invocationId, hrecord ▸ hknown,
    hrecord ▸ hcontext, hrecord ▸ hdelivered.state, ?_, remote, artifactId, data, document,
    hdelivered.fetched, hremote, hdelivered.remoteContext.trans hcontext,
    hdelivered.completed, hartifacts, hdocument, hvalid, hspec ▸ hdelivered.kind⟩
  intro report hreport
  obtain ⟨heardId, hreported, hsame, hreportContext⟩ := hdelivered.heard report hreport
  rw [hknown] at hsame
  exact ⟨hreported.trans hsame.symm, hreportContext.trans hcontext⟩

/-- `HumanPrompt.model_validate`, where there may be none. -/
def samplePrompt : Option Json → Except PyError (Option HumanPrompt)
  | none | some .null => .ok none
  | some prompt => do
    forbidExtra prompt ["kind", "question"]
    let kinds := [("clarification", PromptKind.clarification), ("approval", .approval),
      ("evaluation_decision", .evaluationDecision)]
    let question ← requiredStr prompt "question"
    match kinds.lookup (← requiredStr prompt "kind") with
    | some kind =>
      if 3 ≤ question.length ∧ question.length ≤ 2000 then return some ⟨kind, question⟩
      else validationError "String should have between 3 and 2000 characters"
    | none =>
      validationError "String should match pattern '^(clarification|approval|evaluation_decision)$'"

/-- Results of documents that have no execution. -/
def sampleReader : ResultReader Json where
  messageToDict := .ok
  modelValidate document :=
    match document.get? "artifact_kind", document.get? "content", document.get? "markdown" with
    | some (.str kind), some (.obj content), some (.str markdown) => do
      let humanPrompt ← samplePrompt (document.get? "human_prompt")
      if kind = ArtifactKind.projectBrief.value then return {
        artifactKind := .projectBrief
        content := .obj content
        markdown
        humanPrompt
        execution := ⟨none, "deterministic", "deterministic-v1", none, none, none, "unavailable"⟩ }
      else validationError "1 validation error for AgentResult"
    | _, _, _ => validationError "1 validation error for AgentResult"

def sampleInquiry : AgentContext Json where
  runId := "run_a"
  idea := "a shop"
  stage := .intake
  artifacts := []
  retryAttempt := 0
  humanResponse := none
  repairAttempt := 0
  repairFeedback := none
  repairArtifactId := none
  repairArtifactSha256 := none

def sampleSpecialist : AgentSpec := agentSpecs.head agentSpecs_ne_nil

def sampleReport (state : TaskState) : TaskReport := ⟨some 7, "run_a:intake", .inl state⟩

def sampleFetched (state : TaskState) (prompt : Json) : RemoteTask Json where
  toTaskReport := sampleReport state
  detail := ""
  artifacts := [⟨"artifact", [⟨some (.obj [("artifact_kind", .str "project_brief"),
    ("content", .obj [("idea", .str "a shop")]), ("markdown", .str ""),
    ("human_prompt", prompt)]), "application/json"⟩]⟩]

def sampleQuestion : Json :=
  .obj [("kind", .str "clarification"), ("question", .str "Which goods?")]

/-- The card cannot be fetched, then the stream is lost; the third attempt polls,
asks a question, and polls again. -/
def sampleConversation : List (SessionLabel Json) :=
  let next := SessionLabel.client (.advance true)
  let lost := SessionLabel.client (.raised ⟨.osError, "Connection refused"⟩ true)
  [next, lost, next, .client .returned, next, .client (.card true), next, next,
    .streamed (.statusUpdate (sampleReport .submitted)) true, next, next,
    .streamed (.artifactUpdate (some 7) "run_a:intake" "artifact") true, lost, next,
    .client .returned, next, next,
    .polled (sampleFetched .inputRequired sampleQuestion), next, next, next,
    .client (.answered (.obj [("action_id", .str "action_a")])),
    .streamed .message true, .streamed (.statusUpdate (sampleReport .working)) true, next, next,
    .client .closed, .polled (sampleFetched .completed .null), next, next, next]

def sampleOpened : Database :=
  ((Database.empty.createRun "run_a" "a shop" 0).toOption).getD .empty

theorem result_bound_to_task_sample :
    ∃ last result,
      (session sampleReader {} (Invocation.invocationId sampleSpecialist sampleInquiry)).run
        (.start sampleOpened (Invocation.initial "" sampleSpecialist sampleInquiry))
        sampleConversation = some last ∧
      last.progress = .returned result ∧ last.attempts ≤ 3 ∧
      ∃ row ∈ last.database.delegatedTasks, row.record.state = .reported .completed := by
  have hreturned : (((session sampleReader {}
      (Invocation.invocationId sampleSpecialist sampleInquiry)).run
      (.start sampleOpened (Invocation.initial "" sampleSpecialist sampleInquiry))
      sampleConversation).bind fun last => last.progress.result?).isSome = true := by
    decide +kernel
  obtain ⟨result, hresult⟩ := Option.isSome_iff_exists.mp hreturned
  obtain ⟨last, hrun, hlast⟩ := Option.bind_eq_some_iff.mp hresult
  have hend := returned_of_result? hlast
  have hbound := result_bound_to_task sampleReader {} "" sampleSpecialist sampleInquiry
    sampleOpened hrun
  obtain ⟨taskId, row, hrow, -, -, -, hcompleted, -⟩ := hbound.2 result hend
  exact ⟨last, result, hrun, hend, hbound.1, row, hrow, hcompleted⟩

end Aidlc
