import Aidlc.Sandbox.Recovery
import Aidlc.Sandbox.Runner

/-! # The evidence of a recovery

One call of `reconcile` against a daemon whose replies may be anything, with the
deadline or a cancellation at any await. The report is built while containers are
removed one by one; what the replies confirm is read off the history of commands.
-/

namespace Aidlc

open Foundation

/-- What a recovery asks the command line of Docker for. -/
inductive RecoveryRequest where
  | list
  | inspect (id : ContainerId)
  | remove (id : ContainerId)
  | check (id : ContainerId)
  deriving DecidableEq, Repr

abbrev RecoveryHistory := List (RecoveryRequest × CaptureOutcome)

/-- What `JobLease` does: it takes the lock, finds it held, or cannot open the file. -/
inductive LeaseOutcome where
  | taken | held | failed
  deriving DecidableEq, Repr

structure RecoveryHost where
  owner : String
  /-- Whether the command line of Docker is there. -/
  docker : Bool
  respond : RecoveryHistory → RecoveryRequest → CaptureOutcome
  lease : RecoveryHistory → String → LeaseOutcome
  /-- Whether a cancellation is that of the deadline. -/
  deadline : Bool
  /-- What creating and removing the temporary directory raise. -/
  directory : Option PyError
  cleanup : Option PyError

/-- The exceptions that `_reconcile` handles. -/
def SandboxError.isHandled : SandboxError → Bool
  | .timeout | .group _ | .control _ | .indexError => true
  | .error raised => raised.isData
  | .cancelled => false

/-- The exceptions that `reconcile` takes for its deadline. -/
def SandboxError.isTimeout (deadline : Bool) : SandboxError → Bool
  | .cancelled => deadline
  | .timeout => true
  | .error raised => raised.type == .timeoutError
  | _ => false

namespace Removals

/-! ## Reading replies -/

section Replies

variable (decoder : Decoder) (owner : String)

/-- The characters at which `str.splitlines` ends a line. -/
def lineBreaks : List Char :=
  ['\n', '\r', '\x0b', '\x0c', '\x1c', '\x1d', '\x1e', '\u0085', '\u2028', '\u2029']

/-- The lines of a text, after the characters of the current one in reverse. -/
def splitLines : List Char → List Char → List String
  | [], [] => []
  | [], line => [String.ofList line.reverse]
  | '\r' :: '\n' :: rest, line => String.ofList line.reverse :: splitLines rest []
  | c :: rest, line =>
    if c ∈ lineBreaks then String.ofList line.reverse :: splitLines rest []
    else splitLines rest (c :: line)

/-- The identifiers of the inventory. -/
def readInventory (output : Bytes) : Except SandboxError (List ContainerId) :=
  match decoder.decode output with
  | .error error => .error (.error error)
  | .ok text =>
    let identifiers := splitLines text.toList []
    if 1000 < identifiers.length || identifiers.any fun identifier => !isContainerId identifier then
      .error (.control "Invalid or excessive recovery inventory")
    else .ok identifiers

/-- `name.removeprefix("/")` -/
def bareName : Json → Except PyError String
  | .str text =>
    match text.toList with
    | '/' :: rest => .ok (String.ofList rest)
    | _ => .ok text
  | other => .error ⟨.attributeError,
      "'" ++ Json.typeName other ++ "' object has no attribute 'removeprefix'"⟩

/-- The job name of an inspected container that is to be removed; the comparisons stop
at the first one that fails. -/
def ownJobName (id : ContainerId) (definition : Json) : Except PyError (Option String) := do
  let config ← subscript definition "Config"
  let found ← getAttr config "Labels"
  let labels := if Json.truthy found then found.getD .null else .obj []
  let name ← bareName (← subscript definition "Name")
  if !(← subscript definition "Id").pyEq (.str id) then return none
  if !isJobName name then return none
  if !((← getAttr labels "aidlc.sandbox").getD .null).pyEq (.str "true") then return none
  if !((← getAttr labels "aidlc.owner").getD .null).pyEq (.str owner) then return none
  if !((← getAttr labels "aidlc.job").getD .null).pyEq (.str name) then return none
  return some name

/-- The reply to an inspection. -/
def readJob (id : ContainerId) (output : Bytes) : Except SandboxError (Option String) :=
  match decoder.loads output with
  | .error error => .error (.error error)
  | .ok definitions =>
    match Sandbox.first definitions with
    | .error error => .error error
    | .ok definition => (ownJobName owner id definition).mapError SandboxError.error

end Replies

/-! ## The recovery -/

structure World where
  report : RecoveryReport
  history : RecoveryHistory

abbrev RecoveryM := EStateM SandboxError World

section Recovering

variable (decoder : Decoder) (host : RecoveryHost)

def capture (request : RecoveryRequest) : RecoveryM (Int × Bytes × Bytes) := fun world =>
  let outcome := host.respond world.history request
  let next := { world with history := world.history ++ [(request, outcome)] }
  match outcome with
  | .exited code stdout stderr => .ok (code, stdout, stderr) next
  | .raised error => .error error next

def modifyReport (change : RecoveryReport → RecoveryReport) : RecoveryM Unit :=
  modify fun world => { world with report := change world.report }

/-- `code or remaining.strip()` for the container of this identifier. -/
def remains (id : ContainerId) : RecoveryM Bool := do
  let (code, remaining, _) ← capture host (.check id)
  return code != 0 || !Sandbox.isBlank remaining

/-- The removal of a container under the lease of its job. -/
def removeOne (id : ContainerId) : RecoveryM Unit := do
  let _ ← capture host (.remove id)
  let remaining ← remains host id
  modifyReport fun report =>
    if remaining then { report with failed := report.failed ++ [id] }
    else { report with removed := report.removed ++ [id] }

/-- What follows from the job name an inspection gave. -/
def settleJob (id : ContainerId) : Option String → RecoveryM Unit
  | none => modifyReport fun report => { report with ignored := report.ignored ++ [id] }
  | some name => fun world =>
    match host.lease world.history name with
    | .failed => .error (.error ⟨.osError, "Cannot open the lease"⟩) world
    | .held =>
      modifyReport (fun report => { report with active := report.active ++ [id] }) world
    | .taken => removeOne host id world

/-- Concurrent cleanup is allowed only when absence is confirmed. -/
def verifyAbsence (id : ContainerId) : RecoveryM Unit := do
  let remaining ← remains host id
  modifyReport fun report =>
    if remaining then { report with failed := report.failed ++ [id] } else report

/-- One identifier of the inventory. -/
def recoverOne (id : ContainerId) : RecoveryM Unit := do
  let (code, output, _) ← capture host (.inspect id)
  if code ≠ 0 then verifyAbsence host id
  else match readJob decoder host.owner id output with
    | .error error => throw error
    | .ok job => settleJob host id job

def recoverAll : RecoveryM Unit := do
  let (code, output, _) ← capture host .list
  if code ≠ 0 then throw (.control "Cannot list sandbox jobs for recovery")
  else match readInventory decoder output with
    | .error error => throw error
    | .ok identifiers => do
      identifiers.forM (recoverOne decoder host)
      modifyReport fun report =>
        if report.failed = [] then report else { report with status := .failed }

/-- The body of the temporary directory, with its handler. -/
def handled : RecoveryM Unit := fun world =>
  match recoverAll decoder host world with
  | .ok () next => .ok () next
  | .error error next =>
    if error.isHandled then
      modifyReport (fun report => { report with
        status := .failed, reason := some "Sandbox recovery could not be confirmed" }) next
    else .error error next

/-- `_reconcile` -/
def reconcileJobs : RecoveryM Unit := fun world =>
  if host.docker then
    match host.directory with
    | some error => .error (.error error) world
    | none =>
      match host.cleanup, handled decoder host world with
      | none, result => result
      | some error, result => .error (.error error) (finalState result)
  else
    modifyReport (fun report => { report with
      status := .unavailable, reason := some "Docker CLI is unavailable" }) world

/-- The report of a recovery that took too long. -/
def deadlineReport (owner : String) : RecoveryReport :=
  { RecoveryReport.initial owner with
    status := .failed
    reason := some "Sandbox recovery exceeded its 30-second deadline" }

/-- `reconcile`: what it returns or raises, and the commands it issued. -/
def reconcile : Except SandboxError RecoveryReport × RecoveryHistory :=
  match reconcileJobs decoder host ⟨.initial host.owner, []⟩ with
  | .ok () world => (.ok world.report, world.history)
  | .error error world =>
    if error.isTimeout host.deadline then (.ok (deadlineReport host.owner), world.history)
    else (.error error, world.history)

end Recovering

/-! ## What the replies confirm -/

section Confirmation

variable {history : RecoveryHistory} {id : ContainerId}

/-- The removal of the container was issued, and then its absence was confirmed. -/
def Confirms (history : RecoveryHistory) (id : ContainerId) : Prop :=
  ∃ before after code stdout stderr remaining complaint,
    history = before ++ (.remove id, .exited code stdout stderr) ::
      (.check id, .exited 0 remaining complaint) :: after ∧ Sandbox.isBlank remaining = true

/-- The last command was not a removal that was answered. -/
def Quiet (history : RecoveryHistory) : Prop :=
  ∀ id code stdout stderr, history.getLast? ≠ some (.remove id, .exited code stdout stderr)

/-- A removal is confirmed by the check right after it. -/
theorem confirms_append {exchange : RecoveryRequest × CaptureOutcome} :
    Confirms (history ++ [exchange]) id ↔ Confirms history id ∨
      ∃ code stdout stderr remaining complaint,
        history.getLast? = some (.remove id, .exited code stdout stderr) ∧
        exchange = (.check id, .exited 0 remaining complaint) ∧
        Sandbox.isBlank remaining = true := by
  constructor
  · rintro ⟨before, after, code, stdout, stderr, remaining, complaint, hsplit, hblank⟩
    rcases List.eq_nil_or_concat after with rfl | ⟨later, last, rfl⟩
    · have hsplit' : history ++ [exchange] =
          (before ++ [(.remove id, .exited code stdout stderr)]) ++
            [(.check id, .exited 0 remaining complaint)] := by
        rw [hsplit, List.append_assoc]
        rfl
      obtain ⟨rfl, hlast⟩ := List.append_inj' hsplit' rfl
      exact Or.inr ⟨code, stdout, stderr, remaining, complaint, List.getLast?_concat,
        List.singleton_inj.mp hlast, hblank⟩
    · have hsplit' : history ++ [exchange] =
          (before ++ (.remove id, .exited code stdout stderr) ::
            (.check id, .exited 0 remaining complaint) :: later) ++ [last] := by
        rw [hsplit, List.concat_eq_append, List.append_assoc]
        rfl
      obtain ⟨rfl, -⟩ := List.append_inj' hsplit' rfl
      exact Or.inl ⟨before, later, code, stdout, stderr, remaining, complaint, rfl, hblank⟩
  · rintro (⟨before, after, code, stdout, stderr, remaining, complaint, rfl, hblank⟩ |
      ⟨code, stdout, stderr, remaining, complaint, hlast, rfl, hblank⟩)
    · refine ⟨before, after ++ [exchange], code, stdout, stderr, remaining, complaint, ?_, hblank⟩
      rw [List.append_assoc]
      rfl
    · obtain ⟨front, rfl⟩ := List.getLast?_eq_some_iff.mp hlast
      refine ⟨front, [], code, stdout, stderr, remaining, complaint, ?_, hblank⟩
      rw [List.append_assoc]
      rfl

/-- Behind any other exchange nothing new is confirmed. -/
theorem confirms_of_quiet (hquiet : Quiet history) (exchange : RecoveryRequest × CaptureOutcome) :
    Confirms (history ++ [exchange]) id ↔ Confirms history id := by
  rw [confirms_append]
  refine or_iff_left ?_
  rintro ⟨code, stdout, stderr, _, _, hlast, _⟩
  exact hquiet id code stdout stderr hlast

end Confirmation

/-! ## Keeping the evidence -/

section Evidence

variable (decoder : Decoder) (owner : String)

/-- The reply ends the recovery without its report: the deadline, a cancellation, or an
exception that `_reconcile` does not handle. -/
def escapes : RecoveryRequest × CaptureOutcome → Bool
  | (_, .raised error) => !error.isHandled
  | (.inspect id, .exited code output _) =>
    code == 0 && match readJob decoder owner id output with
      | .error error => !error.isHandled
      | .ok _ => false
  | (.list, .exited code output _) =>
    code == 0 && match readInventory decoder output with
      | .error error => !error.isHandled
      | .ok _ => false
  | _ => false

/-- The report lists what the replies confirmed, and none of them escaped. -/
structure Evidenced (world : World) : Prop where
  removed : ∀ id, Confirms world.history id ↔ id ∈ world.report.removed
  quiet : Quiet world.history
  calm : ∀ exchange ∈ world.history, escapes decoder owner exchange = false

/-- What a statement leaves behind where it raised. -/
def Raises (error : SandboxError) (world : World) : Prop :=
  if error.isHandled then Evidenced decoder owner world
  else ∃ exchange ∈ world.history, escapes decoder owner exchange = true

/-- A statement keeps the evidence, also where it raises. -/
def Tracks {α : Type} (statement : RecoveryM α) : Prop :=
  ∀ world, Evidenced decoder owner world → match statement world with
    | .ok _ next => Evidenced decoder owner next
    | .error error next => Raises decoder owner error next

variable {decoder owner} {world : World} {α β : Type}

/-- Sequencing keeps track of the removals. -/
theorem Tracks.bind {first : RecoveryM α} {rest : α → RecoveryM β}
    (hfirst : Tracks decoder owner first) (hrest : ∀ value, Tracks decoder owner (rest value)) :
    Tracks decoder owner (first >>= rest) := by
  intro world hworld
  have hkept := hfirst world hworld
  cases hresult : first world with
  | ok value next =>
      rw [hresult] at hkept
      rw [bind_of_ok hresult]
      exact hrest value next hkept
  | error error next =>
      rw [hresult] at hkept
      rw [bind_of_error hresult]
      exact hkept

/-- A loop keeps track if each turn does. -/
theorem Tracks.forM {body : ContainerId → RecoveryM Unit}
    (hbody : ∀ id, Tracks decoder owner (body id)) (ids : List ContainerId) :
    Tracks decoder owner (ids.forM body) := by
  induction ids with
  | nil => exact fun _ hworld => hworld
  | cons id rest ih => exact .bind (hbody id) fun _ => ih

/-- Changes of the report that leave the removed containers alone. -/
theorem Evidenced.modify {change : RecoveryReport → RecoveryReport}
    (hworld : Evidenced decoder owner world)
    (hchange : (change world.report).removed = world.report.removed) :
    Evidenced decoder owner { world with report := change world.report } where
  removed := by
    intro id
    rw [hchange]
    exact hworld.removed id
  quiet := hworld.quiet
  calm := hworld.calm

theorem Tracks.modify {change : RecoveryReport → RecoveryReport}
    (hchange : ∀ report, (change report).removed = report.removed) :
    Tracks decoder owner (modifyReport change) :=
  fun world hworld => hworld.modify (hchange world.report)

/-- A reply that does not escape, to a command that is no removal. -/
theorem Evidenced.answered {request : RecoveryRequest} {outcome : CaptureOutcome}
    (hworld : Evidenced decoder owner world)
    (hquiet : ∀ id code stdout stderr,
      (request, outcome) ≠ (.remove id, .exited code stdout stderr))
    (hcalm : escapes decoder owner (request, outcome) = false) :
    Evidenced decoder owner { world with history := world.history ++ [(request, outcome)] } where
  removed := by
    intro id
    rw [confirms_of_quiet hworld.quiet]
    exact hworld.removed id
  quiet := by
    intro id code stdout stderr hlast
    rw [List.getLast?_concat, Option.some.injEq] at hlast
    exact hquiet id code stdout stderr hlast
  calm := by
    intro exchange hexchange
    rcases List.mem_append.mp hexchange with hold | hnew
    · exact hworld.calm exchange hold
    · rw [List.mem_singleton.mp hnew]
      exact hcalm

/-- A command that raises. -/
theorem Evidenced.raised {request : RecoveryRequest} {error : SandboxError}
    (hworld : Evidenced decoder owner world) :
    Raises decoder owner error
      { world with history := world.history ++ [(request, .raised error)] } := by
  unfold Raises
  cases hhandled : error.isHandled with
  | true =>
      rw [if_pos rfl]
      refine hworld.answered (fun _ _ _ _ heq => by cases heq) ?_
      simp only [escapes, hhandled, Bool.not_true]
  | false =>
      rw [if_neg Bool.false_ne_true]
      refine ⟨(request, .raised error), List.mem_append_right _ List.mem_cons_self, ?_⟩
      simp only [escapes, hhandled, Bool.not_false]

variable {host : RecoveryHost} {request : RecoveryRequest} {id : ContainerId} {code : Int}
  {stdout stderr : Bytes} {error : SandboxError}

theorem capture_exited (houtcome : host.respond world.history request = .exited code stdout stderr) :
    capture host request world = .ok (code, stdout, stderr)
      { world with history := world.history ++ [(request, .exited code stdout stderr)] } := by
  unfold capture
  rw [houtcome]

theorem capture_raised (houtcome : host.respond world.history request = .raised error) :
    capture host request world = .error error
      { world with history := world.history ++ [(request, .raised error)] } := by
  unfold capture
  rw [houtcome]

theorem remains_exited
    (houtcome : host.respond world.history (.check id) = .exited code stdout stderr) :
    remains host id world = .ok (code != 0 || !Sandbox.isBlank stdout)
      { world with history := world.history ++ [(.check id, .exited code stdout stderr)] } := by
  unfold remains
  rw [bind_of_ok (capture_exited houtcome)]
  rfl

theorem remains_raised (houtcome : host.respond world.history (.check id) = .raised error) :
    remains host id world = .error error
      { world with history := world.history ++ [(.check id, .raised error)] } := by
  unfold remains
  rw [bind_of_error (capture_raised houtcome)]

theorem tracks_remains (id : ContainerId) : Tracks decoder owner (remains host id) := by
  intro world hworld
  cases houtcome : host.respond world.history (.check id) with
  | exited code stdout stderr =>
      rw [remains_exited houtcome]
      exact hworld.answered (fun _ _ _ _ heq => by cases heq) rfl
  | raised error =>
      rw [remains_raised houtcome]
      exact hworld.raised

theorem tracks_verifyAbsence (id : ContainerId) :
    Tracks decoder owner (verifyAbsence host id) := by
  refine (tracks_remains id).bind fun remaining => .modify fun report => ?_
  cases remaining <;> rfl

/-- A reply that cannot be read. -/
theorem raises_unread {outcome : CaptureOutcome}
    (hanswered : escapes decoder owner (request, outcome) = false →
      Evidenced decoder owner { world with history := world.history ++ [(request, outcome)] })
    (hescapes : escapes decoder owner (request, outcome) = !error.isHandled) :
    Raises decoder owner error
      { world with history := world.history ++ [(request, outcome)] } := by
  unfold Raises
  cases hhandled : error.isHandled with
  | true =>
      rw [if_pos rfl]
      exact hanswered (by rw [hescapes, hhandled]; rfl)
  | false =>
      rw [if_neg Bool.false_ne_true]
      refine ⟨(request, outcome), List.mem_append_right _ List.mem_cons_self, ?_⟩
      rw [hescapes, hhandled]
      rfl

/-- A removal that was answered is settled by the check that follows it. -/
theorem Evidenced.checked (hworld : Evidenced decoder owner world) (id : ContainerId)
    (code : Int) (stdout stderr : Bytes) (answer : Int) (remaining complaint : Bytes) :
    Evidenced decoder owner {
      report :=
        if answer != 0 || !Sandbox.isBlank remaining then
          { world.report with failed := world.report.failed ++ [id] }
        else { world.report with removed := world.report.removed ++ [id] }
      history := world.history ++ [(.remove id, .exited code stdout stderr)] ++
        [(.check id, .exited answer remaining complaint)] } where
  removed := by
    intro other
    rw [confirms_append, confirms_of_quiet hworld.quiet, hworld.removed other,
      List.getLast?_concat]
    cases hremains : answer != 0 || !Sandbox.isBlank remaining with
    | true =>
        rw [if_pos rfl]
        refine or_iff_left ?_
        rintro ⟨_, _, _, _, _, _, heq, hblank⟩
        cases heq
        simp [hblank] at hremains
    | false =>
        rw [if_neg Bool.false_ne_true, List.mem_append, List.mem_singleton]
        simp only [Bool.or_eq_false_iff, bne_eq_false_iff_eq, Bool.not_eq_false'] at hremains
        obtain ⟨rfl, hblank⟩ := hremains
        refine or_congr_right ⟨?_, ?_⟩
        · rintro ⟨_, _, _, _, _, hremove, _, _⟩
          cases hremove
          rfl
        · rintro rfl
          exact ⟨code, stdout, stderr, remaining, complaint, rfl, rfl, hblank⟩
  quiet := by
    intro other code stdout stderr hlast
    rw [List.getLast?_concat] at hlast
    cases hlast
  calm := by
    intro exchange hexchange
    rcases List.mem_append.mp hexchange with hold | hnew
    · rcases List.mem_append.mp hold with hold | hremove
      · exact hworld.calm exchange hold
      · rw [List.mem_singleton.mp hremove]
        rfl
    · rw [List.mem_singleton.mp hnew]
      rfl

/-- A removal that was answered, and a check that raises. -/
theorem Evidenced.unchecked (hworld : Evidenced decoder owner world) (id : ContainerId)
    (code : Int) (stdout stderr : Bytes) (error : SandboxError) :
    Raises decoder owner error { world with
      history := world.history ++ [(.remove id, .exited code stdout stderr)] ++
        [(.check id, .raised error)] } := by
  unfold Raises
  cases hhandled : error.isHandled with
  | true =>
      rw [if_pos rfl]
      refine ⟨fun other => ?_, fun other code stdout stderr hlast => ?_, fun exchange hmem => ?_⟩
      · rw [confirms_append, confirms_of_quiet hworld.quiet, hworld.removed other]
        refine or_iff_left ?_
        rintro ⟨_, _, _, _, _, _, heq, _⟩
        cases heq
      · rw [List.getLast?_concat] at hlast
        cases hlast
      · rcases List.mem_append.mp hmem with hold | hnew
        · rcases List.mem_append.mp hold with hold | hremove
          · exact hworld.calm exchange hold
          · rw [List.mem_singleton.mp hremove]
            rfl
        · rw [List.mem_singleton.mp hnew]
          simp only [escapes, hhandled, Bool.not_true]
  | false =>
      rw [if_neg Bool.false_ne_true]
      refine ⟨(.check id, .raised error), List.mem_append_right _ List.mem_cons_self, ?_⟩
      simp only [escapes, hhandled, Bool.not_false]

/-- Removing one container keeps track. -/
theorem tracks_removeOne (id : ContainerId) : Tracks decoder owner (removeOne host id) := by
  intro world hworld
  unfold removeOne
  cases houtcome : host.respond world.history (.remove id) with
  | raised error =>
      rw [bind_of_error (capture_raised houtcome)]
      exact hworld.raised
  | exited code stdout stderr =>
      rw [bind_of_ok (capture_exited houtcome)]
      cases hcheck : host.respond
          (world.history ++ [(.remove id, .exited code stdout stderr)]) (.check id) with
      | raised error =>
          rw [bind_of_error (remains_raised hcheck)]
          exact hworld.unchecked id code stdout stderr error
      | exited answer remaining complaint =>
          rw [bind_of_ok (remains_exited hcheck)]
          exact hworld.checked id code stdout stderr answer remaining complaint

theorem tracks_settleJob (id : ContainerId) (job : Option String) :
    Tracks decoder owner (settleJob host id job) := by
  cases job with
  | none =>
      unfold settleJob
      exact .modify fun _ => rfl
  | some name =>
      intro world hworld
      simp only [settleJob]
      cases host.lease world.history name with
      | failed => exact hworld
      | held =>
          have htracks : Tracks decoder owner (modifyReport fun report =>
              { report with active := report.active ++ [id] }) := .modify fun _ => rfl
          exact htracks world hworld
      | taken => exact tracks_removeOne id world hworld

variable {decoder : Decoder} {host : RecoveryHost}

/-- Recovering one container keeps track. -/
theorem tracks_recoverOne (id : ContainerId) :
    Tracks decoder host.owner (recoverOne decoder host id) := by
  intro world hworld
  unfold recoverOne
  cases houtcome : host.respond world.history (.inspect id) with
  | raised error =>
      rw [bind_of_error (capture_raised houtcome)]
      exact hworld.raised
  | exited code output stderr =>
      rw [bind_of_ok (capture_exited houtcome)]
      dsimp only
      have hanswered (hcalm : escapes decoder host.owner (.inspect id,
          .exited code output stderr) = false) : Evidenced decoder host.owner { world with
            history := world.history ++ [(.inspect id, .exited code output stderr)] } :=
        hworld.answered (fun _ _ _ _ heq => by cases heq) hcalm
      by_cases hcode : code = 0
      · rw [if_neg (not_not_intro hcode)]
        cases hjob : readJob decoder host.owner id output with
        | ok job =>
            refine tracks_settleJob id job _ (hanswered ?_)
            simp only [escapes, hjob, Bool.and_false]
        | error error =>
            have hescapes : escapes decoder host.owner (.inspect id,
                .exited code output stderr) = !error.isHandled := by
              simp only [escapes, hjob, hcode, beq_self_eq_true, Bool.true_and]
            exact raises_unread hanswered hescapes
      · rw [if_pos hcode]
        refine tracks_verifyAbsence id _ (hanswered ?_)
        simp only [escapes, beq_eq_false_iff_ne.mpr hcode, Bool.false_and]

/-- Recovering all of them keeps track. -/
theorem tracks_recoverAll : Tracks decoder host.owner (recoverAll decoder host) := by
  intro world hworld
  unfold recoverAll
  cases houtcome : host.respond world.history .list with
  | raised error =>
      rw [bind_of_error (capture_raised houtcome)]
      exact hworld.raised
  | exited code output stderr =>
      rw [bind_of_ok (capture_exited houtcome)]
      dsimp only
      have hanswered (hcalm : escapes decoder host.owner (.list,
          .exited code output stderr) = false) : Evidenced decoder host.owner { world with
            history := world.history ++ [(.list, .exited code output stderr)] } :=
        hworld.answered (fun _ _ _ _ heq => by cases heq) hcalm
      by_cases hcode : code = 0
      · rw [if_neg (not_not_intro hcode)]
        cases hinventory : readInventory decoder output with
        | ok identifiers =>
            have htracks : Tracks decoder host.owner (identifiers.forM (recoverOne decoder host) >>=
                fun _ => modifyReport fun report =>
                  if report.failed = [] then report else { report with status := .failed }) :=
              .bind (.forM tracks_recoverOne identifiers) fun _ => .modify fun report => by
                split <;> rfl
            refine htracks _ (hanswered ?_)
            simp only [escapes, hinventory, Bool.and_false]
        | error error =>
            have hescapes : escapes decoder host.owner (.list,
                .exited code output stderr) = !error.isHandled := by
              simp only [escapes, hinventory, hcode, beq_self_eq_true, Bool.true_and]
            exact raises_unread hanswered hescapes
      · rw [if_pos hcode]
        refine hanswered ?_
        simp only [escapes, beq_eq_false_iff_ne.mpr hcode, Bool.false_and]

/-- Where the body and its handler are left without a report, a reply has escaped. -/
theorem handled_evidenced {next : World}
    (hworld : Evidenced decoder host.owner world) :
    (handled decoder host world = .ok () next → Evidenced decoder host.owner next) ∧
      ∀ error, handled decoder host world = .error error next →
        ∃ exchange ∈ next.history, escapes decoder host.owner exchange = true := by
  have hkept := tracks_recoverAll world hworld
  unfold handled
  cases hresult : recoverAll decoder host world with
  | ok value final =>
      rw [hresult] at hkept
      exact ⟨fun heq => by cases heq; exact hkept, nofun⟩
  | error raised final =>
      rw [hresult] at hkept
      dsimp only [Raises] at hkept ⊢
      cases hhandled : raised.isHandled with
      | true =>
          rw [hhandled, if_pos rfl] at hkept
          rw [if_pos rfl]
          have hmodified : Evidenced decoder host.owner { final with
              report := { final.report with
                status := .failed, reason := some "Sandbox recovery could not be confirmed" } } :=
            ⟨hkept.removed, hkept.quiet, hkept.calm⟩
          exact ⟨fun heq => by cases heq; exact hmodified, nofun⟩
      | false =>
          rw [hhandled, if_neg Bool.false_ne_true] at hkept
          rw [if_neg Bool.false_ne_true]
          exact ⟨nofun, fun _ heq => by cases heq; exact hkept⟩

/-- A recovery that starts has removed nothing. -/
theorem evidenced_start (decoder : Decoder) (owner : String) :
    Evidenced decoder owner ⟨.initial owner, []⟩ where
  removed := by
    intro id
    refine iff_of_false ?_ List.not_mem_nil
    rintro ⟨before, after, _, _, _, _, _, hsplit, _⟩
    exact absurd hsplit (by simp)
  quiet := nofun
  calm := nofun

end Evidence

variable (decoder : Decoder) (host : RecoveryHost)

/-- Every removal that was confirmed is in the report that is returned; where none is
returned, there was no such removal. -/
def EvidenceKept : Prop :=
  match reconcile decoder host with
  | (.ok report, history) => ∀ id, Confirms history id → id ∈ report.removed
  | (.error _, history) => ∀ id, ¬Confirms history id

section Outcomes

variable {decoder host} {world : World} {error : SandboxError}

theorem confirms_nil (id : ContainerId) : ¬Confirms [] id := by
  rintro ⟨before, after, _, _, _, _, _, hsplit, _⟩
  exact absurd hsplit (by simp)

/-- Without an error the evidence is kept exactly when every confirmed removal is reported.
-/
theorem kept_of_ok (hjobs : reconcileJobs decoder host ⟨.initial host.owner, []⟩ = .ok () world) :
    (reconcile decoder host).2 = world.history ∧
      (EvidenceKept decoder host ↔
        ∀ id, Confirms world.history id → id ∈ world.report.removed) := by
  unfold EvidenceKept reconcile
  rw [hjobs]
  exact ⟨rfl, Iff.rfl⟩

/-- Where `_reconcile` raises, no report with its removals is returned. -/
theorem kept_of_error
    (hjobs : reconcileJobs decoder host ⟨.initial host.owner, []⟩ = .error error world) :
    (reconcile decoder host).2 = world.history ∧
      (EvidenceKept decoder host ↔ ∀ id, ¬Confirms world.history id) := by
  unfold EvidenceKept reconcile
  rw [hjobs]
  dsimp only
  cases error.isTimeout host.deadline with
  | true =>
      refine ⟨rfl, forall_congr' fun id => ⟨fun hkept hconfirms => ?_, fun hnone hconfirms => ?_⟩⟩
      · exact List.not_mem_nil (hkept hconfirms)
      · exact absurd hconfirms hnone
  | false => exact ⟨rfl, Iff.rfl⟩

end Outcomes

/-- How `_reconcile` ends: before its first command, with all its evidence, or early. -/
theorem reconcileJobs_ends :
    match reconcileJobs decoder host ⟨.initial host.owner, []⟩ with
    | .ok _ world => world.history = [] ∨
        host.cleanup = none ∧ Evidenced decoder host.owner world
    | .error _ world => world.history = [] ∨ host.cleanup ≠ none ∨
        ∃ exchange ∈ world.history, escapes decoder host.owner exchange = true := by
  cases hdocker : host.docker with
  | false =>
      simp only [reconcileJobs, hdocker, Bool.false_eq_true, if_false]
      exact Or.inl rfl
  | true =>
      cases hdirectory : host.directory with
      | some raised =>
          simp only [reconcileJobs, hdocker, hdirectory, if_true]
          exact Or.inl trivial
      | none =>
          cases hcleanup : host.cleanup with
          | some raised =>
              simp only [reconcileJobs, hdocker, hdirectory, hcleanup, if_true]
              exact Or.inr (Or.inl nofun)
          | none =>
              simp only [reconcileJobs, hdocker, hdirectory, hcleanup, if_true]
              cases hresult : handled decoder host ⟨.initial host.owner, []⟩ with
              | ok value world =>
                  exact Or.inr ⟨trivial, (handled_evidenced (evidenced_start decoder _)).1 hresult⟩
              | error error world =>
                  exact Or.inr (Or.inr ((handled_evidenced (evidenced_start decoder _)).2 error hresult))

/-- A recovery keeps its evidence exactly when it confirmed no removal, or no reply ended
it early and its directory could be removed. -/
theorem evidence_kept_iff : EvidenceKept decoder host ↔
    (∀ id, ¬Confirms (reconcile decoder host).2 id) ∨
      (host.cleanup = none ∧ ∀ exchange ∈ (reconcile decoder host).2,
        escapes decoder host.owner exchange = false) := by
  have hends := reconcileJobs_ends decoder host
  cases hresult : reconcileJobs decoder host ⟨.initial host.owner, []⟩ with
  | ok value world =>
      rw [hresult] at hends
      obtain ⟨hhistory, hkept⟩ := kept_of_ok hresult
      rw [hkept, hhistory]
      rcases hends with hempty | ⟨hcleanup, hevidenced⟩
      · rw [hempty]
        exact iff_of_true (fun id hconfirms => absurd hconfirms (confirms_nil id))
          (Or.inl confirms_nil)
      · exact iff_of_true (fun id => (hevidenced.removed id).mp)
          (Or.inr ⟨hcleanup, hevidenced.calm⟩)
  | error error world =>
      rw [hresult] at hends
      obtain ⟨hhistory, hkept⟩ := kept_of_error hresult
      rw [hkept, hhistory]
      refine ⟨Or.inl, ?_⟩
      rintro (hnone | ⟨hcleanup, hcalm⟩)
      · exact hnone
      · rcases hends with hempty | hfailed | ⟨exchange, hmem, hescapes⟩
        · rw [hempty]
          exact confirms_nil
        · exact absurd hcleanup hfailed
        · rw [hcalm exchange hmem] at hescapes
          cases hescapes

/-- Two containers of one owner. -/
def firstContainer : ContainerId := String.ofList (List.replicate 64 'a')
def secondContainer : ContainerId := String.ofList (List.replicate 64 'b')

/-- A decoder that finds both containers, and the first one orphaned. -/
def sampleRecoveryDecoder : Decoder where
  decode _ := .ok (firstContainer ++ "\n" ++ secondContainer)
  replace _ := ""
  loads _ :=
    let name := "aidlc-sandbox-" ++ String.ofList (List.replicate 32 '0')
    .ok (.arr [.obj [("Id", .str firstContainer), ("Name", .str ("/" ++ name)),
      ("Config", .obj [("Labels", .obj [("aidlc.sandbox", .str "true"),
        ("aidlc.owner", .str "owner"), ("aidlc.job", .str name)])])]])
  loadsText _ := .ok .null

/-- A daemon that removes the first container; the deadline passes at the second one. -/
def sampleRecoveryHost : RecoveryHost where
  owner := "owner"
  docker := true
  respond _ request :=
    if request = .inspect secondContainer then .raised .cancelled else .exited 0 [] []
  lease _ _ := .taken
  deadline := true
  directory := none
  cleanup := none

/-- The removal of the first container is not in the report of the deadline. -/
theorem removal_omitted : ¬EvidenceKept sampleRecoveryDecoder sampleRecoveryHost := by
  have hresult : reconcile sampleRecoveryDecoder sampleRecoveryHost =
      (.ok (deadlineReport "owner"),
        [(.list, .exited 0 [] []), (.inspect firstContainer, .exited 0 [] []),
          (.remove firstContainer, .exited 0 [] []), (.check firstContainer, .exited 0 [] []),
          (.inspect secondContainer, .raised .cancelled)]) := by
    decide +kernel
  unfold EvidenceKept
  rw [hresult]
  intro hkept
  exact List.not_mem_nil (hkept firstContainer ⟨[(.list, .exited 0 [] []),
    (.inspect firstContainer, .exited 0 [] [])], [(.inspect secondContainer, .raised .cancelled)],
    0, [], [], [], [], rfl, rfl⟩)

end Removals

end Aidlc
