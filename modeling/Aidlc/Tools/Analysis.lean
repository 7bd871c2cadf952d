import Mathlib.Data.Finset.Card
import Aidlc.Foundation.Transition
import Aidlc.Storage.Database
import Aidlc.Tools.Auth

/-! # The analysis service

Calls of `analyze` share a semaphore and a table of reports. A call suspends
while it waits for a slot and while the analyzer works; what it does between
these points is one step. The stores belong to other processes, so each call
sees them in a state of its own, and any access to them may be refused.
-/

namespace Aidlc

open Foundation

/-- The content file below its resolved path. -/
structure FileStat where
  inside : Bool
  size : Nat
  deriving DecidableEq

/-- What a call reads from the stores. -/
structure StoreView where
  database : Database
  stat : Location → Option FileStat
  files : FileStore

/-- The exceptions that the accesses of a step raise: looking up the artifact, parsing its
content, saving the report, listing the delegated tasks, and writing the two records. -/
structure Refusals where
  getArtifact : Option PyError := none
  parse : Option PyError := none
  save : Option PyError := none
  listDelegatedTasks : Option PyError := none
  audit : Option PyError := none
  appendEvent : Option PyError := none

structure AnalysisSettings where
  analysisMaxParallelJobs : Nat
  analysisTimeoutSeconds : Nat
  analysisMaxOutputBytes : Nat
  deriving DecidableEq

structure ResultRow where
  analysisId : String
  owner : String
  report : AnalysisReport
  deriving DecidableEq

/-- A call that passed the checks on arrival. -/
structure AnalysisWork where
  token : AccessToken
  request : AnalysisRequest
  record : ArtifactRecord
  job : AnalysisJob
  deriving DecidableEq

/-- The coroutine of a call: waiting for a slot, waiting for the analyzer, or done. -/
inductive AnalysisCall where
  | idle
  | queued (work : AnalysisWork)
  | running (work : AnalysisWork)
  | ended (outcome : Except PyError AnalysisReport)

abbrev CallId := Nat

structure AnalysisService where
  calls : CallId → AnalysisCall
  slots : Nat
  results : List ResultRow
  audit : List Json
  events : List (RunId × Json)

def toolError {α : Type} (message : String) : Except PyError α := .error ⟨.toolError, message⟩

namespace AnalysisService

def start (settings : AnalysisSettings) : AnalysisService :=
  ⟨fun _ => .idle, settings.analysisMaxParallelJobs, [], [], []⟩

def setCall (service : AnalysisService) (id : CallId) (call : AnalysisCall) : AnalysisService :=
  { service with calls := fun other => if other = id then call else service.calls other }

def auditEvent (service : AnalysisService) (payload : List (String × Json)) : AnalysisService :=
  { service with audit := service.audit ++ [.obj payload] }

/-- Write a record and end the call, with what the record was refused with if it was. -/
def conclude (service : AnalysisService) (id : CallId) (refused : Option PyError)
    (payload : List (String × Json)) (outcome : Except PyError AnalysisReport) :
    AnalysisService :=
  match refused with
  | some error => service.setCall id (.ended (.error error))
  | none => (service.auditEvent payload).setCall id (.ended outcome)

/-- Leave the body of `async with self._slots`. -/
def release (service : AnalysisService) : AnalysisService :=
  { service with slots := service.slots + 1 }

end AnalysisService

variable (platform : Platform) (settings : AnalysisSettings)

/-- An access that may be refused. -/
def granted : Option PyError → Except PyError Unit
  | none => .ok ()
  | some error => .error error

/-- `except ValueError, OSError, ValidationError`, with the timeouts of the operating system -/
def invalidSourceErrors : List ErrorType := [.valueError, .osError, .validationError, .timeoutError]

/-- The source an analysis is bound to. -/
def readSource (view : StoreView) (refusals : Refusals) (request : AnalysisRequest) :
    Except PyError (ArtifactRecord × SourceBundle) := do
  granted refusals.getArtifact
  match view.database.getArtifact request.artifactId with
  | none => .error ⟨.valueError, ""⟩
  | some record =>
    if record.metadata.kind ∉ [.codeChange, .integratedSource] then .error ⟨.valueError, ""⟩
    else if record.metadata.contentSha256 ≠ request.contentSha256 then .error ⟨.valueError, ""⟩
    else
      match view.stat record.contentPath with
      | none => .error ⟨.osError, "No such file or directory"⟩
      | some stat =>
        if !stat.inside || stat.size > 1048576 then .error ⟨.valueError, ""⟩
        else do
          granted refusals.parse
          let content ← view.files.readContent platform record
          let source ← SourceBundle.validate content
          return (record, source)

def jobFor (request : AnalysisRequest) (source : SourceBundle) : AnalysisJob where
  source := source
  timeoutSeconds := min request.timeoutSeconds settings.analysisTimeoutSeconds
  maxOutputBytes := settings.analysisMaxOutputBytes

def reportFor (work : AnalysisWork) (result : AnalyzerResult) (uuid : Uuid) : AnalysisReport where
  toAnalyzerResult := result
  analysisId := "an_" ++ uuid.hex
  artifactId := work.request.artifactId
  contentSha256 := work.request.contentSha256
  runId := work.record.metadata.workflowRunId
  resultUri := "analysis://reports/an_" ++ uuid.hex
  summary :=
    { errors := result.findings.countP fun finding => finding.severity == .error
      warnings := result.findings.countP fun finding => finding.severity == .warning }

/-- The audit payload of a call that reads no report. -/
def callEvent (outcome : String) (token : AccessToken) (artifactId : ArtifactId) :
    List (String × Json) :=
  [("decision", .str "allowed"), ("outcome", .str outcome), ("client_id", .str token.clientId),
    ("subject", Json.ofOption .str token.subject), ("artifact_id", idJson artifactId)]

/-- The event of `_audit`. -/
def reportEvent (database : Database) (token : AccessToken) (report : AnalysisReport) : Json :=
  let mapping := (database.listDelegatedTasks report.runId).find? fun task =>
    task.agent == "static-analysis-agent"
  .obj [("decision", .str "allowed"), ("outcome", .str report.status.value),
    ("client_id", .str token.clientId), ("subject", Json.ofOption .str token.subject),
    ("tool", .str "analyze_code"), ("run_id", .str report.runId),
    ("artifact_id", idJson report.artifactId), ("content_sha256", .str report.contentSha256),
    ("analysis_id", .str report.analysisId), ("runtime", .str report.execution.runtime),
    ("image", Json.ofOption .str report.execution.image),
    ("isolation", .str report.execution.isolation),
    ("exit_code", Json.ofOption .int report.execution.exitCode),
    ("oom_killed", .bool report.execution.oomKilled),
    ("cleanup_succeeded", .bool report.execution.cleanupSucceeded),
    ("duration_ms", .int report.execution.durationMs),
    ("a2a_task_id", Json.ofOption idJson (mapping.bind DelegatedTask.taskId)),
    ("a2a_context_id", Json.ofOption .str (mapping.map DelegatedTask.contextId))]

/-- `ToolRepository.save` -/
def saveResult (results : List ResultRow) (owner : String) (report : AnalysisReport) :
    Except PyError (List ResultRow) :=
  if results.any fun row => row.analysisId == report.analysisId then
    integrityError "UNIQUE constraint failed: analysis_results.analysis_id"
  else .ok (results ++ [⟨report.analysisId, owner, report⟩])

/-- `ToolRepository.read` -/
def readResult (results : List ResultRow) (owner analysisId : String) : Option AnalysisReport :=
  (results.find? fun row => row.analysisId == analysisId && row.owner == owner).map
    ResultRow.report

/-- `REPORT_ID.fullmatch` -/
def isReportId (analysisId : String) : Bool :=
  match analysisId.toList with
  | 'a' :: 'n' :: '_' :: digits =>
    digits.length == 32 && digits.all hexDigit
  | _ => false

/-- The report a caller with this token may see. -/
def ownReport (service : AnalysisService) (token : AccessToken) (analysisId : String) :
    Option AnalysisReport :=
  if isReportId analysisId then readResult service.results (principal token) analysisId else none

namespace AnalysisService

variable {platform settings}

/-- `AnalysisService.read` as its caller sees it -/
def read (service : AnalysisService) (analysisId : String) (token : Option AccessToken)
    (now : Rat) : Except PyError AnalysisReport :=
  match token with
  | some caller =>
    if permitted now token "analysis:read" then
      match ownReport service caller analysisId with
      | some report => .ok report
      | none => toolError "Analysis result not found for this caller"
    else toolError "analysis:read is required"
  | none => toolError "analysis:read is required"

/-- What a call of `read` leaves behind. -/
def auditRead (service : AnalysisService) (analysisId : String) (token : Option AccessToken)
    (now : Rat) : AnalysisService :=
  match token with
  | some caller =>
    if permitted now token "analysis:read" then
      let found := (ownReport service caller analysisId).isSome
      service.auditEvent
        [("decision", .str (if found then "allowed" else "denied")),
          ("outcome", .str (if found then "read" else "not_found")),
          ("client_id", .str caller.clientId), ("subject", Json.ofOption .str caller.subject),
          ("analysis_id", if isReportId analysisId then .str analysisId else .null)]
    else service
  | none => service

end AnalysisService

/-- `analyze` up to the semaphore. -/
def arrive (service : AnalysisService) (id : CallId) (request : AnalysisRequest)
    (token : Option AccessToken) (now : Rat) (view : StoreView) (refusals : Refusals) :
    AnalysisService :=
  match token with
  | some caller =>
    if permitted now token "analysis:run" then
      match readSource platform view refusals request with
      | .ok (record, source) =>
        service.setCall id (.queued ⟨caller, request, record, jobFor settings request source⟩)
      | .error error =>
        if error.type ∈ invalidSourceErrors then
          service.conclude id refusals.audit
            (callEvent "invalid_source_artifact" caller request.artifactId ++
              [("content_sha256", .str request.contentSha256)])
            (toolError "Expected an intact code_change source bundle with the supplied hash")
        else service.setCall id (.ended (.error error))
    else service.setCall id (.ended (toolError "analysis:run is required for this client"))
  | none => service.setCall id (.ended (toolError "analysis:run is required for this client"))

/-- A free slot lets a queued call on, which starts the analyzer or gives the slot back. -/
def acquire (service : AnalysisService) (id : CallId) (work : AnalysisWork) (now : Rat) :
    AnalysisService :=
  if permitted now (some work.token) "analysis:run" then
    { service.setCall id (.running work) with slots := service.slots - 1 }
  else service.setCall id (.ended (toolError "Access token expired while waiting for analysis"))

/-- `_audit` of a saved report, and what the call returns. -/
def recordReport (service : AnalysisService) (id : CallId) (token : AccessToken)
    (report : AnalysisReport) (refusals : Refusals) (database : Database) : AnalysisService :=
  match refusals.listDelegatedTasks, refusals.audit with
  | some error, _ | none, some error => service.setCall id (.ended (.error error))
  | none, none =>
    let event := reportEvent database token report
    let audited := { service with audit := service.audit ++ [event] }
    match refusals.appendEvent with
    | some error => audited.setCall id (.ended (.error error))
    | none =>
      if database.hasRun report.runId then
        { audited with events := service.events ++ [(report.runId, event)] }.setCall id
          (.ended (.ok report))
      else audited.setCall id (.ended (integrityError "FOREIGN KEY constraint failed"))

/-- The analyzer returned: the report is saved and recorded. -/
def complete (service : AnalysisService) (id : CallId) (work : AnalysisWork)
    (result : AnalyzerResult) (uuid : Uuid) (refusals : Refusals) (database : Database) :
    AnalysisService :=
  match refusals.save with
  | some error => service.release.setCall id (.ended (.error error))
  | none =>
    match saveResult service.results (principal work.token) (reportFor work result uuid) with
    | .error error => service.release.setCall id (.ended (.error error))
    | .ok results =>
      recordReport { service.release with results } id work.token (reportFor work result uuid)
        refusals database

/-- The analyzer raised, or the call was canceled while it worked. -/
def abandon (service : AnalysisService) (id : CallId) (work : AnalysisWork) (outcome : String)
    (error : PyError) (refusals : Refusals) : AnalysisService :=
  service.release.conclude id refusals.audit (callEvent outcome work.token work.request.artifactId)
    (.error error)

/-- What happens next at the service. -/
inductive AnalysisLabel where
  | arrive (id : CallId) (request : AnalysisRequest) (token : Option AccessToken) (now : Rat)
      (view : StoreView) (refusals : Refusals)
  | acquire (id : CallId) (now : Rat)
  | complete (id : CallId) (result : AnalyzerResult) (uuid : Uuid) (refusals : Refusals)
      (database : Database)
  | fail (id : CallId) (refusals : Refusals)
  | cancel (id : CallId) (refusals : Refusals)
  | read (analysisId : String) (token : Option AccessToken) (now : Rat)

def analysis : System AnalysisService AnalysisLabel where
  step service
    | .arrive id request token now view refusals =>
      match service.calls id with
      | .idle => some (arrive platform settings service id request token now view refusals)
      | _ => none
    | .acquire id now =>
      match service.calls id with
      | .queued work => if 0 < service.slots then some (acquire service id work now) else none
      | _ => none
    | .complete id result uuid refusals database =>
      match service.calls id with
      | .running work => some (complete service id work result uuid refusals database)
      | _ => none
    | .fail id refusals =>
      match service.calls id with
      | .running work =>
        some (abandon service id work "analyzer_failed"
          ⟨.toolError, "The configured analyzer failed"⟩ refusals)
      | _ => none
    | .cancel id refusals =>
      match service.calls id with
      | .queued _ => some (service.setCall id (.ended (.error ⟨.cancelledError, ""⟩)))
      | .running work => some (abandon service id work "canceled" ⟨.cancelledError, ""⟩ refusals)
      | _ => none
    | .read analysisId token now => some (service.auditRead analysisId token now)

section Progress

variable {platform : Platform} {settings : AnalysisSettings} {service next : AnalysisService}

def AnalysisCall.isRunning : AnalysisCall → Bool
  | .running _ => true
  | _ => false

/-- One call moves on, and slots only change hands. -/
structure Moves (service next : AnalysisService) (id : CallId) (call : AnalysisCall) : Prop where
  calls : next.calls = (service.setCall id call).calls
  slots : next.slots + call.isRunning.toNat = service.slots + (service.calls id).isRunning.toNat

theorem Moves.self {id : CallId} {call : AnalysisCall} (hmoves : Moves service next id call) :
    next.calls id = call := by
  rw [hmoves.calls]
  exact if_pos rfl

theorem Moves.other {id other : CallId} {call : AnalysisCall} (hmoves : Moves service next id call)
    (hne : other ≠ id) : next.calls other = service.calls other := by
  rw [hmoves.calls]
  exact if_neg hne

/-- What a step can do. Every call that does not go on has ended. -/
inductive AnalysisProgress (platform : Platform) (settings : AnalysisSettings)
    (service next : AnalysisService) : AnalysisLabel → Prop
  | queued {id request caller now view refusals record source}
      (hpermitted : permitted now (some caller) "analysis:run" = true)
      (hread : readSource platform view refusals request = .ok (record, source))
      (hmoves : Moves service next id
        (.queued ⟨caller, request, record, jobFor settings request source⟩))
      (hresults : next.results = service.results) :
      AnalysisProgress platform settings service next
        (.arrive id request (some caller) now view refusals)
  | started {id now work} (hqueued : service.calls id = .queued work)
      (hpermitted : permitted now (some work.token) "analysis:run" = true)
      (hmoves : Moves service next id (.running work)) (hresults : next.results = service.results) :
      AnalysisProgress platform settings service next (.acquire id now)
  | saved {id result uuid refusals database work outcome}
      (hrunning : service.calls id = .running work) (hgranted : refusals.save = none)
      (hsave : saveResult service.results (principal work.token) (reportFor work result uuid) =
        .ok next.results)
      (hmoves : Moves service next id (.ended outcome)) :
      AnalysisProgress platform settings service next (.complete id result uuid refusals database)
  | ended {label} (id : CallId) (outcome : Except PyError AnalysisReport)
      (hmoves : Moves service next id (.ended outcome)) (hresults : next.results = service.results) :
      AnalysisProgress platform settings service next label
  | read {analysisId token now} (hcalls : next.calls = service.calls)
      (hslots : next.slots = service.slots) (hresults : next.results = service.results) :
      AnalysisProgress platform settings service next (.read analysisId token now)

/-- A call ends the same way at every service, and touches no slot and no result. -/
structure Ends (service next : AnalysisService) (id : CallId)
    (outcome : Except PyError AnalysisReport) : Prop where
  calls : next.calls = (service.setCall id (.ended outcome)).calls
  slots : next.slots = service.slots
  results : next.results = service.results

/-- A call that concludes with an error ends with one. -/
theorem conclude_ends (id : CallId) (refused : Option PyError) (payload : List (String × Json))
    (error : PyError) : ∃ raised, ∀ service : AnalysisService,
      Ends service (service.conclude id refused payload (.error error)) id (.error raised) := by
  cases refused with
  | none => exact ⟨error, fun _ => ⟨rfl, rfl, rfl⟩⟩
  | some other => exact ⟨other, fun _ => ⟨rfl, rfl, rfl⟩⟩

variable (platform settings) in
/-- The call after its arrival does not depend on the service. -/
theorem arrive_moves (id : CallId) (request : AnalysisRequest) (token : Option AccessToken)
    (now : Rat) (view : StoreView) (refusals : Refusals) :
    ∃ call : AnalysisCall,
      ((∃ caller record source, token = some caller ∧
          permitted now token "analysis:run" = true ∧
          readSource platform view refusals request = .ok (record, source) ∧
          call = .queued ⟨caller, request, record, jobFor settings request source⟩) ∨
        ∃ error, call = .ended (.error error)) ∧
      ∀ service : AnalysisService,
        (arrive platform settings service id request token now view refusals).calls =
            (service.setCall id call).calls ∧
          (arrive platform settings service id request token now view refusals).slots =
            service.slots ∧
          (arrive platform settings service id request token now view refusals).results =
            service.results := by
  unfold arrive
  cases token with
  | none => exact ⟨_, Or.inr ⟨_, rfl⟩, fun _ => ⟨rfl, rfl, rfl⟩⟩
  | some caller =>
      simp only
      split
      · cases hread : readSource platform view refusals request with
        | ok found =>
            obtain ⟨record, source⟩ := found
            exact ⟨_, Or.inl ⟨caller, record, source, rfl, ‹_›, rfl, rfl⟩,
              fun _ => ⟨rfl, rfl, rfl⟩⟩
        | error error =>
            simp only
            split
            · obtain ⟨raised, hends⟩ := conclude_ends id refusals.audit
                (callEvent "invalid_source_artifact" caller request.artifactId ++
                  [("content_sha256", .str request.contentSha256)])
                ⟨.toolError, "Expected an intact code_change source bundle with the supplied hash"⟩
              exact ⟨_, Or.inr ⟨raised, rfl⟩, fun service =>
                ⟨(hends service).calls, (hends service).slots, (hends service).results⟩⟩
            · exact ⟨_, Or.inr ⟨_, rfl⟩, fun _ => ⟨rfl, rfl, rfl⟩⟩
      · exact ⟨_, Or.inr ⟨_, rfl⟩, fun _ => ⟨rfl, rfl, rfl⟩⟩

/-- A call that held a slot ends. -/
theorem moves_released {final : AnalysisService} {id : CallId} {work : AnalysisWork}
    (hrunning : service.calls id = .running work) (outcome : Except PyError AnalysisReport)
    (hcalls : final.calls = (service.setCall id (.ended outcome)).calls)
    (hslots : final.slots = service.slots + 1) : Moves service final id (.ended outcome) := by
  refine ⟨hcalls, ?_⟩
  rw [hrunning, hslots]
  rfl

/-- A call that is abandoned gives its slot back, whatever becomes of its record. -/
theorem abandon_moves (id : CallId) (work : AnalysisWork) (outcome : String) (error : PyError)
    (refusals : Refusals) : ∃ raised, ∀ service : AnalysisService,
      service.calls id = .running work →
        Moves service (abandon service id work outcome error refusals) id (.ended (.error raised)) ∧
          (abandon service id work outcome error refusals).results = service.results := by
  obtain ⟨raised, hends⟩ := conclude_ends id refusals.audit
    (callEvent outcome work.token work.request.artifactId) error
  refine ⟨raised, fun service hrunning => ⟨?_, (hends service.release).results⟩⟩
  exact moves_released hrunning _ (hends service.release).calls (hends service.release).slots

/-- Recording a report ends the call and touches no slot and no result. -/
theorem recordReport_ends (id : CallId) (token : AccessToken) (report : AnalysisReport)
    (refusals : Refusals) (database : Database) :
    ∃ outcome, ∀ service : AnalysisService,
      Ends service (recordReport service id token report refusals database) id outcome := by
  unfold recordReport
  split
  · exact ⟨_, fun _ => ⟨rfl, rfl, rfl⟩⟩
  · exact ⟨_, fun _ => ⟨rfl, rfl, rfl⟩⟩
  · cases refusals.appendEvent with
    | some error => exact ⟨_, fun _ => ⟨rfl, rfl, rfl⟩⟩
    | none =>
        dsimp only
        split
        · exact ⟨_, fun _ => ⟨rfl, rfl, rfl⟩⟩
        · exact ⟨_, fun _ => ⟨rfl, rfl, rfl⟩⟩

/-- A running call ends when its analyzer does. -/
theorem complete_progress {id : CallId} {work : AnalysisWork}
    (hrunning : service.calls id = .running work) (result : AnalyzerResult) (uuid : Uuid)
    (refusals : Refusals) (database : Database) :
    AnalysisProgress platform settings service
      (complete service id work result uuid refusals database)
      (.complete id result uuid refusals database) := by
  unfold complete
  cases hrefused : refusals.save with
  | some error => exact .ended id (.error error) (moves_released hrunning _ rfl rfl) rfl
  | none =>
      cases hsave : saveResult service.results (principal work.token)
          (reportFor work result uuid) with
      | error error => exact .ended id (.error error) (moves_released hrunning _ rfl rfl) rfl
      | ok results =>
          obtain ⟨outcome, hends⟩ :=
            recordReport_ends id work.token (reportFor work result uuid) refusals database
          have hended := hends { service.release with results }
          refine .saved hrunning hrefused ?_
            (moves_released hrunning outcome hended.calls hended.slots)
          exact hsave.trans (congrArg _ hended.results.symm)

/-- Every step moves one call forward, or reads. -/
theorem progress_of_step {label : AnalysisLabel}
    (hstep : (analysis platform settings).step service label = some next) :
    AnalysisProgress platform settings service next label := by
  cases label with
  | arrive id request token now view refusals =>
      cases hcall : service.calls id with
      | idle =>
          simp only [analysis, hcall, Option.some.injEq] at hstep
          subst hstep
          obtain ⟨call, hkind, hstays⟩ :=
            arrive_moves platform settings id request token now view refusals
          obtain ⟨hcalls, hslots, hresults⟩ := hstays service
          rcases hkind with ⟨caller, record, source, rfl, hpermitted, hread, rfl⟩ | ⟨error, rfl⟩
          · refine .queued hpermitted hread ⟨hcalls, ?_⟩ hresults
            rw [hcall, hslots]
            rfl
          · refine .ended id (.error error) ⟨hcalls, ?_⟩ hresults
            rw [hcall, hslots]
            rfl
      | queued work | running work | ended outcome => simp [analysis, hcall] at hstep
  | acquire id now =>
      cases hcall : service.calls id with
      | queued work =>
          simp only [analysis, hcall, Option.ite_none_right_eq_some, Option.some.injEq] at hstep
          obtain ⟨hfree, rfl⟩ := hstep
          unfold acquire
          split
          · refine .started hcall ‹_› ⟨rfl, ?_⟩ rfl
            rw [hcall]
            exact Nat.sub_add_cancel hfree
          · refine .ended id _ ⟨rfl, ?_⟩ rfl
            rw [hcall]
            rfl
      | idle | running work | ended outcome => simp [analysis, hcall] at hstep
  | complete id result uuid refusals database =>
      cases hcall : service.calls id with
      | running work =>
          simp only [analysis, hcall, Option.some.injEq] at hstep
          subst hstep
          exact complete_progress hcall result uuid refusals database
      | idle | queued work | ended outcome => simp [analysis, hcall] at hstep
  | fail id refusals =>
      cases hcall : service.calls id with
      | running work =>
          simp only [analysis, hcall, Option.some.injEq] at hstep
          subst hstep
          obtain ⟨raised, habandon⟩ := abandon_moves id work _ _ refusals
          obtain ⟨hmoves, hresults⟩ := habandon service hcall
          exact .ended id (.error raised) hmoves hresults
      | idle | queued work | ended outcome => simp [analysis, hcall] at hstep
  | cancel id refusals =>
      cases hcall : service.calls id with
      | queued work =>
          simp only [analysis, hcall, Option.some.injEq] at hstep
          subst hstep
          refine .ended id _ ⟨rfl, ?_⟩ rfl
          rw [hcall]
          rfl
      | running work =>
          simp only [analysis, hcall, Option.some.injEq] at hstep
          subst hstep
          obtain ⟨raised, habandon⟩ := abandon_moves id work _ _ refusals
          obtain ⟨hmoves, hresults⟩ := habandon service hcall
          exact .ended id (.error raised) hmoves hresults
      | idle | ended outcome => simp [analysis, hcall] at hstep
  | read analysisId token now =>
      simp only [analysis, Option.some.injEq] at hstep
      subst hstep
      unfold AnalysisService.auditRead
      cases token with
      | none => exact .read rfl rfl rfl
      | some caller =>
          simp only
          split
          · exact .read rfl rfl rfl
          · exact .read rfl rfl rfl

end Progress

end Aidlc
