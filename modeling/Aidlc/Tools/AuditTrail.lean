import Aidlc.Tools.Isolation

/-! # The audit trail of analyses

Beside the service stands a trail: which calls were admitted, what the steps of each
call appended to the audit, and whether one of them was a way out that writes nothing.
A call that was admitted leaves a record of its outcome exactly when none was.
-/

namespace Aidlc

open Foundation

variable (platform : Platform) (settings : AnalysisSettings)

/-- The record describes how an analysis that was asked for ended. -/
inductive Documents (token : AccessToken) (request : AnalysisRequest) :
    Except PyError AnalysisReport → Json → Prop
  | invalidSource : Documents token request
      (toolError "Expected an intact code_change source bundle with the supplied hash")
      (.obj (callEvent "invalid_source_artifact" token request.artifactId ++
        [("content_sha256", .str request.contentSha256)]))
  | canceled : Documents token request (.error ⟨.cancelledError, ""⟩)
      (.obj (callEvent "canceled" token request.artifactId))
  | failed : Documents token request (.error ⟨.toolError, "The configured analyzer failed"⟩)
      (.obj (callEvent "analyzer_failed" token request.artifactId))
  | reported (report : AnalysisReport) (database : Database)
      (hartifact : report.artifactId = request.artifactId)
      (hhash : report.contentSha256 = request.contentSha256) :
      Documents token request (.ok report) (reportEvent database token report)
  | unlisted (report : AnalysisReport) (database : Database) (error : PyError)
      (hartifact : report.artifactId = request.artifactId)
      (hhash : report.contentSha256 = request.contentSha256) :
      Documents token request (.error error) (reportEvent database token report)

namespace AnalysisLabel

/-- The call a step belongs to. -/
def call : AnalysisLabel → Option CallId
  | .arrive id _ _ _ _ _ | .acquire id _ | .complete id _ _ _ _ | .fail id _ | .cancel id _ =>
    some id
  | .read _ _ _ => none

/-- A call that passes the first check. -/
def admission : AnalysisLabel → Option (CallId × AccessToken × AnalysisRequest)
  | .arrive id request (some token) now _ _ =>
    if permitted now (some token) "analysis:run" then some (id, token, request) else none
  | _ => none

/-- A way out that writes no record: a store raises what is not taken for an invalid
source, the token of a call that waited has expired, a call is canceled while it waits,
its report cannot be saved or its task not be looked up, or the record is refused. -/
def isSilent (service : AnalysisService) : AnalysisLabel → Bool
  | .arrive _ request _ _ view refusals =>
    match readSource platform view refusals request with
    | .ok _ => false
    | .error error => !(error.type ∈ invalidSourceErrors) || refusals.audit.isSome
  | .acquire id now =>
    match service.calls id with
    | .queued work => !permitted now (some work.token) "analysis:run"
    | _ => false
  | .cancel id refusals =>
    match service.calls id with
    | .queued _ => true
    | _ => refusals.audit.isSome
  | .fail _ refusals => refusals.audit.isSome
  | .complete _ _ uuid refusals _ =>
    refusals.save.isSome || (service.results.any fun row => row.analysisId == "an_" ++ uuid.hex) ||
      refusals.listDelegatedTasks.isSome || refusals.audit.isSome
  | .read _ _ _ => false

end AnalysisLabel

/-- The service, and what is known of each call. -/
structure AuditTrail where
  service : AnalysisService
  admitted : CallId → Option (AccessToken × AnalysisRequest)
  records : CallId → List Json
  silent : CallId → Bool

def AuditTrail.start : AuditTrail :=
  ⟨.start settings, fun _ => none, fun _ => [], fun _ => false⟩

/-- The trail after a step of the service. -/
def AuditTrail.follow (trail : AuditTrail) (label : AnalysisLabel) (next : AnalysisService) :
    AuditTrail where
  service := next
  admitted id :=
    match label.admission with
    | some (caller, found) => if caller = id then some found else trail.admitted id
    | none => trail.admitted id
  records id :=
    if label.call = some id then trail.records id ++ next.audit.drop trail.service.audit.length
    else trail.records id
  silent id :=
    if label.call = some id then trail.silent id || label.isSilent platform trail.service
    else trail.silent id

def auditTrail : System AuditTrail AnalysisLabel where
  step trail label :=
    ((analysis platform settings).step trail.service label).map (trail.follow platform label)

/-! ## What a step writes -/

section Writing

variable {platform settings} {service next : AnalysisService}

/-- What fails, fails in a way that is taken for an invalid source. -/
def Recordable {α : Type} (result : Except PyError α) : Prop :=
  ∀ error, result = .error error → error.type ∈ invalidSourceErrors

namespace Recordable

variable {α β : Type}

theorem ok (value : α) : Recordable (.ok value : Except PyError α) := nofun

theorem invalid (message : String) : Recordable (validationError message : Except PyError α) := by
  intro error herror
  cases herror
  exact .tail _ (.tail _ (.head _))

/-- Steps that raise recordable errors only may be sequenced. -/
theorem bind {result : Except PyError α} {rest : α → Except PyError β}
    (hresult : Recordable result) (hrest : ∀ value, Recordable (rest value)) :
    Recordable (result >>= rest) := by
  intro error herror
  cases result with
  | error first =>
      cases herror
      exact hresult _ rfl
  | ok value => exact hrest value error herror

theorem mapM {items : List α} {read : α → Except PyError β}
    (hread : ∀ item, Recordable (read item)) : Recordable (items.mapM read) := by
  induction items with
  | nil => exact ok []
  | cons item rest ih =>
      rw [List.mapM_cons]
      exact (hread item).bind fun _ => ih.bind fun _ => ok _

theorem forbidExtra (value : Json) (keys : List String) :
    Recordable (Aidlc.forbidExtra value keys) := by
  unfold Aidlc.forbidExtra
  split
  · split
    · exact ok ()
    · exact invalid _
  · exact invalid _

theorem requiredStr (value : Json) (key : String) : Recordable (Aidlc.requiredStr value key) := by
  unfold Aidlc.requiredStr
  split
  · exact ok _
  · exact invalid _
  · exact invalid _

theorem sourceFile (value : Json) : Recordable (SourceFile.validate value) := by
  unfold SourceFile.validate
  refine (forbidExtra value _).bind fun _ => (requiredStr value _).bind fun path =>
    (requiredStr value _).bind fun content => ?_
  split
  · split
    · split
      · exact ok _
      · exact invalid _
    · exact invalid _
  · exact invalid _

theorem sourceBundle (value : Json) : Recordable (SourceBundle.validate value) := by
  unfold SourceBundle.validate
  refine (forbidExtra value _).bind fun _ => ?_
  split
  · refine (mapM sourceFile).bind fun files => ?_
    split
    · split
      · split
        · exact ok _
        · exact invalid _
      · exact invalid _
    · exact invalid _
  · exact invalid _
  · exact invalid _

theorem readContent (files : FileStore) (record : ArtifactRecord) :
    Recordable (files.readContent platform record) := by
  unfold FileStore.readContent
  split
  · intro error herror
    cases herror
    exact .tail _ (.head _)
  · split
    · intro error herror
      cases herror
      exact .head _
    · split
      · intro error herror
        cases herror
        exact .head _
      · exact ok _

/-- What the stores refuse with is recordable wherever it is one of the handled errors. -/
theorem granted {refused : Option PyError}
    (hrefused : ∀ error ∈ refused, error.type ∈ invalidSourceErrors) :
    Recordable (Aidlc.granted refused) := by
  cases refused with
  | none => exact ok ()
  | some other =>
      intro error herror
      cases herror
      exact hrefused other rfl

/-- Reading a source fails otherwise only where the stores raise something else. -/
theorem readSource {refusals : Refusals} (view : StoreView) (request : AnalysisRequest)
    (hlookup : ∀ error ∈ refusals.getArtifact, error.type ∈ invalidSourceErrors)
    (hparse : ∀ error ∈ refusals.parse, error.type ∈ invalidSourceErrors) :
    Recordable (Aidlc.readSource platform view refusals request) := by
  have hvalue : Recordable (.error ⟨.valueError, ""⟩ :
      Except PyError (ArtifactRecord × SourceBundle)) := by
    intro error herror
    cases herror
    exact .head _
  unfold Aidlc.readSource
  refine (granted hlookup).bind fun _ => ?_
  split
  · exact hvalue
  · split
    · exact hvalue
    · split
      · exact hvalue
      · split
        · intro error herror
          cases herror
          exact .tail _ (.head _)
        · split
          · exact hvalue
          · exact (granted hparse).bind fun _ => (readContent _ _).bind fun content =>
              (sourceBundle content).bind fun _ => ok _

end Recordable

/-- An arrival is recorded unless the stores raise something else or refuse the record. -/
theorem isSilent_arrive {id : CallId} {request : AnalysisRequest} {token : Option AccessToken}
    {now : Rat} {view : StoreView} {refusals : Refusals}
    (hlookup : ∀ error ∈ refusals.getArtifact, error.type ∈ invalidSourceErrors)
    (hparse : ∀ error ∈ refusals.parse, error.type ∈ invalidSourceErrors)
    (haudit : refusals.audit = none) :
    (AnalysisLabel.arrive id request token now view refusals).isSilent platform service = false := by
  cases hread : readSource platform view refusals request with
  | ok found => simp only [AnalysisLabel.isSilent, hread]
  | error error =>
      have htype := Recordable.readSource view request hlookup hparse error hread
      simp [AnalysisLabel.isSilent, hread, htype, haudit]

/-- One call moves on, and the audit grows. -/
structure Writes (service next : AnalysisService) (id : CallId) (call : AnalysisCall)
    (records : List Json) : Prop where
  calls : next.calls = (service.setCall id call).calls
  audit : next.audit = service.audit ++ records

variable (platform) in
/-- What a step writes, and for which way out. -/
inductive Recording (service next : AnalysisService) : AnalysisLabel → Prop
  | refused {id request token now view refusals outcome}
      (hidle : service.calls id = .idle)
      (hrefused : permitted now token "analysis:run" = false)
      (hwrites : Writes service next id (.ended outcome) []) :
      Recording service next (.arrive id request token now view refusals)
  | escaped {id request caller now view refusals outcome} (hidle : service.calls id = .idle)
      (hpermitted : permitted now (some caller) "analysis:run" = true)
      (hsilent : (AnalysisLabel.arrive id request (some caller) now view refusals).isSilent
        platform service = true)
      (hwrites : Writes service next id (.ended outcome) []) :
      Recording service next (.arrive id request (some caller) now view refusals)
  | invalid {id request caller now view refusals outcome record}
      (hidle : service.calls id = .idle)
      (hpermitted : permitted now (some caller) "analysis:run" = true)
      (hloud : (AnalysisLabel.arrive id request (some caller) now view refusals).isSilent
        platform service = false)
      (hdescribes : Documents caller request outcome record)
      (hwrites : Writes service next id (.ended outcome) [record]) :
      Recording service next (.arrive id request (some caller) now view refusals)
  | queued {id request caller now view refusals work} (hidle : service.calls id = .idle)
      (hpermitted : permitted now (some caller) "analysis:run" = true)
      (hloud : (AnalysisLabel.arrive id request (some caller) now view refusals).isSilent
        platform service = false)
      (htoken : work.token = caller) (hrequest : work.request = request)
      (hwrites : Writes service next id (.queued work) []) :
      Recording service next (.arrive id request (some caller) now view refusals)
  | started {id now work} (hqueued : service.calls id = .queued work)
      (hloud : AnalysisLabel.isSilent platform service (.acquire id now) = false)
      (hwrites : Writes service next id (.running work) []) :
      Recording service next (.acquire id now)
  | silent {label id outcome} (hcall : label.call = some id) (hno : label.admission = none)
      (hsilent : label.isSilent platform service = true)
      (hadmitted : (∃ work, service.calls id = .queued work) ∨
        ∃ work, service.calls id = .running work)
      (hwrites : Writes service next id (.ended outcome) []) : Recording service next label
  | described {label id work outcome record} (hcall : label.call = some id)
      (hno : label.admission = none) (hloud : label.isSilent platform service = false)
      (hrunning : service.calls id = .running work)
      (hdescribes : Documents work.token work.request outcome record)
      (hwrites : Writes service next id (.ended outcome) [record]) : Recording service next label
  | read {analysisId token now} (hcalls : next.calls = service.calls) :
      Recording service next (.read analysisId token now)

/-- An arriving call is recorded unless it goes on. -/
theorem recording_arrive {id : CallId} {request : AnalysisRequest} {token : Option AccessToken}
    {now : Rat} {view : StoreView} {refusals : Refusals} (hidle : service.calls id = .idle) :
    Recording platform service (arrive platform settings service id request token now view refusals)
      (.arrive id request token now view refusals) := by
  unfold arrive
  cases token with
  | none => exact .refused hidle rfl ⟨rfl, (List.append_nil _).symm⟩
  | some caller =>
      cases hpermitted : permitted now (some caller) "analysis:run" with
      | false => exact .refused hidle hpermitted ⟨rfl, (List.append_nil _).symm⟩
      | true =>
          simp only [if_true]
          cases hread : readSource platform view refusals request with
          | ok found =>
              refine .queued hidle hpermitted ?_ rfl rfl ⟨rfl, (List.append_nil _).symm⟩
              simp only [AnalysisLabel.isSilent, hread]
          | error error =>
              dsimp only
              split
              next hcaught =>
                cases haudit : refusals.audit with
                | some other =>
                    refine .escaped hidle hpermitted ?_ ⟨rfl, (List.append_nil _).symm⟩
                    simp only [AnalysisLabel.isSilent, hread, haudit, Option.isSome_some,
                      Bool.or_true]
                | none =>
                    refine .invalid hidle hpermitted ?_ .invalidSource ⟨rfl, rfl⟩
                    simp [AnalysisLabel.isSilent, hread, haudit, hcaught]
              next hescapes =>
                refine .escaped hidle hpermitted ?_ ⟨rfl, (List.append_nil _).symm⟩
                simp [AnalysisLabel.isSilent, hread, hescapes]

theorem recording_acquire {id : CallId} {now : Rat} {work : AnalysisWork}
    (hqueued : service.calls id = .queued work) :
    Recording platform service (acquire service id work now) (.acquire id now) := by
  unfold acquire
  cases hpermitted : permitted now (some work.token) "analysis:run" with
  | true =>
      refine .started hqueued ?_ ⟨rfl, (List.append_nil _).symm⟩
      simp only [AnalysisLabel.isSilent, hqueued, hpermitted, Bool.not_true]
  | false =>
      refine .silent rfl rfl ?_ (Or.inl ⟨work, hqueued⟩) ⟨rfl, (List.append_nil _).symm⟩
      simp only [AnalysisLabel.isSilent, hqueued, hpermitted, Bool.not_false]

/-- A call that is abandoned leaves a record unless that is refused. -/
theorem recording_abandon {label : AnalysisLabel} {id : CallId} {work : AnalysisWork}
    {outcome : String} {error : PyError} {refusals : Refusals}
    (hrunning : service.calls id = .running work) (hcall : label.call = some id)
    (hno : label.admission = none)
    (hlabel : label.isSilent platform service = refusals.audit.isSome)
    (hdocuments : Documents work.token work.request (.error error)
      (.obj (callEvent outcome work.token work.request.artifactId))) :
    Recording platform service (abandon service id work outcome error refusals) label := by
  unfold abandon AnalysisService.conclude
  split
  next other hrefused =>
    refine .silent hcall hno ?_ (Or.inr ⟨work, hrunning⟩) ⟨rfl, (List.append_nil _).symm⟩
    rw [hlabel, hrefused]
    rfl
  next hgranted =>
    refine .described hcall hno ?_ hrunning hdocuments ⟨rfl, rfl⟩
    rw [hlabel, hgranted]
    rfl

/-- A saved report is recorded unless its task cannot be looked up or the record is refused. -/
theorem recording_recordReport {id : CallId} {result : AnalyzerResult} {uuid : Uuid}
    {refusals : Refusals} {database : Database} {work : AnalysisWork} {results : List ResultRow}
    (hrunning : service.calls id = .running work) (hgranted : refusals.save = none)
    (hnew : (service.results.any fun row => row.analysisId == "an_" ++ uuid.hex) = false) :
    Recording platform service
      (recordReport { service.release with results } id work.token (reportFor work result uuid)
        refusals database)
      (.complete id result uuid refusals database) := by
  have hlabel : AnalysisLabel.isSilent platform service
      (.complete id result uuid refusals database) =
        (refusals.listDelegatedTasks.isSome || refusals.audit.isSome) := by
    simp only [AnalysisLabel.isSilent, hgranted, hnew, Option.isSome_none, Bool.false_or]
  unfold recordReport
  split
  next error htasks =>
    refine .silent rfl rfl ?_ (Or.inr ⟨work, hrunning⟩) ⟨rfl, (List.append_nil _).symm⟩
    rw [hlabel, htasks]
    rfl
  next error htasks haudit =>
    refine .silent rfl rfl ?_ (Or.inr ⟨work, hrunning⟩) ⟨rfl, (List.append_nil _).symm⟩
    rw [hlabel, htasks, haudit]
    rfl
  next htasks haudit =>
    have hloud : AnalysisLabel.isSilent platform service
        (.complete id result uuid refusals database) = false := by
      rw [hlabel, htasks, haudit]
      rfl
    cases refusals.appendEvent with
    | some error =>
        exact .described rfl rfl hloud hrunning (.unlisted _ database error rfl rfl) ⟨rfl, rfl⟩
    | none =>
        dsimp only
        split
        · exact .described rfl rfl hloud hrunning (.reported _ database rfl rfl) ⟨rfl, rfl⟩
        · exact .described rfl rfl hloud hrunning (.unlisted _ database _ rfl rfl) ⟨rfl, rfl⟩

/-- A completed analysis is recorded with its report or its error. -/
theorem recording_complete {id : CallId} {result : AnalyzerResult} {uuid : Uuid}
    {refusals : Refusals} {database : Database} {work : AnalysisWork}
    (hrunning : service.calls id = .running work) :
    Recording platform service (complete service id work result uuid refusals database)
      (.complete id result uuid refusals database) := by
  unfold complete
  cases hrefused : refusals.save with
  | some error =>
      refine .silent rfl rfl ?_ (Or.inr ⟨work, hrunning⟩) ⟨rfl, (List.append_nil _).symm⟩
      simp only [AnalysisLabel.isSilent, hrefused, Option.isSome_some, Bool.true_or]
  | none =>
      cases hknown : service.results.any fun row => row.analysisId == "an_" ++ uuid.hex with
      | true =>
          have hsave : saveResult service.results (principal work.token)
              (reportFor work result uuid) =
              integrityError "UNIQUE constraint failed: analysis_results.analysis_id" :=
            if_pos hknown
          rw [hsave]
          refine .silent rfl rfl ?_ (Or.inr ⟨work, hrunning⟩) ⟨rfl, (List.append_nil _).symm⟩
          simp only [AnalysisLabel.isSilent, hknown, Bool.true_or, Bool.or_true]
      | false =>
          have hsave : saveResult service.results (principal work.token)
              (reportFor work result uuid) = .ok (service.results ++
                [⟨(reportFor work result uuid).analysisId, principal work.token,
                  reportFor work result uuid⟩]) :=
            if_neg (by rw [Bool.not_eq_true]; exact hknown)
          rw [hsave]
          exact recording_recordReport hrunning hrefused hknown

/-- Every step records what it ends, up to the silent refusals. -/
theorem recording_of_step {label : AnalysisLabel}
    (hstep : (analysis platform settings).step service label = some next) :
    Recording platform service next label := by
  cases label with
  | arrive id request token now view refusals =>
      cases hcall : service.calls id with
      | idle =>
          simp only [analysis, hcall, Option.some.injEq] at hstep
          exact hstep ▸ recording_arrive hcall
      | queued work | running work | ended outcome => simp [analysis, hcall] at hstep
  | acquire id now =>
      cases hcall : service.calls id with
      | queued work =>
          simp only [analysis, hcall, Option.ite_none_right_eq_some, Option.some.injEq] at hstep
          exact hstep.2 ▸ recording_acquire hcall
      | idle | running work | ended outcome => simp [analysis, hcall] at hstep
  | complete id result uuid refusals database =>
      cases hcall : service.calls id with
      | running work =>
          simp only [analysis, hcall, Option.some.injEq] at hstep
          exact hstep ▸ recording_complete hcall
      | idle | queued work | ended outcome => simp [analysis, hcall] at hstep
  | fail id refusals =>
      cases hcall : service.calls id with
      | running work =>
          simp only [analysis, hcall, Option.some.injEq] at hstep
          exact hstep ▸ recording_abandon hcall rfl rfl rfl .failed
      | idle | queued work | ended outcome => simp [analysis, hcall] at hstep
  | cancel id refusals =>
      cases hcall : service.calls id with
      | queued work =>
          simp only [analysis, hcall, Option.some.injEq] at hstep
          refine hstep ▸ .silent rfl rfl ?_ (Or.inl ⟨work, hcall⟩) ⟨rfl, (List.append_nil _).symm⟩
          simp only [AnalysisLabel.isSilent, hcall]
      | running work =>
          simp only [analysis, hcall, Option.some.injEq] at hstep
          refine hstep ▸ recording_abandon hcall rfl rfl ?_ .canceled
          simp only [AnalysisLabel.isSilent, hcall]
      | idle | ended outcome => simp [analysis, hcall] at hstep
  | read analysisId token now =>
      simp only [analysis, Option.some.injEq] at hstep
      subst hstep
      refine .read ?_
      unfold AnalysisService.auditRead
      cases token with
      | none => rfl
      | some caller =>
          simp only
          split <;> rfl

end Writing

/-! ## The trail of a run -/

section Trails

variable {platform settings} {trail next : AuditTrail}

/-- What is known of a call fits where it stands: nothing is written before it ends, and
then there is a record of its outcome unless it took a silent way out. -/
def AuditTrail.Fits (trail : AuditTrail) (id : CallId) : Prop :=
  match trail.service.calls id with
  | .idle => trail.admitted id = none ∧ trail.records id = [] ∧ trail.silent id = false
  | .queued work | .running work => trail.admitted id = some (work.token, work.request) ∧
      trail.records id = [] ∧ trail.silent id = false
  | .ended outcome => ∀ token request, trail.admitted id = some (token, request) →
      ((∃ record ∈ trail.records id, Documents token request outcome record) ↔
        trail.silent id = false)

variable {label : AnalysisLabel} {service : AnalysisService} {id : CallId}

/-- A step of another call changes nothing that is known of this one. -/
theorem fits_of_other {other : CallId} {call : AnalysisCall} {records : List Json}
    (hfits : trail.Fits id) (hcall : label.call = some other) (hne : id ≠ other)
    (hwrites : Writes trail.service service other call records)
    (hadmission : ∀ caller found, label.admission = some (caller, found) → caller = other) :
    (trail.follow platform label service).Fits id := by
  have hcalls : service.calls id = trail.service.calls id := by
    rw [hwrites.calls]
    exact if_neg hne
  have hnot : ¬label.call = some id := by
    rw [hcall]
    exact fun heq => hne (Option.some.inj heq).symm
  have hadmitted : (trail.follow platform label service).admitted id = trail.admitted id := by
    unfold AuditTrail.follow
    dsimp only
    split
    next caller found hfound =>
      rw [if_neg (fun heq : caller = id => hne (heq.symm.trans (hadmission caller found hfound)))]
    next => rfl
  have hrecords : (trail.follow platform label service).records id = trail.records id := if_neg hnot
  have hsilent : (trail.follow platform label service).silent id = trail.silent id := if_neg hnot
  unfold AuditTrail.Fits at hfits ⊢
  rw [hadmitted, hrecords, hsilent]
  rw [show (trail.follow platform label service).service.calls id = trail.service.calls id from hcalls]
  exact hfits

/-- What is known of a call after a step of its own. -/
theorem follow_self (label : AnalysisLabel) {call : AnalysisCall} {records : List Json}
    (hcall : label.call = some id)
    (hwrites : Writes trail.service service id call records) :
    (trail.follow platform label service).service.calls id = call ∧
      (trail.follow platform label service).records id = trail.records id ++ records ∧
      (trail.follow platform label service).silent id =
        (trail.silent id || label.isSilent platform trail.service) := by
  refine ⟨?_, ?_, if_pos hcall⟩
  · rw [show (trail.follow platform label service).service = service from rfl, hwrites.calls]
    exact if_pos rfl
  · have hdrop : service.audit.drop trail.service.audit.length = records := by
      rw [hwrites.audit, List.drop_left]
    rw [← hdrop]
    exact if_pos hcall

/-- Only arriving calls are admitted. -/
theorem admitted_follow (hno : label.admission = none) :
    (trail.follow platform label service).admitted id = trail.admitted id := by
  simp only [AuditTrail.follow, hno]

/-- A permitted call is admitted as it arrives. -/
theorem admitted_follow_arrive {request : AnalysisRequest} {caller : AccessToken} {now : Rat}
    {view : StoreView} {refusals : Refusals}
    (hpermitted : permitted now (some caller) "analysis:run" = true) :
    (trail.follow platform (.arrive id request (some caller) now view refusals) service).admitted id =
      some (caller, request) := by
  simp only [AuditTrail.follow, AnalysisLabel.admission, hpermitted, if_true]

theorem admission_arrive_refused {request : AnalysisRequest} {token : Option AccessToken}
    {now : Rat} {view : StoreView} {refusals : Refusals}
    (hrefused : permitted now token "analysis:run" = false) :
    (AnalysisLabel.arrive id request token now view refusals).admission = none := by
  cases token with
  | none => rfl
  | some caller => simp [AnalysisLabel.admission, hrefused]

/-- Only the call itself is admitted by its arrival. -/
theorem call_of_admission {caller : CallId} {found : AccessToken × AnalysisRequest}
    (hcall : label.call = some id) (hadmission : label.admission = some (caller, found)) :
    caller = id := by
  cases label with
  | arrive other request token now view refusals =>
      cases hcall
      cases token with
      | none => cases hadmission
      | some token =>
          simp only [AnalysisLabel.admission, Option.ite_none_right_eq_some, Option.some.injEq,
            Prod.mk.injEq] at hadmission
          exact hadmission.2.1.symm
  | _ => cases hadmission

/-- Where a call ends, what it wrote decides. -/
theorem fits_of_ended {outcome : Except PyError AnalysisReport}
    (hended : next.service.calls id = .ended outcome)
    (hrecorded : ∀ token request, next.admitted id = some (token, request) →
      ((∃ record ∈ next.records id, Documents token request outcome record) ↔
        next.silent id = false)) : next.Fits id := by
  unfold AuditTrail.Fits
  rw [hended]
  exact hrecorded

/-- A call that ends without a record fits if the trail notes it as silent. -/
theorem fits_of_silent {outcome : Except PyError AnalysisReport}
    (hended : next.service.calls id = .ended outcome) (hrecords : next.records id = [])
    (hsilent : next.silent id = true) : next.Fits id := by
  refine fits_of_ended hended fun token request _ => ?_
  rw [hrecords, hsilent]
  exact iff_of_false (fun ⟨_, hmem, _⟩ => List.not_mem_nil hmem) (fun hnot => by cases hnot)

/-- A call that ends with a record of its outcome fits if the trail notes nothing silent. -/
theorem fits_of_described {outcome : Except PyError AnalysisReport} {token : AccessToken}
    {request : AnalysisRequest} {record : Json}
    (hended : next.service.calls id = .ended outcome)
    (hadmitted : next.admitted id = some (token, request)) (hmem : record ∈ next.records id)
    (hdescribes : Documents token request outcome record) (hsilent : next.silent id = false) :
    next.Fits id := by
  refine fits_of_ended hended fun caller found hfound => ?_
  rw [hadmitted] at hfound
  cases hfound
  exact iff_of_true ⟨record, hmem, hdescribes⟩ hsilent

/-- Every step keeps the trail in step with the calls. -/
theorem fits_step (hfits : ∀ id, trail.Fits id)
    (hstep : (auditTrail platform settings).step trail label = some next) (id : CallId) :
    next.Fits id := by
  obtain ⟨service, hservice, rfl⟩ := Option.map_eq_some_iff.mp hstep
  -- Only the call that the label names can have changed.
  have hmoved {other : CallId} {call : AnalysisCall} {records : List Json}
      (hcall : label.call = some other)
      (hwrites : Writes trail.service service other call records)
      (hown : id = other → (trail.follow platform label service).Fits id) :
      (trail.follow platform label service).Fits id := by
    by_cases hid : id = other
    · exact hown hid
    · exact fits_of_other (hfits id) hcall hid hwrites fun _ _ => call_of_admission hcall
  have hself := hfits id
  unfold AuditTrail.Fits at hself
  cases recording_of_step hservice with
  | @refused other request token now view refusals outcome hidle hrefused hwrites =>
      refine hmoved rfl hwrites ?_
      rintro rfl
      rw [hidle] at hself
      obtain ⟨hended, -, -⟩ :=
        follow_self (.arrive id request token now view refusals) rfl hwrites
      refine fits_of_ended hended fun caller found hadmitted => ?_
      rw [admitted_follow (admission_arrive_refused hrefused), hself.1] at hadmitted
      cases hadmitted
  | @escaped other request caller now view refusals outcome hidle hpermitted hsilent hwrites =>
      refine hmoved rfl hwrites ?_
      rintro rfl
      rw [hidle] at hself
      obtain ⟨hended, hrecords, hnow⟩ :=
        follow_self (.arrive id request (some caller) now view refusals) rfl hwrites
      rw [hself.2.1, List.append_nil] at hrecords
      rw [hsilent, Bool.or_true] at hnow
      exact fits_of_silent hended hrecords hnow
  | @invalid other request caller now view refusals outcome record hidle hpermitted hloud
      hdescribes hwrites =>
      refine hmoved rfl hwrites ?_
      rintro rfl
      rw [hidle] at hself
      obtain ⟨hended, hrecords, hsilent⟩ :=
        follow_self (.arrive id request (some caller) now view refusals) rfl hwrites
      rw [hloud, hself.2.2, Bool.or_false] at hsilent
      refine fits_of_described hended (admitted_follow_arrive hpermitted) ?_ hdescribes hsilent
      rw [hrecords]
      exact List.mem_append_right _ List.mem_cons_self
  | @queued other request caller now view refusals work hidle hpermitted hloud htoken hrequest
      hwrites =>
      refine hmoved rfl hwrites ?_
      rintro rfl
      rw [hidle] at hself
      obtain ⟨hqueued, hrecords, hsilent⟩ :=
        follow_self (.arrive id request (some caller) now view refusals) rfl hwrites
      subst htoken hrequest
      unfold AuditTrail.Fits
      rw [hqueued, hrecords, hsilent, hloud, admitted_follow_arrive hpermitted, hself.2.1,
        hself.2.2]
      exact ⟨rfl, rfl, rfl⟩
  | @started other now work hqueued hloud hwrites =>
      refine hmoved rfl hwrites ?_
      rintro rfl
      rw [hqueued] at hself
      obtain ⟨hrunning, hrecords, hsilent⟩ := follow_self (.acquire id now) rfl hwrites
      unfold AuditTrail.Fits
      rw [hrunning, hrecords, hsilent, hloud, admitted_follow rfl, hself.2.1, hself.2.2]
      exact ⟨hself.1, rfl, rfl⟩
  | @silent label other outcome hcall hno hsilent hadmitted hwrites =>
      refine hmoved hcall hwrites ?_
      rintro rfl
      -- Whether it waited or ran, it had written nothing so far.
      have hempty : trail.records id = [] := by
        rcases hadmitted with ⟨work, hwork⟩ | ⟨work, hwork⟩
        all_goals
          rw [hwork] at hself
          exact hself.2.1
      obtain ⟨hended, hrecords, hnow⟩ := follow_self label hcall hwrites
      rw [hempty, List.append_nil] at hrecords
      rw [hsilent, Bool.or_true] at hnow
      exact fits_of_silent hended hrecords hnow
  | @described label other work outcome record hcall hno hloud hrunning hdescribes hwrites =>
      refine hmoved hcall hwrites ?_
      rintro rfl
      rw [hrunning] at hself
      obtain ⟨hended, hrecords, hnow⟩ := follow_self label hcall hwrites
      rw [hloud, hself.2.2, Bool.or_false] at hnow
      refine fits_of_described hended ((admitted_follow hno).trans hself.1) ?_ hdescribes hnow
      rw [hrecords]
      exact List.mem_append_right _ List.mem_cons_self
  | @read analysisId token now hcalls =>
      unfold AuditTrail.Fits
      rw [show (trail.follow platform (.read analysisId token now) service).service.calls id =
        trail.service.calls id from congrFun hcalls id]
      exact hself

/-- In every run, the steps of an admitted call that has ended have written a record of
its outcome exactly when none of them was a silent way out. -/
theorem analysis_recorded_iff (platform : Platform) (settings : AnalysisSettings)
    {labels : List AnalysisLabel} {final : AuditTrail}
    (hrun : (auditTrail platform settings).run (.start settings) labels = some final)
    {id : CallId} {token : AccessToken} {request : AnalysisRequest}
    {outcome : Except PyError AnalysisReport}
    (hadmitted : final.admitted id = some (token, request))
    (hended : final.service.calls id = .ended outcome) :
    (∃ record ∈ final.records id, Documents token request outcome record) ↔
      final.silent id = false := by
  have hstart : ∀ id, (AuditTrail.start settings).Fits id := fun _ => ⟨rfl, rfl, rfl⟩
  have hfits : ∀ id, final.Fits id :=
    (auditTrail platform settings).run_invariant (fun trail => ∀ id, trail.Fits id)
      (fun _ _ _ hfits hstep id => fits_step hfits hstep id) hstart hrun
  have hcall := hfits id
  unfold AuditTrail.Fits at hcall
  rw [hended] at hcall
  exact hcall token request hadmitted

/-- A call that fails in the analyzer, and one that is canceled while it waits. -/
def sampleTrail : Option AuditTrail :=
  (auditTrail sampleAnalysisPlatform sampleAnalysisSettings).run (.start sampleAnalysisSettings)
    [.arrive 0 ⟨0, "digest", 60⟩ (some (sampleCaller "first")) 0 sampleStores {}, .acquire 0 1,
      .arrive 1 ⟨0, "digest", 60⟩ (some (sampleCaller "second")) 1 sampleStores {},
      .cancel 1 {}, .fail 0 {}]

/-- Whether the call was admitted so and has ended. -/
def AuditTrail.endedAs (trail : AuditTrail) (id : CallId) (token : AccessToken)
    (request : AnalysisRequest) : Bool :=
  decide (trail.admitted id = some (token, request)) &&
    match trail.service.calls id with
    | .ended _ => true
    | _ => false

/-- A call ended for a caller when it was admitted and is over. -/
theorem endedAs_iff {token : AccessToken} {request : AnalysisRequest} :
    trail.endedAs id token request = true ↔ trail.admitted id = some (token, request) ∧
      ∃ outcome, trail.service.calls id = .ended outcome := by
  unfold AuditTrail.endedAs
  cases trail.service.calls id <;> simp

theorem analysis_recorded_sample : ∃ final outcome, sampleTrail = some final ∧
    final.admitted 0 = some (sampleCaller "first", ⟨0, "digest", 60⟩) ∧
    final.service.calls 0 = .ended outcome ∧
    ((∃ record ∈ final.records 0,
        Documents (sampleCaller "first") ⟨0, "digest", 60⟩ outcome record) ↔
      final.silent 0 = false) := by
  have hsome : (sampleTrail.any fun final =>
      final.endedAs 0 (sampleCaller "first") ⟨0, "digest", 60⟩) = true := by decide +kernel
  obtain ⟨final, hrun, hfinal⟩ := (Option.any_eq_true _ _).mp hsome
  obtain ⟨hadmitted, outcome, hended⟩ := endedAs_iff.mp hfinal
  exact ⟨final, outcome, hrun, hadmitted, hended,
    analysis_recorded_iff sampleAnalysisPlatform sampleAnalysisSettings hrun hadmitted hended⟩

/-- A call that is canceled while it waits for a slot leaves no record. -/
theorem canceled_unrecorded : ∃ final outcome, sampleTrail = some final ∧
    final.admitted 1 = some (sampleCaller "second", ⟨0, "digest", 60⟩) ∧
    final.service.calls 1 = .ended outcome ∧
    ¬∃ record ∈ final.records 1,
      Documents (sampleCaller "second") ⟨0, "digest", 60⟩ outcome record := by
  have hsome : (sampleTrail.any fun final =>
      final.endedAs 1 (sampleCaller "second") ⟨0, "digest", 60⟩ &&
        (final.records 1).isEmpty) = true := by decide +kernel
  obtain ⟨final, hrun, hfinal⟩ := (Option.any_eq_true _ _).mp hsome
  rw [Bool.and_eq_true, List.isEmpty_iff] at hfinal
  obtain ⟨hadmitted, outcome, hended⟩ := endedAs_iff.mp hfinal.1
  refine ⟨final, outcome, hrun, hadmitted, hended, ?_⟩
  rintro ⟨record, hrecord, _⟩
  rw [hfinal.2] at hrecord
  exact List.not_mem_nil hrecord

end Trails

end Aidlc
