import Mathlib.Algebra.Ring.Rat
import Aidlc.Foundation.Effects
import Aidlc.Foundation.Schema
import Aidlc.Tools.Models

/-! # Quality gates, evaluations, and the repair decision

The reports carry what their validators checked: an evaluation is either
unjudged and without scores, or judged on all six rubrics.
-/

namespace Aidlc

open Foundation

inductive GateStatus where
  | passed | failed | notExecuted
  deriving DecidableEq, Repr

def GateStatus.value : GateStatus → String
  | .passed => "passed"
  | .failed => "failed"
  | .notExecuted => "not_executed"

/-- A gate names its evidence by identifiers: tokens of the hub, or the text a
decoded document holds. -/
structure QualityGate (Id : Type := ArtifactId) where
  name : String
  status : GateStatus
  detail : String
  evidenceArtifactIds : List Id
  deriving DecidableEq, Repr

inductive Verdict where
  | passed | failed | blocked
  deriving DecidableEq, Repr

def Verdict.value : Verdict → String
  | .passed => "passed"
  | .failed => "failed"
  | .blocked => "blocked"

structure QualityGateReport (Id : Type := ArtifactId) where
  profile : String
  runId : RunId
  repairAttempt : Nat
  verdict : Verdict
  gates : List (QualityGate Id)
  sourceArtifactIds : List Id
  deferredChecks : List String
  deriving DecidableEq, Repr

section Dumps

variable {Id : Type} [Identifier Id]

def QualityGate.modelDump (gate : QualityGate Id) : Json :=
  .obj [("name", .str gate.name), ("status", .str gate.status.value), ("detail", .str gate.detail),
    ("evidence_artifact_ids", .arr (gate.evidenceArtifactIds.map Identifier.json))]

def QualityGateReport.fields (report : QualityGateReport Id) : List (String × Json) :=
  [("profile", .str report.profile), ("run_id", .str report.runId),
    ("repair_attempt", .int report.repairAttempt), ("verdict", .str report.verdict.value),
    ("gates", .arr (report.gates.map QualityGate.modelDump)),
    ("source_artifact_ids", .arr (report.sourceArtifactIds.map Identifier.json)),
    ("deferred_checks", .arr (report.deferredChecks.map .str))]

def QualityGateReport.modelDump (report : QualityGateReport Id) : Json := .obj report.fields

end Dumps

/-! ## Reading a report -/

section Readings

/-- A field of text with one of the declared values. -/
def validLiteral {α : Type} (value : Json) (key : String) (values : List (String × α)) :
    Except PyError α := do
  match values.lookup (← requiredStr value key) with
  | some found => return found
  | none => validationError "Input should be one of the declared values"

def validStr : Json → Except PyError String
  | .str text => .ok text
  | _ => validationError "Input should be a valid string"

/-- A list of texts, or the default. -/
def validStrs (value : Json) (key : String) (default : List String) :
    Except PyError (List String) :=
  match value.get? key with
  | none => .ok default
  | some (.arr items) => items.mapM validStr
  | some _ => validationError "Input should be a valid list"

def QualityGate.modelValidate (value : Json) : Except PyError (QualityGate String) := do
  forbidExtra value ["name", "status", "detail", "evidence_artifact_ids"]
  let name ← requiredStr value "name"
  let status ← validLiteral value "status"
    [("passed", GateStatus.passed), ("failed", .failed), ("not_executed", .notExecuted)]
  let detail ← requiredStr value "detail"
  return ⟨name, status, detail, ← validStrs value "evidence_artifact_ids" []⟩

def gateProfiles : List String := ["python-stdlib-v1", "python-react-v1"]

/-- `deferred_checks`, where a report does not name them -/
def defaultDeferredChecks : List String :=
  ["type checking", "integration and browser tests", "dependency and security scanning",
    "requirement-to-test coverage", "runsc/Kata comparison"]

def validProfile (value : Json) : Except PyError String := do
  match value.get? "profile" with
  | none => return "python-stdlib-v1"
  | some profile =>
    let text ← validStr profile
    if text ∈ gateProfiles then return text
    else validationError "Input should be 'python-stdlib-v1' or 'python-react-v1'"

def validRepairAttempt (reading : Reading) (value : Json) : Except PyError Nat :=
  match value.get? "repair_attempt" with
  | none => .ok 0
  | some attempt =>
    match reading.int attempt with
    | some (.ofNat attempt) => .ok attempt
    | some (.negSucc _) => validationError "Input should be greater than or equal to 0"
    | none => validationError "Input should be a valid integer"

def validGates (value : Json) : Except PyError (List (QualityGate String)) :=
  match value.get? "gates" with
  | some (.arr items) => items.mapM QualityGate.modelValidate
  | some _ => validationError "Input should be a valid list"
  | none => validationError "Field required"

/-- `QualityGateReport.model_validate(value)` -/
def QualityGateReport.modelValidate (reading : Reading) (value : Json) :
    Except PyError (QualityGateReport String) := do
  forbidExtra value ["profile", "run_id", "repair_attempt", "verdict", "gates",
    "source_artifact_ids", "deferred_checks"]
  let profile ← validProfile value
  let runId ← requiredStr value "run_id"
  let repairAttempt ← validRepairAttempt reading value
  let verdict ← validLiteral value "verdict"
    [("passed", Verdict.passed), ("failed", .failed), ("blocked", .blocked)]
  let gates ← validGates value
  let sourceArtifactIds ← validStrs value "source_artifact_ids" []
  let deferredChecks ← validStrs value "deferred_checks" defaultDeferredChecks
  return { profile, runId, repairAttempt, verdict, gates, sourceArtifactIds, deferredChecks }

theorem mapM_validStr (texts : List String) : (texts.map .str).mapM validStr = .ok texts := by
  induction texts with
  | nil => rfl
  | cons text rest ih =>
      rw [List.map_cons, List.mapM_cons, ih]
      rfl

theorem validStrs_eq_ok {value : Json} {key : String} {default texts : List String}
    (hvalue : value.get? key = some (.arr (texts.map .str))) :
    validStrs value key default = .ok texts := by
  rw [validStrs, hvalue]
  exact mapM_validStr texts

theorem QualityGate.modelValidate_modelDump (gate : QualityGate String) :
    QualityGate.modelValidate gate.modelDump = .ok gate := by
  have hkeys : forbidExtra gate.modelDump ["name", "status", "detail", "evidence_artifact_ids"] =
      .ok () := by simp [forbidExtra, modelDump]
  have hname : requiredStr gate.modelDump "name" = .ok gate.name := by
    simp [requiredStr, modelDump]
  have hdetail : requiredStr gate.modelDump "detail" = .ok gate.detail := by
    simp [requiredStr, modelDump]
  have hstatus : validLiteral gate.modelDump "status" [("passed", GateStatus.passed),
      ("failed", .failed), ("not_executed", .notExecuted)] = .ok gate.status := by
    cases hstatus : gate.status <;> simp [validLiteral, requiredStr, modelDump, hstatus] <;> rfl
  have hids : validStrs gate.modelDump "evidence_artifact_ids" [] = .ok gate.evidenceArtifactIds :=
    validStrs_eq_ok (by simp [modelDump, Identifier.json])
  simp only [modelValidate, hkeys, hname, hdetail, hstatus, hids, bind, Except.bind]
  rfl

theorem mapM_modelValidate (gates : List (QualityGate String)) :
    (gates.map QualityGate.modelDump).mapM QualityGate.modelValidate = .ok gates := by
  induction gates with
  | nil => rfl
  | cons gate rest ih =>
      rw [List.map_cons, List.mapM_cons, QualityGate.modelValidate_modelDump, ih]
      rfl

/-- Reading back the dump of a report gives the report. -/
theorem QualityGateReport.modelValidate_modelDump {reading : Reading}
    (hreading : ∀ value : Int, reading.int (.int value) = some value)
    {report : QualityGateReport String} (hprofile : report.profile ∈ gateProfiles) :
    QualityGateReport.modelValidate reading report.modelDump = .ok report := by
  have hkeys : forbidExtra report.modelDump ["profile", "run_id", "repair_attempt", "verdict",
      "gates", "source_artifact_ids", "deferred_checks"] = .ok () := by
    simp [forbidExtra, modelDump, fields]
  have hprofile : validProfile report.modelDump = .ok report.profile := by
    simp [validProfile, modelDump, fields, validStr, hprofile, bind, Except.bind]
    rfl
  have hrun : requiredStr report.modelDump "run_id" = .ok report.runId := by
    simp [requiredStr, modelDump, fields]
  have hattempt : validRepairAttempt reading report.modelDump = .ok report.repairAttempt := by
    simp [validRepairAttempt, modelDump, fields, hreading]
  have hverdict : validLiteral report.modelDump "verdict" [("passed", Verdict.passed),
      ("failed", .failed), ("blocked", .blocked)] = .ok report.verdict := by
    cases hverdict : report.verdict <;>
      simp [validLiteral, requiredStr, modelDump, fields, hverdict] <;> rfl
  have hgates : validGates report.modelDump = .ok report.gates := by
    have hfound : report.modelDump.get? "gates" =
        some (.arr (report.gates.map QualityGate.modelDump)) := by simp [modelDump, fields]
    rw [validGates, hfound]
    exact mapM_modelValidate report.gates
  have hsources : validStrs report.modelDump "source_artifact_ids" [] =
      .ok report.sourceArtifactIds :=
    validStrs_eq_ok (by simp [modelDump, fields, Identifier.json])
  have hdeferred : validStrs report.modelDump "deferred_checks" defaultDeferredChecks =
      .ok report.deferredChecks := validStrs_eq_ok (by simp [modelDump, fields])
  simp only [modelValidate, hkeys, hprofile, hrun, hattempt, hverdict, hgates, hsources, hdeferred,
    bind, Except.bind]
  rfl

end Readings

def gatesMarkdown (report : QualityGateReport) : String :=
  s!"# Deterministic quality gates\n\nProfile: {report.profile}\n\n{report.verdict.value}\n\n" ++
    "\n".intercalate (report.gates.map fun gate =>
      s!"- {gate.name}: **{gate.status.value}** — {gate.detail}")

inductive Applicability where
  | applicable | notApplicable
  deriving DecidableEq, Repr

def Applicability.value : Applicability → String
  | .applicable => "applicable"
  | .notApplicable => "not_applicable"

/-- A judgment on one rubric; it has a score exactly when the rubric applies. -/
structure RubricScore (Id : Type := ArtifactId) where
  applicability : Applicability
  score : Option Rat
  rationale : String
  evidenceArtifactIds : List Id
  score_range : ∀ value ∈ score, 0 ≤ value ∧ value ≤ 1
  score_applicable : score.isSome ↔ applicability = .applicable

inductive EvaluationStatus where
  | evaluated | notEvaluated
  deriving DecidableEq, Repr

def EvaluationStatus.value : EvaluationStatus → String
  | .evaluated => "evaluated"
  | .notEvaluated => "not_evaluated"

variable (platform : Platform)

/-- `fmean`: the correctly rounded sum, divided and rounded once more. -/
def fmean (values : List Rat) : Rat :=
  platform.roundFloat (platform.roundFloat values.sum / values.length)

/-- `overall_score` on the fields it reads. -/
def scoreOf {Id : Type} (status : EvaluationStatus) (values : List (Option (RubricScore Id))) :
    Except PyError (Option Rat) :=
  if status = .notEvaluated then
    if values.any Option.isSome then
      .error ⟨.valueError, "An unevaluated report cannot publish rubric scores"⟩
    else .ok none
  else if values.any Option.isNone then
    .error ⟨.valueError, "An evaluated report requires all six rubric judgments"⟩
  else
    let applicable := values.filterMap fun value => value.bind RubricScore.score
    .ok (if applicable.isEmpty then none else some (fmean platform applicable))

structure EvaluationReport (Id : Type := ArtifactId) where
  status : EvaluationStatus
  requirementCoverage : Option (RubricScore Id)
  mvpCompleteness : Option (RubricScore Id)
  usability : Option (RubricScore Id)
  architecture : Option (RubricScore Id)
  maintainability : Option (RubricScore Id)
  riskAcceptance : Option (RubricScore Id)
  summary : String
  recommendedRepairs : List String
  qualityGates : Option (QualityGateReport Id)
  judged : ∃ score, scoreOf platform status [requirementCoverage, mvpCompleteness, usability,
    architecture, maintainability, riskAcceptance] = .ok score

def EvaluationReport.values {platform : Platform} {Id : Type}
    (report : EvaluationReport platform Id) : List (Option (RubricScore Id)) :=
  [report.requirementCoverage, report.mvpCompleteness, report.usability, report.architecture,
    report.maintainability, report.riskAcceptance]

/-- A validated report has an overall score or is exempt from one; it never raises. -/
def EvaluationReport.overallScore {platform : Platform} {Id : Type}
    (report : EvaluationReport platform Id) : Option Rat :=
  match scoreOf platform report.status report.values with
  | .ok score => score
  | .error _ => none

section Dumps

variable {Id : Type} [Identifier Id]

def RubricScore.modelDump (score : RubricScore Id) : Json :=
  .obj [("applicability", .str score.applicability.value), ("score", Json.ofOption .float score.score),
    ("rationale", .str score.rationale),
    ("evidence_artifact_ids", .arr (score.evidenceArtifactIds.map Identifier.json))]

def EvaluationReport.modelDump {platform : Platform} (report : EvaluationReport platform Id) : Json :=
  .obj [("status", .str report.status.value),
    ("requirement_coverage", Json.ofOption RubricScore.modelDump report.requirementCoverage),
    ("mvp_completeness", Json.ofOption RubricScore.modelDump report.mvpCompleteness),
    ("usability", Json.ofOption RubricScore.modelDump report.usability),
    ("architecture", Json.ofOption RubricScore.modelDump report.architecture),
    ("maintainability", Json.ofOption RubricScore.modelDump report.maintainability),
    ("risk_acceptance", Json.ofOption RubricScore.modelDump report.riskAcceptance),
    ("summary", .str report.summary),
    ("recommended_repairs", .arr (report.recommendedRepairs.map .str)),
    ("quality_gates", Json.ofOption QualityGateReport.modelDump report.qualityGates)]

end Dumps

inductive RepairDecision where
  | passed | deferred | repair | exhausted
  deriving DecidableEq, Repr

def RepairDecision.value : RepairDecision → String
  | .passed => "passed"
  | .deferred => "deferred"
  | .repair => "repair"
  | .exhausted => "exhausted"

/-- `repair_decision`; the human decision is the text a response carries. -/
def repairDecision {platform : Platform} (gates : QualityGateReport)
    (evaluation : EvaluationReport platform) (attempt limit : Nat) (threshold : Rat)
    (humanDecision : Option String) : RepairDecision :=
  let score := evaluation.overallScore
  -- An explicit human verdict is authoritative.
  if humanDecision = some "accept" then .passed
  else if humanDecision = some "repair" then if attempt < limit then .repair else .exhausted
  else
    match gates.verdict, score with
    | .blocked, _ => .deferred
    | .failed, _ => if attempt < limit then .repair else .exhausted
    | .passed, none => .deferred
    | .passed, some value =>
        if threshold ≤ value then .passed else if attempt < limit then .repair else .exhausted

variable {platform}

theorem EvaluationReport.scoreOf_eq {Id : Type} (report : EvaluationReport platform Id) :
    scoreOf platform report.status report.values = .ok report.overallScore := by
  obtain ⟨score, hscore⟩ := report.judged
  have hvalues : scoreOf platform report.status report.values = .ok score := hscore
  simp [EvaluationReport.overallScore, hvalues]

/-- A repair is decided only below the limit. -/
theorem lt_limit_of_repair {gates : QualityGateReport} {evaluation : EvaluationReport platform}
    {attempt limit : Nat} {threshold : Rat} {humanDecision : Option String}
    (hdecision : repairDecision gates evaluation attempt limit threshold humanDecision = .repair) :
    attempt < limit := by
  by_contra hlimit
  unfold repairDecision at hdecision
  simp only [hlimit, if_false] at hdecision
  split at hdecision
  · simp at hdecision
  split at hdecision
  · simp at hdecision
  cases hverdict : gates.verdict <;> cases hscore : evaluation.overallScore <;>
    simp only [hverdict, hscore, reduceCtorEq] at hdecision
  split at hdecision <;> simp at hdecision

/-- Without a human verdict, a passing decision means that the gates passed and
the score reached the threshold. -/
theorem eligible_of_passed {gates : QualityGateReport} {evaluation : EvaluationReport platform}
    {attempt limit : Nat} {threshold : Rat} {humanDecision : Option String}
    (hdecision : repairDecision gates evaluation attempt limit threshold humanDecision = .passed)
    (hhuman : humanDecision ≠ some "accept") :
    gates.verdict = .passed ∧ ∃ score, evaluation.overallScore = some score ∧ threshold ≤ score := by
  unfold repairDecision at hdecision
  rw [if_neg hhuman] at hdecision
  split at hdecision
  · split at hdecision <;> simp at hdecision
  · cases hverdict : gates.verdict <;> cases hscore : evaluation.overallScore <;>
      simp only [hverdict, hscore] at hdecision
    · simp at hdecision
    · rename_i value
      by_cases hvalue : threshold ≤ value
      · exact ⟨rfl, value, rfl, hvalue⟩
      · rw [if_neg hvalue] at hdecision
        split at hdecision <;> simp at hdecision
    · split at hdecision <;> simp at hdecision
    · split at hdecision <;> simp at hdecision
    · simp at hdecision
    · simp at hdecision

end Aidlc
