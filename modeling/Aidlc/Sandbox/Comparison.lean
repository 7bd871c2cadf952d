import Mathlib.Data.Finset.Card
import Aidlc.Foundation.JsonSpacing
import Aidlc.Domain.Numbers
import Aidlc.Sandbox.Runner
import Aidlc.Sandbox.Worker

/-! # The comparison of runtimes

The same jobs run in fresh containers of every runtime, repetition after repetition.
The backend may answer any job with any result. A runtime qualifies when all of its
trials pass, and it is set against the baseline only where everything that ran had
one environment.
-/

namespace Aidlc

open Foundation

/-- `RUNTIMES` -/
def runtimes : List Runtime := [.runc, .runsc, .kata]

/-- `MODES` -/
def modes : List SandboxMode := [.probe, .build, .test, .analyze]

/-- `sorted(PROBE_CHECKS)` -/
def probeChecks : List String :=
  ["bounded_tmpfs:/tmp", "bounded_tmpfs:/workspace", "network_denied", "network_interfaces",
    "no_capabilities", "no_credentials", "no_host_home", "no_host_sockets", "no_new_privileges",
    "non_root", "root_mount_read_only", "root_read_only"]

def SandboxPolicy.modelDump (policy : SandboxPolicy) : Json :=
  .obj [("cpus", .int policy.cpus), ("memory_bytes", .int policy.memoryBytes),
    ("pids", .int policy.pids), ("workspace_bytes", .int policy.workspaceBytes),
    ("timeout_seconds", .int policy.timeoutSeconds),
    ("max_output_bytes", .int policy.maxOutputBytes), ("network", .str "none")]

inductive TrialStatus where
  | pass | unavailable | fail
  deriving DecidableEq, Repr

abbrev Jobs := List (SandboxMode × SandboxResult)

abbrev ProbeChecks := List (String × Bool)

structure Trial where
  repetition : Nat
  status : TrialStatus
  checks : ProbeChecks
  jobs : Jobs

/-- What is known after some trials. -/
structure Trials where
  samples : Runtime → List Trial
  unavailable : List Runtime
  order : List (Nat × Runtime)

structure ModeTimings where
  samplesMs : List Int
  medianMs : Number
  deriving DecidableEq, Repr

structure RuntimeReport where
  runtime : Runtime
  status : TrialStatus
  checks : ProbeChecks
  jobs : Jobs
  samples : List Trial
  timings : Option (List (SandboxMode × ModeTimings))
  relativeToRunc : Option (List (SandboxMode × Option Quotient)) := none

structure Comparison where
  repetitions : Int
  executionOrder : List (Nat × Runtime)
  sameEnvironment : Bool
  timingScope : String := "Container creation, workload, control operations, and confirmed teardown"
  baseline : String := "runc"
  statistic : String := "median"
  limitations : List String := [
    "Small serial smoke fixture; no statistical significance or benchmark claim.",
    "Isolation probes verify applied controls, not resistance to kernel exploits.",
    "Unavailable or failed runtimes receive no performance ratio."]

/-- What answers the jobs, with a state of its own, and how texts are read and numbers
are written. -/
structure Bench (σ : Type) where
  execute : SandboxJob → Runtime → σ → SandboxResult × σ
  loads : String → Except PyError Json
  floatText : Rat → List Char
  floatText_number : ∀ value, NumberText (floatText value)

/-- The state of the backend, and what it was asked and answered so far. -/
structure BenchState (σ : Type) where
  backend : σ
  ran : List (Runtime × SandboxMode × SandboxResult)

abbrev BenchM (σ : Type) := EStateM SandboxError (BenchState σ)

def liftError {α : Type} : Except PyError α → Except SandboxError α
  | .ok value => .ok value
  | .error error => .error (.error error)

section Trials

variable {σ : Type} (bench : Bench σ) (source : SourceBundle)

/-- `backend.execute(SandboxJob(source=source, mode=mode), runtime)` -/
def executeJob (mode : SandboxMode) (runtime : Runtime) : BenchM σ SandboxResult := fun state =>
  let answer := bench.execute ⟨source, mode, .default⟩ runtime state.backend
  .ok answer.1 ⟨answer.2, state.ran ++ [(runtime, mode, answer.1)]⟩

def failedChecks : ProbeChecks := probeChecks.map fun key => (key, false)

/-- The checks of a probe. Output that is no object fails all of them. -/
def readChecks (stdout : String) : Except PyError ProbeChecks :=
  match bench.loads stdout with
  | .ok (.obj fields) =>
    .ok (probeChecks.map fun key => (key, (Json.obj fields).get? key == some (.bool true)))
  | .ok _ => .ok failedChecks
  | .error error =>
    if error.type ∈ [ErrorType.valueError, .typeError] then .ok failedChecks else .error error

/-- The checks of a trial after one of its jobs. -/
def checksAfter (mode : SandboxMode) (result : SandboxResult) (checks : ProbeChecks) :
    Except PyError ProbeChecks :=
  if mode = .probe then readChecks bench result.stdout else .ok checks

/-- The jobs of a trial, up to the first that is unavailable. -/
def runModes (runtime : Runtime) :
    List SandboxMode → Jobs → ProbeChecks → BenchM σ (Jobs × ProbeChecks × Bool)
  | [], jobs, checks => pure (jobs, checks, false)
  | mode :: rest, jobs, checks => do
    let result ← executeJob bench source mode runtime
    let jobs := jobs ++ [(mode, result)]
    if result.status = .unavailable then return (jobs, checks, true)
    runModes runtime rest jobs (← ofExcept (liftError (checksAfter bench mode result checks)))

/-- What a job must show for its trial to pass. -/
def jobPassed (job : SandboxResult) : Bool :=
  job.status == .completed && job.execution.exitCode.pyEq (.int 0) &&
    job.execution.cleanupSucceeded &&
    !(job.execution.timedOut || job.execution.outputTruncated ||
      Json.truthy (some job.execution.oomKilled))

def trialPassed (jobs : Jobs) (checks : ProbeChecks) : Bool :=
  jobs.length == modes.length && !checks.isEmpty && checks.all Prod.snd &&
    jobs.all fun job => jobPassed job.2

def trialOf (repetition : Nat) (runtime : Runtime) (unavailable : List Runtime) (jobs : Jobs)
    (checks : ProbeChecks) : Trial where
  repetition := repetition + 1
  status :=
    if runtime ∈ unavailable then .unavailable
    else if trialPassed jobs checks then .pass
    else .fail
  checks := checks
  jobs := jobs

/-- The trials after one more of a runtime. -/
def Trials.add (trials : Trials) (runtime : Runtime) (trial : Trial) (unavailable : List Runtime)
    (order : List (Nat × Runtime)) : Trials :=
  ⟨Function.update trials.samples runtime (trials.samples runtime ++ [trial]), unavailable, order⟩

def runTrial (repetition : Nat) (trials : Trials) (runtime : Runtime) : BenchM σ Trials := do
  if runtime ∈ trials.unavailable then return trials
  let (jobs, checks, missing) ← runModes bench source runtime modes [] []
  let unavailable := if missing then trials.unavailable ++ [runtime] else trials.unavailable
  let trial := trialOf repetition runtime unavailable jobs checks
  return trials.add runtime trial unavailable (trials.order ++ [(repetition + 1, runtime)])

/-- The runtimes in the order of a repetition. -/
def rotated (repetition : Nat) : List Runtime :=
  let rotation := repetition % runtimes.length
  runtimes.drop rotation ++ runtimes.take rotation

def runTrials (repetitions : Nat) : BenchM σ Trials :=
  (List.range repetitions).foldlM
    (fun trials repetition =>
      (rotated repetition).foldlM (runTrial bench source repetition) trials)
    ⟨fun _ => [], [], []⟩

end Trials

section Reports

variable {σ : Type} (bench : Bench σ)

/-- `trial["jobs"][mode]["execution"]["duration_ms"]` -/
def durationOf (mode : SandboxMode) (trial : Trial) : Except SandboxError Int :=
  match trial.jobs.lookup mode with
  | some job => .ok job.execution.durationMs
  | none => .error (.error ⟨.keyError, "'" ++ mode.value ++ "'"⟩)

def timingsOf (trials : List Trial) (mode : SandboxMode) :
    Except SandboxError (SandboxMode × ModeTimings) := do
  let samples ← trials.mapM (durationOf mode)
  return (mode, ⟨samples, ← liftError (median samples)⟩)

/-- The text that tells environments apart. -/
def identityText (execution : SandboxExecution) : List Char :=
  dumps bench.floatText (.obj [("image", execution.image), ("kernel", .str execution.kernel),
    ("policy", execution.policy.modelDump)])

def identitiesOf (trials : List Trial) : List (List Char) :=
  trials.flatMap fun trial =>
    (trial.jobs.filter fun job => job.2.status ≠ .unavailable).map fun job =>
      identityText bench job.2.execution

def allPassed (repetitions : Nat) (samples : List Trial) : Bool :=
  samples.length == repetitions && samples.all fun trial => trial.status == .pass

def allTimings (passed : Bool) (samples : List Trial) :
    Except SandboxError (Option (List (SandboxMode × ModeTimings))) :=
  if passed then some <$> modes.mapM (timingsOf samples) else .ok none

/-- `values[0]` -/
def firstOf {α : Type} : List α → Except SandboxError α
  | [] => .error .indexError
  | first :: _ => .ok first

def reportOf (trials : Trials) (repetitions : Nat) (runtime : Runtime) :
    Except SandboxError RuntimeReport := do
  let samples := trials.samples runtime
  let passed := allPassed repetitions samples
  let timings ← allTimings passed samples
  let first ← firstOf samples
  return {
    runtime
    status := if passed then .pass
      else if runtime ∈ trials.unavailable then .unavailable else .fail
    checks := probeChecks.map fun key =>
      (key, samples.all fun trial => trial.checks.lookup key == some true)
    jobs := first.jobs
    samples
    timings }

/-- `report["timings"][mode]["median_ms"]` -/
def medianOf (report : RuntimeReport) (mode : SandboxMode) : Except SandboxError Number :=
  match report.timings with
  | none => .error (.error ⟨.typeError, "'NoneType' object is not subscriptable"⟩)
  | some timings =>
    match timings.lookup mode with
    | some timing => .ok timing.medianMs
    | none => .error (.error ⟨.keyError, "'" ++ mode.value ++ "'"⟩)

def ratioOf (baseline report : RuntimeReport) (mode : SandboxMode) :
    Except SandboxError (SandboxMode × Option Quotient) := do
  let base ← medianOf baseline mode
  if hpositive : 0 < base.value then
    return (mode, some (← liftError (divide (← medianOf report mode) base hpositive)))
  else return (mode, none)

def relate (sameEnvironment : Bool) (baseline report : RuntimeReport) :
    Except SandboxError RuntimeReport := do
  if sameEnvironment && baseline.status == .pass && report.status == .pass then
    return { report with relativeToRunc := some (← modes.mapM (ratioOf baseline report)) }
  else return { report with relativeToRunc := none }

/-- Whether everything that ran had one identity. -/
def sameEnvironment (trials : Trials) : Bool :=
  let identities := (runtimes.flatMap fun runtime =>
    identitiesOf bench (trials.samples runtime)).dedup
  identities.length == 1

def summarize (trials : Trials) (repetitions : Nat) :
    Except SandboxError (List RuntimeReport × Comparison) := do
  let reports ← runtimes.mapM (reportOf trials repetitions)
  let baseline ← firstOf reports
  let related ← reports.mapM (relate (sameEnvironment bench trials) baseline)
  return (related, {
    repetitions
    executionOrder := trials.order
    sameEnvironment := sameEnvironment bench trials })

end Reports

def compareRuntimes {σ : Type} (bench : Bench σ) (source : SourceBundle) (repetitions : Int) :
    BenchM σ (List RuntimeReport × Comparison) := do
  if ¬ (1 ≤ repetitions ∧ repetitions ≤ 10) then
    throw (.error ⟨.valueError, "Qualification repetitions must be between 1 and 10"⟩)
  let trials ← runTrials bench source repetitions.toNat
  ofExcept (summarize bench trials repetitions.toNat)

/-! ## Trials -/

/-- The checks of a probe are literally true in what it wrote. -/
def ProbeHolds {σ : Type} (bench : Bench σ) (stdout : String) : Prop :=
  ∃ fields, bench.loads stdout = .ok (.obj fields) ∧
    ∀ key ∈ probeChecks, (Json.obj fields).get? key = some (.bool true)

/-- A completed job with exit code 0 and a confirmed cleanup, within its limits. Of a probe
the checks hold as well. -/
structure JobHolds {σ : Type} (bench : Bench σ) (job : SandboxMode × SandboxResult) : Prop where
  completed : job.2.status = .completed
  exited : job.2.execution.exitCode.pyEq (.int 0) = true
  cleaned : job.2.execution.cleanupSucceeded = true
  timely : job.2.execution.timedOut = false
  whole : job.2.execution.outputTruncated = false
  bounded : Json.truthy (some job.2.execution.oomKilled) = false
  probe : job.1 = .probe → ProbeHolds bench job.2.stdout

/-- A trial of all four jobs, the probe among them, that all hold. -/
structure TrialHolds {σ : Type} (bench : Bench σ) (trial : Trial) : Prop where
  complete : trial.jobs.map Prod.fst = modes
  jobs : ∀ job ∈ trial.jobs, JobHolds bench job

/-- A text that is read, or rejected as malformed. -/
def Readable {σ : Type} (bench : Bench σ) (stdout : String) : Prop :=
  ∀ error, bench.loads stdout = .error error → error.type ∈ [ErrorType.valueError, .typeError]

/-- What the probes among some jobs wrote is readable. -/
def ProbesRead {σ : Type} (bench : Bench σ) (jobs : Jobs) : Prop :=
  ∀ job ∈ jobs, job.1 = .probe → job.2.status ≠ .unavailable → Readable bench job.2.stdout

section TrialFacts

variable {σ : Type} {bench : Bench σ} {source : SourceBundle} {state last : BenchState σ}
  {runtime : Runtime}

/-- A job holds when it passed and, for a probe, its report shows the runtime's isolation.
-/
theorem jobHolds_iff {mode : SandboxMode} {job : SandboxResult} :
    JobHolds bench (mode, job) ↔
      jobPassed job = true ∧ (mode = .probe → ProbeHolds bench job.stdout) := by
  constructor
  · rintro ⟨hcompleted, hexited, hcleaned, htimely, hwhole, hbounded, hprobe⟩
    refine ⟨?_, hprobe⟩
    dsimp only at hcompleted hexited hcleaned htimely hwhole hbounded
    simp [jobPassed, hcompleted, hexited, hcleaned, htimely, hwhole, hbounded]
  · rintro ⟨hpassed, hprobe⟩
    simp only [jobPassed, Bool.and_eq_true, Bool.not_eq_true', Bool.or_eq_false_iff, beq_iff_eq]
      at hpassed
    obtain ⟨⟨⟨hcompleted, hexited⟩, hcleaned⟩, ⟨htimely, hwhole⟩, hbounded⟩ := hpassed
    exact ⟨hcompleted, hexited, hcleaned, htimely, hwhole, hbounded, hprobe⟩

theorem failedChecks_fail : failedChecks.all Prod.snd = false := by
  decide

/-- Texts are read, if they are readable, as checks that say whether the probe holds. -/
theorem readChecks_cases (bench : Bench σ) (stdout : String) :
    Readable bench stdout ∧ (∃ checks, readChecks bench stdout = .ok checks ∧ checks ≠ [] ∧
      (checks.all Prod.snd = true ↔ ProbeHolds bench stdout)) ∨
    ¬ Readable bench stdout ∧ ∃ error, readChecks bench stdout = .error error := by
  unfold readChecks
  cases hloads : bench.loads stdout with
  | ok value =>
      have hreadable : Readable bench stdout := by
        intro error herror
        rw [hloads] at herror
        cases herror
      -- Whatever is no object is read as failed checks, and no object shows isolation.
      have hfailed (hobject : ∀ fields, value ≠ .obj fields) : ∃ checks,
          Except.ok failedChecks = (.ok checks : Except PyError ProbeChecks) ∧ checks ≠ [] ∧
            (checks.all Prod.snd = true ↔ ProbeHolds bench stdout) := by
        refine ⟨failedChecks, rfl, by decide, ?_⟩
        rw [failedChecks_fail]
        refine ⟨fun hholds => (by cases hholds), ?_⟩
        rintro ⟨fields, hfields, -⟩
        rw [hloads] at hfields
        exact absurd (Except.ok.inj hfields) (hobject fields)
      left
      refine ⟨hreadable, ?_⟩
      cases value with
      | obj fields =>
          refine ⟨_, rfl, by simp [probeChecks], ?_⟩
          simp only [List.all_map, List.all_eq_true, Function.comp_apply, beq_iff_eq]
          constructor
          · exact fun hchecks => ⟨fields, hloads, hchecks⟩
          · rintro ⟨found, hfound, hchecks⟩
            rw [hloads] at hfound
            cases hfound
            exact hchecks
      | _ => exact hfailed fun fields hobject => by cases hobject
  | error error =>
      dsimp only
      split
      -- The errors that are caught count as failed checks too.
      next hexpected =>
        left
        refine ⟨fun other hother => ?_, failedChecks, rfl, by decide, ?_⟩
        · rw [hloads] at hother
          cases hother
          exact hexpected
        · rw [failedChecks_fail]
          refine ⟨fun hholds => (by cases hholds), ?_⟩
          rintro ⟨fields, hfields, -⟩
          rw [hloads] at hfields
          cases hfields
      -- Any other error escapes the trial.
      next hescaped => exact .inr ⟨fun hreadable => hescaped (hreadable error hloads), error, rfl⟩

end TrialFacts

/-! ## The answers of a backend -/

/-- What a backend was asked and answered, whatever was read of it. -/
structure Asked (σ : Type) where
  backend : σ
  unavailable : List Runtime
  answers : List (Runtime × SandboxMode × SandboxResult)

def isMissing (jobs : Jobs) : Bool := jobs.any fun job => job.2.status == .unavailable

section Asking

variable {σ : Type} (bench : Bench σ) (source : SourceBundle)

/-- The answers to the jobs of a trial, up to the first that is unavailable. -/
def askModes (runtime : Runtime) : List SandboxMode → σ → Jobs × σ
  | [], backend => ([], backend)
  | mode :: rest, backend =>
    let answer := bench.execute ⟨source, mode, .default⟩ runtime backend
    if answer.1.status = .unavailable then ([(mode, answer.1)], answer.2)
    else
      let later := askModes runtime rest answer.2
      ((mode, answer.1) :: later.1, later.2)

/-- The answers after one more trial of a runtime, unless it is unavailable. -/
def Asked.next (asked : Asked σ) (runtime : Runtime) : Asked σ :=
  if runtime ∈ asked.unavailable then asked
  else
    let trial := askModes bench source runtime modes asked.backend
    { backend := trial.2
      unavailable :=
        if isMissing trial.1 then asked.unavailable ++ [runtime] else asked.unavailable
      answers := asked.answers ++ trial.1.map fun job => (runtime, job) }

def askTrials (repetitions : Nat) (start : σ) : Asked σ :=
  (List.range repetitions).foldl
    (fun asked repetition => (rotated repetition).foldl (Asked.next bench source) asked)
    ⟨start, [], []⟩

/-- What a backend answers to so many repetitions of the trials. -/
def Bench.answers (repetitions : Nat) (start : σ) : List (Runtime × SandboxMode × SandboxResult) :=
  (askTrials bench source repetitions start).answers

/-- The checks that are read of some jobs. -/
def checksOf : Jobs → ProbeChecks → Except PyError ProbeChecks
  | [], checks => .ok checks
  | job :: rest, checks =>
    if job.2.status = .unavailable then checksOf rest checks
    else do checksOf rest (← checksAfter bench job.1 job.2 checks)

end Asking

section Answers

variable {σ : Type} {bench : Bench σ} {source : SourceBundle} {runtime : Runtime}

/-- The jobs of a trial are those that are asked for, and fail where their checks do. -/
theorem runModes_asks (rest : List SandboxMode) (jobs : Jobs) (checks : ProbeChecks)
    (state : BenchState σ) :
    (∀ read, checksOf bench (askModes bench source runtime rest state.backend).1 checks = .ok read →
      runModes bench source runtime rest jobs checks state =
        .ok (jobs ++ (askModes bench source runtime rest state.backend).1, read,
            isMissing (askModes bench source runtime rest state.backend).1)
          ⟨(askModes bench source runtime rest state.backend).2, state.ran ++
            (askModes bench source runtime rest state.backend).1.map fun job => (runtime, job)⟩) ∧
    (∀ error, checksOf bench (askModes bench source runtime rest state.backend).1 checks =
        .error error →
      ∃ last, runModes bench source runtime rest jobs checks state =
        .error (.error error) last) := by
  -- The induction carries the jobs and the checks collected so far.
  induction rest generalizing jobs checks state with
  | nil =>
      constructor
      · intro read hread
        cases hread
        simp [askModes, runModes, isMissing]
        rfl
      · intro error herror
        cases herror
  | cons mode rest ih =>
      obtain ⟨answer, hanswer⟩ : ∃ answer,
        bench.execute ⟨source, mode, .default⟩ runtime state.backend = answer := ⟨_, rfl⟩
      have hexecute : executeJob bench source mode runtime state =
          .ok answer.1 ⟨answer.2, state.ran ++ [(runtime, mode, answer.1)]⟩ := by
        rw [executeJob, hanswer]
      rw [runModes, bind_of_ok hexecute]
      simp only [askModes, hanswer]
      split
      -- A missing runtime ends the trial before anything is read of its answer.
      next hmissing =>
        simp only [checksOf, hmissing, if_true]
        constructor
        · intro read hread
          cases hread
          simp [isMissing, hmissing]
          rfl
        · intro error herror
          cases herror
      next hran =>
        simp only [checksOf, if_neg hran]
        cases hafter : checksAfter bench mode answer.1 checks with
        | ok between =>
            obtain ⟨hreturned, hraised⟩ := ih (jobs ++ [(mode, answer.1)]) between
              ⟨answer.2, state.ran ++ [(runtime, mode, answer.1)]⟩
            constructor
            · intro read hread
              have hlater := hreturned read hread
              simp only [List.append_assoc, List.singleton_append] at hlater
              refine hlater.trans ?_
              simp [isMissing, hran]
            · exact fun error herror => hraised error herror
        | error error =>
            constructor
            · intro read hread
              cases hread
            · intro other hother
              cases hother
              exact ⟨_, rfl⟩

/-- The modes are asked in their order, and all of them unless one is missing. -/
theorem map_fst_askModes (rest : List SandboxMode) (backend : σ) :
    (askModes bench source runtime rest backend).1.map Prod.fst <+: rest ∧
      (isMissing (askModes bench source runtime rest backend).1 = false →
        (askModes bench source runtime rest backend).1.map Prod.fst = rest) ∧
      ∀ job ∈ (askModes bench source runtime rest backend).1, ∃ backend,
        job.2 = (bench.execute ⟨source, job.1, .default⟩ runtime backend).1 := by
  induction rest generalizing backend with
  | nil => simp [askModes]
  | cons mode rest ih =>
      obtain ⟨hstart, hcomplete, hexecuted⟩ :=
        ih (bench.execute ⟨source, mode, .default⟩ runtime backend).2
      rw [askModes]
      split
      next hmissing =>
        refine ⟨by simp, fun hran => ?_, by simpa using ⟨backend, rfl⟩⟩
        simp [isMissing, hmissing] at hran
      next hran =>
        refine ⟨List.prefix_cons_inj mode |>.mpr hstart, fun hall => ?_, fun job hjob => ?_⟩
        · have hlater : isMissing (askModes bench source runtime rest
              (bench.execute ⟨source, mode, .default⟩ runtime backend).2).1 = false :=
            (Bool.or_eq_false_iff.mp hall).2
          rw [List.map_cons, hcomplete hlater]
        · rcases List.mem_cons.mp hjob with rfl | hmem
          · exact ⟨backend, rfl⟩
          · exact hexecuted job hmem

theorem checksOf_of_unprobed {jobs : Jobs} (hjobs : ∀ job ∈ jobs, job.1 ≠ .probe)
    (checks : ProbeChecks) : checksOf bench jobs checks = .ok checks := by
  induction jobs with
  | nil => rfl
  | cons job rest ih =>
      have hother : job.1 ≠ .probe := hjobs job List.mem_cons_self
      have hrest := ih fun job hjob => hjobs job (List.mem_cons_of_mem _ hjob)
      rw [checksOf]
      split
      · exact hrest
      · rw [checksAfter, if_neg hother]
        exact hrest

/-- A trial begins with its probe. -/
theorem askModes_modes (backend : σ) :
    ∃ answer later, (askModes bench source runtime modes backend).1 = (.probe, answer) :: later ∧
      (∀ job ∈ later, job.1 ≠ .probe) := by
  rw [modes, askModes]
  split
  · exact ⟨_, [], rfl, by simp⟩
  · refine ⟨_, _, rfl, fun job hjob => ?_⟩
    have hmode : job.1 ∈ [SandboxMode.build, .test, .analyze] :=
      (map_fst_askModes _ _).1.subset (List.mem_map_of_mem hjob)
    intro hprobe
    rw [hprobe] at hmode
    exact absurd hmode (by decide)

/-- The checks of a trial can be read if its probe can, and decide with its jobs whether
it passed. -/
theorem checksOf_askModes (bench : Bench σ) (source : SourceBundle) (runtime : Runtime)
    (backend : σ) :
    ProbesRead bench (askModes bench source runtime modes backend).1 ∧
      (∃ read, checksOf bench (askModes bench source runtime modes backend).1 [] = .ok read ∧
        (isMissing (askModes bench source runtime modes backend).1 = false →
          (trialPassed (askModes bench source runtime modes backend).1 read = true ↔
            ∀ job ∈ (askModes bench source runtime modes backend).1, JobHolds bench job))) ∨
    ¬ ProbesRead bench (askModes bench source runtime modes backend).1 ∧
      ∃ error, checksOf bench (askModes bench source runtime modes backend).1 [] =
        .error error := by
  have hcomplete := (@map_fst_askModes σ bench source runtime modes backend).2.1
  obtain ⟨answer, later, hjobs, hlater⟩ := @askModes_modes σ bench source runtime backend
  rw [hjobs] at hcomplete ⊢
  -- Only the first job is a probe, so reading the probes is reading that one.
  have hprobes : ProbesRead bench ((.probe, answer) :: later) ↔
      (answer.status ≠ .unavailable → Readable bench answer.stdout) := by
    constructor
    · exact fun hread => hread (.probe, answer) List.mem_cons_self rfl
    · intro hread job hjob hprobe
      rcases List.mem_cons.mp hjob with rfl | hmem
      · exact hread
      · exact absurd hprobe (hlater job hmem)
  rw [hprobes, checksOf]
  dsimp only
  split
  next hmissing =>
    left
    refine ⟨fun hran => absurd hmissing hran, [], checksOf_of_unprobed hlater [], fun hall => ?_⟩
    simp [isMissing, hmissing] at hall
  next hran =>
    rw [checksAfter, if_pos rfl]
    rcases readChecks_cases bench answer.stdout with
      ⟨hreadable, checks, hread, hnonempty, hholds⟩ | ⟨hunreadable, error, herror⟩
    · left
      refine ⟨fun _ => hreadable, checks, ?_, fun hall => ?_⟩
      · rw [hread]
        exact checksOf_of_unprobed hlater checks
      · have hlength := congrArg List.length (hcomplete hall)
        rw [List.length_map] at hlength
        have hempty : checks.isEmpty = false := List.isEmpty_eq_false_iff.mpr hnonempty
        rw [trialPassed, hlength]
        simp only [beq_self_eq_true, Bool.true_and, hempty, Bool.not_false, Bool.and_eq_true,
          hholds, List.all_eq_true]
        constructor
        · rintro ⟨hprobe, hpassed⟩ ⟨mode, job⟩ hjob
          refine jobHolds_iff.mpr ⟨hpassed _ hjob, fun hmode => ?_⟩
          rcases List.mem_cons.mp hjob with hfirst | hmem
          · cases hfirst
            exact hprobe
          · exact absurd hmode (hlater _ hmem)
        · intro hall
          refine ⟨(hall _ List.mem_cons_self).probe rfl, fun job hjob => ?_⟩
          exact (jobHolds_iff.mp (hall job hjob)).1
    · right
      refine ⟨fun hread => hunreadable (hread hran), error, ?_⟩
      rw [herror]
      rfl

end Answers

section Rounds

variable {σ : Type} {bench : Bench σ} {source : SourceBundle} {state last : BenchState σ}

/-- What the trials hold after so many rounds of every runtime. -/
structure Tracks (bench : Bench σ) (source : SourceBundle) (count : Runtime → Nat)
    (trials : Trials) (ran : List (Runtime × SandboxMode × SandboxResult)) : Prop where
  started : ∀ runtime, 0 < count runtime → trials.samples runtime ≠ []
  repeated : ∀ runtime, runtime ∉ trials.unavailable →
    (trials.samples runtime).map Trial.repetition = List.range' 1 (count runtime)
  missed : ∀ runtime ∈ trials.unavailable,
    ∃ trial ∈ trials.samples runtime, trial.status = .unavailable
  judged : ∀ runtime, ∀ trial ∈ trials.samples runtime,
    trial.status = .pass ↔ TrialHolds bench trial
  whole : ∀ runtime, ∀ trial ∈ trials.samples runtime,
    trial.jobs.map Prod.fst = modes ∨ ∃ job ∈ trial.jobs, job.2.status = .unavailable
  /-- The trials of a runtime hold its answers, in their order. -/
  filed : ∀ runtime, (trials.samples runtime).flatMap Trial.jobs =
    (ran.filter fun answer => answer.1 = runtime).map Prod.snd
  executed : ∀ entry ∈ ran, ∃ backend,
    entry.2.2 = (bench.execute ⟨source, entry.2.1, .default⟩ entry.1 backend).1

variable {count : Runtime → Nat} {trials next : Trials} {runtime : Runtime} {repetition : Nat}

/-- The jobs of the trials are those that were run. -/
theorem Tracks.mem_jobs_iff {ran : List (Runtime × SandboxMode × SandboxResult)}
    (htracks : Tracks bench source count trials ran) {job : SandboxMode × SandboxResult} :
    (∃ trial ∈ trials.samples runtime, job ∈ trial.jobs) ↔ (runtime, job) ∈ ran := by
  rw [← List.mem_flatMap, htracks.filed runtime]
  constructor
  · intro hjob
    obtain ⟨answer, hanswer, rfl⟩ := List.mem_map.mp hjob
    obtain ⟨hmem, hruntime⟩ := List.mem_filter.mp hanswer
    rw [decide_eq_true_eq] at hruntime
    exact hruntime ▸ hmem
  · intro hmem
    exact List.mem_map.mpr ⟨(runtime, job), List.mem_filter.mpr ⟨hmem, by simp⟩, rfl⟩

/-- A runtime that is unavailable is passed over. -/
theorem tracks_passedOver (htracks : Tracks bench source count trials state.ran)
    (hmissing : runtime ∈ trials.unavailable) (rounds : Nat) :
    Tracks bench source (Function.update count runtime rounds) trials state.ran := by
  refine { htracks with started := fun other hother => ?_, repeated := fun other hother => ?_ }
  · by_cases hsame : other = runtime
    · obtain ⟨trial, htrial, -⟩ := htracks.missed runtime hmissing
      rw [hsame]
      exact List.ne_nil_of_mem htrial
    · rw [Function.update_of_ne hsame] at hother
      exact htracks.started other hother
  · have hne : other ≠ runtime := by
      rintro rfl
      exact hother hmissing
    rw [Function.update_of_ne hne]
    exact htracks.repeated other hother

theorem mem_samples_add {trial other : Trial} {unavailable : List Runtime}
    {order : List (Nat × Runtime)} {asked : Runtime} :
    other ∈ (trials.add runtime trial unavailable order).samples asked ↔
      other ∈ trials.samples asked ∨ asked = runtime ∧ other = trial := by
  unfold Trials.add
  by_cases hsame : asked = runtime
  · subst hsame
    simp
  · simp [hsame]

/-- A recorded trial, and what made it what it is. -/
structure Performed (bench : Bench σ) (source : SourceBundle) (runtime : Runtime) (repetition : Nat)
    (trial : Trial) : Prop where
  repetition : trial.repetition = repetition + 1
  judged : trial.status = .pass ↔ TrialHolds bench trial
  whole : trial.jobs.map Prod.fst = modes ∨ ∃ job ∈ trial.jobs, job.2.status = .unavailable
  executed : ∀ job ∈ trial.jobs, ∃ backend,
    job.2 = (bench.execute ⟨source, job.1, .default⟩ runtime backend).1

/-- A trial passed if it was not cut short and all of its jobs hold. -/
theorem performed_trialOf {unavailable : List Runtime} {backend : σ} {read : ProbeChecks}
    (hunavailable : isMissing (askModes bench source runtime modes backend).1 = true ↔
      runtime ∈ unavailable)
    (hpassed : isMissing (askModes bench source runtime modes backend).1 = false →
      (trialPassed (askModes bench source runtime modes backend).1 read = true ↔
        ∀ job ∈ (askModes bench source runtime modes backend).1, JobHolds bench job)) :
    Performed bench source runtime repetition (trialOf repetition runtime unavailable
      (askModes bench source runtime modes backend).1 read) := by
  obtain ⟨-, hcomplete, hexecuted⟩ := @map_fst_askModes σ bench source runtime modes backend
  generalize (askModes bench source runtime modes backend).1 = jobs at *
  cases hmissing : isMissing jobs with
  | true =>
      obtain ⟨job, hjob, hstatus⟩ := List.any_eq_true.mp hmissing
      rw [beq_iff_eq] at hstatus
      refine ⟨rfl, ?_, .inr ⟨job, hjob, hstatus⟩, hexecuted⟩
      rw [trialOf, if_pos (hunavailable.mp hmissing)]
      constructor
      · exact fun hpass => (by cases hpass)
      · intro hholds
        rw [(hholds.jobs job hjob).completed] at hstatus
        cases hstatus
  | false =>
      have havailable : runtime ∉ unavailable := by
        intro hmem
        rw [hunavailable.mpr hmem] at hmissing
        cases hmissing
      refine ⟨rfl, ?_, .inl (hcomplete hmissing), hexecuted⟩
      rw [trialOf, if_neg havailable]
      constructor
      · intro hpass
        refine ⟨hcomplete hmissing, (hpassed hmissing).mp ?_⟩
        by_contra hfailed
        rw [if_neg hfailed] at hpass
        cases hpass
      · intro hholds
        exact if_pos ((hpassed hmissing).mpr hholds.jobs)

/-- Adding a performed trial keeps track of what was run. -/
theorem tracks_add {trial : Trial} {unavailable : List Runtime} {order : List (Nat × Runtime)}
    (htracks : Tracks bench source count trials state.ran) (hcount : count runtime = repetition)
    (havailable : runtime ∉ trials.unavailable)
    (hperformed : Performed bench source runtime repetition trial)
    (hunavailable : unavailable = trials.unavailable ∨
      unavailable = trials.unavailable ++ [runtime] ∧ trial.status = .unavailable) :
    Tracks bench source (Function.update count runtime (repetition + 1))
      (trials.add runtime trial unavailable order)
      (state.ran ++ trial.jobs.map fun job => (runtime, job)) where
  started other hother := by
    by_cases hsame : other = runtime
    · exact List.ne_nil_of_mem (mem_samples_add.mpr (.inr ⟨hsame, rfl⟩))
    · rw [Function.update_of_ne hsame] at hother
      obtain ⟨earlier, hearlier⟩ := List.exists_mem_of_ne_nil _ (htracks.started other hother)
      exact List.ne_nil_of_mem (mem_samples_add.mpr (.inl hearlier))
  repeated other hother := by
    -- A runtime found unavailable is exempt from the count from now on.
    have hbefore : other ∉ trials.unavailable := by
      rcases hunavailable with rfl | ⟨rfl, -⟩
      · exact hother
      · exact fun hmem => hother (List.mem_append_left _ hmem)
    by_cases hsame : other = runtime
    · subst hsame
      simp only [Trials.add, Function.update_self, List.map_append, List.map_cons, List.map_nil,
        htracks.repeated other hbefore, hperformed.repetition, hcount]
      rw [List.range'_1_concat, Nat.add_comm]
    · simp only [Trials.add, Function.update_of_ne hsame]
      exact htracks.repeated other hbefore
  missed other hother := by
    -- An unavailable runtime is known from before, or by the trial that is added.
    have hcases : other ∈ trials.unavailable ∨ other = runtime ∧ trial.status = .unavailable := by
      rcases hunavailable with rfl | ⟨rfl, hstatus⟩
      · exact .inl hother
      · rcases List.mem_append.mp hother with hmem | hmem
        · exact .inl hmem
        · exact .inr ⟨List.mem_singleton.mp hmem, hstatus⟩
    rcases hcases with hmem | ⟨hsame, hstatus⟩
    · obtain ⟨earlier, hearlier, hstatus⟩ := htracks.missed other hmem
      exact ⟨earlier, mem_samples_add.mpr (.inl hearlier), hstatus⟩
    · exact ⟨trial, mem_samples_add.mpr (.inr ⟨hsame, rfl⟩), hstatus⟩
  judged other earlier hearlier := by
    rcases mem_samples_add.mp hearlier with hmem | ⟨-, rfl⟩
    · exact htracks.judged other earlier hmem
    · exact hperformed.judged
  whole other earlier hearlier := by
    rcases mem_samples_add.mp hearlier with hmem | ⟨-, rfl⟩
    · exact htracks.whole other earlier hmem
    · exact hperformed.whole
  filed other := by
    rw [List.filter_append, List.map_append, ← htracks.filed other]
    by_cases hsame : other = runtime
    · subst hsame
      -- What was run for other runtimes is not filed under this one.
      have hnew : ((trial.jobs.map fun job => (other, job)).filter
          fun answer => answer.1 = other).map Prod.snd = trial.jobs := by
        simp [List.filter_map, Function.comp_def]
      simp [Trials.add, hnew]
    · have hnew : (trial.jobs.map fun job => (runtime, job)).filter
          (fun answer => answer.1 = other) = [] := by
        rw [List.filter_eq_nil_iff]
        intro answer hanswer
        obtain ⟨job, -, rfl⟩ := List.mem_map.mp hanswer
        simpa using Ne.symm hsame
      simp [Trials.add, Function.update_of_ne hsame, hnew]
  executed entry hentry := by
    rcases List.mem_append.mp hentry with hmem | hmem
    · exact htracks.executed entry hmem
    · obtain ⟨job, hjob, rfl⟩ := List.mem_map.mp hmem
      exact hperformed.executed job hjob

/-- Running a trial keeps track of its jobs, whether or not its runtime is available. -/
theorem tracks_runTrial (htracks : Tracks bench source count trials state.ran)
    (hcount : count runtime = repetition)
    (hrun : runTrial bench source repetition trials runtime state = .ok next last) :
    Tracks bench source (Function.update count runtime (repetition + 1)) next last.ran := by
  unfold runTrial at hrun
  split at hrun
  next hmissing =>
    cases hrun
    exact tracks_passedOver htracks hmissing _
  next havailable =>
    obtain ⟨hreturned, hraised⟩ := @runModes_asks σ bench source runtime modes [] [] state
    rcases checksOf_askModes bench source runtime state.backend with
      ⟨-, read, hread, hpassed⟩ | ⟨-, error, herror⟩
    · rw [bind_of_ok (hreturned read hread)] at hrun
      cases hrun
      rw [List.nil_append]
      refine tracks_add htracks hcount havailable (performed_trialOf ?_ hpassed) ?_
      · split
        next hmissing => simp [hmissing]
        next hpresent =>
          exact ⟨fun hmissing => absurd hmissing hpresent, fun hmem => absurd hmem havailable⟩
      · split
        next hmissing => exact .inr ⟨rfl, if_pos (by simp)⟩
        next => exact .inl rfl
    · obtain ⟨middle, hmodes⟩ := hraised error herror
      rw [bind_of_error hmodes] at hrun
      cases hrun

/-- A round runs one trial of each runtime that is available. -/
theorem tracks_round {order : List Runtime} (hnodup : order.Nodup)
    (htracks : Tracks bench source count trials state.ran)
    (hcount : ∀ runtime ∈ order, count runtime = repetition)
    (hrun : order.foldlM (runTrial bench source repetition) trials state = .ok next last) :
    ∃ counted : Runtime → Nat, (∀ runtime ∈ order, counted runtime = repetition + 1) ∧
      (∀ runtime, runtime ∉ order → counted runtime = count runtime) ∧
      Tracks bench source counted next last.ran := by
  induction order generalizing count trials state with
  | nil =>
      cases hrun
      exact ⟨count, by simp, fun _ _ => rfl, htracks⟩
  | cons runtime rest ih =>
      rw [List.foldlM_cons, bind_eq_ok] at hrun
      obtain ⟨after, middle, hfirst, hrest⟩ := hrun
      obtain ⟨hruntime, hnodup⟩ := List.nodup_cons.mp hnodup
      have hstep := tracks_runTrial htracks (hcount runtime List.mem_cons_self) hfirst
      have hothers : ∀ other ∈ rest,
          Function.update count runtime (repetition + 1) other = repetition := by
        intro other hother
        have hne : other ≠ runtime := by
          rintro rfl
          exact hruntime hother
        rw [Function.update_of_ne hne]
        exact hcount other (List.mem_cons_of_mem _ hother)
      obtain ⟨counted, hvisited, hkept, htracks⟩ := ih hnodup hstep hothers hrest
      refine ⟨counted, fun other hother => ?_, fun other hother => ?_, htracks⟩
      · rcases List.mem_cons.mp hother with rfl | hmem
        · rw [hkept other hruntime, Function.update_self]
        · exact hvisited other hmem
      · rw [List.mem_cons, not_or] at hother
        rw [hkept other hother.2, Function.update_of_ne hother.1]

/-- Every repetition visits every runtime once. -/
theorem perm_rotated (repetition : Nat) : (rotated repetition).Perm runtimes :=
  List.perm_append_comm.trans (List.Perm.of_eq (List.take_append_drop _ _))

theorem mem_runtimes (runtime : Runtime) : runtime ∈ runtimes := by
  cases runtime <;> decide

/-- All rounds together run the asked number of trials. -/
theorem tracks_runTrials {repetitions : Nat} {start : σ}
    (hrun : runTrials bench source repetitions ⟨start, []⟩ = .ok trials last) :
    Tracks bench source (fun _ => repetitions) trials last.ran := by
  unfold runTrials at hrun
  induction repetitions generalizing trials last with
  | zero =>
      cases hrun
      constructor <;> simp
  | succ repetitions ih =>
      rw [List.range_succ, List.foldlM_append, bind_eq_ok] at hrun
      obtain ⟨before, middle, hbefore, hround⟩ := hrun
      rw [List.foldlM_cons, bind_eq_ok] at hround
      obtain ⟨after, final, hround, hlast⟩ := hround
      cases hlast
      have hnodup : (rotated repetitions).Nodup :=
        (perm_rotated repetitions).nodup_iff.mpr (by decide)
      obtain ⟨counted, hvisited, -, htracks⟩ :=
        tracks_round hnodup (ih hbefore) (fun _ _ => rfl) hround
      have hcounted : counted = fun _ => repetitions + 1 := by
        funext runtime
        exact hvisited runtime ((perm_rotated repetitions).mem_iff.mpr (mem_runtimes runtime))
      rwa [hcounted] at htracks

end Rounds


section Readings

variable {σ : Type} {bench : Bench σ} {source : SourceBundle} {state : BenchState σ}
  {trials : Trials} {asked : Asked σ}

/-- The trials after some answers, all of which could be read. -/
structure Follows (bench : Bench σ) (asked : Asked σ) (trials : Trials) (state : BenchState σ) :
    Prop where
  backend : state.backend = asked.backend
  ran : state.ran = asked.answers
  unavailable : trials.unavailable = asked.unavailable
  read : ProbesRead bench (asked.answers.map Prod.snd)

theorem probesRead_append {jobs later : Jobs} :
    ProbesRead bench (jobs ++ later) ↔ ProbesRead bench jobs ∧ ProbesRead bench later := by
  unfold ProbesRead
  simp only [List.mem_append, or_imp, forall_and]

/-- What was answered stays. -/
theorem answers_next (asked : Asked σ) (runtime : Runtime) :
    asked.answers <+: (asked.next bench source runtime).answers := by
  unfold Asked.next
  split
  · exact List.prefix_rfl
  · exact List.prefix_append _ _

/-- A probe that cannot be read is not read by going on. -/
theorem unread_of_prefix {answers later : List (Runtime × SandboxMode × SandboxResult)}
    (hlater : answers <+: later) (hunread : ¬ ProbesRead bench (answers.map Prod.snd)) :
    ¬ ProbesRead bench (later.map Prod.snd) := by
  obtain ⟨more, rfl⟩ := hlater
  rw [List.map_append, probesRead_append]
  exact fun hread => hunread hread.1

/-- A trial follows the answers, or meets a probe that it cannot read. -/
theorem meets_runTrial (repetition : Nat) (runtime : Runtime)
    (hfollows : Follows bench asked trials state) :
    Meets (Follows bench (asked.next bench source runtime))
      (¬ ProbesRead bench ((asked.next bench source runtime).answers.map Prod.snd))
      (runTrial bench source repetition trials runtime state) := by
  unfold runTrial Asked.next
  rw [hfollows.unavailable]
  split
  next => exact hfollows
  next havailable =>
    obtain ⟨hreturned, hraised⟩ := @runModes_asks σ bench source runtime modes [] [] state
    rw [← hfollows.backend]
    have hanswers : (asked.answers ++ (askModes bench source runtime modes state.backend).1.map
        fun job => (runtime, job)).map Prod.snd =
        asked.answers.map Prod.snd ++ (askModes bench source runtime modes state.backend).1 := by
      simp [Function.comp_def]
    rcases checksOf_askModes bench source runtime state.backend with
      ⟨hprobes, read, hread, -⟩ | ⟨hunread, error, herror⟩
    · rw [bind_of_ok (hreturned read hread)]
      refine ⟨rfl, by rw [hfollows.ran], rfl, ?_⟩
      rw [hanswers, probesRead_append]
      exact ⟨hfollows.read, hprobes⟩
    · obtain ⟨middle, hmodes⟩ := hraised error herror
      rw [bind_of_error hmodes]
      change ¬ ProbesRead bench _
      rw [hanswers, probesRead_append]
      exact fun hread => hunread hread.2

/-- The trials can be run if all probes that answered can be read. -/
theorem meets_runTrials (bench : Bench σ) (source : SourceBundle) (repetitions : Nat) (start : σ) :
    Meets (Follows bench (askTrials bench source repetitions start))
      (¬ ProbesRead bench ((bench.answers source repetitions start).map Prod.snd))
      (runTrials bench source repetitions ⟨start, []⟩) := by
  apply meets_foldlM (Follows bench) fun asked => ¬ ProbesRead bench (asked.answers.map Prod.snd)
  · intro asked trials repetition state hfollows
    apply meets_foldlM (Follows bench)
      (fun asked => ¬ ProbesRead bench (asked.answers.map Prod.snd)) _ _ hfollows
    · exact fun _ _ runtime _ hfollows => meets_runTrial repetition runtime hfollows
    · exact fun asked runtime hunread => unread_of_prefix (answers_next asked runtime) hunread
  · intro asked repetition hunread
    refine List.foldlRecOn
      (motive := fun later : Asked σ => ¬ ProbesRead bench (later.answers.map Prod.snd))
      (rotated repetition) _ hunread ?_
    exact fun asked hunread runtime _ => unread_of_prefix (answers_next asked runtime) hunread
  · exact ⟨rfl, rfl, rfl, by simp [ProbesRead]⟩

end Readings


/-! ## Environments -/

section Environments

variable {σ : Type} {bench : Bench σ}

/-- Two executions with one image, kernel and policy. What the daemon calls an image is
compared as it is written; declared images are equal. -/
structure SameEnvironment (bench : Bench σ) (first second : SandboxExecution) : Prop where
  image : dumpsCanonical bench.floatText first.image = dumpsCanonical bench.floatText second.image
  declared : ∀ image other : Option String, first.image = Json.ofOption .str image →
    second.image = Json.ofOption .str other → image = other
  kernel : first.kernel = second.kernel
  policy : first.policy = second.policy

/-- A policy is read back from its canonical text. -/
theorem modelDump_inj {floatText : Rat → List Char} (hfloat : ∀ value, NumberText (floatText value))
    {policy other : SandboxPolicy}
    (heq : dumpsCanonical floatText policy.modelDump = dumpsCanonical floatText other.modelDump) :
    policy = other := by
  unfold SandboxPolicy.modelDump at heq
  have hfields := fun hkeys hnodup => dumpsFields_inj hfloat hkeys hnodup heq
  specialize hfields rfl (by simp)
  simp only [dumpsFields, dumpsField, List.cons.injEq, Prod.mk.injEq, true_and, and_true] at hfields
  obtain ⟨hcpus, hmemory, hpids, hworkspace, htimeout, houtput⟩ := hfields
  have hint {first second : Nat} (hsame : dumpsCanonical floatText (.int first) =
      dumpsCanonical floatText (.int second)) : first = second := Int.ofNat.inj (dumpsInt_inj hsame)
  cases policy
  cases other
  simp only [SandboxPolicy.mk.injEq]
  exact ⟨hint hcpus, hint hmemory, hint hpids, hint hworkspace, hint htimeout, hint houtput⟩

/-- Executions with one identity have one environment. -/
theorem sameEnvironment_of_identityText {first second : SandboxExecution}
    (heq : identityText bench first = identityText bench second) :
    SameEnvironment bench first second := by
  have hcanonical := dumpsCanonical_eq_of_dumps bench.floatText_number heq
  have hfields := fun hkeys hnodup =>
    dumpsFields_inj bench.floatText_number hkeys hnodup hcanonical
  specialize hfields rfl (by simp)
  simp only [dumpsFields, dumpsField, List.cons.injEq, Prod.mk.injEq, true_and, and_true] at hfields
  obtain ⟨himage, hkernel, hpolicy⟩ := hfields
  refine ⟨himage, fun image other hfirst hsecond => ?_, dumpsText_inj hkernel,
    modelDump_inj bench.floatText_number hpolicy⟩
  rw [hfirst, hsecond] at himage
  exact dumpsOptionText_inj himage

/-- All that ran had one identity. -/
def OneEnvironment (bench : Bench σ) (answers : List (Runtime × SandboxMode × SandboxResult)) :
    Prop :=
  ∀ first ∈ answers, ∀ second ∈ answers, first.2.2.status ≠ .unavailable →
    second.2.2.status ≠ .unavailable →
    identityText bench first.2.2.execution = identityText bench second.2.2.execution

variable {source : SourceBundle} {count : Runtime → Nat} {trials : Trials}
  {ran : List (Runtime × SandboxMode × SandboxResult)}

/-- The identities compared are those of the jobs that were run. -/
theorem mem_identities_iff (htracks : Tracks bench source count trials ran) {text : List Char} :
    text ∈ (runtimes.flatMap fun runtime => identitiesOf bench (trials.samples runtime)) ↔
      ∃ answer ∈ ran, answer.2.2.status ≠ .unavailable ∧
        identityText bench answer.2.2.execution = text := by
  simp only [identitiesOf, List.mem_flatMap, List.mem_map, List.mem_filter]
  constructor
  · rintro ⟨runtime, -, trial, htrial, job, ⟨hjob, hran⟩, rfl⟩
    exact ⟨(runtime, job), htracks.mem_jobs_iff.mp ⟨trial, htrial, hjob⟩, by simpa using hran, rfl⟩
  · rintro ⟨⟨runtime, job⟩, hanswer, hran, rfl⟩
    obtain ⟨trial, htrial, hjob⟩ := htracks.mem_jobs_iff.mpr hanswer
    exact ⟨runtime, mem_runtimes runtime, trial, htrial, job, ⟨hjob, by simpa using hran⟩, rfl⟩

/-- The environments agree exactly when all jobs that were run tell one identity. -/
theorem sameEnvironment_iff (htracks : Tracks bench source count trials ran) :
    sameEnvironment bench trials = true ↔
      (∃ answer ∈ ran, answer.2.2.status ≠ .unavailable) ∧ OneEnvironment bench ran := by
  have hmem {text : List Char} := @mem_identities_iff σ bench source count trials ran htracks text
  rw [sameEnvironment, beq_iff_eq, ← List.card_toFinset, Finset.card_eq_one]
  simp only [Finset.eq_singleton_iff_unique_mem, List.mem_toFinset, hmem]
  constructor
  · rintro ⟨identity, ⟨answer, hanswer, hran, rfl⟩, hunique⟩
    refine ⟨⟨answer, hanswer, hran⟩, fun first hfirst second hsecond hfirstRan hsecondRan => ?_⟩
    rw [hunique _ ⟨first, hfirst, hfirstRan, rfl⟩, hunique _ ⟨second, hsecond, hsecondRan, rfl⟩]
  · rintro ⟨⟨answer, hanswer, hran⟩, hone⟩
    refine ⟨_, ⟨answer, hanswer, hran, rfl⟩, ?_⟩
    rintro _ ⟨other, hother, hotherRan, rfl⟩
    exact hone other hother answer hanswer hotherRan hran

end Environments

/-! ## Measurements -/

section Measurements

variable {σ : Type} {bench : Bench σ} {source : SourceBundle} {trials : Trials}
  {repetitions : Nat} {runtime : Runtime} {report baseline : RuntimeReport}
  {ran : List (Runtime × SandboxMode × SandboxResult)}

/-- All that a runtime was asked for holds. -/
def RuntimeHolds (bench : Bench σ) (answers : List (Runtime × SandboxMode × SandboxResult))
    (runtime : Runtime) : Prop :=
  ∀ answer ∈ answers, answer.1 = runtime → JobHolds bench answer.2

/-- The durations of a job on a runtime, one per repetition. -/
def durations (answers : List (Runtime × SandboxMode × SandboxResult)) (runtime : Runtime)
    (mode : SandboxMode) : List Int :=
  (answers.filter fun answer => answer.1 = runtime ∧ answer.2.1 = mode).map fun answer =>
    answer.2.2.execution.durationMs

/-- A runtime passes exactly when it was available and each of its jobs holds. -/
theorem allPassed_iff (htracks : Tracks bench source (fun _ => repetitions) trials ran) :
    allPassed repetitions (trials.samples runtime) = true ↔ RuntimeHolds bench ran runtime := by
  rw [allPassed, Bool.and_eq_true, List.all_eq_true, beq_iff_eq]
  constructor
  · rintro ⟨-, hpassed⟩ ⟨asked, job⟩ hanswer rfl
    obtain ⟨trial, htrial, hjob⟩ := htracks.mem_jobs_iff.mpr hanswer
    have hpass := beq_iff_eq.mp (hpassed trial htrial)
    exact ((htracks.judged _ trial htrial).mp hpass).jobs job hjob
  · intro hpasses
    have hpassed : ∀ trial ∈ trials.samples runtime, trial.status = .pass := by
      intro trial htrial
      have hjobs : ∀ job ∈ trial.jobs, JobHolds bench job := fun job hjob =>
        hpasses _ (htracks.mem_jobs_iff.mp ⟨trial, htrial, hjob⟩) rfl
      refine (htracks.judged runtime trial htrial).mpr ⟨?_, hjobs⟩
      rcases htracks.whole runtime trial htrial with hcomplete | ⟨job, hjob, hmissing⟩
      · exact hcomplete
      · rw [(hjobs job hjob).completed] at hmissing
        cases hmissing
    have havailable : runtime ∉ trials.unavailable := by
      intro hmissing
      obtain ⟨trial, htrial, hstatus⟩ := htracks.missed runtime hmissing
      rw [hpassed trial htrial] at hstatus
      cases hstatus
    constructor
    · have hlength := congrArg List.length (htracks.repeated runtime havailable)
      rwa [List.length_map, List.length_range'] at hlength
    · exact fun trial htrial => beq_iff_eq.mpr (hpassed trial htrial)

/-- A complete trial has a duration for every mode. -/
theorem durationOf_of_complete {trial : Trial} (hcomplete : trial.jobs.map Prod.fst = modes)
    (mode : SandboxMode) : ∃ duration, durationOf mode trial = .ok duration ∧
      (trial.jobs.filter fun job => job.1 = mode).map (fun job => job.2.execution.durationMs) =
        [duration] := by
  obtain ⟨_, _, _, jobs⟩ := trial
  rcases jobs with _ | ⟨⟨_, first⟩, _ | ⟨⟨_, second⟩, _ | ⟨⟨_, third⟩,
    _ | ⟨⟨_, fourth⟩, _ | _⟩⟩⟩⟩ <;> simp [modes] at hcomplete
  obtain ⟨rfl, rfl, rfl, rfl⟩ := hcomplete
  cases mode <;> exact ⟨_, rfl, rfl⟩

theorem mapM_durationOf {samples : List Trial}
    (hcomplete : ∀ trial ∈ samples, trial.jobs.map Prod.fst = modes) (mode : SandboxMode) :
    samples.mapM (durationOf mode) =
      .ok (((samples.flatMap Trial.jobs).filter fun job => job.1 = mode).map fun job =>
        job.2.execution.durationMs) := by
  induction samples with
  | nil => rfl
  | cons trial rest ih =>
      obtain ⟨duration, hduration, hjobs⟩ :=
        durationOf_of_complete (hcomplete trial List.mem_cons_self) mode
      have hrest := ih fun other hmem => hcomplete other (List.mem_cons_of_mem _ hmem)
      rw [List.mapM_cons, hduration, hrest, List.flatMap_cons, List.filter_append,
        List.map_append, hjobs]
      rfl

/-- The durations of a runtime that passed are those of its trials, of which there is one
per repetition. -/
theorem mapM_durationOf_of_allPassed
    (htracks : Tracks bench source (fun _ => repetitions) trials ran)
    (hpassed : allPassed repetitions (trials.samples runtime) = true) (mode : SandboxMode) :
    (trials.samples runtime).mapM (durationOf mode) = .ok (durations ran runtime mode) ∧
      (durations ran runtime mode).length = repetitions := by
  have hdurations : (trials.samples runtime).mapM (durationOf mode) =
      .ok (durations ran runtime mode) := by
    rw [allPassed, Bool.and_eq_true, List.all_eq_true] at hpassed
    rw [mapM_durationOf fun trial htrial => ((htracks.judged runtime trial htrial).mp
      (beq_iff_eq.mp (hpassed.2 trial htrial))).complete, htracks.filed runtime, durations]
    simp [List.filter_map, List.filter_filter, Function.comp_def, Bool.and_comm]
  refine ⟨hdurations, ?_⟩
  rw [← (forall₂_of_mapM hdurations).length_eq]
  exact beq_iff_eq.mp (Bool.and_eq_true_iff.mp hpassed).1

theorem liftError_eq_ok {α : Type} {ending : Except PyError α} {value : α} :
    liftError ending = .ok value ↔ ending = .ok value := by
  cases ending with
  | ok found => simp [liftError]
  | error error => simp [liftError]

/-- The timings of a passed runtime are the medians over its jobs. -/
theorem timingsOf_eq_ok (htracks : Tracks bench source (fun _ => repetitions) trials ran)
    (hpassed : allPassed repetitions (trials.samples runtime) = true) {mode : SandboxMode}
    {entry : SandboxMode × ModeTimings} :
    timingsOf (trials.samples runtime) mode = .ok entry ↔ ∃ middle,
      median (durations ran runtime mode) = .ok middle ∧
        (mode, ⟨durations ran runtime mode, middle⟩) = entry := by
  have hdurations := (mapM_durationOf_of_allPassed htracks hpassed mode).1
  simp only [timingsOf, except_bind_eq_ok, liftError_eq_ok]
  constructor
  · rintro ⟨samples, hsamples, middle, hmiddle, hentry⟩
    rw [hdurations] at hsamples
    cases hsamples
    exact ⟨middle, hmiddle, Except.ok.inj hentry⟩
  · rintro ⟨middle, hmiddle, hentry⟩
    exact ⟨_, hdurations, middle, hmiddle, congrArg _ hentry⟩

theorem firstOf_samples (htracks : Tracks bench source (fun _ => repetitions) trials ran)
    (hrepetitions : 0 < repetitions) (runtime : Runtime) :
    ∃ first, firstOf (trials.samples runtime) = .ok first := by
  cases hsamples : trials.samples runtime with
  | nil => exact absurd hsamples (htracks.started runtime hrepetitions)
  | cons first rest => exact ⟨first, rfl⟩

/-- A report can be made if the medians of a runtime that passed can be taken. -/
theorem reportOf_returns_iff (htracks : Tracks bench source (fun _ => repetitions) trials ran)
    (hrepetitions : 0 < repetitions) :
    (∃ report, reportOf trials repetitions runtime = .ok report) ↔
      (RuntimeHolds bench ran runtime →
        ∀ mode, ∃ middle, median (durations ran runtime mode) = .ok middle) := by
  obtain ⟨first, hfirst⟩ := firstOf_samples htracks hrepetitions runtime
  rw [← allPassed_iff htracks]
  cases hpassed : allPassed repetitions (trials.samples runtime) with
  | false =>
      refine ⟨fun _ hpass => (by cases hpass), fun _ => ?_⟩
      exact ⟨_, by rw [reportOf, hpassed, hfirst]; rfl⟩
  | true =>
      have htimings : (∃ timings, modes.mapM (timingsOf (trials.samples runtime)) = .ok timings) ↔
          ∀ mode, ∃ middle, median (durations ran runtime mode) = .ok middle := by
        rw [mapM_returns_iff]
        constructor
        · intro hentries mode
          obtain ⟨entry, hentry⟩ := hentries mode (by cases mode <;> decide)
          obtain ⟨middle, hmiddle, -⟩ := (timingsOf_eq_ok htracks hpassed).mp hentry
          exact ⟨middle, hmiddle⟩
        · intro hmedians mode _
          obtain ⟨middle, hmiddle⟩ := hmedians mode
          exact ⟨_, (timingsOf_eq_ok htracks hpassed).mpr ⟨middle, hmiddle, rfl⟩⟩
      rw [forall_prop_of_true rfl, ← htimings]
      constructor
      · rintro ⟨report, hreport⟩
        rw [reportOf, except_bind_eq_ok] at hreport
        obtain ⟨timings, hfound, -⟩ := hreport
        rw [hpassed, allTimings, if_pos rfl, except_map_eq_ok] at hfound
        obtain ⟨entries, hentries, -⟩ := hfound
        exact ⟨entries, hentries⟩
      · rintro ⟨timings, hfound⟩
        exact ⟨_, by rw [reportOf, hpassed, hfirst, allTimings, if_pos rfl, hfound]; rfl⟩

/-- One trial per repetition, and all of them hold. -/
structure Qualified (bench : Bench σ) (repetitions : Nat) (report : RuntimeReport) : Prop where
  repeated : report.samples.map Trial.repetition = List.range' 1 repetitions
  trials : ∀ trial ∈ report.samples, TrialHolds bench trial

/-- A report of the trials of a runtime, with the medians of its answers if it passed. -/
structure Reports (bench : Bench σ) (repetitions : Nat) (trials : Trials)
    (ran : List (Runtime × SandboxMode × SandboxResult)) (runtime : Runtime)
    (report : RuntimeReport) : Prop where
  named : report.runtime = runtime
  samples : report.samples = trials.samples runtime
  passed : report.status = .pass ↔ RuntimeHolds bench ran runtime
  timed : report.timings.isSome → RuntimeHolds bench ran runtime
  qualified : RuntimeHolds bench ran runtime → Qualified bench repetitions report
  measured : RuntimeHolds bench ran runtime → ∀ mode, ∃ middle, medianOf report mode = .ok middle ∧
    median (durations ran runtime mode) = .ok middle

theorem exists_lookup {α : Type} {entries : List (SandboxMode × α)}
    (hkeys : entries.map Prod.fst = modes) (mode : SandboxMode) :
    ∃ value, entries.lookup mode = some value ∧ (mode, value) ∈ entries := by
  have hmode : mode ∈ entries.map Prod.fst := by
    rw [hkeys]
    cases mode <;> decide
  have hsome : (entries.lookup mode).isSome := by
    rw [List.lookup_isSome_iff]
    obtain ⟨entry, hentry, hname⟩ := List.mem_map.mp hmode
    exact ⟨entry, hentry, beq_iff_eq.mpr hname.symm⟩
  obtain ⟨value, hvalue⟩ := Option.isSome_iff_exists.mp hsome
  obtain ⟨before, after, hsplit, -⟩ := List.lookup_eq_some_iff.mp hvalue
  exact ⟨value, hvalue, by simp [hsplit]⟩

/-- A runtime that holds is qualified with its own jobs as samples. -/
theorem qualified_of_passes (htracks : Tracks bench source (fun _ => repetitions) trials ran)
    (hsamples : report.samples = trials.samples runtime) (hpasses : RuntimeHolds bench ran runtime) :
    Qualified bench repetitions report := by
  have hall : ∀ trial ∈ trials.samples runtime, trial.status = .pass := by
    have hpassed := (allPassed_iff htracks).mpr hpasses
    intro trial htrial
    exact beq_iff_eq.mp (List.all_eq_true.mp (Bool.and_eq_true_iff.mp hpassed).2 trial htrial)
  have havailable : runtime ∉ trials.unavailable := by
    intro hmissing
    obtain ⟨trial, htrial, hstatus⟩ := htracks.missed runtime hmissing
    rw [hall trial htrial] at hstatus
    cases hstatus
  constructor
  · rw [hsamples]
    exact htracks.repeated runtime havailable
  · intro trial htrial
    rw [hsamples] at htrial
    exact (htracks.judged runtime trial htrial).mp (hall trial htrial)

/-- The timings of a runtime that passed can be looked up. -/
theorem medianOf_of_timings (htracks : Tracks bench source (fun _ => repetitions) trials ran)
    (hpassed : allPassed repetitions (trials.samples runtime) = true)
    {entries : List (SandboxMode × ModeTimings)} (hreport : report.timings = some entries)
    (hentries : modes.mapM (timingsOf (trials.samples runtime)) = .ok entries)
    (mode : SandboxMode) : ∃ middle, medianOf report mode = .ok middle ∧
      median (durations ran runtime mode) = .ok middle := by
  have hall := forall₂_of_mapM hentries
  have hkeys : entries.map Prod.fst = modes.map id := by
    apply map_of_mapM_eq_ok _ hentries
    intro mode entry hentry
    obtain ⟨_, -, rfl⟩ := (timingsOf_eq_ok htracks hpassed).mp hentry
    rfl
  rw [List.map_id] at hkeys
  obtain ⟨timing, hlookup, hmem⟩ := exists_lookup hkeys mode
  obtain ⟨asked, -, hentry⟩ := exists_of_forall₂_left hall.flip hmem
  obtain ⟨middle, hmiddle, heq⟩ := (timingsOf_eq_ok htracks hpassed).mp hentry
  cases heq
  exact ⟨middle, by simp only [medianOf, hreport, hlookup], hmiddle⟩

/-- A report tells of the jobs of its runtime. -/
theorem reports_of_ok (htracks : Tracks bench source (fun _ => repetitions) trials ran)
    (hreport : reportOf trials repetitions runtime = .ok report) :
    Reports bench repetitions trials ran runtime report := by
  rw [reportOf, except_bind_eq_ok] at hreport
  obtain ⟨timings, htimings, hreport⟩ := hreport
  rw [except_bind_eq_ok] at hreport
  obtain ⟨first, -, hreport⟩ := hreport
  have hpasses := @allPassed_iff σ bench source trials repetitions runtime ran htracks
  cases hpassed : allPassed repetitions (trials.samples runtime) with
  | false =>
      rw [hpassed] at hpasses htimings hreport
      have hfailed : ¬ RuntimeHolds bench ran runtime := fun hholds => by cases hpasses.mpr hholds
      cases htimings
      cases hreport
      refine ⟨rfl, rfl, ⟨fun hstatus => ?_, fun hholds => absurd hholds hfailed⟩,
        fun hsome => (by cases hsome), fun hholds => absurd hholds hfailed,
        fun hholds => absurd hholds hfailed⟩
      simp only [Bool.false_eq_true, if_false] at hstatus
      split at hstatus <;> cases hstatus
  | true =>
      have hholds := hpasses.mp hpassed
      rw [hpassed, allTimings, if_pos rfl, except_map_eq_ok] at htimings
      obtain ⟨entries, hentries, rfl⟩ := htimings
      rw [hpassed] at hreport
      cases hreport
      exact ⟨rfl, rfl, ⟨fun _ => hholds, fun _ => rfl⟩, fun _ => hholds,
        fun _ => qualified_of_passes htracks rfl hholds,
        fun _ mode => medianOf_of_timings htracks hpassed rfl hentries mode⟩

/-- Relating a report fails only on a ratio of medians that cannot be formed. -/
theorem relate_returns_iff {sameEnvironment : Bool} :
    (∃ found, relate sameEnvironment baseline report = .ok found) ↔
      (sameEnvironment = true → baseline.status = .pass → report.status = .pass →
        ∀ mode, ∃ ratio, ratioOf baseline report mode = .ok ratio) := by
  have hmodes : (∃ ratios, modes.mapM (ratioOf baseline report) = .ok ratios) ↔
      ∀ mode, ∃ ratio, ratioOf baseline report mode = .ok ratio := by
    rw [mapM_returns_iff]
    exact ⟨fun hratios mode => hratios mode (by cases mode <;> decide),
      fun hratios mode _ => hratios mode⟩
  rw [← hmodes]
  unfold relate
  split
  next hcomparable =>
    simp only [Bool.and_eq_true, beq_iff_eq] at hcomparable
    obtain ⟨⟨hsame, hbase⟩, hpass⟩ := hcomparable
    constructor
    · rintro ⟨found, hfound⟩ - - -
      obtain ⟨ratios, hratios, -⟩ := except_bind_eq_ok.mp hfound
      exact ⟨ratios, hratios⟩
    · intro hratios
      obtain ⟨ratios, hratios⟩ := hratios hsame hbase hpass
      exact ⟨_, by rw [hratios]; rfl⟩
  next hother =>
    refine ⟨fun _ hsame hbase hpass => ?_, fun _ => ⟨_, rfl⟩⟩
    simp [hsame, hbase, hpass] at hother

/-- Relating a report adds the ratios alone, and only between passed runtimes. -/
theorem relate_ok {sameEnvironment : Bool} {found : RuntimeReport}
    (hfound : relate sameEnvironment baseline report = .ok found) :
    found = { report with relativeToRunc := found.relativeToRunc } ∧
      (found.relativeToRunc.isSome →
        sameEnvironment = true ∧ baseline.status = .pass ∧ report.status = .pass) := by
  unfold relate at hfound
  split at hfound
  next hcomparable =>
    rw [except_bind_eq_ok] at hfound
    obtain ⟨ratios, -, hfound⟩ := hfound
    cases hfound
    simp only [Bool.and_eq_true, beq_iff_eq] at hcomparable
    exact ⟨rfl, fun _ => ⟨hcomparable.1.1, hcomparable.1.2, hcomparable.2⟩⟩
  next =>
    cases hfound
    exact ⟨rfl, fun hsome => by cases hsome⟩

/-- A runtime that holds has one duration for each repetition. -/
theorem length_durations (htracks : Tracks bench source (fun _ => repetitions) trials ran)
    (hpasses : RuntimeHolds bench ran runtime) (mode : SandboxMode) :
    (durations ran runtime mode).length = repetitions :=
  (mapM_durationOf_of_allPassed htracks ((allPassed_iff htracks).mpr hpasses) mode).2

/-- A ratio can be taken if it is not one of integers that a float cannot stand for. -/
theorem ratioOf_returns_iff (htracks : Tracks bench source (fun _ => repetitions) trials ran)
    (hrepetitions : 0 < repetitions)
    (hbaseline : Reports bench repetitions trials ran .runc baseline)
    (hreport : Reports bench repetitions trials ran runtime report)
    (hbase : RuntimeHolds bench ran .runc) (hpasses : RuntimeHolds bench ran runtime)
    (mode : SandboxMode) :
    (∃ ratio, ratioOf baseline report mode = .ok ratio) ↔
      (repetitions % 2 = 1 → 0 < exactMedian (durations ran .runc mode) →
        InRange (exactMedian (durations ran runtime mode) /
          exactMedian (durations ran .runc mode))) := by
  obtain ⟨base, hmedian, hdivisor⟩ := hbaseline.measured hbase mode
  obtain ⟨middle, hfound, hmiddle⟩ := hreport.measured hpasses mode
  have hlength := length_durations htracks hpasses mode
  have hsame := hlength.trans (length_durations htracks hbase mode).symm
  have hnonempty : durations ran runtime mode ≠ [] := List.ne_nil_of_length_pos (by omega)
  rw [← hlength, ← divide_returns_iff hnonempty hsame hmiddle hdivisor]
  simp only [ratioOf, bind, Except.bind, hmedian, hfound]
  split
  next hpositive =>
    constructor
    · rintro ⟨ratio, hratio⟩ -
      obtain ⟨quotient, hquotient, -⟩ := except_bind_eq_ok.mp hratio
      exact ⟨quotient, liftError_eq_ok.mp hquotient⟩
    · intro hdivides
      obtain ⟨quotient, hquotient⟩ := hdivides hpositive
      exact ⟨_, by rw [hquotient]; rfl⟩
  next hpositive => exact ⟨fun _ hother => absurd hother hpositive, fun _ => ⟨_, rfl⟩⟩

/-- What can be reckoned with the durations that a backend tells: the medians of an even
number are floats, those of an odd number are integers, but their ratios are floats. -/
structure Timed (bench : Bench σ) (repetitions : Nat)
    (answers : List (Runtime × SandboxMode × SandboxResult)) : Prop where
  medians : repetitions % 2 = 0 → ∀ runtime, RuntimeHolds bench answers runtime → ∀ mode,
    InRange (exactMedian (durations answers runtime mode))
  ratios : repetitions % 2 = 1 → OneEnvironment bench answers → RuntimeHolds bench answers .runc →
    ∀ runtime, RuntimeHolds bench answers runtime → ∀ mode,
      0 < exactMedian (durations answers .runc mode) →
        InRange (exactMedian (durations answers runtime mode) /
          exactMedian (durations answers .runc mode))

/-- A mode's median exists exactly when the mean of two middle durations is in range. -/
theorem medians_return_iff (htracks : Tracks bench source (fun _ => repetitions) trials ran)
    (hrepetitions : 0 < repetitions) (hpasses : RuntimeHolds bench ran runtime) (mode : SandboxMode) :
    (∃ middle, median (durations ran runtime mode) = .ok middle) ↔
      (repetitions % 2 = 0 → InRange (exactMedian (durations ran runtime mode))) := by
  have hlength := length_durations htracks hpasses mode
  rw [median_returns_iff (List.ne_nil_of_length_pos (by omega)), hlength]

/-- A runtime that holds ran a job that was available. -/
theorem ran_of_passes (htracks : Tracks bench source (fun _ => repetitions) trials ran)
    (hrepetitions : 0 < repetitions) (hpasses : RuntimeHolds bench ran runtime) :
    ∃ answer ∈ ran, answer.2.2.status ≠ .unavailable := by
  have hlength := length_durations htracks hpasses .probe
  obtain ⟨duration, hduration⟩ :=
    List.exists_mem_of_length_pos (l := durations ran runtime .probe) (by omega)
  obtain ⟨answer, hanswer, -⟩ := List.mem_map.mp hduration
  obtain ⟨hmem, hasked⟩ := List.mem_filter.mp hanswer
  simp only [Bool.decide_and, Bool.and_eq_true, decide_eq_true_eq] at hasked
  refine ⟨answer, hmem, ?_⟩
  rw [(hpasses answer hmem hasked.1).completed]
  decide

/-- Where a runtime holds, the environments are compared on its jobs. -/
theorem sameEnvironment_of_passes (htracks : Tracks bench source (fun _ => repetitions) trials ran)
    (hrepetitions : 0 < repetitions) (hpasses : RuntimeHolds bench ran runtime) :
    sameEnvironment bench trials = true ↔ OneEnvironment bench ran := by
  have hran := ran_of_passes htracks hrepetitions hpasses
  rw [sameEnvironment_iff htracks]
  exact ⟨And.right, fun hone => ⟨hran, hone⟩⟩

/-- A report can be set against the baseline if its ratios can be taken. -/
theorem relate_reports_iff (htracks : Tracks bench source (fun _ => repetitions) trials ran)
    (hrepetitions : 0 < repetitions)
    (hbaseline : Reports bench repetitions trials ran .runc baseline)
    (hreport : Reports bench repetitions trials ran runtime report) :
    (∃ found, relate (sameEnvironment bench trials) baseline report = .ok found) ↔
      (repetitions % 2 = 1 → OneEnvironment bench ran → RuntimeHolds bench ran .runc →
        RuntimeHolds bench ran runtime → ∀ mode, 0 < exactMedian (durations ran .runc mode) →
          InRange (exactMedian (durations ran runtime mode) /
            exactMedian (durations ran .runc mode))) := by
  rw [relate_returns_iff, hbaseline.passed, hreport.passed]
  constructor
  · intro hratios hodd hone hbase hpasses mode
    have hsame := (sameEnvironment_of_passes htracks hrepetitions hpasses).mpr hone
    exact (ratioOf_returns_iff htracks hrepetitions hbaseline hreport hbase hpasses mode).mp
      (hratios hsame hbase hpasses mode) hodd
  · intro hratios hsame hbase hpasses mode
    have hone := (sameEnvironment_of_passes htracks hrepetitions hpasses).mp hsame
    exact (ratioOf_returns_iff htracks hrepetitions hbaseline hreport hbase hpasses mode).mpr
      fun hodd => hratios hodd hone hbase hpasses mode

/-- The baseline of some reports is that of the first runtime. -/
theorem baseline_of_reports {reports : List RuntimeReport}
    (hreports : runtimes.mapM (reportOf trials repetitions) = .ok reports) :
    ∃ baseline, firstOf reports = .ok baseline ∧
      reportOf trials repetitions .runc = .ok baseline := by
  cases forall₂_of_mapM hreports with
  | cons hfirst _ => exact ⟨_, rfl, hfirst⟩

/-- A summary relates every report to that of the baseline. -/
theorem summarize_eq_ok {related : List RuntimeReport} {comparison : Comparison}
    (hsummary : summarize bench trials repetitions = .ok (related, comparison)) :
    ∃ reports baseline, runtimes.mapM (reportOf trials repetitions) = .ok reports ∧
      reportOf trials repetitions .runc = .ok baseline ∧
      reports.mapM (relate (sameEnvironment bench trials) baseline) = .ok related := by
  rw [summarize, except_bind_eq_ok] at hsummary
  obtain ⟨reports, hreports, hsummary⟩ := hsummary
  rw [except_bind_eq_ok] at hsummary
  obtain ⟨baseline, hbaseline, hsummary⟩ := hsummary
  rw [except_bind_eq_ok] at hsummary
  obtain ⟨found, hrelated, hsummary⟩ := hsummary
  cases hsummary
  obtain ⟨first, hfirst, hbase⟩ := baseline_of_reports hreports
  rw [hfirst] at hbaseline
  cases hbaseline
  exact ⟨reports, baseline, hreports, hbase, hrelated⟩

/-- Where the summary returns, every timing it needs could be formed. -/
theorem timed_of_summarize (htracks : Tracks bench source (fun _ => repetitions) trials ran)
    (hrepetitions : 0 < repetitions) {related : List RuntimeReport} {comparison : Comparison}
    (hsummary : summarize bench trials repetitions = .ok (related, comparison)) :
    Timed bench repetitions ran := by
  obtain ⟨reports, baseline, hreports, hbase, hrelated⟩ := summarize_eq_ok hsummary
  have hmade := forall₂_of_mapM hreports
  constructor
  · intro heven runtime hpasses mode
    obtain ⟨report, -, hreport⟩ := exists_of_forall₂_left hmade (mem_runtimes runtime)
    have hmedians := (reportOf_returns_iff htracks hrepetitions).mp ⟨report, hreport⟩ hpasses
    exact (medians_return_iff htracks hrepetitions hpasses mode).mp (hmedians mode) heven
  · intro hodd hone hbasePasses runtime hpasses
    obtain ⟨report, hmem, hreport⟩ := exists_of_forall₂_left hmade (mem_runtimes runtime)
    have hreturned := mapM_returns_iff.mp ⟨related, hrelated⟩ report hmem
    exact (relate_reports_iff htracks hrepetitions (reports_of_ok htracks hbase)
      (reports_of_ok htracks hreport)).mp hreturned hodd hone hbasePasses hpasses

/-- Where every timing can be formed, the summary returns. -/
theorem summarize_of_timed (htracks : Tracks bench source (fun _ => repetitions) trials ran)
    (hrepetitions : 0 < repetitions) (htimed : Timed bench repetitions ran) :
    ∃ summary, summarize bench trials repetitions = .ok summary := by
  have hreturns : ∀ runtime ∈ runtimes, ∃ report,
      reportOf trials repetitions runtime = .ok report := by
    intro runtime _
    refine (reportOf_returns_iff htracks hrepetitions).mpr fun hpasses mode => ?_
    exact (medians_return_iff htracks hrepetitions hpasses mode).mpr
      fun heven => htimed.medians heven runtime hpasses mode
  obtain ⟨reports, hreports⟩ := mapM_returns_iff.mpr hreturns
  obtain ⟨baseline, hbaseline, hbase⟩ := baseline_of_reports hreports
  have hrelates : ∀ report ∈ reports, ∃ found,
      relate (sameEnvironment bench trials) baseline report = .ok found := by
    intro report hmem
    obtain ⟨runtime, -, hreport⟩ := exists_of_forall₂_left (forall₂_of_mapM hreports).flip hmem
    refine (relate_reports_iff htracks hrepetitions (reports_of_ok htracks hbase)
      (reports_of_ok htracks hreport)).mpr fun hodd hone hbasePasses hpasses => ?_
    exact htimed.ratios hodd hone hbasePasses runtime hpasses
  obtain ⟨related, hrelated⟩ := mapM_returns_iff.mpr hrelates
  unfold summarize
  simp only [bind, Except.bind, hreports, hbaseline, hrelated]
  exact ⟨_, rfl⟩

end Measurements

/-! ## Publication -/

section Published

variable {σ : Type} {bench : Bench σ} {source : SourceBundle} {trials : Trials}
  {repetitions : Nat} {runtime : Runtime} {report baseline : RuntimeReport}
  {ran : List (Runtime × SandboxMode × SandboxResult)}

/-- What a comparison may say of the jobs that ran. -/
structure Sound (bench : Bench σ) (source : SourceBundle) (repetitions : Nat)
    (ran : List (Runtime × SandboxMode × SandboxResult)) (reports : List RuntimeReport) :
    Prop where
  /-- There is one report of each runtime. -/
  complete : reports.map RuntimeReport.runtime = runtimes
  /-- Every job that ran is in a trial of its runtime, and nothing else is. -/
  recorded : ∀ entry ∈ ran, ∃ report ∈ reports, report.runtime = entry.1 ∧
    ∃ trial ∈ report.samples, entry.2 ∈ trial.jobs
  genuine : ∀ report ∈ reports, ∀ trial ∈ report.samples, ∀ job ∈ trial.jobs,
    (report.runtime, job) ∈ ran
  executed : ∀ entry ∈ ran, ∃ backend,
    entry.2.2 = (bench.execute ⟨source, entry.2.1, .default⟩ entry.1 backend).1
  /-- A runtime has passed or has timings only if it qualified. -/
  qualified : ∀ report ∈ reports, report.status = .pass ∨ report.timings.isSome →
    Qualified bench repetitions report
  /-- Ratios are published only between runtimes that passed, and if everything that ran
  had one environment. -/
  related : ∀ report ∈ reports, report.relativeToRunc.isSome → report.status = .pass ∧
    (∀ baseline ∈ reports, baseline.runtime = .runc → baseline.status = .pass) ∧
    ∀ first ∈ ran, ∀ second ∈ ran, first.2.2.status ≠ .unavailable →
      second.2.2.status ≠ .unavailable →
      SameEnvironment bench first.2.2.execution second.2.2.execution

/-- A published report of the trials of a runtime, set against a baseline. -/
structure PublishedReport (bench : Bench σ) (repetitions : Nat) (trials : Trials)
    (ran : List (Runtime × SandboxMode × SandboxResult)) (baseline : RuntimeReport)
    (runtime : Runtime) (report : RuntimeReport) : Prop where
  named : report.runtime = runtime
  samples : report.samples = trials.samples runtime
  passed : report.status = .pass ↔ RuntimeHolds bench ran runtime
  qualified : report.status = .pass ∨ report.timings.isSome → Qualified bench repetitions report
  related : report.relativeToRunc.isSome →
    sameEnvironment bench trials = true ∧ baseline.status = .pass ∧ report.status = .pass

/-- A related report is published with what its runtime showed. -/
theorem published_of_ok {made : RuntimeReport}
    (htracks : Tracks bench source (fun _ => repetitions) trials ran)
    (hmade : reportOf trials repetitions runtime = .ok made)
    (hrelate : relate (sameEnvironment bench trials) baseline made = .ok report) :
    PublishedReport bench repetitions trials ran baseline runtime report := by
  have hreports := reports_of_ok htracks hmade
  obtain ⟨hsame, hrelated⟩ := relate_ok hrelate
  have hstatus : made.status = report.status := by rw [hsame]
  have htimings : made.timings = report.timings := by rw [hsame]
  have hsamples : report.samples = made.samples := by rw [hsame]
  refine ⟨?_, hsamples.trans hreports.samples, hstatus ▸ hreports.passed, fun hpublished => ?_,
    hstatus ▸ hrelated⟩
  · rw [hsame]
    exact hreports.named
  · have hpasses : RuntimeHolds bench ran runtime := by
      rcases hpublished with hpass | hsome
      · exact hreports.passed.mp (hstatus.trans hpass)
      · exact hreports.timed (htimings ▸ hsome)
    exact qualified_of_passes htracks (hsamples.trans hreports.samples) hpasses

/-- A summary that returns is sound. -/
theorem summarize_ok {related : List RuntimeReport} {comparison : Comparison}
    (htracks : Tracks bench source (fun _ => repetitions) trials ran)
    (hsummary : summarize bench trials repetitions = .ok (related, comparison)) :
    Sound bench source repetitions ran related := by
  obtain ⟨reports, baseline, hreports, hbase, hrelated⟩ := summarize_eq_ok hsummary
  have hmade := forall₂_of_mapM hreports
  have hlinked := forall₂_of_mapM hrelated
  -- Every published report was made for a runtime, and every runtime has one.
  have horigin : ∀ report ∈ related,
      ∃ runtime, PublishedReport bench repetitions trials ran baseline runtime report := by
    intro report hreport
    obtain ⟨made, hmem, hrelate⟩ := exists_of_forall₂_left hlinked.flip hreport
    obtain ⟨runtime, -, hmade⟩ := exists_of_forall₂_left hmade.flip hmem
    exact ⟨runtime, published_of_ok htracks hmade hrelate⟩
  have hcovered : ∀ runtime, ∃ report ∈ related,
      report.runtime = runtime ∧ report.samples = trials.samples runtime := by
    intro runtime
    obtain ⟨made, hmem, hmade⟩ := exists_of_forall₂_left hmade (mem_runtimes runtime)
    obtain ⟨report, hreport, hrelate⟩ := exists_of_forall₂_left hlinked hmem
    have hpublished := published_of_ok htracks hmade hrelate
    exact ⟨report, hreport, hpublished.named, hpublished.samples⟩
  refine ⟨?_, fun entry hentry => ?_, fun report hreport trial htrial job hjob => ?_,
    htracks.executed, fun report hreport => ?_, fun report hreport hsome => ⟨?_, ?_, ?_⟩⟩
  · have hnames : reports.map RuntimeReport.runtime = runtimes.map id :=
      map_of_mapM_eq_ok (fun _ _ hmade => (reports_of_ok htracks hmade).named) hreports
    rw [List.map_id] at hnames
    rw [← hnames]
    apply map_of_mapM_eq_ok _ hrelated
    intro made report hrelate
    rw [(relate_ok hrelate).1]
  · obtain ⟨trial, htrial, hjob⟩ := htracks.mem_jobs_iff.mpr hentry
    obtain ⟨report, hreport, hnamed, hsamples⟩ := hcovered entry.1
    exact ⟨report, hreport, hnamed, trial, hsamples ▸ htrial, hjob⟩
  · obtain ⟨runtime, hpublished⟩ := horigin report hreport
    rw [hpublished.samples] at htrial
    rw [hpublished.named]
    exact htracks.mem_jobs_iff.mp ⟨trial, htrial, hjob⟩
  · obtain ⟨runtime, hpublished⟩ := horigin report hreport
    exact hpublished.qualified
  · obtain ⟨runtime, hpublished⟩ := horigin report hreport
    exact (hpublished.related hsome).2.2
  · intro other hother hrunc
    obtain ⟨runtime, hpublished⟩ := horigin report hreport
    obtain ⟨asked, hbaseline⟩ := horigin other hother
    have hasked : asked = .runc := hbaseline.named.symm.trans hrunc
    rw [hbaseline.passed, hasked, ← (reports_of_ok htracks hbase).passed]
    exact (hpublished.related hsome).2.1
  · intro first hfirst second hsecond hran hsecondRan
    obtain ⟨runtime, hpublished⟩ := horigin report hreport
    have hone := ((sameEnvironment_iff htracks).mp (hpublished.related hsome).1).2
    exact sameEnvironment_of_identityText (hone first hfirst second hsecond hran hsecondRan)

end Published

/-! ## Qualification -/

section Qualification

variable {σ : Type}

/-- Within the limits on the repetitions the comparison runs its trials and sums them up. -/
theorem compareRuntimes_admitted (bench : Bench σ) (source : SourceBundle) {repetitions : Int}
    (hadmitted : 1 ≤ repetitions ∧ repetitions ≤ 10) :
    compareRuntimes bench source repetitions = (runTrials bench source repetitions.toNat >>=
      fun trials => ofExcept (summarize bench trials repetitions.toNat)) := by
  unfold compareRuntimes
  rw [if_neg (not_not.mpr hadmitted)]

/-- A comparison that returns did so from its trials. -/
theorem compareRuntimes_eq_ok {bench : Bench σ} {source : SourceBundle} {repetitions : Int}
    (hadmitted : 1 ≤ repetitions ∧ repetitions ≤ 10) {start : σ} {reports : List RuntimeReport}
    {comparison : Comparison} {last : BenchState σ}
    (hrun : compareRuntimes bench source repetitions ⟨start, []⟩ = .ok (reports, comparison) last) :
    ∃ trials, Follows bench (askTrials bench source repetitions.toNat start) trials last ∧
      Tracks bench source (fun _ => repetitions.toNat) trials last.ran ∧
      summarize bench trials repetitions.toNat = .ok (reports, comparison) := by
  rw [compareRuntimes_admitted bench source hadmitted] at hrun
  obtain ⟨trials, middle, htrials, hended⟩ := bind_eq_ok.mp hrun
  obtain ⟨hsummary, rfl⟩ := ofExcept_eq_ok.mp hended
  have hmeets := meets_runTrials bench source repetitions.toNat start
  rw [htrials] at hmeets
  exact ⟨trials, hmeets, tracks_runTrials htrials, hsummary⟩

/-- An admitted comparison returns if the answers of the backend can be read and reckoned
with. -/
theorem compareRuntimes_returns_iff (bench : Bench σ) (source : SourceBundle) {repetitions : Int}
    (hadmitted : 1 ≤ repetitions ∧ repetitions ≤ 10) (start : σ) :
    (∃ reports comparison last,
      compareRuntimes bench source repetitions ⟨start, []⟩ = .ok (reports, comparison) last) ↔
      ProbesRead bench ((bench.answers source repetitions.toNat start).map Prod.snd) ∧
        Timed bench repetitions.toNat (bench.answers source repetitions.toNat start) := by
  constructor
  · rintro ⟨reports, comparison, last, hrun⟩
    obtain ⟨trials, hfollows, htracks, hsummary⟩ := compareRuntimes_eq_ok hadmitted hrun
    have htimed := timed_of_summarize htracks (by omega) hsummary
    rw [hfollows.ran] at htimed
    exact ⟨hfollows.read, htimed⟩
  · rintro ⟨hread, htimed⟩
    have hmeets := meets_runTrials bench source repetitions.toNat start
    rw [compareRuntimes_admitted bench source hadmitted]
    cases htrials : runTrials bench source repetitions.toNat ⟨start, []⟩ with
    | error error last =>
        rw [htrials] at hmeets
        exact absurd hread hmeets
    | ok trials last =>
        rw [htrials] at hmeets
        have htracks := tracks_runTrials htrials
        have hran : last.ran = bench.answers source repetitions.toNat start := hmeets.ran
        rw [← hran] at htimed
        obtain ⟨⟨reports, comparison⟩, hsummary⟩ := summarize_of_timed htracks (by omega) htimed
        rw [bind_of_ok htrials, hsummary]
        exact ⟨reports, comparison, last, rfl⟩

/-- An admitted comparison returns a sound report exactly if what the probes wrote is read
or rejected as malformed, and the durations of what passed can be reckoned with. What it
returns is sound whatever the backend did. -/
theorem runtime_qualification_sound_iff (bench : Bench σ) (source : SourceBundle)
    {repetitions : Int} (hadmitted : 1 ≤ repetitions ∧ repetitions ≤ 10) (start : σ) :
    ((∃ reports comparison last,
      compareRuntimes bench source repetitions ⟨start, []⟩ = .ok (reports, comparison) last ∧
        Sound bench source repetitions.toNat last.ran reports) ↔
      ProbesRead bench ((bench.answers source repetitions.toNat start).map Prod.snd) ∧
        Timed bench repetitions.toNat (bench.answers source repetitions.toNat start)) ∧
    ∀ reports comparison last,
      compareRuntimes bench source repetitions ⟨start, []⟩ = .ok (reports, comparison) last →
        last.ran = bench.answers source repetitions.toNat start ∧
          Sound bench source repetitions.toNat last.ran reports := by
  have hsound : ∀ reports comparison last,
      compareRuntimes bench source repetitions ⟨start, []⟩ = .ok (reports, comparison) last →
        last.ran = bench.answers source repetitions.toNat start ∧
          Sound bench source repetitions.toNat last.ran reports := by
    intro reports comparison last hrun
    obtain ⟨trials, hfollows, htracks, hsummary⟩ := compareRuntimes_eq_ok hadmitted hrun
    exact ⟨hfollows.ran, summarize_ok htracks hsummary⟩
  refine ⟨?_, hsound⟩
  rw [← compareRuntimes_returns_iff bench source hadmitted start]
  constructor
  · rintro ⟨reports, comparison, last, hrun, -⟩
    exact ⟨reports, comparison, last, hrun⟩
  · rintro ⟨reports, comparison, last, hrun⟩
    exact ⟨reports, comparison, last, hrun, (hsound reports comparison last hrun).2⟩

end Qualification

def sampleProbe : String :=
  "\x7b\"bounded_tmpfs:/tmp\": true, \"bounded_tmpfs:/workspace\": true, " ++
  "\"network_denied\": true, \"network_interfaces\": true, \"no_capabilities\": true, " ++
  "\"no_credentials\": true, \"no_host_home\": true, \"no_host_sockets\": true, " ++
  "\"no_new_privileges\": true, \"non_root\": true, \"root_mount_read_only\": true, " ++
  "\"root_read_only\": true\x7d"

/-- A backend that completes every job in ten milliseconds, with one output of all probes. -/
def fixtureBench (probe : String) (loads : String → Except PyError Json) : Bench Unit where
  execute job runtime _ := ({
    status := .completed
    execution := {
      runtime
      isolation := runtime.value
      image := .str "sha256:cc"
      kernel := "fixture-kernel"
      policy := .default
      exitCode := .int 0
      durationMs := 10 }
    stdout := if job.mode = .probe then probe else "[]" }, ())
  loads
  floatText value := (toString value.num).toList
  floatText_number value := numberText_int value.num

def sampleBench : Bench Unit := fixtureBench sampleProbe fun text =>
  if text = sampleProbe then .ok (.obj (probeChecks.map fun key => (key, .bool true)))
  else valueError "Expecting value"

theorem runtime_qualification_sound_iff_sample : ∃ reports comparison last,
    compareRuntimes sampleBench sampleModule 2 ⟨(), []⟩ = .ok (reports, comparison) last ∧
      Sound sampleBench sampleModule 2 last.ran reports := by
  have hsound := runtime_qualification_sound_iff sampleBench sampleModule
    (show (1 : Int) ≤ 2 ∧ (2 : Int) ≤ 10 by decide) ()
  refine hsound.1.mpr ⟨?_, fun _ runtime _ mode => ?_, fun hodd => ?_⟩
  · intro job _ _ _ error herror
    simp only [sampleBench, fixtureBench] at herror
    split at herror
    · cases herror
    · cases herror
      decide
  · cases runtime <;> cases mode <;> decide +kernel
  · exact absurd hodd (by decide)

/-- As many brackets as a job may write. -/
def nestedProbe : String := String.ofList (List.replicate 262144 '[')

def nestingError : PyError where
  type := .recursionError
  message := "Stack overflow (used 8160 kB) while decoding a JSON array from a unicode string"

/-- A backend whose probes write what is nested too deeply to be read. -/
def nestedBench : Bench Unit := fixtureBench nestedProbe fun text =>
  if text = nestedProbe then .error nestingError else valueError "Expecting value"

/-- What a probe writes can make the comparison fail. -/
theorem nested_probe_escapes : ¬ ∃ reports comparison last,
    compareRuntimes nestedBench sampleModule 1 ⟨(), []⟩ = .ok (reports, comparison) last := by
  rw [compareRuntimes_returns_iff nestedBench sampleModule (by decide)]
  rintro ⟨hread, -⟩
  obtain ⟨answer, later, hanswers, hstdout⟩ : ∃ answer later,
      nestedBench.answers sampleModule 1 () = (.runc, .probe, answer) :: later ∧
        answer.status ≠ .unavailable ∧ answer.stdout = nestedProbe := by
    refine ⟨_, _, rfl, ?_, rfl⟩
    decide
  have hmem : (SandboxMode.probe, answer) ∈
      (nestedBench.answers sampleModule 1 ()).map Prod.snd := by
    rw [hanswers]
    exact List.mem_cons_self
  have hrejected := hread _ hmem rfl hstdout.1
  rw [hstdout.2] at hrejected
  have hloads : nestedBench.loads nestedProbe = .error nestingError := by
    simp only [nestedBench, fixtureBench, if_true]
  exact absurd (hrejected nestingError hloads) (by decide)

end Aidlc
