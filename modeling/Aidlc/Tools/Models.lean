import Mathlib.Algebra.Ring.Nat
import Aidlc.Domain.Models

/-! # Source bundles and analysis reports

A validated source file or bundle carries what its validators checked, so code
that receives one never validates it again. A report is the result of an
analyzer together with the request it answers.
-/

namespace Aidlc

open Foundation

def sourceSuffixes : List String :=
  [".py", ".ts", ".tsx", ".js", ".jsx", ".mjs", ".json", ".html", ".css", ".md", ".txt"]

def buildOutputs : List String := ["node_modules", "dist", "__pycache__"]

/-- The components of a path, empty ones included. -/
def pathParts (value : String) : List (List Char) := value.toList.splitOn '/'

/-- The suffix of a path component: the text from its last dot, unless that dot
is the first or the last character. -/
def pathSuffix (name : List Char) : List Char :=
  let extension := (name.reverse.takeWhile fun c => c != '.').reverse
  let stem := name.length - extension.length
  if 2 ≤ stem ∧ extension ≠ [] then '.' :: extension else []

def unsafePart (part : List Char) : Bool := part.isEmpty || part.head? == some '.'

/-- What `safe_source_path` accepts. A relative path whose components are not
empty and do not start with a dot is its own normal form, so its components
are those of the text. -/
def safeSourcePath (value : String) : Bool :=
  let parts := pathParts value
  !(value.toList.head? == some '/'
    || value.toList.any (fun c => c == '\\' || c == ':' || c == '\x00')
    || parts.any unsafePart
    || !sourceSuffixes.any (fun suffix => suffix.toList == pathSuffix (parts.getLastD []))
    || parts.any (fun part => buildOutputs.any fun output => output.toList == part))

structure SourceFile where
  path : String
  content : String
  path_length : 1 ≤ path.length ∧ path.length ≤ 200
  path_safe : safeSourcePath path = true
  content_length : content.length ≤ 65536
  deriving DecidableEq

/-- What a path has to be for a file. -/
structure SourcePath (path : String) : Prop where
  length : 1 ≤ path.length ∧ path.length ≤ 200
  safe : safeSourcePath path = true

theorem api_path : SourcePath "backend/api.py" := ⟨by decide, by decide⟩

theorem index_path : SourcePath "ui/index.html" := ⟨by decide, by decide⟩

theorem main_path : SourcePath "ui/src/main.tsx" := ⟨by decide, by decide⟩

theorem tsconfig_path : SourcePath "ui/tsconfig.json" := ⟨by decide, by decide⟩

theorem package_path : SourcePath "ui/package.json" := ⟨by decide, by decide⟩

theorem empty_length : ("" : String).length ≤ 65536 := by decide

structure SourceBundle where
  files : List SourceFile
  files_length : 1 ≤ files.length ∧ files.length ≤ 50
  paths_nodup : (files.map SourceFile.path).Nodup
  files_size : (files.map fun file => file.content.utf8ByteSize).sum ≤ 262144
  deriving DecidableEq

def validationError {α : Type} (message : String) : Except PyError α :=
  .error ⟨.validationError, message⟩

/-- A model that forbids extra keys. -/
def forbidExtra (value : Json) (keys : List String) : Except PyError Unit :=
  match value with
  | .obj fields =>
      if fields.all fun field => field.1 ∈ keys then .ok ()
      else validationError "Extra inputs are not permitted"
  | _ => validationError "Input should be a valid dictionary"

def requiredStr (value : Json) (key : String) : Except PyError String :=
  match value.get? key with
  | some (.str text) => .ok text
  | some _ => validationError "Input should be a valid string"
  | none => validationError "Field required"

def SourceFile.validate (value : Json) : Except PyError SourceFile := do
  forbidExtra value ["path", "content"]
  let path ← requiredStr value "path"
  let content ← requiredStr value "content"
  if hlength : 1 ≤ path.length ∧ path.length ≤ 200 then
    if hsafe : safeSourcePath path = true then
      if hcontent : content.length ≤ 65536 then
        return ⟨path, content, hlength, hsafe, hcontent⟩
      else validationError "String should have at most 65536 characters"
    else validationError "Expected a relative source file path without traversal or build output"
  else validationError "String should have between 1 and 200 characters"

def SourceBundle.validate (value : Json) : Except PyError SourceBundle := do
  forbidExtra value ["files"]
  match value.get? "files" with
  | some (.arr items) =>
      let files ← items.mapM SourceFile.validate
      if hlength : 1 ≤ files.length ∧ files.length ≤ 50 then
        if hnodup : (files.map SourceFile.path).Nodup then
          if hsize : (files.map fun file => file.content.utf8ByteSize).sum ≤ 262144 then
            return ⟨files, hlength, hnodup, hsize⟩
          else validationError "Source bundle exceeds 256 KiB"
        else validationError "Duplicate source paths"
      else validationError "Tuple should have between 1 and 50 items"
  | some _ => validationError "Input should be a valid tuple"
  | none => validationError "Field required"

def SourceFile.modelDump (file : SourceFile) : Json :=
  .obj [("path", .str file.path), ("content", .str file.content)]

def SourceBundle.modelDump (bundle : SourceBundle) : Json :=
  .obj [("files", .arr (bundle.files.map SourceFile.modelDump))]

theorem SourceFile.validate_modelDump (file : SourceFile) :
    SourceFile.validate file.modelDump = .ok file := by
  have hkeys : forbidExtra file.modelDump ["path", "content"] = .ok () := by
    simp [forbidExtra, modelDump]
  have hpath : requiredStr file.modelDump "path" = .ok file.path := by
    simp [requiredStr, modelDump]
  have hcontent : requiredStr file.modelDump "content" = .ok file.content := by
    simp [requiredStr, modelDump]
  simp only [validate, hkeys, hpath, hcontent, bind, Except.bind]
  rw [dif_pos file.path_length, dif_pos file.path_safe, dif_pos file.content_length]
  rfl

/-- Reading back the dump of a bundle gives the bundle. -/
theorem SourceBundle.validate_modelDump (bundle : SourceBundle) :
    SourceBundle.validate bundle.modelDump = .ok bundle := by
  have hkeys : forbidExtra bundle.modelDump ["files"] = .ok () := by
    simp [forbidExtra, modelDump]
  have hitems : bundle.modelDump.get? "files" = some (.arr (bundle.files.map SourceFile.modelDump)) := by
    simp [modelDump]
  have hfiles : ∀ files : List SourceFile,
      (files.map SourceFile.modelDump).mapM SourceFile.validate = .ok files := by
    intro files
    induction files with
    | nil => rfl
    | cons file rest ih =>
        rw [List.map_cons, List.mapM_cons, SourceFile.validate_modelDump, ih]
        rfl
  simp only [validate, hkeys, hitems, hfiles, bind, Except.bind]
  rw [dif_pos bundle.files_length, dif_pos bundle.paths_nodup, dif_pos bundle.files_size]
  rfl

example : safeSourcePath "backend/api.py" = true := by decide

structure AnalysisRequest where
  artifactId : ArtifactId
  contentSha256 : String
  timeoutSeconds : Nat
  deriving DecidableEq

/-- The analyzer receives source and limits only. -/
structure AnalysisJob where
  source : SourceBundle
  timeoutSeconds : Nat
  maxOutputBytes : Nat
  deriving DecidableEq

inductive Severity where
  | error | warning
  deriving DecidableEq, Repr

structure Finding where
  ruleId : String
  severity : Severity
  path : String
  line : Int
  column : Int
  message : String
  fingerprint : String
  deriving DecidableEq, Repr

structure AnalyzerExecution where
  runtime : String
  isolation : String
  durationMs : Int
  timedOut : Bool
  outputTruncated : Bool
  image : Option String
  containerId : Option String
  kernel : Option String
  runtimeVersion : Option String
  exitCode : Option Int
  oomKilled : Bool
  cleanupSucceeded : Bool
  reason : Option String
  policy : List (String × (String ⊕ Int))
  deriving DecidableEq, Repr

inductive AnalyzerStatus where
  | completed | failed | timedOut | outputLimit | unavailable
  deriving DecidableEq, Repr

def AnalyzerStatus.value : AnalyzerStatus → String
  | .completed => "completed"
  | .failed => "failed"
  | .timedOut => "timed_out"
  | .outputLimit => "output_limit"
  | .unavailable => "unavailable"

structure AnalyzerResult where
  status : AnalyzerStatus
  tool : List (String × String)
  findings : List Finding
  execution : AnalyzerExecution
  deriving DecidableEq, Repr

structure AnalysisSummary where
  errors : Nat
  warnings : Nat
  deriving DecidableEq, Repr

structure AnalysisReport extends AnalyzerResult where
  analysisId : String
  artifactId : ArtifactId
  contentSha256 : String
  runId : RunId
  resultUri : String
  summary : AnalysisSummary
  deriving DecidableEq, Repr

end Aidlc
