import Aidlc.Agents.Catalog
import Aidlc.Domain.Values
import Aidlc.Evaluation.Models
import Aidlc.Foundation.Effects
import Aidlc.Foundation.JsonParser
import Aidlc.Storage.Artifacts

/-! # Source ownership and integration

Each implementation agent writes below a directory of its own; the hub merges
their files. The limits of a bundle are checked for every output alone and again
for all of them together.
-/

namespace Aidlc

open Foundation

/-- The texts below `sandbox/react`. -/
structure ReactAssets where
  packageJson : String
  packageLock : String
  viteConfig : String
  tsconfig : String

/-- `str.startswith` -/
def startsWith (text start : String) : Bool := start.toList.isPrefixOf text.toList

/-- `str.endswith` -/
def endsWith (text tail : String) : Bool := tail.toList.isSuffixOf text.toList

/-- `Path(path).name` of a normal path. -/
def fileName (path : String) : String := String.ofList ((pathParts path).getLastD [])

/-- `if condition: raise ValueError(message)` -/
def reject (condition : Bool) (message : String) : Except PyError Unit :=
  if condition then valueError message else .ok ()

theorem reject_eq_ok {condition : Bool} {message : String} :
    reject condition message = .ok () ↔ condition = false := by
  cases condition <;> simp [reject, valueError]

namespace Source

variable (roundFloat : Rat → Rat) (assets : ReactAssets)

/-- `json.loads` of a text that may not be JSON. -/
def loadsText (text : String) : Except PyError Json :=
  match JsonParser.loads roundFloat text with
  | some value => .ok value
  | none => valueError "Expecting value"

/-- The directory an agent owns. -/
def ownedBy : List (String × String) :=
  [("backend-agent", "backend/"), ("frontend-agent", "ui/"), ("test-agent", "tests/")]

def requiredInterface : List String := ["ui/index.html", "ui/src/main.tsx", "ui/tsconfig.json"]

/-- What is checked of one file of the interface. -/
def checkInterfaceFile (file : SourceFile) : Except PyError Unit := do
  if file.path = "ui/package.json" then
    let declared ← loadsText roundFloat file.content
    let pinned ← loadsText roundFloat assets.packageJson
    reject (!Json.pyEq declared pinned)
      "Frontend dependencies and scripts must match the pinned toolchain"
  reject (file.path == "ui/package-lock.json")
    "The dependency lockfile is supplied by the trusted toolchain"

/-- `validate_source_output` -/
def validateSourceOutput (agent : String) (source : SourceBundle) : Except PyError Unit := do
  match ownedBy.lookup agent with
  | none => .error ⟨.keyError, agent⟩
  | some owned =>
    reject (source.files.any fun file => !startsWith file.path owned)
      (agent ++ " may write only " ++ owned)
    reject (agent != "frontend-agent" && source.files.any fun file => !endsWith file.path ".py")
      "Backend and test source must use standard-library Python"
    if agent = "frontend-agent" then
      reject (!requiredInterface.all fun path => path ∈ source.files.map SourceFile.path)
        "Frontend must include index.html, src/main.tsx and tsconfig.json"
      reject (source.files.any fun file => startsWith (fileName file.path) "vite.config")
        "Vite configuration is supplied by the trusted toolchain"
      source.files.forM (checkInterfaceFile roundFloat assets)

/-- A bundle of validated files, as its own validators see it. -/
def bundleOf (files : List SourceFile) : Except PyError SourceBundle :=
  if hlength : 1 ≤ files.length ∧ files.length ≤ 50 then
    if hnodup : (files.map SourceFile.path).Nodup then
      if hsize : (files.map fun file => file.content.utf8ByteSize).sum ≤ 262144 then
        .ok ⟨files, hlength, hnodup, hsize⟩
      else validationError "Source bundle exceeds 256 KiB"
    else validationError "Duplicate source paths"
  else validationError "Tuple should have between 1 and 50 items"

/-- The latest code change of an agent. -/
def latestChange (artifacts : List ContextItem) (agent : String) : Option ContextItem :=
  artifacts.reverse.find? fun item =>
    item.metadata.kind == .codeChange && item.metadata.producingAgent == agent

/-- The producers of code changes are the three implementation agents. -/
def changedByAll (artifacts : List ContextItem) : Bool :=
  (artifacts.all fun item => item.metadata.kind != .codeChange ||
      (ownedBy.any fun owner => owner.1 == item.metadata.producingAgent)) &&
    ownedBy.all fun owner => (latestChange artifacts owner.1).isSome

/-- The validated files of one implementation agent. -/
def changedFiles (artifacts : List ContextItem) (agent : String) :
    Except PyError (List SourceFile) := do
  match latestChange artifacts agent with
  | none => .error ⟨.keyError, agent⟩
  | some item =>
    let source ← SourceBundle.validate item.content
    validateSourceOutput roundFloat assets agent source
    return source.files

/-- `merge_sources` -/
def mergeSources (context : AgentContext ContextItem) : Except PyError SourceBundle := do
  reject (!changedByAll context.artifacts)
    "Integration requires source from all three implementation agents"
  let files ← ["backend-agent", "frontend-agent", "test-agent"].mapM
    (changedFiles roundFloat assets context.artifacts)
  bundleOf files.flatten

variable {roundFloat assets} {agent : String} {source : SourceBundle}

/-- A bundle has the files it is made of. -/
theorem bundleOf_eq_ok {files : List SourceFile} {bundle : SourceBundle}
    (hbundle : bundleOf files = .ok bundle) : bundle.files = files := by
  unfold bundleOf at hbundle
  split at hbundle
  · split at hbundle
    · split at hbundle
      · cases hbundle
        rfl
      · cases hbundle
    · cases hbundle
  · cases hbundle

/-- Files with distinct paths form a bundle unless they are too many or too long. -/
theorem bundleOf_iff {files : List SourceFile} (hnonempty : 1 ≤ files.length)
    (hnodup : (files.map SourceFile.path).Nodup) :
    (∃ bundle, bundleOf files = .ok bundle) ↔
      files.length ≤ 50 ∧ (files.map fun file => file.content.utf8ByteSize).sum ≤ 262144 := by
  constructor
  · rintro ⟨bundle, hbundle⟩
    have hfiles := bundleOf_eq_ok hbundle
    exact ⟨hfiles ▸ bundle.files_length.2, hfiles ▸ bundle.files_size⟩
  · rintro ⟨hlength, hsize⟩
    refine ⟨⟨files, ⟨hnonempty, hlength⟩, hnodup, hsize⟩, ?_⟩
    rw [bundleOf, dif_pos ⟨hnonempty, hlength⟩, dif_pos hnodup, dif_pos hsize]

/-- What an accepted output of an agent looks like. -/
structure Accepted (agent : String) (source : SourceBundle) : Prop where
  owned : ∃ owned, ownedBy.lookup agent = some owned ∧
    ∀ file ∈ source.files, startsWith file.path owned = true
  interface : agent = "frontend-agent" → ∀ file ∈ source.files,
    startsWith (fileName file.path) "vite.config" = false ∧ file.path ≠ "ui/package-lock.json"

/-- A check that passes has passed every file. -/
theorem forM_eq_ok {check : SourceFile → Except PyError Unit} {files : List SourceFile}
    (hall : files.forM check = .ok ()) : ∀ file ∈ files, check file = .ok () := by
  induction files with
  | nil => exact List.forall_mem_nil _
  | cons file rest ih =>
      rw [List.forM_eq_forM, List.forM_cons, except_bind_eq_ok] at hall
      obtain ⟨⟨⟩, hfirst, hrest⟩ := hall
      exact List.forall_mem_cons.mpr ⟨hfirst, ih hrest⟩

/-- An accepted interface never brings its own lock file. -/
theorem checkInterfaceFile_path {file : SourceFile}
    (hcheck : checkInterfaceFile roundFloat assets file = .ok ()) :
    file.path ≠ "ui/package-lock.json" := by
  intro hpath
  unfold checkInterfaceFile at hcheck
  rw [if_neg (by rw [hpath]; decide)] at hcheck
  dsimp only at hcheck
  rw [reject_eq_ok, hpath] at hcheck
  cases hcheck

/-- A validated output is accepted for its agent. -/
theorem accepted_of_validated
    (hvalid : validateSourceOutput roundFloat assets agent source = .ok ()) :
    Accepted agent source := by
  unfold validateSourceOutput at hvalid
  cases howned : ownedBy.lookup agent with
  | none => rw [howned] at hvalid; cases hvalid
  | some owned =>
      rw [howned] at hvalid
      simp only [except_bind_eq_ok] at hvalid
      obtain ⟨⟨⟩, hprefix, ⟨⟩, -, hrest⟩ := hvalid
      rw [reject_eq_ok] at hprefix
      refine ⟨⟨owned, howned, fun file hfile => ?_⟩, fun hagent file hfile => ?_⟩
      · simpa using List.any_eq_false.mp hprefix file hfile
      · rw [if_pos hagent] at hrest
        simp only [except_bind_eq_ok] at hrest
        obtain ⟨⟨⟩, -, ⟨⟩, hvite, hfiles⟩ := hrest
        rw [reject_eq_ok] at hvite
        exact ⟨by simpa using List.any_eq_false.mp hvite file hfile,
          checkInterfaceFile_path (forM_eq_ok hfiles file hfile)⟩

/-! ## Integration -/

variable {context : AgentContext ContextItem} {backend frontend tests bundle : SourceBundle}

/-- The latest code change of the agent in this context is this bundle. -/
def Outputs (context : AgentContext ContextItem) (agent : String) (source : SourceBundle) : Prop :=
  ∃ item, latestChange context.artifacts agent = some item ∧
    SourceBundle.validate item.content = .ok source

/-- The context holds these bundles as the latest code changes, and no others. -/
structure Holds (context : AgentContext ContextItem) (backend frontend tests : SourceBundle) :
    Prop where
  producers : ∀ item ∈ context.artifacts, item.metadata.kind = .codeChange →
    item.metadata.producingAgent ∈ ["backend-agent", "frontend-agent", "test-agent"]
  backend : Outputs context "backend-agent" backend
  frontend : Outputs context "frontend-agent" frontend
  tests : Outputs context "test-agent" tests

/-- The changed files are those of the agent's validated output. -/
theorem changedFiles_eq_ok {files : List SourceFile} :
    changedFiles roundFloat assets context.artifacts agent = .ok files ↔
      ∃ source, Outputs context agent source ∧
        validateSourceOutput roundFloat assets agent source = .ok () ∧ source.files = files := by
  unfold changedFiles Outputs
  cases latestChange context.artifacts agent with
  | none => simp
  | some item =>
      simp only [Option.some.injEq, exists_eq_left']
      constructor
      · intro hfiles
        rw [except_bind_eq_ok] at hfiles
        obtain ⟨source, hsource, hfiles⟩ := hfiles
        rw [except_bind_eq_ok] at hfiles
        obtain ⟨⟨⟩, hvalid, hfiles⟩ := hfiles
        cases hfiles
        exact ⟨source, hsource, hvalid, rfl⟩
      · rintro ⟨source, hsource, hvalid, rfl⟩
        rw [hsource]
        exact except_bind_eq_ok.mpr ⟨source, rfl, except_bind_eq_ok.mpr ⟨(), hvalid, rfl⟩⟩

/-- A context that holds all three outputs was changed by all. -/
theorem changedByAll_of_holds (hholds : Holds context backend frontend tests) :
    changedByAll context.artifacts = true := by
  obtain ⟨hproducers, ⟨first, hfirst, -⟩, ⟨second, hsecond, -⟩, ⟨third, hthird, -⟩⟩ := hholds
  have howners : ∀ producer, producer ∈ ["backend-agent", "frontend-agent", "test-agent"] →
      ownedBy.any (fun owner => owner.1 == producer) = true := by
    intro producer hproducer
    simp only [ownedBy, List.any_cons, List.any_nil, Bool.or_false, Bool.or_eq_true, beq_iff_eq]
    simp only [List.mem_cons, List.not_mem_nil, or_false] at hproducer
    exact hproducer.imp Eq.symm (Or.imp Eq.symm Eq.symm)
  rw [changedByAll, Bool.and_eq_true, List.all_eq_true]
  refine ⟨fun item hitem => ?_, ?_⟩
  · by_cases hkind : item.metadata.kind = .codeChange
    · rw [howners _ (hproducers item hitem hkind), Bool.or_true]
    · simp [hkind]
  · simp [ownedBy, hfirst, hsecond, hthird]

/-- What the hub merges once every output is accepted. -/
theorem mergeSources_eq (hholds : Holds context backend frontend tests)
    (hbackend : validateSourceOutput roundFloat assets "backend-agent" backend = .ok ())
    (hfrontend : validateSourceOutput roundFloat assets "frontend-agent" frontend = .ok ())
    (htests : validateSourceOutput roundFloat assets "test-agent" tests = .ok ()) :
    mergeSources roundFloat assets context =
      bundleOf (backend.files ++ (frontend.files ++ tests.files)) := by
  have hfirst := changedFiles_eq_ok.mpr ⟨backend, hholds.backend, hbackend, rfl⟩
  have hsecond := changedFiles_eq_ok.mpr ⟨frontend, hholds.frontend, hfrontend, rfl⟩
  have hthird := changedFiles_eq_ok.mpr ⟨tests, hholds.tests, htests, rfl⟩
  rw [mergeSources, changedByAll_of_holds hholds]
  simp only [List.mapM_cons, List.mapM_nil, hfirst, hsecond, hthird]
  simp [reject, bind, Except.bind, pure, Except.pure]

/-- What was merged: the latest outputs of the three agents, each accepted. -/
theorem merged_outputs (hmerge : mergeSources roundFloat assets context = .ok bundle) :
    ∃ backend frontend tests : SourceBundle,
      (Outputs context "backend-agent" backend ∧ Outputs context "frontend-agent" frontend ∧
        Outputs context "test-agent" tests) ∧
      (validateSourceOutput roundFloat assets "backend-agent" backend = .ok () ∧
        validateSourceOutput roundFloat assets "frontend-agent" frontend = .ok () ∧
        validateSourceOutput roundFloat assets "test-agent" tests = .ok ()) ∧
      bundle.files = backend.files ++ (frontend.files ++ tests.files) := by
  rw [mergeSources, except_bind_eq_ok] at hmerge
  obtain ⟨⟨⟩, -, hmerge⟩ := hmerge
  rw [except_bind_eq_ok] at hmerge
  obtain ⟨files, hfiles, hbundle⟩ := hmerge
  simp only [List.mapM_cons, List.mapM_nil, except_bind_eq_ok] at hfiles
  obtain ⟨first, hfirst, rest, ⟨second, hsecond, rest', ⟨third, hthird, rest'', hnil, hrest'⟩,
    hrest⟩, hfiles⟩ := hfiles
  cases hnil
  cases hrest'
  cases hrest
  cases hfiles
  obtain ⟨backend, hbackendOutput, hbackend, rfl⟩ := changedFiles_eq_ok.mp hfirst
  obtain ⟨frontend, hfrontendOutput, hfrontend, rfl⟩ := changedFiles_eq_ok.mp hsecond
  obtain ⟨tests, htestsOutput, htests, rfl⟩ := changedFiles_eq_ok.mp hthird
  refine ⟨backend, frontend, tests, ⟨hbackendOutput, hfrontendOutput, htestsOutput⟩,
    ⟨hbackend, hfrontend, htests⟩, ?_⟩
  simpa using bundleOf_eq_ok hbundle

/-- A merged source has the three outputs, one after the other. -/
theorem merged_files (hmerge : mergeSources roundFloat assets context = .ok bundle) :
    ∃ backend frontend tests : SourceBundle,
      bundle.files = backend.files ++ (frontend.files ++ tests.files) ∧
        Accepted "backend-agent" backend ∧ Accepted "frontend-agent" frontend ∧
        Accepted "test-agent" tests := by
  obtain ⟨backend, frontend, tests, -, ⟨hbackend, hfrontend, htests⟩, hfiles⟩ :=
    merged_outputs hmerge
  exact ⟨backend, frontend, tests, hfiles, accepted_of_validated hbackend,
    accepted_of_validated hfrontend, accepted_of_validated htests⟩

/-- The files of an accepted output lie below the directory of its agent. -/
theorem Accepted.head {owned : String} {c : Char} (haccepted : Accepted agent source)
    (howned : ownedBy.lookup agent = some owned) (hfirst : owned.toList.head? = some c) :
    ∀ path ∈ source.files.map SourceFile.path, path.toList.head? = some c := by
  obtain ⟨other, hother, hfiles⟩ := haccepted.owned
  rw [howned, Option.some.injEq] at hother
  subst hother
  intro path hpath
  obtain ⟨file, hfile, rfl⟩ := List.mem_map.mp hpath
  obtain ⟨rest, hrest⟩ := List.isPrefixOf_iff_prefix.mp (hfiles file hfile)
  rw [← hrest, List.head?_append, hfirst]
  rfl

/-- Backend paths start with their own letter. -/
theorem Accepted.backend_head (haccepted : Accepted "backend-agent" source) :
    ∀ path ∈ source.files.map SourceFile.path, path.toList.head? = some 'b' :=
  haccepted.head rfl rfl

theorem Accepted.frontend_head (haccepted : Accepted "frontend-agent" source) :
    ∀ path ∈ source.files.map SourceFile.path, path.toList.head? = some 'u' :=
  haccepted.head rfl rfl

theorem Accepted.tests_head (haccepted : Accepted "test-agent" source) :
    ∀ path ∈ source.files.map SourceFile.path, path.toList.head? = some 't' :=
  haccepted.head rfl rfl

/-- Accepted outputs of different agents share no path. -/
theorem merged_nodup (hbackend : Accepted "backend-agent" backend)
    (hfrontend : Accepted "frontend-agent" frontend) (htests : Accepted "test-agent" tests) :
    ((backend.files ++ (frontend.files ++ tests.files)).map SourceFile.path).Nodup := by
  rw [List.map_append, List.map_append, List.nodup_append, List.nodup_append]
  refine ⟨backend.paths_nodup, ⟨frontend.paths_nodup, tests.paths_nodup, ?_⟩, ?_⟩
  · rintro first hfirst second hsecond rfl
    have hheads := (hfrontend.frontend_head _ hfirst).symm.trans (htests.tests_head _ hsecond)
    exact absurd hheads (by decide)
  · rintro first hfirst second hsecond rfl
    have hhead := hbackend.backend_head _ hfirst
    rcases List.mem_append.mp hsecond with hother | hother
    · exact absurd (hhead.symm.trans (hfrontend.frontend_head _ hother)) (by decide)
    · exact absurd (hhead.symm.trans (htests.tests_head _ hother)) (by decide)

/-- The bytes of all contents. -/
def bytes (files : List SourceFile) : Nat :=
  (files.map fun file => file.content.utf8ByteSize).sum

theorem bytes_append (first second : List SourceFile) :
    bytes (first ++ second) = bytes first + bytes second := by
  rw [bytes, List.map_append, List.sum_append]
  rfl

/-- A bundle with one path has one file. -/
theorem length_of_path {path : String} (hpath : ∀ file ∈ source.files, file.path = path) :
    source.files.length = 1 := by
  have hpaths : source.files.map SourceFile.path = List.replicate source.files.length path :=
    List.eq_replicate_iff.mpr ⟨List.length_map _, fun other hother => by
      obtain ⟨file, hfile, rfl⟩ := List.mem_map.mp hother
      exact hpath file hfile⟩
  have hnodup := source.paths_nodup
  rw [hpaths, List.nodup_replicate] at hnodup
  have hnonempty := source.files_length.1
  omega

end Source

open Source in
/-- Accepted outputs integrate exactly if together they are neither too many
files nor too long. -/
theorem merge_succeeds_iff {roundFloat : Rat → Rat} {assets : ReactAssets}
    {context : AgentContext ContextItem} {backend frontend tests : SourceBundle}
    (hholds : Source.Holds context backend frontend tests)
    (hbackend : validateSourceOutput roundFloat assets "backend-agent" backend = .ok ())
    (hfrontend : validateSourceOutput roundFloat assets "frontend-agent" frontend = .ok ())
    (htests : validateSourceOutput roundFloat assets "test-agent" tests = .ok ())
    (hapi : ∀ file ∈ backend.files, file.path = "backend/api.py") :
    (∃ merged, mergeSources roundFloat assets context = .ok merged) ↔
      1 + frontend.files.length + tests.files.length ≤ 50 ∧
        bytes backend.files + bytes frontend.files + bytes tests.files ≤ 262144 := by
  have hlength := length_of_path hapi
  have hnodup := merged_nodup (accepted_of_validated hbackend) (accepted_of_validated hfrontend)
    (accepted_of_validated htests)
  have hcount : (backend.files ++ (frontend.files ++ tests.files)).length =
      1 + frontend.files.length + tests.files.length := by
    rw [List.length_append, List.length_append, hlength]
    omega
  rw [mergeSources_eq hholds hbackend hfrontend htests, bundleOf_iff (by omega) hnodup, hcount]
  change _ ∧ bytes _ ≤ _ ↔ _
  rw [bytes_append, bytes_append, ← Nat.add_assoc (bytes backend.files)]

/-! ### Small outputs -/

def sampleBackend : SourceBundle :=
  ⟨[⟨"backend/api.py", "", api_path.length, api_path.safe, empty_length⟩], by decide, by decide,
    by decide⟩

def sampleFrontend : SourceBundle :=
  ⟨[⟨"ui/index.html", "", index_path.length, index_path.safe, empty_length⟩,
      ⟨"ui/src/main.tsx", "", main_path.length, main_path.safe, empty_length⟩,
      ⟨"ui/tsconfig.json", "", tsconfig_path.length, tsconfig_path.safe, empty_length⟩],
    by decide, by decide, by decide⟩

def sampleTests : SourceBundle :=
  ⟨[⟨"tests/test_api.py", "#", by decide, by decide, by decide⟩], by decide, by decide, by decide⟩

/-- An artifact of the run `run_a`. -/
def sampleItem (kind : ArtifactKind) (producingAgent contentSha256 : String) (content : Json) :
    ContextItem where
  metadata :=
    { projectId := "project_a", currentSnapshot := true, artifactId := 0, kind,
      workflowRunId := "run_a", stageId := .implementation, parentArtifactIds := [],
      producingAgent, modelId := none, promptVersion := none, execution := .obj [],
      createdAt := 0, contentSha256 }
  content

def sampleAgentContext (artifacts : List ContextItem) : AgentContext ContextItem where
  runId := "run_a"
  idea := ""
  stage := .integration
  artifacts
  retryAttempt := 0
  humanResponse := none
  repairAttempt := 0
  repairFeedback := none
  repairArtifactId := none
  repairArtifactSha256 := none

/-- The three outputs as code changes of their agents. -/
def sampleChanges (backend frontend tests : SourceBundle) : AgentContext ContextItem :=
  sampleAgentContext
    [sampleItem .codeChange "backend-agent" "" backend.modelDump,
      sampleItem .codeChange "frontend-agent" "" frontend.modelDump,
      sampleItem .codeChange "test-agent" "" tests.modelDump]

theorem sampleChanges_holds (backend frontend tests : SourceBundle) :
    Source.Holds (sampleChanges backend frontend tests) backend frontend tests where
  producers item hitem _ := by
    simp only [sampleChanges, sampleAgentContext, List.mem_cons, List.not_mem_nil,
      or_false] at hitem
    rcases hitem with rfl | rfl | rfl
    all_goals simp [sampleItem]
  backend := ⟨_, rfl, backend.validate_modelDump⟩
  frontend := ⟨_, rfl, frontend.validate_modelDump⟩
  tests := ⟨_, rfl, tests.validate_modelDump⟩

def sampleAssets : ReactAssets := ⟨"\x7b\x7d", "\x7b\x7d", "", "\x7b\x7d"⟩

open Source in
theorem merge_succeeds_iff_sample :
    (∃ merged, mergeSources id sampleAssets
        (sampleChanges sampleBackend sampleFrontend sampleTests) = .ok merged) ↔
      1 + sampleFrontend.files.length + sampleTests.files.length ≤ 50 ∧
        bytes sampleBackend.files + bytes sampleFrontend.files + bytes sampleTests.files ≤
          262144 :=
  merge_succeeds_iff (sampleChanges_holds _ _ _) rfl rfl rfl (by decide)

/-- A page of so many four-byte characters. -/
def samplePage (count : Nat) (hcount : count ≤ 65536) : SourceFile where
  path := "ui/index.html"
  content := String.ofList (List.replicate count '𝄞')
  path_length := index_path.length
  path_safe := index_path.safe
  content_length := by rwa [String.length_ofList, List.length_replicate]

theorem utf8ByteSize_wide (count : Nat) :
    (String.ofList (List.replicate count '𝄞')).utf8ByteSize = 4 * count := by
  induction count with
  | zero => rfl
  | succ count ih =>
      have hlast : (String.ofList ['𝄞']).utf8ByteSize = 4 := by decide
      rw [List.replicate_succ', String.ofList_append, String.utf8ByteSize_append, ih, hlast]
      omega

theorem wide_size {count : Nat} (hcount : count ≤ 65536) :
    4 * count + (0 + (0 + 0)) ≤ 262144 := by
  omega

/-- An interface with a long page. -/
def sampleLongFrontend (count : Nat) (hcount : count ≤ 65536) : SourceBundle where
  files :=
    [samplePage count hcount,
      ⟨"ui/src/main.tsx", "", main_path.length, main_path.safe, empty_length⟩,
      ⟨"ui/tsconfig.json", "", tsconfig_path.length, tsconfig_path.safe, empty_length⟩]
  files_length := by simp
  paths_nodup := by
    change ["ui/index.html", "ui/src/main.tsx", "ui/tsconfig.json"].Nodup
    decide
  files_size := by
    simp only [List.map_cons, List.map_nil, List.sum_cons, List.sum_nil, samplePage,
      utf8ByteSize_wide]
    exact wide_size hcount

theorem bytes_sampleLongFrontend {count : Nat} (hcount : count ≤ 65536) :
    Source.bytes (sampleLongFrontend count hcount).files = 4 * count := by
  simp only [Source.bytes, sampleLongFrontend, List.map_cons, List.map_nil, List.sum_cons,
    List.sum_nil, samplePage, utf8ByteSize_wide]
  rfl

open Source in
theorem merge_refuses_outputs :
    validateSourceOutput id sampleAssets "backend-agent" sampleBackend = .ok () ∧
      validateSourceOutput id sampleAssets "frontend-agent" (sampleLongFrontend 65536 le_rfl) = .ok () ∧
      validateSourceOutput id sampleAssets "test-agent" sampleTests = .ok () ∧
      ¬ ∃ merged, mergeSources id sampleAssets
        (sampleChanges sampleBackend (sampleLongFrontend 65536 le_rfl) sampleTests) = .ok merged := by
  refine ⟨rfl, rfl, rfl, ?_⟩
  rintro ⟨merged, hmerged⟩
  rw [mergeSources_eq (sampleChanges_holds _ _ _) rfl rfl rfl] at hmerged
  have hsize := merged.files_size
  rw [bundleOf_eq_ok hmerged] at hsize
  change bytes _ ≤ _ at hsize
  have htests : bytes sampleTests.files = 1 := by decide
  rw [bytes_append, bytes_append, bytes_sampleLongFrontend, htests] at hsize
  omega

end Aidlc
