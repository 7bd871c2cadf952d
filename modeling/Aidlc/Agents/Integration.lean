import Mathlib.Data.String.Basic
import Aidlc.Agents.Source

/-! # Integration preserves ownership

The merged source is the latest output of each implementation agent, one after
the other, and the directory of an agent gives back its output. The texts that
fix the toolchain of the interface are compared as decoded values.
-/

namespace Aidlc

open Foundation

namespace Source

variable {roundFloat : Rat → Rat} {assets : ReactAssets} {context : AgentContext ContextItem}
  {agent owned : String} {source backend frontend tests merged : SourceBundle} {file : SourceFile}

/-- The files below a directory. -/
def below (start : String) (files : List SourceFile) : List SourceFile :=
  files.filter fun file => startsWith file.path start

theorem below_append (start : String) (first second : List SourceFile) :
    below start (first ++ second) = below start first ++ below start second :=
  List.filter_append first second

theorem head_of_startsWith {text start : String} {c : Char} (hstarts : startsWith text start = true)
    (hfirst : start.toList.head? = some c) : text.toList.head? = some c := by
  obtain ⟨rest, hrest⟩ := List.isPrefixOf_iff_prefix.mp hstarts
  rw [← hrest, List.head?_append, hfirst]
  rfl

/-- All files of an accepted source are below the directory its agent owns. -/
theorem Accepted.below_own (haccepted : Accepted agent source)
    (howned : ownedBy.lookup agent = some owned) : below owned source.files = source.files := by
  obtain ⟨other, hother, hfiles⟩ := haccepted.owned
  rw [howned, Option.some.injEq] at hother
  subst hother
  exact List.filter_eq_self.mpr hfiles

/-- Directories with different initials have no file in common. -/
theorem Accepted.below_other {start : String} {c d : Char} (haccepted : Accepted agent source)
    (howned : ownedBy.lookup agent = some owned) (hfirst : owned.toList.head? = some c)
    (hother : start.toList.head? = some d) (hne : c ≠ d) : below start source.files = [] := by
  apply List.filter_eq_nil_iff.mpr
  intro file hfile hstarts
  have hown := haccepted.head howned hfirst file.path (List.mem_map_of_mem hfile)
  have hhead := head_of_startsWith hstarts hother
  rw [hown, Option.some.injEq] at hhead
  exact hne hhead

/-- What an agent other than that of the interface writes is Python. -/
theorem python_of_validated (hvalid : validateSourceOutput roundFloat assets agent source = .ok ())
    (hagent : agent ≠ "frontend-agent") : ∀ file ∈ source.files, endsWith file.path ".py" = true := by
  unfold validateSourceOutput at hvalid
  cases howned : ownedBy.lookup agent with
  | none => rw [howned] at hvalid; cases hvalid
  | some owned =>
      rw [howned] at hvalid
      simp only [except_bind_eq_ok] at hvalid
      obtain ⟨⟨⟩, -, ⟨⟩, hpython, -⟩ := hvalid
      rw [reject_eq_ok, Bool.and_eq_false_imp] at hpython
      intro file hfile
      simpa using List.any_eq_false.mp (hpython (bne_iff_ne.mpr hagent)) file hfile

/-- Two texts that decode to values which compare equal. -/
def SameJson (roundFloat : Rat → Rat) (first second : String) : Prop :=
  ∃ one other, JsonParser.loads roundFloat first = some one ∧
    JsonParser.loads roundFloat second = some other ∧ Json.pyEq one other = true

/-- A text is decoded exactly when the parser accepts it. -/
theorem loadsText_eq_ok {text : String} {value : Json} :
    loadsText roundFloat text = .ok value ↔ JsonParser.loads roundFloat text = some value := by
  unfold loadsText
  cases JsonParser.loads roundFloat text <;> simp [valueError]

/-- The package file passes only with the value of the pinned one. -/
theorem checkInterfaceFile_package
    (hcheck : checkInterfaceFile roundFloat assets file = .ok ())
    (hpath : file.path = "ui/package.json") :
    SameJson roundFloat file.content assets.packageJson := by
  unfold checkInterfaceFile at hcheck
  rw [if_pos hpath] at hcheck
  dsimp only at hcheck
  obtain ⟨declared, hdeclared, hrest⟩ := except_bind_eq_ok.mp hcheck
  obtain ⟨pinned, hpinned, hrest⟩ := except_bind_eq_ok.mp hrest
  obtain ⟨⟨⟩, hequal, -⟩ := except_bind_eq_ok.mp hrest
  rw [reject_eq_ok, Bool.not_eq_false'] at hequal
  exact ⟨declared, pinned, loadsText_eq_ok.mp hdeclared, loadsText_eq_ok.mp hpinned, hequal⟩

/-- An accepted interface has the value of the pinned package. -/
theorem package_of_validated (hvalid : validateSourceOutput roundFloat assets agent source = .ok ())
    (hagent : agent = "frontend-agent") :
    ∀ file ∈ source.files, file.path = "ui/package.json" →
      SameJson roundFloat file.content assets.packageJson := by
  unfold validateSourceOutput at hvalid
  cases howned : ownedBy.lookup agent with
  | none => rw [howned] at hvalid; cases hvalid
  | some owned =>
      rw [howned] at hvalid
      simp only [except_bind_eq_ok] at hvalid
      obtain ⟨⟨⟩, -, ⟨⟩, -, hrest⟩ := hvalid
      rw [if_pos hagent] at hrest
      simp only [except_bind_eq_ok] at hrest
      obtain ⟨⟨⟩, -, ⟨⟩, -, hfiles⟩ := hrest
      exact fun file hfile => checkInterfaceFile_package (forM_eq_ok hfiles file hfile)

/-- The merged files are the latest outputs one after the other, and each directory
gives back the output of its agent. -/
def Divides (context : AgentContext ContextItem) (files : List SourceFile) : Prop :=
  ∃ backend frontend tests : SourceBundle,
    (Outputs context "backend-agent" backend ∧ Outputs context "frontend-agent" frontend ∧
      Outputs context "test-agent" tests) ∧
    files = backend.files ++ (frontend.files ++ tests.files) ∧
    below "backend/" files = backend.files ∧ below "ui/" files = frontend.files ∧
    below "tests/" files = tests.files

/-- What the merged files may be: Python outside the interface, and in it neither a
configuration of Vite nor the lockfile; its dependencies are the pinned ones. -/
structure Trusted (roundFloat : Rat → Rat) (assets : ReactAssets) (file : SourceFile) : Prop where
  owned : startsWith file.path "backend/" = true ∨ startsWith file.path "ui/" = true ∨
    startsWith file.path "tests/" = true
  python : startsWith file.path "ui/" = false → endsWith file.path ".py" = true
  vite : startsWith file.path "ui/" = true → startsWith (fileName file.path) "vite.config" = false
  lockfile : file.path ≠ "ui/package-lock.json"
  package : file.path = "ui/package.json" → SameJson roundFloat file.content assets.packageJson

theorem Accepted.startsWith_own (haccepted : Accepted agent source)
    (howned : ownedBy.lookup agent = some owned) :
    ∀ file ∈ source.files, startsWith file.path owned = true := by
  obtain ⟨other, hother, hfiles⟩ := haccepted.owned
  rw [howned, Option.some.injEq] at hother
  exact hother ▸ hfiles

/-- A path with another initial is not below a directory. -/
theorem not_startsWith {text start : String} {c d : Char} (hhead : text.toList.head? = some c)
    (hstart : start.toList.head? = some d) (hne : c ≠ d) : startsWith text start = false := by
  rw [← Bool.not_eq_true]
  intro hstarts
  rw [head_of_startsWith hstarts hstart, Option.some.injEq] at hhead
  exact hne hhead.symm

/-- Files outside the interface are trusted as Python sources. -/
theorem trusted_python (hvalid : validateSourceOutput roundFloat assets agent source = .ok ())
    (hagent : agent ≠ "frontend-agent") (howned : ownedBy.lookup agent = some owned) {c : Char}
    (hfirst : owned.toList.head? = some c) (hne : c ≠ 'u')
    (hdirectory : owned = "backend/" ∨ owned = "tests/") :
    ∀ file ∈ source.files, Trusted roundFloat assets file := by
  intro file hfile
  have haccepted := accepted_of_validated hvalid
  have hstarts := haccepted.startsWith_own howned file hfile
  have hhead := haccepted.head howned hfirst file.path (List.mem_map_of_mem hfile)
  have houtside : startsWith file.path "ui/" = false := not_startsWith hhead rfl hne
  refine ⟨?_, fun _ => python_of_validated hvalid hagent file hfile, ?_, ?_, ?_⟩
  · rcases hdirectory with rfl | rfl
    · exact Or.inl hstarts
    · exact Or.inr (Or.inr hstarts)
  · intro hinside
    rw [houtside] at hinside
    cases hinside
  · intro hpath
    rw [hpath] at houtside
    cases houtside
  · intro hpath
    rw [hpath] at houtside
    cases houtside

/-- Every file of an accepted interface is trusted. -/
theorem trusted_interface
    (hvalid : validateSourceOutput roundFloat assets "frontend-agent" source = .ok ()) :
    ∀ file ∈ source.files, Trusted roundFloat assets file := by
  intro file hfile
  have haccepted := accepted_of_validated hvalid
  have hstarts := haccepted.startsWith_own rfl file hfile
  obtain ⟨hvite, hlockfile⟩ := haccepted.interface rfl file hfile
  refine ⟨Or.inr (Or.inl hstarts), ?_, fun _ => hvite, hlockfile,
    package_of_validated hvalid rfl file hfile⟩
  intro houtside
  rw [hstarts] at houtside
  cases houtside

theorem merge_preserves_ownership (roundFloat : Rat → Rat) (assets : ReactAssets)
    (context : AgentContext ContextItem) (merged : SourceBundle)
    (hmerge : mergeSources roundFloat assets context = .ok merged) :
    Divides context merged.files ∧ ∀ file ∈ merged.files, Trusted roundFloat assets file := by
  obtain ⟨backend, frontend, tests, houtputs, ⟨hbackend, hfrontend, htests⟩, hfiles⟩ :=
    merged_outputs hmerge
  have hfirst := accepted_of_validated hbackend
  have hsecond := accepted_of_validated hfrontend
  have hthird := accepted_of_validated htests
  constructor
  · refine ⟨backend, frontend, tests, houtputs, hfiles, ?_, ?_, ?_⟩
    · rw [hfiles, below_append, below_append, hfirst.below_own rfl,
        hsecond.below_other rfl rfl rfl (by decide), hthird.below_other rfl rfl rfl (by decide)]
      simp
    · rw [hfiles, below_append, below_append, hsecond.below_own rfl,
        hfirst.below_other rfl rfl rfl (by decide), hthird.below_other rfl rfl rfl (by decide)]
      simp
    · rw [hfiles, below_append, below_append, hthird.below_own rfl,
        hfirst.below_other rfl rfl rfl (by decide), hsecond.below_other rfl rfl rfl (by decide)]
      simp
  · intro file hfile
    rw [hfiles, List.mem_append, List.mem_append] at hfile
    rcases hfile with hfile | hfile | hfile
    · exact trusted_python hbackend (by decide) rfl rfl (by decide) (Or.inl rfl) file hfile
    · exact trusted_interface hfrontend file hfile
    · exact trusted_python htests (by decide) rfl rfl (by decide) (Or.inr rfl) file hfile

section Sample

variable {content : String} (hcontent : content.length ≤ 65536) (hsize : content.utf8ByteSize ≤ 1000)

def declaringPaths : List String :=
  ["ui/package.json", "ui/src/package-lock.json", "ui/index.html", "ui/src/main.tsx",
    "ui/tsconfig.json"]

/-- An interface that brings its own package, and a lockfile below `ui/src/`. -/
def sampleDeclaring : SourceBundle where
  files :=
    [⟨"ui/package.json", content, package_path.length, package_path.safe, hcontent⟩,
      ⟨"ui/src/package-lock.json", "", by decide, by decide, empty_length⟩,
      ⟨"ui/index.html", "", index_path.length, index_path.safe, empty_length⟩,
      ⟨"ui/src/main.tsx", "", main_path.length, main_path.safe, empty_length⟩,
      ⟨"ui/tsconfig.json", "", tsconfig_path.length, tsconfig_path.safe, empty_length⟩]
  files_length := by simp only [List.length_cons, List.length_nil]; omega
  paths_nodup := by
    change declaringPaths.Nodup
    decide
  files_size := by
    have hempty : ("" : String).utf8ByteSize = 0 := rfl
    simp only [List.map_cons, List.map_nil, List.sum_cons, List.sum_nil, hempty]
    omega

theorem sampleDeclaring_valid (hsame : SameJson roundFloat content assets.packageJson) :
    validateSourceOutput roundFloat assets "frontend-agent" (sampleDeclaring hcontent hsize) =
      .ok () := by
  obtain ⟨declared, pinned, hdeclared, hpinned, hequal⟩ := hsame
  have hpackage : checkInterfaceFile roundFloat assets
      ⟨"ui/package.json", content, package_path.length, package_path.safe, hcontent⟩ = .ok () := by
    rw [checkInterfaceFile, if_pos rfl, loadsText_eq_ok.mpr hdeclared, loadsText_eq_ok.mpr hpinned]
    change (reject (!declared.pyEq pinned) _ >>= fun _ => _) = _
    rw [hequal]
    rfl
  have hfiles : (sampleDeclaring hcontent hsize).files.forM
      (checkInterfaceFile roundFloat assets) = .ok () := by
    simp only [sampleDeclaring, List.forM_eq_forM, List.forM_cons, List.forM_nil, hpackage]
    rfl
  have howned : ownedBy.lookup "frontend-agent" = some "ui/" := rfl
  have hany (test : String → Bool) :
      ((sampleDeclaring hcontent hsize).files.any fun file => test file.path) =
        declaringPaths.any test := rfl
  have hpaths : (sampleDeclaring hcontent hsize).files.map SourceFile.path = declaringPaths := rfl
  rw [validateSourceOutput, howned]
  simp only [except_bind_eq_ok]
  refine ⟨(), reject_eq_ok.mpr ?_, (), rfl, ?_⟩
  · rw [hany fun path => !startsWith path "ui/"]
    decide
  · rw [if_pos trivial]
    simp only [except_bind_eq_ok]
    refine ⟨(), reject_eq_ok.mpr ?_, (), reject_eq_ok.mpr ?_, hfiles⟩
    · rw [hpaths]
      decide
    · rw [hany fun path => startsWith (fileName path) "vite.config"]
      decide

/-- The three outputs together form a bundle. -/
theorem merge_sampleDeclaring (hsame : SameJson roundFloat content assets.packageJson) :
    ∃ merged, mergeSources roundFloat assets
        (sampleChanges sampleBackend (sampleDeclaring hcontent hsize) sampleTests) = .ok merged ∧
      merged.files = sampleBackend.files ++
        ((sampleDeclaring hcontent hsize).files ++ sampleTests.files) := by
  have hfrontend := sampleDeclaring_valid hcontent hsize hsame
  have hbackend : validateSourceOutput roundFloat assets "backend-agent" sampleBackend = .ok () :=
    rfl
  have htests : validateSourceOutput roundFloat assets "test-agent" sampleTests = .ok () := rfl
  have hnodup := merged_nodup (accepted_of_validated hbackend) (accepted_of_validated hfrontend)
    (accepted_of_validated htests)
  rw [mergeSources_eq (sampleChanges_holds _ _ _) hbackend hfrontend htests]
  have hcount : (sampleBackend.files ++ ((sampleDeclaring hcontent hsize).files ++
      sampleTests.files)).length = 7 := rfl
  have hbytes : bytes (sampleBackend.files ++ ((sampleDeclaring hcontent hsize).files ++
      sampleTests.files)) ≤ 262144 := by
    have hempty : ("" : String).utf8ByteSize = 0 := rfl
    have htests : bytes sampleTests.files = 1 := by decide
    have hbackend : bytes sampleBackend.files = 0 := by decide
    have hfrontend : bytes (sampleDeclaring hcontent hsize).files = content.utf8ByteSize := by
      simp only [bytes, sampleDeclaring, List.map_cons, List.map_nil, List.sum_cons, List.sum_nil,
        hempty, Nat.add_zero]
    rw [bytes_append, bytes_append, hbackend, hfrontend, htests]
    omega
  obtain ⟨merged, hmerged⟩ := (bundleOf_iff (by omega) hnodup).mpr ⟨by omega, hbytes⟩
  exact ⟨merged, hmerged, bundleOf_eq_ok hmerged⟩

end Sample

theorem merge_preserves_ownership_sample :
    ∃ merged, mergeSources id sampleAssets (sampleChanges sampleBackend
          (sampleDeclaring (by decide : ("\x7b\x7d" : String).length ≤ 65536) (by decide))
          sampleTests) = .ok merged ∧
      Divides (sampleChanges sampleBackend
          (sampleDeclaring (by decide : ("\x7b\x7d" : String).length ≤ 65536) (by decide))
          sampleTests) merged.files := by
  have hsame : SameJson id "\x7b\x7d" sampleAssets.packageJson :=
    ⟨.obj [], .obj [], by decide, by decide, rfl⟩
  obtain ⟨merged, hmerge, -⟩ := merge_sampleDeclaring (by decide) (by decide) hsame
  exact ⟨merged, hmerge, (merge_preserves_ownership id sampleAssets _ merged hmerge).1⟩

/-! ### The pinned package -/

/-- The lines of `sandbox/react/package.json`, with this text for the value of `private`. -/
def packageLines (isPrivate : String) : List String :=
  ["\x7b\n", "  \"name\": \"aidlc-generated-ui\",\n", "  \"private\": ", isPrivate, ",\n",
    "  \"version\": \"1.0.0\",\n", "  \"type\": \"module\",\n",
    "  \"scripts\": \x7b\"dev\": \"vite --host 127.0.0.1\", ",
    "\"build\": \"tsc --noEmit && vite build\"\x7d,\n",
    "  \"dependencies\": \x7b\"react\": \"19.3.0\", \"react-dom\": \"19.3.0\"\x7d,\n",
    "  \"devDependencies\": \x7b\n", "    \"@types/react\": \"19.2.14\",\n",
    "    \"@types/react-dom\": \"19.2.3\",\n", "    \"typescript\": \"7.0.2\",\n",
    "    \"vite\": \"8.3.0\"\n", "  \x7d\n", "\x7d\n"]

def packageText (isPrivate : String) : String :=
  String.ofList ((packageLines isPrivate).flatMap String.toList)

def packageValue (isPrivate : Json) : Json :=
  .obj [("name", .str "aidlc-generated-ui"), ("private", isPrivate), ("version", .str "1.0.0"),
    ("type", .str "module"),
    ("scripts", .obj [("dev", .str "vite --host 127.0.0.1"),
      ("build", .str "tsc --noEmit && vite build")]),
    ("dependencies", .obj [("react", .str "19.3.0"), ("react-dom", .str "19.3.0")]),
    ("devDependencies", .obj [("@types/react", .str "19.2.14"),
      ("@types/react-dom", .str "19.2.3"), ("typescript", .str "7.0.2"), ("vite", .str "8.3.0")])]

theorem loads_pinned : JsonParser.loads id (packageText "true") = some (packageValue (.bool true)) := by
  rw [JsonParser.loads, packageText, String.toList_ofList, String.length_ofList]
  decide +kernel

theorem loads_declared : JsonParser.loads id (packageText "1") = some (packageValue (.int 1)) := by
  rw [JsonParser.loads, packageText, String.toList_ofList, String.length_ofList]
  decide +kernel

theorem length_declared : (packageText "1").length ≤ 65536 := by
  rw [packageText, String.length_ofList]
  decide +kernel

theorem utf8ByteSize_declared : (packageText "1").utf8ByteSize ≤ 1000 := by
  rw [packageText, String.utf8ByteSize_ofList]
  decide +kernel

def pinnedAssets : ReactAssets := ⟨packageText "true", "\x7b\x7d", "", "\x7b\x7d"⟩

theorem merge_accepts_other_package :
    ∃ context merged, mergeSources id pinnedAssets context = .ok merged ∧
      (∃ file ∈ merged.files, file.path = "ui/package.json" ∧
        ∃ declared pinned, JsonParser.loads id file.content = some declared ∧
          JsonParser.loads id pinnedAssets.packageJson = some pinned ∧
          declared.get? "private" = some (.int 1) ∧ pinned.get? "private" = some (.bool true)) ∧
      ∃ file ∈ merged.files, file.path = "ui/src/package-lock.json" := by
  have hsame : SameJson id (packageText "1") pinnedAssets.packageJson :=
    ⟨_, _, loads_declared, loads_pinned, by decide⟩
  obtain ⟨merged, hmerge, hfiles⟩ :=
    merge_sampleDeclaring length_declared utf8ByteSize_declared hsame
  refine ⟨_, merged, hmerge, ?_, ?_⟩
  · refine ⟨⟨"ui/package.json", packageText "1", by decide, by decide, length_declared⟩, ?_, rfl, _, _,
      loads_declared, loads_pinned, by decide, by decide⟩
    rw [hfiles]
    exact List.mem_append_right _ (List.mem_append_left _ List.mem_cons_self)
  · refine ⟨⟨"ui/src/package-lock.json", "", by decide, by decide, empty_length⟩, ?_, rfl⟩
    rw [hfiles]
    exact List.mem_append_right _ (List.mem_append_left _
      (List.mem_cons_of_mem _ List.mem_cons_self))

end Source

end Aidlc
