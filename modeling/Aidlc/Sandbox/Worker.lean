import Aidlc.Foundation.JsonParser
import Aidlc.Tools.SourceTree

/-! # The worker inside the sandbox

The entry point of the worker image checks the bundle it is sent again, with a
list of suffixes of its own and a limit on the size of the encoded text.
-/

namespace Aidlc

open Foundation

/-- A character inside a string of `model_dump_json`. Other characters than the
quote, the backslash and the control characters are written as they are; the
control characters with a letter of their own may be written with it. -/
def serializeChar (letters : Bool) (c : Char) : List Char :=
  match shortEscape c with
  | some letter => if letters || 32 ≤ c.toNat then ['\\', letter] else unicodeEscape c.toNat
  | none => if c.toNat < 32 then unicodeEscape c.toNat else [c]

def serializeText (letters : Bool) (text : String) : List Char :=
  '"' :: (text.toList.flatMap (serializeChar letters) ++ ['"'])

def SourceFile.serialize (letters : Bool) (file : SourceFile) : List Char :=
  '{' :: (serializeText letters "path" ++ ':' :: (serializeText letters file.path ++
    ',' :: (serializeText letters "content" ++ ':' :: (serializeText letters file.content ++
      ['}']))))

/-- `model_dump_json` of a bundle. -/
def SourceBundle.modelDumpJson (letters : Bool) (bundle : SourceBundle) : String :=
  String.ofList ('{' :: (serializeText letters "files" ++ ':' :: '[' ::
    ([','].intercalate (bundle.files.map (SourceFile.serialize letters)) ++ [']', '}'])))

/-- The suffixes the worker knows. -/
def workerSuffixes : List String :=
  [".py", ".ts", ".tsx", ".js", ".jsx", ".json", ".html", ".css", ".md", ".txt"]

/-- The path rules of the worker. -/
def safeWorkerPath (name : String) : Bool :=
  let parts := pathParts name
  !(name.toList.head? == some '/'
    || name.toList.any (fun c => c == '\\' || c == ':' || c == '\x00')
    || parts.any unsafePart
    || !workerSuffixes.any (fun suffix => suffix.toList == pathSuffix (parts.getLastD []))
    || parts.any (fun part => buildOutputs.any fun output => output.toList == part))

/-- How far `main` came before it starts a tool. -/
inductive WorkerOutcome where
  | exit (code : Nat)
  /-- An exception nothing handles. -/
  | crashed
  | probing
  | prepared (mode : String) (workspace : FileTree (List Char) String)

namespace Worker

/-- `len(files)`, where there is one. -/
def length? : Json → Option Nat
  | .arr items => some items.length
  | .obj fields => some fields.length
  | .str text => some text.length
  | _ => none

/-- The contents of the files as texts. -/
def contents (files : Json) : Option (List String) :=
  files.arr?.bind fun items => items.mapM fun item => (item.get? "content").bind Json.str?

/-- The loop over the files of the payload. -/
def unpack (nameMax : Nat) (mode : String) :
    List Json → List String → FileTree (List Char) String → WorkerOutcome
  | [], _, workspace => .prepared mode workspace
  | source :: rest, seen, workspace =>
    match (source.get? "path").bind Json.str?, (source.get? "content").bind Json.str? with
    | some name, some content =>
      if !safeWorkerPath name || name ∈ seen then .exit 2
      else
        match FileTree.create (acceptsName nameMax) workspace (pathParts name, content) with
        | some workspace => unpack nameMax mode rest (name :: seen) workspace
        | none => .crashed
    | _, _ => .crashed

/-- `main`, up to the tool it starts. -/
def main (roundFloat : Rat → Rat) (nameMax : Nat) (mode raw : String) : WorkerOutcome :=
  if mode = "probe" then .probing
  else if mode ∉ ["analyze", "build", "test"] then .exit 2
  else if raw.utf8ByteSize > 1048576 then .exit 2
  else
    match (JsonParser.loads roundFloat raw).bind fun payload => payload.get? "files" with
    | none => .crashed
    | some files =>
      match length? files with
      | none => .crashed
      | some count =>
        if ¬(1 ≤ count ∧ count ≤ 50) then .exit 2
        else
          match contents files with
          | none => .crashed
          | some texts =>
            if (texts.map String.utf8ByteSize).sum > 262144 then .exit 2
            else unpack nameMax mode (files.arr?.getD []) [] FileTree.empty

end Worker

/-! ## What the worker reads -/

section Reading

open JsonParser

variable (letters : Bool) (roundFloat : Rat → Rat)

theorem reads_serializeChar (c : Char) : Reads c (serializeChar letters c) := by
  unfold serializeChar
  cases hshort : shortEscape c with
  | some letter =>
      have hletter : unescape letter = some c ∧ c.toNat < 0x10000 := by
        unfold shortEscape at hshort
        split at hshort
        all_goals cases hshort
        all_goals exact ⟨rfl, by decide⟩
      simp only
      split
      · exact reads_letter hletter.1
      · exact reads_unicode hletter.2
  | none =>
      simp only
      split
      next hcontrol => exact reads_unicode (by omega)
      next hprintable =>
        refine reads_plain ?_ ?_ (by omega)
        · rintro rfl
          cases hshort
        · rintro rfl
          cases hshort

/-- A serialized text is read back, whatever follows its quote. -/
theorem readString_serializeText (text : String) (rest : List Char) :
    readString (text.toList.flatMap (serializeChar letters) ++ '"' :: rest) =
      some (text.toList, rest) :=
  readString_flatMap (reads_serializeChar letters) _ _

theorem readValue_serializeText (fuel : Nat) (text : String) (rest : List Char) :
    readValue roundFloat (fuel + 1) (serializeText letters text ++ rest) =
      some (.str text, rest) := by
  rw [serializeText, List.cons_append, List.append_assoc, List.singleton_append, readValue,
    readString_serializeText, Option.map_some]
  simp only [String.ofList_toList]

theorem skipSpace_serializeText (text : String) (rest : List Char) :
    skipSpace (serializeText letters text ++ rest) = serializeText letters text ++ rest := rfl

variable {roundFloat}

/-- A field is read and then the others. -/
theorem readFields_more {fuel : Nat} (key : String) {text rest : List Char} {value : Json}
    (hspace : skipSpace text = text)
    (hvalue : readValue roundFloat fuel text = some (value, ',' :: rest)) :
    readFields roundFloat (fuel + 1) (serializeText letters key ++ ':' :: text) =
      (readFields roundFloat fuel (skipSpace rest)).map fun (fields, rest) =>
        ((key, value) :: fields, rest) := by
  have hcolon : skipSpace (':' :: text) = ':' :: text := rfl
  have hcomma : skipSpace (',' :: rest) = ',' :: rest := rfl
  rw [serializeText, List.cons_append, List.append_assoc, List.singleton_append, readFields,
    readString_serializeText]
  simp only [hcolon, hspace, hvalue, hcomma, String.ofList_toList]

theorem readFields_last {fuel : Nat} (key : String) {text rest : List Char} {value : Json}
    (hspace : skipSpace text = text)
    (hvalue : readValue roundFloat fuel text = some (value, '}' :: rest)) :
    readFields roundFloat (fuel + 1) (serializeText letters key ++ ':' :: text) =
      some ([(key, value)], rest) := by
  have hcolon : skipSpace (':' :: text) = ':' :: text := rfl
  have hbrace : skipSpace ('}' :: rest) = '}' :: rest := rfl
  rw [serializeText, List.cons_append, List.append_assoc, List.singleton_append, readFields,
    readString_serializeText]
  simp only [hcolon, hspace, hvalue, hbrace, String.ofList_toList]

variable (roundFloat)

/-- A serialized file is read back as its entry. -/
theorem readValue_serialize (fuel : Nat) (file : SourceFile) (rest : List Char) :
    readValue roundFloat (fuel + 4) (file.serialize letters ++ rest) =
      some (file.modelDump, rest) := by
  have hcontent := readFields_last letters "content"
    (skipSpace_serializeText letters file.content ('}' :: rest))
    (readValue_serializeText letters roundFloat fuel file.content ('}' :: rest))
  have hpath := readFields_more letters "path"
    (skipSpace_serializeText letters file.path _)
    (readValue_serializeText letters roundFloat (fuel + 1) file.path
      (',' :: (serializeText letters "content" ++ ':' :: (serializeText letters file.content ++
        '}' :: rest))))
  rw [skipSpace_serializeText, hcontent, Option.map_some] at hpath
  have hobject := readValue_object roundFloat (skipSpace_serializeText letters "path" _)
    (by simp [serializeText]) hpath
  have hfields : [("path", Json.str file.path), ("content", Json.str file.content)].foldl
      setField [] = [("path", .str file.path), ("content", .str file.content)] := by
    simp [setField]
  rw [hfields] at hobject
  simpa [SourceFile.serialize, SourceFile.modelDump] using hobject

/-- The files of a bundle, one after another. -/
theorem readItems_serialize (files : List SourceFile) (file : SourceFile) (fuel : Nat)
    (rest : List Char) :
    readItems roundFloat (fuel + files.length + 5)
        ([','].intercalate ((file :: files).map (SourceFile.serialize letters)) ++ ']' :: rest) =
      some ((file :: files).map SourceFile.modelDump, rest) := by
  induction files generalizing file with
  | nil =>
      have hvalue := readValue_serialize letters roundFloat fuel file (']' :: rest)
      have hbracket : skipSpace (']' :: rest) = ']' :: rest := rfl
      rw [List.map_singleton, List.intercalate_singleton, List.length_nil, Nat.add_zero, readItems,
        hvalue]
      simp only [hbracket, List.map_cons, List.map_nil]
  | cons next files ih =>
      have hvalue := readValue_serialize letters roundFloat
        (fuel + files.length + 1) file
        (',' :: ([','].intercalate ((next :: files).map (SourceFile.serialize letters)) ++
          ']' :: rest))
      have hspace : skipSpace ([','].intercalate
          ((next :: files).map (SourceFile.serialize letters)) ++ ']' :: rest) =
          [','].intercalate ((next :: files).map (SourceFile.serialize letters)) ++ ']' :: rest := by
        rw [List.map_cons, intercalate_cons, SourceFile.serialize]
        rfl
      have hcomma : ∀ text, skipSpace (',' :: text) = ',' :: text := fun _ => rfl
      have hfuel : fuel + (files.length + 1) + 5 = fuel + files.length + 5 + 1 := by omega
      rw [List.map_cons, List.map_cons, List.intercalate_cons_cons, List.append_assoc,
        List.append_assoc, List.length_cons, hfuel, readItems]
      rw [List.map_cons] at hvalue hspace
      simp only [List.singleton_append, hvalue, hcomma, hspace]
      rw [← List.map_cons, ih next, Option.map_some]
      simp only [List.map_cons]

theorem serialize_head (files : List SourceFile) (file : SourceFile) (rest : List Char) :
    ∃ text, [','].intercalate ((file :: files).map (SourceFile.serialize letters)) ++ rest =
      '{' :: text := by
  rw [List.map_cons, intercalate_cons, SourceFile.serialize]
  exact ⟨_, rfl⟩

/-- A bundle's text is at least as long as its list of files. -/
theorem length_le_serialized (files : List SourceFile) :
    files.length ≤ ([','].intercalate (files.map (SourceFile.serialize letters))).length := by
  induction files with
  | nil => exact Nat.zero_le _
  | cons file rest ih =>
      cases rest with
      | nil => simp [SourceFile.serialize]
      | cons next rest =>
          rw [List.map_cons, List.map_cons, List.intercalate_cons_cons, List.length_append,
            List.length_append, List.length_cons, List.length_singleton]
          rw [List.map_cons] at ih
          omega

/-- The text of a bundle, bracket by bracket. -/
theorem modelDumpJson_toList (bundle : SourceBundle) :
    (bundle.modelDumpJson letters).toList = '{' :: (serializeText letters "files" ++ ':' :: '[' ::
      ([','].intercalate (bundle.files.map (SourceFile.serialize letters)) ++ [']', '}'])) :=
  String.toList_ofList

/-- The text is long enough for the reader to come to its end. -/
theorem length_le_modelDumpJson (bundle : SourceBundle) :
    bundle.files.length + 7 ≤ (bundle.modelDumpJson letters).length := by
  have hserialized := length_le_serialized letters bundle.files
  have hquotes : 2 ≤ (serializeText letters "files").length := by
    simp only [serializeText, List.length_cons, List.length_append, List.length_nil]
    omega
  rw [← String.length_toList, modelDumpJson_toList]
  simp only [List.length_cons, List.length_append, List.length_nil]
  omega

/-- `json.loads` of what `model_dump_json` wrote. -/
theorem loads_modelDumpJson (bundle : SourceBundle) :
    loads roundFloat (bundle.modelDumpJson letters) = some bundle.modelDump := by
  obtain ⟨file, files, hfiles⟩ := List.exists_cons_of_length_pos bundle.files_length.1
  have hlength := length_le_modelDumpJson letters bundle
  rw [hfiles, List.length_cons] at hlength
  obtain ⟨fuel, hfuel⟩ : ∃ fuel, 2 * (bundle.modelDumpJson letters).length + 2 =
      fuel + files.length + 5 + 1 + 1 + 1 :=
    ⟨2 * (bundle.modelDumpJson letters).length + 2 - (files.length + 8), by omega⟩
  obtain ⟨text, htext⟩ := serialize_head letters files file [']', '}']
  have hitems := readItems_serialize letters roundFloat files file fuel ['}']
  rw [htext] at hitems
  have harray := readValue_array roundFloat (show skipSpace ('{' :: text) = _ from rfl)
    (by simp) hitems
  have hfields := readFields_last letters "files"
    (show skipSpace ('[' :: '{' :: text) = _ from rfl) harray
  have hobject := readValue_object roundFloat (skipSpace_serializeText letters "files" _)
    (by simp [serializeText]) hfields
  have hspace : ∀ rest, skipSpace ('{' :: rest) = '{' :: rest := fun _ => rfl
  rw [loads, modelDumpJson_toList, hfiles, htext, hfuel, hspace, hobject]
  simp only [skipSpace, List.dropWhile_nil, if_true, SourceBundle.modelDump, hfiles]
  rfl

end Reading

/-! ## What the worker accepts -/

/-- The suffix of the last component of a path. -/
def lastSuffix (value : String) : List Char := pathSuffix ((pathParts value).getLastD [])

/-- Of the paths the hub accepts, the worker refuses the modules with an `m`. -/
theorem safeWorkerPath_iff {value : String} (hsafe : safeSourcePath value = true) :
    safeWorkerPath value = true ↔ lastSuffix value ≠ ".mjs".toList := by
  have hsuffix : sourceSuffixes.any (fun suffix => suffix.toList == lastSuffix value) = true := by
    simp only [safeSourcePath, Bool.not_eq_true', Bool.or_eq_false_iff, Bool.not_eq_false'] at hsafe
    exact hsafe.1.2
  have hworker : safeWorkerPath value = true ↔
      workerSuffixes.any (fun suffix => suffix.toList == lastSuffix value) = true := by
    simp only [safeSourcePath, Bool.not_eq_true', Bool.or_eq_false_iff] at hsafe
    simp only [safeWorkerPath, Bool.not_eq_true', Bool.or_eq_false_iff, Bool.not_eq_false', hsafe,
      lastSuffix, true_and, and_true]
  rw [hworker]
  simp only [sourceSuffixes, workerSuffixes, List.any_cons, List.any_nil, Bool.or_false,
    Bool.or_eq_true, beq_iff_eq] at hsuffix ⊢
  constructor
  · rintro hlisted hmodule
    rw [hmodule] at hlisted
    revert hlisted
    decide
  · intro hother
    rcases hsuffix with h | h | h | h | h | h | h | h | h | h | h
    all_goals first
      | exact absurd h.symm hother
      | simp only [h, true_or, or_true]

namespace Worker

variable (letters : Bool) (roundFloat : Rat → Rat) (nameMax : Nat) (mode : String)

/-- The loop over files the worker accepts only writes them. -/
theorem unpack_modelDump {files : List SourceFile} {seen : List String}
    {workspace : FileTree (List Char) String}
    (hsafe : ∀ file ∈ files, safeWorkerPath file.path = true)
    (hnodup : (files.map SourceFile.path).Nodup)
    (hfresh : ∀ file ∈ files, file.path ∉ seen) :
    unpack nameMax mode (files.map SourceFile.modelDump) seen workspace =
      match (files.map SourceFile.entry).foldlM (FileTree.create (acceptsName nameMax)) workspace with
      | some written => .prepared mode written
      | none => .crashed := by
  induction files generalizing seen workspace with
  | nil => rfl
  | cons file rest ih =>
      obtain ⟨hfirst, hrest⟩ := List.nodup_cons.mp hnodup
      have hpath : (file.modelDump.get? "path").bind Json.str? = some file.path := by
        simp [SourceFile.modelDump, Json.str?]
      have hcontent : (file.modelDump.get? "content").bind Json.str? = some file.content := by
        simp [SourceFile.modelDump, Json.str?]
      have haccepted : (!safeWorkerPath file.path || decide (file.path ∈ seen)) = false := by
        simp [hsafe file List.mem_cons_self, hfresh file List.mem_cons_self]
      rw [List.map_cons, unpack, hpath, hcontent, List.map_cons, List.foldlM_cons]
      simp only [haccepted]
      rw [if_neg Bool.false_ne_true]
      cases hwritten : FileTree.create (acceptsName nameMax) workspace file.entry with
      | none =>
          simp only [SourceFile.entry] at hwritten
          simp only [hwritten, Option.bind_eq_bind, Option.bind_none]
      | some written =>
          simp only [SourceFile.entry] at hwritten
          simp only [hwritten, Option.bind_eq_bind, Option.bind_some]
          apply ih (fun other hother => hsafe other (List.mem_cons_of_mem _ hother)) hrest
          intro other hother hseen
          rcases List.mem_cons.mp hseen with hsame | hearlier
          · exact hfirst (hsame ▸ List.mem_map_of_mem hother)
          · exact hfresh other (List.mem_cons_of_mem _ hother) hearlier

/-- The worker finds the contents of the files. -/
theorem contents_modelDump (files : List SourceFile) :
    contents (.arr (files.map SourceFile.modelDump)) = some (files.map SourceFile.content) := by
  simp only [contents, Json.arr?, Option.bind_some]
  induction files with
  | nil => rfl
  | cons file rest ih =>
      have hcontent : (file.modelDump.get? "content").bind Json.str? = some file.content := by
        simp [SourceFile.modelDump, Json.str?]
      rw [List.map_cons, List.mapM_cons, hcontent, ih]
      rfl

/-- On a bundle that is not too long, what is left is the loop. -/
theorem main_modelDumpJson {bundle : SourceBundle} (hmode : mode ∈ ["analyze", "build", "test"])
    (hsize : (bundle.modelDumpJson letters).utf8ByteSize ≤ 1048576) :
    main roundFloat nameMax mode (bundle.modelDumpJson letters) =
      unpack nameMax mode (bundle.files.map SourceFile.modelDump) [] FileTree.empty := by
  have hprobe : mode ≠ "probe" := by
    rintro rfl
    revert hmode
    decide
  have hfiles : bundle.modelDump.get? "files" = some (.arr (bundle.files.map SourceFile.modelDump)) := by
    simp [SourceBundle.modelDump]
  have hsizes : ((bundle.files.map SourceFile.content).map String.utf8ByteSize).sum ≤ 262144 := by
    rw [List.map_map]
    exact bundle.files_size
  rw [main, if_neg hprobe, if_neg (not_not_intro hmode), if_neg (by omega), loads_modelDumpJson]
  simp only [Option.bind_some, hfiles, length?, List.length_map, contents_modelDump, Json.arr?,
    Option.getD_some]
  rw [if_neg (not_not_intro bundle.files_length), if_neg (by omega)]

end Worker

/-- The worker accepts a bundle of the hub exactly if its text fits and no file
is a module with an `m`. -/
theorem worker_accepts_iff (letters : Bool) (roundFloat : Rat → Rat) (nameMax : Nat)
    (bundle : SourceBundle) :
    ((∀ file ∈ bundle.files, safeWorkerPath file.path = true) ∧
        ∀ mode ∈ ["analyze", "build", "test"],
          Worker.main roundFloat nameMax mode (bundle.modelDumpJson letters) ≠ .exit 2) ↔
      (bundle.modelDumpJson letters).utf8ByteSize ≤ 1048576 ∧
        ∀ file ∈ bundle.files, lastSuffix file.path ≠ ".mjs".toList := by
  constructor
  · rintro ⟨hpaths, hmain⟩
    refine ⟨?_, fun file hfile => (safeWorkerPath_iff file.path_safe).mp (hpaths file hfile)⟩
    by_contra hsize
    apply hmain "analyze" (by decide)
    rw [Worker.main, if_neg (by decide), if_neg (by decide), if_pos (by omega)]
  · rintro ⟨hsize, hsuffixes⟩
    have hpaths : ∀ file ∈ bundle.files, safeWorkerPath file.path = true :=
      fun file hfile => (safeWorkerPath_iff file.path_safe).mpr (hsuffixes file hfile)
    refine ⟨hpaths, fun mode hmode => ?_⟩
    rw [Worker.main_modelDumpJson letters roundFloat nameMax mode hmode hsize,
      Worker.unpack_modelDump nameMax mode hpaths bundle.paths_nodup
        (fun _ _ => List.not_mem_nil)]
    split
    · intro hexit
      cases hexit
    · intro hexit
      cases hexit

/-- A bundle with one module. -/
def sampleModule : SourceBundle where
  files := [⟨"ui/main.mjs", "", by decide, by decide, empty_length⟩]
  files_length := by decide
  paths_nodup := by decide
  files_size := by decide

theorem worker_refuses_module :
    Worker.main id 255 "build" (sampleModule.modelDumpJson true) = .exit 2 := by
  have hunsafe : safeWorkerPath "ui/main.mjs" = false := by decide
  rw [Worker.main_modelDumpJson true id 255 "build" (by decide) (by decide +kernel)]
  simp [sampleModule, SourceFile.modelDump, Worker.unpack, Json.str?, hunsafe]

end Aidlc
