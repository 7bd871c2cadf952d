import Mathlib.Data.List.Nodup
import Aidlc.Foundation.FileTree
import Aidlc.Tools.Models

/-! # Source bundles on disk

Three consumers write the files of a bundle below an empty directory, in order
and with the directories above them. The validators look at one path at a time,
so two accepted paths can still ask for a file and a directory of one name.
-/

namespace Aidlc

open Foundation

/-- A file system that takes names of up to `nameMax` bytes. -/
def acceptsName (nameMax : Nat) (name : List Char) : Bool :=
  (String.ofList name).utf8ByteSize ≤ nameMax

/-- The path and the content of a file as they are written. -/
def SourceFile.entry (file : SourceFile) : List (List Char) × String :=
  (pathParts file.path, file.content)

/-- The loop that writes the files of a bundle. -/
def SourceBundle.materialize (nameMax : Nat) (bundle : SourceBundle) :
    Option (FileTree (List Char) String) :=
  (bundle.files.map SourceFile.entry).foldlM (FileTree.create (acceptsName nameMax)) FileTree.empty

/-- A path is read back from its parts. -/
theorem pathParts_injective : Function.Injective pathParts := by
  intro first second hparts
  have hjoined := congrArg (List.intercalate ['/']) hparts
  simp only [pathParts, List.intercalate_splitOn] at hjoined
  exact String.toList_injective hjoined

theorem pathParts_ne_nil (value : String) : pathParts value ≠ [] :=
  List.splitOn_ne_nil _ _

namespace SourceBundle

variable {bundle : SourceBundle}

/-- No two files of a bundle have one path. -/
theorem eq_of_parts {first second : SourceFile} (hfirst : first ∈ bundle.files)
    (hsecond : second ∈ bundle.files) (hparts : pathParts first.path = pathParts second.path) :
    first = second :=
  List.inj_on_of_nodup_map bundle.paths_nodup hfirst hsecond (pathParts_injective hparts)

/-- The entries of a bundle have distinct paths. -/
theorem entries_nodup (bundle : SourceBundle) :
    ((bundle.files.map SourceFile.entry).map Prod.fst).Nodup := by
  have hpaths := bundle.paths_nodup.map pathParts_injective
  rwa [List.map_map] at hpaths ⊢

/-- The entries of a bundle are its files. -/
theorem mem_entries {path : List (List Char)} {content : String} :
    (path, content) ∈ bundle.files.map SourceFile.entry ↔
      ∃ file ∈ bundle.files, pathParts file.path = path ∧ file.content = content := by
  simp [SourceFile.entry]

/-- The files can be placed when no path continues another and every name is accepted. -/
theorem placeable_iff {nameMax : Nat} :
    FileTree.Placeable (acceptsName nameMax) (bundle.files.map SourceFile.entry) ↔
      (∀ first ∈ bundle.files, ∀ second ∈ bundle.files,
          pathParts first.path <+: pathParts second.path → first = second) ∧
        ∀ file ∈ bundle.files, ∀ name ∈ pathParts file.path, acceptsName nameMax name = true := by
  constructor
  · intro hplaceable
    refine ⟨fun first hfirst second hsecond hprefix => ?_, fun file hfile => ?_⟩
    · exact eq_of_parts hfirst hsecond (hplaceable.apart _ (List.mem_map_of_mem hfirst) _
        (List.mem_map_of_mem hsecond) hprefix)
    · exact (hplaceable.named _ (List.mem_map_of_mem hfile)).2
  · rintro ⟨hapart, hnames⟩
    refine ⟨fun entry hentry => ?_, fun first hfirst second hsecond hprefix => ?_⟩
    · obtain ⟨file, hfile, rfl⟩ := List.mem_map.mp hentry
      exact ⟨pathParts_ne_nil _, hnames file hfile⟩
    · obtain ⟨file, hfile, rfl⟩ := List.mem_map.mp hfirst
      obtain ⟨other, hother, rfl⟩ := List.mem_map.mp hsecond
      rw [hapart file hfile other hother hprefix]

end SourceBundle

/-- Paths of one tree: none is a directory of another, and the file system takes every
name. -/
structure PathsFit (nameMax : Nat) (paths : List String) : Prop where
  apart : ∀ first ∈ paths, ∀ second ∈ paths, pathParts first <+: pathParts second →
    first = second
  named : ∀ path ∈ paths, ∀ name ∈ pathParts path, acceptsName nameMax name = true

/-- The files of a bundle can be written exactly if their paths fit. -/
theorem materialize_isSome_iff (nameMax : Nat) (bundle : SourceBundle) :
    (bundle.materialize nameMax).isSome = true ↔
      PathsFit nameMax (bundle.files.map SourceFile.path) := by
  rw [SourceBundle.materialize, FileTree.createAll_isSome_iff bundle.entries_nodup,
    SourceBundle.placeable_iff]
  constructor
  · rintro ⟨hapart, hnamed⟩
    refine ⟨fun first hfirst second hsecond hprefix => ?_, fun path hpath => ?_⟩
    · obtain ⟨file, hfile, rfl⟩ := List.mem_map.mp hfirst
      obtain ⟨other, hother, rfl⟩ := List.mem_map.mp hsecond
      rw [hapart file hfile other hother hprefix]
    · obtain ⟨file, hfile, rfl⟩ := List.mem_map.mp hpath
      exact hnamed file hfile
  · rintro ⟨hapart, hnamed⟩
    refine ⟨fun first hfirst second hsecond hprefix => ?_, fun file hfile => ?_⟩
    · have hpath := hapart _ (List.mem_map_of_mem hfirst) _ (List.mem_map_of_mem hsecond) hprefix
      exact SourceBundle.eq_of_parts hfirst hsecond (congrArg pathParts hpath)
    · exact hnamed _ (List.mem_map_of_mem hfile)

/-- A bundle can be written, with one file for each of its paths, exactly if no
path is a directory of another and the file system takes every name. -/
theorem materialize_iff (nameMax : Nat) (bundle : SourceBundle) :
    (∃ tree, bundle.materialize nameMax = some tree ∧ ∀ path content,
        tree path = some (.file content) ↔
          ∃ file ∈ bundle.files, pathParts file.path = path ∧ file.content = content) ↔
      (∀ first ∈ bundle.files, ∀ second ∈ bundle.files,
          pathParts first.path <+: pathParts second.path → first = second) ∧
        ∀ file ∈ bundle.files, ∀ name ∈ pathParts file.path, acceptsName nameMax name = true := by
  rw [← SourceBundle.placeable_iff, ← FileTree.createAll_iff bundle.entries_nodup]
  simp only [SourceBundle.materialize, SourceBundle.mem_entries]

/-- A module and a file below a directory of its name. -/
def sampleClash : SourceBundle where
  files :=
    [⟨"backend/api.py", "", api_path.length, api_path.safe, empty_length⟩,
      ⟨"backend/api.py/tools.py", "", by decide, by decide, empty_length⟩]
  files_length := by decide
  paths_nodup := by decide
  files_size := by decide

theorem clash_not_written :
    ¬ ∃ tree, sampleClash.materialize 255 = some tree ∧ ∀ path content,
      tree path = some (.file content) ↔
        ∃ file ∈ sampleClash.files, pathParts file.path = path ∧ file.content = content := by
  have hnone : (sampleClash.materialize 255).isNone = true := by decide +kernel
  rintro ⟨tree, htree, -⟩
  rw [htree] at hnone
  cases hnone

end Aidlc
