import Aidlc.Domain.Values
import Aidlc.Foundation.PosixPath
import Aidlc.Tools.SourceTree

/-! # Where accepted paths lead

The validator reads a path as a pure path and looks at its text as well. What it
accepts is already in the form a pure path is kept in, so joining it to a
directory in one piece or component by component leads to one place below it.
-/

namespace Aidlc

open Foundation

/-- `Path(root) / path` -/
def locate (root path : String) : PosixPath := .parse (PosixPath.join root.toList path.toList)

/-- `root.joinpath(*path.split("/"))` -/
def locateParts (root path : String) : PosixPath :=
  .parse (PosixPath.joinAll root.toList (pathParts path))

/-- `SourceFile.safe_source_path` -/
def SourceFile.safeSourcePath (value : String) : Except PyError String :=
  let path := PosixPath.parse value.toList
  if path.isAbsolute || value.toList.any (· == '\\') || value.toList.any (· == ':')
      || value.toList.any (· == '\x00')
      || (pathParts value).any (fun part => part.head? == some '.' || part.isEmpty)
      || !sourceSuffixes.any (fun suffix => suffix.toList == path.suffix)
      || path.parts.any (fun part => buildOutputs.any fun output => output.toList == part) then
    valueError "Expected a relative source file path without traversal or build output"
  else .ok value

/-- A component that leads one directory down. -/
structure Descends (part : List Char) : Prop where
  nonempty : part ≠ []
  not_dot : part ≠ ['.']
  not_dotdot : part ≠ ['.', '.']
  not_slash : '/' ∉ part

/-- No component of a path is empty or starts with a dot. -/
def Undotted (value : String) : Prop := ∀ part ∈ pathParts value, unsafePart part = false

namespace SourcePaths

variable {value : String}

/-- Every part of an undotted path goes down. -/
theorem descends (hvalue : Undotted value) : ∀ part ∈ pathParts value, Descends part := by
  intro part hpart
  have hsafe := hvalue part hpart
  simp only [unsafePart, Bool.or_eq_false_iff, List.isEmpty_eq_false_iff, beq_eq_false_iff_ne]
    at hsafe
  refine ⟨hsafe.1, ?_, ?_, PosixPath.not_mem_of_mem_splitOn _ part hpart⟩
  · rintro rfl
    exact hsafe.2 rfl
  · rintro rfl
    exact hsafe.2 rfl

/-- A part that goes down is kept by the parser. -/
theorem kept_of_descends {part : List Char} (hpart : Descends part) :
    PosixPath.kept part = true := by
  simp [PosixPath.kept, hpart.nonempty, hpart.not_dot]

theorem relative_of_descends {part : List Char} (hpart : Descends part) :
    PosixPath.Relative part :=
  ⟨hpart.nonempty, fun hhead => hpart.not_slash (List.mem_of_head? hhead)⟩

/-- The components of an undotted path are its parts. -/
theorem components_eq (hvalue : Undotted value) :
    PosixPath.components value.toList = pathParts value := by
  apply PosixPath.components_eq_splitOn
  intro part hpart
  exact kept_of_descends (descends hvalue part hpart)

theorem flatMap_components (hvalue : Undotted value) :
    (pathParts value).flatMap PosixPath.components = pathParts value := by
  have hsingle : ∀ part ∈ pathParts value, PosixPath.components part = [part] := by
    intro part hpart
    have hdescends := descends hvalue part hpart
    exact PosixPath.components_of_not_mem hdescends.not_slash (kept_of_descends hdescends)
  rw [List.flatMap_congr hsingle, List.flatMap_singleton']

/-- The text begins with its first component. -/
theorem relative (hvalue : Undotted value) : PosixPath.Relative value.toList := by
  unfold Undotted pathParts at hvalue
  constructor
  · intro hempty
    rw [hempty] at hvalue
    exact absurd (hvalue [] (by simp)) (by simp [unsafePart])
  · intro hhead
    obtain ⟨rest, hrest⟩ := List.head?_eq_some_iff.mp hhead
    rw [hrest, List.splitOn_cons_eq_if_modifyHead] at hvalue
    exact absurd (hvalue [] (by simp)) (by simp [unsafePart])

/-- Both ways of joining put the components of the path below the root. -/
theorem locate_eq (root : String) (hvalue : Undotted value) :
    locate root value =
      ⟨(PosixPath.parse root.toList).root,
        (PosixPath.parse root.toList).tail ++ pathParts value⟩ := by
  rw [locate, PosixPath.parse_join (relative hvalue), components_eq hvalue]

/-- The file is located below the root, at the parts of its path. -/
theorem locateParts_eq (root : String) (hvalue : Undotted value) :
    locateParts root value =
      ⟨(PosixPath.parse root.toList).root,
        (PosixPath.parse root.toList).tail ++ pathParts value⟩ := by
  rw [locateParts, PosixPath.parse_joinAll, flatMap_components hvalue]
  intro part hpart
  exact relative_of_descends (descends hvalue part hpart)

/-! ## What the validator accepts -/

/-- A path the bundle accepts is undotted. -/
theorem undotted_of_accepted (haccepted : SourceFile.safeSourcePath value = .ok value) :
    Undotted value := by
  intro part hpart
  unfold SourceFile.safeSourcePath at haccepted
  dsimp only at haccepted
  split at haccepted
  next => cases haccepted
  next hchecks =>
    simp only [Bool.or_eq_true, not_or, List.any_eq_true, not_exists, not_and] at hchecks
    have hsafe := hchecks.1.1.2 part hpart
    simpa [unsafePart, and_comm] using hsafe

/-- A path the worker accepts is undotted. -/
theorem undotted_of_safe (hsafe : Aidlc.safeSourcePath value = true) : Undotted value := by
  intro part hpart
  simp only [Aidlc.safeSourcePath, Bool.not_eq_true', Bool.or_eq_false_iff,
    List.any_eq_false] at hsafe
  simpa using hsafe.1.1.2 part hpart

/-- An undotted path is relative. -/
theorem parse_eq (hvalue : Undotted value) : PosixPath.parse value.toList = ⟨[], pathParts value⟩ := by
  rw [PosixPath.parse_eq, PosixPath.splitRoot_of_relative (relative hvalue), components_eq hvalue]

/-- A name that starts with no dot has the same extension for the path library and for
the shorter rule, unless it ends with a dot. -/
theorem extension_eq {name : List Char} (hname : unsafePart name = false) :
    PosixPath.extension name = pathSuffix name ∨
      PosixPath.extension name = ['.'] ∧ pathSuffix name = [] := by
  simp only [unsafePart, Bool.or_eq_false_iff, List.isEmpty_eq_false_iff, beq_eq_false_iff_ne]
    at hname
  obtain ⟨first, rest, rfl⟩ := List.exists_cons_of_ne_nil hname.1
  have hfirst : first ≠ '.' := by simpa using hname.2
  unfold PosixPath.extension pathSuffix
  generalize ((first :: rest).reverse.takeWhile fun c => c != '.').reverse = letters
  dsimp only
  by_cases hstem : 2 ≤ (first :: rest).length - letters.length
  · -- the first character stands before the last dot
    obtain ⟨count, hcount⟩ : ∃ count, (first :: rest).length - letters.length - 1 = count + 1 :=
      ⟨(first :: rest).length - letters.length - 2, by omega⟩
    rw [hcount, if_pos ⟨by omega, by simp [hfirst]⟩]
    by_cases hletters : letters = []
    · exact .inr ⟨by rw [hletters], if_neg fun h => h.2 hletters⟩
    · exact .inl (if_pos ⟨hstem, hletters⟩).symm
  · have hcount : (first :: rest).length - letters.length - 1 = 0 := by omega
    rw [hcount, if_neg (by simp), if_neg fun h => hstem h.1]
    exact .inl rfl

/-- Both checks accept the same suffixes. -/
theorem suffix_accepted_iff {name : List Char} (hname : unsafePart name = false) :
    (sourceSuffixes.any fun suffix => suffix.toList == PosixPath.extension name) =
      sourceSuffixes.any fun suffix => suffix.toList == pathSuffix name := by
  rcases extension_eq hname with heq | ⟨hdot, hnone⟩
  · rw [heq]
  · rw [hdot, hnone]
    decide

theorem getLastD_mem (value : String) : (pathParts value).getLastD [] ∈ pathParts value := by
  rw [List.getLastD_eq_getLast?, List.getLast?_eq_some_getLast (pathParts_ne_nil value)]
  exact List.getLast_mem _

theorem any_forbidden (text : List Char) :
    text.any (fun c => c == '\\' || c == ':' || c == '\x00') =
      (text.any (· == '\\') || text.any (· == ':') || text.any (· == '\x00')) := by
  induction text with
  | nil => rfl
  | cons first rest ih =>
      simp only [List.any_cons, ih]
      ac_rfl

/-- The validator accepts what its shorter form accepts. -/
theorem safeSourcePath_eq_ok :
    SourceFile.safeSourcePath value = .ok value ↔ Aidlc.safeSourcePath value = true := by
  by_cases hvalue : Undotted value
  · have hsuffix := suffix_accepted_iff (hvalue _ (getLastD_mem value))
    have hhead : (value.toList.head? == some '/') = false := by simpa using (relative hvalue).2
    have hparts : (pathParts value).any unsafePart = false := by simpa [Undotted] using hvalue
    have hswapped : ((pathParts value).any fun part => part.head? == some '.' || part.isEmpty) =
        false := by
      rw [← hparts]
      congr 1
      funext part
      exact Bool.or_comm _ _
    unfold SourceFile.safeSourcePath Aidlc.safeSourcePath
    simp only [parse_eq hvalue, PosixPath.isAbsolute, PosixPath.suffix, PosixPath.name,
      PosixPath.parts, hsuffix, hhead, hparts, hswapped, any_forbidden, valueError,
      List.isEmpty_nil, Bool.not_true, Bool.false_or, Bool.or_false, if_true]
    split
    next hchecks =>
      rw [hchecks]
      simp
    next hchecks =>
      rw [Bool.not_eq_true] at hchecks
      rw [hchecks]
      simp
  · exact iff_of_false (fun h => hvalue (undotted_of_accepted h)) fun h => hvalue (undotted_of_safe h)

end SourcePaths

open SourcePaths in
/-- What the validator accepts leads below any root, to the same place in one piece and
component by component, and different texts lead to different places. -/
theorem source_paths_confined (root : String) :
    (∀ value, SourceFile.safeSourcePath value = .ok value →
      locate root value = locateParts root value ∧
        ∃ below, below ≠ [] ∧ (∀ part ∈ below, Descends part) ∧
          locate root value = ⟨(PosixPath.parse root.toList).root,
            (PosixPath.parse root.toList).tail ++ below⟩) ∧
      ∀ first second, SourceFile.safeSourcePath first = .ok first →
        SourceFile.safeSourcePath second = .ok second →
        locate root first = locate root second → first = second := by
  constructor
  · intro value haccepted
    have hvalue := undotted_of_accepted haccepted
    refine ⟨(locate_eq root hvalue).trans (locateParts_eq root hvalue).symm, pathParts value,
      pathParts_ne_nil value, descends hvalue, locate_eq root hvalue⟩
  · intro first second hfirst hsecond hsame
    rw [locate_eq root (undotted_of_accepted hfirst), locate_eq root (undotted_of_accepted hsecond),
      PosixPath.mk.injEq] at hsame
    apply pathParts_injective
    exact List.append_cancel_left hsame.2

theorem source_paths_confined_sample :
    locate "/workspace" "backend/api.py" = locateParts "/workspace" "backend/api.py" ∧
      locate "/workspace" "backend/api.py" ≠ locate "/workspace" "tests/test_api.py" := by
  obtain ⟨hbelow, hdistinct⟩ := source_paths_confined "/workspace"
  refine ⟨(hbelow "backend/api.py" rfl).1, fun hsame => ?_⟩
  exact absurd (hdistinct _ "tests/test_api.py" rfl rfl hsame) (by decide)

end Aidlc
