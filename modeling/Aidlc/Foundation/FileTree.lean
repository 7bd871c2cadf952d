import Mathlib.Data.List.Infix
import Mathlib.Logic.Function.Basic

/-! # Directory trees

A tree says what stands at each path below its root. Files are created with the
directories above them, and a path that runs through a file or ends at a
directory cannot be created. Names the file system refuses are refused.
-/

namespace Foundation

inductive Node (γ : Type) where
  | file (content : γ)
  | directory
  deriving DecidableEq, Repr

/-- A path is the list of its names; the root is the empty path. -/
abbrev FileTree (α γ : Type) := List α → Option (Node γ)

namespace FileTree

variable {α γ : Type} [DecidableEq α]

/-- A directory with nothing in it. -/
def empty : FileTree α γ
  | [] => some .directory
  | _ :: _ => none

variable (valid : α → Bool)

/-- The file system accepts the last name of a path. -/
def named (path : List α) : Bool := path.getLast?.all valid

/-- Make a directory whose parent exists, or find it. -/
def ensureDirectory (tree : FileTree α γ) (path : List α) : Option (FileTree α γ) :=
  match tree path with
  | some .directory => some tree
  | some (.file _) => none
  | none => if named valid path then some (Function.update tree path (some .directory)) else none

/-- Make a directory with all its parents. -/
def makeDirectories (tree : FileTree α γ) (path : List α) : Option (FileTree α γ) :=
  path.inits.foldlM (ensureDirectory valid) tree

/-- Write a file into a directory that exists. -/
def writeFile (tree : FileTree α γ) (path : List α) (content : γ) : Option (FileTree α γ) :=
  match tree path with
  | some .directory => none
  | _ =>
    match tree path.dropLast with
    | some .directory =>
      if named valid path then some (Function.update tree path (some (.file content))) else none
    | _ => none

/-- Write a file and make the directories above it. -/
def create (tree : FileTree α γ) (file : List α × γ) : Option (FileTree α γ) :=
  (makeDirectories valid tree file.1.dropLast).bind fun tree => writeFile valid tree file.1 file.2

/-- The tree holds these files, the directories above them, and nothing else. -/
structure Holds (files : List (List α × γ)) (tree : FileTree α γ) : Prop where
  file : ∀ path content, tree path = some (.file content) ↔ (path, content) ∈ files
  directory : ∀ path, tree path = some .directory ↔
    path = [] ∨ ∃ file ∈ files, path <+: file.1 ∧ path ≠ file.1
  valid : ∀ file ∈ files, ∀ name ∈ file.1, valid name = true

/-- A path that can be added to these files. -/
structure Fits (files : List (List α × γ)) (path : List α) : Prop where
  nonempty : path ≠ []
  valid : ∀ name ∈ path, valid name = true
  above : ∀ file ∈ files, file.1 <+: path → file.1 = path
  below : ∀ file ∈ files, path <+: file.1 → path = file.1

variable {valid} {tree next : FileTree α γ} {files : List (List α × γ)} {path : List α}

omit [DecidableEq α] in
theorem holds_empty : Holds valid [] (empty : FileTree α γ) where
  file path content := by cases path <;> simp [empty]
  directory path := by cases path <;> simp [empty]
  valid _ hfile := by cases hfile

/-- The tree once these paths are directories. -/
def withDirectories (tree : FileTree α γ) (paths : List (List α)) : FileTree α γ :=
  fun path => if path ∈ paths then some .directory else tree path

/-- A directory stands at the path, or one can be made. -/
def Ready (valid : α → Bool) (tree : FileTree α γ) (path : List α) : Prop :=
  tree path = some .directory ∨ (tree path = none ∧ named valid path = true)

/-- A directory can be ensured exactly on a ready path. -/
theorem ensureDirectory_eq_some :
    ensureDirectory valid tree path = some next ↔
      Ready valid tree path ∧ next = withDirectories tree [path] := by
  have hmade : tree path = some .directory → withDirectories tree [path] = tree := by
    intro hpath
    funext other
    by_cases hother : other = path
    · simp [withDirectories, hother, hpath]
    · simp [withDirectories, hother]
  have hupdate : Function.update tree path (some .directory) = withDirectories tree [path] := by
    funext other
    by_cases hother : other = path
    · simp [withDirectories, hother]
    · simp [withDirectories, hother]
  unfold ensureDirectory Ready
  split
  next hpath =>
    rw [Option.some.injEq, hmade hpath, hpath, and_iff_right (Or.inl rfl)]
    exact eq_comm
  next content hpath => simp [hpath]
  next hpath =>
    rw [hpath, hupdate]
    by_cases hnamed : named valid path = true
    · rw [if_pos hnamed, Option.some.injEq, and_iff_right (Or.inr ⟨rfl, hnamed⟩)]
      exact eq_comm
    · simp [hnamed]

/-- A new directory makes its own path ready and no other. -/
theorem ready_withDirectories {first : List α} :
    Ready valid (withDirectories tree [first]) path ↔ path = first ∨ Ready valid tree path := by
  by_cases hpath : path = first
  · simp [Ready, withDirectories, hpath]
  · simp [Ready, withDirectories, hpath]

/-- Making directories only fails at a file and at a refused name. -/
theorem foldlM_ensureDirectory {paths : List (List α)} :
    paths.foldlM (ensureDirectory valid) tree = some next ↔
      (∀ path ∈ paths, Ready valid tree path) ∧ next = withDirectories tree paths := by
  induction paths generalizing tree with
  | nil =>
      have hnone : withDirectories tree [] = tree := by
        funext path
        simp [withDirectories]
      simp [hnone, eq_comm]
  | cons first rest ih =>
      have hjoin : withDirectories (withDirectories tree [first]) rest =
          withDirectories tree (first :: rest) := by
        funext path
        simp only [withDirectories, List.mem_cons, List.not_mem_nil, or_false]
        by_cases hfirst : path = first <;> by_cases hrest : path ∈ rest <;> simp [hfirst, hrest]
      rw [List.foldlM_cons, Option.bind_eq_bind, Option.bind_eq_some_iff]
      constructor
      · rintro ⟨middle, hfirst, hrest⟩
        obtain ⟨hready, rfl⟩ := ensureDirectory_eq_some.mp hfirst
        obtain ⟨hothers, rfl⟩ := ih.mp hrest
        refine ⟨List.forall_mem_cons.mpr ⟨hready, fun path hpath => ?_⟩, hjoin⟩
        rcases ready_withDirectories.mp (hothers path hpath) with rfl | hother
        · exact hready
        · exact hother
      · rintro ⟨hall, rfl⟩
        obtain ⟨hready, hothers⟩ := List.forall_mem_cons.mp hall
        refine ⟨_, ensureDirectory_eq_some.mpr ⟨hready, rfl⟩, ih.mpr ⟨fun path hpath => ?_, ?_⟩⟩
        · exact ready_withDirectories.mpr (Or.inr (hothers path hpath))
        · exact hjoin.symm

/-- Directories are made exactly where every prefix of the path is ready. -/
theorem makeDirectories_eq_some :
    makeDirectories valid tree path = some next ↔
      (∀ prior, prior <+: path → Ready valid tree prior) ∧
        next = withDirectories tree path.inits := by
  simp only [makeDirectories, foldlM_ensureDirectory, List.mem_inits]

/-- A file is written exactly into an existing directory and over no directory. -/
theorem writeFile_eq_some {content : γ} :
    writeFile valid tree path content = some next ↔
      tree path ≠ some .directory ∧ tree path.dropLast = some .directory ∧
        named valid path = true ∧ next = Function.update tree path (some (.file content)) := by
  unfold writeFile
  split
  next hpath => simp [hpath]
  next hpath =>
    have hfile : tree path ≠ some .directory := hpath
    split
    next hparent =>
      by_cases hnamed : named valid path = true
      · rw [if_pos hnamed, Option.some.injEq]
        constructor
        · rintro rfl
          exact ⟨hfile, hparent, hnamed, rfl⟩
        · rintro ⟨-, -, -, rfl⟩
          rfl
      · simp [hnamed]
    next hparent =>
      constructor
      · intro hnone
        cases hnone
      · rintro ⟨-, hdirectory, -⟩
        exact absurd hdirectory hparent

omit [DecidableEq α] in
/-- A prefix of a path is the path, or a prefix of its parent. -/
theorem prefix_parent_iff {prior : List α} (hpath : path ≠ []) :
    prior <+: path.dropLast ↔ prior <+: path ∧ prior ≠ path := by
  obtain ⟨parent, name, rfl⟩ := (List.eq_nil_or_concat' path).resolve_left hpath
  rw [List.dropLast_concat, List.prefix_concat_iff]
  constructor
  · intro hprior
    refine ⟨Or.inr hprior, fun hsame => ?_⟩
    have hlength := hprior.length_le
    rw [hsame, List.length_append, List.length_singleton] at hlength
    omega
  · rintro ⟨hsame | hprior, hne⟩
    · exact absurd hsame hne
    · exact hprior

omit [DecidableEq α] in
theorem named_of_valid {prior : List α} (hvalid : ∀ name ∈ path, valid name = true)
    (hprior : prior <+: path) : named valid prior = true := by
  rw [named, Option.all_eq_true]
  intro name hname
  exact hvalid name (hprior.subset (List.mem_of_getLast? hname))

omit [DecidableEq α] in
theorem valid_of_named (hnamed : ∀ prior, prior <+: path → named valid prior = true) :
    ∀ name ∈ path, valid name = true := by
  intro name hname
  obtain ⟨before, after, rfl⟩ := List.append_of_mem hname
  have hprior : before ++ [name] <+: before ++ name :: after := ⟨after, by simp⟩
  simpa [named] using hnamed _ hprior

/-- The tree with one more file. -/
def withFile (tree : FileTree α γ) (path : List α) (content : γ) : FileTree α γ :=
  Function.update (withDirectories tree path.dropLast.inits) path (some (.file content))

omit [DecidableEq α] in
/-- Every directory of a tree that holds the files is named. -/
theorem Holds.named (hholds : Holds valid files tree) {prior : List α}
    (hprior : tree prior = some .directory) : FileTree.named valid prior = true := by
  rcases (hholds.directory prior).mp hprior with rfl | ⟨file, hfile, hbelow, -⟩
  · rfl
  · exact named_of_valid (hholds.valid file hfile) hbelow

/-- Next to the files a tree holds, a file can be written exactly if its path fits. -/
theorem Holds.create_eq_some (hholds : Holds valid files tree) {content : γ} :
    create valid tree (path, content) = some next ↔
      Fits valid files path ∧ next = withFile tree path content := by
  -- The new directories end in the parent, and none of them is the path itself.
  have hparent : withDirectories tree path.dropLast.inits path.dropLast = some .directory := by
    simp [withDirectories]
  have hhere (hpath : path ≠ []) : withDirectories tree path.dropLast.inits path = tree path := by
    have hout : path ∉ path.dropLast.inits := by
      rw [List.mem_inits, prefix_parent_iff hpath]
      exact fun hparts => hparts.2 rfl
    simp only [withDirectories, hout, if_false]
  rw [create, Option.bind_eq_some_iff]
  constructor
  · rintro ⟨middle, hmade, hwritten⟩
    obtain ⟨hready, rfl⟩ := makeDirectories_eq_some.mp hmade
    obtain ⟨hfile, -, hnamed, rfl⟩ := writeFile_eq_some.mp hwritten
    have hpath : path ≠ [] := by
      rintro rfl
      exact hfile (by simp [withDirectories])
    rw [hhere hpath] at hfile
    refine ⟨⟨hpath, valid_of_named fun prior hprior => ?_, ?_, ?_⟩, rfl⟩
    · by_cases hsame : prior = path
      · exact hsame ▸ hnamed
      · rcases hready prior ((prefix_parent_iff hpath).mpr ⟨hprior, hsame⟩) with hdirectory | hfree
        · exact hholds.named hdirectory
        · exact hfree.2
    -- No file stands where a directory was made.
    · intro file hstored hprior
      by_contra hne
      have hcontent := (hholds.file file.1 file.2).mpr hstored
      rcases hready file.1 ((prefix_parent_iff hpath).mpr ⟨hprior, hne⟩) with hdirectory | hfree
      · rw [hcontent] at hdirectory
        cases hdirectory
      · rw [hcontent] at hfree
        cases hfree.1
    -- No file is below, or the path would be a directory.
    · intro file hstored hbelow
      by_contra hne
      exact hfile ((hholds.directory path).mpr (Or.inr ⟨file, hstored, hbelow, hne⟩))
  · rintro ⟨hfits, rfl⟩
    refine ⟨_, makeDirectories_eq_some.mpr ⟨fun prior hprior => ?_, rfl⟩, writeFile_eq_some.mpr
      ⟨?_, hparent, named_of_valid hfits.valid (List.prefix_refl _), rfl⟩⟩
    · obtain ⟨habove, hne⟩ := (prefix_parent_iff hfits.nonempty).mp hprior
      cases hnode : tree prior with
      | none => exact Or.inr ⟨hnode, named_of_valid hfits.valid habove⟩
      | some node =>
          cases node with
          | directory => exact Or.inl hnode
          | file content =>
              exact absurd (hfits.above _ ((hholds.file _ _).mp hnode) habove) hne
    · rw [hhere hfits.nonempty]
      intro hdirectory
      rcases (hholds.directory path).mp hdirectory with hnil | ⟨file, hstored, hbelow, hne⟩
      · exact hfits.nonempty hnil
      · exact hne (hfits.below file hstored hbelow)

/-- A file that fits is held with the others. -/
theorem Holds.withFile (hholds : Holds valid files tree) (hfits : Fits valid files path)
    (hfresh : path ∉ files.map Prod.fst) (content : γ) :
    Holds valid ((path, content) :: files) (withFile tree path content) := by
  have hother {other : List α} (hne : other ≠ path) :
      FileTree.withFile tree path content other =
        if other <+: path then some .directory else tree other := by
    rw [FileTree.withFile, Function.update_of_ne hne, withDirectories]
    simp only [List.mem_inits, prefix_parent_iff hfits.nonempty, hne, ne_eq, not_false_iff,
      and_true]
  have hself : FileTree.withFile tree path content path = some (.file content) :=
    Function.update_self _ _ _
  refine ⟨fun other stored => ?_, fun other => ?_, ?_⟩
  · by_cases hne : other = path
    · subst hne
      have hnone : (other, stored) ∉ files :=
        fun hstored => hfresh (List.mem_map.mpr ⟨_, hstored, rfl⟩)
      rw [hself]
      simp [hnone, eq_comm]
    · rw [hother hne]
      split
      next hprior =>
        have hnone : (other, stored) ∉ files := fun hstored => hne (hfits.above _ hstored hprior)
        simp [hne, hnone]
      next =>
        rw [hholds.file]
        simp [hne]
  · by_cases hne : other = path
    · subst hne
      rw [hself]
      constructor
      · intro hdirectory
        cases hdirectory
      · rintro (hnil | ⟨file, hstored, hbelow, hdistinct⟩)
        · exact absurd hnil hfits.nonempty
        · rcases List.mem_cons.mp hstored with rfl | hearlier
          · exact absurd rfl hdistinct
          · exact absurd (hfits.below file hearlier hbelow) hdistinct
    · rw [hother hne]
      split
      next hprior => simp [hprior, hne]
      next hprior =>
        rw [hholds.directory]
        simp [hprior]
  · intro file hstored
    rcases List.mem_cons.mp hstored with rfl | hearlier
    · exact hfits.valid
    · exact hholds.valid file hearlier

/-- Files that can stand in one tree: no path is a directory above another. -/
structure Placeable (valid : α → Bool) (files : List (List α × γ)) : Prop where
  named : ∀ file ∈ files, file.1 ≠ [] ∧ ∀ name ∈ file.1, valid name = true
  apart : ∀ first ∈ files, ∀ second ∈ files, first.1 <+: second.1 → first.1 = second.1

omit [DecidableEq α] in
/-- Files that a tree holds can be placed. -/
theorem Holds.placeable (hholds : Holds valid files tree) : Placeable valid files := by
  have hcontent : ∀ file ∈ files, tree file.1 = some (.file file.2) :=
    fun file hfile => (hholds.file file.1 file.2).mpr hfile
  refine ⟨fun file hfile => ⟨fun hnil => ?_, hholds.valid file hfile⟩, ?_⟩
  · have hroot := (hholds.directory file.1).mpr (Or.inl hnil)
    rw [hcontent file hfile] at hroot
    cases hroot
  · intro first hfirst second hsecond hprefix
    by_contra hne
    have habove := (hholds.directory first.1).mpr (Or.inr ⟨second, hsecond, hprefix, hne⟩)
    rw [hcontent first hfirst] at habove
    cases habove

omit [DecidableEq α] in
/-- A placeable file fits beside the files written before it. -/
theorem Placeable.fits {content : γ} (hplaceable : Placeable valid files)
    (hfile : (path, content) ∈ files) {earlier : List (List α × γ)} (hsubset : earlier ⊆ files) :
    Fits valid earlier path where
  nonempty := (hplaceable.named _ hfile).1
  valid := (hplaceable.named _ hfile).2
  above file hstored := hplaceable.apart file (hsubset hstored) _ hfile
  below file hstored := hplaceable.apart _ hfile file (hsubset hstored)

/-- What a tree holds after some files were written into it. -/
theorem Holds.foldlM {written : List (List α × γ)} (hholds : Holds valid written tree)
    (hnodup : ((files.reverse ++ written).map Prod.fst).Nodup)
    (hfold : files.foldlM (create valid) tree = some next) :
    Holds valid (files.reverse ++ written) next := by
  induction files generalizing tree written with
  | nil =>
      cases hfold
      exact hholds
  | cons file rest ih =>
      rw [List.foldlM_cons, Option.bind_eq_bind, Option.bind_eq_some_iff] at hfold
      obtain ⟨middle, hfile, hrest⟩ := hfold
      obtain ⟨hfits, rfl⟩ := hholds.create_eq_some.mp hfile
      rw [List.reverse_cons, List.append_assoc, List.singleton_append] at hnodup ⊢
      have hfresh : file.1 ∉ written.map Prod.fst := by
        rw [List.map_append, List.map_cons] at hnodup
        exact (List.nodup_cons.mp (List.nodup_append.mp hnodup).2.1).1
      exact ih (hholds.withFile hfits hfresh file.2) hnodup hrest

/-- Placeable files can be created one after the other. -/
theorem Holds.exists_foldlM {written : List (List α × γ)} (hholds : Holds valid written tree)
    (hnodup : ((files.reverse ++ written).map Prod.fst).Nodup)
    (hplaceable : Placeable valid (files.reverse ++ written)) :
    ∃ next, files.foldlM (create valid) tree = some next := by
  induction files generalizing tree written with
  | nil => exact ⟨tree, rfl⟩
  | cons file rest ih =>
      rw [List.reverse_cons, List.append_assoc, List.singleton_append] at hnodup hplaceable
      have hfits : Fits valid written file.1 := by
        apply hplaceable.fits (List.mem_append_right _ List.mem_cons_self)
        exact fun _ hmem => List.mem_append_right _ (List.mem_cons_of_mem _ hmem)
      have hfresh : file.1 ∉ written.map Prod.fst := by
        rw [List.map_append, List.map_cons] at hnodup
        exact (List.nodup_cons.mp (List.nodup_append.mp hnodup).2.1).1
      obtain ⟨next, hnext⟩ := ih (hholds.withFile hfits hfresh file.2) hnodup hplaceable
      refine ⟨next, ?_⟩
      rw [List.foldlM_cons, Option.bind_eq_bind, Option.bind_eq_some_iff]
      exact ⟨_, hholds.create_eq_some.mpr ⟨hfits, rfl⟩, hnext⟩

omit [DecidableEq α] in
theorem perm_reverse_nil : (files.reverse ++ ([] : List (List α × γ))).Perm files := by
  rw [List.append_nil]
  exact List.reverse_perm _

omit [DecidableEq α] in
theorem Placeable.perm {others : List (List α × γ)} (hplaceable : Placeable valid files)
    (hperm : others.Perm files) : Placeable valid others :=
  ⟨fun file hfile => hplaceable.named file (hperm.mem_iff.mp hfile),
    fun first hfirst second hsecond => hplaceable.apart first (hperm.mem_iff.mp hfirst)
      second (hperm.mem_iff.mp hsecond)⟩

/-- Files that could be written can stand in one tree, which holds them and nothing else. -/
theorem holds_createAll (hnodup : (files.map Prod.fst).Nodup)
    (hfold : files.foldlM (create valid) (empty : FileTree α γ) = some tree) :
    Placeable valid files ∧
      ∀ path content, tree path = some (.file content) ↔ (path, content) ∈ files := by
  have hdistinct := (perm_reverse_nil.map Prod.fst).nodup_iff.mpr hnodup
  have hholds := holds_empty.foldlM hdistinct hfold
  exact ⟨hholds.placeable.perm perm_reverse_nil.symm,
    fun path content => (hholds.file path content).trans perm_reverse_nil.mem_iff⟩

/-- Files with distinct paths can be written in order exactly if they can stand
in one tree. -/
theorem createAll_isSome_iff (hnodup : (files.map Prod.fst).Nodup) :
    (files.foldlM (create valid) (empty : FileTree α γ)).isSome = true ↔
      Placeable valid files := by
  constructor
  · intro hsome
    obtain ⟨tree, htree⟩ := Option.isSome_iff_exists.mp hsome
    exact (holds_createAll hnodup htree).1
  · intro hplaceable
    have hdistinct := (perm_reverse_nil.map Prod.fst).nodup_iff.mpr hnodup
    obtain ⟨tree, htree⟩ :=
      holds_empty.exists_foldlM hdistinct (hplaceable.perm perm_reverse_nil)
    exact Option.isSome_iff_exists.mpr ⟨tree, htree⟩

/-- The tree they are written into holds them and nothing else. -/
theorem createAll_iff (hnodup : (files.map Prod.fst).Nodup) :
    (∃ tree, files.foldlM (create valid) (empty : FileTree α γ) = some tree ∧
        ∀ path content, tree path = some (.file content) ↔ (path, content) ∈ files) ↔
      Placeable valid files := by
  rw [← createAll_isSome_iff hnodup, Option.isSome_iff_exists]
  constructor
  · rintro ⟨tree, htree, -⟩
    exact ⟨tree, htree⟩
  · rintro ⟨tree, htree⟩
    exact ⟨tree, htree, (holds_createAll hnodup htree).2⟩

end FileTree

end Foundation
