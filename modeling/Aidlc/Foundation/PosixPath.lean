import Mathlib.Data.List.Basic

/-! # Pure paths

A path is read from its text without asking a file system: the slashes it begins
with are its root, and what lies between the others are its components, where
nothing and a single dot are left out. Joining a relative text to a path adds the
components of the text and keeps everything else.
-/

namespace Foundation

/-- `PurePosixPath`, as it is read from a text. -/
structure PosixPath where
  root : List Char
  tail : List (List Char)
  deriving DecidableEq

namespace PosixPath

/-- `posixpath.splitroot`: exactly two slashes are a root of their own. -/
def splitRoot : List Char → List Char × List Char
  | '/' :: '/' :: '/' :: rest => (['/'], '/' :: '/' :: rest)
  | '/' :: '/' :: rest => (['/', '/'], rest)
  | '/' :: rest => (['/'], rest)
  | text => ([], text)

/-- A component that a path keeps. -/
def kept (part : List Char) : Bool := part != [] && part != ['.']

def components (text : List Char) : List (List Char) := (text.splitOn '/').filter kept

/-- `PurePosixPath(text)` -/
def parse (text : List Char) : PosixPath :=
  ⟨(splitRoot text).1, components (splitRoot text).2⟩

def isAbsolute (path : PosixPath) : Bool := !path.root.isEmpty

/-- `path.parts` -/
def parts (path : PosixPath) : List (List Char) :=
  if path.root = [] then path.tail else path.root :: path.tail

def name (path : PosixPath) : List Char := path.tail.getLastD []

/-- `posixpath.splitext(name)[1]`: the text from the last dot on, unless there are
only dots before it. -/
def extension (name : List Char) : List Char :=
  let letters := (name.reverse.takeWhile fun c => c != '.').reverse
  let stem := name.take (name.length - letters.length - 1)
  if letters.length < name.length ∧ stem.any (fun c => c != '.') then '.' :: letters else []

def suffix (path : PosixPath) : List Char := extension path.name

/-- One step of `posixpath.join`. -/
def join (path text : List Char) : List Char :=
  if text.head? = some '/' ∨ path = [] then text
  else if path.getLast? = some '/' then path ++ text
  else path ++ '/' :: text

/-- `posixpath.join` -/
def joinAll (path : List Char) (texts : List (List Char)) : List Char := texts.foldl join path

/-! ## Components -/

theorem components_nil : components [] = [] := by
  simp [components, kept]

theorem components_append_slash (first second : List Char) :
    components (first ++ '/' :: second) = components first ++ components second := by
  simp [components, List.splitOn_append_cons_self]

theorem components_slash (text : List Char) : components ('/' :: text) = components text := by
  have happend := components_append_slash [] text
  simpa [components_nil] using happend

/-- The slashes of the root hold no component. -/
theorem components_splitRoot (text : List Char) :
    components (splitRoot text).2 = components text := by
  unfold splitRoot
  split <;> simp [components_slash]

theorem parse_eq (text : List Char) : parse text = ⟨(splitRoot text).1, components text⟩ := by
  rw [parse, components_splitRoot]

/-- What is between slashes is one component or none. -/
theorem components_of_not_mem {part : List Char} (hslash : '/' ∉ part) (hkept : kept part = true) :
    components part = [part] := by
  simp [components, List.splitOn_eq_singleton hslash, hkept]

theorem not_mem_of_mem_splitOn (text : List Char) : ∀ part ∈ text.splitOn '/', '/' ∉ part := by
  induction text with
  | nil => simp
  | cons first rest ih =>
      intro part hpart
      rw [List.splitOn_cons_eq_if_modifyHead] at hpart
      split at hpart
      next =>
        rcases List.mem_cons.mp hpart with rfl | hrest
        · simp
        · exact ih part hrest
      next hfirst =>
        -- the first component goes on with a character that is no slash
        obtain ⟨head, tail, hsplit⟩ := List.exists_cons_of_ne_nil (List.splitOn_ne_nil '/' rest)
        rw [hsplit] at hpart ih
        rcases List.mem_cons.mp hpart with rfl | htail
        · rw [List.mem_cons, not_or]
          exact ⟨fun hslash => hfirst (by simp [← hslash]), ih head List.mem_cons_self⟩
        · exact ih part (List.mem_cons_of_mem _ htail)

/-- A text with no component to leave out is what its components are joined to. -/
theorem components_eq_splitOn {text : List Char}
    (hkept : ∀ part ∈ text.splitOn '/', kept part = true) : components text = text.splitOn '/' :=
  List.filter_eq_self.mpr hkept

/-! ## Joining -/

/-- A text that is not empty and does not begin at the root. -/
def Relative (text : List Char) : Prop := text ≠ [] ∧ text.head? ≠ some '/'

variable {path text : List Char}

theorem components_join (htext : Relative text) :
    components (join path text) = components path ++ components text := by
  unfold join
  rw [if_congr (or_iff_right htext.2) rfl rfl]
  split
  next hempty => rw [hempty, components_nil, List.nil_append]
  next =>
    split
    next hlast =>
      -- the slash between them is the last one of the path
      obtain ⟨init, rfl⟩ := List.getLast?_eq_some_iff.mp hlast
      rw [List.append_assoc, List.singleton_append, components_append_slash,
        components_append_slash, components_nil, List.append_nil]
    next => exact components_append_slash path text

/-- The root is read from the first characters. A slash is added to it only by a text
that begins with one, behind a path that ends with one. -/
theorem splitRoot_append {rest : List Char} (hpath : path ≠ [])
    (hrest : rest.head? ≠ some '/' ∨ path.getLast? ≠ some '/') :
    (splitRoot (path ++ rest)).1 = (splitRoot path).1 := by
  match path with
  | [] => exact absurd rfl hpath
  | [first] =>
    by_cases hfirst : first = '/'
    · subst hfirst
      cases rest with
      | nil => rfl
      | cons second rest =>
          have hsecond : second ≠ '/' := by simpa using hrest
          simp [splitRoot, hsecond]
    · simp [splitRoot, hfirst]
  | [first, second] =>
    by_cases hfirst : first = '/'
    · subst hfirst
      by_cases hsecond : second = '/'
      · subst hsecond
        cases rest with
        | nil => rfl
        | cons third rest =>
            have hthird : third ≠ '/' := by simpa using hrest
            simp [splitRoot, hthird]
      · simp [splitRoot, hsecond]
    · simp [splitRoot, hfirst]
  | first :: second :: third :: tail =>
    by_cases hfirst : first = '/'
    · by_cases hsecond : second = '/'
      · by_cases hthird : third = '/' <;> simp [splitRoot, hfirst, hsecond, hthird]
      · simp [splitRoot, hfirst, hsecond]
    · simp [splitRoot, hfirst]

theorem splitRoot_of_relative (htext : Relative text) : (splitRoot text).1 = [] := by
  obtain ⟨hnonempty, hhead⟩ := htext
  cases text with
  | nil => exact absurd rfl hnonempty
  | cons first rest =>
      have hfirst : first ≠ '/' := by simpa using hhead
      simp [splitRoot, hfirst]

theorem splitRoot_join (htext : Relative text) :
    (splitRoot (join path text)).1 = (splitRoot path).1 := by
  unfold join
  rw [if_congr (or_iff_right htext.2) rfl rfl]
  split
  next hempty =>
    rw [hempty, splitRoot_of_relative htext]
    rfl
  next hpath =>
    split
    next => exact splitRoot_append hpath (.inl htext.2)
    next hlast => exact splitRoot_append hpath (.inr hlast)

/-- Joining a relative text puts its components below the path. -/
theorem parse_join (htext : Relative text) :
    parse (join path text) = ⟨(parse path).root, (parse path).tail ++ components text⟩ := by
  simp only [parse_eq, splitRoot_join htext, components_join htext]

/-- Joining relative texts one after another puts the components of all of them below
the path. -/
theorem parse_joinAll {texts : List (List Char)} (htexts : ∀ text ∈ texts, Relative text) :
    parse (joinAll path texts) =
      ⟨(parse path).root, (parse path).tail ++ texts.flatMap components⟩ := by
  induction texts generalizing path with
  | nil => simp [joinAll]
  | cons text rest ih =>
      have hfirst := htexts text List.mem_cons_self
      rw [joinAll, List.foldl_cons, ← joinAll,
        ih fun other hother => htexts other (List.mem_cons_of_mem _ hother), parse_join hfirst]
      simp

end PosixPath

end Foundation
