import Aidlc.Foundation.CanonicalJson

/-! # Spaced JSON texts

`json.dumps` puts a space behind the commas and the colons it writes. Without the
spaces outside of its strings a spaced text is the canonical one, so spaced texts
are equal only where the canonical ones are.
-/

namespace Foundation

section Spaced

variable (floatText : Rat → List Char)

def spacedEntry (entry : String × List Char) : List Char :=
  dumpsText entry.1 ++ ':' :: ' ' :: entry.2

mutual

/-- `json.dumps(value, sort_keys=True)` -/
def dumps : Json → List Char
  | .null => ['n', 'u', 'l', 'l']
  | .bool true => ['t', 'r', 'u', 'e']
  | .bool false => ['f', 'a', 'l', 's', 'e']
  | .int value => (toString value).toList
  | .float value => floatText value
  | .str text => dumpsText text
  | .arr items => '[' :: ([',', ' '].intercalate (spacedItems items) ++ [']'])
  | .obj fields =>
    let entries := (spacedFields fields).insertionSort fun first second => first.1 ≤ second.1
    '{' :: ([',', ' '].intercalate (entries.map spacedEntry) ++ ['}'])
termination_by structural value => value

def spacedItems : List Json → List (List Char)
  | [] => []
  | item :: rest => dumps item :: spacedItems rest
termination_by structural items => items

def spacedField : String × Json → String × List Char
  | (key, value) => (key, dumps value)
termination_by structural field => field

def spacedFields : List (String × Json) → List (String × List Char)
  | [] => []
  | field :: rest => spacedField field :: spacedFields rest
termination_by structural fields => fields

end

example : String.ofList (dumps (fun _ => [])
    (.obj [("b", .arr [.int (-1), .null]), ("a", .str "x")])) =
      "\x7b\"a\": \"x\", \"b\": [-1, null]\x7d" := by decide

end Spaced

/-- Where a character of a text stands: outside of strings, in one, or behind a backslash. -/
inductive Place where
  | outside | inside | escaped

/-- The text without the spaces outside of its strings. -/
def compact : Place → List Char → List Char
  | _, [] => []
  | .outside, c :: rest =>
    if c = ' ' then compact .outside rest
    else c :: compact (if c = '"' then .inside else .outside) rest
  | .inside, c :: rest =>
    c :: compact (if c = '"' then .outside else if c = '\\' then .escaped else .inside) rest
  | .escaped, c :: rest => c :: compact .inside rest

/-- The one text becomes the other, whatever follows it. -/
def Compacts (spaced text : List Char) : Prop :=
  ∀ rest, compact .outside (spaced ++ rest) = text ++ compact .outside rest

theorem compacts_append {spaced text later other : List Char} (hfirst : Compacts spaced text)
    (hsecond : Compacts later other) : Compacts (spaced ++ later) (text ++ other) := by
  intro rest
  rw [List.append_assoc, hfirst, hsecond, List.append_assoc]

/-- Texts without spaces and strings stay as they are. -/
theorem compacts_self {text : List Char} (hplain : ∀ c ∈ text, c ≠ ' ' ∧ c ≠ '"') :
    Compacts text text := by
  intro rest
  induction text with
  | nil => rfl
  | cons c tail ih =>
      obtain ⟨hspace, hquote⟩ := hplain c List.mem_cons_self
      rw [List.cons_append, compact, if_neg hspace, if_neg hquote,
        ih fun other hother => hplain other (List.mem_cons_of_mem _ hother), List.cons_append]

theorem compacts_number {text : List Char} (hnumber : NumberText text) : Compacts text text := by
  apply compacts_self
  intro c hc
  have hnumeric := hnumber.chars c hc
  constructor <;> rintro rfl <;> exact absurd hnumeric (by decide)

/-! ## Strings -/

theorem digitChar_plain {digit : Nat} (hdigit : digit < 16) :
    digit.digitChar ≠ '"' ∧ digit.digitChar ≠ '\\' := by
  have hall : ∀ digit : Fin 16, digit.val.digitChar ≠ '"' ∧ digit.val.digitChar ≠ '\\' := by
    decide
  exact hall ⟨digit, hdigit⟩

theorem compact_plain {text : List Char} (hplain : ∀ c ∈ text, c ≠ '"' ∧ c ≠ '\\')
    (rest : List Char) : compact .inside (text ++ rest) = text ++ compact .inside rest := by
  induction text with
  | nil => rfl
  | cons c tail ih =>
      obtain ⟨hquote, hbackslash⟩ := hplain c List.mem_cons_self
      rw [List.cons_append, compact, if_neg hquote, if_neg hbackslash,
        ih fun other hother => hplain other (List.mem_cons_of_mem _ hother), List.cons_append]

theorem compact_unicodeEscape (code : Nat) (rest : List Char) :
    compact .inside (unicodeEscape code ++ rest) = unicodeEscape code ++ compact .inside rest := by
  have hplain : ∀ c ∈ hex4 code, c ≠ '"' ∧ c ≠ '\\' := by
    intro c hc
    obtain ⟨digit, hdigit, rfl⟩ := List.mem_map.mp hc
    apply digitChar_plain
    simp only [List.mem_cons, List.not_mem_nil, or_false] at hdigit
    omega
  have hbackslash : ¬ '\\' = '"' := by decide
  rw [unicodeEscape, List.cons_append, List.cons_append, compact, if_neg hbackslash, if_pos rfl,
    compact, compact_plain hplain]
  rfl

theorem compact_escapeChar (c : Char) (rest : List Char) :
    compact .inside (escapeChar c ++ rest) = escapeChar c ++ compact .inside rest := by
  unfold escapeChar
  split
  · simp [compact]
  next hshort =>
    split
    · apply compact_plain
      intro other hother
      rw [List.mem_singleton] at hother
      subst hother
      constructor <;> rintro rfl <;> simp [shortEscape] at hshort
    · split
      · exact compact_unicodeEscape _ rest
      · rw [List.append_assoc, compact_unicodeEscape, compact_unicodeEscape, List.append_assoc]

theorem compacts_dumpsText (text : String) : Compacts (dumpsText text) (dumpsText text) := by
  have hbody (chars rest : List Char) : compact .inside (chars.flatMap escapeChar ++ rest) =
      chars.flatMap escapeChar ++ compact .inside rest := by
    induction chars with
    | nil => rfl
    | cons c tail ih =>
        rw [List.flatMap_cons, List.append_assoc, compact_escapeChar, ih, List.append_assoc]
  intro rest
  simp [dumpsText, compact, hbody]

/-! ## Values -/

section Values

variable {floatText : Rat → List Char}

theorem spacedItems_eq (items : List Json) :
    spacedItems floatText items = items.map (dumps floatText) := by
  induction items with
  | nil => rfl
  | cons item rest ih => rw [spacedItems, ih, List.map_cons]

theorem dumpsItems_eq (items : List Json) :
    dumpsItems floatText items = items.map (dumpsCanonical floatText) := by
  induction items with
  | nil => rfl
  | cons item rest ih => rw [dumpsItems, ih, List.map_cons]

theorem spacedFields_eq (fields : List (String × Json)) :
    spacedFields floatText fields = fields.map fun field => (field.1, dumps floatText field.2) := by
  induction fields with
  | nil => rfl
  | cons field rest ih => rw [spacedFields, ih, List.map_cons, spacedField]

theorem dumpsFields_eq (fields : List (String × Json)) :
    dumpsFields floatText fields =
      fields.map fun field => (field.1, dumpsCanonical floatText field.2) := by
  induction fields with
  | nil => rfl
  | cons field rest ih => rw [dumpsFields, ih, List.map_cons, dumpsField]

theorem compacts_intercalate {α : Type} {items : List α} {spaced text : α → List Char}
    (hitems : ∀ item ∈ items, Compacts (spaced item) (text item)) :
    Compacts ([',', ' '].intercalate (items.map spaced)) ([','].intercalate (items.map text)) := by
  have hcomma : Compacts [',', ' '] [','] := fun rest => rfl
  induction items with
  | nil => exact fun rest => rfl
  | cons item tail ih =>
      have hitem := hitems item List.mem_cons_self
      have htail := ih fun other hother => hitems other (List.mem_cons_of_mem _ hother)
      cases tail with
      | nil => simpa using hitem
      | cons other rest =>
          have hsplit (separator : List Char) (write : α → List Char) :
              separator.intercalate ((item :: other :: rest).map write) =
                write item ++ (separator ++ separator.intercalate ((other :: rest).map write)) := by
            simp [List.intercalate]
          rw [hsplit, hsplit]
          exact compacts_append hitem (compacts_append hcomma htail)

theorem compacts_brackets {first last : Char} {spaced text : List Char}
    (hfirst : first ≠ ' ' ∧ first ≠ '"') (hlast : last ≠ ' ' ∧ last ≠ '"')
    (htext : Compacts spaced text) :
    Compacts (first :: (spaced ++ [last])) (first :: (text ++ [last])) := by
  have hclose : Compacts [last] [last] := compacts_self (by simpa using hlast)
  have hopen : Compacts [first] [first] := compacts_self (by simpa using hfirst)
  exact compacts_append hopen (compacts_append htext hclose)

theorem compacts_fields {fields : List (String × Json)}
    (hfields : ∀ field ∈ fields,
      Compacts (dumps floatText field.2) (dumpsCanonical floatText field.2)) :
    Compacts (dumps floatText (.obj fields)) (dumpsCanonical floatText (.obj fields)) := by
  have hsorted (write : Json → List Char) :
      (fields.map fun field => (field.1, write field.2)).insertionSort
          (fun first second => first.1 ≤ second.1) =
        (fields.insertionSort fun first second => first.1 ≤ second.1).map
          fun field => (field.1, write field.2) :=
    (List.map_insertionSort (fun first second : String × Json => first.1 ≤ second.1)
      (fun first second : String × List Char => first.1 ≤ second.1) _ fields
      fun _ _ _ _ => Iff.rfl).symm
  rw [dumps, dumpsCanonical, spacedFields_eq, dumpsFields_eq, hsorted, hsorted, List.map_map,
    List.map_map]
  apply compacts_brackets (by decide) (by decide)
  apply compacts_intercalate
  intro field hfield
  have hcolon : Compacts [':', ' '] [':'] := fun rest => rfl
  have hvalue := hfields field ((List.mem_insertionSort _).mp hfield)
  exact compacts_append (compacts_dumpsText field.1) (compacts_append hcolon hvalue)

mutual

theorem compacts_dumps (hfloat : ∀ value, NumberText (floatText value)) :
    ∀ value : Json, Compacts (dumps floatText value) (dumpsCanonical floatText value)
  | .null => fun _ => rfl
  | .bool true => fun _ => rfl
  | .bool false => fun _ => rfl
  | .int value => compacts_number (numberText_int value)
  | .float value => compacts_number (hfloat value)
  | .str text => compacts_dumpsText text
  | .arr items => by
    rw [dumps, dumpsCanonical, spacedItems_eq, dumpsItems_eq]
    apply compacts_brackets (by decide) (by decide)
    exact compacts_intercalate (compacts_items hfloat items)
  | .obj fields => compacts_fields (compacts_values hfloat fields)
termination_by structural value => value

theorem compacts_items (hfloat : ∀ value, NumberText (floatText value)) :
    ∀ items : List Json, ∀ item ∈ items,
      Compacts (dumps floatText item) (dumpsCanonical floatText item)
  | [], item, hmem => by cases hmem
  | first :: rest, item, hmem => by
    rcases List.mem_cons.mp hmem with hfirst | hrest
    · rw [hfirst]
      exact compacts_dumps hfloat first
    · exact compacts_items hfloat rest item hrest
termination_by structural items => items

theorem compacts_value (hfloat : ∀ value, NumberText (floatText value)) :
    ∀ field : String × Json,
      Compacts (dumps floatText field.2) (dumpsCanonical floatText field.2)
  | (_, value) => compacts_dumps hfloat value
termination_by structural field => field

theorem compacts_values (hfloat : ∀ value, NumberText (floatText value)) :
    ∀ fields : List (String × Json), ∀ field ∈ fields,
      Compacts (dumps floatText field.2) (dumpsCanonical floatText field.2)
  | [], field, hmem => by cases hmem
  | first :: rest, field, hmem => by
    rcases List.mem_cons.mp hmem with hfirst | hrest
    · rw [hfirst]
      exact compacts_value hfloat first
    · exact compacts_values hfloat rest field hrest
termination_by structural fields => fields

end

/-- Values with one spaced text have one canonical text. -/
theorem dumpsCanonical_eq_of_dumps (hfloat : ∀ value, NumberText (floatText value))
    {first second : Json} (heq : dumps floatText first = dumps floatText second) :
    dumpsCanonical floatText first = dumpsCanonical floatText second := by
  have hcompact (value : Json) :
      compact .outside (dumps floatText value) = dumpsCanonical floatText value := by
    simpa [compact] using compacts_dumps hfloat value []
  rw [← hcompact first, heq, hcompact]

end Values

end Foundation
