import Mathlib.Data.List.Sort
import Aidlc.Foundation.Json

/-! # Texts made of codes

A code is prefix-free when the item can be read off the start of any text that
begins with its code. JSON writes a string character by character with such a
code and closes it with a quote, so the text of a string, and of a list of
strings, determines the strings.
-/

namespace Foundation

section Codes

variable {α β : Type} {code : α → List β}

/-- A text that starts with a code starts with the code of one item only. -/
def PrefixFree (code : α → List β) : Prop :=
  ∀ first second left right, code first ++ left = code second ++ right → first = second

theorem PrefixFree.append_inj (hcode : PrefixFree code) {first second : α} {left right : List β}
    (heq : code first ++ left = code second ++ right) : first = second ∧ left = right := by
  have hitem := hcode first second left right heq
  subst hitem
  exact ⟨rfl, List.append_cancel_left heq⟩

/-- Codes written one after another up to a symbol that starts no code. -/
theorem PrefixFree.flatMap_inj (hcode : PrefixFree code) {stop : β}
    (hstop : ∀ item left right, code item ++ left ≠ stop :: right) {first second : List α}
    {left right : List β}
    (heq : first.flatMap code ++ stop :: left = second.flatMap code ++ stop :: right) :
    first = second ∧ left = right := by
  induction first generalizing second with
  | nil =>
      cases second with
      | nil =>
          simp only [List.flatMap_nil, List.nil_append, List.cons.injEq] at heq
          exact ⟨rfl, heq.2⟩
      | cons other rest =>
          rw [List.flatMap_cons, List.append_assoc, List.flatMap_nil, List.nil_append] at heq
          exact absurd heq.symm (hstop _ _ _)
  | cons item rest ih =>
      cases second with
      | nil =>
          rw [List.flatMap_cons, List.append_assoc, List.flatMap_nil, List.nil_append] at heq
          exact absurd heq (hstop _ _ _)
      | cons other tail =>
          rw [List.flatMap_cons, List.flatMap_cons, List.append_assoc, List.append_assoc] at heq
          obtain ⟨hitem, hrest⟩ := hcode.append_inj heq
          obtain ⟨htail, hleft⟩ := ih hrest
          exact ⟨by rw [hitem, htail], hleft⟩

end Codes

section Hexadecimal

/-- Four lower-case hexadecimal digits. -/
def hex4 (code : Nat) : List Char :=
  [code / 4096 % 16, code / 256 % 16, code / 16 % 16, code % 16].map Nat.digitChar

theorem digitChar_inj {first second : Nat} (hfirst : first < 16) (hsecond : second < 16)
    (heq : first.digitChar = second.digitChar) : first = second := by
  have hall : ∀ left right : Fin 16, left.val.digitChar = right.val.digitChar → left = right := by
    decide
  exact congrArg Fin.val (hall ⟨first, hfirst⟩ ⟨second, hsecond⟩ heq)

theorem hex4_inj {first second : Nat} (hfirst : first < 65536) (hsecond : second < 65536)
    {left right : List Char} (heq : hex4 first ++ left = hex4 second ++ right) :
    first = second ∧ left = right := by
  simp only [hex4, List.map_cons, List.map_nil, List.cons_append, List.nil_append,
    List.cons.injEq] at heq
  obtain ⟨h3, h2, h1, h0, hrest⟩ := heq
  have e3 := digitChar_inj (by omega) (by omega) h3
  have e2 := digitChar_inj (by omega) (by omega) h2
  have e1 := digitChar_inj (by omega) (by omega) h1
  have e0 := digitChar_inj (by omega) (by omega) h0
  exact ⟨by omega, hrest⟩

end Hexadecimal

section Strings

/-- The letter that stands for a character after a backslash. -/
def shortEscape : Char → Option Char
  | '"' => some '"'
  | '\\' => some '\\'
  | '\n' => some 'n'
  | '\r' => some 'r'
  | '\t' => some 't'
  | '\x0c' => some 'f'
  | '\x08' => some 'b'
  | _ => none

def unicodeEscape (code : Nat) : List Char := '\\' :: 'u' :: hex4 code

/-- A character inside a JSON string of ASCII characters. -/
def escapeChar (c : Char) : List Char :=
  match shortEscape c with
  | some letter => ['\\', letter]
  | none =>
    if 32 ≤ c.toNat ∧ c.toNat ≤ 126 then [c]
    else if c.toNat < 0x10000 then unicodeEscape c.toNat
    else
      -- a surrogate pair
      unicodeEscape (0xd800 + (c.toNat - 0x10000) / 1024) ++
        unicodeEscape (0xdc00 + (c.toNat - 0x10000) % 1024)

/-- `json.dumps` of a string -/
def dumpsText (text : String) : List Char := '"' :: (text.toList.flatMap escapeChar ++ ['"'])

/-- `json.dumps` of a string or `None` -/
def dumpsOption : Option String → List Char
  | none => ['n', 'u', 'l', 'l']
  | some text => dumpsText text

/-- `json.dumps` of a list of strings and `None`s -/
def dumpsList (items : List (Option String)) : List Char :=
  '[' :: ([',', ' '].intercalate (items.map dumpsOption) ++ [']'])

/-- The character a letter after a backslash stands for. -/
def longEscape : Char → Char
  | 'n' => '\n'
  | 'r' => '\r'
  | 't' => '\t'
  | 'f' => '\x0c'
  | 'b' => '\x08'
  | letter => letter

theorem longEscape_of_shortEscape {c letter : Char} (hshort : shortEscape c = some letter) :
    longEscape letter = c ∧ letter ≠ 'u' := by
  unfold shortEscape at hshort
  split at hshort
  all_goals cases hshort
  all_goals exact ⟨rfl, by decide⟩

/-- The four shapes of an escaped character. -/
inductive Escaped (c : Char) : List Char → Prop
  | short (letter : Char) (hshort : shortEscape c = some letter) : Escaped c ['\\', letter]
  | plain (hquote : c ≠ '"') (hbackslash : c ≠ '\\') : Escaped c [c]
  | basic (hbasic : c.toNat < 0x10000) : Escaped c (unicodeEscape c.toNat)
  | pair (hastral : 0x10000 ≤ c.toNat) :
      Escaped c (unicodeEscape (0xd800 + (c.toNat - 0x10000) / 1024) ++
        unicodeEscape (0xdc00 + (c.toNat - 0x10000) % 1024))

theorem escaped_escapeChar (c : Char) : Escaped c (escapeChar c) := by
  unfold escapeChar
  cases hshort : shortEscape c with
  | some letter => exact .short letter hshort
  | none =>
      simp only
      split
      · refine .plain ?_ ?_
        · rintro rfl
          cases hshort
        · rintro rfl
          cases hshort
      · split
        · exact .basic ‹_›
        · exact .pair (by omega)

/-- No character lies between the planes and the surrogates. -/
theorem toNat_not_surrogate (c : Char) : c.toNat < 0xd800 ∨ 0xdfff < c.toNat := by
  rcases c.valid with hlow | hhigh
  · exact Or.inl hlow
  · exact Or.inr hhigh.1

theorem toNat_lt (c : Char) : c.toNat < 0x110000 := by
  rcases c.valid with hlow | hhigh
  · exact Nat.lt_trans hlow (by decide)
  · exact hhigh.2

theorem unicodeEscape_inj {first second : Nat} (hfirst : first < 65536) (hsecond : second < 65536)
    {left right : List Char} (heq : unicodeEscape first ++ left = unicodeEscape second ++ right) :
    first = second ∧ left = right := by
  simp only [unicodeEscape, List.cons_append, List.cons.injEq, true_and] at heq
  exact hex4_inj hfirst hsecond heq

/-- A high surrogate is the code of no character, so the two kinds of Unicode
escapes differ as well. -/
theorem prefixFree_escapeChar : PrefixFree escapeChar := by
  intro first second left right heq
  have hfirst := escaped_escapeChar first
  have hsecond := escaped_escapeChar second
  have hfirstLt := toNat_lt first
  have hsecondLt := toNat_lt second
  generalize escapeChar first = code at heq hfirst
  generalize escapeChar second = other at heq hsecond
  -- The character after the backslash tells the kinds apart, and the digits the rest.
  cases hfirst with
  | short letter hshort =>
      obtain ⟨hletter, hne⟩ := longEscape_of_shortEscape hshort
      cases hsecond with
      | short other hother =>
          simp only [List.cons_append, List.nil_append, List.cons.injEq, true_and] at heq
          rw [← hletter, heq.1, (longEscape_of_shortEscape hother).1]
      | plain _ hbackslash =>
          simp only [List.cons_append, List.nil_append, List.cons.injEq] at heq
          exact absurd heq.1.symm hbackslash
      | basic | pair =>
          simp only [unicodeEscape, List.cons_append, List.nil_append, List.cons.injEq] at heq
          exact absurd heq.2.1 hne
  | plain _ hbackslash =>
      cases hsecond with
      | short | basic | pair =>
          simp only [unicodeEscape, List.cons_append, List.nil_append, List.cons.injEq] at heq
          exact absurd heq.1 hbackslash
      | plain =>
          simp only [List.cons_append, List.nil_append, List.cons.injEq] at heq
          exact heq.1
  | basic hbasic =>
      cases hsecond with
      | short letter hshort =>
          simp only [unicodeEscape, List.cons_append, List.nil_append, List.cons.injEq] at heq
          exact absurd heq.2.1.symm (longEscape_of_shortEscape hshort).2
      | plain _ hbackslash =>
          simp only [unicodeEscape, List.cons_append, List.nil_append, List.cons.injEq] at heq
          exact absurd heq.1.symm hbackslash
      | basic hother => exact Char.toNat_inj.mp (unicodeEscape_inj hbasic hother heq).1
      | pair hastral =>
          rw [List.append_assoc] at heq
          have hcode := (unicodeEscape_inj hbasic (by omega) heq).1
          -- No character of the basic plane is a surrogate.
          have hsurrogate := toNat_not_surrogate first
          omega
  | pair hastral =>
      cases hsecond with
      | short letter hshort =>
          simp only [unicodeEscape, List.cons_append, List.nil_append, List.cons.injEq] at heq
          exact absurd heq.2.1.symm (longEscape_of_shortEscape hshort).2
      | plain _ hbackslash =>
          simp only [unicodeEscape, List.cons_append, List.nil_append, List.cons.injEq] at heq
          exact absurd heq.1.symm hbackslash
      | basic hbasic =>
          rw [List.append_assoc] at heq
          have hcode := (unicodeEscape_inj (by omega) hbasic heq).1
          have hsurrogate := toNat_not_surrogate second
          omega
      | pair hother =>
          rw [List.append_assoc, List.append_assoc] at heq
          obtain ⟨hhigh, hrest⟩ := unicodeEscape_inj (by omega) (by omega) heq
          have hlow := (unicodeEscape_inj (by omega) (by omega) hrest).1
          exact Char.toNat_inj.mp (by omega)

theorem escapeChar_ne_quote (c : Char) (left right : List Char) :
    escapeChar c ++ left ≠ '"' :: right := by
  intro heq
  have hescaped := escaped_escapeChar c
  generalize escapeChar c = code at heq hescaped
  cases hescaped with
  | plain hquote => exact hquote (List.cons.inj heq).1
  | short | basic | pair => exact absurd (List.cons.inj heq).1 (by decide)

theorem prefixFree_dumpsText : PrefixFree dumpsText := by
  intro first second left right heq
  simp only [dumpsText, List.cons_append, List.append_assoc, List.nil_append, List.cons.injEq,
    true_and] at heq
  have htext := (prefixFree_escapeChar.flatMap_inj escapeChar_ne_quote heq).1
  exact String.toList_inj.mp htext

theorem prefixFree_dumpsOption : PrefixFree dumpsOption := by
  intro first second left right heq
  cases first with
  | none =>
      cases second with
      | none => rfl
      | some text => exact absurd (List.cons.inj heq).1 (by decide)
  | some text =>
      cases second with
      | none => exact absurd (List.cons.inj heq).1 (by decide)
      | some other => exact congrArg some (prefixFree_dumpsText text other left right heq)

theorem dumpsOption_ne_bracket (item : Option String) (left right : List Char) :
    dumpsOption item ++ left ≠ ']' :: right := by
  intro heq
  cases item with
  | none => exact absurd (List.cons.inj heq).1 (by decide)
  | some text => exact absurd (List.cons.inj heq).1 (by decide)

theorem intercalate_cons {α : Type} (separator item : List α) (rest : List (List α)) :
    separator.intercalate (item :: rest) = item ++ rest.flatMap fun other => separator ++ other := by
  induction rest generalizing item with
  | nil => simp [List.intercalate]
  | cons other tail ih =>
      rw [List.intercalate_cons_cons, ih, List.flatMap_cons, List.append_assoc, List.append_assoc]

/-- The text of a list determines the list. -/
theorem dumpsList_inj {first second : List (Option String)}
    (heq : dumpsList first = dumpsList second) : first = second := by
  have hitems := (List.cons.inj heq).2
  have hcode : PrefixFree fun item => [',', ' '] ++ dumpsOption item := by
    intro one other left right hcodes
    rw [List.append_assoc, List.append_assoc] at hcodes
    exact prefixFree_dumpsOption one other left right (List.append_cancel_left hcodes)
  have hstop : ∀ (item : Option String) (left right : List Char),
      ([',', ' '] ++ dumpsOption item) ++ left ≠ ']' :: right :=
    fun item left right hcodes => absurd (List.cons.inj hcodes).1 (by decide)
  cases first with
  | nil =>
      cases second with
      | nil => rfl
      | cons item rest =>
          rw [List.map_cons, intercalate_cons, List.append_assoc] at hitems
          exact absurd hitems.symm (dumpsOption_ne_bracket _ _ _)
  | cons item rest =>
      cases second with
      | nil =>
          rw [List.map_cons, intercalate_cons, List.append_assoc] at hitems
          exact absurd hitems (dumpsOption_ne_bracket _ _ _)
      | cons other tail =>
          rw [List.map_cons, List.map_cons, intercalate_cons, intercalate_cons, List.append_assoc,
            List.append_assoc] at hitems
          obtain ⟨hitem, hrest⟩ := prefixFree_dumpsOption.append_inj hitems
          rw [List.flatMap_map, List.flatMap_map] at hrest
          rw [hitem, (hcode.flatMap_inj hstop hrest).1]

end Strings

section Values

variable (floatText : Rat → List Char)

/-- An item of an object whose value is written already. -/
def dumpsEntry (entry : String × List Char) : List Char := dumpsText entry.1 ++ ':' :: entry.2

mutual

/-- `json.dumps(value, sort_keys=True, separators=(",", ":"))`; how a floating-point
number is written is left open. -/
def dumpsCanonical : Json → List Char
  | .null => ['n', 'u', 'l', 'l']
  | .bool true => ['t', 'r', 'u', 'e']
  | .bool false => ['f', 'a', 'l', 's', 'e']
  | .int value => (toString value).toList
  | .float value => floatText value
  | .str text => dumpsText text
  | .arr items => '[' :: ([','].intercalate (dumpsItems items) ++ [']'])
  | .obj fields =>
    let entries := (dumpsFields fields).insertionSort fun first second => first.1 ≤ second.1
    '{' :: ([','].intercalate (entries.map dumpsEntry) ++ ['}'])
termination_by structural value => value

def dumpsItems : List Json → List (List Char)
  | [] => []
  | item :: rest => dumpsCanonical item :: dumpsItems rest
termination_by structural items => items

def dumpsField : String × Json → String × List Char
  | (key, value) => (key, dumpsCanonical value)
termination_by structural field => field

def dumpsFields : List (String × Json) → List (String × List Char)
  | [] => []
  | field :: rest => dumpsField field :: dumpsFields rest
termination_by structural fields => fields

end

example : String.ofList (dumpsCanonical (fun _ => [])
    (.obj [("b", .arr [.int (-1), .null]), ("a", .str "é")])) =
      "\x7b\"a\":\"\\u00e9\",\"b\":[-1,null]\x7d" := by decide

end Values

end Foundation
