import Aidlc.Foundation.JsonText

/-! # Canonical texts determine their values

A value inside a canonical text ends where a comma or a closing bracket follows it:
numbers have no such character, and every other value says itself where it ends. So
the text of an object determines the text of each of its fields.
-/

namespace Foundation

/-! ## Texts that end at a delimiter -/

def delimiters : List Char := [',', ']', '}']

/-- Nothing follows, or a delimiter does. -/
def Delimited (rest : List Char) : Prop := ∀ c ∈ rest.head?, c ∈ delimiters

theorem delimited_cons {stop : Char} {rest : List Char} (hstop : stop ∈ delimiters) :
    Delimited (stop :: rest) := by
  intro c hc
  cases hc
  exact hstop

/-- The same text cannot be both of these with something else behind it. -/
def Splits (first second : List Char) : Prop :=
  ∀ left right, Delimited left → Delimited right → first ++ left = second ++ right →
    first = second ∧ left = right

def numeric (c : Char) : Bool := c.isDigit || c ∈ ['-', '+', '.', 'e']

/-- The text of a number. -/
structure NumberText (text : List Char) : Prop where
  nonempty : text ≠ []
  chars : ∀ c ∈ text, numeric c = true

/-- No delimiter is part of a number. -/
theorem numeric_delimiter {c : Char} (hc : c ∈ delimiters) : numeric c = false := by
  rcases List.mem_cons.mp hc with rfl | hc
  · rfl
  rcases List.mem_cons.mp hc with rfl | hc
  · rfl
  rw [List.mem_singleton.mp hc]
  rfl

/-- A delimited text starts with no part of a number. -/
theorem takeWhile_numeric {rest : List Char} (hrest : Delimited rest) :
    rest.takeWhile numeric = [] := by
  cases rest with
  | nil => rfl
  | cons c tail =>
      have hc : c ∈ delimiters := hrest c rfl
      rw [List.takeWhile_cons, numeric_delimiter hc, if_neg Bool.false_ne_true]

/-- Two numbers before delimited texts are told apart. -/
theorem NumberText.splits {first second : List Char} (hfirst : NumberText first)
    (hsecond : NumberText second) : Splits first second := by
  intro left right hleft hright heq
  have hnumber := congrArg (List.takeWhile numeric) heq
  rw [List.takeWhile_append_of_pos hfirst.chars, List.takeWhile_append_of_pos hsecond.chars,
    takeWhile_numeric hleft, takeWhile_numeric hright, List.append_nil, List.append_nil] at hnumber
  subst hnumber
  exact ⟨rfl, List.append_cancel_left heq⟩

/-- A code without proper prefixes is told apart from whatever follows. -/
theorem PrefixFree.splits {α : Type} {code : α → List Char} (hcode : PrefixFree code)
    (first second : α) : Splits (code first) (code second) := by
  intro left right _ _ heq
  obtain ⟨rfl, hrest⟩ := hcode.append_inj heq
  exact ⟨rfl, hrest⟩

section Sequences

variable {stop : Char} {first second : List (List Char)} {left right : List Char}

/-- Texts after one another, a comma before each, up to a closing bracket. -/
theorem flatMap_splits (hstop : stop ∈ delimiters) (hcomma : stop ≠ ',')
    (hsplits : ∀ text ∈ first, ∀ other ∈ second, Splits text other)
    (heq : first.flatMap (fun text => [','] ++ text) ++ stop :: left =
      second.flatMap (fun text => [','] ++ text) ++ stop :: right) :
    first = second ∧ left = right := by
  induction first generalizing second with
  | nil =>
      cases second with
      | nil => exact ⟨rfl, (List.cons.inj heq).2⟩
      | cons other rest => exact absurd (List.cons.inj heq).1 hcomma
  | cons text rest ih =>
      cases second with
      | nil => exact absurd (List.cons.inj heq).1.symm hcomma
      | cons other tail =>
          rw [List.flatMap_cons, List.flatMap_cons, List.append_assoc, List.append_assoc,
            List.append_assoc, List.append_assoc] at heq
          have hrest (texts : List (List Char)) (behind : List Char) :
              Delimited (texts.flatMap (fun text => [','] ++ text) ++ stop :: behind) := by
            cases texts with
            | nil => exact delimited_cons hstop
            | cons _ _ => exact delimited_cons (by decide)
          obtain ⟨htext, htail⟩ := hsplits text List.mem_cons_self other List.mem_cons_self _ _
            (hrest rest left) (hrest tail right) (List.append_cancel_left heq)
          obtain ⟨hsame, hleft⟩ := ih (fun one hone two htwo =>
            hsplits one (List.mem_cons_of_mem _ hone) two (List.mem_cons_of_mem _ htwo)) htail
          exact ⟨by rw [htext, hsame], hleft⟩

/-- Texts separated by commas, up to a closing bracket. -/
theorem intercalate_splits (hstop : stop ∈ delimiters) (hcomma : stop ≠ ',')
    (hsplits : ∀ text ∈ first, ∀ other ∈ second, Splits text other)
    (hfirst : ∀ text ∈ first, text.head? ≠ some stop ∧ text ≠ [])
    (hsecond : ∀ text ∈ second, text.head? ≠ some stop ∧ text ≠ [])
    (heq : [','].intercalate first ++ stop :: left = [','].intercalate second ++ stop :: right) :
    first = second ∧ left = right := by
  have hempty {texts : List (List Char)} {text behind after : List Char}
      (htext : text.head? ≠ some stop ∧ text ≠ []) :
      [','].intercalate (text :: texts) ++ stop :: behind ≠ stop :: after := by
    rw [intercalate_cons, List.append_assoc]
    cases text with
    | nil => exact absurd rfl htext.2
    | cons c tail => exact fun hcons => htext.1 (congrArg some (List.cons.inj hcons).1)
  cases first with
  | nil =>
      cases second with
      | nil => exact ⟨rfl, (List.cons.inj heq).2⟩
      | cons other tail => exact absurd heq.symm (hempty (hsecond other List.mem_cons_self))
  | cons text rest =>
      cases second with
      | nil => exact absurd heq (hempty (hfirst text List.mem_cons_self))
      | cons other tail =>
          -- a comma before each side makes the first texts like the others
          refine flatMap_splits hstop hcomma hsplits ?_
          rw [intercalate_cons, intercalate_cons] at heq
          rw [List.flatMap_cons, List.flatMap_cons, List.append_assoc, List.append_assoc,
            List.append_assoc, List.append_assoc]
          rw [List.append_assoc, List.append_assoc] at heq
          rw [heq]

end Sequences

/-! ## Values -/

/-- Which kind of value begins with this character. -/
def lead : Char → Nat
  | 'n' => 0
  | 't' => 1
  | 'f' => 2
  | '"' => 4
  | '[' => 5
  | '{' => 6
  | ']' => 7
  | _ => 3

def Json.shape : Json → Nat
  | .null => 0
  | .bool true => 1
  | .bool false => 2
  | .int _ | .float _ => 3
  | .str _ => 4
  | .arr _ => 5
  | .obj _ => 6

theorem lead_numeric {c : Char} (hc : numeric c = true) : lead c = 3 := by
  unfold lead
  split
  all_goals first | rfl | exact absurd hc (by decide)

/-- A natural number prints as a number. -/
theorem numberText_nat (value : Nat) : NumberText value.repr.toList where
  nonempty hempty := by simp at hempty
  chars c hc := by
    rw [Nat.toList_repr] at hc
    rw [numeric, Nat.isDigit_of_mem_toDigits (by decide) (by decide) hc, Bool.true_or]

/-- Natural numbers are read back from their digits. -/
theorem nat_repr_inj {first second : Nat} (heq : first.repr = second.repr) : first = second := by
  have hdigits := congrArg (fun text => Nat.ofDigitChars 10 text.toList 0) heq
  simpa only [Nat.toList_repr, Nat.ofDigitChars_toDigits (by decide : 1 < 10) (Nat.le_refl 10)]
    using hdigits

theorem sign_ne_repr {value : Nat} {text : String} : "-" ++ text ≠ value.repr := by
  intro heq
  have hsign : '-' ∈ value.repr.toList := by
    rw [← heq, String.toList_append]
    exact List.mem_append_left _ (List.mem_singleton.mpr rfl)
  rw [Nat.toList_repr] at hsign
  exact absurd (Nat.isDigit_of_mem_toDigits (by decide) (by decide) hsign) (by decide)

theorem int_repr_inj {first second : Int} (heq : first.repr = second.repr) : first = second := by
  rw [Int.repr_eq_if, Int.repr_eq_if] at heq
  split at heq <;> split at heq
  · have hnat := nat_repr_inj heq
    omega
  · exact absurd heq.symm sign_ne_repr
  · exact absurd heq sign_ne_repr
  · have hnat := nat_repr_inj ((String.append_right_inj _).mp heq)
    omega

/-- An integer prints as a number. -/
theorem numberText_int (value : Int) : NumberText (toString value).toList := by
  show NumberText value.repr.toList
  rw [Int.repr_eq_if]
  split
  next => exact numberText_nat _
  next =>
    refine ⟨by simp, fun c hc => ?_⟩
    rw [String.toList_append, List.mem_append] at hc
    rcases hc with hsign | hdigit
    · rw [List.mem_singleton.mp hsign]
      decide
    · exact (numberText_nat _).chars c hdigit

section Canonical

variable {floatText : Rat → List Char} (hfloat : ∀ value, NumberText (floatText value))

theorem lead_number {text : List Char} (hnumber : NumberText text) :
    ∃ c rest, text = c :: rest ∧ lead c = 3 := by
  cases text with
  | nil => exact absurd rfl hnumber.nonempty
  | cons c rest => exact ⟨c, rest, rfl, lead_numeric (hnumber.chars c List.mem_cons_self)⟩

include hfloat in
/-- The first character of a text tells the shape of its value. -/
theorem lead_dumpsCanonical (value : Json) :
    ∃ c rest, dumpsCanonical floatText value = c :: rest ∧ lead c = value.shape := by
  cases value with
  | null => exact ⟨_, _, rfl, rfl⟩
  | bool value => cases value <;> exact ⟨_, _, rfl, rfl⟩
  | int value => exact lead_number (numberText_int value)
  | float value => exact lead_number (hfloat value)
  | str text => exact ⟨_, _, rfl, rfl⟩
  | arr items => exact ⟨_, _, rfl, rfl⟩
  | obj fields => exact ⟨_, _, rfl, rfl⟩

include hfloat in
/-- Texts that start alike are of values of one shape. -/
theorem shape_of_dumpsCanonical {first second : Json} {left right : List Char}
    (heq : dumpsCanonical floatText first ++ left = dumpsCanonical floatText second ++ right) :
    first.shape = second.shape := by
  obtain ⟨c, rest, hfirst, hc⟩ := lead_dumpsCanonical hfloat first
  obtain ⟨d, tail, hsecond, hd⟩ := lead_dumpsCanonical hfloat second
  rw [hfirst, hsecond] at heq
  rw [← hc, ← hd, (List.cons.inj heq).1]

/-- An entry splits where its value does. -/
theorem dumpsEntry_splits {first second : String × List Char} (hsplits : Splits first.2 second.2) :
    Splits (dumpsEntry first) (dumpsEntry second) := by
  intro left right hleft hright heq
  unfold dumpsEntry at heq ⊢
  rw [List.append_assoc, List.append_assoc] at heq
  obtain ⟨hkey, hvalue⟩ := prefixFree_dumpsText.append_inj heq
  obtain ⟨htext, hrest⟩ := hsplits left right hleft hright (List.cons.inj hvalue).2
  exact ⟨by rw [hkey, htext], hrest⟩

/-- The text of a value comes apart from the text of any other. -/
def Detachable (floatText : Rat → List Char) (text : List Char) : Prop :=
  ∀ other : Json, Splits text (dumpsCanonical floatText other)

theorem mem_dumpsItems {text : List Char} {items : List Json}
    (hmem : text ∈ dumpsItems floatText items) : ∃ item, text = dumpsCanonical floatText item := by
  induction items with
  | nil => cases hmem
  | cons item rest ih =>
      rw [dumpsItems] at hmem
      rcases List.mem_cons.mp hmem with rfl | hrest
      · exact ⟨item, rfl⟩
      · exact ih hrest

theorem mem_dumpsFields {entry : String × List Char} {fields : List (String × Json)}
    (hmem : entry ∈ dumpsFields floatText fields) :
    ∃ value, entry.2 = dumpsCanonical floatText value := by
  induction fields with
  | nil => cases hmem
  | cons field rest ih =>
      rw [dumpsFields] at hmem
      rcases List.mem_cons.mp hmem with rfl | hrest
      · exact ⟨field.2, by rw [dumpsField]⟩
      · exact ih hrest

include hfloat in
theorem dumpsCanonical_open (value : Json) :
    (dumpsCanonical floatText value).head? ≠ some ']' ∧ dumpsCanonical floatText value ≠ [] := by
  obtain ⟨c, rest, hvalue, hc⟩ := lead_dumpsCanonical hfloat value
  rw [hvalue]
  refine ⟨fun hhead => ?_, List.cons_ne_nil _ _⟩
  rw [List.head?_cons, Option.some.injEq] at hhead
  subst hhead
  have hbound : value.shape ≤ 6 := by
    unfold Json.shape
    split <;> decide
  rw [← hc] at hbound
  exact absurd hbound (by decide)

include hfloat in
/-- Written lists of values come apart item by item. -/
theorem splits_arr {items : List Json}
    (hdetachable : ∀ text ∈ dumpsItems floatText items, Detachable floatText text) {others : List Json}
    {left right : List Char}
    (heq : [','].intercalate (dumpsItems floatText items) ++ ']' :: left =
      [','].intercalate (dumpsItems floatText others) ++ ']' :: right) :
    dumpsItems floatText items = dumpsItems floatText others ∧ left = right := by
  have hopen (values : List Json) : ∀ text ∈ dumpsItems floatText values,
      text.head? ≠ some ']' ∧ text ≠ [] := by
    intro text htext
    obtain ⟨value, rfl⟩ := mem_dumpsItems htext
    exact dumpsCanonical_open hfloat value
  refine intercalate_splits (by decide) (by decide) (fun text htext other hother => ?_)
    (hopen items) (hopen others) heq
  obtain ⟨value, rfl⟩ := mem_dumpsItems hother
  exact hdetachable text htext value

/-- A key and its value's text are read back from the entry. -/
theorem dumpsEntry_injective {first second : String × List Char}
    (heq : dumpsEntry first = dumpsEntry second) : first = second := by
  unfold dumpsEntry at heq
  obtain ⟨hkey, htext⟩ := prefixFree_dumpsText.append_inj heq
  exact Prod.ext hkey (List.cons.inj htext).2

def sortedEntries (floatText : Rat → List Char) (fields : List (String × Json)) :
    List (String × List Char) :=
  (dumpsFields floatText fields).insertionSort fun first second => first.1 ≤ second.1

/-- Written objects come apart entry by entry. -/
theorem splits_obj {fields : List (String × Json)}
    (hdetachable : ∀ entry ∈ dumpsFields floatText fields, Detachable floatText entry.2)
    {others : List (String × Json)} {left right : List Char}
    (heq : [','].intercalate ((sortedEntries floatText fields).map dumpsEntry) ++ '}' :: left =
      [','].intercalate ((sortedEntries floatText others).map dumpsEntry) ++ '}' :: right) :
    sortedEntries floatText fields = sortedEntries floatText others ∧ left = right := by
  have hopen (entries : List (String × List Char)) : ∀ text ∈ entries.map dumpsEntry,
      text.head? ≠ some '}' ∧ text ≠ [] := by
    intro text htext
    obtain ⟨entry, -, rfl⟩ := List.mem_map.mp htext
    exact ⟨fun hhead => absurd (Option.some.inj hhead) (by decide), List.cons_ne_nil _ _⟩
  have hsplits : ∀ text ∈ (sortedEntries floatText fields).map dumpsEntry,
      ∀ other ∈ (sortedEntries floatText others).map dumpsEntry, Splits text other := by
    intro text htext other hother
    obtain ⟨entry, hentry, rfl⟩ := List.mem_map.mp htext
    obtain ⟨second, hsecond, rfl⟩ := List.mem_map.mp hother
    obtain ⟨value, hvalue⟩ := mem_dumpsFields ((List.mem_insertionSort _).mp hsecond)
    refine dumpsEntry_splits ?_
    rw [hvalue]
    exact hdetachable entry ((List.mem_insertionSort _).mp hentry) value
  obtain ⟨htexts, hrest⟩ :=
    intercalate_splits (by decide) (by decide) hsplits (hopen _) (hopen _) heq
  exact ⟨List.map_injective_iff.mpr (fun _ _ => dumpsEntry_injective) htexts, hrest⟩

include hfloat in
theorem numberText_of_shape {value : Json} (hshape : value.shape = 3) :
    NumberText (dumpsCanonical floatText value) := by
  cases value with
  | int value => exact numberText_int value
  | float value => exact hfloat value
  | bool value => cases value <;> cases hshape
  | null | str | arr | obj => cases hshape

mutual

/-- The text of a value ends where a delimiter follows it, and nowhere else. -/
theorem detachable (hfloat : ∀ value, NumberText (floatText value)) :
    ∀ value : Json, Detachable floatText (dumpsCanonical floatText value)
  | .null, other, left, right, _, _, heq => by
    have hshape := shape_of_dumpsCanonical hfloat heq
    cases other with
    | null => exact ⟨rfl, List.append_cancel_left heq⟩
    | bool value => cases value <;> cases hshape
    | int | float | str | arr | obj => cases hshape
  | .bool value, other, left, right, _, _, heq => by
    have hshape := shape_of_dumpsCanonical hfloat heq
    cases other with
    | bool other =>
        cases value <;> cases other <;> first
          | exact ⟨rfl, List.append_cancel_left heq⟩
          | cases hshape
    | null | int | float | str | arr | obj => cases value <;> cases hshape
  | .int value, other, left, right, hleft, hright, heq =>
    (numberText_int value).splits
      (numberText_of_shape hfloat (shape_of_dumpsCanonical hfloat heq).symm) left right hleft
      hright heq
  | .float value, other, left, right, hleft, hright, heq =>
    (hfloat value).splits (numberText_of_shape hfloat (shape_of_dumpsCanonical hfloat heq).symm)
      left right hleft hright heq
  | .str text, other, left, right, hleft, hright, heq => by
    have hshape := shape_of_dumpsCanonical hfloat heq
    cases other with
    | str other => exact prefixFree_dumpsText.splits text other left right hleft hright heq
    | bool value => cases value <;> cases hshape
    | null | int | float | arr | obj => cases hshape
  | .arr items, other, left, right, _, _, heq => by
    have hshape := shape_of_dumpsCanonical hfloat heq
    cases other with
    | arr others =>
        rw [dumpsCanonical, dumpsCanonical, List.cons_append, List.cons_append, List.append_assoc,
          List.append_assoc] at heq
        obtain ⟨hitems, hrest⟩ := splits_arr hfloat (detachable_items hfloat items) (List.cons.inj heq).2
        exact ⟨by rw [dumpsCanonical, dumpsCanonical, hitems], hrest⟩
    | bool value => cases value <;> cases hshape
    | null | int | float | str | obj => cases hshape
  | .obj fields, other, left, right, _, _, heq => by
    have hshape := shape_of_dumpsCanonical hfloat heq
    cases other with
    | obj others =>
        rw [dumpsCanonical, dumpsCanonical, List.cons_append, List.cons_append, List.append_assoc,
          List.append_assoc] at heq
        obtain ⟨hentries, hrest⟩ := splits_obj (detachable_fields hfloat fields) (List.cons.inj heq).2
        refine ⟨?_, hrest⟩
        rw [dumpsCanonical, dumpsCanonical]
        exact congrArg (fun entries : List (String × List Char) =>
          '{' :: ([','].intercalate (entries.map dumpsEntry) ++ ['}'])) hentries
    | bool value => cases value <;> cases hshape
    | null | int | float | str | arr => cases hshape
termination_by structural value => value

/-- Every item of a list is detachable. -/
theorem detachable_items (hfloat : ∀ value, NumberText (floatText value)) :
    ∀ items : List Json, ∀ text ∈ dumpsItems floatText items, Detachable floatText text
  | [], text, hmem => by cases hmem
  | item :: rest, text, hmem => by
    rw [dumpsItems] at hmem
    rcases List.mem_cons.mp hmem with rfl | hrest
    · exact detachable hfloat item
    · exact detachable_items hfloat rest text hrest
termination_by structural items => items

theorem detachable_field (hfloat : ∀ value, NumberText (floatText value)) :
    ∀ field : String × Json, Detachable floatText (dumpsField floatText field).2
  | (_, value) => detachable hfloat value
termination_by structural field => field

/-- Every entry of an object is detachable. -/
theorem detachable_fields (hfloat : ∀ value, NumberText (floatText value)) :
    ∀ fields : List (String × Json), ∀ entry ∈ dumpsFields floatText fields,
      Detachable floatText entry.2
  | [], entry, hmem => by cases hmem
  | field :: rest, entry, hmem => by
    rw [dumpsFields] at hmem
    rcases List.mem_cons.mp hmem with rfl | hrest
    · exact detachable_field hfloat field
    · exact detachable_fields hfloat rest entry hrest
termination_by structural fields => fields

end

/-! ## Texts of fields -/

/-- Lists of entries with the same keys are permutations of each other only when equal. -/
theorem eq_of_perm_keys {α β : Type} {first second : List (α × β)} (hperm : first.Perm second)
    (hkeys : first.map Prod.fst = second.map Prod.fst) (hnodup : (first.map Prod.fst).Nodup) :
    first = second := by
  induction first generalizing second with
  | nil => exact (List.nil_perm.mp hperm).symm
  | cons entry rest ih =>
      cases second with
      | nil => cases hkeys
      | cons other tail =>
          rw [List.map_cons, List.map_cons, List.cons.injEq] at hkeys
          rw [List.map_cons, List.nodup_cons] at hnodup
          have hentry : entry = other := by
            rcases List.mem_cons.mp (hperm.subset List.mem_cons_self) with hsame | hmem
            · exact hsame
            · have hkey : entry.1 ∈ rest.map Prod.fst := hkeys.2 ▸ List.mem_map_of_mem hmem
              exact absurd hkey hnodup.1
          subst hentry
          rw [ih ((List.perm_cons _).mp hperm) hkeys.2 hnodup.2]

include hfloat

/-- Lists with one text have the same item texts. -/
theorem dumpsItems_inj {items others : List Json}
    (heq : dumpsCanonical floatText (.arr items) = dumpsCanonical floatText (.arr others)) :
    dumpsItems floatText items = dumpsItems floatText others := by
  rw [dumpsCanonical, dumpsCanonical] at heq
  exact (splits_arr hfloat (detachable_items hfloat items) (List.cons.inj heq).2).1

omit hfloat in
theorem keys_dumpsFields (fields : List (String × Json)) :
    (dumpsFields floatText fields).map Prod.fst = fields.map Prod.fst := by
  induction fields with
  | nil => rfl
  | cons field rest ih => rw [dumpsFields, List.map_cons, List.map_cons, ih, dumpsField]

/-- Objects with the same keys in the same order are written alike only when each of
their fields is. -/
theorem dumpsFields_inj {fields others : List (String × Json)}
    (hkeys : fields.map Prod.fst = others.map Prod.fst) (hnodup : (fields.map Prod.fst).Nodup)
    (heq : dumpsCanonical floatText (.obj fields) = dumpsCanonical floatText (.obj others)) :
    dumpsFields floatText fields = dumpsFields floatText others := by
  rw [dumpsCanonical, dumpsCanonical] at heq
  have hsorted := (splits_obj (detachable_fields hfloat fields) (List.cons.inj heq).2).1
  have hperm (fields : List (String × Json)) :
      (sortedEntries floatText fields).Perm (dumpsFields floatText fields) :=
    List.perm_insertionSort _ _
  refine eq_of_perm_keys ?_ ?_ ?_
  · exact (hperm fields).symm.trans ((List.Perm.of_eq hsorted).trans (hperm others))
  · rw [keys_dumpsFields, keys_dumpsFields, hkeys]
  · rw [keys_dumpsFields]
    exact hnodup

omit hfloat in
theorem dumpsText_inj {first second : String} (heq : dumpsText first = dumpsText second) :
    first = second :=
  prefixFree_dumpsText first second [] [] (by rw [heq])

omit hfloat in
theorem dumpsInt_inj {first second : Int}
    (heq : dumpsCanonical floatText (.int first) = dumpsCanonical floatText (.int second)) :
    first = second := by
  rw [dumpsCanonical, dumpsCanonical] at heq
  exact int_repr_inj (String.toList_inj.mp heq)

omit hfloat in
theorem dumpsBool_inj {first second : Bool}
    (heq : dumpsCanonical floatText (.bool first) = dumpsCanonical floatText (.bool second)) :
    first = second := by
  cases first <;> cases second <;> first | rfl | exact absurd (List.cons.inj heq).1 (by decide)

end Canonical

end Foundation
