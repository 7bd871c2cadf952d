import Aidlc.Foundation.Binary64
import Aidlc.Foundation.Json

/-! # JSON in protocol messages

A message holds JSON as a `Value`, in which every number is a double. What is
read back from a value has integers where the double is integral, and stands
for the same value again: writing it a second time changes nothing.
-/

namespace Foundation

namespace Protobuf

inductive Value where
  | null
  | bool (value : Bool)
  | number (value : Binary64)
  | str (value : String)
  | list (values : List Value)
  | struct (fields : List (String × Value))

mutual

/-- `ParseDict` into a `Value`: nothing for a number that is too large for a double. -/
def parseDict : Json → Option Value
  | .null => some .null
  | .bool value => some (.bool value)
  | .int value => (Binary64.ofRat value).map .number
  | .float value => (Binary64.ofRat value).map .number
  | .str value => some (.str value)
  | .arr items => (parseItems items).map .list
  | .obj fields => (parseFields fields).map .struct
termination_by structural value => value

def parseItems : List Json → Option (List Value)
  | [] => some []
  | item :: rest => (parseDict item).bind fun value => (parseItems rest).map (value :: ·)
termination_by structural items => items

def parseField : String × Json → Option (String × Value)
  | (key, item) => (parseDict item).map fun value => (key, value)
termination_by structural field => field

def parseFields : List (String × Json) → Option (List (String × Value))
  | [] => some []
  | field :: rest => (parseField field).bind fun value => (parseFields rest).map (value :: ·)
termination_by structural fields => fields

end

/-- A double as it is read back: an integer where it is integral. -/
def ofNumber (number : Rat) : Json := if number.den = 1 then .int number.num else .float number

mutual

/-- `MessageToDict` of a `Value`. -/
def messageToDict : Value → Json
  | .null => .null
  | .bool value => .bool value
  | .number number => ofNumber number.value
  | .str value => .str value
  | .list values => .arr (itemsToDict values)
  | .struct fields => .obj (fieldsToDict fields)
termination_by structural value => value

def itemsToDict : List Value → List Json
  | [] => []
  | value :: rest => messageToDict value :: itemsToDict rest
termination_by structural values => values

def fieldToDict : String × Value → String × Json
  | (key, value) => (key, messageToDict value)
termination_by structural field => field

def fieldsToDict : List (String × Value) → List (String × Json)
  | [] => []
  | field :: rest => fieldToDict field :: fieldsToDict rest
termination_by structural fields => fields

end

theorem parseDict_ofNumber (number : Binary64) :
    parseDict (ofNumber number.value) = some (.number number) := by
  unfold ofNumber
  split
  · rename_i hintegral
    have hvalue : (number.value.num : Rat) = number.value := Rat.den_eq_one_iff _ |>.mp hintegral
    simp [parseDict, hvalue]
  · simp [parseDict]

mutual

/-- What is read back stands for the value it was read from. -/
theorem parseDict_messageToDict : ∀ value, parseDict (messageToDict value) = some value
  | .null | .bool _ | .str _ => rfl
  | .number number => parseDict_ofNumber number
  | .list values => by simp [messageToDict, parseDict, parseItems_itemsToDict values]
  | .struct fields => by simp [messageToDict, parseDict, parseFields_fieldsToDict fields]
termination_by structural value => value

theorem parseItems_itemsToDict : ∀ values, parseItems (itemsToDict values) = some values
  | [] => rfl
  | value :: rest => by
    simp [itemsToDict, parseItems, parseDict_messageToDict value, parseItems_itemsToDict rest]
termination_by structural values => values

theorem parseField_fieldToDict : ∀ field, parseField (fieldToDict field) = some field
  | (_, value) => by simp [fieldToDict, parseField, parseDict_messageToDict value]
termination_by structural field => field

theorem parseFields_fieldsToDict : ∀ fields, parseFields (fieldsToDict fields) = some fields
  | [] => rfl
  | field :: rest => by
    simp [fieldsToDict, parseFields, parseField_fieldToDict field, parseFields_fieldsToDict rest]
termination_by structural fields => fields

end

/-- A JSON value as it comes out of a message. -/
def passage (value : Json) : Option Json := (parseDict value).map messageToDict

/-- What came out of a message passes unchanged. -/
theorem passage_of_passage {value passed : Json} (hpassage : passage value = some passed) :
    passage passed = some passed := by
  obtain ⟨held, -, rfl⟩ := Option.map_eq_some_iff.mp hpassage
  rw [passage, parseDict_messageToDict, Option.map_some]

@[simp] theorem passage_str (text : String) : passage (.str text) = some (.str text) := rfl

@[simp] theorem passage_null : passage .null = some .null := rfl

@[simp] theorem passage_bool (value : Bool) : passage (.bool value) = some (.bool value) := rfl

/-- A small integer passes unchanged. -/
theorem passage_int {value : Int} (hsmall : |value| < 2 ^ 53) :
    passage (.int value) = some (.int value) := by
  obtain ⟨number, hnumber, hvalue⟩ := Option.map_eq_some_iff.mp (Binary64.ofRat_intCast hsmall)
  simp [passage, parseDict, hnumber, messageToDict, hvalue, ofNumber]

/-- The items of an array after a passage. -/
def passItems (items : List Json) : Option (List Json) := (parseItems items).map itemsToDict

/-- The items of an object after a passage, each under its key. -/
def passFields (fields : List (String × Json)) : Option (List (String × Json)) :=
  (parseFields fields).map fieldsToDict

theorem passage_arr (items : List Json) : passage (.arr items) = (passItems items).map .arr := by
  simp only [passage, parseDict, passItems, Option.map_map]
  rfl

theorem passage_obj (fields : List (String × Json)) :
    passage (.obj fields) = (passFields fields).map .obj := by
  simp only [passage, parseDict, passFields, Option.map_map]
  rfl

@[simp] theorem passItems_nil : passItems [] = some [] := rfl

@[simp] theorem passFields_nil : passFields [] = some [] := rfl

theorem passItems_cons (item : Json) (rest : List Json) :
    passItems (item :: rest) =
      (passage item).bind fun passed => (passItems rest).map (passed :: ·) := by
  simp only [passItems, passage, parseItems]
  cases parseDict item with
  | none => rfl
  | some value =>
      cases parseItems rest with
      | none => rfl
      | some values => rfl

theorem passFields_cons (key : String) (value : Json) (rest : List (String × Json)) :
    passFields ((key, value) :: rest) =
      (passage value).bind fun passed => (passFields rest).map ((key, passed) :: ·) := by
  simp only [passFields, passage, parseFields, parseField]
  cases parseDict value with
  | none => rfl
  | some held =>
      cases parseFields rest with
      | none => rfl
      | some values => rfl

theorem passFields_cons_eq_some {key : String} {value : Json} {rest passed : List (String × Json)} :
    passFields ((key, value) :: rest) = some passed ↔
      ∃ head tail, passage value = some head ∧ passFields rest = some tail ∧
        passed = (key, head) :: tail := by
  rw [passFields_cons, Option.bind_eq_some_iff]
  constructor
  · rintro ⟨head, hhead, htail⟩
    obtain ⟨tail, hrest, rfl⟩ := Option.map_eq_some_iff.mp htail
    exact ⟨head, tail, hhead, hrest, rfl⟩
  · rintro ⟨head, tail, hhead, hrest, rfl⟩
    exact ⟨head, hhead, Option.map_eq_some_iff.mpr ⟨tail, hrest, rfl⟩⟩

/-- An array passes when its items do. -/
theorem passage_arr_isSome {items : List Json}
    (hitems : ∀ item ∈ items, (passage item).isSome = true) :
    (passage (.arr items)).isSome = true := by
  rw [passage_arr, Option.isSome_map]
  induction items with
  | nil => rfl
  | cons item rest ih =>
      obtain ⟨head, hhead⟩ := Option.isSome_iff_exists.mp (hitems item List.mem_cons_self)
      obtain ⟨tail, htail⟩ := Option.isSome_iff_exists.mp
        (ih fun other hmem => hitems other (List.mem_cons_of_mem _ hmem))
      rw [passItems_cons, hhead, htail]
      rfl

/-- An object passes when its values do. -/
theorem passage_obj_isSome {fields : List (String × Json)}
    (hvalues : ∀ field ∈ fields, (passage field.2).isSome = true) :
    (passage (.obj fields)).isSome = true := by
  rw [passage_obj, Option.isSome_map]
  induction fields with
  | nil => rfl
  | cons field rest ih =>
      obtain ⟨key, value⟩ := field
      obtain ⟨head, hhead⟩ := Option.isSome_iff_exists.mp (hvalues (key, value) List.mem_cons_self)
      obtain ⟨tail, htail⟩ := Option.isSome_iff_exists.mp
        (ih fun other hmem => hvalues other (List.mem_cons_of_mem _ hmem))
      rw [passFields_cons, hhead, htail]
      rfl

/-- A passage takes every part of an object by itself. -/
theorem passFields_append_eq_some {first second passed : List (String × Json)} :
    passFields (first ++ second) = some passed ↔
      ∃ left right, passFields first = some left ∧ passFields second = some right ∧
        passed = left ++ right := by
  induction first generalizing passed with
  | nil => simp
  | cons field rest ih =>
      obtain ⟨key, value⟩ := field
      rw [List.cons_append, passFields_cons_eq_some]
      constructor
      · rintro ⟨head, tail, hhead, htail, rfl⟩
        obtain ⟨left, right, hleft, hright, rfl⟩ := ih.mp htail
        exact ⟨(key, head) :: left, right,
          passFields_cons_eq_some.mpr ⟨head, left, hhead, hleft, rfl⟩, hright, rfl⟩
      · rintro ⟨left, right, hleft, hright, rfl⟩
        obtain ⟨head, tail, hhead, htail, rfl⟩ := passFields_cons_eq_some.mp hleft
        exact ⟨head, tail ++ right, hhead, ih.mpr ⟨tail, right, htail, hright, rfl⟩, rfl⟩

/-- The keys of an object lead to the values that passed. -/
theorem lookup_passFields {fields passed : List (String × Json)}
    (hpassed : passFields fields = some passed) (key : String) :
    passed.lookup key = (fields.lookup key).bind passage := by
  induction fields generalizing passed with
  | nil =>
      cases hpassed
      rfl
  | cons field rest ih =>
      obtain ⟨name, value⟩ := field
      obtain ⟨head, tail, hhead, htail, rfl⟩ := passFields_cons_eq_some.mp hpassed
      rw [List.lookup_cons, List.lookup_cons]
      cases key == name with
      | true => exact hhead.symm
      | false => exact ih htail

theorem keys_passFields {fields passed : List (String × Json)}
    (hpassed : passFields fields = some passed) :
    passed.map Prod.fst = fields.map Prod.fst := by
  induction fields generalizing passed with
  | nil =>
      cases hpassed
      rfl
  | cons field rest ih =>
      obtain ⟨key, value⟩ := field
      obtain ⟨head, tail, -, htail, rfl⟩ := passFields_cons_eq_some.mp hpassed
      rw [List.map_cons, List.map_cons, ih htail]

theorem proper_ofNumber (number : Rat) : (ofNumber number).proper = true := by
  unfold ofNumber
  split <;> rfl

mutual

/-- A passage keeps the keys of objects distinct. -/
theorem proper_passage : ∀ value passed, passage value = some passed → value.proper = true →
    passed.proper = true
  | .null, _, hpassage, _ => by
    cases hpassage
    rfl
  | .bool _, _, hpassage, _ => by
    cases hpassage
    rfl
  | .str _, _, hpassage, _ => by
    cases hpassage
    rfl
  | .int value, _, hpassage, _ => by
    simp only [passage, parseDict, Option.map_map] at hpassage
    obtain ⟨number, -, rfl⟩ := Option.map_eq_some_iff.mp hpassage
    exact proper_ofNumber _
  | .float value, _, hpassage, _ => by
    simp only [passage, parseDict, Option.map_map] at hpassage
    obtain ⟨number, -, rfl⟩ := Option.map_eq_some_iff.mp hpassage
    exact proper_ofNumber _
  | .arr items, _, hpassage, hproper => by
    rw [passage_arr] at hpassage
    obtain ⟨passed, hpassed, rfl⟩ := Option.map_eq_some_iff.mp hpassage
    simp only [Json.proper] at hproper ⊢
    exact properItems_passItems items passed hpassed hproper
  | .obj fields, _, hpassage, hproper => by
    rw [passage_obj] at hpassage
    obtain ⟨passed, hpassed, rfl⟩ := Option.map_eq_some_iff.mp hpassage
    simp only [Json.proper, Bool.and_eq_true, decide_eq_true_eq] at hproper ⊢
    rw [keys_passFields hpassed]
    exact ⟨hproper.1, properFields_passFields fields passed hpassed hproper.2⟩
termination_by structural value => value

theorem properItems_passItems : ∀ items passed, passItems items = some passed →
    Json.properItems items = true → Json.properItems passed = true
  | [], _, hpassed, _ => by
    cases hpassed
    rfl
  | item :: rest, _, hpassed, hproper => by
    rw [passItems_cons, Option.bind_eq_some_iff] at hpassed
    obtain ⟨head, hhead, htail⟩ := hpassed
    obtain ⟨tail, hrest, rfl⟩ := Option.map_eq_some_iff.mp htail
    simp only [Json.properItems, Bool.and_eq_true] at hproper ⊢
    exact ⟨proper_passage item head hhead hproper.1,
      properItems_passItems rest tail hrest hproper.2⟩
termination_by structural items => items

theorem properField_passage : ∀ (field : String × Json) (passed : Json),
    passage field.2 = some passed → Json.properField field = true → passed.proper = true
  | (_, value), passed, hpassed, hproper => by
    simp only [Json.properField] at hproper
    exact proper_passage value passed hpassed hproper
termination_by structural field => field

theorem properFields_passFields : ∀ fields passed, passFields fields = some passed →
    Json.properFields fields = true → Json.properFields passed = true
  | [], _, hpassed, _ => by
    cases hpassed
    rfl
  | field :: rest, _, hpassed, hproper => by
    obtain ⟨head, tail, hhead, htail, rfl⟩ := passFields_cons_eq_some.mp hpassed
    simp only [Json.properFields, Json.properField, Bool.and_eq_true] at hproper ⊢
    exact ⟨properField_passage field head hhead hproper.1,
      properFields_passFields rest tail htail hproper.2⟩
termination_by structural fields => fields

end

end Protobuf

end Foundation
