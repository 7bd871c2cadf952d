import Aidlc.Foundation.Json

/-! # Declared shapes of JSON values

A schema says what a typed model accepts. Text, lists, and objects are accepted
as they are; how a reader converts the other scalars is a parameter.
-/

namespace Foundation

/-- The values a lax reader takes for a truth value, an integer, and a time. -/
structure Reading where
  bool : Json → Option Bool
  int : Json → Option Int
  datetime : Json → Bool

inductive Schema where
  | any
  | str
  | literal (values : List String)
  | bool
  | int (lower upper : Option Int)
  | datetime
  | nullable (schema : Schema)
  | either (first second : Schema)
  | list (item : Schema)
  | dict (value : Schema)
  /-- An object with the named fields, each required or not; a closed model has
  no others. -/
  | model (closed : Bool) (fields : List (String × Bool × Schema))

namespace Schema

def within (lower upper : Option Int) (value : Int) : Bool :=
  lower.all (· ≤ value) && upper.all (value ≤ ·)

mutual

def accepts (reading : Reading) : Schema → Json → Bool
  | .any, _ => true
  | .str, value => value.str?.isSome
  | .literal values, value => value.str?.any (· ∈ values)
  | .bool, value => (reading.bool value).isSome
  | .int lower upper, value => (reading.int value).any (within lower upper)
  | .datetime, value => reading.datetime value
  | .nullable schema, value => value == .null || schema.accepts reading value
  | .either first second, value => first.accepts reading value || second.accepts reading value
  | .list item, value => match value with
    | .arr items => items.all fun entry => item.accepts reading entry
    | _ => false
  | .dict schema, value => match value with
    | .obj fields => fields.all fun field => schema.accepts reading field.2
    | _ => false
  | .model closed fields, value => match value with
    | .obj entries =>
      (!closed || entries.all fun entry => fields.any fun field => field.1 == entry.1) &&
        acceptsFields reading fields value
    | _ => false
termination_by structural schema _ => schema

def acceptsField (reading : Reading) : String × Bool × Schema → Json → Bool
  | (name, field), value => acceptsEntry reading field (value.get? name)
termination_by structural field _ => field

def acceptsEntry (reading : Reading) : Bool × Schema → Option Json → Bool
  | (required, schema), value => match value with
    | some entry => schema.accepts reading entry
    | none => !required
termination_by structural field _ => field

def acceptsFields (reading : Reading) : List (String × Bool × Schema) → Json → Bool
  | [], _ => true
  | field :: rest, value => acceptsField reading field value && acceptsFields reading rest value
termination_by structural fields _ => fields

end

variable {reading : Reading} {value : Json}

theorem str_of_accepts (haccepts : str.accepts reading value = true) :
    ∃ text, value = .str text := by
  cases value with
  | str text => exact ⟨text, rfl⟩
  | null | bool | int | float | arr | obj => cases haccepts

theorem text_of_literal {values : List String}
    (haccepts : (literal values).accepts reading value = true) :
    ∃ text ∈ values, value = .str text := by
  cases value with
  | str text => exact ⟨text, by simpa [accepts, Json.str?] using haccepts, rfl⟩
  | null | bool | int | float | arr | obj => cases haccepts

theorem items_of_list {item : Schema} (haccepts : (list item).accepts reading value = true) :
    ∃ items, value = .arr items ∧ ∀ entry ∈ items, item.accepts reading entry = true := by
  cases value with
  | arr items => exact ⟨items, rfl, by simpa [accepts] using haccepts⟩
  | null | bool | int | float | str | obj => cases haccepts

theorem fields_of_model {closed : Bool} {fields : List (String × Bool × Schema)}
    (haccepts : (model closed fields).accepts reading value = true) :
    ∃ entries, value = .obj entries := by
  cases value with
  | obj entries => exact ⟨entries, rfl⟩
  | null | bool | int | float | str | arr => cases haccepts

/-- What a model says of one of its fields. -/
theorem field_of_model {closed : Bool} {fields : List (String × Bool × Schema)}
    (haccepts : (model closed fields).accepts reading value = true) {name : String}
    {required : Bool} {schema : Schema} (hmem : (name, required, schema) ∈ fields) :
    match value.get? name with
    | some entry => schema.accepts reading entry = true
    | none => required = false := by
  have hfields : acceptsFields reading fields value = true := by
    obtain ⟨entries, rfl⟩ := fields_of_model haccepts
    simp only [accepts, Bool.and_eq_true] at haccepts
    exact haccepts.2
  clear haccepts
  induction fields with
  | nil => cases hmem
  | cons field rest ih =>
      simp only [acceptsFields, Bool.and_eq_true] at hfields
      rcases List.mem_cons.mp hmem with rfl | hrest
      · have hentry := hfields.1
        simp only [acceptsField, acceptsEntry] at hentry
        cases hvalue : value.get? name with
        | some entry => simpa [hvalue] using hentry
        | none => simpa [hvalue] using hentry
      · exact ih hrest hfields.2

theorem required_of_model {closed : Bool} {fields : List (String × Bool × Schema)}
    (haccepts : (model closed fields).accepts reading value = true) {name : String}
    {schema : Schema} (hmem : (name, true, schema) ∈ fields) :
    ∃ entry, value.get? name = some entry ∧ schema.accepts reading entry = true := by
  have hfield := field_of_model haccepts hmem
  cases hvalue : value.get? name with
  | some entry => exact ⟨entry, rfl, by simpa [hvalue] using hfield⟩
  | none => simp [hvalue] at hfield

end Schema

end Foundation
