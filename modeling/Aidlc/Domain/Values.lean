import Aidlc.Foundation.CanonicalJson
import Aidlc.Foundation.Effects
import Aidlc.Foundation.Schema
import Aidlc.Domain.Models

/-! # Reading decoded values

Subscripts and attribute access on decoded JSON, with the exceptions they raise,
and the validation of a value against the shape a typed model declares.
-/

namespace Aidlc

open Foundation

namespace Json

open Foundation.Json

/-- `type(value).__name__`. -/
def typeName : Foundation.Json → String
  | .null => "NoneType"
  | .bool _ => "bool"
  | .int _ => "int"
  | .float _ => "float"
  | .str _ => "str"
  | .arr _ => "list"
  | .obj _ => "dict"

end Json

def typeError {α : Type} (message : String) : Except PyError α := .error ⟨.typeError, message⟩

def valueError {α : Type} (message : String) : Except PyError α := .error ⟨.valueError, message⟩

/-- `value[key]` -/
def subscript (value : Json) (key : String) : Except PyError Json :=
  match value with
  | .obj _ =>
    match value.get? key with
    | some entry => .ok entry
    | none => .error ⟨.keyError, "'" ++ key ++ "'"⟩
  | .arr _ => typeError "list indices must be integers or slices, not str"
  | .str _ => typeError "string indices must be integers, not 'str'"
  | .null | .bool _ | .int _ | .float _ =>
    typeError ("'" ++ Json.typeName value ++ "' object is not subscriptable")

/-- `value.get(key)` -/
def getAttr (value : Json) (key : String) : Except PyError (Option Json) :=
  match value with
  | .obj _ => .ok (value.get? key)
  | .null | .bool _ | .int _ | .float _ | .str _ | .arr _ =>
    .error ⟨.attributeError, "'" ++ Json.typeName value ++ "' object has no attribute 'get'"⟩

/-- The reading of typed models: the conversions of scalars, and the text of a
validation error. -/
structure Pydantic where
  reading : Reading
  explain : Schema → Json → String

/-- `model_validate` of a model without validators of its own. -/
def Pydantic.validate (pydantic : Pydantic) (schema : Schema) (value : Json) :
    Except PyError Unit :=
  if schema.accepts pydantic.reading value then .ok ()
  else .error ⟨.validationError, pydantic.explain schema value⟩

/-- `artifact["metadata"][key]` -/
def metadataOf (artifact : Json) (key : String) : Except PyError Json := do
  subscript (← subscript artifact "metadata") key

/-- The identifier of an artifact, which validated metadata keeps as text. -/
def artifactIdOf (artifact : Json) : Except PyError String := do
  match ← metadataOf artifact "artifact_id" with
  | .str text => return text
  | _ => .error ⟨.validationError, "Input should be a valid string"⟩

/-- `artifact["metadata"]["kind"] == kind` -/
def hasKind (kind : ArtifactKind) (artifact : Json) : Except PyError Bool := do
  return Json.pyEq (← metadataOf artifact "kind") (.str kind.value)

theorem subscript_eq_ok {value entry : Json} {key : String} :
    subscript value key = .ok entry ↔ value.get? key = some entry := by
  cases value with
  | obj fields =>
      unfold subscript
      cases (Json.obj fields).get? key <;> simp
  | null | bool | int | float | str | arr => simp [subscript, typeError, Foundation.Json.get?]

theorem metadataOf_eq_ok {artifact entry : Json} {key : String} :
    metadataOf artifact key = .ok entry ↔
      ∃ metadata, artifact.get? "metadata" = some metadata ∧ metadata.get? key = some entry := by
  unfold metadataOf
  rw [except_bind_eq_ok]
  simp only [subscript_eq_ok]

theorem artifactIdOf_eq_ok {artifact : Json} {text : String} :
    artifactIdOf artifact = .ok text ↔ metadataOf artifact "artifact_id" = .ok (.str text) := by
  unfold artifactIdOf
  rw [except_bind_eq_ok]
  constructor
  · rintro ⟨value, hvalue, hread⟩
    cases value with
    | str found =>
        cases hread
        exact hvalue
    | null | bool | int | float | arr | obj => cases hread
  · intro hvalue
    exact ⟨.str text, hvalue, rfl⟩

theorem Pydantic.validate_eq_ok {pydantic : Pydantic} {schema : Schema} {value : Json} :
    pydantic.validate schema value = .ok () ↔ schema.accepts pydantic.reading value = true := by
  unfold validate
  split <;> simp_all

/-- Optional texts are written differently. -/
theorem dumpsOptionText_inj {floatText : Rat → List Char} {first second : Option String}
    (heq : dumpsCanonical floatText (Json.ofOption .str first) =
      dumpsCanonical floatText (Json.ofOption .str second)) : first = second := by
  cases first with
  | none =>
      cases second with
      | none => rfl
      | some text => exact absurd (List.cons.inj heq).1 (by decide)
  | some text =>
      cases second with
      | none => exact absurd (List.cons.inj heq).1 (by decide)
      | some other => exact congrArg some (dumpsText_inj heq)

end Aidlc
