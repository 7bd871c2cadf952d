import Mathlib.Data.Rat.Defs

/-! # JSON values

Values are taken up to the equality of the language that reads and writes
them: an object is a list of items with distinct keys whose order carries no
meaning, so writing a value as text with sorted keys and reading the text back
is the identity on values.
-/

namespace Foundation

inductive Json where
  | null
  | bool (value : Bool)
  | int (value : Int)
  | float (value : Rat)
  | str (value : String)
  | arr (items : List Json)
  | obj (fields : List (String × Json))

namespace Json

instance : Inhabited Json := ⟨.null⟩

mutual

def decEq : (left right : Json) → Decidable (left = right)
  | .null, right => match right with
    | .null => isTrue rfl
    | .bool _ | .int _ | .float _ | .str _ | .arr _ | .obj _ => isFalse nofun
  | .bool x, right => match right with
    | .bool y => decidable_of_iff (x = y) (by simp)
    | .null | .int _ | .float _ | .str _ | .arr _ | .obj _ => isFalse nofun
  | .int x, right => match right with
    | .int y => decidable_of_iff (x = y) (by simp)
    | .null | .bool _ | .float _ | .str _ | .arr _ | .obj _ => isFalse nofun
  | .float x, right => match right with
    | .float y => decidable_of_iff (x = y) (by simp)
    | .null | .bool _ | .int _ | .str _ | .arr _ | .obj _ => isFalse nofun
  | .str x, right => match right with
    | .str y => decidable_of_iff (x = y) (by simp)
    | .null | .bool _ | .int _ | .float _ | .arr _ | .obj _ => isFalse nofun
  | .arr x, right => match right with
    | .arr y => @decidable_of_iff _ (x = y) (by simp) (decEqItems x y)
    | .null | .bool _ | .int _ | .float _ | .str _ | .obj _ => isFalse nofun
  | .obj x, right => match right with
    | .obj y => @decidable_of_iff _ (x = y) (by simp) (decEqFields x y)
    | .null | .bool _ | .int _ | .float _ | .str _ | .arr _ => isFalse nofun
termination_by structural left _ => left

def decEqItems : (left right : List Json) → Decidable (left = right)
  | [], right => match right with
    | [] => isTrue rfl
    | _ :: _ => isFalse nofun
  | x :: xs, right => match right with
    | [] => isFalse nofun
    | y :: ys => @decidable_of_iff _ (x = y ∧ xs = ys) (by simp)
        (@instDecidableAnd _ _ (decEq x y) (decEqItems xs ys))
termination_by structural left _ => left

def decEqField : (left right : String × Json) → Decidable (left = right)
  | (key, x), (name, y) => @decidable_of_iff _ (key = name ∧ x = y) (by simp)
        (@instDecidableAnd _ _ inferInstance (decEq x y))
termination_by structural left _ => left

def decEqFields : (left right : List (String × Json)) → Decidable (left = right)
  | [], right => match right with
    | [] => isTrue rfl
    | _ :: _ => isFalse nofun
  | x :: xs, right => match right with
    | [] => isFalse nofun
    | y :: ys => @decidable_of_iff _ (x = y ∧ xs = ys) (by simp)
        (@instDecidableAnd _ _ (decEqField x y) (decEqFields xs ys))
termination_by structural left _ => left

end

instance : DecidableEq Json := decEq

/-- The value of a key of an object; other values have no keys. -/
def get? : Json → String → Option Json
  | .obj fields, key => fields.lookup key
  | _, _ => none

def str? : Json → Option String
  | .str value => some value
  | _ => none

def nat? : Json → Option Nat
  | .int (.ofNat value) => some value
  | _ => none

def arr? : Json → Option (List Json)
  | .arr items => some items
  | _ => none

/-- Truth of an optional value, as in `if value:`. -/
def truthy : Option Json → Bool
  | none | some .null | some (.bool false) | some (.int 0) | some (.str "") => false
  | some (.arr items) => !items.isEmpty
  | some (.obj fields) => !fields.isEmpty
  | some (.float value) => value != 0
  | some (.bool true) | some (.int _) | some (.str _) => true

/-- `{**first, **second}`: the later object wins on every key it has. -/
def merge (first second : List (String × Json)) : List (String × Json) :=
  first.filter (fun item => (second.lookup item.1).isNone) ++ second

/-- The numeric value of a number or a truth value. -/
def number? : Json → Option Rat
  | .bool value => some (if value then 1 else 0)
  | .int value => some value
  | .float value => some value
  | _ => none

mutual

/-- Equality of decoded values, `==`: numbers by value, objects in any order. -/
def pyEq : Json → Json → Bool
  | .null, right => match right with
    | .null => true
    | _ => false
  | .str x, right => match right with
    | .str y => x == y
    | _ => false
  | .arr x, right => match right with
    | .arr y => pyEqItems x y
    | _ => false
  | .obj x, right => match right with
    | .obj y => x.length == y.length && pyEqFields x y
    | _ => false
  | .bool x, right => right.number? == some (if x then 1 else 0)
  | .int x, right => right.number? == some (x : Rat)
  | .float x, right => right.number? == some x
termination_by structural left _ => left

def pyEqItems : List Json → List Json → Bool
  | [], right => match right with
    | [] => true
    | _ :: _ => false
  | x :: xs, right => match right with
    | [] => false
    | y :: ys => pyEq x y && pyEqItems xs ys
termination_by structural left _ => left

def pyEqField : String × Json → List (String × Json) → Bool
  | (key, value), right => match right.lookup key with
    | some other => pyEq value other
    | none => false
termination_by structural left _ => left

def pyEqFields : List (String × Json) → List (String × Json) → Bool
  | [], _ => true
  | field :: rest, right => pyEqField field right && pyEqFields rest right
termination_by structural left _ => left

end

mutual

/-- The objects of a value have distinct keys. -/
def proper : Json → Bool
  | .null | .bool _ | .int _ | .float _ | .str _ => true
  | .arr items => properItems items
  | .obj fields => decide (fields.map Prod.fst).Nodup && properFields fields
termination_by structural value => value

def properItems : List Json → Bool
  | [] => true
  | item :: rest => proper item && properItems rest
termination_by structural items => items

def properField : String × Json → Bool
  | (_, value) => proper value
termination_by structural field => field

def properFields : List (String × Json) → Bool
  | [] => true
  | field :: rest => properField field && properFields rest
termination_by structural fields => fields

end

/-- Distinct keys are looked up by their own values. -/
theorem lookup_of_mem {fields : List (String × Json)} (hnodup : (fields.map Prod.fst).Nodup)
    {key : String} {value : Json} (hmem : (key, value) ∈ fields) :
    fields.lookup key = some value := by
  induction fields with
  | nil => cases hmem
  | cons field rest ih =>
      obtain ⟨name, other⟩ := field
      rw [List.map_cons, List.nodup_cons] at hnodup
      rw [List.lookup_cons]
      rcases List.mem_cons.mp hmem with hsame | hrest
      · cases hsame
        rw [beq_self_eq_true]
      · have hne : key ≠ name := by
          rintro rfl
          exact hnodup.1 (List.mem_map.mpr ⟨_, hrest, rfl⟩)
        rw [beq_false_of_ne hne]
        exact ih hnodup.2 hrest

mutual

/-- A value equals itself. -/
theorem pyEq_refl : ∀ value : Json, value.proper = true → value.pyEq value = true
  | .null, _ => rfl
  | .bool value, _ => by simp [pyEq, number?]
  | .int value, _ => by simp [pyEq, number?]
  | .float value, _ => by simp [pyEq, number?]
  | .str value, _ => by simp [pyEq]
  | .arr items, hproper => by
    simp only [proper] at hproper
    simpa only [pyEq] using pyEqItems_refl items hproper
  | .obj fields, hproper => by
    simp only [proper, Bool.and_eq_true, decide_eq_true_eq] at hproper
    simp only [pyEq, beq_self_eq_true, Bool.true_and]
    exact pyEqFields_refl fields hproper.2 fields fun _ hmem => lookup_of_mem hproper.1 hmem
termination_by structural value => value

theorem pyEqItems_refl : ∀ items : List Json, properItems items = true →
    pyEqItems items items = true
  | [], _ => rfl
  | item :: rest, hproper => by
    simp only [properItems, Bool.and_eq_true] at hproper
    simp only [pyEqItems, Bool.and_eq_true]
    exact ⟨pyEq_refl item hproper.1, pyEqItems_refl rest hproper.2⟩
termination_by structural items => items

theorem pyEqField_refl : ∀ field : String × Json, properField field = true →
    ∀ right : List (String × Json), right.lookup field.1 = some field.2 →
      pyEqField field right = true
  | (key, value), hproper, right, hlookup => by
    simp only [properField] at hproper
    simp only [pyEqField, hlookup]
    exact pyEq_refl value hproper
termination_by structural field => field

theorem pyEqFields_refl : ∀ fields : List (String × Json), properFields fields = true →
    ∀ right : List (String × Json), (∀ field ∈ fields, right.lookup field.1 = some field.2) →
      pyEqFields fields right = true
  | [], _, _, _ => rfl
  | field :: rest, hproper, right, hlookup => by
    simp only [properFields, Bool.and_eq_true] at hproper
    simp only [pyEqFields, Bool.and_eq_true]
    exact ⟨pyEqField_refl field hproper.1 right (hlookup field List.mem_cons_self),
      pyEqFields_refl rest hproper.2 right fun other hmem =>
        hlookup other (List.mem_cons_of_mem _ hmem)⟩
termination_by structural fields => fields

end

/-- Text equals nothing but the same text. -/
theorem pyEq_str {value : Json} {text : String} :
    value.pyEq (.str text) = true ↔ value = .str text := by
  cases value with
  | str other => simp [pyEq]
  | null | bool | int | float | arr | obj => simp [pyEq, number?]

@[simp] theorem get?_obj_nil (name : String) : (obj []).get? name = none := rfl

@[simp] theorem get?_obj_cons (key name : String) (value : Json) (rest : List (String × Json)) :
    (obj ((key, value) :: rest)).get? name =
      if name = key then some value else (obj rest).get? name := by
  simp only [get?, List.lookup_cons]
  split
  · rename_i heq
    rw [if_pos (eq_of_beq heq)]
  · rename_i hne
    rw [if_neg (ne_of_beq_false hne)]

theorem lookup_append (first second : List (String × Json)) (key : String) :
    (first ++ second).lookup key = (first.lookup key).or (second.lookup key) := by
  induction first with
  | nil => simp
  | cons item rest ih =>
      obtain ⟨name, value⟩ := item
      simp only [List.cons_append, List.lookup_cons]
      split
      · rfl
      · exact ih

/-- A key that only the earlier object has keeps its value in the merged object. -/
theorem get?_merge_left {first second : List (String × Json)} {key : String}
    (hsecond : second.lookup key = none) :
    (obj (merge first second)).get? key = first.lookup key := by
  have hfilter : (first.filter fun item => (second.lookup item.1).isNone).lookup key =
      first.lookup key := by
    induction first with
    | nil => rfl
    | cons item rest ih =>
        obtain ⟨name, value⟩ := item
        rw [List.filter_cons, List.lookup_cons]
        by_cases hname : key = name
        · subst hname
          simp [hsecond]
        · rw [beq_false_of_ne hname]
          split
          · rw [List.lookup_cons, beq_false_of_ne hname]
            exact ih
          · exact ih
  rw [get?, merge, lookup_append, hfilter, hsecond, Option.or_none]

/-- A key of the later object has its value in the merged object. -/
theorem get?_merge_right {first second : List (String × Json)} {key : String} {value : Json}
    (hsecond : second.lookup key = some value) :
    (obj (merge first second)).get? key = some value := by
  have habsent : (first.filter fun item => (second.lookup item.1).isNone).lookup key = none := by
    rw [List.lookup_eq_none_iff]
    rintro ⟨name, other⟩ hmem
    have hnone := (List.mem_filter.mp hmem).2
    rw [bne_iff_ne]
    rintro rfl
    simp [hsecond] at hnone
  simp [get?, merge, lookup_append, habsent, hsecond]

end Json

end Foundation
