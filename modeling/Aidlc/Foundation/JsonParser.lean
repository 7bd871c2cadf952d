import Aidlc.Foundation.Json
import Aidlc.Foundation.JsonText

/-! # Reading JSON texts

`json.loads` on the characters of a text. Values without a place among JSON
values (not-a-number, the infinities, unpaired surrogates) count as unreadable.
What a writer puts between quotes is read back as it was.
-/

namespace Foundation

namespace JsonParser

def isSpace (c : Char) : Bool := c == ' ' || c == '\t' || c == '\n' || c == '\r'

def skipSpace (text : List Char) : List Char := text.dropWhile isSpace

/-- The character of a letter after a backslash. -/
def unescape : Char → Option Char
  | '"' => some '"'
  | '\\' => some '\\'
  | '/' => some '/'
  | 'b' => some '\x08'
  | 'f' => some '\x0c'
  | 'n' => some '\n'
  | 'r' => some '\r'
  | 't' => some '\t'
  | _ => none

def hexDigitValue (c : Char) : Option Nat :=
  if '0' ≤ c ∧ c ≤ '9' then some (c.toNat - '0'.toNat)
  else if 'a' ≤ c ∧ c ≤ 'f' then some (c.toNat - 'a'.toNat + 10)
  else if 'A' ≤ c ∧ c ≤ 'F' then some (c.toNat - 'A'.toNat + 10)
  else none

/-- Four hexadecimal digits. -/
def hexCode (digits : List Char) : Option Nat :=
  digits.foldlM (fun code digit => (hexDigitValue digit).map fun value => code * 16 + value) 0

/-- The code point of two surrogates. -/
def joinSurrogates (high low : Nat) : Nat := 0x10000 + (high - 0xd800) * 1024 + (low - 0xdc00)

/-- The rest of a string up to its closing quote. -/
def readString : List Char → Option (List Char × List Char)
  | [] => none
  | '"' :: rest => some ([], rest)
  | '\\' :: 'u' :: a :: b :: c :: d :: rest =>
    match hexCode [a, b, c, d] with
    | none => none
    | some code =>
      if code < 0xd800 ∨ 0xdfff < code then
        (readString rest).map fun (text, rest) => (Char.ofNat code :: text, rest)
      else if code < 0xdc00 then
        match rest with
        | '\\' :: 'u' :: e :: f :: g :: h :: rest =>
          match hexCode [e, f, g, h] with
          | some low =>
            if 0xdc00 ≤ low ∧ low ≤ 0xdfff then
              (readString rest).map fun (text, rest) =>
                (Char.ofNat (joinSurrogates code low) :: text, rest)
            else none
          | none => none
        | _ => none
      else none
  | '\\' :: letter :: rest =>
    match unescape letter with
    | some c => (readString rest).map fun (text, rest) => (c :: text, rest)
    | none => none
  | c :: rest =>
    if c.toNat < 32 then none
    else (readString rest).map fun (text, rest) => (c :: text, rest)

/-- Decimal digits at the start of a text, and what follows them. -/
def readDigits (text : List Char) : List Char × List Char := text.span Char.isDigit

def decimal (digits : List Char) : Nat :=
  digits.foldl (fun value digit => value * 10 + (digit.toNat - '0'.toNat)) 0

/-- The digits before the point: a leading zero stands alone. -/
def readWhole (text : List Char) : Option (List Char × List Char) :=
  match text with
  | '0' :: rest => some (['0'], rest)
  | text =>
    match readDigits text with
    | ([], _) => none
    | found => some found

/-- The digits after the point, where there are any. -/
def readFraction (text : List Char) : Option (List Char) × List Char :=
  match text with
  | '.' :: rest =>
    match readDigits rest with
    | ([], _) => (none, text)
    | (digits, rest) => (some digits, rest)
  | _ => (none, text)

/-- The sign and the digits of an exponent, where there is one. -/
def readExponent (text : List Char) : Option (Bool × List Char) × List Char :=
  match text with
  | letter :: rest =>
    if letter = 'e' ∨ letter = 'E' then
      let (negative, rest) := match rest with
        | '-' :: rest => (true, rest)
        | '+' :: rest => (false, rest)
        | rest => (false, rest)
      match readDigits rest with
      | ([], _) => (none, text)
      | (digits, rest) => (some (negative, digits), rest)
    else (none, text)
  | [] => (none, text)

/-- The exact value of a number with a fraction or an exponent. -/
def exactFloat (whole fraction : List Char) (exponent : Option (Bool × List Char)) : Rat :=
  let mantissa : Rat := decimal (whole ++ fraction)
  let scaled := mantissa / 10 ^ fraction.length
  match exponent with
  | none => scaled
  | some (false, digits) => scaled * 10 ^ decimal digits
  | some (true, digits) => scaled / 10 ^ decimal digits

variable (roundFloat : Rat → Rat)

def readNumber (text : List Char) : Option (Json × List Char) :=
  let (negative, text) := match text with
    | '-' :: rest => (true, rest)
    | text => (false, text)
  (readWhole text).map fun (whole, rest) =>
    let (fraction, rest) := readFraction rest
    let (exponent, rest) := readExponent rest
    match fraction, exponent with
    | none, none =>
      (.int (if negative then -(decimal whole : Int) else decimal whole), rest)
    | fraction, exponent =>
      let value := roundFloat (exactFloat whole (fraction.getD []) exponent)
      (.float (if negative then -value else value), rest)

/-- `object[key] = value`: a repeated key keeps its place and takes the new value. -/
def setField (fields : List (String × Json)) (field : String × Json) : List (String × Json) :=
  if fields.any fun other => other.1 == field.1 then
    fields.map fun other => if other.1 = field.1 then field else other
  else fields ++ [field]

mutual

/-- A value at the start of a text. -/
def readValue : Nat → List Char → Option (Json × List Char)
  | 0, _ => none
  | fuel + 1, text =>
    match text with
    | '"' :: rest => (readString rest).map fun (chars, rest) => (.str (String.ofList chars), rest)
    | '[' :: rest =>
      match skipSpace rest with
      | ']' :: rest => some (.arr [], rest)
      | rest => (readItems fuel rest).map fun (items, rest) => (.arr items, rest)
    | '{' :: rest =>
      match skipSpace rest with
      | '}' :: rest => some (.obj [], rest)
      | rest => (readFields fuel rest).map fun (fields, rest) =>
          (.obj (fields.foldl setField []), rest)
    | 'n' :: 'u' :: 'l' :: 'l' :: rest => some (.null, rest)
    | 't' :: 'r' :: 'u' :: 'e' :: rest => some (.bool true, rest)
    | 'f' :: 'a' :: 'l' :: 's' :: 'e' :: rest => some (.bool false, rest)
    | text => readNumber roundFloat text

/-- The items of an array, from the first one on. -/
def readItems : Nat → List Char → Option (List Json × List Char)
  | 0, _ => none
  | fuel + 1, text =>
    match readValue fuel text with
    | none => none
    | some (item, rest) =>
      match skipSpace rest with
      | ',' :: rest =>
        (readItems fuel (skipSpace rest)).map fun (items, rest) => (item :: items, rest)
      | ']' :: rest => some ([item], rest)
      | _ => none

/-- The items of an object, from the first one on. -/
def readFields : Nat → List Char → Option (List (String × Json) × List Char)
  | 0, _ => none
  | fuel + 1, text =>
    match text with
    | '"' :: rest =>
      match readString rest with
      | none => none
      | some (key, rest) =>
        match skipSpace rest with
        | ':' :: rest =>
          match readValue fuel (skipSpace rest) with
          | none => none
          | some (value, rest) =>
            match skipSpace rest with
            | ',' :: rest =>
              (readFields fuel (skipSpace rest)).map fun (fields, rest) =>
                ((String.ofList key, value) :: fields, rest)
            | '}' :: rest => some ([(String.ofList key, value)], rest)
            | _ => none
        | _ => none
    | _ => none

end

/-- `json.loads`. Every value takes a character, so the fuel does not run out. -/
def loads (text : String) : Option Json :=
  match readValue roundFloat (2 * text.length + 2) (skipSpace text.toList) with
  | some (value, rest) => if skipSpace rest = [] then some value else none
  | none => none

/-! ## What is written between quotes -/

/-- The reader takes this text for the character, whatever follows. -/
def Reads (c : Char) (code : List Char) : Prop :=
  ∀ tail, readString (code ++ tail) = (readString tail).map fun (text, rest) => (c :: text, rest)

theorem reads_plain {c : Char} (hquote : c ≠ '"') (hbackslash : c ≠ '\\') (hprintable : 32 ≤ c.toNat) :
    Reads c [c] := by
  intro tail
  rw [List.singleton_append, readString]
  · rw [if_neg (by omega)]
  · exact hquote
  · rintro _ _ _ _ _ rfl
    exact absurd rfl hbackslash
  · rintro _ _ rfl
    exact absurd rfl hbackslash

theorem reads_letter {c letter : Char} (hletter : unescape letter = some c) :
    Reads c ['\\', letter] := by
  intro tail
  have hu : letter ≠ 'u' := by
    rintro rfl
    cases hletter
  rw [List.cons_append, List.singleton_append, readString]
  · rw [hletter]
  · rintro _ _ _ _ _ rfl
    exact absurd rfl hu

theorem hexDigitValue_digitChar {value : Nat} (hvalue : value < 16) :
    hexDigitValue value.digitChar = some value := by
  have hall : ∀ digit : Fin 16, hexDigitValue digit.val.digitChar = some digit.val := by decide
  exact hall ⟨value, hvalue⟩

theorem hexCode_hex4 {code : Nat} (hcode : code < 65536) : hexCode (hex4 code) = some code := by
  have hdigit (part : Nat) : hexDigitValue (part % 16).digitChar = some (part % 16) :=
    hexDigitValue_digitChar (Nat.mod_lt _ (by decide))
  simp only [hexCode, hex4, List.map_cons, List.map_nil, List.foldlM_cons, List.foldlM_nil, hdigit,
    Option.map_some, Option.bind_eq_bind, Option.bind_some, Option.pure_def, Option.some.injEq]
  omega

theorem reads_unicode {c : Char} (hbasic : c.toNat < 0x10000) : Reads c (unicodeEscape c.toNat) := by
  intro tail
  have hcode := hexCode_hex4 hbasic
  rw [hex4] at hcode
  simp only [List.map_cons, List.map_nil] at hcode
  simp only [unicodeEscape, hex4, List.map_cons, List.map_nil, List.cons_append, List.nil_append]
  rw [readString, hcode]
  simp only
  rw [if_pos (by have := toNat_not_surrogate c; omega), Char.ofNat_toNat]

/-- A string is read back up to the quote that closes it. -/
theorem readString_flatMap {code : Char → List Char} (hcode : ∀ c, Reads c (code c))
    (text rest : List Char) :
    readString (text.flatMap code ++ '"' :: rest) = some (text, rest) := by
  induction text with
  | nil => rfl
  | cons c text ih => rw [List.flatMap_cons, List.append_assoc, hcode c, ih, Option.map_some]

/-- An object with items is read item by item. -/
theorem readValue_object {fuel : Nat} {text rest : List Char} {fields : List (String × Json)}
    (hspace : skipSpace text = text) (hfirst : text.head? ≠ some '}')
    (hfields : readFields roundFloat fuel text = some (fields, rest)) :
    readValue roundFloat (fuel + 1) ('{' :: text) =
      some (.obj (fields.foldl setField []), rest) := by
  rw [readValue, hspace]
  split
  · exact absurd rfl hfirst
  · rw [hfields, Option.map_some]

/-- An array with items is read item by item. -/
theorem readValue_array {fuel : Nat} {text rest : List Char} {items : List Json}
    (hspace : skipSpace text = text) (hfirst : text.head? ≠ some ']')
    (hitems : readItems roundFloat fuel text = some (items, rest)) :
    readValue roundFloat (fuel + 1) ('[' :: text) = some (.arr items, rest) := by
  rw [readValue, hspace]
  split
  · exact absurd rfl hfirst
  · rw [hitems, Option.map_some]

end JsonParser

end Foundation
