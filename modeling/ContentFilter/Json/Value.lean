import ContentFilter.Json.Number

/-!
# JSON values

A value as its text gives it.  Fields keep their order and may repeat, numbers keep their spelling, and
a text that breaks off or goes wrong still gives the value up to that point: what follows is missing,
and the place is marked.  So a decoder meets faults of form and faults of content in the order of the
text.
-/

namespace ContentFilter

/-- A JSON value, possibly cut short by a fault in its text. -/
inductive Json where
  | null
  | bool (b : Bool)
  /-- A number, in the spelling of the text. -/
  | number (literal : String)
  | string (s : String)
  /-- A string with an escaped surrogate that has no partner, so it stands for no text. -/
  | unpaired
  /-- The items; `closed` tells whether the closing bracket was reached. -/
  | array (items : List Json) (closed : Bool)
  /-- The fields; `closed` tells whether the closing brace was reached. -/
  | object (fields : List (String × Json)) (closed : Bool)
  /-- A place where a value should be and none is. -/
  | broken
deriving Repr

namespace Json

/-- An array. -/
def list (items : List Json) : Json := .array items true

/-- An object. -/
def record (fields : List (String × Json)) : Json := .object fields true

/-- A natural number. -/
def nat (n : Nat) : Json := .number (toString n)

/-- A value, or null. -/
def option {α : Type} (encode : α → Json) : Option α → Json
  | some a => encode a
  | none => .null

/-- An array of strings. -/
def strings (items : List String) : Json := .list (items.map .string)

/-- The value of a field; the last one counts if there are several. -/
def field? (json : Json) (name : String) : Option Json :=
  match json with
  | .object fields _ => (fields.reverse.find? (·.1 == name)).map (·.2)
  | _ => none

mutual

/-- Whether the text of the value was well formed throughout. -/
def isComplete : Json → Bool
  | .array items closed => closed && allComplete items
  | .object fields closed => closed && fieldsComplete fields
  | .broken => false
  | _ => true

/-- Whether the texts of all values were well formed. -/
def allComplete : List Json → Bool
  | [] => true
  | item :: rest => item.isComplete && allComplete rest

/-- Whether the texts of all fields were well formed. -/
def fieldsComplete : List (String × Json) → Bool
  | [] => true
  | (_, value) :: rest => value.isComplete && fieldsComplete rest

end

mutual

/-- Whether a reader that keeps every part of the value accepts it: the text is well formed, every
string stands for text, every number fits a double, and at most `room` containers nest. -/
def isStrict (room : Nat) : Json → Bool
  | .array items closed => closed && 0 < room && allStrict (room - 1) items
  | .object fields closed => closed && 0 < room && fieldsStrict (room - 1) fields
  | .number literal => fitsDouble literal
  | .unpaired | .broken => false
  | _ => true

/-- Whether all values are accepted. -/
def allStrict (room : Nat) : List Json → Bool
  | [] => true
  | item :: rest => item.isStrict room && allStrict room rest

/-- Whether the values of all fields are accepted. -/
def fieldsStrict (room : Nat) : List (String × Json) → Bool
  | [] => true
  | (_, value) :: rest => value.isStrict room && fieldsStrict room rest

end

/-- How many containers may nest in a text that is kept as a whole. -/
def maxDepth : Nat := 127

end Json

end ContentFilter
