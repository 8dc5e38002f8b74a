import ContentFilter.Json.Value

/-!
# Writing JSON

The compact text of a value, and the text with one item or field a line, indented by two blanks a
level.
-/

namespace ContentFilter.Json

/-- A digit of a hexadecimal number. -/
def hexChar (n : Nat) : Char :=
  if n < 10 then Char.ofNat ('0'.toNat + n) else Char.ofNat ('a'.toNat + (n - 10))

/-- A character inside a string. -/
def escapeChar (c : Char) : List Char :=
  if c = '"' then ['\\', '"']
  else if c = '\\' then ['\\', '\\']
  else if c = '\n' then ['\\', 'n']
  else if c = '\r' then ['\\', 'r']
  else if c = '\t' then ['\\', 't']
  else if c = '\x08' then ['\\', 'b']
  else if c = '\x0c' then ['\\', 'f']
  else if c.toNat < 0x20 then
    ['\\', 'u', '0', '0', hexChar (c.toNat / 16), hexChar (c.toNat % 16)]
  else [c]

/-- The text of a string, with its quotes. -/
def quote (s : String) : String :=
  String.ofList ('"' :: s.toList.flatMap escapeChar ++ ['"'])

mutual

/-- The compact text of a value. -/
def compress : Json → String
  | .null | .unpaired | .broken => "null"
  | .bool true => "true"
  | .bool false => "false"
  | .number literal => literal
  | .string s => quote s
  | .array items _ => "[" ++ compressItems items ++ "]"
  | .object fields _ => "\x7b" ++ compressFields fields ++ "\x7d"

/-- The compact texts of items, between commas. -/
def compressItems : List Json → String
  | [] => ""
  | [item] => item.compress
  | item :: rest => item.compress ++ "," ++ compressItems rest

/-- The compact texts of fields, between commas. -/
def compressFields : List (String × Json) → String
  | [] => ""
  | [(key, value)] => quote key ++ ":" ++ value.compress
  | (key, value) :: rest => quote key ++ ":" ++ value.compress ++ "," ++ compressFields rest

end

/-- A line break and the indentation of a level. -/
def newLine (level : Nat) : String := String.ofList ('\n' :: List.replicate (2 * level) ' ')

mutual

/-- The indented text of a value at a level; empty containers stay on their line. -/
def prettyAt (level : Nat) : Json → String
  | .array (item :: rest) _ =>
    "[" ++ prettyItems (level + 1) (item :: rest) ++ newLine level ++ "]"
  | .object (field :: rest) _ =>
    "\x7b" ++ prettyFields (level + 1) (field :: rest) ++ newLine level ++ "\x7d"
  | json => json.compress

/-- The indented texts of items, each on lines of its own. -/
def prettyItems (level : Nat) : List Json → String
  | [] => ""
  | [item] => newLine level ++ item.prettyAt level
  | item :: rest => newLine level ++ item.prettyAt level ++ "," ++ prettyItems level rest

/-- The indented texts of fields, each on lines of its own. -/
def prettyFields (level : Nat) : List (String × Json) → String
  | [] => ""
  | [(key, value)] => newLine level ++ quote key ++ ": " ++ value.prettyAt level
  | (key, value) :: rest =>
    newLine level ++ quote key ++ ": " ++ value.prettyAt level ++ "," ++ prettyFields level rest

end

/-- The indented text of a value. -/
def pretty (json : Json) : String := json.prettyAt 0

end ContentFilter.Json
