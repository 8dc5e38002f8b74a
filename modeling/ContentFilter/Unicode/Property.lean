import ContentFilter.Unicode.Age
import ContentFilter.Unicode.BinaryProperty
import ContentFilter.Unicode.GeneralCategory
import ContentFilter.Unicode.Script
import ContentFilter.Unicode.TextBreak

/-!
# Looking up properties by name

Property names are compared loosely: letter case, spaces, underscores, hyphens and a leading `is` do
not count.  A bare name may be a binary property, a general category or a script, in this order; a
name with a value says which property is meant.
-/

namespace ContentFilter.Unicode

/-- The folded form of a property name. -/
def foldPropertyName (name : List Char) : String :=
  let body := match name with
    | 'i' :: 's' :: rest | 'I' :: 's' :: rest | 'i' :: 'S' :: rest | 'I' :: 'S' :: rest => rest
    | _ => name
  let kept := body.filter fun c => c.toNat < 128 && c != ' ' && c != '_' && c != '-'
  let folded := kept.map Char.toLower
  if body.length < name.length && folded == ['c'] then "isc" else String.ofList folded

/-- The characters that a list of coded tables gives a name. -/
def named? (tables : List (List String × String)) (name : String) : Option RangeTable :=
  (tables.find? (·.1.contains name)).map (RangeTable.ofCode ·.2)

/-- The characters of a script. -/
def script? (name : String) : Option RangeTable :=
  (scripts.find? (·.names.contains name)).map (RangeTable.ofCode ·.ownCode)

/-- The characters used with a script. -/
def scriptExtension? (name : String) : Option RangeTable :=
  (scripts.find? (·.names.contains name)).map (RangeTable.ofCode ·.extendedCode)

/-- The set a bare name stands for. -/
def property? (name : List Char) : Option RangeTable :=
  let folded := foldPropertyName name
  named? binaryProperties folded <|> named? generalCategories folded <|> script? folded

/-- The set a name with a value stands for. -/
def propertyValue? (name value : List Char) : Option RangeTable :=
  let folded := foldPropertyName value
  match foldPropertyName name with
  | "gc" | "generalcategory" => named? generalCategories folded
  | "sc" | "script" => script? folded
  | "scx" | "scriptextensions" => scriptExtension? folded
  | "age" => age? folded
  | "gcb" | "graphemeclusterbreak" => named? graphemeBreaks folded
  | "wb" | "wordbreak" => named? wordBreaks folded
  | "sb" | "sentencebreak" => named? sentenceBreaks folded
  | _ => none

end ContentFilter.Unicode
