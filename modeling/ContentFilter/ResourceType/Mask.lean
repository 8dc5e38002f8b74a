import ContentFilter.ResourceType
import ContentFilter.Text

/-!
# The text of a mask

A set of resource types as a text: the names of its flags between bars, and bits without a name as one
hexadecimal number.  `SCRIPT | IMAGE | 0x4000` has two flags and one bit that has no name.
-/

namespace ContentFilter

/-- What is wrong with the text of a mask. -/
inductive MaskError where
  /-- A part between two bars is blank. -/
  | emptyFlag
  | unknownFlag
  | invalidNumber
deriving DecidableEq, Repr

/-- The text of a fault. -/
def MaskError.message : MaskError → String
  | .emptyFlag => "encountered empty flag"
  | .unknownFlag => "unrecognized named flag"
  | .invalidNumber => "invalid hex flag"

namespace ResourceTypes

/-- The value of a hexadecimal digit. -/
def hexDigit? (c : Char) : Option Nat :=
  if c.isDigit then some (c.toNat - '0'.toNat)
  else if 'a' ≤ c && c ≤ 'f' then some (c.toNat - 'a'.toNat + 10)
  else if 'A' ≤ c && c ≤ 'F' then some (c.toNat - 'A'.toNat + 10)
  else none

/-- The number of 32 bits that hexadecimal digits spell; a plus sign may stand before them. -/
def hexNumber? (text : List Char) : Option UInt32 := do
  let digits := (Text.stripStart? ['+'] text).getD text
  if digits.isEmpty then none
  else
    let values ← digits.mapM hexDigit?
    let n := values.foldl (fun n digit => n * 16 + digit) 0
    if n < UInt32.size then some (UInt32.ofNat n) else none

/-- The set of a flag's name; two names stand for sets of several types. -/
def ofFlagName? (text : String) : Option ResourceTypes :=
  match ResourceType.all.find? (·.flagName == text) with
  | some t => some (only t)
  | none =>
    if text == "DEFAULT" then some common
    else if text == "ALL" then some all
    else none

/-- The set of a trimmed part of a text: a flag's name, or a number behind `0x`. -/
def ofFlag (flag : List Char) : Except MaskError ResourceTypes :=
  if flag.isEmpty then .error .emptyFlag
  else
    match Text.stripStart? ['0', 'x'] flag with
    | some digits =>
      match hexNumber? digits with
      | some bits => .ok ⟨bits⟩
      | none => .error .invalidNumber
    | none =>
      match ofFlagName? (String.ofList flag) with
      | some types => .ok types
      | none => .error .unknownFlag

/-- The set that a text describes.  A blank text is the empty set. -/
def ofText (text : String) : Except MaskError ResourceTypes :=
  if (Text.trim text.toList).isEmpty then .ok empty
  else do
    let sets ← (Text.splitOn '|' text.toList).mapM fun part => ofFlag (Text.trim part)
    pure (sets.foldl union empty)

/-- The bits that have no name. -/
def unnamed (types : ResourceTypes) : UInt32 := types.bits &&& ~~~all.bits

/-- The names of the flags in the order of their bits, and at the end the bits without a name. -/
def flags (types : ResourceTypes) : List String :=
  let number := "0x" ++ String.ofList (Nat.toDigits 16 types.unnamed.toNat)
  types.toTypes.map (·.flagName) ++ if types.unnamed == 0 then [] else [number]

/-- The text of a set. -/
def text (types : ResourceTypes) : String := " | ".intercalate types.flags

end ResourceTypes

end ContentFilter
