import ContentFilter.IdSpace
import ContentFilter.Json.Reader

/-!
# Decoding JSON

How values are turned into the types of this library.  A record is decoded from an object, whose
unknown fields do not count, or from an array of its fields in the order of declaration.  Of several
faults the first one in the order of the text is reported, and fields that are missing come last.
-/

namespace ContentFilter

/-- Why a value could not be decoded. -/
inductive DecodeError where
  /-- The text is no JSON, or its value has not the form that is asked for. -/
  | malformed
  | wrongType (found expected : String)
  | missingField (name : String)
  | duplicateField (name : String)
  | invalidFlags (reason : String)
  | unknownResourceType (name : String)
  | invalidIdRanges (cause : IdRangeError)
  /-- A fault that was found only after the value had been read as a whole, so that no place of the
  text goes with it. -/
  | unlocated (cause : DecodeError)
deriving Repr

namespace DecodeError

/-- The text of a fault, without its place. -/
def detail : DecodeError → String
  | .malformed => "malformed"
  | .wrongType found expected => "invalid type: " ++ found ++ ", expected " ++ expected
  | .missingField name => "missing field `" ++ name ++ "`"
  | .duplicateField name => "duplicate field `" ++ name ++ "`"
  | .invalidFlags reason => reason
  | .unknownResourceType name => "unknown resource type '" ++ name ++ "'"
  | .invalidIdRanges cause => "invalid rule id ranges: " ++ cause.message
  | .unlocated cause => cause.detail

/-- The text of an error.  Faults of form that have a place in the text are all worded alike. -/
def message : DecodeError → String
  | .unlocated cause => cause.detail
  | .unknownResourceType name => (unknownResourceType name).detail
  | .invalidIdRanges cause => (invalidIdRanges cause).detail
  | _ => "malformed"

/-- The error as seen from a value around the one it occurred in, which gives it a place. -/
def located : DecodeError → DecodeError
  | .unlocated _ => .malformed
  | error => error

end DecodeError

/-- A way to turn values into members of a type. -/
abbrev Decoder (α : Type) := Json → Except DecodeError α

namespace Decoder

/-- A string as it is shown in an error. -/
def shownString (s : String) : String :=
  String.ofList ('"' :: s.toList.flatMap shown ++ ['"'])
where
  shown (c : Char) : List Char :=
    if c = '"' then ['\\', '"']
    else if c = '\\' then ['\\', '\\']
    else if c = '\n' then ['\\', 'n']
    else if c = '\r' then ['\\', 'r']
    else if c = '\t' then ['\\', 't']
    else if c = '\x00' then ['\\', '0']
    else if c.toNat < 0x20 || c.toNat = 0x7f then
      ['\\', 'u', '{'] ++ Nat.toDigits 16 c.toNat ++ ['}']
    else [c]

/-- Whether a number is an integer of 64 bits, with or without a sign; minus zero is not. -/
def isInteger (literal : String) : Bool :=
  match literal.toList with
  | '-' :: digits =>
    digits.all Char.isDigit && 0 < Json.digitsValue digits &&
      Json.digitsValue digits ≤ UInt64.size / 2
  | _ => (Json.natural? literal).any (· < UInt64.size)

/-- A value as it is named in an error. -/
def describe : Json → String
  | .null => "null"
  | .bool b => "boolean `" ++ (if b then "true" else "false") ++ "`"
  | .number literal =>
    if isInteger literal then "integer `" ++ literal ++ "`"
    else "floating point `" ++ Json.doubleText literal ++ "`"
  | .string s => "string " ++ shownString s
  | .array _ _ => "sequence"
  | .object _ _ => "map"
  | .unpaired | .broken => "malformed"

/-- The error of a value that is not of the expected kind. -/
def mismatch (expected : String) : Json → DecodeError
  | .unpaired | .broken => .malformed
  | json => .wrongType (describe json) expected

/-- A string. -/
def string : Decoder String
  | .string s => .ok s
  | json => .error (mismatch "a string" json)

/-- A truth value. -/
def bool : Decoder Bool
  | .bool b => .ok b
  | json => .error (mismatch "a boolean" json)

/-- A natural number up to `largest`. -/
def natural (largest : Nat) : Decoder Nat
  | .number literal =>
    match Json.natural? literal with
    | some n => if n ≤ largest then .ok n else .error .malformed
    | none => .error .malformed
  | _ => .error .malformed

/-- A natural number of 32 bits. -/
def natural32 : Decoder Nat := natural (UInt32.size - 1)

/-- A natural number of 64 bits. -/
def natural64 : Decoder Nat := natural (UInt64.size - 1)

/-- A value, or null. -/
def option {α : Type} (decode : Decoder α) : Decoder (Option α)
  | .null => .ok none
  | json => (decode json).map some

/-- The result of a value inside another one. -/
def inner {α : Type} (result : Except DecodeError α) : Except DecodeError α :=
  result.mapError DecodeError.located

/-- An array of values. -/
def list {α : Type} (decode : Decoder α) : Decoder (List α)
  | .array items closed => do
    let values ← items.mapM fun item => inner (decode item)
    if closed then pure values else throw .malformed
  | json => .error (mismatch "a sequence" json)

/-- An object of values of one type, in the order of its fields. -/
def fields {α κ : Type} (key? : String → Option κ) (decode : Decoder α) : Decoder (List (κ × α))
  | .object fields closed => do
    let entries ← fields.mapM fun (name, value) =>
      match key? name with
      | some key => (inner (decode value)).map (key, ·)
      | none => throw .malformed
    if closed then pure entries else throw .malformed
  | json => .error (mismatch "a map" json)

/-- One of several names, written as a string, or as an object with null under the name. -/
def choice {α : Type} (ofName? : String → Option α) : Decoder α
  | .string name => pick name
  | .object [(name, .null)] true => pick name
  | _ => .error .malformed
where
  pick (name : String) : Except DecodeError α :=
    match ofName? name with
    | some a => .ok a
    | none => .error .malformed

end Decoder

/-! ## Records -/

/-- The fields of a record as they stand in the text.  Fields of an array have their names by their
position. -/
structure FieldSource where
  fields : List (String × Json)
  positional : Bool

/-- A fault and its rank in the order of the text. -/
structure FieldFault where
  rank : Nat
  error : DecodeError

/-- A way to make a value from the fields of a record, and the names of those fields in the order of
declaration. -/
structure FieldsDecoder (α : Type) where
  names : List String
  decode : FieldSource → Except (List FieldFault) α

namespace FieldsDecoder

variable {α β : Type}

/-- No field. -/
def pure (a : α) : FieldsDecoder α := ⟨[], fun _ => .ok a⟩

/-- The fields of both decoders; the faults of both are kept. -/
def apply (f : FieldsDecoder (α → β)) (a : FieldsDecoder α) : FieldsDecoder β where
  names := f.names ++ a.names
  decode source :=
    match f.decode source, a.decode source with
    | .ok f, .ok a => .ok (f a)
    | .error faults, .ok _ => .error faults
    | .ok _, .error faults => .error faults
    | .error faults, .error faults' => .error (faults ++ faults')

instance : Applicative FieldsDecoder where
  pure := pure
  seq f a := apply f (a ())

/-- The occurrences of a field with their ranks. -/
def occurrences (name : String) (source : FieldSource) : List (Nat × Json) :=
  (source.fields.zipIdx.filter (·.1.1 == name)).map fun ((_, value), rank) => (rank, value)

/-- The single fault of a field. -/
def fault (rank : Nat) (error : DecodeError) : Except (List FieldFault) α := .error [⟨rank, error⟩]

/-- A field, with what to make of its absence. -/
def field (name : String) (decode : Decoder α)
    (absent : FieldSource → Except (List FieldFault) α) : FieldsDecoder α where
  names := [name]
  decode source :=
    match occurrences name source with
    | [] => absent source
    | (rank, value) :: more =>
      match Decoder.inner (decode value), more with
      | .error error, _ => fault rank error
      | .ok a, [] => .ok a
      | .ok _, (rank, _) :: _ => fault rank (.duplicateField name)

/-- The fault of a field that is missing. -/
def missing (name : String) (source : FieldSource) : Except (List FieldFault) α :=
  fault (source.fields.length + 1)
    (if source.positional then .malformed else .missingField name)

/-- A field that has to be there. -/
def required (name : String) (decode : Decoder α) : FieldsDecoder α :=
  field name decode (missing name)

/-- A field that may be null, or missing from an object. -/
def optional (name : String) (decode : Decoder α) : FieldsDecoder (Option α) :=
  field name (Decoder.option decode) fun source =>
    if source.positional then missing name source else .ok none

/-- A field with a value that is taken if it is missing. -/
def defaulted (name : String) (decode : Decoder α) (value : α) : FieldsDecoder α :=
  field name decode fun _ => .ok value

/-- A field that may be null or missing. -/
def omissible (name : String) (decode : Decoder α) : FieldsDecoder (Option α) :=
  defaulted name (Decoder.option decode) none

/-- The fault of the lowest rank; of several of one rank the first in the list. -/
def firstFault (faults : List FieldFault) : DecodeError :=
  match faults.mergeSort fun a b => a.rank ≤ b.rank with
  | first :: _ => first.error
  | [] => .malformed

/-- The faults of a record that its known fields do not show: unknown fields that are cut short, and a
missing end. -/
def outerFaults (names : List String) (fields : List (String × Json)) (closed : Bool) :
    List FieldFault :=
  let unknown := fields.zipIdx.filter fun ((name, value), _) =>
    !names.contains name && !value.isComplete
  unknown.map (fun (_, rank) => ⟨rank, .malformed⟩) ++
    (if closed then [] else [⟨fields.length, .malformed⟩])

/-- The decoder of a record with these fields. -/
def toDecoder (decoder : FieldsDecoder α) : Decoder α
  | .object fields closed =>
    let outer := outerFaults decoder.names fields closed
    match decoder.decode ⟨fields, false⟩, outer with
    | .ok a, [] => .ok a
    | .ok _, faults => .error (firstFault faults)
    | .error faults, outer => .error (firstFault (faults ++ outer))
  | .array items closed =>
    let fields := decoder.names.zip items
    let surplus : List FieldFault :=
      if decoder.names.length < items.length || !closed then [⟨items.length, .malformed⟩] else []
    match decoder.decode ⟨fields, true⟩, surplus with
    | .ok a, [] => .ok a
    | .ok _, faults => .error (firstFault faults)
    | .error faults, surplus => .error (firstFault (faults ++ surplus))
  | _ => .error .malformed

end FieldsDecoder

/-- The decoding of a text. -/
def Decoder.run {α : Type} (decode : Decoder α) (text : String) : Except DecodeError α := do
  let document := Json.read text
  let value ← decode document.value
  if document.ended then pure value else throw .malformed

end ContentFilter
