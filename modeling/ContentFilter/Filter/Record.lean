import ContentFilter.Filter
import ContentFilter.Rule.Record

/-!
# Filters as records

How filters are written as JSON and read back.  The record of a filter of any kind has the kind among
its fields; its other fields are looked at when the whole record is known.
-/

namespace ContentFilter

/-- Whether a restriction admits third parties only. -/
def Party.isThird : Party → Bool
  | .first => false
  | .third => true

/-- The restriction that admits third parties only, or the first party only. -/
def Party.ofIsThird : Bool → Party
  | false => .first
  | true => .third

namespace NetworkFilter

/-- The fields of the record of a network filter, with their values. -/
def toFields (filter : NetworkFilter) : List (String × Json) := [
  ("pattern", .string filter.pattern),
  ("isException", .bool filter.isException),
  ("domainIncludes", Json.strings filter.scope.includes),
  ("domainExcludes", Json.strings filter.scope.excludes),
  ("resourceTypes", .option ResourceTypes.toJson filter.resourceTypes),
  ("thirdPartyOnly", .option (.bool ·.isThird) filter.party),
  ("important", .bool filter.important),
  ("matchCase", .bool filter.matchCase),
  ("badfilter", .bool filter.badfilter),
  ("originalText", .string filter.sourceLine)]

/-- The record of a network filter. -/
def toJson (filter : NetworkFilter) : Json := .record filter.toFields

/-- The fields of the record of a network filter. -/
def fields : FieldsDecoder NetworkFilter :=
  make <$> .required "pattern" .string
    <*> .required "isException" .bool
    <*> .required "domainIncludes" .strings
    <*> .required "domainExcludes" .strings
    <*> .optional "resourceTypes" ResourceTypes.decoder
    <*> .optional "thirdPartyOnly" .bool
    <*> .defaulted "important" .bool false
    <*> .defaulted "matchCase" .bool false
    <*> .defaulted "badfilter" .bool false
    <*> .required "originalText" .string
where
  make (pattern : String) (isException : Bool) (includes excludes : List String)
      (resourceTypes : Option ResourceTypes) (isThird : Option Bool)
      (important matchCase badfilter : Bool) (sourceLine : String) : NetworkFilter :=
    { pattern, isException, scope := ⟨includes, excludes⟩, resourceTypes
      party := isThird.map Party.ofIsThird, important, matchCase, badfilter, sourceLine }

/-- A network filter is read from its record. -/
def decoder : Decoder NetworkFilter := fields.toDecoder

end NetworkFilter

namespace ElementHideFilter

/-- The fields of the record of a selector to hide, with their values. -/
def toFields (filter : ElementHideFilter) : List (String × Json) := [
  ("selector", .string filter.selector),
  ("domainIncludes", Json.strings filter.scope.includes),
  ("domainExcludes", Json.strings filter.scope.excludes),
  ("isException", .bool filter.isException)]

/-- The record of a selector to hide. -/
def toJson (filter : ElementHideFilter) : Json := .record filter.toFields

/-- The fields of the record of a selector to hide. -/
def fields : FieldsDecoder ElementHideFilter :=
  (fun selector includes excludes isException => ⟨selector, ⟨includes, excludes⟩, isException⟩)
    <$> .required "selector" .string
    <*> .required "domainIncludes" .strings
    <*> .required "domainExcludes" .strings
    <*> .required "isException" .bool

/-- A selector to hide is read from its record. -/
def decoder : Decoder ElementHideFilter := fields.toDecoder

end ElementHideFilter

namespace ScriptletFilter

/-- The fields of the record of a script, with their values. -/
def toFields (filter : ScriptletFilter) : List (String × Json) := [
  ("scriptBody", .string filter.body),
  ("domainIncludes", Json.strings filter.scope.includes),
  ("domainExcludes", Json.strings filter.scope.excludes),
  ("isException", .bool filter.isException)]

/-- The record of a script. -/
def toJson (filter : ScriptletFilter) : Json := .record filter.toFields

/-- The fields of the record of a script. -/
def fields : FieldsDecoder ScriptletFilter :=
  (fun body includes excludes isException => ⟨body, ⟨includes, excludes⟩, isException⟩)
    <$> .required "scriptBody" .string
    <*> .required "domainIncludes" .strings
    <*> .defaulted "domainExcludes" .strings []
    <*> .defaulted "isException" .bool false

/-- A script is read from its record. -/
def decoder : Decoder ScriptletFilter := fields.toDecoder

end ScriptletFilter

/-- The kinds of filters. -/
inductive FilterKind where
  | network
  | elementHide
  | scriptlet
deriving DecidableEq, Repr

namespace FilterKind

/-- The name of a kind. -/
def name : FilterKind → String
  | .network => "network"
  | .elementHide => "elementHide"
  | .scriptlet => "scriptlet"

/-- The kind of exactly this name. -/
def ofName? : String → Option FilterKind
  | "network" => some .network
  | "elementHide" => some .elementHide
  | "scriptlet" => some .scriptlet
  | _ => none

/-- A kind is read from its name. -/
def decoder : Decoder FilterKind := fun json => do
  let name ← Decoder.string json
  match ofName? name with
  | some kind => pure kind
  | none => throw .malformed

/-- How a filter of a kind is read from the fields that are its own. -/
def bodyDecoder : FilterKind → Decoder Filter
  | .network => fun json => (NetworkFilter.decoder json).map .network
  | .elementHide => fun json => (ElementHideFilter.decoder json).map .elementHide
  | .scriptlet => fun json => (ScriptletFilter.decoder json).map .scriptlet

end FilterKind

namespace Filter

/-- The name of the field that holds the kind. -/
def kindField : String := "kind"

/-- The record of a filter. -/
def toJson : Filter → Json
  | .network filter => record .network filter.toFields
  | .elementHide filter => record .elementHide filter.toFields
  | .scriptlet filter => record .scriptlet filter.toFields
where
  record (kind : FilterKind) (fields : List (String × Json)) : Json :=
    .record ((kindField, .string kind.name) :: fields)

/-- How many containers may nest in a field of a filter's record. -/
def maxFieldDepth : Nat := Json.maxDepth - 1

/-- The kind that the fields of a record name, and the fields that are left; they are kept, so they
have to be free of faults. -/
def splitKind (kind : Option FilterKind) (others : List (String × Json)) :
    List (String × Json) → Except DecodeError (Option FilterKind × List (String × Json))
  | [] => .ok (kind, others.reverse)
  | (name, value) :: rest => do
    if name == kindField then
      if kind.isSome then throw .malformed
      else splitKind (some (← FilterKind.decoder value)) others rest
    else if value.isStrict maxFieldDepth then splitKind kind ((name, value) :: others) rest
    else throw .malformed

/-- A filter is read from its record, which may be an array that begins with the kind. -/
def decoder : Decoder Filter
  | .object fields closed => do
    let (kind, others) ← splitKind none [] fields
    match kind, closed with
    | some kind, true => body kind (.record others)
    | _, _ => throw .malformed
  | .array (tag :: items) true => do
    let kind ← FilterKind.decoder tag
    if items.all (·.isStrict maxFieldDepth) then body kind (.list items) else throw .malformed
  | _ => .error .malformed
where
  body (kind : FilterKind) (json : Json) : Except DecodeError Filter :=
    (kind.bodyDecoder json).mapError .unlocated

end Filter

end ContentFilter
