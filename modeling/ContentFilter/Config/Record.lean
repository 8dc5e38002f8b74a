import ContentFilter.Config
import ContentFilter.Rule.Record

/-!
# Configuration as a record

How settings are written as JSON and read back, and how the text of a configuration is loaded.
Settings that are missing keep their standard value.
-/

namespace ContentFilter

namespace IdRange

/-- The record of a band of ids. -/
def toJson (range : IdRange) : Json :=
  .record [
    ("category", .string range.category.name),
    ("start", .nat range.start),
    ("end", .nat range.stop)]

/-- The fields of the record of a band. -/
def fields : FieldsDecoder IdRange :=
  IdRange.mk <$> .required "category" (.choice Category.ofName?)
    <*> .required "start" .natural32
    <*> .required "end" .natural32

/-- A band is read from its record. -/
def decoder : Decoder IdRange := fields.toDecoder

end IdRange

namespace IdSpace

/-- A table is written as the array of its bands. -/
def toJson (space : IdSpace) : Json := .list (space.ranges.map IdRange.toJson)

/-- A table is read from the array of its bands, which have to make up a table. -/
def decoder : Decoder IdSpace := fun json => do
  let ranges ← Decoder.list IdRange.decoder json
  (ofRanges ranges).mapError .invalidIdRanges

end IdSpace

namespace BackendLimits

/-- The record of the limits. -/
def toJson (limits : BackendLimits) : Json :=
  .record [("max_rules", .nat limits.maxRules), ("max_batch", .nat limits.maxBatch)]

/-- The fields of the record of the limits. -/
def fields : FieldsDecoder BackendLimits :=
  BackendLimits.mk <$> .defaulted "max_rules" .natural64 standard.maxRules
    <*> .defaulted "max_batch" .natural64 standard.maxBatch

/-- The limits are read from their record. -/
def decoder : Decoder BackendLimits := fields.toDecoder

end BackendLimits

namespace ResourceTypes

/-- The types that a setting names: by an option of a filter, or else by a name in the backend. -/
def ofSetting? (name : String) : Option ResourceTypes :=
  ofOption? name <|> (ResourceType.ofName? name).map only

/-- A set of types as the array of their names. -/
def settingJson (types : ResourceTypes) : Json := Json.strings types.names

/-- A set of types is read from an array of names, all of which have to be known. -/
def settingDecoder : Decoder ResourceTypes := fun json => do
  let names ← Decoder.strings json
  let sets ← names.mapM fun name =>
    match ofSetting? name with
    | some types => pure types
    | none => throw (.unknownResourceType name)
  pure (sets.foldl union empty)

end ResourceTypes

namespace CompilerConfig

/-- The record of the settings of compilation. -/
def toJson (config : CompilerConfig) : Json :=
  .record [
    ("max_list_rules", .nat config.maxListRules),
    ("id_ranges", config.idSpace.toJson),
    ("default_resource_types", config.defaultTypes.settingJson)]

/-- The fields of the record of the settings of compilation. -/
def fields : FieldsDecoder CompilerConfig :=
  CompilerConfig.mk <$> .defaulted "max_list_rules" .natural64 standard.maxListRules
    <*> .defaulted "id_ranges" IdSpace.decoder standard.idSpace
    <*> .defaulted "default_resource_types" ResourceTypes.settingDecoder standard.defaultTypes

/-- The settings of compilation are read from their record. -/
def decoder : Decoder CompilerConfig := fields.toDecoder

end CompilerConfig

namespace Config

/-- The record of a configuration. -/
def toJson (config : Config) : Json :=
  .record [("compiler", config.compiler.toJson), ("sync", config.limits.toJson)]

/-- The fields of the record of a configuration. -/
def fields : FieldsDecoder Config :=
  Config.mk <$> .defaulted "compiler" CompilerConfig.decoder .standard
    <*> .defaulted "sync" BackendLimits.decoder .standard

/-- A configuration is read from its record. -/
def decoder : Decoder Config := fields.toDecoder

/-- The configuration in a text, if it is valid. -/
def ofText (text : String) : Except RuleSetError Config := do
  let config ← (decoder.run text).mapError fun cause => .config (.undecodable cause)
  config.validate
  pure config

end Config

end ContentFilter
