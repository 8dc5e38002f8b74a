import ContentFilter.Json.Decoder

/-!
# Errors

What can go wrong in compiling, installing and storing rules.  None of it is fatal: the rule set that
was installed last stays in force.
-/

namespace ContentFilter

/-- Why the backend refused a call. -/
inductive BackendError where
  /-- More operations in one call than are allowed. -/
  | batchTooLarge (size limit : Nat)
  | duplicateId (id : Nat)
  /-- More rules would be installed than are allowed. -/
  | capacity (limit : Nat)
  | unavailable (reason : String)
deriving DecidableEq, Repr

/-- The text of a refusal. -/
def BackendError.message : BackendError → String
  | .batchTooLarge size limit =>
    "batch rejected: batch of " ++ toString size ++ " operations exceeds " ++ toString limit
  | .duplicateId id => "batch rejected: duplicate rule id " ++ toString id
  | .capacity limit => "standing rule limit of " ++ toString limit ++ " exceeded"
  | .unavailable reason => "backend unavailable: " ++ reason

/-- What is wrong with a setting. -/
inductive ConfigError where
  | unknownCategory (text : String)
  | undecodable (cause : DecodeError)
  | noDefaultTypes
  | zeroLimit
  | ceilingTooHigh (ceiling limit : Nat)
  | invalidRule (pattern : String)
deriving Repr

/-- The text of a setting's fault. -/
def ConfigError.message : ConfigError → String
  | .unknownCategory text => "unknown category '" ++ text ++ "'"
  | .undecodable cause => cause.message
  | .noDefaultTypes => "default_resource_types must name at least one type"
  | .zeroLimit => "backend limits must be greater than zero"
  | .ceilingTooHigh ceiling limit =>
    "max_list_rules (" ++ toString ceiling ++ ") must be below the backend limit of " ++
      toString limit
  | .invalidRule pattern => "'" ++ pattern ++ "' is not a valid network rule"

/-- What is wrong with a store. -/
inductive StoreError where
  /-- The value of a key, or the whole store at a path, cannot be decoded. -/
  | undecodable (place : String) (cause : DecodeError)
  | inaccessible (place reason : String)
deriving Repr

/-- The text of a store's fault. -/
def StoreError.message : StoreError → String
  | .undecodable place cause => place ++ ": " ++ cause.message
  | .inaccessible place reason => place ++ ": " ++ reason

/-- A failure to bring a rule set into force or to keep it. -/
inductive RuleSetError where
  | rangeExhausted (category : Category) (width : Nat)
  | fetchFailed (list reason : String)
  /-- The backend refused a call after it had taken others. -/
  | syncFailed (cause : BackendError) (removals additions : Nat)
  | backendCapacity (wanted limit : Nat)
  | invalidIdRanges (cause : IdRangeError)
  | config (cause : ConfigError)
  | store (cause : StoreError)
deriving Repr

/-- The text of a failure. -/
def RuleSetError.message : RuleSetError → String
  | .rangeExhausted category width =>
    "rule id range for '" ++ category.name ++ "' exhausted after " ++ toString width ++ " rules"
  | .fetchFailed list reason => "failed to fetch filter list '" ++ list ++ "': " ++ reason
  | .syncFailed cause removals additions =>
    "backend sync failed after " ++ toString removals ++ " removals and " ++ toString additions ++
      " additions: " ++ cause.message
  | .backendCapacity wanted limit =>
    "rule set of " ++ toString wanted ++ " rules exceeds the backend limit of " ++ toString limit
  | .invalidIdRanges cause => "invalid rule id ranges: " ++ cause.message
  | .config cause => "invalid configuration: " ++ cause.message
  | .store cause => "store error: " ++ cause.message

/-- The failure to hand out an id, as a failure of the rule set. -/
def RuleSetError.ofIdError : IdError → RuleSetError
  | .undeclared category => .invalidIdRanges (.undeclared category)
  | .exhausted category width => .rangeExhausted category width

/-- The category of a name typed by a user, or the error that says there is none. -/
def Category.parse (text : String) : Except RuleSetError Category :=
  match Category.ofText? text with
  | some category => .ok category
  | none => .error (.config (.unknownCategory text))

end ContentFilter
