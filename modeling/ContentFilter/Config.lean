import ContentFilter.Error
import ContentFilter.ResourceType

/-!
# Configuration

The settings of compilation, and the limits of the backend that rules are installed in.
-/

namespace ContentFilter

/-- How many rules a backend holds, and how many operations it takes in one call. -/
structure BackendLimits where
  maxRules : Nat
  maxBatch : Nat
deriving DecidableEq, Repr

/-- The limits of a browser. -/
def BackendLimits.standard : BackendLimits := ⟨30000, 1000⟩

/-- Limits have to leave room for something. -/
def BackendLimits.validate (limits : BackendLimits) : Except RuleSetError Unit :=
  if limits.maxRules = 0 || limits.maxBatch = 0 then .error (.config .zeroLimit) else .ok ()

/-- The settings of compilation. -/
structure CompilerConfig where
  /-- How many rules may come from lists; a user's own rules do not count. -/
  maxListRules : Nat
  idSpace : IdSpace
  /-- The types of filters that name none. -/
  defaultTypes : ResourceTypes
deriving DecidableEq, Repr

/-- The settings without a configuration.  The ceiling on list rules leaves room for a thousand rules
of the user's own below the standard limit. -/
def CompilerConfig.standard : CompilerConfig := ⟨29000, .builtIn, .common⟩

/-- Every category needs a band of ids, and the default types must not be empty. -/
def CompilerConfig.validate (config : CompilerConfig) : Except RuleSetError Unit :=
  match Category.all.find? fun category => (config.idSpace.range? category).isNone with
  | some category => .error (.invalidIdRanges (.undeclared category))
  | none => if config.defaultTypes.isEmpty then .error (.config .noDefaultTypes) else .ok ()

/-- A configuration as a whole. -/
structure Config where
  compiler : CompilerConfig
  limits : BackendLimits
deriving DecidableEq, Repr

/-- The configuration that is in force without a file. -/
def Config.standard : Config := ⟨.standard, .standard⟩

/-- The ceiling on list rules has to lie below the limit of the backend, or full lists would leave no
room for a user's own rules. -/
def Config.validate (config : Config) : Except RuleSetError Unit := do
  config.compiler.validate
  config.limits.validate
  if config.limits.maxRules ≤ config.compiler.maxListRules then
    throw (.config (.ceilingTooHigh config.compiler.maxListRules config.limits.maxRules))

end ContentFilter
