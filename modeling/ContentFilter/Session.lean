import ContentFilter.Compilation.Record
import ContentFilter.Config.Record
import ContentFilter.DeclarativeRule.Record
import ContentFilter.FilterList.Record
import ContentFilter.Sync

/-!
# Sessions

A session of an extension: it is handed lists and settings, answers with declarative rules, plans their
installation, and keeps the last compilation to answer for pages and requests.
-/

namespace ContentFilter

/-- The lists and settings that a session is handed, with the settings of compilation and the limits of
the browser, which are the standard ones if they are missing. -/
structure CompileRequest where
  lists : List CachedList
  customRules : List CustomRule
  whitelist : List String
  blacklist : List String
  enabledCategories : List Category
  config : Option CompilerConfig
  limits : Option BackendLimits
deriving Repr

namespace CompileRequest

/-- The list of a text.  The time of its last fetch need not be known. -/
def listOfText (list : FilterList) (text : String) (fetchedAt : Option Nat) (stale : Bool) :
    CachedList :=
  let cached := CachedList.ofText list text (fetchedAt.getD 0)
  { cached with stale, list := { cached.list with lastFetchedAt := fetchedAt } }

/-- The fields of the record of a list with its text. -/
def listFields : FieldsDecoder CachedList :=
  listOfText <$> .required "meta" FilterList.decoder
    <*> .required "text" .string
    <*> .omissible "fetchedAt" .natural64
    <*> .defaulted "stale" .bool false

/-- The fields of the record of a request, all of which may be missing. -/
def fields : FieldsDecoder CompileRequest :=
  CompileRequest.mk <$> .defaulted "lists" (.list listFields.toDecoder) []
    <*> .defaulted "customRules" (.list CustomRule.decoder) []
    <*> .defaulted "whitelist" .strings []
    <*> .defaulted "blacklist" .strings []
    <*> .defaulted "enabledCategories" (.list (.choice Category.ofName?)) Category.toggleable
    <*> .omissible "config" CompilerConfig.decoder
    <*> .omissible "sync" BackendLimits.decoder

/-- A request is read from its record. -/
def decoder : Decoder CompileRequest := fields.toDecoder

/-- The configuration that a request asks for. -/
def configuration (request : CompileRequest) : Config :=
  ⟨request.config.getD .standard, request.limits.getD .standard⟩

/-- The input of the compilation that a request asks for. -/
def input (request : CompileRequest) : CompileInput where
  lists := request.lists
  customRules := request.customRules
  whitelist := request.whitelist
  blacklist := request.blacklist
  enabledCategories := request.enabledCategories
  ruleBudget := some request.configuration.limits.maxRules

end CompileRequest

/-- Why a session refuses a call. -/
inductive SessionError where
  | undecodableRequest (cause : DecodeError)
  | undecodableTarget (cause : DecodeError)
  | undecodableInstalled (cause : DecodeError)
  | ruleSet (cause : RuleSetError)
deriving Repr

/-- The text of a refusal. -/
def SessionError.message : SessionError → String
  | .undecodableRequest cause => "Invalid compile request: " ++ cause.message
  | .undecodableTarget cause => "Invalid target rules: " ++ cause.message
  | .undecodableInstalled cause => "Invalid installed rules: " ++ cause.message
  | .ruleSet cause => cause.message

/-- The answer to a compile request. -/
structure CompileResponse where
  rules : List DeclarativeRule
  diagnostics : CompileDiagnostics
deriving Repr

namespace CompileResponse

/-- The record of an answer. -/
def toJson (response : CompileResponse) : Json :=
  .record [
    ("rules", .list (response.rules.map DeclarativeRule.toJson)),
    ("diagnostics", response.diagnostics.toJson)]

/-- The warnings that go with an answer. -/
def warnings (response : CompileResponse) : List String :=
  let exhausted := response.diagnostics.rangeExhausted.map fun exhaustion =>
    "rule id range for '" ++ exhaustion.category.name ++ "' exhausted; dropped " ++
      toString exhaustion.dropped ++ " rules"
  let dropped := response.diagnostics.capacityDropped
  exhausted ++ if dropped = 0 then [] else
    ["list rule ceiling reached; dropped " ++ toString dropped ++ " rules"]

end CompileResponse

/-- One call to the declarative interface: rules to add, and ids of rules to remove before. -/
structure DeclarativeBatch where
  additions : List DeclarativeRule
  removals : List Nat
deriving DecidableEq, Repr

namespace DeclarativeBatch

/-- The call that stands for a call with compiled rules. -/
def ofSyncBatch (batch : SyncBatch) : DeclarativeBatch :=
  ⟨batch.additions.map (·.toDeclarative), batch.removals⟩

/-- The record of a call. -/
def toJson (batch : DeclarativeBatch) : Json :=
  .record [
    ("addRules", .list (batch.additions.map DeclarativeRule.toJson)),
    ("removeRuleIds", .list (batch.removals.map Json.nat))]

end DeclarativeBatch

/-- The calls that turn installed records into target records.  The records are compared as compiled
rules of the given table of ids. -/
def planDeclarative (target installed : List DeclarativeRule) (maxBatch : Nat) (space : IdSpace) :
    List DeclarativeBatch :=
  let plan := SyncPlan.diff (target.map (·.toCompiled space)) (installed.map (·.toCompiled space))
  (plan.batches maxBatch).map .ofSyncBatch

/-- The rule set of the last compilation. -/
structure ActiveRuleSet where
  compilation : Compilation
  matcher : Matcher
  idSpace : IdSpace
deriving Repr

/-- A session, with the rule set of the last compilation that succeeded. -/
structure Session where
  active : Option ActiveRuleSet
deriving Repr

/-- What a session tells about its rule set. -/
structure RuleSetInfo where
  rules : Nat
  cosmetics : Nat
  staleLists : List String
deriving DecidableEq, Repr

namespace Session

/-- The session in which nothing has been compiled. -/
def start : Session := ⟨none⟩

/-- Whether something has been compiled. -/
def isInitialized (session : Session) : Bool := session.active.isSome

/-- The answer to the text of a compile request, and the session behind it. -/
def compile (text : String) : Except SessionError (CompileResponse × Session) := do
  let request ← (CompileRequest.decoder.run text).mapError .undecodableRequest
  let config := request.configuration
  config.validate.mapError .ruleSet
  let compilation ← (ContentFilter.compile request.input config.compiler).mapError .ruleSet
  let active : ActiveRuleSet :=
    { compilation, matcher := .ofRules compilation.rules, idSpace := config.compiler.idSpace }
  pure (⟨compilation.rules.map (·.toDeclarative), compilation.diagnostics⟩, ⟨some active⟩)

/-- The table of ids that records are compared by. -/
def idSpace (session : Session) : IdSpace := (session.active.map (·.idSpace)).getD .builtIn

/-- The calls that turn installed records into target records, both given as texts; the limit on the
operations of a call is the standard one if it is missing. -/
def plan (session : Session) (target installed : String) (maxBatch : Option Nat) :
    Except SessionError (List DeclarativeBatch) := do
  let rules : Decoder (List DeclarativeRule) := .list DeclarativeRule.decoder
  let target ← (rules.run target).mapError .undecodableTarget
  let installed ← (rules.run installed).mapError .undecodableInstalled
  pure (planDeclarative target installed (maxBatch.getD BackendLimits.standard.maxBatch)
    session.idSpace)

/-- What a session tells about its rule set, if there is one. -/
def info? (session : Session) : Option RuleSetInfo :=
  session.active.map fun active =>
    { rules := active.compilation.rules.length
      cosmetics := active.compilation.cosmetics.size
      staleLists := active.compilation.diagnostics.staleLists }

/-- The selectors to hide on a page. -/
def cosmeticsFor (session : Session) (domain : String) : List String :=
  (session.active.map (·.compilation.cosmetics.cosmeticsFor domain)).getD []

/-- The scripts to run on a page. -/
def scriptletsFor (session : Session) (domain : String) : List String :=
  (session.active.map (·.compilation.cosmetics.scriptletsFor domain)).getD []

/-- The verdict on a request.  Without a rule set everything is allowed. -/
def decide (session : Session) (request : Request) : Verdict :=
  (session.active.map (·.matcher.decide request)).getD .unmatched

end Session

end ContentFilter
