import ContentFilter.CommandLine.Arguments
import ContentFilter.CommandLine.Report
import ContentFilter.CommandLine.Source
import ContentFilter.Config.Record
import ContentFilter.DeclarativeRule.Record
import ContentFilter.Manager.Persistence
import ContentFilter.Manager.Status

/-!
# Commands

What the commands do on a host.  Each stops at its first failure; what was printed before stays.
-/

namespace ContentFilter

/-- Why a command failed. -/
inductive CommandError where
  | unreadable (path : String) (cause : FileError)
  | unwritable (path : String) (cause : FileError)
  | invalidConfig (path : String) (cause : RuleSetError)
  | invalidRuleFile (path : String) (cause : DecodeError)
  | invalidSource (spec : String) (cause : RuleSetError)
  | noSources
  | ruleSet (cause : RuleSetError)
deriving Repr

/-- The text of a failure. -/
def CommandError.message : CommandError → String
  | .unreadable path cause => "Failed to read '" ++ path ++ "': " ++ cause.message
  | .unwritable path cause => "Failed to write '" ++ path ++ "': " ++ cause.message
  | .invalidConfig path cause => "Invalid config '" ++ path ++ "': " ++ cause.message
  | .invalidRuleFile path cause => "Invalid rule file '" ++ path ++ "': " ++ cause.message
  | .invalidSource spec cause => "'" ++ spec ++ "': " ++ cause.message
  | .noSources => "No sources given and none stored"
  | .ruleSet cause => cause.message

/-! ## What commands compute -/

/-- The declarative rules that a compilation writes to a file, as a text. -/
def ruleFileText (rules : List CompiledRule) : String :=
  (Json.list (rules.map (·.toDeclarative.toJson))).pretty

/-- The rules in the text of a rule file. -/
def rulesOfText (space : IdSpace) (text : String) : Except DecodeError (List CompiledRule) := do
  let records ← (Decoder.list DeclarativeRule.decoder).run text
  pure (records.map (·.toCompiled space))

/-- The custom rules of the command line, numbered from one. -/
def RuleArguments.customRules (arguments : RuleArguments) : List CustomRule :=
  let blocks := arguments.blocks.map fun pattern => (pattern, RuleAction.block)
  let allows := arguments.allows.map fun pattern => (pattern, RuleAction.allow)
  (blocks ++ allows).zipIdx.map fun ((pattern, action), index) => ⟨index + 1, pattern, action, 0⟩

/-- The categories of the command line, which are all that can be switched if none is named. -/
def RuleArguments.categories (arguments : RuleArguments) : Except RuleSetError (List Category) :=
  if arguments.enabled.isEmpty then .ok Category.toggleable
  else arguments.enabled.mapM Category.parse

/-- The sources that texts name. -/
def parseSources (specs : List String) : Except CommandError (List ListSource) :=
  specs.mapM fun spec => (ListSource.parse spec).mapError (.invalidSource spec)

/-- The sources to refresh: those that are named, or else those of the lists that are stored. -/
def sourcesToFetch {β : Type} (specs : List String) (manager : Manager β) :
    Except CommandError (List ListSource) := do
  let named ← parseSources specs
  let stored := manager.lists.map fun cached => ⟨cached.list.category, cached.list.sourceUri⟩
  let sources := if named.isEmpty then stored else named
  if sources.isEmpty then throw .noSources else pure sources

/-- The manager after an attempt to fetch a list, and the line about it. -/
def takeFetched {β : Type} (manager : Manager β) (source : ListSource) :
    Except FetchError CachedList → String × Manager β
  | .ok cached => (Report.fetchedLine source.location cached, manager.insertList cached)
  | .error cause =>
    ("  failed   " ++ (RuleSetError.fetchFailed source.location cause.message).message,
      (manager.recordFetchFailure? source.location).getD manager)

/-! ## Commands on a host -/

namespace CommandLine

variable {m : Type → Type} [Monad m] [Host m]

/-- A step of a command, which may fail. -/
abbrev Step (m : Type → Type) := ExceptT CommandError m

/-- The text of a file. -/
def readFile (path : String) : Step m String := do
  match ← (Host.read path : m _) with
  | .ok text => pure text
  | .error cause => throw (.unreadable path cause)

/-- Writes a file of declarative rules; returns its size in bytes. -/
def writeRules (path : String) (rules : List CompiledRule) : Step m Nat := do
  let text := ruleFileText rules
  match ← (Host.write path text : m _) with
  | .ok () => pure text.utf8ByteSize
  | .error cause => throw (.unwritable path cause)

/-- Prints lines. -/
def printLines (lines : List String) : Step m Unit :=
  lines.forM fun line => (Host.print line : m Unit)

/-- The configuration of a file, or the standard one. -/
def loadConfig : Option String → Step m Config
  | none => pure .standard
  | some path => do
    let text ← readFile path
    liftExcept ((Config.ofText text).mapError (.invalidConfig path))
where
  /-- A result as a step. -/
  liftExcept {α : Type} (result : Except CommandError α) : Step m α := ExceptT.mk (pure result)

/-- The list in the file that a source names. -/
def loadList (format : Option ListFormat) (verbose : Bool) (index : Nat) (spec : String) :
    Step m CachedList := do
  let source ← ExceptT.mk (pure ((ListSource.parse spec).mapError (.invalidSource spec)))
  let text ← readFile source.location
  let cached := source.read format text (← (Host.now : m Nat))
  if verbose then
    printLines [Report.listLine index ((Path.fileName? source.location).getD "") cached]
  pure cached

/-- The compilation of the command line's lists and rules, and how many lines the lists have. -/
def compileArguments (config : Config) (arguments : RuleArguments) (verbose : Bool) :
    Step m (Compilation × Nat) := do
  let lists ← arguments.inputs.zipIdx.mapM fun (spec, index) =>
    loadList arguments.format verbose index spec
  let enabledCategories ← ExceptT.mk (pure (arguments.categories.mapError .ruleSet))
  let input : CompileInput :=
    { lists
      customRules := arguments.customRules
      whitelist := arguments.whitelist
      blacklist := arguments.blacklist
      enabledCategories
      ruleBudget := some config.limits.maxRules }
  let compilation ← ExceptT.mk (pure ((compile input config.compiler).mapError .ruleSet))
  pure (compilation, lists.foldl (fun total cached => total + cached.list.rawRuleCount) 0)

/-- Compiles lists into a file of declarative rules. -/
def runCompile (config : Config) (arguments : RuleArguments) (output : String) (verbose : Bool) :
    Step m Unit := do
  let (compilation, lines) ← compileArguments config arguments verbose
  let size ← writeRules output compilation.rules
  printLines (Report.compilationLines arguments.inputs.length output lines size compilation)

/-- Prints the selectors to hide and the scripts to run on a page. -/
def runCosmetics (config : Config) (arguments : RuleArguments) (domain : String) :
    Step m Unit := do
  let (compilation, _) ← compileArguments config arguments false
  printLines (compilation.cosmetics.cosmeticsFor domain)
  printLines ((compilation.cosmetics.scriptletsFor domain).map fun body => "+js(" ++ body ++ ")")

/-- Prints the verdict on a request by a file of declarative rules. -/
def runCheck (config : Config) (path url resourceType : String) (initiator : Option String) :
    Step m Unit := do
  let text ← readFile path
  let space := config.compiler.idSpace
  let rules ← ExceptT.mk (pure ((rulesOfText space text).mapError (.invalidRuleFile path)))
  let verdict := (Matcher.ofRules rules).decide ⟨url, .ofRequest resourceType, initiator⟩
  printLines [Report.verdictLine verdict space]

/-- The store kept in a file, which is a JSON object of texts; it is empty if there is no file. -/
def openStore (path : String) : Step m MemoryStore := do
  match ← (Host.read path : m _) with
  | .error .notFound => pure .empty
  | .error cause => throw (.ruleSet (.store (.inaccessible path cause.message)))
  | .ok text =>
    match (Decoder.fields some Decoder.string).run text with
    | .ok entries => pure (.ofList entries)
    | .error cause => throw (.ruleSet (.store (.undecodable path cause)))

/-- The text of the file that keeps a store. -/
def storeText (store : MemoryStore) : String :=
  (Json.record (store.entries.map fun (key, value) => (key, .string value))).pretty

/-- Keeps a store in a file.  The file is written beside its place and moved there, so that it is whole
at any time. -/
def writeStore (path : String) (store : MemoryStore) : Step m Unit := do
  let aside := Path.withExtension path "tmp"
  match ← (Host.write aside (storeText store) : m _) with
  | .error cause => throw (.ruleSet (.store (.inaccessible aside cause.message)))
  | .ok () =>
    match ← (Host.rename aside path : m _) with
    | .ok () => pure ()
    | .error cause => throw (.ruleSet (.store (.inaccessible path cause.message)))

/-- The list at a location, if it can be fetched. -/
def fetchList (format : Option ListFormat) (source : ListSource) :
    m (Except FetchError CachedList) := do
  match ListSource.splitScheme? source.location with
  | none => pure (.error .relativeAddress)
  | some (scheme, rest) =>
    let address := ListSource.writtenAddress scheme rest
    if !ListSource.isWebScheme scheme then pure (.error (.unsupportedScheme address))
    else
      match ← (Host.get address : m _) with
      | .error cause => pure (.error cause)
      | .ok page =>
        if 200 ≤ page.status && page.status < 300 then
          pure (.ok (source.read format page.body (← Host.now)))
        else pure (.error (.status page.status))

/-- The manager after its sources were fetched, one after another. -/
def fetchAll {β : Type} (format : Option ListFormat) (manager : Manager β) :
    List ListSource → Step m (Manager β)
  | [] => pure manager
  | source :: rest => do
    let (line, manager) := takeFetched manager source (← (fetchList format source : m _))
    printLines [line]
    fetchAll format manager rest

/-- Refreshes the lists of a store, compiles them, and keeps the result. -/
def runFetch (config : Config) (specs : List String) (path : String) (output : Option String)
    (format : Option ListFormat) : Step m Unit := do
  let store ← openStore path
  let stored ← ExceptT.mk (pure
    ((Manager.load config.compiler (MemoryBackend.new config.limits) store).mapError .ruleSet))
  let sources ← ExceptT.mk (pure (sourcesToFetch specs stored))
  let fetched ← fetchAll format stored sources
  let manager ← match fetched.recompile with
    | (.ran (.error failure), _) => throw (.ruleSet failure)
    | (_, manager) => pure manager
  writeStore path (manager.save store)
  let status := manager.status
  printLines ["Store '" ++ path ++ "': " ++ toString status.lists.length ++ " lists, " ++
    toString status.activeRules ++ " active rules"]
  match status.diagnostics with
  | some diagnostics => printLines (Report.diagnosticsLines diagnostics)
  | none => pure ()
  match output with
  | some output =>
    let _ ← writeRules output manager.compiledRules
    printLines ["Wrote rules to '" ++ output ++ "'"]
  | none => pure ()

/-- Does what the program is asked to do. -/
def run (invocation : Invocation) : Step m Unit := do
  let config ← loadConfig invocation.config
  match invocation.command with
  | .compile arguments output => runCompile config arguments output invocation.verbose
  | .cosmetics arguments domain => runCosmetics config arguments domain
  | .check rules url resourceType initiator => runCheck config rules url resourceType initiator
  | .fetch sources store output format => runFetch config sources store output format

/-- How a run of the program ended. -/
inductive Exit where
  | success
  | failed (cause : CommandError)
  | misused (fault : ArgumentFault)
deriving Repr

/-- The code that the program returns. -/
def Exit.code : Exit → Nat
  | .success | .misused .helpRequested => 0
  | .failed _ => 1
  | .misused _ => 2

/-- The program, on its arguments. -/
def runArguments (arguments : List String) : m Exit := do
  match Invocation.parse arguments with
  | .error fault => pure (.misused fault)
  | .ok invocation =>
    match ← (run invocation : Step m Unit).run with
    | .ok () => pure .success
    | .error cause => pure (.failed cause)

end CommandLine

end ContentFilter
