import ContentFilter.Compilation
import ContentFilter.Gate
import ContentFilter.Sync

/-!
# The rule set manager

Keeps the subscribed lists with their filters, the user's own rules and settings, and the last
compilation that reached the backend.  A recompilation starts from scratch; when it fails, the last
good one stays in force and only the error is noted.
-/

namespace ContentFilter

/-- The manager of a rule set over a backend. -/
structure Manager (β : Type) where
  config : CompilerConfig
  lists : List CachedList
  customRules : List CustomRule
  whitelist : List String
  blacklist : List String
  /-- In the order of all categories. -/
  enabledCategories : List Category
  /-- The last compilation that reached the backend. -/
  lastGood : Option Compilation
  /-- Why the last recompilation failed, if it did. -/
  lastError : Option RuleSetError
  /-- The ids of the last compilation that reached the backend, by category. -/
  previousRuleIds : List (Category × List Nat)
  /-- How many ids came or went in the last recompilation that succeeded, by category. -/
  ruleIdChurn : List (Category × Nat)
  backend : β
  gate : Gate

/-- The categories of a list in the order of all categories, each of them once. -/
def Category.ordered (categories : List Category) : List Category :=
  all.filter categories.contains

/-- The normal forms of domains, each of them once; invalid ones are left out. -/
def normalizedDomains (domains : List String) : List String :=
  (domains.filterMap Domain.normalize?).foldl Domain.insertNew []

/-- How many ids are in only one of two lists. -/
def symmetricDifference (a b : List Nat) : Nat :=
  (a.eraseDups.filter (!b.contains ·)).length + (b.eraseDups.filter (!a.contains ·)).length

/-- How many ids came or went, by category; categories without a change are left out. -/
def ruleIdChurn (previous current : List (Category × List Nat)) : List (Category × Nat) :=
  Category.all.filterMap fun category =>
    let changed := symmetricDifference ((previous.lookup category).getD [])
      ((current.lookup category).getD [])
    if changed = 0 then none else some (category, changed)

namespace Manager

variable {β : Type}

/-- The manager of a backend before anything is subscribed or set. -/
def new (config : CompilerConfig) (backend : β) : Manager β where
  config := config
  lists := []
  customRules := []
  whitelist := []
  blacklist := []
  enabledCategories := Category.toggleable
  lastGood := none
  lastError := none
  previousRuleIds := []
  ruleIdChurn := []
  backend := backend
  gate := .idle

/-! ## Lists -/

/-- The place of the list with an id, or else of the one with a source. -/
def findList? (lists : List CachedList) (id sourceUri : String) : Option Nat :=
  lists.findIdx? (·.list.id == id) <|> lists.findIdx? (·.list.sourceUri == sourceUri)

/-- The refreshed list as it is stored: it keeps the id, the name and the switch of the stored one. -/
def refreshed (stored fresh : CachedList) : CachedList :=
  { fresh with
    list := { fresh.list with
      id := stored.list.id
      displayName := stored.list.displayName
      enabled := stored.list.enabled } }

/-- The manager with a list that was read elsewhere.  A list that is stored under the id or the source
is refreshed in its place; otherwise the list is put at the end. -/
def insertList (manager : Manager β) (fresh : CachedList) : Manager β :=
  match findList? manager.lists fresh.list.id fresh.list.sourceUri with
  | some index => { manager with lists := manager.lists.modify index (refreshed · fresh) }
  | none => { manager with lists := manager.lists ++ [fresh] }

/-- The manager with a list whose text was fetched at the given time. -/
def upsertList (manager : Manager β) (list : FilterList) (text : String) (now : Nat) : Manager β :=
  manager.insertList (.ofText list text now)

/-- The manager after a list could not be fetched, if there is a list with this id or source: it keeps
its filters, which are marked as stale. -/
def recordFetchFailure? (manager : Manager β) (name : String) : Option (Manager β) :=
  (findList? manager.lists name name).map fun index =>
    { manager with lists := manager.lists.modify index ({ · with stale := true }) }

/-- The manager without the lists of an id, if there are any. -/
def removeList? (manager : Manager β) (id : String) : Option (Manager β) :=
  let lists := manager.lists.filter (·.list.id != id)
  if lists.length = manager.lists.length then none else some { manager with lists }

/-- The manager with a list switched on or off, if there is a list of this id. -/
def setListEnabled? (manager : Manager β) (id : String) (enabled : Bool) : Option (Manager β) :=
  (manager.lists.findIdx? (·.list.id == id)).map fun index =>
    { manager with
      lists := manager.lists.modify index fun cached =>
        { cached with list := { cached.list with enabled } } }

/-! ## The user's rules and settings -/

/-- The first id from `id` on that is not used, among as many as `steps` ids and the one behind. -/
def freeId (used : List Nat) : Nat → Nat → Nat
  | 0, id => id
  | steps + 1, id => if used.contains id then freeId used steps (id + 1) else id

/-- The smallest id from the given time on that no custom rule has. -/
def nextCustomRuleId (manager : Manager β) (now : Nat) : Nat :=
  freeId (manager.customRules.map (·.id)) manager.customRules.length now

/-- The manager with a new custom rule at the end, and that rule, unless its text stands for no
filter. -/
def addCustomRule (manager : Manager β) (pattern : String) (action : RuleAction) (now : Nat) :
    Except RuleSetError (CustomRule × Manager β) :=
  let rule : CustomRule :=
    { id := manager.nextCustomRuleId now
      pattern := String.ofList (Text.trim pattern.toList)
      action
      createdAt := now }
  match rule.toFilter? with
  | some _ => .ok (rule, { manager with customRules := manager.customRules ++ [rule] })
  | none => .error (.config (.invalidRule pattern))

/-- The manager without the custom rules of an id, if there are any. -/
def removeCustomRule? (manager : Manager β) (id : Nat) : Option (Manager β) :=
  let customRules := manager.customRules.filter (·.id != id)
  if customRules.length = manager.customRules.length then none
  else some { manager with customRules }

/-- The manager with other domain lists of the user; invalid entries are left out. -/
def setUserDomains (manager : Manager β) (whitelist blacklist : List String) : Manager β :=
  { manager with
    whitelist := normalizedDomains whitelist
    blacklist := normalizedDomains blacklist }

/-- The manager with other categories switched on; only those of lists count. -/
def setEnabledCategories (manager : Manager β) (categories : List Category) : Manager β :=
  { manager with enabledCategories := (Category.ordered categories).filter (·.isListCategory) }

/-! ## Recompilation -/

/-- The rules of the last compilation that reached the backend. -/
def compiledRules (manager : Manager β) : List CompiledRule :=
  (manager.lastGood.map (·.rules)).getD []

/-- The selectors to hide on a page, by the last compilation that reached the backend. -/
def cosmeticsFor (manager : Manager β) (domain : String) : List String :=
  (manager.lastGood.map (·.cosmetics.cosmeticsFor domain)).getD []

/-- The scripts to run on a page, by the last compilation that reached the backend. -/
def scriptletsFor (manager : Manager β) (domain : String) : List String :=
  (manager.lastGood.map (·.cosmetics.scriptletsFor domain)).getD []

/-- What a recompilation has come to. -/
structure Attempt (β : Type) where
  /-- The backend after the calls. -/
  backend : β
  result : Except RuleSetError (Compilation × SyncReport)
  /-- Whether the backend was called. -/
  called : Bool

/-- The result of a call of `recompile`. -/
inductive Recompiled where
  /-- The result of the last run. -/
  | ran (result : Except RuleSetError SyncReport)
  /-- A run is under way, which will be repeated. -/
  | coalesced

/-- The manager after an attempt, whatever happened to it meanwhile. -/
def conclude (manager : Manager β) (attempt : Attempt β) : Manager β :=
  match attempt.result with
  | .ok (compilation, _) =>
    { manager with
      backend := attempt.backend
      lastGood := some compilation
      lastError := none
      previousRuleIds := compilation.ruleIds
      ruleIdChurn := ContentFilter.ruleIdChurn manager.previousRuleIds compilation.ruleIds }
  | .error failure => { manager with backend := attempt.backend, lastError := some failure }

/-- What a call of `recompile` reports about an attempt. -/
def Attempt.report (attempt : Attempt β) : Except RuleSetError SyncReport :=
  attempt.result.map (·.2)

variable [RuleBackend β]

/-- The input of a recompilation. -/
def compileInput (manager : Manager β) : CompileInput where
  lists := manager.lists
  customRules := manager.customRules
  whitelist := manager.whitelist
  blacklist := manager.blacklist
  enabledCategories := manager.enabledCategories
  ruleBudget := some (RuleBackend.limits manager.backend).maxRules

/-- One recompilation: the rules are compiled and the backend is brought to them. -/
def attempt (manager : Manager β) : Attempt β :=
  match compile manager.compileInput manager.config with
  | .error failure => ⟨manager.backend, .error failure, false⟩
  | .ok compilation =>
    match Sync.plan manager.backend compilation.rules with
    | .error failure => ⟨manager.backend, .error failure, false⟩
    | .ok plan =>
      let (backend, answer) := Sync.execute manager.backend plan
      ⟨backend, answer.map (compilation, ·), !(Sync.calls manager.backend plan).isEmpty⟩

/-- The end of a run whose result is given.  It is repeated if it was triggered meanwhile; nothing
triggers the repetition. -/
def finish (manager : Manager β) (result : Except RuleSetError SyncReport) :
    Recompiled × Manager β :=
  match manager.gate.finish with
  | (.done, gate) => (.ran result, { manager with gate })
  | (.again, gate) =>
    let manager := { manager with gate }
    let attempt := manager.attempt
    let manager := manager.conclude attempt
    (.ran attempt.report, { manager with gate := manager.gate.finish.2 })

/-- A recompilation.  `meanwhile` is what others do with the manager when the run is about to make its
first call to the backend; it is not done if there is no call. -/
def recompileWith {α : Type} (manager : Manager β) (meanwhile : Manager β → α × Manager β) :
    Recompiled × Option α × Manager β :=
  match manager.gate.trigger with
  | (.coalesced, gate) => (.coalesced, none, { manager with gate })
  | (.started, gate) =>
    let manager := { manager with gate }
    let attempt := manager.attempt
    if attempt.called then
      let (seen, manager) := meanwhile manager
      let (result, manager) := (manager.conclude attempt).finish attempt.report
      (result, some seen, manager)
    else
      let (result, manager) := (manager.conclude attempt).finish attempt.report
      (result, none, manager)

/-- A recompilation that nothing comes between. -/
def recompile (manager : Manager β) : Recompiled × Manager β :=
  let (result, _, manager) := manager.recompileWith fun manager => ((), manager)
  (result, manager)

end Manager

end ContentFilter
