import ContentFilter.Compilation.Record
import ContentFilter.Manager

/-!
# The status of a manager

What a manager tells about its lists and its last recompilation.
-/

namespace ContentFilter

/-- What a manager tells about a list. -/
structure ListStatus where
  id : String
  displayName : String
  category : Category
  enabled : Bool
  stale : Bool
  ruleCount : Nat
  lastFetchedAt : Option Nat
deriving DecidableEq, Repr

/-- What a manager tells about itself. -/
structure ManagerStatus where
  lists : List ListStatus
  enabledCategories : List Category
  customRules : Nat
  /-- How many rules the last compilation that reached the backend has. -/
  activeRules : Nat
  lastError : Option String
  diagnostics : Option CompileDiagnostics
  ruleIdChurn : List (Category × Nat)
deriving DecidableEq, Repr

/-- The status of a list. -/
def CachedList.status (cached : CachedList) : ListStatus where
  id := cached.list.id
  displayName := cached.list.displayName
  category := cached.list.category
  enabled := cached.list.enabled
  stale := cached.stale
  ruleCount := cached.filters.length
  lastFetchedAt := cached.list.lastFetchedAt

/-- The status of a manager. -/
def Manager.status {β : Type} (manager : Manager β) : ManagerStatus where
  lists := manager.lists.map (·.status)
  enabledCategories := manager.enabledCategories
  customRules := manager.customRules.length
  activeRules := manager.compiledRules.length
  lastError := manager.lastError.map (·.message)
  diagnostics := manager.lastGood.map (·.diagnostics)
  ruleIdChurn := manager.ruleIdChurn

/-- The record of the status of a list. -/
def ListStatus.toJson (status : ListStatus) : Json :=
  .record [
    ("id", .string status.id),
    ("displayName", .string status.displayName),
    ("category", .string status.category.name),
    ("enabled", .bool status.enabled),
    ("stale", .bool status.stale),
    ("ruleCount", .nat status.ruleCount),
    ("lastFetchedAt", .option Json.nat status.lastFetchedAt)]

/-- The record of the status of a manager. -/
def ManagerStatus.toJson (status : ManagerStatus) : Json :=
  .record [
    ("lists", .list (status.lists.map ListStatus.toJson)),
    ("enabledCategories", Json.strings (status.enabledCategories.map (·.name))),
    ("customRules", .nat status.customRules),
    ("activeRules", .nat status.activeRules),
    ("lastError", .option .string status.lastError),
    ("diagnostics", .option CompileDiagnostics.toJson status.diagnostics),
    ("ruleIdChurn", .byCategory Json.nat status.ruleIdChurn)]

end ContentFilter
