import ContentFilter.Config
import ContentFilter.RuleTable

/-!
# Backends

The engine that evaluates installed rules, as far as installing rules goes: it tells which rules are
installed, and takes calls that remove and add rules.  A call is checked as a whole before any of it is
carried out.  The backend held in memory enforces the limits that a browser enforces.
-/

namespace ContentFilter

/-- One call to a backend: rules to add, and ids of rules to remove before. -/
structure SyncBatch where
  additions : List CompiledRule
  removals : List Nat
deriving DecidableEq, Repr

namespace SyncBatch

/-- How many operations a call has. -/
def size (batch : SyncBatch) : Nat := batch.additions.length + batch.removals.length

/-- Whether a call has no operation. -/
def isEmpty (batch : SyncBatch) : Bool := batch.additions.isEmpty && batch.removals.isEmpty

end SyncBatch

/-- A type of backends. -/
class RuleBackend (β : Type) where
  limits : β → BackendLimits
  /-- The installed rules. -/
  installed : β → Except BackendError (List CompiledRule)
  /-- The backend behind a call, and whether the call was carried out. -/
  update : β → SyncBatch → β × Except BackendError Unit

/-- A backend held in memory. -/
structure MemoryBackend where
  table : RuleTable
  limits : BackendLimits
  /-- How many calls were made so far. -/
  calls : Nat
  /-- The number of a call that is to fail, counted from one. -/
  failOnCall : Option Nat

namespace MemoryBackend

/-- The backend with these limits in which nothing is installed. -/
def new (limits : BackendLimits) : MemoryBackend := ⟨.empty, limits, 0, none⟩

/-- The id of the first rule that cannot be added to the table, because its id is taken or was used by
a rule before; `seen` holds the ids of those. -/
def firstClash? (table : RuleTable) (seen : List Nat) : List CompiledRule → Option Nat
  | [] => none
  | rule :: rest =>
    if table.contains rule.id || seen.contains rule.id then some rule.id
    else firstClash? table (rule.id :: seen) rest

/-- Why a call is refused, if it is.  The call has been counted. -/
def refusal? (backend : MemoryBackend) (batch : SyncBatch) : Option BackendError :=
  let left := backend.table.erase batch.removals
  if backend.failOnCall == some backend.calls then
    some (.unavailable ("injected failure on call " ++ toString backend.calls))
  else if backend.limits.maxBatch < batch.size then
    some (.batchTooLarge batch.size backend.limits.maxBatch)
  else
    match firstClash? left [] batch.additions with
    | some id => some (.duplicateId id)
    | none =>
      if backend.limits.maxRules < left.size + batch.additions.length then
        some (.capacity backend.limits.maxRules)
      else none

/-- The backend behind a call, and whether the call was carried out. -/
def update (backend : MemoryBackend) (batch : SyncBatch) :
    MemoryBackend × Except BackendError Unit :=
  let called := { backend with calls := backend.calls + 1 }
  match called.refusal? batch with
  | some cause => (called, .error cause)
  | none =>
    let table := (called.table.erase batch.removals).insertAll batch.additions
    ({ called with table }, .ok ())

instance : RuleBackend MemoryBackend where
  limits := limits
  installed backend := .ok backend.table.rules
  update := update

end MemoryBackend

end ContentFilter
