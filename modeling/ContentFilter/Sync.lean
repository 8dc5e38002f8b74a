import ContentFilter.Backend

/-!
# Synchronization

How a backend is brought to a target set of rules.  A backend has no transactions, so every run starts
from the rules that are installed: it finds the operations that lead to the target, removes first and
adds afterwards, in calls of limited size.  After a failure a further run completes the work.
-/

namespace ContentFilter

/-- The operations that turn installed rules into a target.  A rule that keeps its id and changes
otherwise is removed and added. -/
structure SyncPlan where
  /-- The ids of the rules to remove, in their order. -/
  removals : List Nat
  /-- The rules to add, in the order of their ids. -/
  additions : List CompiledRule
  /-- How many rules of the target are installed as they are. -/
  unchanged : Nat
deriving DecidableEq, Repr

/-- The list in parts of `size` items, or of one if `size` is zero; the last part may be shorter. -/
def chunks {α : Type} (size : Nat) (items : List α) : List (List α) :=
  if items.isEmpty then []
  else items.take (max size 1) :: chunks size (items.drop (max size 1))
termination_by items.length
decreasing_by
  rename_i notEmpty
  have positive : items.length ≠ 0 := by simpa using notEmpty
  simp only [List.length_drop]
  omega

namespace SyncPlan

/-- Whether an installed rule agrees with the target: the target has its id, and under this id no other
rule. -/
def keeps (target : List CompiledRule) (rule : CompiledRule) : Bool :=
  target.any (·.id == rule.id) && target.all fun wanted => wanted.id != rule.id || wanted == rule

/-- The plan for a target and the rules that are installed. -/
def diff (target installed : List CompiledRule) : SyncPlan :=
  let table := RuleTable.ofRules installed
  let (unchanged, missing) := target.partition fun rule => table.get? rule.id == some rule
  { removals := (table.rules.filter (!keeps target ·)).map (·.id)
    additions := missing.mergeSort fun a b => a.id ≤ b.id
    unchanged := unchanged.length }

/-- Whether there is nothing to do. -/
def isEmpty (plan : SyncPlan) : Bool := plan.removals.isEmpty && plan.additions.isEmpty

/-- The calls of at most `maxBatch` operations that carry out a plan. -/
def batches (plan : SyncPlan) (maxBatch : Nat) : List SyncBatch :=
  (chunks maxBatch plan.removals).map (⟨[], ·⟩) ++ (chunks maxBatch plan.additions).map (⟨·, []⟩)

end SyncPlan

/-- What a run of synchronization has done. -/
structure SyncReport where
  removed : Nat
  added : Nat
  unchanged : Nat
  batches : Nat
deriving DecidableEq, Repr

/-- The report with one more call. -/
def SyncReport.count (report : SyncReport) (batch : SyncBatch) : SyncReport where
  removed := report.removed + batch.removals.length
  added := report.added + batch.additions.length
  unchanged := report.unchanged
  batches := report.batches + 1

namespace Sync

variable {β : Type} [RuleBackend β]

/-- The plan that leads a backend to a target.  A target that does not fit is refused before any call
is made. -/
def plan (backend : β) (target : List CompiledRule) : Except RuleSetError SyncPlan :=
  let limit := (RuleBackend.limits backend).maxRules
  if limit < target.length then .error (.backendCapacity target.length limit)
  else
    match RuleBackend.installed backend with
    | .ok installed => .ok (.diff target installed)
    | .error cause => .error (.syncFailed cause 0 0)

/-- The backend behind calls that are made until one is refused; `report` tells what was done before. -/
def send (backend : β) (report : SyncReport) :
    List SyncBatch → β × Except RuleSetError SyncReport
  | [] => (backend, .ok report)
  | batch :: rest =>
    match RuleBackend.update backend batch with
    | (backend, .ok ()) => send backend (report.count batch) rest
    | (backend, .error cause) =>
      (backend, .error (.syncFailed cause report.removed report.added))

/-- The calls that carry out a plan on a backend. -/
def calls (backend : β) (plan : SyncPlan) : List SyncBatch :=
  plan.batches (RuleBackend.limits backend).maxBatch

/-- The backend behind the calls of a plan. -/
def execute (backend : β) (plan : SyncPlan) : β × Except RuleSetError SyncReport :=
  send backend ⟨0, 0, plan.unchanged, 0⟩ (calls backend plan)

/-- The backend brought to a target, with a report, or with the reason why that failed. -/
def synchronize (backend : β) (target : List CompiledRule) : β × Except RuleSetError SyncReport :=
  match plan backend target with
  | .ok plan => execute backend plan
  | .error failure => (backend, .error failure)

end Sync

end ContentFilter
