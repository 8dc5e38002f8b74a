import ContentFilter.Backend

/-!
# Backends that go away

A backend held in memory by a worker that is restarted after a number of calls.  From then on no call
reaches the rules.
-/

namespace ContentFilter

/-- A backend with the number of calls that are left until its worker is restarted. -/
structure MeteredBackend where
  memory : MemoryBackend
  /-- There is no limit if this is missing. -/
  budget : Option Nat

namespace MeteredBackend

/-- The backend with these limits in which nothing is installed, of unlimited life. -/
def new (limits : BackendLimits) : MeteredBackend := ⟨.new limits, none⟩

/-- The backend behind a call, and whether the call was carried out. -/
def update (backend : MeteredBackend) (batch : SyncBatch) :
    MeteredBackend × Except BackendError Unit :=
  match backend.budget with
  | some 0 => (backend, .error (.unavailable "worker restarted"))
  | budget =>
    let (memory, answer) := backend.memory.update batch
    (⟨memory, budget.map (· - 1)⟩, answer)

instance : RuleBackend MeteredBackend where
  limits backend := backend.memory.limits
  installed backend := .ok backend.memory.table.rules
  update := update

end MeteredBackend

end ContentFilter
