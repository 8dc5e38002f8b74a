import ContentFilter.Proofs.Sync.Calls

/-!
# Undisturbed runs

A run into which no failure is injected reaches its target with the least work, and keeps to the limits
of the backend on the way.
-/

namespace ContentFilter

namespace Sync

section Report

variable {β : Type} [RuleBackend β]

/-- The report of calls that were all carried out counts their operations. -/
theorem report_of_send_eq_ok {backend after : β} {report last : SyncReport} {batches : List SyncBatch}
    (h : send backend report batches = (after, .ok last)) :
    last.removed = report.removed + (batches.flatMap (·.removals)).length ∧
      last.added = report.added + (batches.flatMap (·.additions)).length ∧
      last.unchanged = report.unchanged ∧ last.batches = report.batches + batches.length := by
  induction batches generalizing backend report with
  | nil =>
    cases h
    exact ⟨rfl, rfl, rfl, rfl⟩
  | cons batch rest ih =>
    rcases update : RuleBackend.update backend batch with ⟨behind, cause | ⟨⟨⟩⟩⟩
    · rw [send_of_error update] at h
      cases h
    · rw [send_of_ok update] at h
      obtain ⟨removed, added, unchanged, count⟩ := ih h
      simp only [SyncReport.count] at removed added unchanged count
      rw [List.flatMap_cons, List.flatMap_cons, List.length_append, List.length_append,
        List.length_cons]
      refine ⟨?_, ?_, unchanged, ?_⟩ <;> omega

end Report

/-- Whether a failure is injected into one of the calls that are due. -/
def Struck (backend : MemoryBackend) (target : List CompiledRule) : Prop :=
  ∃ number, backend.failOnCall = some number ∧ backend.calls < number ∧
    number ≤ backend.calls + (due backend target).length

/-- What is promised of a run from `backend` to `target` that ends in `after` with a report. -/
structure Exact (backend : MemoryBackend) (target : List CompiledRule) (after : MemoryBackend)
    (report : SyncReport) : Prop where
  /-- No call is refused. -/
  taken : ∀ call ∈ log backend target, call.answer = .ok ()
  /-- The rules fit behind every call. -/
  fits : ∀ call ∈ log backend target, call.behind.table.size ≤ backend.limits.maxRules
  /-- The target is installed. -/
  installed : after.table.rules = target.mergeSort fun a b => a.id ≤ b.id
  /-- An installed id is removed if the target lacks it or has a different rule under it. -/
  removed_iff : ∀ id, id ∈ (log backend target).flatMap (·.batch.removals) ↔
    ∃ rule, backend.table.get? id = some rule ∧ target.find? (·.id == id) ≠ some rule
  /-- A rule of the target is added if the backend does not hold an equal one. -/
  added_iff : ∀ rule, rule ∈ (log backend target).flatMap (·.batch.additions) ↔
    rule ∈ target ∧ backend.table.get? rule.id ≠ some rule
  /-- Nothing is removed or added twice. -/
  once : ((log backend target).flatMap (·.batch.removals)).Nodup ∧
    ((log backend target).flatMap (·.batch.additions)).Nodup
  removed : report.removed = ((log backend target).flatMap (·.batch.removals)).length
  added : report.added = ((log backend target).flatMap (·.batch.additions)).length
  unchanged : report.unchanged =
    (target.filter fun rule => backend.table.get? rule.id == some rule).length
  total : report.unchanged + report.added = target.length
  batches : report.batches =
    (report.removed + backend.limits.maxBatch - 1) / backend.limits.maxBatch +
      (report.added + backend.limits.maxBatch - 1) / backend.limits.maxBatch
  /-- A further run makes no call. -/
  again : log after target = [] ∧ synchronize after target = (after, .ok ⟨0, 0, target.length, 0⟩)

section Undisturbed

variable {backend : MemoryBackend} {target : List CompiledRule}
  (positive : 0 < backend.limits.maxBatch) (distinct : (target.map (·.id)).Nodup)
  (fits : target.length ≤ backend.limits.maxRules)
  (room : backend.table.size ≤ backend.limits.maxRules)
include positive distinct fits

/-- A call that is due is refused for no reason but an injected failure. -/
theorem injected_of_due {before : MemoryBackend} (limits : before.limits = backend.limits)
    (room : before.table.size ≤ backend.limits.maxRules) {batch : SyncBatch} {rest : List SyncBatch}
    (next : due before target = batch :: rest) {cause : BackendError}
    (refused : before.counted.refusal? batch = some cause) :
    before.failOnCall = some (before.calls + 1) ∧ cause = before.counted.injected := by
  apply MemoryBackend.injected_of_refusal? refused
  · show batch.size ≤ before.limits.maxBatch
    apply SyncPlan.size_le_of_mem_batches (limits ▸ positive)
    rw [show (SyncPlan.diff target before.table.rules).batches _ = _ from next]
    exact List.mem_cons_self
  · exact SyncPlan.admits_of_batches distinct next
  · have grown : (before.table.apply batch).size ≤ max before.table.size target.length :=
      SyncPlan.size_apply_le distinct next
    show (before.table.apply batch).size ≤ before.limits.maxRules
    rw [limits]
    omega

/-- A run is cut by an injected failure only. -/
theorem struck_of_cut {before : MemoryBackend} {cause : BackendError}
    (small : before.table.size ≤ backend.limits.maxRules) (cut : Cut backend target before cause) :
    cause = before.counted.injected ∧ Struck backend target := by
  obtain ⟨batch, rest, next, refused⟩ := cut.refused
  obtain ⟨fails, same⟩ := injected_of_due positive distinct fits cut.limits small next refused
  refine ⟨same, before.calls + 1, ?_, ?_, ?_⟩
  · rw [← cut.failOnCall]
    exact fails
  · have := cut.first
    omega
  · have := cut.last
    omega

include room

omit positive in
theorem size_le_of_mem_sent :
    ∀ call ∈ sent backend (due backend target),
      call.behind.table.size ≤ backend.limits.maxRules := by
  apply forall_sent distinct (P := fun table => table.size ≤ backend.limits.maxRules) _ rfl room
  intro table batch rest small next
  have grown := SyncPlan.size_apply_le distinct next
  omega

/-- Without an injected failure, a run finishes. -/
theorem finished_of_not_struck (spared : ¬ Struck backend target) :
    ∃ after report, synchronize backend target = (after, .ok report) ∧
      Finished backend target after := by
  rw [synchronize_of_fits fits]
  have step : ∀ (table : RuleTable) (report : SyncReport) batch rest,
      table.size ≤ backend.limits.maxRules →
        (SyncPlan.diff target table.rules).batches backend.limits.maxBatch = batch :: rest →
          (table.apply batch).size ≤ backend.limits.maxRules := by
    intro table report batch rest small next
    have grown := SyncPlan.size_apply_le distinct next
    omega
  rcases send_cases distinct step rfl _ room with
    ⟨after, last, ran, -, finished⟩ | ⟨before, cause, last, -, small, cut⟩
  · exact ⟨after, last, ran, finished⟩
  · exact absurd (struck_of_cut positive distinct fits small cut).2 spared

end Undisturbed

/-- A plan makes as few calls as their size allows, for its removals and for its additions. -/
theorem length_batches {maxBatch : Nat} (positive : 0 < maxBatch) (plan : SyncPlan) :
    (plan.batches maxBatch).length =
      (plan.removals.length + maxBatch - 1) / maxBatch +
        (plan.additions.length + maxBatch - 1) / maxBatch := by
  rw [SyncPlan.batches, List.length_append, List.length_map, List.length_map,
    length_chunks positive, length_chunks positive]

section Log

variable {backend : MemoryBackend} {target : List CompiledRule}
  (fits : target.length ≤ backend.limits.maxRules)
  (taken : ∀ call ∈ log backend target, call.answer = .ok ())
include fits taken

theorem map_batch_log : (log backend target).map (·.batch) = due backend target := by
  rw [log_of_fits fits] at taken ⊢
  exact map_batch_sent taken

theorem removals_log :
    (log backend target).flatMap (·.batch.removals) =
      (SyncPlan.diff target backend.table.rules).removals := by
  rw [← SyncPlan.flatMap_removals_batches _ backend.limits.maxBatch]
  show _ = (due backend target).flatMap _
  rw [← map_batch_log fits taken, List.flatMap_map]

theorem additions_log :
    (log backend target).flatMap (·.batch.additions) =
      (SyncPlan.diff target backend.table.rules).additions := by
  rw [← SyncPlan.flatMap_additions_batches _ backend.limits.maxBatch]
  show _ = (due backend target).flatMap _
  rw [← map_batch_log fits taken, List.flatMap_map]

end Log

/-- Where nothing is due, a run makes no call and finds the whole target unchanged. -/
theorem synchronize_of_due_eq_nil {backend : MemoryBackend} {target : List CompiledRule}
    (distinct : (target.map (·.id)).Nodup) (fits : target.length ≤ backend.limits.maxRules)
    (done : due backend target = []) :
    log backend target = [] ∧
      synchronize backend target = (backend, .ok ⟨0, 0, target.length, 0⟩) := by
  have reached : SyncPlan.diff target backend.table.rules = ⟨[], [], target.length⟩ :=
    SyncPlan.diff_of_mem_iff distinct fun _ => SyncPlan.mem_iff_of_batches_eq_nil distinct done
  rw [log_of_fits fits, synchronize_of_fits fits, done, reached]
  exact ⟨rfl, rfl⟩

/-- Without an injected failure, a run is exact: it succeeds with the least number of operations, no
call of it is refused, and a further run has nothing to do. -/
theorem synchronize_exact {backend : MemoryBackend} {target : List CompiledRule}
    (positive : 0 < backend.limits.maxBatch) (room : backend.table.size ≤ backend.limits.maxRules)
    (distinct : (target.map (·.id)).Nodup) (fits : target.length ≤ backend.limits.maxRules)
    (spared : ¬ Struck backend target) :
    ∃ after report, synchronize backend target = (after, .ok report) ∧
      Exact backend target after report := by
  obtain ⟨after, report, ran, finished⟩ :=
    finished_of_not_struck positive distinct fits room spared
  refine ⟨after, report, ran, ?_⟩
  rw [synchronize_of_fits fits] at ran
  -- the run succeeds, so its calls were all carried out, and they are those of the plan
  have taken : ∀ call ∈ log backend target, call.answer = .ok () := by
    rw [log_of_fits fits, ← exists_send_eq_ok_iff backend, ran]
    exact ⟨report, rfl⟩
  have removals := removals_log fits taken
  have additions := additions_log fits taken
  obtain ⟨removed, added, unchanged, count⟩ := report_of_send_eq_ok ran
  rw [due, SyncPlan.flatMap_removals_batches, Nat.zero_add] at removed
  rw [due, SyncPlan.flatMap_additions_batches, Nat.zero_add] at added
  rw [due, length_batches positive, Nat.zero_add, ← removed, ← added] at count
  have behind : target.length ≤ after.limits.maxRules := finished.limits ▸ fits
  constructor
  case taken => exact taken
  case fits =>
    rw [log_of_fits fits]
    exact size_le_of_mem_sent distinct fits room
  case installed => exact SyncPlan.rules_eq_of_batches_eq_nil distinct finished.done
  case removed_iff =>
    intro id
    rw [removals, SyncPlan.mem_removals_iff distinct]
    constructor
    · intro given
      obtain ⟨rule, installed, unwanted, same⟩ := given
      refine ⟨rule, RuleTable.get?_eq_some_iff.2 ⟨installed, same⟩, fun found => ?_⟩
      exact unwanted (List.mem_of_find?_eq_some found)
    · intro given
      obtain ⟨rule, found, unwanted⟩ := given
      obtain ⟨installed, same⟩ := RuleTable.get?_eq_some_iff.1 found
      refine ⟨rule, installed, fun wanted => ?_, same⟩
      exact unwanted ((RuleTable.find?_eq_some_iff_of_nodup distinct).2 ⟨wanted, same⟩)
  case added_iff =>
    intro rule
    rw [additions, SyncPlan.mem_additions_iff, RuleTable.mem_rules_iff]
  case once =>
    rw [removals, additions]
    have ordered := SyncPlan.pairwise_additions distinct backend.table
    refine ⟨SyncPlan.nodup_removals distinct _, ?_⟩
    exact RuleTable.nodup_of_nodup_ids (RuleTable.nodup_ids_of_pairwise ordered)
  case removed => rw [removed, removals]
  case added => rw [added, additions]
  case unchanged =>
    simp only [unchanged, SyncPlan.unchanged_diff, SyncPlan.get?_beq_some]
  case total =>
    rw [unchanged, added]
    exact SyncPlan.unchanged_add_length_additions target backend.table
  case batches => exact count
  case again => exact synchronize_of_due_eq_nil distinct behind finished.done

/-- A rule that blocks everything. -/
def plainRule (id priority : Nat) : CompiledRule :=
  ⟨id, priority, .block, ".", none, none, none, none, false, .ads⟩

/-- A backend without room for a further rule. -/
def fullBackend : MemoryBackend :=
  ⟨.ofRules [plainRule 1 10, plainRule 2 10, plainRule 3 10], ⟨3, 2⟩, 0, none⟩

/-- A target that keeps a rule of the backend, changes one, lacks one and has a new one. -/
def changedTarget : List CompiledRule := [plainRule 4 10, plainRule 2 20, plainRule 1 10]

/-- A full backend is brought to a target of the same size. -/
theorem synchronize_exact_full :
    0 < fullBackend.limits.maxBatch ∧ fullBackend.table.size ≤ fullBackend.limits.maxRules ∧
      (changedTarget.map (·.id)).Nodup ∧ changedTarget.length ≤ fullBackend.limits.maxRules ∧
      ¬ Struck fullBackend changedTarget ∧
      ∃ after report, synchronize fullBackend changedTarget = (after, .ok report) ∧
        Exact fullBackend changedTarget after report := by
  have positive : 0 < fullBackend.limits.maxBatch := by decide
  have room : fullBackend.table.size ≤ fullBackend.limits.maxRules := by decide
  have distinct : (changedTarget.map (·.id)).Nodup := by decide
  have fits : changedTarget.length ≤ fullBackend.limits.maxRules := by decide
  have spared : ¬ Struck fullBackend changedTarget := by
    intro given
    obtain ⟨number, fails, -⟩ := given
    cases fails
  exact ⟨positive, room, distinct, fits, spared,
    synchronize_exact positive room distinct fits spared⟩

end Sync

end ContentFilter
