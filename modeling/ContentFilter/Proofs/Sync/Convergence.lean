import ContentFilter.Proofs.Sync.Exact

/-!
# Runs that are cut

Runs of synchronization may be cut by failures at any of their calls.  Whatever is installed behind a
call was installed at the start or is in the target, and what both have stays installed; so the first
run that is spared reaches the target.
-/

namespace ContentFilter

/-- A table on the way from a start to a target. -/
structure RuleTable.Between (start : RuleTable) (target : List CompiledRule) (table : RuleTable) :
    Prop where
  /-- A rule was installed at the start or is in the target. -/
  origin : ∀ rule ∈ table.rules, rule ∈ start.rules ∨ rule ∈ target
  /-- A rule of the target that was installed at the start is still installed. -/
  kept : ∀ rule ∈ start.rules, rule ∈ target → rule ∈ table.rules

namespace RuleTable.Between

variable {start table : RuleTable} {target : List CompiledRule}

theorem refl (start : RuleTable) (target : List CompiledRule) : start.Between target start :=
  ⟨fun _ installed => .inl installed, fun _ installed _ => installed⟩

theorem trans {middle : RuleTable} (first : start.Between target middle)
    (second : middle.Between target table) : start.Between target table := by
  constructor
  · intro rule installed
    rcases second.origin rule installed with before | wanted
    · exact first.origin rule before
    · exact .inr wanted
  · intro rule before wanted
    exact second.kept rule (first.kept rule before wanted) wanted

section Call

variable (distinct : (target.map (·.id)).Nodup) {maxBatch : Nat} {batch : SyncBatch}
  {rest : List SyncBatch} (between : start.Between target table)
  (next : (SyncPlan.diff target table.rules).batches maxBatch = batch :: rest)
include distinct between next

/-- A call that is due leads from a table on the way to another one. -/
theorem apply : start.Between target (table.apply batch) := by
  have members (rule : CompiledRule) :=
    @mem_apply_iff table batch (SyncPlan.admits_of_batches distinct next) rule
  constructor
  · intro rule installed
    rcases (members rule).1 installed with added | ⟨before, -⟩
    · exact .inr (SyncPlan.mem_target_of_batches next added).1
    · exact between.origin rule before
  · intro rule before wanted
    have installed := between.kept rule before wanted
    refine (members rule).2 (.inr ⟨installed, fun gone => ?_⟩)
    exact SyncPlan.not_mem_target_of_batches distinct next installed gone wanted

/-- What a call removes is missing afterwards, beside what was missing before. -/
theorem length_missing_apply :
    (start.rules.filter (· ∉ (table.apply batch).rules)).length =
      (start.rules.filter (· ∉ table.rules)).length + batch.removals.length := by
  have admits := SyncPlan.admits_of_batches distinct next
  have sub : batch.removals.Sublist (SyncPlan.diff target table.rules).removals := by
    rw [← SyncPlan.flatMap_removals_batches _ maxBatch, next, List.flatMap_cons]
    exact List.sublist_append_left _ _
  have counted : (table.rules.filter fun rule => batch.removals.contains rule.id).length =
      batch.removals.length := by
    apply length_filter_contains ((SyncPlan.nodup_removals distinct table).sublist sub)
    intro id gone
    obtain ⟨rule, installed, -, same⟩ := (SyncPlan.mem_removals_iff distinct).1 (sub.subset gone)
    exact ⟨rule, installed, same⟩
  rw [← counted]
  apply length_eq_add_of_mem_iff (start.nodup_rules.filter _) (start.nodup_rules.filter _)
    (table.nodup_rules.filter _)
  · intro rule missing present
    rw [List.mem_filter, decide_eq_true_iff] at missing
    exact missing.2 (List.mem_filter.1 present).1
  · intro rule
    rw [List.mem_filter, List.mem_filter, List.mem_filter, decide_eq_true_iff, decide_eq_true_iff,
      List.contains_iff_mem, mem_apply_iff admits, not_or, not_and, Classical.not_not]
    constructor
    · -- a rule that was there before either went earlier or goes with this call
      intro given
      obtain ⟨before, -, gone⟩ := given
      by_cases installed : rule ∈ table.rules
      · exact .inr ⟨installed, gone installed⟩
      · exact .inl ⟨before, installed⟩
    · intro given
      rcases given with ⟨before, missing⟩ | ⟨installed, gone⟩
      · refine ⟨before, fun added => ?_, fun installed => absurd installed missing⟩
        exact missing (between.kept rule before (SyncPlan.mem_target_of_batches next added).1)
      · have unwanted := SyncPlan.not_mem_target_of_batches distinct next installed gone
        refine ⟨?_, fun added => ?_, fun _ => gone⟩
        · exact (between.origin rule installed).resolve_right unwanted
        · exact unwanted (SyncPlan.mem_target_of_batches next added).1

/-- What a call adds is new afterwards, beside what was new before. -/
theorem length_new_apply :
    ((table.apply batch).rules.filter (· ∉ start.rules)).length =
      (table.rules.filter (· ∉ start.rules)).length + batch.additions.length := by
  have admits := SyncPlan.admits_of_batches distinct next
  apply length_eq_add_of_mem_iff ((table.apply batch).nodup_rules.filter _)
    (table.nodup_rules.filter _) (nodup_of_nodup_ids admits.1)
  · intro rule old added
    exact (SyncPlan.mem_target_of_batches next added).2 (List.mem_filter.1 old).1
  · intro rule
    rw [List.mem_filter, List.mem_filter, decide_eq_true_iff, mem_apply_iff admits]
    constructor
    · rintro ⟨added | ⟨before, -⟩, new⟩
      · exact .inr added
      · exact .inl ⟨before, new⟩
    · intro given
      rcases given with ⟨before, new⟩ | added
      · refine ⟨.inr ⟨before, fun gone => ?_⟩, new⟩
        have unwanted := SyncPlan.not_mem_target_of_batches distinct next before gone
        exact (between.origin rule before).elim new unwanted
      · obtain ⟨wanted, missing⟩ := SyncPlan.mem_target_of_batches next added
        exact ⟨.inl added, fun old => missing (between.kept rule old wanted)⟩

end Call

end RuleTable.Between

/-- A backend before a run, into which a failure may be injected at a call of any number.  An earlier
injection is overridden. -/
def MemoryBackend.inject (backend : MemoryBackend) : Option Nat → MemoryBackend
  | some number => { backend with failOnCall := some number }
  | none => backend

namespace Sync

/-- A run of synchronization. -/
structure Run where
  before : MemoryBackend
  calls : List (Call MemoryBackend)
  after : MemoryBackend
  result : Except RuleSetError SyncReport

def run (target : List CompiledRule) (backend : MemoryBackend) : Run where
  before := backend
  calls := log backend target
  after := (synchronize backend target).1
  result := (synchronize backend target).2

/-- The runs to a target one after the other, each behind the injection of a failure or of none. -/
def runs (target : List CompiledRule) (backend : MemoryBackend) : List (Option Nat) → List Run
  | [] => []
  | fault :: faults =>
    let first := run target (backend.inject fault)
    first :: runs target first.after faults

namespace Run

/-- The rules that were installed before a run and are not behind it. -/
def removed (run : Run) : List CompiledRule :=
  run.before.table.rules.filter (· ∉ run.after.table.rules)

/-- The rules that are installed behind a run and were not before it. -/
def added (run : Run) : List CompiledRule :=
  run.after.table.rules.filter (· ∉ run.before.table.rules)

/-- What is promised of a run to a target, where `start` was installed at some time before. -/
structure Converges (start : RuleTable) (target : List CompiledRule) (run : Run) : Prop where
  /-- Every call leaves a table on the way to the target. -/
  between : ∀ call ∈ run.calls, start.Between target call.behind.table
  /-- A failure is the injected one, and tells how many rules the run removed and added. -/
  failed : ∀ failure, run.result = .error failure →
    failure = .syncFailed run.after.injected run.removed.length run.added.length
  /-- A run succeeds just if no failure is injected into its calls. -/
  succeeds_iff : (∃ report, run.result = .ok report) ↔ ¬ Struck run.before target
  /-- A run that succeeds leaves the target. -/
  reached : ∀ report, run.result = .ok report →
    run.after.table.rules = target.mergeSort fun a b => a.id ≤ b.id

end Run

/-- Where a run has come to: the table is on the way to the target and not too large, and the report
counts the rules that went and came. -/
structure Progress (start : RuleTable) (target : List CompiledRule) (limit : Nat) (table : RuleTable)
    (report : SyncReport) : Prop where
  between : start.Between target table
  room : table.size ≤ limit
  removed : report.removed = (start.rules.filter (· ∉ table.rules)).length
  added : report.added = (table.rules.filter (· ∉ start.rules)).length

section Convergence

variable {target : List CompiledRule} (distinct : (target.map (·.id)).Nodup)
include distinct

theorem Progress.count {start table : RuleTable} {report : SyncReport} {batch : SyncBatch}
    {rest : List SyncBatch} {limit maxBatch : Nat} (fits : target.length ≤ limit)
    (progress : Progress start target limit table report)
    (next : (SyncPlan.diff target table.rules).batches maxBatch = batch :: rest) :
    Progress start target limit (table.apply batch) (report.count batch) := by
  constructor
  · exact progress.between.apply distinct next
  · have grown := SyncPlan.size_apply_le distinct next
    have room := progress.room
    omega
  · rw [progress.between.length_missing_apply distinct next, ← progress.removed]
    rfl
  · rw [progress.between.length_new_apply distinct next, ← progress.added]
    rfl

/-- A run converges, and leaves a table on the way to the target that is not too large. -/
theorem converges_run {backend : MemoryBackend} {start : RuleTable}
    (positive : 0 < backend.limits.maxBatch) (fits : target.length ≤ backend.limits.maxRules)
    (room : backend.table.size ≤ backend.limits.maxRules)
    (between : start.Between target backend.table) :
    (run target backend).Converges start target ∧
      (run target backend).after.limits = backend.limits ∧
      (run target backend).after.table.size ≤ backend.limits.maxRules ∧
      start.Between target (run target backend).after.table := by
  have along : ∀ call ∈ log backend target, start.Between target call.behind.table := by
    rw [log_of_fits fits]
    exact forall_sent distinct (fun _ _ _ way next => way.apply distinct next) rfl between
  have fresh : Progress backend.table target backend.limits.maxRules backend.table
      ⟨0, 0, (SyncPlan.diff target backend.table.rules).unchanged, 0⟩ := by
    refine ⟨.refl _ _, room, ?_, ?_⟩
    all_goals
      rw [List.filter_eq_nil_iff.2]
      · rfl
      · intro rule installed
        simpa using installed
  rcases send_cases distinct (fun _ _ _ _ progress next => progress.count distinct fits next) rfl _
    fresh with ⟨after, last, ran, progress, finished⟩ | ⟨before, cause, last, ran, progress, cut⟩
  · rw [← synchronize_of_fits fits] at ran
    have result : (run target backend).result = .ok last := congrArg Prod.snd ran
    have behind : (run target backend).after = after := congrArg Prod.fst ran
    rw [behind]
    refine ⟨⟨along, ?_, ?_, ?_⟩, finished.limits, progress.room, between.trans progress.between⟩
    · intro failure failed
      rw [result] at failed
      cases failed
    · refine ⟨fun _ ⟨number, fails, above, below⟩ => ?_, fun _ => ⟨last, result⟩⟩
      exact finished.spared number above (finished.calls ▸ below) fails
    · intro report _
      rw [behind]
      exact SyncPlan.rules_eq_of_batches_eq_nil distinct finished.done
  · rw [← synchronize_of_fits fits] at ran
    have result : (run target backend).result =
        .error (.syncFailed cause last.removed last.added) := congrArg Prod.snd ran
    have behind : (run target backend).after = before.counted := congrArg Prod.fst ran
    obtain ⟨same, struck⟩ := struck_of_cut positive distinct fits progress.room cut
    rw [behind]
    refine ⟨⟨along, ?_, ?_, ?_⟩, cut.limits, progress.room, between.trans progress.between⟩
    · intro failure failed
      rw [result, Except.error.injEq] at failed
      rw [Run.removed, Run.added, behind, ← failed, same, progress.removed, progress.added]
      rfl
    · refine ⟨fun ⟨report, success⟩ => ?_, fun spared => absurd struck spared⟩
      rw [result] at success
      cases success
    · intro report success
      rw [result] at success
      cases success

end Convergence

/-- Runs to one target converge, whatever failures are injected: behind every call, what is installed
was installed at the start or is in the target, and what both have is installed; a run that fails tells
how many rules it removed and added; and a run into whose calls no failure is injected succeeds and
leaves the target. -/
theorem runs_converge {backend : MemoryBackend} {target : List CompiledRule}
    (positive : 0 < backend.limits.maxBatch) (room : backend.table.size ≤ backend.limits.maxRules)
    (distinct : (target.map (·.id)).Nodup) (fits : target.length ≤ backend.limits.maxRules)
    (faults : List (Option Nat)) :
    ∀ run ∈ runs target backend faults, run.Converges backend.table target := by
  -- every run starts on the way from the first table, with the limits as they were
  have later : ∀ (present : MemoryBackend), present.limits = backend.limits →
      present.table.size ≤ backend.limits.maxRules →
        backend.table.Between target present.table →
          ∀ run ∈ runs target present faults, run.Converges backend.table target := by
    induction faults with
    | nil =>
      intro present _ _ _ run member
      cases member
    | cons fault faults ih =>
      intro present limits small between
      have same : (present.inject fault).limits = backend.limits ∧
          (present.inject fault).table = present.table := by
        cases fault with
        | none => exact ⟨limits, rfl⟩
        | some number => exact ⟨limits, rfl⟩
      rw [← same.1] at positive fits small
      rw [← same.2] at between small
      obtain ⟨first, behind, still, way⟩ := converges_run distinct positive fits small between
      rw [same.1] at still
      intro run member
      rcases List.mem_cons.1 member with rfl | after
      · exact first
      · exact ih _ (behind.trans same.1) still way run after
  exact later backend rfl room (.refl _ _)

/-- A full backend is brought to a target in three runs, of which the first is cut at its first call
and the second at its second. -/
theorem runs_converge_full :
    0 < fullBackend.limits.maxBatch ∧ fullBackend.table.size ≤ fullBackend.limits.maxRules ∧
      (changedTarget.map (·.id)).Nodup ∧ changedTarget.length ≤ fullBackend.limits.maxRules ∧
      ∀ run ∈ runs changedTarget fullBackend [some 1, some 3, none],
        run.Converges fullBackend.table changedTarget := by
  have positive : 0 < fullBackend.limits.maxBatch := by decide
  have room : fullBackend.table.size ≤ fullBackend.limits.maxRules := by decide
  have distinct : (changedTarget.map (·.id)).Nodup := by decide
  have fits : changedTarget.length ≤ fullBackend.limits.maxRules := by decide
  exact ⟨positive, room, distinct, fits,
    runs_converge positive room distinct fits [some 1, some 3, none]⟩

end Sync

end ContentFilter
