import ContentFilter.Backend
import ContentFilter.Proofs.RuleTable.Members

/-!
# Refused calls

When a backend held in memory refuses a call, and what it holds behind one.
-/

namespace ContentFilter

namespace RuleTable

@[simp] theorem erase_nil (table : RuleTable) : table.erase [] = table := by
  apply eq_of_get?_eq
  intro id
  simp

/-- The table behind a call that is carried out. -/
def apply (table : RuleTable) (batch : SyncBatch) : RuleTable :=
  (table.erase batch.removals).insertAll batch.additions

/-- Whether the rules that a call adds have different ids, all of which are free once the call has
removed rules. -/
def Admits (table : RuleTable) (batch : SyncBatch) : Prop :=
  (batch.additions.map (·.id)).Nodup ∧
    ∀ rule ∈ batch.additions, (table.erase batch.removals).get? rule.id = none

variable {table : RuleTable} {batch : SyncBatch}

theorem mem_apply_iff (admits : table.Admits batch) {rule : CompiledRule} :
    rule ∈ (table.apply batch).rules ↔
      rule ∈ batch.additions ∨ (rule ∈ table.rules ∧ rule.id ∉ batch.removals) := by
  rw [apply, mem_insertAll_iff admits.1 admits.2, mem_erase_iff]

theorem size_apply (admits : table.Admits batch) :
    (table.apply batch).size = (table.erase batch.removals).size + batch.additions.length :=
  size_insertAll admits.1 admits.2

end RuleTable

namespace MemoryBackend

/-- The failure that is injected into the call with the present number. -/
def injected (backend : MemoryBackend) : BackendError :=
  .unavailable ("injected failure on call " ++ toString backend.calls)

/-- The additions clash with nothing if their ids are new and differ from each other. -/
theorem firstClash?_eq_none_iff {table : RuleTable} {seen : List Nat} {rules : List CompiledRule} :
    firstClash? table seen rules = none ↔
      (rules.map (·.id)).Nodup ∧
        ∀ rule ∈ rules, table.get? rule.id = none ∧ rule.id ∉ seen := by
  induction rules generalizing seen with
  | nil => simp [firstClash?]
  | cons head rest ih =>
    simp only [firstClash?, RuleTable.contains_eq_isSome]
    split
    · rename_i clash
      constructor
      · intro h
        simp at h
      · rintro ⟨_, free⟩
        have := free head List.mem_cons_self
        simp_all
    · rename_i free
      rw [ih]
      simp only [Bool.or_eq_true, Option.isSome_iff_ne_none, List.contains_iff_mem, not_or,
        Classical.not_not, ne_eq] at free
      simp only [List.map_cons, List.nodup_cons, List.mem_map, List.mem_cons, not_or,
        forall_eq_or_imp]
      constructor
      · rintro ⟨distinct, later⟩
        exact ⟨⟨fun ⟨rule, member, same⟩ => (later rule member).2.1 same, distinct⟩, free,
          fun rule member => ⟨(later rule member).1, (later rule member).2.2⟩⟩
      · rintro ⟨⟨new, distinct⟩, _, later⟩
        exact ⟨distinct, fun rule member => ⟨(later rule member).1,
          fun same => new ⟨rule, member, same⟩, (later rule member).2⟩⟩

theorem firstClash?_eq_none_iff_admits {table : RuleTable} {batch : SyncBatch} :
    firstClash? (table.erase batch.removals) [] batch.additions = none ↔ table.Admits batch := by
  rw [firstClash?_eq_none_iff, RuleTable.Admits]
  simp only [List.not_mem_nil, not_false_eq_true, and_true]

/-- A call is taken if no failure is injected, it is not too large, the added ids are free, and the
rules fit. -/
theorem refusal?_eq_none_iff {backend : MemoryBackend} {batch : SyncBatch} :
    backend.refusal? batch = none ↔
      backend.failOnCall ≠ some backend.calls ∧ batch.size ≤ backend.limits.maxBatch ∧
        backend.table.Admits batch ∧ (backend.table.apply batch).size ≤ backend.limits.maxRules := by
  unfold refusal?
  by_cases fails : backend.failOnCall = some backend.calls
  · simp [fails]
  by_cases large : backend.limits.maxBatch < batch.size
  · have small : ¬ batch.size ≤ backend.limits.maxBatch := Nat.not_le.2 large
    simp [fails, large, small]
  rcases clash : firstClash? (backend.table.erase batch.removals) [] batch.additions with _ | id
  · have admits := firstClash?_eq_none_iff_admits.1 clash
    rw [RuleTable.size_apply admits]
    by_cases full : backend.limits.maxRules <
        (backend.table.erase batch.removals).size + batch.additions.length
    · simp [fails, large, clash, full]
    · simp [fails, large, clash, full, admits]
      omega
  · have clashes : ¬ backend.table.Admits batch := by
      rw [← firstClash?_eq_none_iff_admits, clash]
      exact Option.some_ne_none id
    simp [fails, large, clash, clashes]

/-- A call that keeps to the rules is refused for no reason but an injected failure. -/
theorem injected_of_refusal? {backend : MemoryBackend} {batch : SyncBatch} {cause : BackendError}
    (refused : backend.refusal? batch = some cause) (small : batch.size ≤ backend.limits.maxBatch)
    (admits : backend.table.Admits batch)
    (fits : (backend.table.apply batch).size ≤ backend.limits.maxRules) :
    backend.failOnCall = some backend.calls ∧ cause = backend.injected := by
  by_cases fails : backend.failOnCall = some backend.calls
  · refine ⟨fails, ?_⟩
    unfold refusal? at refused
    rw [if_pos (beq_iff_eq.2 fails), Option.some.injEq] at refused
    exact refused.symm
  · rw [refusal?_eq_none_iff.2 ⟨fails, small, admits, fits⟩] at refused
    cases refused

/-- The backend behind a call that was counted only. -/
def counted (backend : MemoryBackend) : MemoryBackend := { backend with calls := backend.calls + 1 }

theorem update_of_taken {backend : MemoryBackend} {batch : SyncBatch}
    (taken : backend.counted.refusal? batch = none) :
    backend.update batch =
      ({ backend.counted with table := backend.table.apply batch }, .ok ()) := by
  unfold counted at taken
  simp only [update, taken]
  rfl

theorem update_of_refused {backend : MemoryBackend} {batch : SyncBatch} {cause : BackendError}
    (refused : backend.counted.refusal? batch = some cause) :
    backend.update batch = (backend.counted, .error cause) := by
  unfold counted at refused
  simp only [update, refused]
  rfl

/-- A call is carried out as a whole, or counted only. -/
theorem update_cases (backend : MemoryBackend) (batch : SyncBatch) :
    (backend.counted.refusal? batch = none ∧
      backend.update batch =
        ({ backend.counted with table := backend.table.apply batch }, .ok ())) ∨
    (∃ cause, backend.counted.refusal? batch = some cause ∧
      backend.update batch = (backend.counted, .error cause)) := by
  rcases answer : backend.counted.refusal? batch with _ | cause
  · exact .inl ⟨rfl, update_of_taken answer⟩
  · exact .inr ⟨cause, rfl, update_of_refused answer⟩

end MemoryBackend

end ContentFilter
