import Mathlib.Data.List.Dedup
import ContentFilter.Proofs.Backend.Refusal

/-!
# Calls as a whole

A backend held in memory carries a call out as a whole or not at all.  Whether it does is decided before
any rule is touched: from the rules that stand, those that the call frees and those that it adds.  Ids to
be removed count once, and only if they are in use, so no more rules are taken off than there are.
-/

namespace ContentFilter

namespace RuleTable

variable (table : RuleTable) (batch : SyncBatch)

/-- The ids that a call frees: those to be removed that are in use, each of them once. -/
def freed : List Nat := (batch.removals.filter table.contains).dedup

/-- How many rules a call leaves behind, counted before it is carried out. -/
def sizeBehind : Nat := table.size - (table.freed batch).length + batch.additions.length

variable {table batch}

theorem mem_freed_iff {id : Nat} :
    id ∈ table.freed batch ↔ id ∈ batch.removals ∧ ∃ rule ∈ table.rules, rule.id = id := by
  simp [freed, contains]

/-- The rules that are removed are as many as the ids that are freed. -/
theorem length_filter_removals :
    (table.rules.filter fun rule => batch.removals.contains rule.id).length =
      (table.freed batch).length := by
  have distinct : (table.freed batch).Nodup := List.nodup_dedup _
  rw [← length_filter_contains distinct fun id isFreed => (mem_freed_iff.1 isFreed).2]
  congr 1
  refine List.filter_congr fun rule installed => ?_
  rw [Bool.eq_iff_iff, List.contains_iff_mem, List.contains_iff_mem, mem_freed_iff]
  exact (and_iff_left ⟨rule, installed, rfl⟩).symm

theorem size_erase_add_length_freed :
    (table.erase batch.removals).size + (table.freed batch).length = table.size := by
  rw [← length_filter_removals, Nat.add_comm]
  exact (List.length_eq_length_filter_add fun rule : CompiledRule =>
    batch.removals.contains rule.id).symm

/-- No more ids are freed than there are rules. -/
theorem length_freed_le : (table.freed batch).length ≤ table.size :=
  Nat.le.intro ((Nat.add_comm _ _).trans size_erase_add_length_freed)

theorem admits_iff : table.Admits batch ↔ (batch.additions.map (·.id)).Nodup ∧
    ∀ rule ∈ batch.additions, table.get? rule.id = none ∨ rule.id ∈ batch.removals := by
  refine and_congr_right fun _ => forall₂_congr fun rule _ => ?_
  rw [get?_erase, ite_eq_left_iff, or_iff_not_imp_right]

theorem size_apply_eq_sizeBehind (admits : table.Admits batch) :
    (table.apply batch).size = table.sizeBehind batch := by
  have whole : (table.erase batch.removals).size + (table.freed batch).length = table.size :=
    size_erase_add_length_freed
  rw [size_apply admits, sizeBehind]
  omega

end RuleTable

namespace MemoryBackend

/-- A call that the backend takes. -/
structure Takes (backend : MemoryBackend) (batch : SyncBatch) : Prop where
  /-- No failure is injected into the call, which counts itself. -/
  spared : backend.failOnCall ≠ some (backend.calls + 1)
  small : batch.size ≤ backend.limits.maxBatch
  distinct : (batch.additions.map (·.id)).Nodup
  free : ∀ rule ∈ batch.additions, backend.table.get? rule.id = none ∨ rule.id ∈ batch.removals
  fits : backend.table.sizeBehind batch ≤ backend.limits.maxRules

/-- What a call leaves behind and its answer, when it is carried out as a whole or not at all. -/
structure AllOrNothing (backend : MemoryBackend) (batch : SyncBatch) (after : MemoryBackend)
    (answer : Except BackendError Unit) : Prop where
  taken_iff : answer = .ok () ↔ backend.Takes batch
  installed : answer = .ok () → ∀ rule, rule ∈ after.table.rules ↔
    rule ∈ batch.additions ∨ (rule ∈ backend.table.rules ∧ rule.id ∉ batch.removals)
  size : answer = .ok () → after.table.size = backend.table.sizeBehind batch
  /-- A call that fails leaves every rule as it was. -/
  unchanged : answer ≠ .ok () → after = { backend with calls := backend.calls + 1 }
  /-- Whatever the answer, nothing but the rules and the number of calls can have changed. -/
  kept : after = { backend with table := after.table, calls := backend.calls + 1 }
  room : after.table.size ≤ after.limits.maxRules
  /-- The count of the rules that are left does not fall below zero on the way. -/
  counts : (backend.table.freed batch).length ≤ backend.table.size

variable {backend : MemoryBackend} {batch : SyncBatch}

theorem takes_iff : backend.Takes batch ↔ backend.counted.refusal? batch = none := by
  rw [refusal?_eq_none_iff]
  constructor
  · intro takes
    have admits := RuleTable.admits_iff.2 ⟨takes.distinct, takes.free⟩
    refine ⟨takes.spared, takes.small, admits, ?_⟩
    exact (RuleTable.size_apply_eq_sizeBehind admits).symm ▸ takes.fits
  · rintro ⟨spared, small, admits, fits⟩
    obtain ⟨distinct, free⟩ := RuleTable.admits_iff.1 admits
    exact ⟨spared, small, distinct, free, RuleTable.size_apply_eq_sizeBehind admits ▸ fits⟩

/-- The rules fit again behind a call. -/
theorem size_update_le (room : backend.table.size ≤ backend.limits.maxRules) (batch : SyncBatch) :
    (backend.update batch).1.table.size ≤ backend.limits.maxRules := by
  rcases backend.update_cases batch with ⟨taken, updated⟩ | ⟨cause, refused, updated⟩
  · rw [updated]
    exact (refusal?_eq_none_iff.1 taken).2.2.2
  · rw [updated]
    exact room

/-- Where the rules fit, a call is carried out as a whole or not at all, and the rules fit again. -/
theorem update_allOrNothing (room : backend.table.size ≤ backend.limits.maxRules)
    (batch : SyncBatch) :
    AllOrNothing backend batch (backend.update batch).1 (backend.update batch).2 := by
  have roomBehind := size_update_le room batch
  rcases backend.update_cases batch with ⟨taken, updated⟩ | ⟨cause, refused, updated⟩
  case inl =>
    have takes := takes_iff.2 taken
    have admits := RuleTable.admits_iff.2 ⟨takes.distinct, takes.free⟩
    rw [updated] at roomBehind ⊢
    exact {
      taken_iff := iff_of_true rfl takes
      installed := fun _ rule => RuleTable.mem_apply_iff admits
      size := fun _ => RuleTable.size_apply_eq_sizeBehind admits
      unchanged := fun failed => absurd rfl failed
      kept := rfl
      room := roomBehind
      counts := RuleTable.length_freed_le }
  case inr =>
    have notTaken : ¬ backend.Takes batch := by
      rw [takes_iff, refused]
      exact Option.some_ne_none cause
    rw [updated] at roomBehind ⊢
    exact {
      taken_iff := iff_of_false (by simp) notTaken
      installed := by simp
      size := by simp
      unchanged := fun _ => rfl
      kept := rfl
      room := roomBehind
      counts := RuleTable.length_freed_le }

/-- A rule for all requests, of this id and priority. -/
def openRule (id priority : Nat) : CompiledRule :=
  ⟨id, priority, .block, ".", none, none, none, none, false, .ads⟩

/-- A backend that is full, four calls after it was made. -/
def packedBackend : MemoryBackend :=
  ⟨.ofRules [openRule 1 10, openRule 2 10, openRule 3 10], ⟨3, 7⟩, 4, some 6⟩

/-- A call that replaces a rule and puts a new one in the place of another.  It removes one id twice and
one that is not in use. -/
def replacingBatch : SyncBatch := ⟨[openRule 2 20, openRule 4 10], [2, 2, 9, 3]⟩

/-- The same call with one rule more. -/
def crowdingBatch : SyncBatch := ⟨[openRule 2 20, openRule 4 10, openRule 5 10], [2, 2, 9, 3]⟩

/-- The full backend takes the first of these calls and not the second one. -/
theorem update_allOrNothing_packed :
    packedBackend.table.size ≤ packedBackend.limits.maxRules ∧
      packedBackend.table.freed replacingBatch = [2, 3] ∧
      packedBackend.Takes replacingBatch ∧
      AllOrNothing packedBackend replacingBatch (packedBackend.update replacingBatch).1 (.ok ()) ∧
      ¬ packedBackend.Takes crowdingBatch ∧
      AllOrNothing packedBackend crowdingBatch { packedBackend with calls := 5 }
        (.error (.capacity 3)) := by
  have room : packedBackend.table.size ≤ packedBackend.limits.maxRules := by decide
  have taken : packedBackend.update replacingBatch =
      ((packedBackend.update replacingBatch).1, .ok ()) := rfl
  have refused : packedBackend.update crowdingBatch =
      ({ packedBackend with calls := 5 }, .error (.capacity 3)) := rfl
  have carriedOut := update_allOrNothing room replacingBatch
  have leftOut := update_allOrNothing room crowdingBatch
  rw [taken] at carriedOut
  rw [refused] at leftOut
  refine ⟨room, by decide, carriedOut.taken_iff.1 rfl, carriedOut, fun takes => ?_, leftOut⟩
  cases leftOut.taken_iff.2 takes

end MemoryBackend

end ContentFilter
