import ContentFilter.Sync

/-!
# Laws of synchronization plans

Cutting a list into parts loses nothing and keeps to the size; the calls of a plan are its operations,
removals first.
-/

namespace ContentFilter

variable {α : Type}

@[simp] theorem chunks_nil (size : Nat) : chunks size ([] : List α) = [] := by
  rw [chunks]
  rfl

theorem chunks_of_ne_nil {size : Nat} {items : List α} (h : items ≠ []) :
    chunks size items =
      items.take (max size 1) :: chunks size (items.drop (max size 1)) := by
  rw [chunks]
  simp [h]

/-- The parts of a list make up the list. -/
@[simp] theorem flatten_chunks (size : Nat) (items : List α) :
    (chunks size items).flatten = items := by
  fun_induction chunks size items with
  | case1 items isEmpty => simpa using isEmpty.symm
  | case2 items _ ih => simp [ih]

/-- No part is longer than the size, or than one if the size is zero. -/
theorem length_le_of_mem_chunks {size : Nat} {items part : List α} (h : part ∈ chunks size items) :
    part.length ≤ max size 1 := by
  fun_induction chunks size items with
  | case1 => simp at h
  | case2 items _ ih =>
    rcases List.mem_cons.1 h with rfl | later
    · exact List.length_take_le _ _
    · exact ih later

theorem ne_nil_of_mem_chunks {size : Nat} {items part : List α} (h : part ∈ chunks size items) :
    part ≠ [] := by
  fun_induction chunks size items with
  | case1 => simp at h
  | case2 items notEmpty ih =>
    rcases List.mem_cons.1 h with rfl | later
    · have : items ≠ [] := by simpa using notEmpty
      simp [this]
    · exact ih later

/-- There are as few parts as the size allows. -/
theorem length_chunks {size : Nat} (positive : 0 < size) (items : List α) :
    (chunks size items).length = (items.length + size - 1) / size := by
  fun_induction chunks size items with
  | case1 items isEmpty =>
    have : items = [] := by simpa using isEmpty
    subst this
    rw [List.length_nil, List.length_nil, Nat.zero_add, Nat.div_eq_of_lt (by omega)]
  | case2 items notEmpty ih =>
    have nonempty : items.length ≠ 0 := by simpa using notEmpty
    have width : max size 1 = size := by omega
    rw [List.length_cons, ih, List.length_drop, width]
    by_cases short : items.length ≤ size
    · have first : (items.length - size + size - 1) / size = 0 := Nat.div_eq_of_lt (by omega)
      have all : (items.length + size - 1) / size = 1 :=
        Nat.div_eq_of_lt_le (by omega) (by omega)
      omega
    · have split : items.length + size - 1 = items.length - size + size - 1 + size := by omega
      rw [split, Nat.add_div_right _ positive]

namespace SyncPlan

/-- The calls of a plan remove what it removes, in order. -/
theorem flatMap_removals_batches (plan : SyncPlan) (maxBatch : Nat) :
    (plan.batches maxBatch).flatMap (·.removals) = plan.removals := by
  simp [batches, List.flatMap_append, List.flatMap_map, List.flatMap_id']

/-- The calls of a plan add what it adds, in order. -/
theorem flatMap_additions_batches (plan : SyncPlan) (maxBatch : Nat) :
    (plan.batches maxBatch).flatMap (·.additions) = plan.additions := by
  simp [batches, List.flatMap_append, List.flatMap_map, List.flatMap_id']

/-- A call removes some rules or adds some, and has no more operations than allowed, or than one. -/
theorem size_of_mem_batches {plan : SyncPlan} {maxBatch : Nat} {batch : SyncBatch}
    (h : batch ∈ plan.batches maxBatch) : 0 < batch.size ∧ batch.size ≤ max maxBatch 1 := by
  simp only [batches, List.mem_append, List.mem_map] at h
  rcases h with ⟨part, member, rfl⟩ | ⟨part, member, rfl⟩
  all_goals
    have bounded := length_le_of_mem_chunks member
    have nonempty := List.length_pos_iff.2 (ne_nil_of_mem_chunks member)
    simp only [SyncBatch.size, List.length_nil]
    omega

/-- No call of a plan is larger than allowed. -/
theorem size_le_of_mem_batches {plan : SyncPlan} {maxBatch : Nat} (positive : 0 < maxBatch)
    {batch : SyncBatch} (h : batch ∈ plan.batches maxBatch) : batch.size ≤ maxBatch := by
  have bounded := (size_of_mem_batches h).2
  omega

/-- Once a call of a plan adds rules, no later one removes any. -/
theorem pairwise_batches (plan : SyncPlan) (maxBatch : Nat) :
    (plan.batches maxBatch).Pairwise fun earlier later =>
      earlier.additions ≠ [] → later.removals = [] := by
  rw [batches, List.pairwise_append, List.pairwise_map, List.pairwise_map]
  refine ⟨?_, ?_, ?_⟩
  · exact List.pairwise_of_forall fun _ _ added => absurd rfl added
  · exact List.pairwise_of_forall fun _ _ _ => rfl
  · intro earlier _ later member _
    obtain ⟨part, -, rfl⟩ := List.mem_map.1 member
    rfl

/-- A plan without operations makes no call. -/
theorem batches_eq_nil_iff {plan : SyncPlan} {maxBatch : Nat} :
    plan.batches maxBatch = [] ↔ plan.isEmpty := by
  have none : ∀ {α : Type} {items : List α}, chunks maxBatch items = [] ↔ items = [] := by
    intro α items
    constructor
    · intro h
      rw [← flatten_chunks maxBatch items, h, List.flatten_nil]
    · rintro rfl
      exact chunks_nil maxBatch
  simp [batches, isEmpty, none]

end SyncPlan

end ContentFilter
