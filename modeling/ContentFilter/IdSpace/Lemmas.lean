import ContentFilter.IdSpace

/-!
# Laws of id allocators

Here is said once what a request to an allocator can come to.
-/

namespace ContentFilter

namespace IdAllocator

theorem sequence_eq_error {allocator : IdAllocator} {category : Category} {cause : IdError}
    (h : allocator.sequence category = .error cause) :
    allocator.space.range? category = none ∧ cause = .undeclared category := by
  unfold sequence at h
  split at h
  · cases h
  · unfold IdSpace.sequence at h
    split at h
    · cases h
    · rename_i undeclared
      cases h
      exact ⟨undeclared, rfl⟩

/-- What a request can come to: the category has no band, its sequence is used up, or it gives the next id
and the sequence moves on. -/
theorem next_cases (allocator : IdAllocator) (category : Category) :
    (allocator.space.range? category = none ∧
      allocator.next category = .error (.undeclared category)) ∨
    ∃ ids, allocator.sequence category = .ok ids ∧
      ((ids.range.stop ≤ ids.next ∧ allocator.next category = .error ids.exhaustion) ∨
      (ids.next < ids.range.stop ∧ allocator.next category =
        .ok (ids.next, allocator.store { ids with next := ids.next + 1 }))) := by
  cases answer : allocator.sequence category with
  | error cause =>
    obtain ⟨undeclared, rfl⟩ := sequence_eq_error answer
    exact .inl ⟨undeclared, by rw [next, answer]; rfl⟩
  | ok ids =>
    refine .inr ⟨ids, rfl, ?_⟩
    rw [next, answer]
    by_cases full : ids.range.stop ≤ ids.next
    · refine .inl ⟨full, ?_⟩
      simp only [bind, Except.bind, IdSequence.next?, if_pos full]
      rfl
    · refine .inr ⟨Nat.lt_of_not_le full, ?_⟩
      simp only [bind, Except.bind, IdSequence.next?, if_neg full]
      rfl

end IdAllocator

end ContentFilter
