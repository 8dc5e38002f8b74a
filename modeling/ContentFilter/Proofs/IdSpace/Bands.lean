import ContentFilter.Proofs.IdSpace.Tables

/-!
# Bands of ids

What handing out ids keeps: the ids of a category are those from the bottom of its band, one after
another, whatever is asked for in between, until the band is used up.
-/

namespace ContentFilter

namespace IdSpace

/-- How many ids a category can hand out. -/
def capacity (space : IdSpace) (category : Category) : Nat :=
  match space.range? category with
  | some range => range.width
  | none => 0

/-- The id that a category hands out after `rank` others, if its band reaches that far. -/
def idAt? (space : IdSpace) (category : Category) (rank : Nat) : Option Nat :=
  (space.range? category).bind fun range =>
    if range.start + rank < range.stop then some (range.start + rank) else none

theorem idAt?_eq_some_iff {space : IdSpace} {category : Category} {rank id : Nat} :
    space.idAt? category rank = some id ↔
      ∃ range, space.range? category = some range ∧ id = range.start + rank ∧ id < range.stop := by
  rw [idAt?, Option.bind_eq_some_iff]
  constructor
  · rintro ⟨range, declared, given⟩
    split at given
    · rename_i below
      cases given
      exact ⟨range, declared, rfl, below⟩
    · cases given
  · rintro ⟨range, declared, rfl, below⟩
    exact ⟨range, declared, if_pos below⟩

theorem idAt?_eq_none_iff {space : IdSpace} {category : Category} {rank : Nat} :
    space.idAt? category rank = none ↔ space.capacity category ≤ rank := by
  unfold idAt? capacity
  rcases space.range? category with _ | range
  · simp
  · simp only [Option.bind_some, ite_eq_right_iff, reduceCtorEq, imp_false, IdRange.width]
    omega

end IdSpace

namespace IdAllocator

/-- The open sequences are those of declared bands, and lie inside them. -/
def Sound (allocator : IdAllocator) : Prop :=
  ∀ category ids, allocator.opened? category = some ids →
    allocator.space.range? category = some ids.range ∧
      ids.range.start ≤ ids.next ∧ ids.next ≤ ids.range.stop

theorem sound_start (space : IdSpace) : (start space).Sound := by
  intro category ids opened
  cases opened

theorem opened?_store (allocator : IdAllocator) (ids : IdSequence) (category : Category) :
    (allocator.store ids).opened? category =
      if ids.range.category = category then some ids else allocator.opened? category := by
  unfold opened? store
  by_cases same : ids.range.category = category
  · rw [if_pos same, List.find?_cons_of_pos (by simpa using same)]
  · rw [if_neg same, List.find?_cons_of_neg (by simpa using same), List.find?_filter]
    congr 1
    funext other
    by_cases here : other.range.category = category
    · simp [here, Ne.symm same]
    · simp [here]

/-- The sequence of a category goes on behind the ids that were handed out. -/
theorem sequence_eq_ok {allocator : IdAllocator} (sound : allocator.Sound) {category : Category}
    {ids : IdSequence} (h : allocator.sequence category = .ok ids) :
    allocator.space.range? category = some ids.range ∧
      ids.next = ids.range.start + allocator.issued category := by
  unfold sequence at h
  unfold issued
  rcases opened : allocator.opened? category with _ | open_
  · rw [opened] at h
    simp only [IdSpace.sequence] at h
    split at h
    · rename_i range found
      cases h
      exact ⟨found, rfl⟩
    · cases h
  · rw [opened] at h
    cases h
    obtain ⟨declared, above, -⟩ := sound category ids opened
    refine ⟨declared, ?_⟩
    show ids.next = ids.range.start + (ids.next - ids.range.start)
    omega

/-- What a request to a sound allocator can come to, told by how many ids the category was given. -/
theorem Sound.next_cases {allocator : IdAllocator} (sound : allocator.Sound) (category : Category) :
    (allocator.space.range? category = none ∧
      allocator.next category = .error (.undeclared category)) ∨
    ∃ ids : IdSequence, allocator.space.range? category = some ids.range ∧
      ids.next = ids.range.start + allocator.issued category ∧
      ((ids.range.stop ≤ ids.next ∧
        allocator.next category = .error (.exhausted category ids.range.width)) ∨
      (ids.next < ids.range.stop ∧ allocator.next category =
        .ok (ids.next, allocator.store { ids with next := ids.next + 1 }))) := by
  rcases allocator.next_cases category with undeclared | ⟨ids, answer, outcome⟩
  · exact .inl undeclared
  · obtain ⟨declared, reached⟩ := sequence_eq_ok sound answer
    rw [IdSequence.exhaustion, IdSpace.category_of_range? declared] at outcome
    exact .inr ⟨ids, declared, reached, outcome⟩

/-- A request that succeeds hands out the next id of the band, and touches no other category. -/
theorem next_eq_ok {allocator behind : IdAllocator} (sound : allocator.Sound) {category : Category}
    {id : Nat} (h : allocator.next category = .ok (id, behind)) :
    behind.Sound ∧ behind.space = allocator.space ∧
      (∃ range, allocator.space.range? category = some range ∧
        id = range.start + allocator.issued category ∧ id < range.stop) ∧
      ∀ other, behind.issued other =
        if category = other then allocator.issued other + 1 else allocator.issued other := by
  rcases sound.next_cases category with
    ⟨-, fails⟩ | ⟨ids, declared, reached, ⟨-, fails⟩ | ⟨left, gives⟩⟩
  · rw [fails] at h
    cases h
  · rw [fails] at h
    cases h
  · rw [gives] at h
    obtain ⟨rfl, rfl⟩ := Prod.mk.inj (Except.ok.inj h)
    have named := IdSpace.category_of_range? declared
    refine ⟨?_, rfl, ⟨ids.range, declared, reached, left⟩, ?_⟩
    · intro other later opened
      rw [opened?_store] at opened
      by_cases same : ids.range.category = other
      · rw [if_pos same, Option.some.injEq] at opened
        rw [← opened, ← same, named]
        refine ⟨declared, ?_, ?_⟩
        · show ids.range.start ≤ ids.next + 1
          omega
        · show ids.next + 1 ≤ ids.range.stop
          omega
      · rw [if_neg same] at opened
        exact sound other later opened
    · intro other
      rw [issued, opened?_store, named]
      by_cases same : category = other
      · rw [if_pos same, if_pos same, ← same]
        show ids.next + 1 - ids.range.start = _
        omega
      · rw [if_neg same, if_neg same]
        rfl

/-- No more ids are handed out than there are. -/
theorem issued_le_capacity {allocator : IdAllocator} (sound : allocator.Sound)
    (category : Category) : allocator.issued category ≤ allocator.space.capacity category := by
  unfold issued
  cases opened : allocator.opened? category with
  | none => exact Nat.zero_le _
  | some ids =>
    obtain ⟨declared, -, within⟩ := sound category ids opened
    rw [IdSpace.capacity, declared]
    show ids.next - ids.range.start ≤ ids.range.stop - ids.range.start
    omega

/-- A request that fails finds the band of the category used up, or finds none. -/
theorem capacity_le_issued {allocator : IdAllocator} (sound : allocator.Sound) {category : Category}
    {cause : IdError} (h : allocator.next category = .error cause) :
    allocator.space.capacity category ≤ allocator.issued category := by
  rcases sound.next_cases category with
    ⟨undeclared, -⟩ | ⟨ids, declared, reached, ⟨full, -⟩ | ⟨-, gives⟩⟩
  · rw [IdSpace.capacity, undeclared]
    exact Nat.zero_le _
  · rw [IdSpace.capacity, declared]
    show ids.range.stop - ids.range.start ≤ _
    omega
  · rw [gives] at h
    cases h

/-- A request that finds the band used up names the category and the width of its band. -/
theorem next_eq_exhausted {allocator : IdAllocator} (sound : allocator.Sound)
    {category other : Category} {width : Nat}
    (h : allocator.next category = .error (.exhausted other width)) :
    other = category ∧ width = allocator.space.capacity category := by
  rcases sound.next_cases category with
    ⟨-, fails⟩ | ⟨ids, declared, -, ⟨-, fails⟩ | ⟨-, gives⟩⟩
  · rw [fails] at h
    cases h
  · rw [fails] at h
    cases h
    rw [IdSpace.capacity, declared]
    exact ⟨rfl, rfl⟩
  · rw [gives] at h
    cases h

end IdAllocator

end ContentFilter
