import ContentFilter.Regex.Search

/-!
# Rounds of a search

A search takes sets of positions to sets of positions.  `Follows` says that such a function leads along
a relation between positions; repeating the function then leads along as many steps of the relation,
and as many rounds as there are positions reach whatever can be reached.
-/

namespace ContentFilter

namespace Marks

/-- The position is in the set. -/
def Has (marks : Marks) (i : Nat) : Prop := marks[i]? = some true

theorem Has.lt {marks : Marks} {i : Nat} (h : marks.Has i) : i < marks.length :=
  (List.getElem?_eq_some_iff.1 h).1

theorem any_iff {marks : Marks} : marks.any ↔ ∃ i, marks.Has i := by
  simp [Marks.any, Has, List.mem_iff_getElem?]

theorem length_union {a b : Marks} (h : a.length = b.length) : (a.union b).length = a.length := by
  simp [Marks.union, h]

theorem has_union {a b : Marks} (h : a.length = b.length) {i : Nat} :
    (a.union b).Has i ↔ a.Has i ∨ b.Has i := by
  simp only [Has, Marks.union, List.getElem?_zipWith]
  by_cases inside : i < a.length
  · rw [List.getElem?_eq_getElem inside, List.getElem?_eq_getElem (h ▸ inside)]
    simp
  · rw [List.getElem?_eq_none (Nat.le_of_not_lt inside),
      List.getElem?_eq_none (h ▸ Nat.le_of_not_lt inside)]
    simp

theorem subset_iff {a b : Marks} (h : a.length = b.length) :
    a.subset b ↔ ∀ i, a.Has i → b.Has i := by
  induction a generalizing b with
  | nil => simp [Marks.subset, Has]
  | cons x a ih =>
    cases b with
    | nil => simp at h
    | cons y b =>
      have rest := ih (b := b) (by simpa using h)
      simp only [Marks.subset, List.zipWith_cons_cons, List.all_cons, Bool.and_eq_true] at rest ⊢
      rw [rest]
      constructor
      · rintro ⟨first, later⟩ i has
        cases i with
        | zero =>
          simp only [Has, List.getElem?_cons_zero, Option.some.injEq] at has ⊢
          simpa [has] using first
        | succ i => exact later i has
      · intro sub
        refine ⟨?_, fun i has => sub (i + 1) has⟩
        have := sub 0
        simp only [Has, List.getElem?_cons_zero, Option.some.injEq] at this
        cases x <;> simp_all

/-- How many positions are not in the set. -/
def missing (marks : Marks) : Nat := marks.count false

theorem missing_union_lt {a b : Marks} (h : a.length = b.length) {i : Nat} (has : b.Has i)
    (new : ¬ a.Has i) : (a.union b).missing < a.missing := by
  have le : ∀ {a b : Marks}, a.length = b.length → (a.union b).missing ≤ a.missing := by
    intro a
    induction a with
    | nil => simp [Marks.union, missing]
    | cons x a ih =>
      intro b h
      cases b with
      | nil => simp at h
      | cons y b =>
        have := ih (b := b) (by simpa using h)
        simp only [Marks.union, missing, List.zipWith_cons_cons, List.count_cons] at this ⊢
        cases x <;> cases y <;> simp <;> omega
  induction a generalizing b i with
  | nil =>
    cases b with
    | nil => simp [Has] at has
    | cons => simp at h
  | cons x a ih =>
    cases b with
    | nil => simp at h
    | cons y b =>
      have lengths : a.length = b.length := by simpa using h
      cases i with
      | zero =>
        have := le lengths
        simp only [Has, List.getElem?_cons_zero, Option.some.injEq] at has new
        simp only [Marks.union, missing, List.zipWith_cons_cons, List.count_cons] at this ⊢
        subst has
        cases x with
        | true => exact absurd rfl new
        | false => exact Nat.lt_succ_of_le this
      | succ i =>
        have := ih lengths has new
        simp only [Marks.union, missing, List.zipWith_cons_cons, List.count_cons] at this ⊢
        cases x <;> cases y <;> simp <;> omega

end Marks

/-! ## Rounds of a relation -/

/-- `n` steps of a relation, one after another. -/
def Rounds (R : Nat → Nat → Prop) : Nat → Nat → Nat → Prop
  | 0, i, j => i = j
  | n + 1, i, j => ∃ k, R i k ∧ Rounds R n k j

/-- On sets of positions below `size`, the function leads along the relation. -/
def Follows (size : Nat) (f : Marks → Marks) (R : Nat → Nat → Prop) : Prop :=
  ∀ marks, marks.length = size →
    (f marks).length = size ∧ ∀ j, (f marks).Has j ↔ ∃ i, marks.Has i ∧ R i j

namespace Follows

variable {size : Nat} {f : Marks → Marks} {R : Nat → Nat → Prop}

/-- A set that no step leaves holds whatever rounds lead to from it. -/
theorem has_of_rounds {marks : Marks} (closed : ∀ i j, marks.Has i → R i j → marks.Has j)
    {n i j : Nat} (has : marks.Has i) (rounds : Rounds R n i j) : marks.Has j := by
  induction n generalizing i with
  | zero => exact rounds ▸ has
  | succ n ih =>
    obtain ⟨k, step, rounds⟩ := rounds
    exact ih (closed i k has step) rounds

/-- Rounds lead from a set that a step maps to itself to just this set. -/
theorem has_iff_rounds_of_eq (follows : Follows size f R) {marks : Marks}
    (length : marks.length = size) (fixed : f marks = marks) (n j : Nat) :
    marks.Has j ↔ ∃ i, marks.Has i ∧ Rounds R n i j := by
  have step := (follows marks length).2
  rw [fixed] at step
  induction n generalizing j with
  | zero => simp [Rounds]
  | succ n ih =>
    constructor
    · intro has
      obtain ⟨k, hasK, rounds⟩ := (ih j).1 has
      obtain ⟨i, hasI, first⟩ := (step k).1 hasK
      exact ⟨i, hasI, k, first, rounds⟩
    · rintro ⟨i, has, k, first, rounds⟩
      exact (ih j).2 ⟨k, (step k).2 ⟨i, has, first⟩, rounds⟩

theorem iterate (follows : Follows size f R) (n : Nat) :
    Follows size (Regex.iterate f n) (Rounds R n) := by
  induction n with
  | zero => intro marks length; simp [Regex.iterate, Rounds, length]
  | succ n ih =>
    intro marks length
    obtain ⟨lengthNext, hasNext⟩ := follows marks length
    obtain ⟨lengthRest, hasRest⟩ := ih (f marks) lengthNext
    simp only [Regex.iterate]
    split
    · rename_i fixed
      exact ⟨length, follows.has_iff_rounds_of_eq length (eq_of_beq fixed) (n + 1)⟩
    · refine ⟨lengthRest, fun j => (hasRest j).trans ?_⟩
      constructor
      · rintro ⟨k, has, rounds⟩
        obtain ⟨i, has, step⟩ := (hasNext k).1 has
        exact ⟨i, has, k, step, rounds⟩
      · rintro ⟨i, has, k, step, rounds⟩
        exact ⟨k, (hasNext k).2 ⟨i, has, step⟩, rounds⟩

theorem closure (follows : Follows size f R) (n : Nat) :
    Follows size (Regex.closure f n) (fun i j => ∃ m ≤ n, Rounds R m i j) := by
  induction n with
  | zero =>
    intro marks length
    refine ⟨length, fun j => ?_⟩
    constructor
    · intro has
      exact ⟨j, has, 0, Nat.le_refl 0, rfl⟩
    · rintro ⟨i, has, m, le, rounds⟩
      obtain rfl : m = 0 := by omega
      exact rounds ▸ has
  | succ n ih =>
    intro marks length
    obtain ⟨lengthNext, hasNext⟩ := follows marks length
    have lengths : marks.length = (f marks).length := length.trans lengthNext.symm
    simp only [Regex.closure]
    split
    · rename_i sub
      rw [Marks.subset_iff lengths.symm] at sub
      refine ⟨length, fun j => ⟨fun has => ⟨j, has, 0, Nat.zero_le _, rfl⟩, ?_⟩⟩
      rintro ⟨i, has, m, _, rounds⟩
      exact has_of_rounds (fun i j has step => sub j ((hasNext j).2 ⟨i, has, step⟩)) has rounds
    · obtain ⟨lengthRest, hasRest⟩ :=
        ih (marks.union (f marks)) ((Marks.length_union lengths).trans length)
      refine ⟨lengthRest, fun j => (hasRest j).trans ?_⟩
      constructor
      · rintro ⟨i, has, m, le, rounds⟩
        rcases (Marks.has_union lengths).1 has with has | has
        · exact ⟨i, has, m, by omega, rounds⟩
        · obtain ⟨h, has, step⟩ := (hasNext i).1 has
          exact ⟨h, has, m + 1, by omega, i, step, rounds⟩
      · rintro ⟨i, has, m, le, rounds⟩
        cases m with
        | zero => exact ⟨i, (Marks.has_union lengths).2 (.inl has), 0, Nat.zero_le n, rounds⟩
        | succ m =>
          obtain ⟨k, step, rounds⟩ := rounds
          exact ⟨k, (Marks.has_union lengths).2 (.inr ((hasNext k).2 ⟨i, has, step⟩)), m, by omega,
            rounds⟩

theorem has_closure_of_missing_le (follows : Follows size f R) {n : Nat} {marks : Marks}
    (length : marks.length = size) (enough : marks.missing ≤ n) {m i j : Nat} (has : marks.Has i)
    (rounds : Rounds R m i j) : (Regex.closure f n marks).Has j := by
  induction n generalizing marks m i with
  | zero =>
    have full : ∀ k, k < marks.length → marks.Has k := fun k inside => by
      have none : false ∉ marks := by
        simpa [Marks.missing, List.count_eq_zero] using enough
      have : marks[k] ≠ false := fun h => none (h ▸ List.getElem_mem inside)
      simp [Marks.Has, List.getElem?_eq_getElem inside, this]
    have closed : ∀ i j, marks.Has i → R i j → marks.Has j := fun i j has step => by
      have reached := ((follows marks length).2 j).2 ⟨i, has, step⟩
      exact full j (length ▸ (follows marks length).1 ▸ reached.lt)
    exact has_of_rounds closed has rounds
  | succ n ih =>
    obtain ⟨lengthNext, hasNext⟩ := follows marks length
    have lengths : marks.length = (f marks).length := length.trans lengthNext.symm
    simp only [Regex.closure]
    split
    · rename_i sub
      rw [Marks.subset_iff lengths.symm] at sub
      exact has_of_rounds (fun i j has step => sub j ((hasNext j).2 ⟨i, has, step⟩)) has rounds
    · rename_i new
      rw [Marks.subset_iff lengths.symm] at new
      obtain ⟨k, hasK, newK⟩ : ∃ k, (f marks).Has k ∧ ¬ marks.Has k := by
        simpa [Classical.not_forall] using new
      have fewer := Marks.missing_union_lt lengths hasK newK
      exact ih ((Marks.length_union lengths).trans length) (by omega)
        ((Marks.has_union lengths).2 (.inl has)) rounds

/-- As many rounds as there are positions reach whatever can be reached. -/
theorem closure_size (follows : Follows size f R) :
    Follows size (Regex.closure f size) (fun i j => ∃ m, Rounds R m i j) := by
  intro marks length
  obtain ⟨lengthClosed, hasClosed⟩ := follows.closure size marks length
  refine ⟨lengthClosed, fun j => ⟨fun has => ?_, ?_⟩⟩
  · obtain ⟨i, has, m, _, rounds⟩ := (hasClosed j).1 has
    exact ⟨i, has, m, rounds⟩
  · rintro ⟨i, has, m, rounds⟩
    exact follows.has_closure_of_missing_le length
      (length ▸ List.count_le_length) has rounds

end Follows

end ContentFilter
