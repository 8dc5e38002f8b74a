import ContentFilter.RuleTable

/-!
# Laws of rule tables

What is found in a table after each operation.  A table is determined by what is found in it.
-/

namespace ContentFilter.RuleTable

theorem find?_insertInto {rule : CompiledRule} {rules : List CompiledRule}
    (h : rules.Pairwise fun a b => a.id < b.id) (id : Nat) :
    (insertInto rule rules).find? (·.id == id) =
      if rule.id = id then some rule else rules.find? (·.id == id) := by
  induction rules with
  | nil => by_cases same : rule.id = id <;> simp [insertInto, same]
  | cons head rest ih =>
    have tail := ih (List.Pairwise.of_cons h)
    simp only [insertInto]
    split
    · by_cases same : rule.id = id <;> simp [same]
    · split
      · rename_i same
        by_cases wanted : rule.id = id
        · simp [wanted]
        · simp [wanted, ← same]
      · rename_i notSame
        by_cases here : head.id = id
        · have other : rule.id ≠ id := fun wanted => notSame (wanted.trans here.symm)
          simp [here, other]
        · simp only [List.find?_cons, beq_eq_false_iff_ne.2 here, tail]

@[simp] theorem get?_empty (id : Nat) : empty.get? id = none := rfl

/-- The inserted rule is found under its id, and nothing else changes. -/
@[simp] theorem get?_insert (table : RuleTable) (rule : CompiledRule) (id : Nat) :
    (table.insert rule).get? id = if rule.id = id then some rule else table.get? id :=
  find?_insertInto table.ordered id

/-- Under an erased id there is no rule, and nothing else changes. -/
@[simp] theorem get?_erase (table : RuleTable) (ids : List Nat) (id : Nat) :
    (table.erase ids).get? id = if id ∈ ids then none else table.get? id := by
  simp only [get?, erase, List.find?_filter]
  by_cases erased : id ∈ ids
  · simp only [erased, if_true, List.find?_eq_none]
    intro rule _ found
    simp at found
    exact found.1 (found.2 ▸ erased)
  · simp only [erased, if_false]
    congr 1
    funext rule
    by_cases same : rule.id = id
    · simp [same, erased]
    · simp [same]

/-- The last rule of an id in the list is found, and else what was there before. -/
theorem get?_insertAll (table : RuleTable) (rules : List CompiledRule) (id : Nat) :
    (table.insertAll rules).get? id = (rules.reverse.find? (·.id == id)).or (table.get? id) := by
  induction rules generalizing table with
  | nil => rfl
  | cons head rest ih =>
    have next : table.insertAll (head :: rest) = (table.insert head).insertAll rest := rfl
    rw [next, ih, get?_insert, List.reverse_cons, List.find?_append, Option.or_assoc]
    by_cases same : head.id = id <;> simp [same]

theorem find?_eq_some_of_mem {rules : List CompiledRule}
    (ordered : rules.Pairwise fun a b => a.id < b.id) {rule : CompiledRule} (h : rule ∈ rules) :
    rules.find? (·.id == rule.id) = some rule := by
  induction rules with
  | nil => simp at h
  | cons head rest ih =>
    rcases List.mem_cons.1 h with rfl | later
    · simp
    · have below : head.id < rule.id := List.rel_of_pairwise_cons ordered later
      rw [List.find?_cons_of_neg (by simp; omega)]
      exact ih (List.Pairwise.of_cons ordered) later

/-- A rule is found under an id if it is in the table and has this id. -/
theorem get?_eq_some_iff {table : RuleTable} {id : Nat} {rule : CompiledRule} :
    table.get? id = some rule ↔ rule ∈ table.rules ∧ rule.id = id := by
  constructor
  · intro found
    exact ⟨List.mem_of_find?_eq_some found, by simpa using List.find?_some found⟩
  · rintro ⟨member, rfl⟩
    exact find?_eq_some_of_mem table.ordered member

theorem contains_eq_isSome (table : RuleTable) (id : Nat) :
    table.contains id = (table.get? id).isSome := by
  simp [contains, get?, List.isSome_find?]

/-- Lists in the order of the ids with the same members are equal. -/
theorem eq_of_mem_iff {a b : List CompiledRule} (orderedA : a.Pairwise fun a b => a.id < b.id)
    (orderedB : b.Pairwise fun a b => a.id < b.id) (h : ∀ rule, rule ∈ a ↔ rule ∈ b) : a = b := by
  induction a generalizing b with
  | nil =>
    cases b with
    | nil => rfl
    | cons first _ => exact absurd ((h first).2 List.mem_cons_self) List.not_mem_nil
  | cons head rest ih =>
    cases b with
    | nil => exact absurd ((h head).1 List.mem_cons_self) List.not_mem_nil
    | cons first others =>
      have aboveHead : ∀ rule ∈ rest, head.id < rule.id :=
        fun _ => List.rel_of_pairwise_cons orderedA
      have aboveFirst : ∀ rule ∈ others, first.id < rule.id :=
        fun _ => List.rel_of_pairwise_cons orderedB
      have same : head = first := by
        rcases List.mem_cons.1 ((h head).1 List.mem_cons_self) with same | later
        · exact same
        · rcases List.mem_cons.1 ((h first).2 List.mem_cons_self) with same | other
          · exact same.symm
          · have := aboveFirst head later
            have := aboveHead first other
            omega
      subst same
      congr 1
      refine ih (List.Pairwise.of_cons orderedA) (List.Pairwise.of_cons orderedB) fun rule => ?_
      constructor
      · intro member
        rcases List.mem_cons.1 ((h rule).1 (List.mem_cons_of_mem _ member)) with rfl | found
        · exact absurd (aboveHead _ member) (Nat.lt_irrefl _)
        · exact found
      · intro member
        rcases List.mem_cons.1 ((h rule).2 (List.mem_cons_of_mem _ member)) with rfl | found
        · exact absurd (aboveFirst _ member) (Nat.lt_irrefl _)
        · exact found

/-- A table is determined by what is found in it. -/
theorem eq_of_get?_eq {a b : RuleTable} (h : ∀ id, a.get? id = b.get? id) : a = b := by
  have same : a.rules = b.rules := eq_of_mem_iff a.ordered b.ordered fun rule => by
    have found : a.get? rule.id = some rule ↔ b.get? rule.id = some rule := by rw [h]
    simpa only [get?_eq_some_iff, and_true] using found
  cases a
  cases b
  cases same
  rfl

end ContentFilter.RuleTable
