import ContentFilter.RuleTable.Lemmas

/-!
# Members of rule tables

Which rules a table holds after each operation, and how many.  Rules with different ids can be counted
and told apart by their ids.
-/

namespace ContentFilter

/-- Items that are kept apart by a key are as many as those of two parts that make them up. -/
theorem length_eq_add_of_mem_iff {α : Type} {a b c : List α} (whole : a.Nodup) (left : b.Nodup)
    (right : c.Nodup) (apart : ∀ x ∈ b, x ∉ c) (h : ∀ x, x ∈ a ↔ x ∈ b ∨ x ∈ c) :
    a.length = b.length + c.length := by
  have parts : (b ++ c).Nodup := by
    rw [List.nodup_append]
    refine ⟨left, right, fun x first y second same => ?_⟩
    exact apart x first (same ▸ second)
  have permuted : a.Perm (b ++ c) := by
    rw [List.perm_ext_iff_of_nodup whole parts]
    intro x
    rw [h, List.mem_append]
  rw [permuted.length_eq, List.length_append]

/-- Rules in the order of their ids. -/
def sortById (rules : List CompiledRule) : List CompiledRule :=
  rules.mergeSort fun a b => a.id ≤ b.id

theorem mem_sortById_iff {rules : List CompiledRule} {rule : CompiledRule} :
    rule ∈ sortById rules ↔ rule ∈ rules :=
  List.mem_mergeSort

theorem length_sortById (rules : List CompiledRule) : (sortById rules).length = rules.length :=
  List.length_mergeSort rules

/-- Rules with different ids come out in the strict order of the ids. -/
theorem pairwise_sortById {rules : List CompiledRule} (distinct : (rules.map (·.id)).Nodup) :
    (sortById rules).Pairwise fun a b => a.id < b.id := by
  have weak : (sortById rules).Pairwise fun a b => a.id ≤ b.id := by
    have ordered := @List.pairwise_mergeSort _ (fun a b : CompiledRule => decide (a.id ≤ b.id))
      (fun a b c => by simpa using Nat.le_trans) (fun a b => by simpa using Nat.le_total a.id b.id)
      rules
    exact ordered.imp fun below => by simpa using below
  have different : (sortById rules).Pairwise fun a b => a.id ≠ b.id := by
    have still : ((sortById rules).map (·.id)).Nodup :=
      ((List.mergeSort_perm rules _).map _).nodup_iff.2 distinct
    rw [List.nodup_iff_pairwise_ne, List.pairwise_map] at still
    exact still
  exact (weak.and different).imp fun order => Nat.lt_of_le_of_ne order.1 order.2

theorem sortById_eq_self {rules : List CompiledRule}
    (ordered : rules.Pairwise fun a b => a.id < b.id) : sortById rules = rules := by
  apply List.mergeSort_of_pairwise
  exact ordered.imp fun below => decide_eq_true (Nat.le_of_lt below)

namespace RuleTable

/-- Among rules with different ids, the rule of an id is found. -/
theorem find?_eq_some_iff_of_nodup {rules : List CompiledRule} (distinct : (rules.map (·.id)).Nodup)
    {id : Nat} {rule : CompiledRule} :
    rules.find? (·.id == id) = some rule ↔ rule ∈ rules ∧ rule.id = id := by
  constructor
  · intro found
    exact ⟨List.mem_of_find?_eq_some found, by simpa using List.find?_some found⟩
  · intro given
    obtain ⟨member, rfl⟩ := given
    induction rules with
    | nil => cases member
    | cons head rest ih =>
      rw [List.map_cons, List.nodup_cons] at distinct
      rcases List.mem_cons.1 member with rfl | later
      · simp
      · have other : head.id ≠ rule.id := by
          intro same
          exact distinct.1 (same ▸ List.mem_map_of_mem later)
        rw [List.find?_cons_of_neg (by simpa using other)]
        exact ih distinct.2 later

theorem eq_of_id_eq {rules : List CompiledRule} (distinct : (rules.map (·.id)).Nodup)
    {a b : CompiledRule} (first : a ∈ rules) (second : b ∈ rules) (same : a.id = b.id) : a = b := by
  have found := (find?_eq_some_iff_of_nodup distinct).2 ⟨first, same⟩
  rw [(find?_eq_some_iff_of_nodup distinct).2 ⟨second, rfl⟩] at found
  exact (Option.some.inj found).symm

theorem nodup_of_nodup_ids {rules : List CompiledRule} (distinct : (rules.map (·.id)).Nodup) :
    rules.Nodup := by
  rw [List.nodup_iff_pairwise_ne, List.pairwise_map] at distinct
  exact distinct.imp fun other same => other (congrArg CompiledRule.id same)

theorem nodup_ids_of_pairwise {rules : List CompiledRule}
    (ordered : rules.Pairwise fun a b => a.id < b.id) : (rules.map (·.id)).Nodup := by
  rw [List.nodup_iff_pairwise_ne, List.pairwise_map]
  exact ordered.imp Nat.ne_of_lt

theorem nodup_ids (table : RuleTable) : (table.rules.map (·.id)).Nodup :=
  nodup_ids_of_pairwise table.ordered

theorem nodup_rules (table : RuleTable) : table.rules.Nodup := nodup_of_nodup_ids table.nodup_ids

theorem mem_rules_iff {table : RuleTable} {rule : CompiledRule} :
    rule ∈ table.rules ↔ table.get? rule.id = some rule := by
  rw [get?_eq_some_iff, and_iff_left rfl]

theorem mem_erase_iff {table : RuleTable} {ids : List Nat} {rule : CompiledRule} :
    rule ∈ (table.erase ids).rules ↔ rule ∈ table.rules ∧ rule.id ∉ ids := by
  simp [erase]

theorem mem_ofRules_iff {rules : List CompiledRule} (distinct : (rules.map (·.id)).Nodup)
    {rule : CompiledRule} : rule ∈ (ofRules rules).rules ↔ rule ∈ rules := by
  have backwards : (rules.reverse.map (·.id)).Nodup :=
    ((List.reverse_perm rules).map _).nodup_iff.2 distinct
  rw [mem_rules_iff, ofRules, get?_insertAll, get?_empty, Option.or_none,
    find?_eq_some_iff_of_nodup backwards, List.mem_reverse, and_iff_left rfl]

@[simp] theorem ofRules_rules (table : RuleTable) : ofRules table.rules = table := by
  have same : (ofRules table.rules).rules = table.rules :=
    eq_of_mem_iff (ofRules table.rules).ordered table.ordered
      fun _ => mem_ofRules_iff table.nodup_ids
  cases table
  cases h : ofRules _
  rw [h] at same
  cases same
  rfl

/-- Rules with new ids go beside those of the table. -/
theorem mem_insertAll_iff {table : RuleTable} {rules : List CompiledRule}
    (distinct : (rules.map (·.id)).Nodup) (free : ∀ rule ∈ rules, table.get? rule.id = none)
    {rule : CompiledRule} :
    rule ∈ (table.insertAll rules).rules ↔ rule ∈ rules ∨ rule ∈ table.rules := by
  have backwards : (rules.reverse.map (·.id)).Nodup :=
    ((List.reverse_perm rules).map _).nodup_iff.2 distinct
  rw [mem_rules_iff, get?_insertAll, Option.or_eq_some_iff,
    find?_eq_some_iff_of_nodup backwards, List.mem_reverse, and_iff_left rfl, mem_rules_iff]
  constructor
  · intro given
    rcases given with member | ⟨-, found⟩
    · exact .inl member
    · exact .inr found
  · intro given
    rcases given with member | found
    · exact .inl member
    · refine .inr ⟨?_, found⟩
      rw [List.find?_eq_none]
      intro other member same
      rw [List.mem_reverse] at member
      rw [beq_iff_eq] at same
      have absent := free other member
      rw [same, found] at absent
      cases absent

theorem size_insertAll {table : RuleTable} {rules : List CompiledRule}
    (distinct : (rules.map (·.id)).Nodup) (free : ∀ rule ∈ rules, table.get? rule.id = none) :
    (table.insertAll rules).size = table.size + rules.length := by
  rw [Nat.add_comm]
  apply length_eq_add_of_mem_iff (nodup_rules _) (nodup_of_nodup_ids distinct) table.nodup_rules
  · intro rule member installed
    rw [mem_rules_iff, free rule member] at installed
    cases installed
  · intro rule
    exact mem_insertAll_iff distinct free

/-- The rules of a table that have one of some ids are as many as these ids. -/
theorem length_filter_contains {table : RuleTable} {ids : List Nat} (distinct : ids.Nodup)
    (present : ∀ id ∈ ids, ∃ rule ∈ table.rules, rule.id = id) :
    (table.rules.filter fun rule => ids.contains rule.id).length = ids.length := by
  have permuted : ((table.rules.filter fun rule => ids.contains rule.id).map (·.id)).Perm ids := by
    rw [List.perm_ext_iff_of_nodup (table.nodup_ids.sublist (List.filter_sublist.map _)) distinct]
    intro id
    rw [List.mem_map]
    constructor
    · intro given
      obtain ⟨rule, member, rfl⟩ := given
      exact List.contains_iff_mem.1 (List.mem_filter.1 member).2
    · intro listed
      obtain ⟨rule, installed, rfl⟩ := present id listed
      exact ⟨rule, List.mem_filter.2 ⟨installed, List.contains_iff_mem.2 listed⟩, rfl⟩
  rw [← permuted.length_eq, List.length_map]

theorem size_erase_le (table : RuleTable) (ids : List Nat) : (table.erase ids).size ≤ table.size :=
  List.length_filter_le _ _

end RuleTable

end ContentFilter
