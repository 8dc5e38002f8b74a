import ContentFilter.Rule

/-!
# Rule tables

Rules by their ids, at most one of each.  A table lists its rules in the order of the ids, so equal
sets of rules are equal tables.  Inserting a rule replaces the one that has its id.
-/

namespace ContentFilter

/-- Rules with different ids, in the order of the ids. -/
structure RuleTable where
  rules : List CompiledRule
  ordered : rules.Pairwise fun a b => a.id < b.id

namespace RuleTable

/-- The list with a rule put in its place, where it replaces a rule of the same id. -/
def insertInto (rule : CompiledRule) : List CompiledRule → List CompiledRule
  | [] => [rule]
  | head :: rest =>
    if rule.id < head.id then rule :: head :: rest
    else if rule.id = head.id then rule :: rest
    else head :: insertInto rule rest

theorem mem_of_mem_insertInto {rule other : CompiledRule} {rules : List CompiledRule}
    (h : other ∈ insertInto rule rules) : other = rule ∨ other ∈ rules := by
  induction rules with
  | nil => simpa [insertInto] using h
  | cons head rest ih =>
    simp only [insertInto] at h
    split at h
    · simpa using h
    · split at h
      · rcases List.mem_cons.1 h with h | h
        · exact .inl h
        · exact .inr (List.mem_cons_of_mem _ h)
      · rcases List.mem_cons.1 h with h | h
        · exact .inr (h ▸ List.mem_cons_self)
        · exact (ih h).imp_right (List.mem_cons_of_mem _)

theorem pairwise_insertInto {rule : CompiledRule} {rules : List CompiledRule}
    (h : rules.Pairwise fun a b => a.id < b.id) :
    (insertInto rule rules).Pairwise fun a b => a.id < b.id := by
  induction rules with
  | nil => simp [insertInto]
  | cons head rest ih =>
    have above : ∀ other ∈ rest, head.id < other.id := fun _ => List.rel_of_pairwise_cons h
    have tail := List.Pairwise.of_cons h
    simp only [insertInto]
    split
    · rename_i below
      refine List.Pairwise.cons (fun other member => ?_) h
      rcases List.mem_cons.1 member with rfl | member
      · exact below
      · exact Nat.lt_trans below (above other member)
    · split
      · rename_i same
        exact List.Pairwise.cons (fun other member => same ▸ above other member) tail
      · rename_i notBelow notSame
        refine List.Pairwise.cons (fun other member => ?_) (ih tail)
        rcases mem_of_mem_insertInto member with rfl | member
        · omega
        · exact above other member

/-- The table without rules. -/
def empty : RuleTable := ⟨[], .nil⟩

/-- The table with a rule, in place of the one that has its id. -/
def insert (table : RuleTable) (rule : CompiledRule) : RuleTable :=
  ⟨insertInto rule table.rules, pairwise_insertInto table.ordered⟩

/-- The table without the rules that have one of the ids. -/
def erase (table : RuleTable) (ids : List Nat) : RuleTable :=
  ⟨table.rules.filter fun rule => !ids.contains rule.id, table.ordered.filter _⟩

/-- The table with all rules of a list; of several that share an id the last one counts. -/
def insertAll (table : RuleTable) (rules : List CompiledRule) : RuleTable :=
  rules.foldl insert table

/-- The table of a list of rules. -/
def ofRules (rules : List CompiledRule) : RuleTable := empty.insertAll rules

/-- The rule of an id. -/
def get? (table : RuleTable) (id : Nat) : Option CompiledRule :=
  table.rules.find? (·.id == id)

/-- Whether there is a rule of this id. -/
def contains (table : RuleTable) (id : Nat) : Bool := table.rules.any (·.id == id)

/-- How many rules there are. -/
def size (table : RuleTable) : Nat := table.rules.length

end RuleTable

end ContentFilter
