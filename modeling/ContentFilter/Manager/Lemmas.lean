import Mathlib.Data.List.Nodup
import ContentFilter.Manager

/-!
# Laws of operations on what is stored

When an operation on the stored lists and rules is accepted, and the manager that it leaves.
-/

namespace ContentFilter.Manager

/-- A key that is distinct everywhere is one that no entry on either side has. -/
theorem nodup_map_middle {α γ : Type} {key : α → γ} {front back : List α} {entry : α} :
    ((front ++ entry :: back).map key).Nodup ↔
      ((front ++ back).map key).Nodup ∧ ∀ other ∈ front ++ back, key other ≠ key entry := by
  rw [List.map_append, List.map_cons, List.nodup_middle, List.nodup_cons, ← List.map_append, and_comm,
    List.mem_map, not_exists]
  simp only [not_and, ne_eq]

variable {β : Type} {manager after : Manager β}

/-- The lists of an id are removed if there are any. -/
theorem removeList?_eq_some_iff {id : String} :
    manager.removeList? id = some after ↔
      (∃ cached ∈ manager.lists, cached.list.id = id) ∧
        after = { manager with lists := manager.lists.filter (·.list.id != id) } := by
  unfold removeList?
  dsimp only
  rw [Option.ite_none_left_eq_some, List.length_filter_eq_length_iff, Option.some.injEq,
    eq_comm (b := after)]
  simp

/-- Whether or not there is a list of the id, there is none afterwards. -/
theorem getD_removeList? (manager : Manager β) (id : String) :
    (manager.removeList? id).getD manager =
      { manager with lists := manager.lists.filter (·.list.id != id) } := by
  unfold removeList?
  dsimp only
  split
  · rename_i same
    rw [List.filter_eq_self.2 (List.length_filter_eq_length_iff.1 same)]
    rfl
  · rfl

/-- A rule is added if it can be read as a filter, and it is put behind the others. -/
theorem addCustomRule_eq_ok_iff {pattern : String} {action : RuleAction} {now : Nat}
    {rule : CustomRule} :
    manager.addCustomRule pattern action now = .ok (rule, after) ↔
      rule = ⟨manager.nextCustomRuleId now, String.ofList (Text.trim pattern.toList), action, now⟩ ∧
        rule.toFilter?.isSome ∧
        after = { manager with customRules := manager.customRules ++ [rule] } := by
  unfold addCustomRule
  dsimp only
  split
  · rename_i filter read
    rw [Except.ok.injEq, Prod.mk.injEq]
    constructor
    · rintro ⟨rfl, rfl⟩
      exact ⟨rfl, Option.isSome_of_eq_some read, rfl⟩
    · rintro ⟨rfl, -, rfl⟩
      exact ⟨rfl, rfl⟩
  · rename_i unread
    constructor
    · intro impossible
      cases impossible
    · rintro ⟨rfl, read, -⟩
      rw [unread] at read
      cases read

/-- The custom rules of an id are removed if there are any. -/
theorem removeCustomRule?_eq_some_iff {id : Nat} :
    manager.removeCustomRule? id = some after ↔
      (∃ rule ∈ manager.customRules, rule.id = id) ∧
        after = { manager with customRules := manager.customRules.filter (·.id != id) } := by
  unfold removeCustomRule?
  dsimp only
  rw [Option.ite_none_left_eq_some, List.length_filter_eq_length_iff, Option.some.injEq,
    eq_comm (b := after)]
  simp

end ContentFilter.Manager
