import ContentFilter.Proofs.Backend.Refusal
import ContentFilter.Sync.Lemmas

/-!
# Plans after a part of the work

A plan consists of the installed rules that the target does not have, and of the rules of the target
that are not installed.  Behind a call of a plan, the plan to the same target is what is left of it: a
run that starts over does not undo or repeat anything.
-/

namespace ContentFilter

/-- Leaving out the first items by their keys leaves the others. -/
theorem filter_not_mem_take {α κ : Type} [BEq κ] [LawfulBEq κ] {key : α → κ} {items : List α}
    (distinct : (items.map key).Nodup) (n : Nat) :
    (items.filter fun item => !((items.map key).take n).contains (key item)) = items.drop n := by
  have parts := distinct
  rw [← List.take_append_drop n (items.map key), List.nodup_append] at parts
  obtain ⟨-, -, apart⟩ := parts
  conv =>
    lhs
    rw [← List.take_append_drop n items]
  rw [List.filter_append]
  have gone : ((items.take n).filter fun item =>
      !(((items.take n ++ items.drop n).map key).take n).contains (key item)) = [] := by
    rw [List.take_append_drop, List.filter_eq_nil_iff]
    intro item member
    have named : key item ∈ (items.map key).take n := by
      rw [← List.map_take]
      exact List.mem_map_of_mem member
    rw [List.contains_iff_mem.2 named]
    exact Bool.false_ne_true
  have left : ((items.drop n).filter fun item =>
      !(((items.take n ++ items.drop n).map key).take n).contains (key item)) = items.drop n := by
    rw [List.take_append_drop, List.filter_eq_self]
    intro item member
    have named : key item ∈ (items.map key).drop n := by
      rw [← List.map_drop]
      exact List.mem_map_of_mem member
    rw [Bool.not_eq_true', ← Bool.not_eq_true, List.contains_iff_mem]
    intro early
    exact apart _ early _ named rfl
  rw [gone, left, List.nil_append]

attribute [ext] SyncPlan

namespace SyncPlan

/-- The first call of a plan removes as long as there is something to remove, and else it adds; the
other calls are those of the plan without these operations. -/
theorem batches_eq_cons {plan : SyncPlan} {maxBatch : Nat} {batch : SyncBatch}
    {rest : List SyncBatch} (h : plan.batches maxBatch = batch :: rest) :
    (plan.removals ≠ [] ∧ batch = ⟨[], plan.removals.take (max maxBatch 1)⟩ ∧
      rest = { plan with removals := plan.removals.drop (max maxBatch 1) }.batches maxBatch) ∨
    (plan.removals = [] ∧ plan.additions ≠ [] ∧
      batch = ⟨plan.additions.take (max maxBatch 1), []⟩ ∧
      rest = { plan with additions := plan.additions.drop (max maxBatch 1) }.batches maxBatch) := by
  unfold batches at h
  by_cases removed : plan.removals = []
  · rw [removed, chunks_nil, List.map_nil, List.nil_append] at h
    by_cases added : plan.additions = []
    · rw [added, chunks_nil, List.map_nil] at h
      cases h
    · rw [chunks_of_ne_nil added, List.map_cons, List.cons.injEq] at h
      refine .inr ⟨removed, added, h.1.symm, ?_⟩
      rw [batches, removed, chunks_nil, List.map_nil, List.nil_append]
      exact h.2.symm
  · rw [chunks_of_ne_nil removed, List.map_cons, List.cons_append, List.cons.injEq] at h
    exact .inl ⟨removed, h.1.symm, h.2.symm⟩

section Target

variable {target : List CompiledRule} (distinct : (target.map (·.id)).Nodup)
include distinct

theorem keeps_iff {rule : CompiledRule} : keeps target rule ↔ rule ∈ target := by
  rw [keeps, Bool.and_eq_true, List.any_eq_true, List.all_eq_true]
  constructor
  · intro given
    obtain ⟨⟨wanted, member, same⟩, only⟩ := given
    have agrees := only wanted member
    rw [Bool.or_eq_true, bne_iff_ne, beq_iff_eq] at agrees
    rw [beq_iff_eq] at same
    rcases agrees with other | agrees
    · exact absurd same other
    · exact agrees ▸ member
  · intro member
    refine ⟨⟨rule, member, beq_self_eq_true _⟩, fun wanted among => ?_⟩
    rw [Bool.or_eq_true, bne_iff_ne, beq_iff_eq]
    by_cases same : wanted.id = rule.id
    · exact .inr (RuleTable.eq_of_id_eq distinct among member same)
    · exact .inl same

theorem removals_diff (table : RuleTable) :
    (diff target table.rules).removals = (table.rules.filter (· ∉ target)).map (·.id) := by
  have kept (rule : CompiledRule) : (!keeps target rule) = decide (rule ∉ target) := by
    rw [Bool.eq_iff_iff, Bool.not_eq_true', ← Bool.not_eq_true, keeps_iff distinct,
      decide_eq_true_iff]
  simp only [diff, RuleTable.ofRules_rules, kept]

omit distinct in
theorem get?_beq_some (table : RuleTable) (rule : CompiledRule) :
    (table.get? rule.id == some rule) = decide (rule ∈ table.rules) := by
  rw [Bool.eq_iff_iff, beq_iff_eq, decide_eq_true_iff, RuleTable.mem_rules_iff]

omit distinct in
theorem additions_diff (table : RuleTable) :
    (diff target table.rules).additions = sortById (target.filter (· ∉ table.rules)) := by
  have missing : (not ∘ fun rule => decide (rule ∈ table.rules)) =
      fun rule => decide (rule ∉ table.rules) := by
    funext rule
    exact decide_not.symm
  simp only [diff, RuleTable.ofRules_rules, List.partition_eq_filter_filter, get?_beq_some, missing]
  rfl

omit distinct in
theorem unchanged_diff (table : RuleTable) :
    (diff target table.rules).unchanged = (target.filter (· ∈ table.rules)).length := by
  simp only [diff, RuleTable.ofRules_rules, List.partition_eq_filter_filter, get?_beq_some]

theorem mem_removals_iff {table : RuleTable} {id : Nat} :
    id ∈ (diff target table.rules).removals ↔ ∃ rule ∈ table.rules, rule ∉ target ∧ rule.id = id := by
  rw [removals_diff distinct, List.mem_map]
  constructor
  · intro given
    obtain ⟨rule, member, same⟩ := given
    rw [List.mem_filter, decide_eq_true_iff] at member
    exact ⟨rule, member.1, member.2, same⟩
  · intro given
    obtain ⟨rule, installed, unwanted, same⟩ := given
    exact ⟨rule, List.mem_filter.2 ⟨installed, decide_eq_true unwanted⟩, same⟩

/-- Of an installed rule, the id is removed just if the target does not have the rule. -/
theorem id_mem_removals_iff {table : RuleTable} {rule : CompiledRule} (installed : rule ∈ table.rules) :
    rule.id ∈ (diff target table.rules).removals ↔ rule ∉ target := by
  rw [mem_removals_iff distinct]
  constructor
  · intro given
    obtain ⟨other, among, unwanted, same⟩ := given
    rw [RuleTable.eq_of_id_eq table.nodup_ids installed among same.symm]
    exact unwanted
  · intro unwanted
    exact ⟨rule, installed, unwanted, rfl⟩

/-- Where nothing is removed, all installed rules are in the target. -/
theorem mem_target_of_removals_eq_nil {table : RuleTable}
    (removed : (diff target table.rules).removals = []) {rule : CompiledRule}
    (installed : rule ∈ table.rules) : rule ∈ target := by
  by_cases wanted : rule ∈ target
  · exact wanted
  · have listed := (id_mem_removals_iff distinct installed).2 wanted
    rw [removed] at listed
    cases listed

omit distinct in
theorem mem_additions_iff {table : RuleTable} {rule : CompiledRule} :
    rule ∈ (diff target table.rules).additions ↔ rule ∈ target ∧ rule ∉ table.rules := by
  rw [additions_diff, mem_sortById_iff, List.mem_filter, decide_eq_true_iff]

theorem nodup_removals (table : RuleTable) : (diff target table.rules).removals.Nodup := by
  rw [removals_diff distinct]
  exact table.nodup_ids.sublist (List.filter_sublist.map _)

theorem pairwise_additions (table : RuleTable) :
    (diff target table.rules).additions.Pairwise fun a b => a.id < b.id := by
  rw [additions_diff]
  exact pairwise_sortById (distinct.sublist (List.filter_sublist.map _))

omit distinct in
/-- What the target has is either installed or added. -/
theorem unchanged_add_length_additions (target : List CompiledRule) (table : RuleTable) :
    (diff target table.rules).unchanged + (diff target table.rules).additions.length =
      target.length := by
  rw [unchanged_diff, additions_diff, length_sortById, ← List.countP_eq_length_filter,
    ← List.countP_eq_length_filter,
    List.length_eq_countP_add_countP (fun rule => decide (rule ∈ table.rules))]
  simp only [decide_eq_true_eq]

/-- A target that has all installed rules is reached by adding the others. -/
theorem diff_of_subset {table : RuleTable} (kept : ∀ rule ∈ table.rules, rule ∈ target) :
    diff target table.rules =
      { removals := []
        additions := sortById (target.filter (· ∉ table.rules))
        unchanged := table.rules.length } := by
  ext1
  · show (diff target table.rules).removals = []
    rw [removals_diff distinct, List.map_eq_nil_iff, List.filter_eq_nil_iff]
    intro rule installed
    simpa using kept rule installed
  · exact additions_diff table
  · show (diff target table.rules).unchanged = table.rules.length
    rw [unchanged_diff]
    apply List.Perm.length_eq
    have once : (target.filter (· ∈ table.rules)).Nodup :=
      (RuleTable.nodup_of_nodup_ids distinct).sublist List.filter_sublist
    refine (List.perm_ext_iff_of_nodup once table.nodup_rules).2 fun rule => ?_
    rw [List.mem_filter, decide_eq_true_iff]
    exact ⟨fun both => both.2, fun installed => ⟨kept rule installed, installed⟩⟩

omit distinct in
theorem additions_congr {a b : RuleTable}
    (shared : ∀ rule ∈ target, rule ∈ a.rules ↔ rule ∈ b.rules) :
    (diff target a.rules).additions = (diff target b.rules).additions := by
  rw [additions_diff, additions_diff]
  congr 1
  exact List.filter_congr fun rule wanted => by rw [decide_eq_decide, shared rule wanted]

/-- Behind some of the removals, the others are left, and the same additions. -/
theorem diff_erase (table : RuleTable) (n : Nat) :
    diff target (table.erase ((diff target table.rules).removals.take n)).rules =
      { diff target table.rules with removals := (diff target table.rules).removals.drop n } := by
  generalize part : (diff target table.rules).removals.take n = ids
  have removals : (diff target (table.erase ids).rules).removals =
      (diff target table.rules).removals.drop n := by
    have swapped : (table.erase ids).rules.filter (· ∉ target) =
        (table.rules.filter (· ∉ target)).filter fun rule => !ids.contains rule.id := by
      show (table.rules.filter _).filter _ = _
      rw [List.filter_filter, List.filter_filter]
      exact List.filter_congr fun rule _ => Bool.and_comm _ _
    have listed := nodup_removals distinct table
    rw [removals_diff distinct] at part listed ⊢
    rw [swapped, ← part, filter_not_mem_take listed, removals_diff distinct, List.map_drop]
  have additions : (diff target (table.erase ids).rules).additions =
      (diff target table.rules).additions := by
    apply additions_congr
    intro rule wanted
    rw [RuleTable.mem_erase_iff]
    constructor
    · intro member
      exact member.1
    · intro installed
      refine ⟨installed, fun early => ?_⟩
      rw [← part] at early
      exact (id_mem_removals_iff distinct installed).1 (List.mem_of_mem_take early) wanted
  have unchanged : (diff target (table.erase ids).rules).unchanged =
      (diff target table.rules).unchanged := by
    have before := unchanged_add_length_additions target table
    have behind := unchanged_add_length_additions target (table.erase ids)
    rw [additions] at behind
    omega
  exact SyncPlan.ext removals additions unchanged

/-- Additions find their ids free once everything that has to go is removed. -/
theorem get?_of_mem_additions {table : RuleTable}
    (removed : (diff target table.rules).removals = []) {rule : CompiledRule}
    (added : rule ∈ (diff target table.rules).additions) : table.get? rule.id = none := by
  obtain ⟨wanted, missing⟩ := mem_additions_iff.1 added
  rcases found : table.get? rule.id with _ | other
  · rfl
  · obtain ⟨installed, same⟩ := RuleTable.get?_eq_some_iff.1 found
    have among := mem_target_of_removals_eq_nil distinct removed installed
    rw [RuleTable.eq_of_id_eq distinct among wanted same] at installed
    exact absurd installed missing

/-- Behind some of the additions, the others are left. -/
theorem diff_insertAll {table : RuleTable} (removed : (diff target table.rules).removals = [])
    (n : Nat) :
    let part := (diff target table.rules).additions.take n
    diff target (table.insertAll part).rules =
      { removals := []
        additions := (diff target table.rules).additions.drop n
        unchanged := (diff target table.rules).unchanged + part.length } := by
  intro part
  have ordered := pairwise_additions distinct table
  have fresh : (part.map (·.id)).Nodup :=
    RuleTable.nodup_ids_of_pairwise (ordered.sublist (List.take_sublist n _))
  have free : ∀ rule ∈ part, table.get? rule.id = none := fun rule member =>
    get?_of_mem_additions distinct removed (List.mem_of_mem_take member)
  have members {rule : CompiledRule} :
      rule ∈ (table.insertAll part).rules ↔ rule ∈ part ∨ rule ∈ table.rules :=
    RuleTable.mem_insertAll_iff fresh free
  -- everything installed is in the target, before the call and behind it
  have removals : (diff target (table.insertAll part).rules).removals = [] := by
    rw [List.eq_nil_iff_forall_not_mem]
    intro id listed
    obtain ⟨rule, installed, unwanted, -⟩ := (mem_removals_iff distinct).1 listed
    rcases members.1 installed with new | old
    · exact unwanted (mem_additions_iff.1 (List.mem_of_mem_take new)).1
    · exact unwanted (mem_target_of_removals_eq_nil distinct removed old)
  have additions : (diff target (table.insertAll part).rules).additions =
      (diff target table.rules).additions.drop n := by
    apply RuleTable.eq_of_mem_iff (pairwise_additions distinct _)
      (ordered.sublist (List.drop_sublist n _))
    intro rule
    have split : rule ∈ (diff target table.rules).additions ↔
        rule ∈ part ∨ rule ∈ (diff target table.rules).additions.drop n := by
      rw [← List.mem_append, List.take_append_drop]
    have apart : rule ∈ part → rule ∉ (diff target table.rules).additions.drop n := by
      intro early late
      rw [← List.take_append_drop n (diff target table.rules).additions] at ordered
      exact Nat.lt_irrefl _ ((List.pairwise_append.1 ordered).2.2 rule early rule late)
    rw [mem_additions_iff] at split ⊢
    rw [members]
    grind
  have unchanged : (diff target (table.insertAll part).rules).unchanged =
      (diff target table.rules).unchanged + part.length := by
    have before := unchanged_add_length_additions target table
    have behind := unchanged_add_length_additions target (table.insertAll part)
    rw [additions, List.length_drop] at behind
    have taken : part.length = min n (diff target table.rules).additions.length :=
      List.length_take
    omega
  exact SyncPlan.ext removals additions unchanged

theorem mem_iff_of_batches_eq_nil {table : RuleTable} {maxBatch : Nat}
    (done : (diff target table.rules).batches maxBatch = []) {rule : CompiledRule} :
    rule ∈ table.rules ↔ rule ∈ target := by
  have empty := batches_eq_nil_iff.1 done
  rw [isEmpty, Bool.and_eq_true, List.isEmpty_iff, List.isEmpty_iff] at empty
  constructor
  · exact mem_target_of_removals_eq_nil distinct empty.1
  · intro wanted
    by_cases installed : rule ∈ table.rules
    · exact installed
    · have listed := mem_additions_iff.2 ⟨wanted, installed⟩
      rw [empty.2] at listed
      cases listed

/-- A plan without calls means that the installed rules are the target in the order of the ids. -/
theorem rules_eq_of_batches_eq_nil {table : RuleTable} {maxBatch : Nat}
    (done : (diff target table.rules).batches maxBatch = []) : table.rules = sortById target := by
  apply RuleTable.eq_of_mem_iff table.ordered (pairwise_sortById distinct)
  intro rule
  rw [mem_iff_of_batches_eq_nil distinct done, mem_sortById_iff]

/-- Where the target is installed, there is nothing to do. -/
theorem diff_of_mem_iff {table : RuleTable}
    (reached : ∀ rule, rule ∈ table.rules ↔ rule ∈ target) :
    diff target table.rules = ⟨[], [], target.length⟩ := by
  have removals : (diff target table.rules).removals = [] := by
    rw [List.eq_nil_iff_forall_not_mem]
    intro id listed
    obtain ⟨rule, installed, unwanted, -⟩ := (mem_removals_iff distinct).1 listed
    exact unwanted ((reached rule).1 installed)
  have additions : (diff target table.rules).additions = [] := by
    rw [List.eq_nil_iff_forall_not_mem]
    intro rule listed
    obtain ⟨wanted, missing⟩ := mem_additions_iff.1 listed
    exact missing ((reached rule).2 wanted)
  have total := unchanged_add_length_additions target table
  rw [additions, List.length_nil, Nat.add_zero] at total
  exact SyncPlan.ext removals additions total

section Call

variable {table : RuleTable} {maxBatch : Nat} {batch : SyncBatch} {rest : List SyncBatch}
  (next : (diff target table.rules).batches maxBatch = batch :: rest)
include next

/-- Behind the first call of a plan, the calls of the plan to the same target are the others. -/
theorem batches_diff_apply :
    (diff target (table.apply batch).rules).batches maxBatch = rest := by
  rcases batches_eq_cons next with ⟨-, rfl, rfl⟩ | ⟨removed, -, rfl, rfl⟩
  · show (diff target (table.erase _).rules).batches maxBatch = _
    rw [diff_erase distinct]
  · show (diff target ((table.erase []).insertAll _).rules).batches maxBatch = _
    rw [RuleTable.erase_nil, diff_insertAll distinct removed, batches, batches]
    simp only [removed]

/-- The first call of a plan adds rules with different ids that are free. -/
theorem admits_of_batches : table.Admits batch := by
  rcases batches_eq_cons next with ⟨-, rfl, -⟩ | ⟨removed, -, rfl, -⟩
  · exact ⟨List.nodup_nil, fun rule member => absurd member List.not_mem_nil⟩
  · constructor
    · apply RuleTable.nodup_ids_of_pairwise
      exact (pairwise_additions distinct table).sublist (List.take_sublist _ _)
    · intro rule member
      rw [RuleTable.erase_nil]
      exact get?_of_mem_additions distinct removed (List.mem_of_mem_take member)

theorem not_mem_target_of_batches {rule : CompiledRule} (installed : rule ∈ table.rules)
    (gone : rule.id ∈ batch.removals) : rule ∉ target := by
  apply (id_mem_removals_iff distinct installed).1
  rw [← flatMap_removals_batches _ maxBatch, next, List.flatMap_cons]
  exact List.mem_append_left _ gone

omit distinct in
theorem mem_target_of_batches {rule : CompiledRule} (added : rule ∈ batch.additions) :
    rule ∈ target ∧ rule ∉ table.rules := by
  apply mem_additions_iff.1
  rw [← flatMap_additions_batches _ maxBatch, next, List.flatMap_cons]
  exact List.mem_append_left _ added

/-- No call of a plan leaves more rules than there were, or than the target has. -/
theorem size_apply_le : (table.apply batch).size ≤ max table.size target.length := by
  rcases batches_eq_cons next with ⟨-, rfl, -⟩ | ⟨removed, -, rfl, -⟩
  · exact Nat.le_trans (RuleTable.size_erase_le table _) (Nat.le_max_left _ _)
  · -- additions begin when only rules of the target are left, so the whole fits into the target
    apply Nat.le_trans _ (Nat.le_max_right _ _)
    rw [RuleTable.size_apply (admits_of_batches distinct next), RuleTable.erase_nil]
    have kept : table.size ≤ (diff target table.rules).unchanged := by
      rw [unchanged_diff]
      apply List.Nodup.length_le_of_subset table.nodup_rules
      intro rule installed
      rw [List.mem_filter, decide_eq_true_iff, and_iff_left installed]
      exact mem_target_of_removals_eq_nil distinct removed installed
    have total := unchanged_add_length_additions target table
    have taken := List.length_take_le (max maxBatch 1) (diff target table.rules).additions
    have short := List.length_take_le' (max maxBatch 1) (diff target table.rules).additions
    show table.size + (List.take (max maxBatch 1) _).length ≤ _
    omega

end Call

end Target

/-- There is nothing to do where rules are compared with themselves. -/
theorem batches_diff_self {rules : List CompiledRule}
    (ordered : rules.Pairwise fun a b => a.id < b.id) (maxBatch : Nat) :
    (diff rules rules).batches maxBatch = [] := by
  have plan : diff rules (RuleTable.mk rules ordered).rules = ⟨[], [], rules.length⟩ :=
    diff_of_mem_iff (RuleTable.nodup_ids_of_pairwise ordered) fun _ => Iff.rfl
  rw [batches_eq_nil_iff]
  show (diff rules (RuleTable.mk rules ordered).rules).isEmpty = true
  rw [plan]
  rfl

end SyncPlan

end ContentFilter
