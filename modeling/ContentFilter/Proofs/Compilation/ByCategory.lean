import ContentFilter.Proofs.Compilation.Exhaustion

/-!
# The rules of one category

The drafts of a category take the ids of its band in turn, whatever drafts of other categories stand
between them.  So the rules of a category are its drafts paired with the ids of its band, up to the end
of the shorter of the two; only the ceiling can take away some of the last.
-/

namespace ContentFilter

namespace IdSpace

/-- The ids of a category, from the bottom of its band. -/
def ids (space : IdSpace) (category : Category) : List Nat :=
  match space.range? category with
  | some range => List.range' range.start range.width
  | none => []

theorem length_ids (space : IdSpace) (category : Category) :
    (space.ids category).length = space.capacity category := by
  unfold ids capacity
  cases space.range? category with
  | none => rfl
  | some range => exact List.length_range'

theorem getElem?_ids (space : IdSpace) (category : Category) (rank : Nat) :
    (space.ids category)[rank]? = space.idAt? category rank := by
  unfold ids idAt?
  cases space.range? category with
  | none => rfl
  | some range =>
    by_cases inside : range.start + rank < range.stop
    · have below : rank < range.width := by
        rw [IdRange.width]
        omega
      rw [List.getElem?_range' below, Nat.one_mul]
      exact (if_pos inside).symm
    · have beyond : (List.range' range.start range.width).length ≤ rank := by
        rw [List.length_range', IdRange.width]
        omega
      rw [List.getElem?_eq_none beyond]
      exact (if_neg inside).symm

/-- The rules of a category are its drafts with the ids of its band. -/
theorem filter_rules (space : IdSpace) (drafts : List RuleDraft) (category : Category) :
    (space.rules drafts).filter (·.category == category) =
      List.zipWith RuleDraft.toRule (drafts.filter (·.category == category))
        (space.ids category) := by
  -- on the drafts left; those in front of them have taken as many ids as there are of the category
  have step : ∀ earlier : List RuleDraft,
      ((RuleDraft.ranked earlier drafts).filterMap space.rule?).filter (·.category == category) =
        List.zipWith RuleDraft.toRule (drafts.filter (·.category == category))
          ((space.ids category).drop (earlier.countP (·.category == category))) := by
    induction drafts with
    | nil =>
      intro earlier
      rfl
    | cons head rest ih =>
      intro earlier
      have tail := ih (head :: earlier)
      rw [RuleDraft.ranked]
      by_cases kind : head.category = category
      · subst kind
        have more : (head :: earlier).countP (·.category == head.category) =
            earlier.countP (·.category == head.category) + 1 :=
          List.countP_cons_of_pos (beq_self_eq_true _)
        rw [more] at tail
        rw [List.filter_cons_of_pos (by simp)]
        have next := space.getElem?_ids head.category
          (earlier.countP (·.category == head.category))
        cases found : space.idAt? head.category
            (earlier.countP (·.category == head.category)) with
        | none =>
          have without : space.rule? (head, earlier.countP (·.category == head.category)) =
              none := by rw [rule?, found, Option.map_none]
          rw [found, List.getElem?_eq_none_iff] at next
          rw [List.drop_of_length_le (Nat.le_succ_of_le next), List.zipWith_nil_right] at tail
          rw [List.filterMap_cons_none without, tail, List.drop_of_length_le next,
            List.zipWith_nil_right]
        | some id =>
          have served : space.rule? (head, earlier.countP (·.category == head.category)) =
              some (head.toRule id) := by rw [rule?, found, Option.map_some]
          rw [found, List.getElem?_eq_some_iff] at next
          obtain ⟨below, isId⟩ := next
          rw [List.filterMap_cons_some served, List.drop_eq_getElem_cons below, isId,
            List.zipWith_cons_cons, ← tail]
          exact List.filter_cons_of_pos (beq_self_eq_true head.category)
      · rw [List.countP_cons_of_neg (by simpa using kind)] at tail
        rw [List.filter_cons_of_neg (by simpa using kind), ← tail]
        cases served : space.rule? (head, earlier.countP (·.category == head.category)) with
        | none => rw [List.filterMap_cons_none served]
        | some rule =>
          rw [List.filterMap_cons_some served, List.filter_cons_of_neg]
          rw [category_of_rule? served]
          simpa using kind
  have whole := step []
  rw [List.countP_nil, List.drop_zero] at whole
  exact whole

end IdSpace

namespace CompileInput

variable (input : CompileInput) (config : CompilerConfig)

/-- The drafts of a category, in the order in which they ask for ids. -/
def draftsOf (category : Category) : List RuleDraft :=
  (input.drafts config).filter (·.category == category)

theorem draftsOf_eq_append (category : Category) :
    input.draftsOf config category =
      (input.ownDrafts config).filter (·.category == category) ++
        (input.listDrafts config).filter (·.category == category) :=
  List.filter_append _ _

/-- Drafts of lists are of no category of the user's own. -/
theorem draftsOf_own {category : Category} (own : category.isListCategory = false) :
    input.draftsOf config category = (input.ownDrafts config).filter (·.category == category) := by
  have none : (input.listDrafts config).filter (·.category == category) = [] := by
    rw [List.filter_eq_nil_iff]
    intro draft member same
    have listed := isListCategory_of_mem_listDrafts member
    rw [beq_iff_eq.1 same, own] at listed
    cases listed
  rw [draftsOf_eq_append, none, List.append_nil]

/-- The user's drafts are of no category of lists. -/
theorem draftsOf_listed {category : Category} (listed : category.isListCategory) :
    input.draftsOf config category = (input.listDrafts config).filter (·.category == category) := by
  have none : (input.ownDrafts config).filter (·.category == category) = [] := by
    rw [List.filter_eq_nil_iff]
    intro draft member same
    have own := isListCategory_of_mem_ownDrafts member
    rw [beq_iff_eq.1 same, listed] at own
    cases own
  rw [draftsOf_eq_append, none, List.nil_append]

section Own

theorem category_of_ofWhitelist? {entry : String} {draft : RuleDraft}
    (h : RuleDraft.ofWhitelist? entry = some draft) : draft.category = .whitelist := by
  obtain ⟨domain, -, rfl⟩ := Option.map_eq_some_iff.1 h
  rfl

theorem category_of_ofBlacklist? {entry : String} {draft : RuleDraft}
    (h : RuleDraft.ofBlacklist? config entry = some draft) : draft.category = .blacklist := by
  obtain ⟨domain, -, rfl⟩ := Option.map_eq_some_iff.1 h
  rfl

theorem category_of_ofCustomRule? {rule : CustomRule} {draft : RuleDraft}
    (h : RuleDraft.ofCustomRule? config rule = some draft) : draft.category = .custom := by
  rw [RuleDraft.ofCustomRule?, Option.bind_eq_bind, Option.bind_eq_some_iff] at h
  obtain ⟨filter, -, drafted⟩ := h
  exact RuleDraft.category_of_ofFilter? drafted

/-- Entries whose drafts are of one category are all or none of those of a category. -/
theorem filter_drafts {α : Type} {draft? : α → Option RuleDraft} {own : Category}
    (kinds : ∀ entry draft, draft? entry = some draft → draft.category = own) (entries : List α)
    (category : Category) :
    ((entries.map draft?).filterMap id).filter (·.category == category) =
      if own = category then entries.filterMap draft? else [] := by
  rw [List.filterMap_map, Function.id_comp]
  split
  · rename_i same
    rw [List.filter_eq_self]
    intro draft member
    obtain ⟨entry, -, drafted⟩ := List.mem_filterMap.1 member
    rw [kinds entry draft drafted, same]
    exact beq_self_eq_true category
  · rename_i other
    rw [List.filter_eq_nil_iff]
    intro draft member
    obtain ⟨entry, -, drafted⟩ := List.mem_filterMap.1 member
    rw [kinds entry draft drafted, beq_iff_eq]
    exact other

/-- Of the user's entries only those of its own kind have drafts of a category. -/
theorem filter_ownDrafts (category : Category) :
    (input.ownDrafts config).filter (·.category == category) =
      (if .whitelist = category then input.whitelist.filterMap RuleDraft.ofWhitelist? else []) ++
        (if .blacklist = category then
          input.blacklist.filterMap (RuleDraft.ofBlacklist? config) else []) ++
        if .custom = category then
          input.customRules.filterMap (RuleDraft.ofCustomRule? config) else [] := by
  rw [ownDrafts, userDrafts, List.filterMap_append, List.filterMap_append, List.filter_append,
    List.filter_append, filter_drafts (fun _ _ => category_of_ofWhitelist?),
    filter_drafts (fun _ _ => category_of_ofBlacklist? config),
    filter_drafts (fun _ _ => category_of_ofCustomRule? config)]

theorem draftsOf_whitelist :
    input.draftsOf config .whitelist = input.whitelist.filterMap RuleDraft.ofWhitelist? := by
  rw [input.draftsOf_own config rfl, filter_ownDrafts]
  simp

theorem draftsOf_blacklist :
    input.draftsOf config .blacklist =
      input.blacklist.filterMap (RuleDraft.ofBlacklist? config) := by
  rw [input.draftsOf_own config rfl, filter_ownDrafts]
  simp

theorem draftsOf_custom :
    input.draftsOf config .custom =
      input.customRules.filterMap (RuleDraft.ofCustomRule? config) := by
  rw [input.draftsOf_own config rfl, filter_ownDrafts]
  simp

end Own

/-- The rules that a category has without a ceiling. -/
def rulesOf (category : Category) : List CompiledRule :=
  List.zipWith RuleDraft.toRule (input.draftsOf config category) (config.idSpace.ids category)

theorem rulesOf_eq_append (category : Category) :
    input.rulesOf config category =
      (config.idSpace.rules (input.ownDrafts config)).filter (·.category == category) ++
        (config.idSpace.rules (input.listDrafts config)).filter (·.category == category) := by
  rw [rulesOf]
  cases kind : category.isListCategory with
  | true =>
    rw [input.draftsOf_listed config kind, input.filter_ownRules config _ kind, List.nil_append,
      IdSpace.filter_rules]
  | false =>
    rw [input.draftsOf_own config kind, input.filter_listRules config kind (List.Sublist.refl _),
      List.append_nil, IdSpace.filter_rules]

variable {input config}

theorem length_rulesOf {category : Category} :
    (input.rulesOf config category).length =
      min (input.draftsOf config category).length (config.idSpace.capacity category) := by
  rw [rulesOf, List.length_zipWith, IdSpace.length_ids]

/-- A place among the rules is a place among the drafts, and tells the id. -/
theorem getElem?_rulesOf {category : Category} {rank : Nat} {rule : CompiledRule} :
    (input.rulesOf config category)[rank]? = some rule ↔ ∃ draft id,
      (input.draftsOf config category)[rank]? = some draft ∧
        config.idSpace.idAt? category rank = some id ∧ rule = draft.toRule id := by
  rw [rulesOf, List.getElem?_zipWith_eq_some]
  constructor
  · rintro ⟨draft, id, drafted, given, rfl⟩
    rw [IdSpace.getElem?_ids] at given
    exact ⟨draft, id, drafted, given, rfl⟩
  · rintro ⟨draft, id, drafted, given, rfl⟩
    rw [← IdSpace.getElem?_ids] at given
    exact ⟨draft, id, drafted, given, rfl⟩

/-- The drafts within the band have rules. -/
theorem exists_mem_rulesOf_iff {category : Category} {p : RuleDraft → Prop}
    {q : CompiledRule → Prop} (same : ∀ draft id, q (draft.toRule id) ↔ p draft) :
    (∃ rule ∈ input.rulesOf config category, q rule) ↔
      ∃ draft ∈ (input.draftsOf config category).take (config.idSpace.capacity category),
        p draft := by
  constructor
  · rintro ⟨rule, member, holds⟩
    obtain ⟨rank, place⟩ := List.mem_iff_getElem?.1 member
    obtain ⟨draft, id, drafted, given, rfl⟩ := getElem?_rulesOf.1 place
    have below : rank < config.idSpace.capacity category := by
      by_contra beyond
      rw [IdSpace.idAt?_eq_none_iff.2 (Nat.le_of_not_lt beyond)] at given
      cases given
    refine ⟨draft, List.mem_iff_getElem?.2 ⟨rank, ?_⟩, (same draft id).1 holds⟩
    rw [List.getElem?_take_of_lt below, drafted]
  · rintro ⟨draft, member, holds⟩
    obtain ⟨rank, place⟩ := List.mem_iff_getElem?.1 member
    rw [List.getElem?_take] at place
    split at place
    · rename_i below
      cases given : config.idSpace.idAt? category rank with
      | none =>
        have full := IdSpace.idAt?_eq_none_iff.1 given
        omega
      | some id =>
        have found := getElem?_rulesOf.2 ⟨draft, id, place, given, rfl⟩
        exact ⟨draft.toRule id, List.mem_of_getElem? found, (same draft id).2 holds⟩
    · cases place

end CompileInput

namespace Compilation.IsOf

variable {input : CompileInput} {config : CompilerConfig} {compilation : Compilation}

/-- The ceiling leaves a category the first of its rules. -/
theorem filter_isPrefix (h : compilation.IsOf input config)
    (valid : IdSpace.Valid config.idSpace.ranges) (category : Category) :
    compilation.rules.filter (·.category == category) <+: input.rulesOf config category := by
  rw [h.filter_category valid, input.rulesOf_eq_append, List.prefix_append_right_inj]
  exact (List.take_prefix _ _).filter _

/-- The ceiling takes nothing from the user's own categories. -/
theorem filter_own (h : compilation.IsOf input config)
    (valid : IdSpace.Valid config.idSpace.ranges) {category : Category}
    (own : category.isListCategory = false) :
    compilation.rules.filter (·.category == category) = input.rulesOf config category := by
  rw [h.filter_category valid, input.rulesOf_eq_append,
    input.filter_listRules config own (List.take_sublist _ _),
    input.filter_listRules config own (List.Sublist.refl _)]

/-- If nothing lay above the ceiling, every category has all its rules. -/
theorem filter_of_below (h : compilation.IsOf input config)
    (valid : IdSpace.Valid config.idSpace.ranges)
    (below : compilation.diagnostics.capacityDropped = 0) (category : Category) :
    compilation.rules.filter (·.category == category) = input.rulesOf config category := by
  have count := (input.rules_listEmission config).2
  rw [← h.capacityDropped, below, Nat.add_zero] at count
  rw [h.filter_category valid, input.rulesOf_eq_append, List.take_of_length_le count]

end Compilation.IsOf

end ContentFilter
