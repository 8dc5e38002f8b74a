import ContentFilter.Proofs.Compilation.Ceiling
import ContentFilter.Proofs.Compilation.Numbering

/-!
# Which drafts get ids

The rank of a draft is the number of drafts of its category in front of it.  A draft gets an id if the
band of its category reaches as far as its rank: neither other categories nor drafts that went without
an id have a say in it.  Emissions are described by the ranks of their drafts, so that those of different
tables and ceilings can be compared.
-/

namespace ContentFilter

/-! ## Ranks -/

namespace RuleDraft

/-- Drafts with their ranks, if `earlier` ones stand in front of all of them. -/
def ranked (earlier : List RuleDraft) : List RuleDraft → List (RuleDraft × Nat)
  | [] => []
  | draft :: rest =>
    (draft, earlier.countP (·.category == draft.category)) :: ranked (draft :: earlier) rest

/-- Of the drafts in front, only those of the same categories count. -/
theorem ranked_congr {earlier others drafts : List RuleDraft}
    (same : ∀ draft ∈ drafts, earlier.countP (·.category == draft.category) =
      others.countP (·.category == draft.category)) :
    ranked earlier drafts = ranked others drafts := by
  induction drafts generalizing earlier others with
  | nil => rfl
  | cons head rest ih =>
    rw [ranked, ranked, same head List.mem_cons_self, ih]
    intro draft later
    rw [List.countP_cons, List.countP_cons, same draft (List.mem_cons_of_mem _ later)]

theorem map_fst_ranked (earlier drafts : List RuleDraft) :
    (ranked earlier drafts).map (·.1) = drafts := by
  induction drafts generalizing earlier with
  | nil => rfl
  | cons head rest ih => rw [ranked, List.map_cons, ih]

theorem length_ranked (earlier drafts : List RuleDraft) :
    (ranked earlier drafts).length = drafts.length := by
  rw [← List.length_map, map_fst_ranked]

end RuleDraft

namespace IdSpace

/-- The rule of a draft with a rank, if there is an id for it. -/
def rule? (space : IdSpace) (ranked : RuleDraft × Nat) : Option CompiledRule :=
  (space.idAt? ranked.1.category ranked.2).map ranked.1.toRule

/-- The rules of drafts, without those for which there is no id. -/
def rules (space : IdSpace) (drafts : List RuleDraft) : List CompiledRule :=
  (RuleDraft.ranked [] drafts).filterMap space.rule?

theorem category_of_rule? {space : IdSpace} {ranked : RuleDraft × Nat} {rule : CompiledRule}
    (h : space.rule? ranked = some rule) : rule.category = ranked.1.category := by
  obtain ⟨id, -, rfl⟩ := Option.map_eq_some_iff.1 h
  rfl

theorem exists_draft_of_mem_rules {space : IdSpace} {drafts : List RuleDraft} {rule : CompiledRule}
    (member : rule ∈ space.rules drafts) : ∃ draft ∈ drafts, rule.category = draft.category := by
  obtain ⟨ranked, among, found⟩ := List.mem_filterMap.1 member
  refine ⟨ranked.1, ?_, category_of_rule? found⟩
  rw [← RuleDraft.map_fst_ranked [] drafts]
  exact List.mem_map_of_mem among

end IdSpace

/-! ## Emissions behind drafts -/

namespace Emission

/-- An emission that the drafts of `asked` have gone through. -/
structure Behind (space : IdSpace) (asked : List RuleDraft) (emission : Emission) : Prop where
  table : emission.ids.space = space
  sound : emission.ids.Sound
  /-- A category has served the drafts that asked for its ids until none was left. -/
  issued : ∀ category, emission.ids.issued category =
    min (asked.countP (·.category == category)) (space.capacity category)

namespace Behind

variable {space : IdSpace} {asked : List RuleDraft} {emission : Emission}

theorem start (space : IdSpace) : Behind space [] (.start space) := by
  refine ⟨rfl, IdAllocator.sound_start space, fun category => ?_⟩
  rw [List.countP_nil, Nat.zero_min]
  rfl

theorem reject (behind : Behind space asked emission) : Behind space asked emission.reject :=
  ⟨behind.table, behind.sound, behind.issued⟩

/-- A draft gets the id of its rank, or none. -/
theorem push (behind : Behind space asked emission) (draft : RuleDraft) :
    Behind space (draft :: asked) (emission.push draft).1 ∧
      (emission.push draft).1.rules =
        (space.rule? (draft, asked.countP (·.category == draft.category))).toList ++
          emission.rules ∧
      (emission.push draft).2 =
        (space.rule? (draft, asked.countP (·.category == draft.category))).isSome := by
  have count := behind.issued draft.category
  have withoutId : ∀ cause, emission.ids.next draft.category = .error cause →
      (∀ category, emission.ids.issued category =
        min ((draft :: asked).countP (·.category == category)) (space.capacity category)) ∧
      space.rule? (draft, asked.countP (·.category == draft.category)) = none := by
    intro cause answer
    have full := IdAllocator.capacity_le_issued behind.sound answer
    rw [behind.table, count] at full
    constructor
    · intro category
      rw [behind.issued category, List.countP_cons]
      split
      · rename_i same
        rw [beq_iff_eq] at same
        subst same
        omega
      · rfl
    · have none := IdSpace.idAt?_eq_none_iff.2 (Nat.le_trans full (Nat.min_le_left _ _))
      show Option.map _ (space.idAt? draft.category _) = _
      rw [none, Option.map_none]
  rcases push_cases emission draft with
    ⟨id, ids, answer, pushed⟩ | ⟨_, _, answer, pushed⟩ | ⟨_, answer, pushed⟩
  · obtain ⟨sound, kept, ⟨range, declared, next, left⟩, issued⟩ :=
      IdAllocator.next_eq_ok behind.sound answer
    rw [behind.table] at kept declared
    have room : space.capacity draft.category = range.stop - range.start := by
      rw [IdSpace.capacity, declared]
      rfl
    have rankOf : id = range.start + asked.countP (·.category == draft.category) := by omega
    have found : space.rule? (draft, asked.countP (·.category == draft.category)) =
        some (draft.toRule id) := by
      have reached := IdSpace.idAt?_eq_some_iff.2 ⟨range, declared, rankOf, left⟩
      show Option.map _ (space.idAt? draft.category _) = _
      rw [reached, Option.map_some]
    rw [pushed, found]
    refine ⟨⟨kept, sound, ?_⟩, rfl, rfl⟩
    intro category
    show ids.issued category = _
    rw [issued, behind.issued, List.countP_cons]
    by_cases same : draft.category = category
    · subst same
      rw [if_pos rfl, if_pos (beq_self_eq_true _)]
      omega
    · rw [if_neg same, if_neg (by simpa using same)]
      rfl
  · obtain ⟨issued, none⟩ := withoutId _ answer
    rw [pushed, none]
    exact ⟨⟨behind.table, behind.sound, issued⟩, rfl, rfl⟩
  · obtain ⟨issued, none⟩ := withoutId _ answer
    rw [pushed, none]
    exact ⟨⟨behind.table, behind.sound, issued⟩, rfl, rfl⟩

/-- The user's drafts get the ids of their ranks. -/
theorem foldl_pushUser (behind : Behind space asked emission) (entries : List (Option RuleDraft)) :
    Behind space ((entries.filterMap id).reverse ++ asked) (entries.foldl pushUser emission) ∧
      (entries.foldl pushUser emission).rules =
        ((RuleDraft.ranked asked (entries.filterMap id)).filterMap space.rule?).reverse ++
          emission.rules := by
  induction entries generalizing asked emission with
  | nil => exact ⟨behind, rfl⟩
  | cons entry rest ih =>
    rw [List.foldl_cons]
    cases entry with
    | none => exact ih behind.reject
    | some draft =>
      obtain ⟨next, rules, -⟩ := behind.push draft
      obtain ⟨last, all⟩ := ih next
      have drafts : (some draft :: rest).filterMap id = draft :: rest.filterMap id := rfl
      rw [drafts, List.reverse_cons, List.append_assoc]
      refine ⟨last, ?_⟩
      rw [pushUser, all, rules, RuleDraft.ranked, List.filterMap_cons]
      cases space.rule? (draft, asked.countP (·.category == draft.category)) with
      | none => rfl
      | some rule => simp

end Behind

end Emission

namespace ListEmission

/-- Above the ceiling every draft is dropped. -/
theorem foldl_above (config : CompilerConfig) {ceiling : Nat} {state : ListEmission}
    (full : ceiling ≤ state.emitted) (filters : List SourcedFilter) :
    (filters.foldl (pushFilter config ceiling) state).emission.rules = state.emission.rules ∧
      (filters.foldl (pushFilter config ceiling) state).capacityDropped =
        state.capacityDropped + (filters.filterMap (SourcedFilter.draft? config)).length ∧
      (filters.foldl (pushFilter config ceiling) state).emitted = state.emitted := by
  induction filters generalizing state with
  | nil => exact ⟨rfl, rfl, rfl⟩
  | cons head rest ih =>
    rw [List.foldl_cons]
    rcases pushFilter_cases config ceiling state head with
      ⟨_, undrafted, pushed⟩ | ⟨_, _, undrafted, pushed⟩ | ⟨_, drafted, _, pushed⟩ |
        ⟨_, _, below, _⟩
    · rw [pushed, List.filterMap_cons_none undrafted]
      exact ih full
    · rw [pushed, List.filterMap_cons_none undrafted]
      exact ih full
    · obtain ⟨rules, dropped, emitted⟩ :=
        @ih { state with capacityDropped := state.capacityDropped + 1 } full
      rw [pushed, List.filterMap_cons_some drafted, List.length_cons, dropped]
      refine ⟨rules, ?_, emitted⟩
      show state.capacityDropped + 1 + _ = _
      omega
    · omega

/-- Drafts are dropped only if the rules reach the ceiling. -/
theorem foldl_full (config : CompilerConfig) (ceiling : Nat) (state : ListEmission)
    (filters : List SourcedFilter) :
    (filters.foldl (pushFilter config ceiling) state).capacityDropped = state.capacityDropped ∨
      ceiling ≤ (filters.foldl (pushFilter config ceiling) state).emitted := by
  induction filters generalizing state with
  | nil => exact .inl rfl
  | cons head rest ih =>
    rcases pushFilter_cases config ceiling state head with
      ⟨_, _, pushed⟩ | ⟨_, _, _, pushed⟩ | ⟨_, _, full, _⟩ | ⟨_, _, _, pushed⟩
    case inr.inr.inl =>
      obtain ⟨-, -, emitted⟩ := foldl_above config full (head :: rest)
      exact .inr (emitted ▸ full)
    all_goals
      have tail := ih (state.pushFilter config ceiling head)
      rw [pushed] at tail
      rw [List.foldl_cons, pushed]
      exact tail

/-- The drafts of lists get the ids of their ranks up to the ceiling; those that do not are among the
last. -/
theorem foldl_pushFilter (config : CompilerConfig) (ceiling : Nat) {space : IdSpace}
    {asked : List RuleDraft} {state : ListEmission} (behind : state.emission.Behind space asked)
    (filters : List SourcedFilter) :
    (filters.foldl (pushFilter config ceiling) state).emission.rules =
        (((RuleDraft.ranked asked (filters.filterMap (SourcedFilter.draft? config))).filterMap
          space.rule?).take (ceiling - state.emitted)).reverse ++ state.emission.rules ∧
      ((RuleDraft.ranked asked (filters.filterMap (SourcedFilter.draft? config))).filterMap
          space.rule?).length + state.capacityDropped ≤
        (ceiling - state.emitted) +
          (filters.foldl (pushFilter config ceiling) state).capacityDropped := by
  induction filters generalizing asked state with
  | nil =>
    refine ⟨?_, ?_⟩
    · rw [List.filterMap_nil, RuleDraft.ranked, List.filterMap_nil, List.take_nil]
      rfl
    · rw [List.filterMap_nil, RuleDraft.ranked, List.filterMap_nil, List.length_nil]
      exact Nat.add_le_add (Nat.zero_le _) (Nat.le_refl _)
  | cons head rest ih =>
    rw [List.foldl_cons]
    rcases pushFilter_cases config ceiling state head with
      ⟨_, undrafted, pushed⟩ | ⟨_, _, undrafted, pushed⟩ | ⟨draft, drafted, full, pushed⟩ |
        ⟨draft, drafted, below, pushed⟩
    · rw [pushed, List.filterMap_cons_none undrafted]
      exact ih behind
    · rw [pushed, List.filterMap_cons_none undrafted]
      exact @ih asked { state with emission := state.emission.reject } behind.reject
    · obtain ⟨rules, dropped, -⟩ := foldl_above config full (head :: rest)
      rw [List.foldl_cons] at rules dropped
      have count := List.length_filterMap_le space.rule?
        (RuleDraft.ranked asked ((head :: rest).filterMap (SourcedFilter.draft? config)))
      rw [RuleDraft.length_ranked] at count
      rw [rules, dropped, Nat.sub_eq_zero_of_le full, List.take_zero, List.reverse_nil,
        List.nil_append]
      exact ⟨rfl, by omega⟩
    · obtain ⟨next, rules, got⟩ := behind.push draft
      have tail := @ih (draft :: asked) (state.pushFilter config ceiling head)
        (by rw [pushed]; exact next)
      have behindHead : (state.pushFilter config ceiling head).emission.rules =
          (state.emission.push draft).1.rules := by rw [pushed]
      have counted : (state.pushFilter config ceiling head).emitted =
          state.emitted + if (state.emission.push draft).2 then 1 else 0 := by rw [pushed]
      have undropped : (state.pushFilter config ceiling head).capacityDropped =
          state.capacityDropped := by rw [pushed]
      rw [behindHead, rules, counted, got, undropped] at tail
      rw [List.filterMap_cons_some drafted, RuleDraft.ranked, List.filterMap_cons]
      cases found : space.rule? (draft, asked.countP (·.category == draft.category)) with
      | none =>
        rw [found] at tail
        exact tail
      | some rule =>
        rw [found, Option.isSome_some, if_pos rfl] at tail
        obtain ⟨emitted, dropped⟩ := tail
        have room : ceiling - state.emitted = ceiling - (state.emitted + 1) + 1 := by omega
        rw [room, List.take_succ_cons, List.reverse_cons, List.append_assoc, List.length_cons]
        exact ⟨emitted, by omega⟩

end ListEmission

/-! ## Whole compilations -/

/-- Of the settings only the default types matter for drafts. -/
theorem RuleDraft.ofFilter?_congr {config settings : CompilerConfig}
    (same : settings.defaultTypes = config.defaultTypes) : ofFilter? settings = ofFilter? config := by
  funext category tier filter
  rw [ofFilter?, ofFilter?, same]

namespace CompileInput

/-- The user's drafts, in the order in which they ask for ids. -/
def ownDrafts (input : CompileInput) (config : CompilerConfig) : List RuleDraft :=
  (input.userDrafts config).filterMap id

/-- The drafts of lists, in the order in which they ask for ids. -/
def listDrafts (input : CompileInput) (config : CompilerConfig) : List RuleDraft :=
  (Optimizer.optimize input.sourcedFilters).kept.filterMap (SourcedFilter.draft? config)

/-- The rules of lists that a compilation emits, in the order in which they get ids. -/
def emittedListRules (input : CompileInput) (config : CompilerConfig) : List CompiledRule :=
  (input.listEmission config).emission.rules.reverse.filter (!·.isOwn)

theorem ownDrafts_congr {input other : CompileInput} {config settings : CompilerConfig}
    (whitelist : other.whitelist = input.whitelist) (blacklist : other.blacklist = input.blacklist)
    (customRules : other.customRules = input.customRules)
    (same : settings.defaultTypes = config.defaultTypes) :
    other.ownDrafts settings = input.ownDrafts config := by
  have blacklisted : RuleDraft.ofBlacklist? settings = RuleDraft.ofBlacklist? config := by
    funext entry
    rw [RuleDraft.ofBlacklist?, RuleDraft.ofBlacklist?, same]
  have custom : RuleDraft.ofCustomRule? settings = RuleDraft.ofCustomRule? config := by
    funext rule
    rw [RuleDraft.ofCustomRule?, RuleDraft.ofCustomRule?, RuleDraft.ofFilter?_congr same]
  rw [ownDrafts, ownDrafts, userDrafts, userDrafts, whitelist, blacklist, customRules, blacklisted,
    custom]

theorem listDrafts_congr {input other : CompileInput} {config settings : CompilerConfig}
    (lists : other.lists = input.lists)
    (enabled : other.enabledCategories = input.enabledCategories)
    (same : settings.defaultTypes = config.defaultTypes) :
    other.listDrafts settings = input.listDrafts config := by
  have filters : other.sourcedFilters = input.sourcedFilters := by
    rw [sourcedFilters, sourcedFilters, includedLists, includedLists, lists, enabled]
  have drafted : SourcedFilter.draft? settings = SourcedFilter.draft? config := by
    funext sourced
    rw [SourcedFilter.draft?, SourcedFilter.draft?, RuleDraft.ofFilter?_congr same]
  rw [listDrafts, listDrafts, filters, drafted]

theorem isListCategory_of_mem_ownDrafts {input : CompileInput} {config : CompilerConfig}
    {draft : RuleDraft} (member : draft ∈ input.ownDrafts config) :
    draft.category.isListCategory = false := by
  obtain ⟨entry, among, rfl⟩ := List.mem_filterMap.1 member
  exact isListCategory_of_mem_userDrafts among

theorem isListCategory_of_mem_listDrafts {input : CompileInput} {config : CompilerConfig}
    {draft : RuleDraft} (member : draft ∈ input.listDrafts config) :
    draft.category.isListCategory := by
  obtain ⟨sourced, kept, drafted⟩ := List.mem_filterMap.1 member
  rw [SourcedFilter.category_of_draft? drafted]
  exact isListCategory_of_mem_kept kept

variable (input : CompileInput) (config : CompilerConfig)

theorem isOwn_of_mem_rules (space : IdSpace) :
    ∀ rule ∈ space.rules (input.ownDrafts config), rule.isOwn := by
  intro rule member
  obtain ⟨draft, among, same⟩ := IdSpace.exists_draft_of_mem_rules member
  rw [CompiledRule.isOwn, same, isListCategory_of_mem_ownDrafts among]
  rfl

theorem not_isOwn_of_mem_rules (space : IdSpace) :
    ∀ rule ∈ space.rules (input.listDrafts config), rule.isOwn = false := by
  intro rule member
  obtain ⟨draft, among, same⟩ := IdSpace.exists_draft_of_mem_rules member
  rw [CompiledRule.isOwn, same, isListCategory_of_mem_listDrafts among]
  rfl

/-- The user's drafts leave the bands of lists untouched. -/
theorem ranked_listDrafts :
    RuleDraft.ranked (input.ownDrafts config).reverse (input.listDrafts config) =
      RuleDraft.ranked [] (input.listDrafts config) := by
  apply RuleDraft.ranked_congr
  intro draft member
  rw [List.countP_nil, List.countP_eq_zero]
  intro own among same
  have kind := isListCategory_of_mem_ownDrafts (List.mem_reverse.1 among)
  rw [beq_iff_eq.1 same, isListCategory_of_mem_listDrafts member] at kind
  cases kind

theorem rules_userEmission :
    (input.userEmission config).rules =
      (config.idSpace.rules (input.ownDrafts config)).reverse := by
  obtain ⟨-, rules⟩ := (Emission.Behind.start config.idSpace).foldl_pushUser
    (input.userDrafts config)
  rw [userEmission, rules]
  exact List.append_nil _

/-- Behind the user's own rules the first rules of lists follow, as many as the ceiling lets through;
the others are among the dropped. -/
theorem rules_listEmission :
    (input.listEmission config).emission.rules =
        ((config.idSpace.rules (input.listDrafts config)).take (input.ceiling config)).reverse ++
          (config.idSpace.rules (input.ownDrafts config)).reverse ∧
      (config.idSpace.rules (input.listDrafts config)).length ≤
        input.ceiling config + (input.listEmission config).capacityDropped := by
  have behind : (⟨input.userEmission config, 0, [], 0⟩ : ListEmission).emission.Behind
      config.idSpace (input.ownDrafts config).reverse := by
    have behindUser := ((Emission.Behind.start config.idSpace).foldl_pushUser
      (input.userDrafts config)).1
    rw [List.append_nil] at behindUser
    exact behindUser
  have folded := ListEmission.foldl_pushFilter config (input.ceiling config) behind
    (Optimizer.optimize input.sourcedFilters).kept
  rw [Nat.sub_zero, Nat.add_zero] at folded
  have ranks := input.ranked_listDrafts config
  rw [listDrafts] at ranks
  rw [ranks, rules_userEmission] at folded
  exact folded

theorem emittedListRules_eq :
    input.emittedListRules config =
      (config.idSpace.rules (input.listDrafts config)).take (input.ceiling config) := by
  have own : (config.idSpace.rules (input.ownDrafts config)).filter (!·.isOwn) = [] := by
    rw [List.filter_eq_nil_iff]
    intro rule member
    rw [isOwn_of_mem_rules input config _ rule member]
    exact Bool.false_ne_true
  rw [emittedListRules, (input.rules_listEmission config).1, List.reverse_append,
    List.reverse_reverse, List.reverse_reverse, List.filter_append, own, List.nil_append,
    List.filter_eq_self]
  intro rule member
  rw [not_isOwn_of_mem_rules input config _ rule (List.mem_of_mem_take member)]
  rfl

end CompileInput

end ContentFilter
