import ContentFilter.Compilation
import ContentFilter.IdSpace.Lemmas

/-!
# What a compilation emits

A compilation pushes drafts onto an emission one after another.  Here is said once what a push can do;
what holds of every compiled rule follows by induction over the pushes.  If no draft went without an
id and none lay above the ceiling, every draft has its rule.
-/

namespace ContentFilter

/-! ## Declared categories -/

/-- Valid settings have a band for every category. -/
theorem CompilerConfig.range?_isSome {config : CompilerConfig} (valid : config.validate = .ok ())
    (category : Category) : (config.idSpace.range? category).isSome := by
  unfold CompilerConfig.validate at valid
  split at valid
  · cases valid
  · rename_i declared
    have found := List.find?_eq_none.1 declared category (Category.mem_all category)
    simpa [Option.isNone_iff_eq_none, Option.isSome_iff_ne_none] using found

/-- The table of bands has one for every category. -/
def IdSpace.Complete (space : IdSpace) : Prop := ∀ category, (space.range? category).isSome

namespace IdAllocator

theorem space_next {allocator behind : IdAllocator} {category : Category} {id : Nat}
    (h : allocator.next category = .ok (id, behind)) : behind.space = allocator.space := by
  rcases allocator.next_cases category with ⟨-, fails⟩ | ⟨ids, -, ⟨-, fails⟩ | ⟨-, gives⟩⟩
  · rw [fails] at h
    cases h
  · rw [fails] at h
    cases h
  · rw [gives] at h
    obtain ⟨-, rfl⟩ := Prod.mk.inj (Except.ok.inj h)
    rfl

/-- With a band for every category a request fails only where a band is used up. -/
theorem next_ne_undeclared {allocator : IdAllocator} (complete : allocator.space.Complete)
    (category other : Category) : allocator.next category ≠ .error (.undeclared other) := by
  intro failed
  rcases allocator.next_cases category with ⟨undeclared, -⟩ | ⟨ids, -, ⟨-, fails⟩ | ⟨-, gives⟩⟩
  · have declared := complete category
    rw [undeclared] at declared
    cases declared
  · rw [fails] at failed
    cases failed
  · rw [gives] at failed
    cases failed

end IdAllocator

/-! ## One push -/

namespace Emission

/-- A draft gets the next id of its category; or the band is used up and the draft is noted as
dropped; or the category has no band and the draft is rejected. -/
theorem push_cases (emission : Emission) (draft : RuleDraft) :
    (∃ id ids, emission.ids.next draft.category = .ok (id, ids) ∧
      emission.push draft =
        ({ emission with ids, rules := draft.toRule id :: emission.rules }, true)) ∨
    (∃ category width, emission.ids.next draft.category = .error (.exhausted category width) ∧
      emission.push draft = (emission.exhaust category width, false)) ∨
    (∃ category, emission.ids.next draft.category = .error (.undeclared category) ∧
      emission.push draft = (emission.reject, false)) := by
  unfold push
  rcases answer : emission.ids.next draft.category with ⟨cause⟩ | ⟨id, ids⟩
  · cases cause with
    | undeclared category => exact .inr (.inr ⟨category, rfl, rfl⟩)
    | exhausted category width => exact .inr (.inl ⟨category, width, rfl, rfl⟩)
  · exact .inl ⟨id, ids, rfl, rfl⟩

/-- `later` was reached from `emission` by pushes: rules were only added, in front, and no dropped
draft was forgotten. -/
structure Grows (emission later : Emission) : Prop where
  rules : emission.rules <:+ later.rules
  exhausted : later.exhausted = [] → emission.exhausted = []
  space : later.ids.space = emission.ids.space

namespace Grows

theorem refl (emission : Emission) : emission.Grows emission :=
  ⟨List.suffix_refl _, id, rfl⟩

theorem trans {a b c : Emission} (first : a.Grows b) (second : b.Grows c) : a.Grows c :=
  ⟨first.rules.trans second.rules, fun none => first.exhausted (second.exhausted none),
    second.space.trans first.space⟩

theorem reject (emission : Emission) : emission.Grows emission.reject :=
  ⟨List.suffix_refl _, id, rfl⟩

theorem push (emission : Emission) (draft : RuleDraft) :
    emission.Grows (emission.push draft).1 := by
  rcases push_cases emission draft with ⟨id, ids, answer, pushed⟩ | ⟨_, _, _, pushed⟩ | ⟨_, _, pushed⟩
  · rw [pushed]
    exact ⟨List.suffix_cons _ _, fun none => none, IdAllocator.space_next answer⟩
  · rw [pushed]
    exact ⟨List.suffix_refl _, fun none => by simp [exhaust] at none, rfl⟩
  · rw [pushed]
    exact reject emission

end Grows

/-- With a band for every category a draft has its rule, unless it was noted as dropped. -/
theorem push_of_not_exhausted {emission : Emission} (complete : emission.ids.space.Complete)
    (draft : RuleDraft) (none : (emission.push draft).1.exhausted = []) :
    (emission.push draft).2 = true ∧
      ∃ id, draft.toRule id ∈ (emission.push draft).1.rules := by
  rcases push_cases emission draft with ⟨id, _, _, pushed⟩ | ⟨_, _, _, pushed⟩ | ⟨other, answer, _⟩
  · rw [pushed]
    exact ⟨rfl, id, List.mem_cons_self⟩
  · rw [pushed] at none
    simp [exhaust] at none
  · exact absurd answer (IdAllocator.next_ne_undeclared complete _ other)

/-! ## The user's entries -/

/-- What holds at the start and outlasts every push holds when the user's entries are through. -/
theorem foldl_pushUser_induct {motive : Emission → Prop} {entries : List (Option RuleDraft)}
    {emission : Emission} (start : motive emission)
    (reject : ∀ emission, motive emission → motive emission.reject)
    (push : ∀ emission draft, some draft ∈ entries → motive emission →
      motive (emission.push draft).1) :
    motive (entries.foldl pushUser emission) := by
  induction entries generalizing emission with
  | nil => exact start
  | cons entry rest ih =>
    rw [List.foldl_cons]
    apply ih
    · cases entry with
      | none => exact reject emission start
      | some draft => exact push emission draft List.mem_cons_self start
    · intro emission draft later
      exact push emission draft (List.mem_cons_of_mem _ later)

theorem grows_foldl_pushUser (entries : List (Option RuleDraft)) (emission : Emission) :
    emission.Grows (entries.foldl pushUser emission) := by
  apply foldl_pushUser_induct (Grows.refl emission)
  · intro later grown
    exact grown.trans (.reject later)
  · intro later draft _ grown
    exact grown.trans (.push later draft)

/-- If no entry was dropped, every draft among them has its rule. -/
theorem exists_rule_of_mem_entries {entries : List (Option RuleDraft)} {emission : Emission}
    (complete : emission.ids.space.Complete)
    (none : (entries.foldl pushUser emission).exhausted = []) {draft : RuleDraft}
    (member : some draft ∈ entries) :
    ∃ id, draft.toRule id ∈ (entries.foldl pushUser emission).rules := by
  induction entries generalizing emission with
  | nil => cases member
  | cons entry rest ih =>
    rw [List.foldl_cons] at none ⊢
    have grown := grows_foldl_pushUser rest (emission.pushUser entry)
    rcases List.mem_cons.1 member with rfl | later
    · obtain ⟨_, id, pushed⟩ := push_of_not_exhausted complete draft (grown.exhausted none)
      exact ⟨id, grown.rules.subset pushed⟩
    · refine ih ?_ none later
      cases entry with
      | none => exact complete
      | some head =>
        rw [pushUser, (Grows.push emission head).space]
        exact complete

end Emission

/-! ## The filters of lists -/

/-- The draft of a filter of a list, unless it is cosmetic or its pattern is no valid expression. -/
def SourcedFilter.draft? (config : CompilerConfig) (sourced : SourcedFilter) : Option RuleDraft :=
  match sourced.filter with
  | .network filter =>
    RuleDraft.ofFilter? config sourced.category (.ofListFilter filter) filter
  | _ => none

namespace ListEmission

/-- A cosmetic filter changes nothing, and a network filter without a draft is rejected.  A draft above
the ceiling is dropped; any other one is pushed, and counted if it got an id. -/
theorem pushFilter_cases (config : CompilerConfig) (ceiling : Nat) (state : ListEmission)
    (sourced : SourcedFilter) :
    ((∀ filter, sourced.filter ≠ .network filter) ∧ sourced.draft? config = none ∧
      state.pushFilter config ceiling sourced = state) ∨
    (∃ filter, sourced.filter = .network filter ∧ sourced.draft? config = none ∧
      state.pushFilter config ceiling sourced =
        { state with emission := state.emission.reject }) ∨
    (∃ draft, sourced.draft? config = some draft ∧ ceiling ≤ state.emitted ∧
      state.pushFilter config ceiling sourced =
        { state with capacityDropped := state.capacityDropped + 1 }) ∨
    (∃ draft, sourced.draft? config = some draft ∧ state.emitted < ceiling ∧
      state.pushFilter config ceiling sourced =
        { state with
          emission := (state.emission.push draft).1
          emitted := state.emitted + if (state.emission.push draft).2 then 1 else 0
          lists := (if (state.emission.push draft).2 then [sourced.listIndex] else []) ++
            state.lists }) := by
  rcases sourced with ⟨index, category, filter | filter | filter⟩
  · rcases drafted : RuleDraft.ofFilter? config category (.ofListFilter filter) filter with _ | draft
    · refine .inr (.inl ⟨filter, rfl, drafted, ?_⟩)
      simp only [pushFilter, drafted]
    · by_cases above : ceiling ≤ state.emitted
      · refine .inr (.inr (.inl ⟨draft, drafted, above, ?_⟩))
        simp only [pushFilter, drafted, if_pos above]
      · refine .inr (.inr (.inr ⟨draft, drafted, Nat.lt_of_not_ge above, ?_⟩))
        simp only [pushFilter, drafted, if_neg above]
        rcases state.emission.push draft with ⟨emission, _ | _⟩ <;> rfl
  · exact .inl ⟨by simp, rfl, rfl⟩
  · exact .inl ⟨by simp, rfl, rfl⟩

/-- What holds at the start and outlasts every push holds when the filters are through. -/
theorem foldl_pushFilter_induct {motive : Emission → Prop} {config : CompilerConfig} {ceiling : Nat}
    {filters : List SourcedFilter} {state : ListEmission} (start : motive state.emission)
    (reject : ∀ emission, motive emission → motive emission.reject)
    (push : ∀ emission sourced draft, sourced ∈ filters → sourced.draft? config = some draft →
      motive emission → motive (emission.push draft).1) :
    motive (filters.foldl (pushFilter config ceiling) state).emission := by
  induction filters generalizing state with
  | nil => exact start
  | cons head rest ih =>
    rw [List.foldl_cons]
    apply ih
    · rcases pushFilter_cases config ceiling state head with
        ⟨_, _, pushed⟩ | ⟨_, _, _, pushed⟩ | ⟨_, _, _, pushed⟩ | ⟨draft, drafted, _, pushed⟩
      · rw [pushed]
        exact start
      · rw [pushed]
        exact reject _ start
      · rw [pushed]
        exact start
      · rw [pushed]
        exact push _ head draft List.mem_cons_self drafted start
    · intro emission sourced draft later
      exact push emission sourced draft (List.mem_cons_of_mem _ later)

theorem grows_foldl_pushFilter (config : CompilerConfig) (ceiling : Nat)
    (filters : List SourcedFilter) (state : ListEmission) :
    state.emission.Grows (filters.foldl (pushFilter config ceiling) state).emission := by
  apply foldl_pushFilter_induct (Emission.Grows.refl state.emission)
  · intro later grown
    exact grown.trans (.reject later)
  · intro later _ draft _ _ grown
    exact grown.trans (.push later draft)

theorem capacityDropped_le_foldl (config : CompilerConfig) (ceiling : Nat)
    (filters : List SourcedFilter) (state : ListEmission) :
    state.capacityDropped ≤
      (filters.foldl (pushFilter config ceiling) state).capacityDropped := by
  induction filters generalizing state with
  | nil => exact Nat.le_refl _
  | cons head rest ih =>
    rw [List.foldl_cons]
    refine Nat.le_trans ?_ (ih _)
    rcases pushFilter_cases config ceiling state head with
      ⟨_, _, pushed⟩ | ⟨_, _, _, pushed⟩ | ⟨_, _, _, pushed⟩ | ⟨_, _, _, pushed⟩
    · exact Nat.le_of_eq (by rw [pushed])
    · exact Nat.le_of_eq (by rw [pushed])
    · rw [pushed]
      exact Nat.le_succ _
    · exact Nat.le_of_eq (by rw [pushed])

/-- If no filter was dropped, neither for want of an id nor above the ceiling, every draft among the
filters has its rule. -/
theorem exists_rule_of_mem_filters {config : CompilerConfig} {ceiling : Nat}
    {filters : List SourcedFilter} {state : ListEmission}
    (complete : state.emission.ids.space.Complete)
    (none : (filters.foldl (pushFilter config ceiling) state).emission.exhausted = [])
    (below : (filters.foldl (pushFilter config ceiling) state).capacityDropped = 0)
    {sourced : SourcedFilter} (member : sourced ∈ filters) {draft : RuleDraft}
    (drafted : sourced.draft? config = some draft) :
    ∃ id, draft.toRule id ∈ (filters.foldl (pushFilter config ceiling) state).emission.rules := by
  induction filters generalizing state with
  | nil => cases member
  | cons head rest ih =>
    rw [List.foldl_cons] at none below ⊢
    have grown := grows_foldl_pushFilter config ceiling rest (state.pushFilter config ceiling head)
    rcases List.mem_cons.1 member with rfl | later
    · rcases pushFilter_cases config ceiling state sourced with
        ⟨_, undrafted, _⟩ | ⟨_, _, undrafted, _⟩ | ⟨_, _, _, pushed⟩ | ⟨other, same, _, pushed⟩
      · rw [drafted] at undrafted
        cases undrafted
      · rw [drafted] at undrafted
        cases undrafted
      · have counted := capacityDropped_le_foldl config ceiling rest
          (state.pushFilter config ceiling sourced)
        rw [below, pushed] at counted
        exact absurd counted (Nat.not_succ_le_zero _)
      · obtain rfl : draft = other := Option.some.inj (drafted.symm.trans same)
        have emission : (state.pushFilter config ceiling sourced).emission =
            (state.emission.push draft).1 := by rw [pushed]
        have left := grown.exhausted none
        rw [emission] at left
        obtain ⟨_, id, emitted⟩ := Emission.push_of_not_exhausted complete draft left
        rw [← emission] at emitted
        exact ⟨id, grown.rules.subset emitted⟩
    · refine ih ?_ none below later
      have same := (grows_foldl_pushFilter config ceiling [head] state).space
      rw [List.foldl_cons, List.foldl_nil] at same
      rw [same]
      exact complete

end ListEmission

/-! ## The whole compilation -/

namespace CompileInput

/-- The emission behind the user's entries. -/
def userEmission (input : CompileInput) (config : CompilerConfig) : Emission :=
  (input.userDrafts config).foldl Emission.pushUser (.start config.idSpace)

/-- The ceiling that is left for the rules of lists. -/
def ceiling (input : CompileInput) (config : CompilerConfig) : Nat :=
  listCeiling config.maxListRules input.ruleBudget (input.userEmission config).rules.length

/-- The emission behind the filters of lists, which follow the user's entries. -/
def listEmission (input : CompileInput) (config : CompilerConfig) : ListEmission :=
  (Optimizer.optimize input.sourcedFilters).kept.foldl
    (ListEmission.pushFilter config (input.ceiling config)) ⟨input.userEmission config, 0, [], 0⟩

/-- Everything that asks for an id, in order. -/
def drafts (input : CompileInput) (config : CompilerConfig) : List RuleDraft :=
  (input.userDrafts config).filterMap id ++
    (Optimizer.optimize input.sourcedFilters).kept.filterMap (·.draft? config)

theorem mem_drafts {input : CompileInput} {config : CompilerConfig} {draft : RuleDraft} :
    draft ∈ input.drafts config ↔
      (∃ entry ∈ input.whitelist, RuleDraft.ofWhitelist? entry = some draft) ∨
      (∃ entry ∈ input.blacklist, RuleDraft.ofBlacklist? config entry = some draft) ∨
      (∃ rule ∈ input.customRules, RuleDraft.ofCustomRule? config rule = some draft) ∨
      ∃ sourced ∈ (Optimizer.optimize input.sourcedFilters).kept,
        sourced.draft? config = some draft := by
  simp [drafts, userDrafts, List.mem_filterMap]

end CompileInput

/-- Under valid settings there is a compilation. -/
theorem exists_compile (input : CompileInput) {config : CompilerConfig}
    (valid : config.validate = .ok ()) : ∃ compilation, compile input config = .ok compilation := by
  simp only [compile, valid, bind, Except.bind, pure, Except.pure]
  exact ⟨_, rfl⟩

/-- A compilation holds the rules of the emission in the order of their ids and the index of the
cosmetic filters, and reports the ceiling and what was dropped on the way. -/
structure Compilation.IsOf (compilation : Compilation) (input : CompileInput)
    (config : CompilerConfig) : Prop where
  valid : config.validate = .ok ()
  rules : compilation.rules =
    (input.listEmission config).emission.rules.reverse.mergeSort fun a b => a.id ≤ b.id
  cosmetics : compilation.cosmetics = CosmeticIndex.ofEntries
    ((Optimizer.optimize input.sourcedFilters).kept.filterMap (·.filter.toCosmetic?))
  ceiling : compilation.diagnostics.listCeiling = input.ceiling config
  capacityDropped : compilation.diagnostics.capacityDropped =
    (input.listEmission config).capacityDropped
  rangeExhausted : compilation.diagnostics.rangeExhausted =
    Category.all.filterMap fun category =>
      (input.listEmission config).emission.exhausted.find? (·.category == category)

theorem compile_inv {input : CompileInput} {config : CompilerConfig} {compilation : Compilation}
    (h : compile input config = .ok compilation) : compilation.IsOf input config := by
  cases validated : config.validate with
  | error failure => simp [compile, validated, bind, Except.bind] at h
  | ok checked =>
    simp only [compile, validated, bind, Except.bind, pure, Except.pure, Except.ok.injEq] at h
    subst h
    exact ⟨validated, rfl, rfl, rfl, rfl, rfl⟩

/-- What holds at the start and outlasts the push of every draft holds of the whole emission. -/
theorem listEmission_induct {motive : Emission → Prop} {input : CompileInput}
    {config : CompilerConfig} (start : motive (.start config.idSpace))
    (reject : ∀ emission, motive emission → motive emission.reject)
    (push : ∀ emission draft, draft ∈ input.drafts config → motive emission →
      motive (emission.push draft).1) :
    motive (input.listEmission config).emission := by
  apply ListEmission.foldl_pushFilter_induct
  · apply Emission.foldl_pushUser_induct start reject
    intro emission draft member
    apply push
    exact List.mem_append_left _ (List.mem_filterMap.2 ⟨some draft, member, rfl⟩)
  · exact reject
  · intro emission sourced draft member drafted
    apply push
    exact List.mem_append_right _ (List.mem_filterMap.2 ⟨sourced, member, drafted⟩)

namespace Compilation.IsOf

variable {input : CompileInput} {config : CompilerConfig} {compilation : Compilation}

theorem perm_rules (h : compilation.IsOf input config) :
    compilation.rules.Perm (input.listEmission config).emission.rules := by
  rw [h.rules]
  exact (List.mergeSort_perm _ _).trans (List.reverse_perm _)

theorem mem_rules (h : compilation.IsOf input config) {rule : CompiledRule} :
    rule ∈ compilation.rules ↔ rule ∈ (input.listEmission config).emission.rules :=
  h.perm_rules.mem_iff

/-- Every compiled rule is a draft that got its id. -/
theorem exists_draft (h : compilation.IsOf input config) {rule : CompiledRule}
    (member : rule ∈ compilation.rules) :
    ∃ draft ∈ input.drafts config, rule = draft.toRule rule.id := by
  rw [h.mem_rules] at member
  refine listEmission_induct
    (motive := fun emission => ∀ rule ∈ emission.rules,
      ∃ draft ∈ input.drafts config, rule = draft.toRule rule.id) ?_ ?_ ?_ rule member
  · intro rule impossible
    cases impossible
  · intro emission holds
    exact holds
  · intro emission draft drafted holds rule among
    rcases Emission.push_cases emission draft with ⟨id, _, _, pushed⟩ | ⟨_, _, _, pushed⟩ | ⟨_, _, pushed⟩
    · rw [pushed] at among
      rcases List.mem_cons.1 among with rfl | before
      · exact ⟨draft, drafted, rfl⟩
      · exact holds rule before
    · rw [pushed] at among
      exact holds rule among
    · rw [pushed] at among
      exact holds rule among

theorem exhausted_eq_nil (h : compilation.IsOf input config)
    (none : compilation.diagnostics.rangeExhausted = []) :
    (input.listEmission config).emission.exhausted = [] := by
  rw [h.rangeExhausted, List.filterMap_eq_nil_iff] at none
  apply List.eq_nil_iff_forall_not_mem.2
  intro exhaustion member
  have missing := none exhaustion.category (Category.mem_all _)
  rw [List.find?_eq_none] at missing
  exact missing exhaustion member (by simp)

/-- If nothing was dropped, every draft has its compiled rule. -/
theorem exists_rule (h : compilation.IsOf input config)
    (below : compilation.diagnostics.capacityDropped = 0)
    (none : compilation.diagnostics.rangeExhausted = []) {draft : RuleDraft}
    (member : draft ∈ input.drafts config) : ∃ id, draft.toRule id ∈ compilation.rules := by
  have complete : config.idSpace.Complete := CompilerConfig.range?_isSome h.valid
  have notExhausted := h.exhausted_eq_nil none
  have grown := ListEmission.grows_foldl_pushFilter config (input.ceiling config)
    (Optimizer.optimize input.sourcedFilters).kept ⟨input.userEmission config, 0, [], 0⟩
  simp only [h.mem_rules]
  rcases List.mem_append.1 member with user | list
  · obtain ⟨entry, among, rfl⟩ := List.mem_filterMap.1 user
    obtain ⟨id, emitted⟩ :=
      Emission.exists_rule_of_mem_entries complete (grown.exhausted notExhausted) among
    exact ⟨id, grown.rules.subset emitted⟩
  · obtain ⟨sourced, kept, drafted⟩ := List.mem_filterMap.1 list
    have opened : (input.userEmission config).ids.space.Complete := by
      rw [CompileInput.userEmission, (Emission.grows_foldl_pushUser _ _).space]
      exact complete
    rw [h.capacityDropped] at below
    exact ListEmission.exists_rule_of_mem_filters opened notExhausted below kept drafted

end Compilation.IsOf

end ContentFilter
