import ContentFilter.Optimizer.Lemmas
import ContentFilter.Proofs.Compilation.Emission

/-!
# Room for the rules of lists

The user's own rules come first and are never dropped for want of room.  The rules of lists share what
is left, so that a compilation exceeds its budget only if the user's own rules alone do.
-/

namespace ContentFilter

/-- Whether a rule is one of the user's own: of the whitelist, of the blacklist or a custom one. -/
def CompiledRule.isOwn (rule : CompiledRule) : Bool := !rule.category.isListCategory

/-- The compiled rules that are the user's own. -/
def Compilation.ownRules (compilation : Compilation) : List CompiledRule :=
  compilation.rules.filter (·.isOwn)

/-! ## Where drafts come from -/

namespace RuleDraft

theorem category_of_ofFilter? {config : CompilerConfig} {category : Category} {tier : PriorityTier}
    {filter : NetworkFilter} {draft : RuleDraft}
    (h : ofFilter? config category tier filter = some draft) : draft.category = category := by
  unfold ofFilter? at h
  dsimp only at h
  split at h
  · cases h
    rfl
  · cases h

end RuleDraft

/-- The draft of a list's filter is filed under the category of the list. -/
theorem SourcedFilter.category_of_draft? {config : CompilerConfig} {sourced : SourcedFilter}
    {draft : RuleDraft} (h : sourced.draft? config = some draft) :
    draft.category = sourced.category := by
  unfold draft? at h
  split at h
  · exact RuleDraft.category_of_ofFilter? h
  · cases h

namespace CompileInput

/-- The user's entries are filed under categories that lists cannot have. -/
theorem isListCategory_of_mem_userDrafts {input : CompileInput} {config : CompilerConfig}
    {draft : RuleDraft} (member : some draft ∈ input.userDrafts config) :
    draft.category.isListCategory = false := by
  simp only [userDrafts, List.mem_append, List.mem_map] at member
  rcases member with (⟨entry, -, drafted⟩ | ⟨entry, -, drafted⟩) | ⟨rule, -, drafted⟩
  · obtain ⟨domain, -, rfl⟩ := Option.map_eq_some_iff.1 drafted
    rfl
  · obtain ⟨domain, -, rfl⟩ := Option.map_eq_some_iff.1 drafted
    rfl
  · rw [RuleDraft.ofCustomRule?, Option.bind_eq_bind, Option.bind_eq_some_iff] at drafted
    obtain ⟨filter, -, found⟩ := drafted
    rw [RuleDraft.category_of_ofFilter? found]
    rfl

/-- The filters of lists are filed under categories of lists. -/
theorem isListCategory_of_mem_sourcedFilters {input : CompileInput} {sourced : SourcedFilter}
    (member : sourced ∈ input.sourcedFilters) : sourced.category.isListCategory := by
  obtain ⟨⟨cached, index⟩, included, from_⟩ := List.mem_flatMap.1 member
  obtain ⟨filter, -, rfl⟩ := List.mem_map.1 from_
  have takesPart := (List.mem_filter.1 included).2
  simp only [CachedList.isIncluded, Bool.and_eq_true] at takesPart
  exact takesPart.1.2

theorem isListCategory_of_mem_kept {input : CompileInput} {sourced : SourcedFilter}
    (member : sourced ∈ (Optimizer.optimize input.sourcedFilters).kept) :
    sourced.category.isListCategory :=
  isListCategory_of_mem_sourcedFilters ((Optimizer.sublist_kept input.sourcedFilters).subset member)

/-- The rules that the user's entries yield are the user's own. -/
theorem isOwn_of_mem_userEmission {input : CompileInput} {config : CompilerConfig} :
    ∀ rule ∈ (input.userEmission config).rules, rule.isOwn := by
  apply Emission.foldl_pushUser_induct
    (motive := fun emission => ∀ rule ∈ emission.rules, rule.isOwn)
  · intro rule member
    cases member
  · intro emission own
    exact own
  · intro emission draft drafted own
    have kind := isListCategory_of_mem_userDrafts drafted
    rcases Emission.push_cases emission draft with ⟨id, _, _, pushed⟩ | ⟨_, _, _, pushed⟩ | ⟨_, _, pushed⟩
    · rw [pushed]
      intro rule member
      rcases List.mem_cons.1 member with rfl | before
      · show (!draft.category.isListCategory) = true
        rw [kind]
        rfl
      · exact own rule before
    · rw [pushed]
      exact own
    · rw [pushed]
      exact own

end CompileInput

/-! ## Below the ceiling -/

namespace ListEmission

/-- A list emission that has put rules of lists in front of those of `user`: as many as it has counted,
and no more than the ceiling. -/
structure Within (ceiling : Nat) (user : Emission) (state : ListEmission) : Prop where
  added : ∃ listed, state.emission.rules = listed ++ user.rules ∧ listed.length = state.emitted ∧
    ∀ rule ∈ listed, rule.isOwn = false
  below : state.emitted ≤ ceiling

namespace Within

variable {config : CompilerConfig} {ceiling : Nat} {user : Emission} {state : ListEmission}

theorem start (ceiling : Nat) (user : Emission) : Within ceiling user ⟨user, 0, [], 0⟩ := by
  refine ⟨⟨[], rfl, rfl, ?_⟩, Nat.zero_le _⟩
  intro rule member
  cases member

/-- A filter adds one rule that is counted, below the ceiling, or none. -/
theorem pushFilter (within : state.Within ceiling user) {sourced : SourcedFilter}
    (kind : sourced.category.isListCategory) :
    (state.pushFilter config ceiling sourced).Within ceiling user := by
  rcases pushFilter_cases config ceiling state sourced with
    ⟨_, _, pushed⟩ | ⟨_, _, _, pushed⟩ | ⟨_, _, _, pushed⟩ | ⟨draft, drafted, room, pushed⟩
  · rw [pushed]
    exact within
  · rw [pushed]
    exact ⟨within.added, within.below⟩
  · rw [pushed]
    exact ⟨within.added, within.below⟩
  · rw [pushed]
    rcases Emission.push_cases state.emission draft with
      ⟨id, ids, _, emitted⟩ | ⟨_, _, _, emitted⟩ | ⟨_, _, emitted⟩
    · rw [emitted]
      obtain ⟨listed, split, count, listedOnly⟩ := within.added
      refine ⟨⟨draft.toRule id :: listed, congrArg _ split, ?_, ?_⟩, room⟩
      · exact congrArg (· + 1) count
      · intro rule member
        rcases List.mem_cons.1 member with rfl | before
        · show (!draft.category.isListCategory) = false
          rw [SourcedFilter.category_of_draft? drafted, kind]
          rfl
        · exact listedOnly rule before
    · rw [emitted]
      exact ⟨within.added, within.below⟩
    · rw [emitted]
      exact ⟨within.added, within.below⟩

theorem foldl {filters : List SourcedFilter}
    (kinds : ∀ sourced ∈ filters, sourced.category.isListCategory)
    (within : state.Within ceiling user) :
    (filters.foldl (ListEmission.pushFilter config ceiling) state).Within ceiling user := by
  induction filters generalizing state with
  | nil => exact within
  | cons head rest ih =>
    rw [List.foldl_cons]
    apply ih
    · intro sourced member
      exact kinds sourced (List.mem_cons_of_mem _ member)
    · exact within.pushFilter (kinds head List.mem_cons_self)

end Within

end ListEmission

/-! ## The whole compilation -/

theorem CompileInput.within_listEmission (input : CompileInput) (config : CompilerConfig) :
    (input.listEmission config).Within (input.ceiling config) (input.userEmission config) :=
  .foldl (fun _ => isListCategory_of_mem_kept) (.start _ _)

namespace Compilation.IsOf

variable {input : CompileInput} {config : CompilerConfig} {compilation : Compilation}

/-- The user's own rules are those of the user's entries: lists add none and take none away. -/
theorem length_ownRules (h : compilation.IsOf input config) :
    compilation.ownRules.length = (input.userEmission config).rules.length := by
  obtain ⟨listed, split, -, listedOnly⟩ := (input.within_listEmission config).added
  have none : listed.filter (·.isOwn) = [] := by
    rw [List.filter_eq_nil_iff]
    intro rule member own
    rw [listedOnly rule member] at own
    cases own
  rw [ownRules, (h.perm_rules.filter _).length_eq, split, List.filter_append, none, List.nil_append,
    List.filter_eq_self.2 CompileInput.isOwn_of_mem_userEmission]

theorem length_rules (h : compilation.IsOf input config) :
    compilation.rules.length =
      (input.listEmission config).emitted + compilation.ownRules.length := by
  obtain ⟨listed, split, count, -⟩ := (input.within_listEmission config).added
  rw [h.length_ownRules, h.perm_rules.length_eq, split, List.length_append, count]

/-- The rules fit a budget if the user's own ones do; otherwise the lists yield none. -/
theorem length_rules_of_budget (h : compilation.IsOf input config) {budget : Nat}
    (limited : input.ruleBudget = some budget) :
    (compilation.ownRules.length ≤ budget ∧ compilation.rules.length ≤ budget) ∨
      (budget < compilation.ownRules.length ∧
        compilation.rules.length = compilation.ownRules.length) := by
  have below := (input.within_listEmission config).below
  have total := h.length_rules
  rw [CompileInput.ceiling, limited, ← h.length_ownRules] at below
  simp only [listCeiling] at below
  omega

end Compilation.IsOf

end ContentFilter
