import ContentFilter.Proofs.Compilation.Assignment

/-!
# Requests for ids

A draft of a list asks for an id as long as fewer rules of lists than the ceiling have got one.  Whoever
asks gets the id of its rank or goes without, and an emission notes how many of a category went without.
Which drafts ask, and which of them go without, is said here of the drafts alone.
-/

namespace ContentFilter

theorem RuleDraft.ranked_append (earlier first second : List RuleDraft) :
    ranked earlier (first ++ second) =
      ranked earlier first ++ ranked (first.reverse ++ earlier) second := by
  induction first generalizing earlier with
  | nil => rfl
  | cons head rest ih =>
    rw [List.cons_append, ranked, ranked, ih, List.cons_append, List.reverse_cons,
      List.append_assoc, List.singleton_append]

/-! ## Drafts without ids -/

namespace IdSpace

/-- The drafts for which there is no id. -/
def unserved (space : IdSpace) (drafts : List RuleDraft) : List RuleDraft :=
  ((RuleDraft.ranked [] drafts).filter fun ranked => (space.rule? ranked).isNone).map (·.1)

theorem rule?_eq_none_iff {space : IdSpace} {ranked : RuleDraft × Nat} :
    space.rule? ranked = none ↔ space.capacity ranked.1.category ≤ ranked.2 := by
  rw [rule?, Option.map_eq_none_iff, idAt?_eq_none_iff]

/-- Of the drafts of some categories, each has its rule or goes without. -/
theorem countP_rules_add_countP_unserved (space : IdSpace) (drafts : List RuleDraft)
    (p : Category → Bool) :
    (space.rules drafts).countP (p ·.category) + (space.unserved drafts).countP (p ·.category) =
      drafts.countP (p ·.category) := by
  have drafted := congrArg (List.countP (p ·.category)) (RuleDraft.map_fst_ranked [] drafts)
  rw [rules, unserved, ← drafted]
  generalize RuleDraft.ranked [] drafts = ranked
  induction ranked with
  | nil => rfl
  | cons head rest ih =>
    rw [List.map_cons, List.countP_cons, ← ih]
    cases found : space.rule? head with
    | none =>
      rw [List.filterMap_cons_none found, List.filter_cons_of_pos (by rw [found]; rfl),
        List.map_cons, List.countP_cons, Nat.add_assoc]
    | some rule =>
      rw [List.filterMap_cons_some found, List.filter_cons_of_neg (by rw [found]; simp),
        List.countP_cons, category_of_rule? found]
      omega

/-- Every draft has its rule or goes without. -/
theorem length_rules_add_length_unserved (space : IdSpace) (drafts : List RuleDraft) :
    (space.rules drafts).length + (space.unserved drafts).length = drafts.length := by
  have all := countP_rules_add_countP_unserved space drafts fun _ => true
  simp only [List.countP_true] at all
  exact all

/-- Of a category those go without that come after as many as there are ids. -/
theorem countP_unserved (space : IdSpace) (drafts : List RuleDraft) (category : Category) :
    (space.unserved drafts).countP (·.category == category) =
      drafts.countP (·.category == category) - space.capacity category := by
  -- on the drafts left; those in front of them may be too many already
  have step : ∀ earlier : List RuleDraft,
      (((RuleDraft.ranked earlier drafts).filter fun ranked =>
          (space.rule? ranked).isNone).map (·.1)).countP (·.category == category) +
        (earlier.countP (·.category == category) - space.capacity category) =
      drafts.countP (·.category == category) + earlier.countP (·.category == category) -
        space.capacity category := by
    induction drafts with
    | nil => simp [RuleDraft.ranked]
    | cons head rest ih =>
      intro earlier
      have tail := ih (head :: earlier)
      have without : (space.rule? (head, earlier.countP (·.category == head.category))).isNone ↔
          space.capacity head.category ≤ earlier.countP (·.category == head.category) := by
        rw [Option.isNone_iff_eq_none, rule?_eq_none_iff]
      rw [RuleDraft.ranked]
      by_cases kind : head.category = category
      · subst kind
        rw [List.countP_cons_of_pos (by simp)] at tail
        rw [List.countP_cons_of_pos (by simp)]
        by_cases full :
            space.capacity head.category ≤ earlier.countP (·.category == head.category)
        · rw [List.filter_cons_of_pos (by exact without.2 full), List.map_cons,
            List.countP_cons_of_pos (by simp)]
          omega
        · rw [List.filter_cons_of_neg (by exact fun none => full (without.1 none))]
          omega
      · rw [List.countP_cons_of_neg (by simpa using kind)] at tail
        rw [List.countP_cons_of_neg (by simpa using kind), List.filter_cons]
        split
        · rw [List.map_cons, List.countP_cons_of_neg (by simpa using kind)]
          exact tail
        · exact tail
  have whole := step []
  rw [List.countP_nil, Nat.zero_sub] at whole
  exact whole

/-- If a draft goes without, all ids of its category are used. -/
theorem countP_rules_of_unserved {space : IdSpace} {drafts : List RuleDraft} {category : Category}
    (without : 0 < (space.unserved drafts).countP (·.category == category)) :
    (space.rules drafts).countP (·.category == category) = space.capacity category := by
  have all := countP_rules_add_countP_unserved space drafts (· == category)
  rw [countP_unserved] at all without
  omega

/-! ## Drafts that ask -/

/-- Of drafts that follow `earlier` ones, those that come before `room` of them have got ids. -/
def reached (space : IdSpace) (earlier : List RuleDraft) : Nat → List RuleDraft → List RuleDraft
  | _, [] => []
  | 0, _ :: _ => []
  | room + 1, draft :: rest =>
    let served := (space.rule? (draft, earlier.countP (·.category == draft.category))).isSome
    draft :: reached space (draft :: earlier) (if served then room else room + 1) rest

theorem reached_zero (space : IdSpace) (earlier drafts : List RuleDraft) :
    space.reached earlier 0 drafts = [] := by
  cases drafts <;> rfl

/-- Those that ask are the first of the drafts. -/
theorem reached_isPrefix (space : IdSpace) (earlier : List RuleDraft) (room : Nat)
    (drafts : List RuleDraft) : space.reached earlier room drafts <+: drafts := by
  induction drafts generalizing earlier room with
  | nil =>
    have none : space.reached earlier room [] = [] := by rw [reached]
    exact none ▸ List.nil_prefix
  | cons head rest ih =>
    cases room with
    | zero =>
      rw [reached_zero]
      exact List.nil_prefix
    | succ room =>
      rw [reached]
      exact (List.prefix_cons_inj head).2 (ih _ _)

/-- Below a ceiling the next draft asks, and takes up room if there is an id for it. -/
theorem reached_cons (space : IdSpace) (earlier : List RuleDraft) {emitted ceiling : Nat}
    (below : emitted < ceiling) (draft : RuleDraft) (rest : List RuleDraft) :
    space.reached earlier (ceiling - emitted) (draft :: rest) =
      draft :: space.reached (draft :: earlier)
        (ceiling - (emitted + if (space.rule? (draft, earlier.countP
          (·.category == draft.category))).isSome then 1 else 0)) rest := by
  have room : ceiling - emitted = ceiling - (emitted + 1) + 1 := by omega
  rw [room, reached]
  split
  · rfl
  · rw [← room, Nat.add_zero]

/-- The drafts that ask for ids have the first of the rules, as many as there is room for. -/
theorem filterMap_rule?_reached (space : IdSpace) (earlier : List RuleDraft) (room : Nat)
    (drafts : List RuleDraft) :
    (RuleDraft.ranked earlier (space.reached earlier room drafts)).filterMap space.rule? =
      ((RuleDraft.ranked earlier drafts).filterMap space.rule?).take room := by
  induction drafts generalizing earlier room with
  | nil => rw [reached, RuleDraft.ranked, List.filterMap_nil, List.take_nil]
  | cons head rest ih =>
    cases room with
    | zero => rw [reached_zero, RuleDraft.ranked, List.filterMap_nil, List.take_zero]
    | succ room =>
      rw [reached, RuleDraft.ranked, RuleDraft.ranked]
      cases found : space.rule? (head, earlier.countP (·.category == head.category)) with
      | none =>
        rw [List.filterMap_cons_none found, List.filterMap_cons_none found, ih]
        rfl
      | some rule =>
        rw [List.filterMap_cons_some found, List.filterMap_cons_some found, ih]
        rfl

end IdSpace

/-! ## Bands that are used up -/

namespace IdSpace

/-- What is to be noted about a category behind the drafts of `asked`: nothing, if there were ids for
all of them. -/
def exhaustion? (space : IdSpace) (asked : List RuleDraft) (category : Category) :
    Option RangeExhaustion :=
  if asked.countP (·.category == category) ≤ space.capacity category then none
  else some ⟨category, space.capacity category,
    asked.countP (·.category == category) - space.capacity category⟩

/-- What is to be noted about a category depends on its own drafts. -/
theorem exhaustion?_cons_of_ne (space : IdSpace) (asked : List RuleDraft) {draft : RuleDraft}
    {category : Category} (other : draft.category ≠ category) :
    space.exhaustion? (draft :: asked) category = space.exhaustion? asked category := by
  rw [exhaustion?, exhaustion?, List.countP_cons_of_neg (by simpa using other)]

end IdSpace

namespace Emission

/-- How many drafts of a category were dropped for want of an id. -/
def dropped (emission : Emission) (category : Category) : Nat :=
  match emission.exhausted.find? (·.category == category) with
  | some exhaustion => exhaustion.dropped
  | none => 0

/-- One more draft of the category was dropped, and none of another one. -/
theorem find?_exhaust (emission : Emission) (category : Category) (width : Nat)
    (other : Category) :
    (emission.exhaust category width).exhausted.find? (·.category == other) =
      if category = other then some ⟨category, width, emission.dropped category + 1⟩
      else emission.exhausted.find? (·.category == other) := by
  unfold exhaust
  by_cases same : category = other
  · rw [if_pos same, List.find?_cons_of_pos (by simpa using same)]
    rfl
  · rw [if_neg same, List.find?_cons_of_neg (by simpa using same), List.find?_filter]
    congr 1
    funext exhaustion
    by_cases here : exhaustion.category = other
    · simp [here, Ne.symm same]
    · simp [here]

/-- An emission that the drafts of `asked` have gone through and that noted which of them went without
an id, and that `rejected` entries had no draft. -/
structure Tallied (space : IdSpace) (asked : List RuleDraft) (rejected : Nat)
    (emission : Emission) : Prop where
  behind : emission.Behind space asked
  exhausted : ∀ category, emission.exhausted.find? (·.category == category) =
    space.exhaustion? asked category
  rejected : emission.rejected = rejected

namespace Tallied

variable {space : IdSpace} {asked : List RuleDraft} {rejected : Nat} {emission : Emission}

theorem start (space : IdSpace) : Tallied space [] 0 (.start space) := by
  refine ⟨.start space, fun category => ?_, rfl⟩
  rw [IdSpace.exhaustion?, List.countP_nil, if_pos (Nat.zero_le _)]
  rfl

theorem reject (tallied : emission.Tallied space asked rejected) :
    emission.reject.Tallied space asked (rejected + 1) :=
  ⟨tallied.behind.reject, tallied.exhausted, congrArg (· + 1) tallied.rejected⟩

theorem dropped_eq (tallied : emission.Tallied space asked rejected) (category : Category) :
    emission.dropped category =
      asked.countP (·.category == category) - space.capacity category := by
  rw [dropped, tallied.exhausted, IdSpace.exhaustion?]
  by_cases enough : asked.countP (·.category == category) ≤ space.capacity category
  · rw [if_pos enough, Nat.sub_eq_zero_of_le enough]
  · rw [if_neg enough]

/-- A draft gets an id, or its category is noted to have dropped one more. -/
theorem push (tallied : emission.Tallied space asked rejected) (complete : space.Complete)
    (draft : RuleDraft) : (emission.push draft).1.Tallied space (draft :: asked) rejected := by
  have next := (tallied.behind.push draft).1
  have before := tallied.behind.issued draft.category
  have more : (draft :: asked).countP (·.category == draft.category) =
      asked.countP (·.category == draft.category) + 1 :=
    List.countP_cons_of_pos (beq_self_eq_true _)
  rcases push_cases emission draft with
    ⟨id, ids, answer, pushed⟩ | ⟨category, width, answer, pushed⟩ | ⟨other, answer, _⟩
  · obtain ⟨-, -, -, issued⟩ := IdAllocator.next_eq_ok tallied.behind.sound answer
    rw [pushed] at next ⊢
    have after : ids.issued draft.category = _ := next.issued draft.category
    rw [issued, if_pos rfl, more] at after
    refine ⟨next, fun category => ?_, tallied.rejected⟩
    show emission.exhausted.find? _ = _
    rw [tallied.exhausted]
    by_cases same : draft.category = category
    · subst same
      rw [IdSpace.exhaustion?, IdSpace.exhaustion?, more, if_pos (by omega), if_pos (by omega)]
    · rw [IdSpace.exhaustion?_cons_of_ne space asked same]
  · obtain ⟨rfl, rfl⟩ := IdAllocator.next_eq_exhausted tallied.behind.sound answer
    have full := IdAllocator.capacity_le_issued tallied.behind.sound answer
    rw [tallied.behind.table] at full pushed
    rw [pushed] at next ⊢
    refine ⟨next, fun category => ?_, tallied.rejected⟩
    rw [find?_exhaust, tallied.dropped_eq, tallied.exhausted]
    by_cases same : draft.category = category
    · subst same
      rw [if_pos rfl, IdSpace.exhaustion?, more, if_neg (by omega),
        Nat.sub_add_comm (by omega)]
    · rw [if_neg same, IdSpace.exhaustion?_cons_of_ne space asked same]
  · refine absurd answer (IdAllocator.next_ne_undeclared ?_ _ other)
    rw [tallied.behind.table]
    exact complete

/-- The user's entries are drafts, or are rejected. -/
theorem foldl_pushUser (tallied : emission.Tallied space asked rejected) (complete : space.Complete)
    (entries : List (Option RuleDraft)) :
    (entries.foldl pushUser emission).Tallied space ((entries.filterMap id).reverse ++ asked)
      (rejected + entries.countP (·.isNone)) := by
  induction entries generalizing asked rejected emission with
  | nil => exact tallied
  | cons entry rest ih =>
    rw [List.foldl_cons]
    cases entry with
    | none =>
      rw [List.countP_cons_of_pos rfl, Nat.add_comm _ 1, ← Nat.add_assoc]
      exact ih tallied.reject
    | some draft =>
      have drafts : (some draft :: rest).filterMap id = draft :: rest.filterMap id := rfl
      rw [drafts, List.reverse_cons, List.append_assoc, List.countP_cons_of_neg (by simp)]
      exact ih (tallied.push complete draft)

end Tallied

end Emission

/-! ## The filters of lists -/

theorem Filter.isSome_toCosmetic? {filter : Filter} (other : ∀ network, filter ≠ .network network) :
    filter.toCosmetic?.isSome := by
  cases filter with
  | network network => exact absurd rfl (other network)
  | elementHide => rfl
  | scriptlet => rfl

namespace SourcedFilter

/-- Whether a filter of a list is rejected: it is a network filter without a draft. -/
def isRejected (config : CompilerConfig) (sourced : SourcedFilter) : Bool :=
  sourced.filter.toCosmetic?.isNone && (sourced.draft? config).isNone

variable {config : CompilerConfig} {sourced : SourcedFilter}

theorem draft?_of_cosmetic (cosmetic : sourced.filter.toCosmetic?.isSome) :
    sourced.draft? config = none := by
  unfold draft?
  split
  · rename_i network
    rw [network] at cosmetic
    cases cosmetic
  · rfl

theorem not_isRejected_of_cosmetic (cosmetic : sourced.filter.toCosmetic?.isSome) :
    ¬ sourced.isRejected config := by
  rw [isRejected, Option.isNone_eq_false_iff.2 cosmetic, Bool.false_and]
  exact Bool.false_ne_true

theorem not_isRejected_of_draft {draft : RuleDraft} (drafted : sourced.draft? config = some draft) :
    ¬ sourced.isRejected config := by
  rw [isRejected, drafted, Option.isNone_some, Bool.and_false]
  exact Bool.false_ne_true

/-- A filter is cosmetic, or is rejected, or has a draft. -/
theorem length_eq (config : CompilerConfig) (filters : List SourcedFilter) :
    filters.length = (filters.filterMap (·.filter.toCosmetic?)).length +
      filters.countP (isRejected config) + (filters.filterMap (draft? config)).length := by
  induction filters with
  | nil => rfl
  | cons head rest ih =>
    rw [List.length_cons, ih]
    rcases cosmetic : head.filter.toCosmetic? with _ | entry
    · rcases drafted : head.draft? config with _ | draft
      · have counted : head.isRejected config := by rw [isRejected, cosmetic, drafted]; rfl
        rw [List.filterMap_cons_none (by exact cosmetic), List.filterMap_cons_none drafted,
          List.countP_cons_of_pos counted]
        omega
      · rw [List.filterMap_cons_none (by exact cosmetic), List.filterMap_cons_some drafted,
          List.countP_cons_of_neg (not_isRejected_of_draft drafted), List.length_cons]
        omega
    · have isCosmetic := Option.isSome_iff_exists.2 ⟨entry, cosmetic⟩
      rw [List.filterMap_cons_some (by exact cosmetic),
        List.filterMap_cons_none (draft?_of_cosmetic isCosmetic),
        List.countP_cons_of_neg (not_isRejected_of_cosmetic isCosmetic), List.length_cons]
      omega

end SourcedFilter

namespace ListEmission

/-- The filters of lists are cosmetic, or are rejected, or their drafts ask for ids, or lie above the
ceiling. -/
theorem tallied_foldl_pushFilter (config : CompilerConfig) (ceiling : Nat) {space : IdSpace}
    (complete : space.Complete) {asked : List RuleDraft} {rejected : Nat} {state : ListEmission}
    (tallied : state.emission.Tallied space asked rejected) (filters : List SourcedFilter) :
    (filters.foldl (pushFilter config ceiling) state).emission.Tallied space
        ((space.reached asked (ceiling - state.emitted)
          (filters.filterMap (SourcedFilter.draft? config))).reverse ++ asked)
        (rejected + filters.countP (SourcedFilter.isRejected config)) ∧
      (filters.foldl (pushFilter config ceiling) state).capacityDropped +
          (space.reached asked (ceiling - state.emitted)
            (filters.filterMap (SourcedFilter.draft? config))).length =
        state.capacityDropped + (filters.filterMap (SourcedFilter.draft? config)).length := by
  -- the room that is left shrinks only with the drafts that get ids
  induction filters generalizing asked rejected state with
  | nil => exact ⟨tallied, rfl⟩
  | cons head rest ih =>
    rw [List.foldl_cons]
    rcases pushFilter_cases config ceiling state head with
      ⟨other, undrafted, pushed⟩ | ⟨_, kind, undrafted, pushed⟩ | ⟨draft, drafted, full, pushed⟩ |
        ⟨draft, drafted, below, pushed⟩
    · have kept : ¬ head.isRejected config :=
        SourcedFilter.not_isRejected_of_cosmetic (Filter.isSome_toCosmetic? other)
      rw [pushed, List.countP_cons_of_neg kept, List.filterMap_cons_none undrafted]
      exact ih tallied
    · have counted : head.isRejected config = true := by
        rw [SourcedFilter.isRejected, undrafted, kind]
        rfl
      have tail := @ih asked (rejected + 1) { state with emission := state.emission.reject }
        tallied.reject
      rw [pushed, List.countP_cons_of_pos counted, List.filterMap_cons_none undrafted,
        Nat.add_comm _ 1, ← Nat.add_assoc]
      exact tail
    · have kept := SourcedFilter.not_isRejected_of_draft drafted
      have tail := @ih asked rejected { state with capacityDropped := state.capacityDropped + 1 }
        tallied
      have none : ceiling - state.emitted = 0 := Nat.sub_eq_zero_of_le full
      rw [none, IdSpace.reached_zero, List.reverse_nil, List.nil_append] at tail
      rw [pushed, List.countP_cons_of_neg kept, List.filterMap_cons_some drafted,
        none, IdSpace.reached_zero, List.reverse_nil, List.nil_append]
      refine ⟨tail.1, ?_⟩
      rw [tail.2, List.length_cons]
      show state.capacityDropped + 1 + _ = _
      omega
    · have kept := SourcedFilter.not_isRejected_of_draft drafted
      have got := (tallied.behind.push draft).2.2
      have tail := @ih (draft :: asked) rejected (state.pushFilter config ceiling head)
        (by rw [pushed]; exact tallied.push complete draft)
      have counted : (state.pushFilter config ceiling head).emitted =
          state.emitted + if (state.emission.push draft).2 then 1 else 0 := by rw [pushed]
      have undropped : (state.pushFilter config ceiling head).capacityDropped =
          state.capacityDropped := by rw [pushed]
      rw [counted, got, undropped] at tail
      rw [List.countP_cons_of_neg kept, List.filterMap_cons_some drafted,
        IdSpace.reached_cons space asked below, List.reverse_cons, List.append_assoc,
        List.length_cons, List.length_cons, ← Nat.add_assoc, ← Nat.add_assoc]
      exact ⟨tail.1, congrArg (· + 1) tail.2⟩

end ListEmission

/-! ## Whole compilations -/

namespace CompileInput

variable (input : CompileInput) (config : CompilerConfig)

/-- The drafts of lists that ask for ids, in the order in which they do. -/
def listRequests : List RuleDraft :=
  config.idSpace.reached (input.ownDrafts config).reverse (input.ceiling config)
    (input.listDrafts config)

/-- The drafts that ask for ids, in the order in which they do: all of the user's own, and those of lists
below the ceiling. -/
def requests : List RuleDraft := input.ownDrafts config ++ input.listRequests config

/-- Every entry of the user's is a draft or is none. -/
theorem length_userDrafts :
    (input.ownDrafts config).length + (input.userDrafts config).countP (·.isNone) =
      input.whitelist.length + input.blacklist.length + input.customRules.length := by
  have all : (input.userDrafts config).length =
      input.whitelist.length + input.blacklist.length + input.customRules.length := by
    rw [userDrafts, List.length_append, List.length_append, List.length_map, List.length_map,
      List.length_map]
  rw [ownDrafts, List.length_filterMap_eq_countP, ← all,
    List.length_eq_countP_add_countP (fun draft => Option.isSome draft)]
  congr 2
  funext draft
  cases draft <;> rfl

/-- What an emission notes about the drafts and the entries without one. -/
theorem tallied_listEmission (complete : config.idSpace.Complete) :
    (input.listEmission config).emission.Tallied config.idSpace (input.requests config).reverse
        ((input.userDrafts config).countP (·.isNone) +
          (Optimizer.optimize input.sourcedFilters).kept.countP
            (SourcedFilter.isRejected config)) ∧
      (input.listEmission config).capacityDropped + (input.listRequests config).length =
        (input.listDrafts config).length := by
  have user := (Emission.Tallied.start config.idSpace).foldl_pushUser complete
    (input.userDrafts config)
  rw [List.append_nil, Nat.zero_add] at user
  have opened : (⟨input.userEmission config, 0, [], 0⟩ : ListEmission).emission.Tallied
      config.idSpace (input.ownDrafts config).reverse
      ((input.userDrafts config).countP (·.isNone)) := user
  have all := ListEmission.tallied_foldl_pushFilter config (input.ceiling config) complete opened
    (Optimizer.optimize input.sourcedFilters).kept
  rw [Nat.sub_zero, Nat.zero_add] at all
  rw [requests, List.reverse_append]
  exact all

/-- If nothing lay above the ceiling, all drafts ask for ids. -/
theorem requests_of_below (complete : config.idSpace.Complete)
    (below : (input.listEmission config).capacityDropped = 0) :
    input.requests config = input.drafts config := by
  have asked : input.listRequests config <+: input.listDrafts config :=
    IdSpace.reached_isPrefix _ _ _ _
  have count := (input.tallied_listEmission config complete).2
  rw [below, Nat.zero_add] at count
  rw [requests, asked.eq_of_length count]
  rfl

/-- The rules are those of the drafts that ask for ids. -/
theorem rules_requests :
    (input.listEmission config).emission.rules =
      (config.idSpace.rules (input.requests config)).reverse := by
  have rules : config.idSpace.rules (input.requests config) =
      config.idSpace.rules (input.ownDrafts config) ++
        (config.idSpace.rules (input.listDrafts config)).take (input.ceiling config) := by
    rw [requests, IdSpace.rules, RuleDraft.ranked_append, List.filterMap_append, List.append_nil,
      listRequests, IdSpace.filterMap_rule?_reached, ranked_listDrafts]
    rfl
  rw [(input.rules_listEmission config).1, rules, List.reverse_append]

end CompileInput

/-- The rules of a compilation are those of the drafts that ask for ids. -/
theorem Compilation.IsOf.perm_requests {input : CompileInput} {config : CompilerConfig}
    {compilation : Compilation} (h : compilation.IsOf input config) :
    compilation.rules.Perm (config.idSpace.rules (input.requests config)) := by
  have emitted := h.perm_rules
  rw [input.rules_requests] at emitted
  exact emitted.trans (List.reverse_perm _)

end ContentFilter
