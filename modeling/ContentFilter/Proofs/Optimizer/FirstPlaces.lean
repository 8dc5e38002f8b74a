import ContentFilter.Optimizer.Lemmas
import ContentFilter.Proofs.Filter.Reading

/-!
# What the optimizer keeps

Which filters of a list are kept, said place by place: those that withdraw no others, that nothing in
the list withdraws, wherever it stands, and that are not the same as a filter further up that stays.
-/

namespace ContentFilter

/-- Two network filters that agree in all but the line they were read from and whether they withdraw. -/
structure NetworkFilter.Agrees (filter other : NetworkFilter) : Prop where
  pattern : filter.pattern = other.pattern
  isException : filter.isException = other.isException
  includes : filter.scope.includes = other.scope.includes
  excludes : filter.scope.excludes = other.scope.excludes
  resourceTypes : filter.resourceTypes = other.resourceTypes
  party : filter.party = other.party
  important : filter.important = other.important
  matchCase : filter.matchCase = other.matchCase

theorem NetworkFilter.agrees_iff {filter other : NetworkFilter} :
    filter.Agrees other ↔ filter.key = other.key := by
  constructor
  · rintro ⟨pattern, isException, includes, excludes, types, party, important, matchCase⟩
    have scope : filter.scope = other.scope := Domain.Scope.mk.injEq _ _ _ _ ▸ ⟨includes, excludes⟩
    simp only [key, pattern, isException, scope, types, party, important, matchCase]
  · intro same
    obtain ⟨pattern, isException, scope, types, party, important, matchCase⟩ :=
      NetworkKey.mk.injEq .. ▸ same
    exact ⟨pattern, isException, congrArg _ scope, congrArg _ scope, types, party, important, matchCase⟩

instance (filter other : NetworkFilter) : Decidable (filter.Agrees other) :=
  decidable_of_iff _ NetworkFilter.agrees_iff.symm

namespace Filter

/-- Two filters that are the same, whatever the lines that network filters were read from. -/
def Same : Filter → Filter → Prop
  | .network filter, .network other => filter.Agrees other
  | filter, other => filter = other

theorem same_iff {filter other : Filter} : filter.Same other ↔ filter.key = other.key := by
  cases filter with
  | network filter =>
    cases other with
    | network other => simp [Same, key, NetworkFilter.agrees_iff]
    | elementHide | scriptlet => simp [Same, key]
  | elementHide | scriptlet => cases other <;> simp [Same, key]

instance (filter other : Filter) : Decidable (filter.Same other) := decidable_of_iff _ same_iff.symm

/-- Whether a filter is there to withdraw others. -/
def isBadfilter : Filter → Bool
  | .network filter => filter.badfilter
  | _ => false

/-- The filter withdraws the other one, which is a network filter as well. -/
def Withdraws : Filter → Filter → Prop
  | .network filter, .network other => filter.badfilter ∧ filter.Agrees other
  | _, _ => False

instance (filter other : Filter) : Decidable (filter.Withdraws other) := by
  unfold Withdraws
  split <;> infer_instance

theorem withdraws_iff {filter other : Filter} :
    filter.Withdraws other ↔ filter.isBadfilter ∧ filter.Same other := by
  cases filter with
  | network filter => cases other <;> simp [Withdraws, isBadfilter, Same]
  | elementHide | scriptlet => simp [Withdraws, isBadfilter]

theorem Same.trans {filter other third : Filter} (same : filter.Same other) (sameToo : other.Same third) :
    filter.Same third :=
  same_iff.2 ((same_iff.1 same).trans (same_iff.1 sameToo))

theorem isSome_badfilter? (filter : Filter) : filter.badfilter?.isSome = filter.isBadfilter := by
  cases filter with
  | network filter => cases bad : filter.badfilter <;> simp [badfilter?, isBadfilter, bad]
  | elementHide | scriptlet => rfl

theorem isNone_badfilter? (filter : Filter) : filter.badfilter?.isNone = !filter.isBadfilter := by
  rw [← isSome_badfilter?, Option.not_isSome]

end Filter

namespace Optimizer

variable {filters : List SourcedFilter}

/-- A filter that withdraws no others and that no filter of the list withdraws. -/
structure Stays (filters : List SourcedFilter) (filter : Filter) : Prop where
  noBadfilter : filter.isBadfilter = false
  notWithdrawn : ∀ sourced ∈ filters, ¬ sourced.filter.Withdraws filter

instance (filters : List SourcedFilter) (filter : Filter) : Decidable (Stays filters filter) :=
  decidable_of_iff (filter.isBadfilter = false ∧ ∀ sourced ∈ filters, ¬ sourced.filter.Withdraws filter)
    ⟨fun ⟨plain, free⟩ => ⟨plain, free⟩, fun ⟨plain, free⟩ => ⟨plain, free⟩⟩

/-- A filter that is kept at its place: it stays, and no filter in front of it that stays is the same. -/
structure IsKept (filters : List SourcedFilter) (sourced : SourcedFilter) (place : Nat) : Prop where
  stays : Stays filters sourced.filter
  first : ∀ earlier ∈ filters.take place, Stays filters earlier.filter →
    ¬ earlier.filter.Same sourced.filter

instance (filters : List SourcedFilter) (sourced : SourcedFilter) (place : Nat) :
    Decidable (IsKept filters sourced place) :=
  decidable_of_iff (Stays filters sourced.filter ∧ ∀ earlier ∈ filters.take place,
      Stays filters earlier.filter → ¬ earlier.filter.Same sourced.filter)
    ⟨fun ⟨stays, first⟩ => ⟨stays, first⟩, fun ⟨stays, first⟩ => ⟨stays, first⟩⟩

/-! ## Staying -/

theorem isWithdrawn_iff {filter : Filter} : isWithdrawn (withdrawnKeys filters) filter ↔
    ∃ sourced ∈ filters, sourced.filter.Withdraws filter := by
  cases filter with
  | network network =>
    rw [isWithdrawn, List.contains_iff_mem, mem_withdrawnKeys]
    refine exists_congr fun sourced => and_congr_right fun _ => ?_
    cases sourced.filter with
    | network other => simp [Filter.Withdraws, NetworkFilter.agrees_iff]
    | elementHide | scriptlet => simp [Filter.Withdraws]
  | elementHide | scriptlet => simp [isWithdrawn, Filter.Withdraws]

theorem stays_iff {filter : Filter} : Stays filters filter ↔
    filter.badfilter?.isNone ∧ isWithdrawn (withdrawnKeys filters) filter = false := by
  rw [Filter.isNone_badfilter?, Bool.not_eq_true', ← Bool.not_eq_true, ← Bool.not_eq_true,
    isWithdrawn_iff]
  constructor
  · rintro ⟨plain, free⟩
    exact ⟨by simp [plain], fun ⟨sourced, member, withdraws⟩ => free sourced member withdraws⟩
  · rintro ⟨plain, free⟩
    exact ⟨by simpa using plain, fun sourced member withdraws => free ⟨sourced, member, withdraws⟩⟩

/-- What is left to look for repetitions in is what stays. -/
theorem kept_eq (filters : List SourcedFilter) : (optimize filters).kept =
    firstOccurrences [] (filters.filter fun sourced => decide (Stays filters sourced.filter)) := by
  have standing : (filters.filter (·.filter.badfilter?.isNone)).filter
        (!isWithdrawn (withdrawnKeys filters) ·.filter) =
      filters.filter fun sourced => decide (Stays filters sourced.filter) := by
    rw [List.filter_filter]
    refine List.filter_congr fun sourced _ => ?_
    rw [Bool.eq_iff_iff, decide_eq_true_iff, stays_iff, Bool.and_eq_true, Bool.not_eq_true', and_comm]
  rw [← standing]
  rfl

/-- A filter of the list that is the same as one that stays does so too: it cannot withdraw, since it
would withdraw the other one. -/
theorem Stays.of_same {sourced : SourcedFilter} {filter : Filter} (stays : Stays filters filter)
    (member : sourced ∈ filters) (same : sourced.filter.Same filter) : Stays filters sourced.filter := by
  refine ⟨?_, fun other among withdraws => ?_⟩
  · cases bad : sourced.filter.isBadfilter with
    | false => rfl
    | true => exact absurd (Filter.withdraws_iff.2 ⟨bad, same⟩) (stays.notWithdrawn sourced member)
  · obtain ⟨bad, sameToo⟩ := Filter.withdraws_iff.1 withdraws
    exact stays.notWithdrawn other among (Filter.withdraws_iff.2 ⟨bad, sameToo.trans same⟩)

/-! ## First places -/

theorem keys_cons (head : SourcedFilter) (rest : List SourcedFilter) :
    keys (head :: rest) = head.filter.key :: keys rest := rfl

/-- The filters with a property that come for the first time, by their places: none of those met before
is the same, and none in front that has the property. -/
theorem firstOccurrences_filter (p : SourcedFilter → Bool) (seen : List FilterKey)
    (filters : List SourcedFilter) : firstOccurrences seen (filters.filter p) =
      (filters.zipIdx.filter fun entry => p entry.1 && (!seen.contains entry.1.filter.key &&
        !(keys ((filters.take entry.2).filter p)).contains entry.1.filter.key)).map Prod.fst := by
  induction filters generalizing seen with
  | nil => rfl
  | cons head rest ih =>
    have places : ∀ q : SourcedFilter × Nat → Bool, ((rest.zipIdx 1).filter q).map Prod.fst =
        (rest.zipIdx.filter fun entry => q (entry.1, entry.2 + 1)).map Prod.fst := by
      intro q
      rw [List.zipIdx_succ, List.filter_map, List.map_map]
      rfl
    rw [List.zipIdx_cons, List.filter_cons, List.filter_cons, apply_ite (List.map Prod.fst),
      List.map_cons, places]
    cases has : p head with
    | false =>
      simp only [List.take_succ_cons, List.filter_cons, has, Bool.false_and, Bool.false_eq_true, if_false]
      exact ih seen
    | true =>
      simp only [List.take_succ_cons, List.filter_cons, has, if_true]
      have none : (keys ((head :: rest).take 0 |>.filter p)).contains head.filter.key = false := rfl
      rw [firstOccurrences, none, Bool.not_false, Bool.and_true, Bool.true_and]
      cases met : seen.contains head.filter.key with
      | true =>
        rw [if_pos rfl, if_neg (by simp), ih seen]
        congr 1
        refine List.filter_congr fun entry _ => congrArg (p entry.1 && ·) ?_
        -- what is the same as the first one was met before as well
        cases same : entry.1.filter.key == head.filter.key with
        | true => rw [eq_of_beq same, met, Bool.not_true, Bool.false_and, Bool.false_and]
        | false => rw [keys_cons, List.contains_cons, same, Bool.false_or]
      | false =>
        rw [if_neg (by simp), if_pos (by simp), ih (head.filter.key :: seen)]
        congr 2
        refine List.filter_congr fun entry _ => congrArg (p entry.1 && ·) ?_
        rw [keys_cons, List.contains_cons, List.contains_cons, Bool.not_or, Bool.not_or, Bool.and_assoc,
          Bool.and_left_comm]

/-- Filters of which no two are the same, and none was met before, all come for the first time. -/
theorem firstOccurrences_eq_self (seen : List FilterKey) (distinct : (keys filters).Nodup)
    (new : ∀ key ∈ seen, key ∉ keys filters) : firstOccurrences seen filters = filters := by
  induction filters generalizing seen with
  | nil => rfl
  | cons head rest ih =>
    obtain ⟨first, distinct⟩ := List.nodup_cons.1 distinct
    have unseen : ¬ seen.contains head.filter.key := fun met =>
      new _ (List.contains_iff_mem.1 met) List.mem_cons_self
    rw [firstOccurrences, if_neg unseen, ih _ distinct]
    intro key met later
    rcases List.mem_cons.1 met with rfl | met
    · exact first later
    · exact new key met (List.mem_cons_of_mem _ later)

theorem isKept_iff {sourced : SourcedFilter} {place : Nat} : IsKept filters sourced place ↔
    Stays filters sourced.filter ∧ sourced.filter.key ∉
      keys ((filters.take place).filter fun earlier => decide (Stays filters earlier.filter)) := by
  have repeated : sourced.filter.key ∈
        keys ((filters.take place).filter fun earlier => decide (Stays filters earlier.filter)) ↔
      ∃ earlier ∈ filters.take place, Stays filters earlier.filter ∧
        earlier.filter.Same sourced.filter := by
    simp [keys, Filter.same_iff, and_assoc]
  rw [repeated]
  constructor
  · intro isKept
    refine ⟨isKept.stays, ?_⟩
    rintro ⟨earlier, member, staysToo, same⟩
    exact isKept.first earlier member staysToo same
  · rintro ⟨stays, first⟩
    exact ⟨stays, fun earlier member staysToo same => first ⟨earlier, member, staysToo, same⟩⟩

theorem kept_eq_zipIdx (filters : List SourcedFilter) : (optimize filters).kept =
    (filters.zipIdx.filter fun entry => decide (IsKept filters entry.1 entry.2)).map Prod.fst := by
  rw [kept_eq, firstOccurrences_filter]
  congr 1
  refine List.filter_congr fun entry _ => ?_
  simp [isKept_iff]

/-- A filter that is kept is the first one of the list that is the same. -/
theorem find?_same_of_mem_kept {sourced : SourcedFilter} (kept : sourced ∈ (optimize filters).kept) :
    filters.find? (fun other => decide (other.filter.Same sourced.filter)) = some sourced := by
  rw [kept_eq_zipIdx] at kept
  obtain ⟨⟨_, place⟩, entry, rfl⟩ := List.mem_map.1 kept
  obtain ⟨placed, isKept⟩ := List.mem_filter.1 entry
  have isKept := of_decide_eq_true isKept
  obtain ⟨inside, here⟩ := List.getElem?_eq_some_iff.1 (List.mk_mem_zipIdx_iff_getElem?.1 placed)
  rw [List.find?_eq_some_iff_append]
  refine ⟨decide_eq_true (Filter.same_iff.2 rfl), filters.take place, filters.drop (place + 1), ?_, ?_⟩
  · dsimp only at here ⊢
    rw [← here, List.getElem_cons_drop, List.take_append_drop]
  · intro earlier member
    have among := List.mem_of_mem_take member
    rw [Bool.not_eq_true', decide_eq_false_iff_not]
    intro same
    exact isKept.first earlier member (isKept.stays.of_same among same) same

/-! ## How many are dropped -/

theorem badfilters_eq (filters : List SourcedFilter) :
    (optimize filters).badfilters = filters.countP (·.filter.isBadfilter) := by
  have parted := List.length_eq_countP_add_countP (fun sourced : SourcedFilter => sourced.filter.isBadfilter)
    (l := filters)
  have plain : (filters.filter (·.filter.badfilter?.isNone)).length =
      filters.countP fun sourced => !sourced.filter.isBadfilter := by
    simp only [Filter.isNone_badfilter?, List.countP_eq_length_filter]
  simp only [optimize, plain]
  simp only [Bool.not_eq_true, Bool.decide_eq_false] at parted
  omega

theorem withdrawn_eq (filters : List SourcedFilter) :
    (optimize filters).withdrawn = filters.countP fun sourced => !sourced.filter.isBadfilter &&
      decide (∃ other ∈ filters, other.filter.Withdraws sourced.filter) := by
  generalize isPlain : filters.filter (·.filter.badfilter?.isNone) = plain
  have parted := List.length_eq_countP_add_countP
    (fun sourced : SourcedFilter => isWithdrawn (withdrawnKeys filters) sourced.filter) (l := plain)
  have counted : plain.countP (fun sourced => isWithdrawn (withdrawnKeys filters) sourced.filter) =
      filters.countP fun sourced => !sourced.filter.isBadfilter &&
        decide (∃ other ∈ filters, other.filter.Withdraws sourced.filter) := by
    rw [← isPlain, List.countP_filter]
    refine List.countP_congr fun sourced _ => ?_
    rw [Bool.and_eq_true, Bool.and_eq_true, isWithdrawn_iff, decide_eq_true_iff,
      Filter.isNone_badfilter?, and_comm]
  simp only [optimize, isPlain, ← List.countP_eq_length_filter]
  simp only [Bool.not_eq_true, Bool.decide_eq_false] at parted
  omega

/-! ## Filters that have no say -/

/-- What is kept is not the same as a filter that is there to withdraw others. -/
theorem not_same_of_mem_kept {bad kept : SourcedFilter} (member : bad ∈ filters)
    (isBad : bad.filter.isBadfilter) (isKept : kept ∈ (optimize filters).kept) :
    ¬ bad.filter.Same kept.filter := by
  intro same
  obtain ⟨-, plain, stands⟩ := of_mem_kept isKept
  exact (stays_iff.2 ⟨plain, stands⟩).notWithdrawn bad member (Filter.withdraws_iff.2 ⟨isBad, same⟩)

theorem firstOccurrences_repeated (seen : List FilterKey) {before : List SourcedFilter}
    {later : SourcedFilter} (met : later.filter.key ∈ keys before) (behind : List SourcedFilter) :
    firstOccurrences seen (before ++ later :: behind) = firstOccurrences seen (before ++ behind) := by
  have known : ((keys (firstOccurrences seen before)).reverse ++ seen).contains later.filter.key := by
    rw [List.contains_iff_mem, List.mem_append, List.mem_reverse, mem_keys_firstOccurrences]
    by_cases early : later.filter.key ∈ seen
    · exact .inr early
    · exact .inl ⟨met, early⟩
  rw [firstOccurrences_append, firstOccurrences_append, firstOccurrences, if_pos known]

/-- A filter behind the same one has no say in what is kept. -/
theorem kept_repeated {before behind : List SourcedFilter} {first later : SourcedFilter}
    (member : first ∈ before) (same : first.filter.Same later.filter)
    (alike : first.filter.isBadfilter = later.filter.isBadfilter) :
    (optimize (before ++ later :: behind)).kept = (optimize (before ++ behind)).kept := by
  -- whatever the later filter withdraws, the first one withdraws too
  have stays : ∀ filter, Stays (before ++ later :: behind) filter ↔ Stays (before ++ behind) filter := by
    intro filter
    constructor
    · rintro ⟨plain, free⟩
      have within : (before ++ behind).Sublist (before ++ later :: behind) :=
        (List.sublist_cons_self later behind).append_left before
      exact ⟨plain, fun sourced among => free sourced (within.subset among)⟩
    · rintro ⟨plain, free⟩
      refine ⟨plain, fun sourced among withdraws => ?_⟩
      rw [List.mem_append, List.mem_cons] at among
      rcases among with early | rfl | late
      · exact free sourced (List.mem_append_left _ early) withdraws
      · obtain ⟨bad, sameToo⟩ := Filter.withdraws_iff.1 withdraws
        exact free first (List.mem_append_left _ member)
          (Filter.withdraws_iff.2 ⟨alike.trans bad, same.trans sameToo⟩)
      · exact free sourced (List.mem_append_right _ late) withdraws
  rw [kept_eq, kept_eq]
  simp only [stays]
  rw [List.filter_append, List.filter_append, List.filter_cons]
  split
  · rename_i laterStays
    have firstStays := (of_decide_eq_true laterStays).of_same (List.mem_append_left _ member) same
    refine firstOccurrences_repeated [] ?_ _
    rw [← Filter.same_iff.1 same]
    exact List.mem_map_of_mem (List.mem_filter.2 ⟨member, decide_eq_true firstStays⟩)
  · rfl

/-- What is kept is all kept when it is given again. -/
theorem optimize_kept (filters : List SourcedFilter) : optimize (optimize filters).kept =
    ⟨(optimize filters).kept, (optimize filters).kept.length, 0, 0, 0⟩ := by
  have plain : ∀ sourced ∈ (optimize filters).kept, sourced.filter.badfilter? = none := fun _ kept =>
    Option.isNone_iff_eq_none.1 (of_mem_kept kept).2.1
  have distinct := nodup_keys_kept filters
  generalize (optimize filters).kept = kept at plain distinct ⊢
  have allPlain : kept.filter (·.filter.badfilter?.isNone) = kept :=
    List.filter_eq_self.2 fun sourced member => Option.isNone_iff_eq_none.2 (plain sourced member)
  have allStand : kept.filter (!isWithdrawn [] ·.filter) = kept :=
    List.filter_eq_self.2 fun sourced _ => by cases sourced.filter <;> rfl
  have allFirst := firstOccurrences_eq_self [] distinct (by simp)
  simp only [optimize, withdrawnKeys_eq_nil plain, allPlain, allStand, allFirst, Nat.sub_self]

/-- What is kept are the filters at the places where they are to be kept, in their order: those that
withdraw no others, are not withdrawn and do not repeat one in front of them.  Each of them stands for the
first list that has it.  All others are counted, and nothing changes when what is kept is given again. -/
theorem optimize_keeps_firstPlaces (filters : List SourcedFilter) :
    (optimize filters).kept =
      (filters.zipIdx.filter fun entry => decide (IsKept filters entry.1 entry.2)).map Prod.fst ∧
    (∀ sourced ∈ (optimize filters).kept,
      filters.find? (fun other => decide (other.filter.Same sourced.filter)) = some sourced) ∧
    (optimize filters).before = filters.length ∧
    (optimize filters).badfilters = filters.countP (·.filter.isBadfilter) ∧
    (optimize filters).withdrawn = filters.countP (fun sourced => !sourced.filter.isBadfilter &&
      decide (∃ other ∈ filters, other.filter.Withdraws sourced.filter)) ∧
    (optimize filters).before = (optimize filters).after + (optimize filters).duplicates +
      (optimize filters).badfilters + (optimize filters).withdrawn ∧
    optimize (optimize filters).kept =
      ⟨(optimize filters).kept, (optimize filters).kept.length, 0, 0, 0⟩ := by
  have accounted := before_eq filters
  simp only [Filter.isSome_badfilter?, ← badfilters_eq] at accounted
  refine ⟨kept_eq_zipIdx filters, fun _ kept => find?_same_of_mem_kept kept, rfl, badfilters_eq filters,
    withdrawn_eq filters, ?_, optimize_kept filters⟩
  rw [accounted, Nat.add_right_comm]

/-- Two lists with a selector and a host in common, the host behind other lines; the second list withdraws
a host of a third one. -/
def overlapping : List SourcedFilter :=
  [⟨0, .ads, .network (Filter.ofPattern "||a.test^")⟩,
   ⟨0, .ads, .elementHide ⟨".ad", .everywhere, false⟩⟩,
   ⟨1, .trackers, .elementHide ⟨".ad", .everywhere, false⟩⟩,
   ⟨1, .trackers, .network { Filter.ofPattern "||a.test^" with sourceLine := "0.0.0.0 a.test" }⟩,
   ⟨1, .trackers, .network { Filter.ofPattern "||b.test^" with badfilter := true }⟩,
   ⟨2, .malware, .network (Filter.ofPattern "||b.test^")⟩]

theorem optimize_keeps_firstPlaces_overlapping :
    (⟨0, .ads, .elementHide ⟨".ad", .everywhere, false⟩⟩ : SourcedFilter) ∈ (optimize overlapping).kept ∧
    overlapping.find? (fun other => decide (other.filter.Same (.elementHide ⟨".ad", .everywhere, false⟩))) =
      some ⟨0, .ads, .elementHide ⟨".ad", .everywhere, false⟩⟩ ∧
    (optimize overlapping).after = 2 ∧ (optimize overlapping).duplicates = 2 := by
  have kept : (⟨0, .ads, .elementHide ⟨".ad", .everywhere, false⟩⟩ : SourcedFilter) ∈
      (optimize overlapping).kept := by decide
  exact ⟨kept, (optimize_keeps_firstPlaces overlapping).2.1 _ kept, by decide, by decide⟩

end Optimizer

end ContentFilter
