import ContentFilter.Optimizer

/-!
# Laws of the optimizer

What is left of a list of filters keeps its order, holds no identity twice, and loses none of the
identities that stand.
-/

namespace ContentFilter

theorem Filter.badfilter?_network (filter : NetworkFilter) :
    (Filter.network filter).badfilter? = if filter.badfilter then some filter else none := rfl

namespace Optimizer

/-- The identities of filters. -/
def keys (filters : List SourcedFilter) : List FilterKey := filters.map (·.filter.key)

theorem sublist_firstOccurrences (seen : List FilterKey) (filters : List SourcedFilter) :
    (firstOccurrences seen filters).Sublist filters := by
  induction filters generalizing seen with
  | nil => exact .slnil
  | cons head rest ih =>
    simp only [firstOccurrences]
    split
    · exact (ih seen).cons head
    · exact (ih _).cons_cons head

/-- An identity comes first somewhere if it comes at all, unless it was met before. -/
theorem mem_keys_firstOccurrences {seen : List FilterKey} {filters : List SourcedFilter}
    {key : FilterKey} :
    key ∈ keys (firstOccurrences seen filters) ↔ key ∈ keys filters ∧ key ∉ seen := by
  induction filters generalizing seen with
  | nil => simp [keys, firstOccurrences]
  | cons head rest ih =>
    simp only [keys] at ih
    simp only [firstOccurrences, List.contains_iff_mem, keys]
    split
    · rename_i met
      rw [ih, List.map_cons, List.mem_cons]
      constructor
      · rintro ⟨later, new⟩
        exact ⟨.inr later, new⟩
      · rintro ⟨rfl | later, new⟩
        · exact absurd met new
        · exact ⟨later, new⟩
    · rename_i new
      rw [List.map_cons, List.mem_cons, ih, List.map_cons, List.mem_cons, List.mem_cons]
      constructor
      · rintro (rfl | ⟨later, free⟩)
        · exact ⟨.inl rfl, new⟩
        · exact ⟨.inr later, fun met => free (.inr met)⟩
      · rintro ⟨rfl | later, free⟩
        · exact .inl rfl
        · by_cases same : key = head.filter.key
          · exact .inl same
          · exact .inr ⟨later, fun met => met.elim same free⟩

/-- No identity comes first twice. -/
theorem nodup_keys_firstOccurrences (seen : List FilterKey) (filters : List SourcedFilter) :
    (keys (firstOccurrences seen filters)).Nodup := by
  induction filters generalizing seen with
  | nil => simp [keys, firstOccurrences]
  | cons head rest ih =>
    simp only [firstOccurrences]
    split
    · exact ih seen
    · have later := ih (head.filter.key :: seen)
      refine List.nodup_cons.2 ⟨fun met => ?_, later⟩
      exact (mem_keys_firstOccurrences.1 met).2 List.mem_cons_self

/-- What is left keeps its order. -/
theorem sublist_kept (filters : List SourcedFilter) : (optimize filters).kept.Sublist filters :=
  ((sublist_firstOccurrences [] _).trans List.filter_sublist).trans List.filter_sublist

/-- What is left holds no identity twice. -/
theorem nodup_keys_kept (filters : List SourcedFilter) : (keys (optimize filters).kept).Nodup :=
  nodup_keys_firstOccurrences [] _

/-- Every filter is left, or repeats one that is, or is withdrawn, or withdraws others. -/
theorem before_eq (filters : List SourcedFilter) :
    (optimize filters).before = (optimize filters).after + (optimize filters).duplicates +
      (optimize filters).withdrawn + filters.countP (·.filter.badfilter?.isSome) := by
  have withdrawing : filters.length = filters.countP (·.filter.badfilter?.isSome) +
      (filters.filter (·.filter.badfilter?.isNone)).length := by
    rw [List.length_eq_countP_add_countP (fun sourced => sourced.filter.badfilter?.isSome),
      ← List.countP_eq_length_filter]
    congr 2
    funext sourced
    cases sourced.filter.badfilter? <;> rfl
  have standing := List.length_filter_le
    (fun sourced => !isWithdrawn (withdrawnKeys filters) sourced.filter)
    (filters.filter (·.filter.badfilter?.isNone))
  have first := (sublist_firstOccurrences []
    ((filters.filter (·.filter.badfilter?.isNone)).filter
      (!isWithdrawn (withdrawnKeys filters) ·.filter))).length_le
  simp only [optimize, Outcome.after]
  omega

/-! ## Filters that are appended -/

/-- Filters behind others only add to what comes for the first time. -/
theorem firstOccurrences_append (seen : List FilterKey) (filters added : List SourcedFilter) :
    firstOccurrences seen (filters ++ added) = firstOccurrences seen filters ++
      firstOccurrences ((keys (firstOccurrences seen filters)).reverse ++ seen) added := by
  induction filters generalizing seen with
  | nil => rfl
  | cons head rest ih =>
    rw [List.cons_append, firstOccurrences, firstOccurrences]
    split
    · exact ih seen
    · rw [ih, keys, keys, List.map_cons, List.reverse_cons, List.append_assoc]
      rfl

theorem withdrawnKeys_eq_nil {filters : List SourcedFilter}
    (plain : ∀ sourced ∈ filters, sourced.filter.badfilter? = none) : withdrawnKeys filters = [] := by
  rw [withdrawnKeys, List.filterMap_eq_nil_iff]
  intro sourced member
  rw [plain sourced member, Option.map_none]

/-- Filters that withdraw nothing leave what is kept of those in front as it is. -/
theorem exists_kept_append (filters : List SourcedFilter) {added : List SourcedFilter}
    (plain : ∀ sourced ∈ added, sourced.filter.badfilter? = none) :
    ∃ rest, (optimize (filters ++ added)).kept = (optimize filters).kept ++ rest ∧
      rest.Sublist added := by
  have withdrawn : withdrawnKeys (filters ++ added) = withdrawnKeys filters := by
    have none := withdrawnKeys_eq_nil plain
    rw [withdrawnKeys] at none ⊢
    rw [List.filterMap_append, none, List.append_nil]
    rfl
  simp only [optimize, withdrawn, List.filter_append, firstOccurrences_append]
  exact ⟨_, rfl, ((sublist_firstOccurrences _ _).trans List.filter_sublist).trans List.filter_sublist⟩

section Standing

variable {filters : List SourcedFilter}

theorem mem_withdrawnKeys {key : NetworkKey} :
    key ∈ withdrawnKeys filters ↔
      ∃ sourced ∈ filters, ∃ filter, sourced.filter = .network filter ∧ filter.badfilter ∧
        filter.key = key := by
  simp only [withdrawnKeys, List.mem_filterMap, Option.map_eq_some_iff]
  constructor
  · intro given
    obtain ⟨sourced, member, filter, bad, rfl⟩ := given
    cases kind : sourced.filter with
    | network found =>
      rw [kind, Filter.badfilter?_network, Option.ite_none_right_eq_some] at bad
      obtain ⟨bad, same⟩ := bad
      obtain rfl : found = filter := Option.some.inj same
      exact ⟨sourced, member, found, kind, bad, rfl⟩
    | elementHide => simp [kind, Filter.badfilter?] at bad
    | scriptlet => simp [kind, Filter.badfilter?] at bad
  · intro given
    obtain ⟨sourced, member, filter, kind, bad, rfl⟩ := given
    exact ⟨sourced, member, filter, by rw [kind, Filter.badfilter?_network, if_pos bad], rfl⟩

/-- What is left comes from the list, withdraws nothing and is not withdrawn. -/
theorem of_mem_kept {sourced : SourcedFilter} (h : sourced ∈ (optimize filters).kept) :
    sourced ∈ filters ∧ sourced.filter.badfilter?.isNone ∧
      isWithdrawn (withdrawnKeys filters) sourced.filter = false := by
  have standing := (sublist_firstOccurrences [] _).subset h
  rw [List.mem_filter, List.mem_filter] at standing
  obtain ⟨⟨member, plain⟩, notWithdrawn⟩ := standing
  exact ⟨member, plain, by simpa using notWithdrawn⟩

/-- Every identity that stands is kept by some filter. -/
theorem exists_mem_kept {sourced : SourcedFilter} (member : sourced ∈ filters)
    (plain : sourced.filter.badfilter?.isNone)
    (stands : isWithdrawn (withdrawnKeys filters) sourced.filter = false) :
    ∃ other ∈ (optimize filters).kept, other.filter.key = sourced.filter.key := by
  have standing : sourced.filter.key ∈ keys ((filters.filter (·.filter.badfilter?.isNone)).filter
      (!isWithdrawn (withdrawnKeys filters) ·.filter)) := by
    refine List.mem_map_of_mem (List.mem_filter.2 ⟨List.mem_filter.2 ⟨member, plain⟩, ?_⟩)
    rw [stands]
    rfl
  have kept := mem_keys_firstOccurrences.2 ⟨standing, List.not_mem_nil⟩
  exact List.mem_map.1 kept

/-- No cosmetic filter is lost. -/
theorem exists_mem_kept_iff_of_cosmetic {filter : Filter} (cosmetic : filter.key = .cosmetic filter) :
    (∃ sourced ∈ (optimize filters).kept, sourced.filter = filter) ↔
      ∃ sourced ∈ filters, sourced.filter = filter := by
  constructor
  · rintro ⟨sourced, kept, same⟩
    exact ⟨sourced, (sublist_kept filters).subset kept, same⟩
  · rintro ⟨sourced, member, rfl⟩
    have stands : sourced.filter.badfilter?.isNone ∧
        isWithdrawn (withdrawnKeys filters) sourced.filter = false := by
      cases kind : sourced.filter with
      | network network => simp [kind, Filter.key] at cosmetic
      | elementHide => exact ⟨rfl, rfl⟩
      | scriptlet => exact ⟨rfl, rfl⟩
    obtain ⟨other, kept, same⟩ := exists_mem_kept member stands.1 stands.2
    refine ⟨other, kept, ?_⟩
    rw [cosmetic] at same
    cases kind : other.filter with
    | network network => simp [kind, Filter.key] at same
    | elementHide => simpa [kind, Filter.key] using same
    | scriptlet => simpa [kind, Filter.key] using same

end Standing

end Optimizer

end ContentFilter
