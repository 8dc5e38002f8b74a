import ContentFilter.CosmeticIndex
import ContentFilter.Domain.Lemmas

/-!
# Laws of the cosmetic index

The candidates for a page are the entries that name no domain or one of the domains above the page's.
The bodies selected from them are in order, each of them once.
-/

namespace ContentFilter.CosmeticIndex

/-! ## Sets of strings in order -/

theorem eraseRepsLoop_eq_append (last : String) (items seen : List String) :
    List.eraseRepsBy.loop (· == ·) last items seen =
      seen.reverse ++ List.eraseRepsBy.loop (· == ·) last items [] := by
  induction items generalizing last seen with
  | nil => simp [List.eraseRepsBy.loop]
  | cons head rest ih =>
    simp only [List.eraseRepsBy.loop]
    split
    · exact ih last seen
    · rw [ih head (last :: seen), ih head [last]]
      simp

theorem eraseReps_cons_cons (a b : String) (rest : List String) :
    (a :: b :: rest).eraseReps =
      if a = b then (b :: rest).eraseReps else a :: (b :: rest).eraseReps := by
  show List.eraseRepsBy.loop (· == ·) a (b :: rest) [] = _
  by_cases same : a = b
  · subst same
    simp only [List.eraseRepsBy.loop, beq_self_eq_true, if_true]
    rfl
  · simp only [List.eraseRepsBy.loop, beq_eq_false_iff_ne.2 same, if_neg same]
    rw [eraseRepsLoop_eq_append]
    rfl

theorem mem_eraseReps {items : List String} {item : String} :
    item ∈ items.eraseReps ↔ item ∈ items := by
  induction items with
  | nil => rfl
  | cons a items ih =>
    cases items with
    | nil => rfl
    | cons b rest =>
      rw [eraseReps_cons_cons]
      split
      · rename_i same
        rw [ih, same]
        constructor
        · exact List.mem_cons_of_mem _
        · intro member
          rcases List.mem_cons.1 member with rfl | later
          · exact List.mem_cons_self
          · exact later
      · rw [List.mem_cons, ih, List.mem_cons (l := b :: rest)]

theorem pairwise_eraseReps {items : List String} (ordered : items.Pairwise (· ≤ ·)) :
    items.eraseReps.Pairwise (· < ·) := by
  induction items with
  | nil => exact .nil
  | cons a items ih =>
    cases items with
    | nil => exact List.pairwise_singleton _ a
    | cons b rest =>
      obtain ⟨above, later⟩ := List.pairwise_cons.1 ordered
      rw [eraseReps_cons_cons]
      split
      · exact ih later
      · rename_i differs
        refine List.pairwise_cons.2 ⟨?_, ih later⟩
        intro item member
        have lower : a < b := Std.lt_of_le_of_ne (above b List.mem_cons_self) differs
        rcases List.mem_cons.1 (mem_eraseReps.1 member) with rfl | behind
        · exact lower
        · exact Std.lt_of_lt_of_le lower ((List.pairwise_cons.1 later).1 item behind)

@[simp] theorem mem_sortedSet {items : List String} {item : String} :
    item ∈ sortedSet items ↔ item ∈ items := by
  rw [sortedSet, mem_eraseReps, List.mem_mergeSort]

theorem pairwise_sortedSet (items : List String) : (sortedSet items).Pairwise (· < ·) := by
  have sorted : (items.mergeSort fun a b => decide (a ≤ b)).Pairwise
      fun a b => decide (a ≤ b) = true := by
    apply List.pairwise_mergeSort
    · intro a b c first second
      exact decide_eq_true (Std.le_trans (of_decide_eq_true first) (of_decide_eq_true second))
    · intro a b
      simpa using Std.le_total
  exact pairwise_eraseReps (sorted.imp of_decide_eq_true)

/-! ## Candidates -/

theorem lookup_storeUnder (entry : CosmeticEntry) (domain : String)
    (table : List (String × List CosmeticEntry)) (other : String) :
    ((storeUnder entry domain table).lookup other).getD [] =
      (if domain = other then [entry] else []) ++ (table.lookup other).getD [] := by
  induction table with
  | nil =>
    by_cases same : domain = other
    · subst same
      simp [storeUnder]
    · have differs : (other == domain) = false := by simpa using Ne.symm same
      simp [storeUnder, List.lookup_cons, differs, same]
  | cons head rest ih =>
    obtain ⟨name, entries⟩ := head
    simp only [storeUnder]
    split
    · rename_i here
      obtain rfl : name = domain := by simpa using here
      by_cases same : name = other
      · subst same
        simp
      · have differs : (other == name) = false := by simpa using Ne.symm same
        simp [List.lookup_cons, differs, same]
    · rename_i elsewhere
      by_cases same : name = other
      · subst same
        have differs : ¬ domain = name := fun h => elsewhere (by simp [h])
        simp [differs]
      · have differs : (other == name) = false := by simpa using Ne.symm same
        simp [List.lookup_cons, differs, ih]

/-- An entry is stored under each of the domains that it names, in front of older ones. -/
theorem under_insert (index : CosmeticIndex) (entry : CosmeticEntry) (domain : String) :
    (index.insert entry).under domain =
      List.replicate (entry.scope.includes.count domain) entry ++ index.under domain := by
  have step : ∀ (names : List String) (table : List (String × List CosmeticEntry)),
      ((names.foldl (fun table name => storeUnder entry name table) table).lookup domain).getD [] =
        List.replicate (names.count domain) entry ++ (table.lookup domain).getD [] := by
    intro names
    induction names with
    | nil => simp
    | cons name names ih =>
      intro table
      rw [List.foldl_cons, ih, lookup_storeUnder]
      by_cases same : name = domain
      · subst same
        simp [List.replicate_succ']
      · simp [same]
  exact step entry.scope.includes index.byDomain

theorem generic_insert (index : CosmeticIndex) (entry : CosmeticEntry) :
    (index.insert entry).generic =
      if entry.scope.includes.isEmpty then entry :: index.generic else index.generic := rfl

/-- The index keeps the entries in their order. -/
@[simp] theorem entries_ofEntries (entries : List CosmeticEntry) :
    (ofEntries entries).entries = entries := by
  have step : ∀ index : CosmeticIndex,
      (entries.foldl insert index).entries = index.entries ++ entries := by
    induction entries with
    | nil => simp
    | cons head rest ih =>
      intro index
      simp [ih, insert]
  rw [ofEntries, step]
  rfl

/-- Under a domain stand the entries that name it. -/
theorem mem_under_ofEntries {entries : List CosmeticEntry} {domain : String}
    {entry : CosmeticEntry} :
    entry ∈ (ofEntries entries).under domain ↔
      entry ∈ entries ∧ domain ∈ entry.scope.includes := by
  have step : ∀ index : CosmeticIndex, entry ∈ (entries.foldl insert index).under domain ↔
      (entry ∈ entries ∧ domain ∈ entry.scope.includes) ∨ entry ∈ index.under domain := by
    induction entries with
    | nil => simp
    | cons head rest ih =>
      intro index
      rw [List.foldl_cons, ih, under_insert]
      simp only [List.mem_append, List.mem_replicate, List.mem_cons, ne_eq, List.count_eq_zero,
        Classical.not_not]
      constructor
      · rintro (⟨later, named⟩ | ⟨named, rfl⟩ | before)
        · exact .inl ⟨.inr later, named⟩
        · exact .inl ⟨.inl rfl, named⟩
        · exact .inr before
      · rintro (⟨rfl | later, named⟩ | before)
        · exact .inr (.inl ⟨named, rfl⟩)
        · exact .inl ⟨later, named⟩
        · exact .inr (.inr before)
  rw [ofEntries, step]
  simp [under, empty]

/-- The entries that name no domain stand apart. -/
theorem mem_generic_ofEntries {entries : List CosmeticEntry} {entry : CosmeticEntry} :
    entry ∈ (ofEntries entries).generic ↔ entry ∈ entries ∧ entry.scope.includes = [] := by
  have step : ∀ index : CosmeticIndex, entry ∈ (entries.foldl insert index).generic ↔
      (entry ∈ entries ∧ entry.scope.includes = []) ∨ entry ∈ index.generic := by
    induction entries with
    | nil => simp
    | cons head rest ih =>
      intro index
      rw [List.foldl_cons, ih, generic_insert]
      by_cases none : head.scope.includes = []
      · simp only [none, List.isEmpty_nil, if_true, List.mem_cons]
        constructor
        · rintro (⟨later, free⟩ | rfl | before)
          · exact .inl ⟨.inr later, free⟩
          · exact .inl ⟨.inl rfl, none⟩
          · exact .inr before
        · rintro (⟨rfl | later, free⟩ | before)
          · exact .inr (.inl rfl)
          · exact .inl ⟨later, free⟩
          · exact .inr (.inr before)
      · have some : head.scope.includes.isEmpty = false := by simpa using none
        simp only [some, List.mem_cons, Bool.false_eq_true, if_false]
        constructor
        · rintro (⟨later, free⟩ | before)
          · exact .inl ⟨.inr later, free⟩
          · exact .inr before
        · rintro (⟨rfl | later, free⟩ | before)
          · exact absurd free none
          · exact .inl ⟨later, free⟩
          · exact .inr before
  rw [ofEntries, step]
  simp [empty]

/-- The candidates for a page: the entries that name no domain, or one of those above the page's. -/
theorem mem_candidates_ofEntries {entries : List CosmeticEntry} {domain : String}
    {entry : CosmeticEntry} :
    entry ∈ (ofEntries entries).candidates domain ↔ entry ∈ entries ∧
      (entry.scope.includes = [] ∨
        ∃ name ∈ Domain.suffixes domain, name ∈ entry.scope.includes) := by
  simp only [candidates, List.mem_append, mem_generic_ofEntries, List.mem_flatMap,
    mem_under_ofEntries]
  constructor
  · rintro (⟨member, free⟩ | ⟨name, above, member, named⟩)
    · exact ⟨member, .inl free⟩
    · exact ⟨member, .inr ⟨name, above, named⟩⟩
  · rintro ⟨member, free | ⟨name, above, named⟩⟩
    · exact .inl ⟨member, free⟩
    · exact .inr ⟨name, above, member, named⟩

/-! ## Selection -/

/-- Among `entries` is one of the kind, an exception or none, that has the body and applies on the
domain. -/
def Applies (entries : List CosmeticEntry) (kind : CosmeticKind) (isException : Bool)
    (domain body : String) : Prop :=
  ∃ entry ∈ entries, entry.kind = kind ∧ entry.isException = isException ∧ entry.body = body ∧
    Domain.applies entry.scope.includes entry.scope.excludes domain

/-- A body is selected if a plain entry with it applies and no exception does. -/
theorem mem_select {kind : CosmeticKind} {domain body : String} {entries : List CosmeticEntry} :
    body ∈ select kind domain entries ↔
      Applies entries kind false domain body ∧ ¬ Applies entries kind true domain body := by
  have applying : ∀ isException, Applies entries kind isException domain body ↔
      body ∈ ((entries.filter fun entry => entry.kind == kind &&
        Domain.applies entry.scope.includes entry.scope.excludes domain).filter
          (·.isException == isException)).map (·.body) := by
    intro isException
    simp only [Applies, List.mem_map, List.mem_filter, Bool.and_eq_true, beq_iff_eq]
    constructor
    · rintro ⟨entry, member, ofKind, exception, same, applies⟩
      exact ⟨entry, ⟨⟨member, ofKind, applies⟩, exception⟩, same⟩
    · rintro ⟨entry, ⟨⟨member, ofKind, applies⟩, exception⟩, same⟩
      exact ⟨entry, member, ofKind, exception, same, applies⟩
  rw [applying, applying, select, mem_sortedSet, List.mem_filter]
  simp

/-- Every entry with normal domains that applies is a candidate. -/
theorem mem_candidates_of_applies {entries : List CosmeticEntry} {entry : CosmeticEntry}
    (member : entry ∈ entries) (normal : entry.scope.IsNormal) {host domain : String}
    (isDomain : Domain.normalize? host = some domain)
    (applies : Domain.applies entry.scope.includes entry.scope.excludes domain) :
    entry ∈ (ofEntries entries).candidates domain := by
  refine mem_candidates_ofEntries.2 ⟨member, ?_⟩
  simp only [Domain.applies, Bool.and_eq_true, Bool.or_eq_true, List.isEmpty_iff,
    List.any_eq_true] at applies
  rcases applies.1 with none | ⟨name, included, found⟩
  · exact .inl none
  · obtain ⟨token, named⟩ := normal name (.inl included)
    have small := (Domain.normalize?_eq_some isDomain).2.2.2
    have smallName := (Domain.normalize?_eq_some named).2.2.2
    exact .inr ⟨name, (Domain.matchesDomain_iff_mem_suffixes small smallName).1 found, included⟩

/-- The candidates of a kind apply just where the entries do, if these name normal domains. -/
theorem applies_candidates {entries : List CosmeticEntry} {kind : CosmeticKind}
    (normal : ∀ entry ∈ entries, entry.kind = kind → entry.scope.IsNormal) {host domain : String}
    (isDomain : Domain.normalize? host = some domain) {isException : Bool} {body : String} :
    Applies ((ofEntries entries).candidates domain) kind isException domain body ↔
      Applies entries kind isException domain body := by
  constructor
  · rintro ⟨entry, candidate, rest⟩
    exact ⟨entry, (mem_candidates_ofEntries.1 candidate).1, rest⟩
  · rintro ⟨entry, member, ofKind, exception, same, applies⟩
    exact ⟨entry, mem_candidates_of_applies member (normal entry member ofKind) isDomain applies,
      ofKind, exception, same, applies⟩

/-- What is looked up: the bodies with a plain entry that applies and no exception that does. -/
theorem mem_lookup_ofEntries {entries : List CosmeticEntry} {kind : CosmeticKind}
    (normal : ∀ entry ∈ entries, entry.kind = kind → entry.scope.IsNormal) {query body : String} :
    body ∈ (ofEntries entries).lookup kind query ↔
      ∃ domain, Domain.normalize? query = some domain ∧
        Applies entries kind false domain body ∧ ¬ Applies entries kind true domain body := by
  unfold lookup
  cases isDomain : Domain.normalize? query with
  | none => simp
  | some domain => simp [mem_select, applies_candidates normal isDomain]

theorem pairwise_lookup (index : CosmeticIndex) (kind : CosmeticKind) (query : String) :
    (index.lookup kind query).Pairwise (· < ·) := by
  unfold lookup
  split
  · exact .nil
  · exact pairwise_sortedSet _

end ContentFilter.CosmeticIndex
