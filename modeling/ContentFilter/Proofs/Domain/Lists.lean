import ContentFilter.Domain.Lemmas

/-!
# Lists of domains

What a scope holds that was read from lists of domains: the domains that some token excludes, and those
that some token includes and none excludes.  So it does not matter how the tokens are spread over
lists, and every such scope is well formed.
-/

namespace ContentFilter.Domain

/-! ## Tokens -/

/-- Whether a token of a list is there to include a domain: it is neither blank nor negated. -/
def isPlain (token : List Char) : Bool :=
  let token := Text.trim token
  !token.isEmpty && token.head? != some '~'

/-- The domain that a token of a list includes, if it includes one. -/
def included? (token : List Char) : Option String :=
  if isPlain token then normalize? (String.ofList (Text.trim token)) else none

/-- The domain that a token of a list excludes, if it excludes one. -/
def excluded? (token : List Char) : Option String :=
  match Text.trim token with
  | '~' :: name => normalize? (String.ofList name)
  | _ => none

theorem normalize?_of_included? {token : List Char} {name : String}
    (h : included? token = some name) : normalize? name = some name := by
  unfold included? at h
  split at h
  · exact normalize?_of_normalize? h
  · cases h

theorem normalize?_of_excluded? {token : List Char} {name : String}
    (h : excluded? token = some name) : normalize? name = some name := by
  unfold excluded? at h
  split at h
  · exact normalize?_of_normalize? h
  · cases h

theorem nodup_insertNew {list : List String} (distinct : list.Nodup) (entry : String) :
    (insertNew list entry).Nodup := by
  unfold insertNew
  split
  · exact distinct
  · rename_i new
    rw [List.contains_iff_mem] at new
    refine List.nodup_append.2 ⟨distinct, List.pairwise_singleton _ _, ?_⟩
    rintro name member other same rfl
    rw [List.mem_singleton] at same
    exact new (same ▸ member)

theorem mem_foldl_insertNew {list entries : List String} {name : String} :
    name ∈ entries.foldl insertNew list ↔ name ∈ list ∨ name ∈ entries := by
  induction entries generalizing list with
  | nil => simp
  | cons head rest ih => rw [List.foldl_cons, ih, mem_insertNew, List.mem_cons, or_assoc]

theorem nodup_foldl_insertNew {list : List String} (distinct : list.Nodup) (entries : List String) :
    (entries.foldl insertNew list).Nodup := by
  induction entries generalizing list with
  | nil => exact distinct
  | cons head rest ih => exact ih (nodup_insertNew distinct head)

namespace Scope

theorem isPlain_of_not {token : List Char} (filled : Text.trim token ≠ [])
    (unmarked : ∀ rest, Text.trim token ≠ '~' :: rest) : isPlain token := by
  unfold isPlain
  cases trimmed : Text.trim token with
  | nil => exact absurd trimmed filled
  | cons head rest =>
    have other : head ≠ '~' := by
      rintro rfl
      exact unmarked rest trimmed
    simpa using other

/-- A token adds the domain that it includes or excludes, and no other one. -/
theorem mem_addToken {scope after : Scope} {token : List Char}
    (h : scope.addToken token = some after) (name : String) :
    (name ∈ after.includes ↔ name ∈ scope.includes ∨ included? token = some name) ∧
      (name ∈ after.excludes ↔ name ∈ scope.excludes ∨ excluded? token = some name) := by
  unfold Scope.addToken at h
  unfold included? excluded?
  split at h
  · rename_i blank
    cases h
    simp [blank, isPlain]
  · rename_i rest marked
    obtain ⟨domain, found, rfl⟩ := Option.map_eq_some_iff.1 h
    simp [marked, isPlain, found, mem_insertNew, eq_comm]
  · rename_i filled unmarked
    obtain ⟨domain, found, rfl⟩ := Option.map_eq_some_iff.1 h
    rw [if_pos (isPlain_of_not filled unmarked)]
    split
    · rename_i rest marked
      exact absurd marked (unmarked rest)
    · simp [found, mem_insertNew, eq_comm]

/-- A plain token that is taken includes a domain. -/
theorem isSome_included?_of_addToken {scope after : Scope} {token : List Char}
    (h : scope.addToken token = some after) (plain : isPlain token) : (included? token).isSome := by
  unfold included?
  rw [if_pos plain]
  unfold Scope.addToken at h
  split at h
  · rename_i blank
    simp [isPlain, blank] at plain
  · rename_i rest marked
    simp [isPlain, marked] at plain
  · obtain ⟨domain, found, -⟩ := Option.map_eq_some_iff.1 h
    rw [found]
    rfl

theorem nodup_addToken {scope after : Scope} {token : List Char}
    (h : scope.addToken token = some after)
    (distinct : scope.includes.Nodup ∧ scope.excludes.Nodup) :
    after.includes.Nodup ∧ after.excludes.Nodup := by
  unfold Scope.addToken at h
  split at h
  · cases h
    exact distinct
  · obtain ⟨domain, -, rfl⟩ := Option.map_eq_some_iff.1 h
    exact ⟨distinct.1, nodup_insertNew distinct.2 domain⟩
  · obtain ⟨domain, -, rfl⟩ := Option.map_eq_some_iff.1 h
    exact ⟨nodup_insertNew distinct.1 domain, distinct.2⟩

/-- Tokens add the domains that they include or exclude. -/
theorem mem_foldlM_addToken {scope after : Scope} {tokens : List (List Char)}
    (h : tokens.foldlM addToken scope = some after) (name : String) :
    (name ∈ after.includes ↔ name ∈ scope.includes ∨ name ∈ tokens.filterMap included?) ∧
      (name ∈ after.excludes ↔ name ∈ scope.excludes ∨ name ∈ tokens.filterMap excluded?) := by
  induction tokens generalizing scope with
  | nil =>
    cases h
    simp
  | cons token rest ih =>
    rw [List.foldlM_cons, Option.bind_eq_bind, Option.bind_eq_some_iff] at h
    obtain ⟨next, added, behind⟩ := h
    obtain ⟨includes, excludes⟩ := ih behind
    obtain ⟨includesNext, excludesNext⟩ := mem_addToken added name
    simp only [List.mem_filterMap, List.mem_cons, exists_eq_or_imp] at includes excludes ⊢
    rw [includes, excludes, includesNext, excludesNext, or_assoc, or_assoc]
    exact ⟨Iff.rfl, Iff.rfl⟩

theorem isSome_included?_of_foldlM_addToken {scope after : Scope} {tokens : List (List Char)}
    (h : tokens.foldlM addToken scope = some after) :
    ∀ token ∈ tokens, isPlain token → (included? token).isSome := by
  induction tokens generalizing scope with
  | nil =>
    intro token impossible
    cases impossible
  | cons head rest ih =>
    rw [List.foldlM_cons, Option.bind_eq_bind, Option.bind_eq_some_iff] at h
    obtain ⟨next, added, behind⟩ := h
    intro token member plain
    rcases List.mem_cons.1 member with rfl | later
    · exact isSome_included?_of_addToken added plain
    · exact ih behind token later plain

theorem nodup_foldlM_addToken {scope after : Scope} {tokens : List (List Char)}
    (h : tokens.foldlM addToken scope = some after)
    (distinct : scope.includes.Nodup ∧ scope.excludes.Nodup) :
    after.includes.Nodup ∧ after.excludes.Nodup := by
  induction tokens generalizing scope with
  | nil =>
    cases h
    exact distinct
  | cons token rest ih =>
    rw [List.foldlM_cons, Option.bind_eq_bind, Option.bind_eq_some_iff] at h
    obtain ⟨next, added, behind⟩ := h
    exact ih behind (nodup_addToken added distinct)

/-- A scope that holds, each of them once, the domains that the tokens of lists exclude, and those that
they include and do not exclude. -/
structure IsOf (scope : Scope) (tokens : List (List Char)) : Prop where
  /-- Every token that is there to include a domain includes one. -/
  valid : ∀ token ∈ tokens, isPlain token → (included? token).isSome
  mem_includes : ∀ name, name ∈ scope.includes ↔
    name ∈ tokens.filterMap included? ∧ name ∉ tokens.filterMap excluded?
  mem_excludes : ∀ name, name ∈ scope.excludes ↔ name ∈ tokens.filterMap excluded?
  nodup_includes : scope.includes.Nodup
  nodup_excludes : scope.excludes.Nodup

theorem isOf_everywhere : everywhere.IsOf [] := by
  refine ⟨fun token impossible => ?_, fun name => ?_, fun name => Iff.rfl, List.nodup_nil,
    List.nodup_nil⟩
  · cases impossible
  · simp [everywhere]

theorem mem_includes_separate {scope : Scope} {name : String} :
    name ∈ scope.separate.includes ↔ name ∈ scope.includes ∧ name ∉ scope.excludes := by
  simp [separate, List.mem_filter]

theorem isOf_ofList? {separator : Char} {value : List Char} {scope : Scope}
    (h : ofList? separator value = some scope) : scope.IsOf (Text.splitOn separator value) := by
  obtain ⟨whole, read, rfl⟩ := Option.map_eq_some_iff.1 h
  have members := mem_foldlM_addToken read
  have distinct := nodup_foldlM_addToken read ⟨List.nodup_nil, List.nodup_nil⟩
  simp only [everywhere, List.not_mem_nil, false_or] at members
  constructor
  case valid => exact isSome_included?_of_foldlM_addToken read
  case mem_includes =>
    intro name
    rw [mem_includes_separate, (members name).1, (members name).2]
  case mem_excludes => exact fun name => (members name).2
  case nodup_includes => exact distinct.1.filter _
  case nodup_excludes => exact distinct.2

/-- The scope of two lists of domains.  A domain that one of them excludes is not included by the
other. -/
def merge (scope other : Scope) : Scope :=
  separate
    { includes := other.includes.foldl insertNew scope.includes
      excludes := other.excludes.foldl insertNew scope.excludes }

theorem IsOf.merge {scope other : Scope} {tokens others : List (List Char)}
    (first : scope.IsOf tokens) (second : other.IsOf others) :
    (scope.merge other).IsOf (tokens ++ others) := by
  have excluded (name : String) : name ∈ other.excludes.foldl insertNew scope.excludes ↔
      name ∈ (tokens ++ others).filterMap excluded? := by
    rw [mem_foldl_insertNew, first.mem_excludes, second.mem_excludes, List.filterMap_append,
      List.mem_append]
  constructor
  case valid =>
    intro token member plain
    rcases List.mem_append.1 member with early | late
    · exact first.valid token early plain
    · exact second.valid token late plain
  case mem_includes =>
    intro name
    rw [Scope.merge, mem_includes_separate, excluded, mem_foldl_insertNew, first.mem_includes,
      second.mem_includes, List.filterMap_append, List.filterMap_append, List.mem_append,
      List.mem_append]
    constructor
    · rintro ⟨⟨named, -⟩ | ⟨named, -⟩, free⟩
      · exact ⟨.inl named, free⟩
      · exact ⟨.inr named, free⟩
    · rintro ⟨named | named, free⟩
      · exact ⟨.inl ⟨named, fun barred => free (.inl barred)⟩, free⟩
      · exact ⟨.inr ⟨named, fun barred => free (.inr barred)⟩, free⟩
  case mem_excludes => exact excluded
  case nodup_includes => exact (nodup_foldl_insertNew first.nodup_includes _).filter _
  case nodup_excludes => exact nodup_foldl_insertNew first.nodup_excludes _

/-- A scope of domains in normal form, each of them named once, and none both ways. -/
structure WellFormed (scope : Scope) : Prop where
  normal : ∀ name, name ∈ scope.includes ∨ name ∈ scope.excludes → normalize? name = some name
  nodup_includes : scope.includes.Nodup
  nodup_excludes : scope.excludes.Nodup
  disjoint : ∀ name ∈ scope.includes, name ∉ scope.excludes

/-- Whatever lists of domains say, they describe a well-formed scope. -/
theorem IsOf.wellFormed {scope : Scope} {tokens : List (List Char)} (h : scope.IsOf tokens) :
    scope.WellFormed := by
  constructor
  case normal =>
    rintro name (included | excluded)
    · obtain ⟨token, -, named⟩ := List.mem_filterMap.1 ((h.mem_includes name).1 included).1
      exact normalize?_of_included? named
    · obtain ⟨token, -, named⟩ := List.mem_filterMap.1 ((h.mem_excludes name).1 excluded)
      exact normalize?_of_excluded? named
  case nodup_includes => exact h.nodup_includes
  case nodup_excludes => exact h.nodup_excludes
  case disjoint =>
    intro name included
    rw [h.mem_excludes]
    exact ((h.mem_includes name).1 included).2

end Scope
end ContentFilter.Domain
