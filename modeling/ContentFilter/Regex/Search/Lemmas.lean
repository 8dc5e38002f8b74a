import ContentFilter.Regex.Search.Spans

/-!
# What a search finds

Following sets of positions through an expression leads from the starts of its matches to their ends,
so `isMatch` decides whether there is a match.
-/

namespace ContentFilter.Regex

theorem length_step (set : CharSet) (reached : Bool) {sites : List Site} {marks : Marks}
    (h : marks.length = sites.length) : (step set reached sites marks).length = sites.length := by
  induction sites generalizing reached marks with
  | nil => simp [step]
  | cons site sites ih =>
    cases marks with
    | nil => simp at h
    | cons mark marks => simp [step, ih _ (by simpa using h)]

theorem has_step (set : CharSet) (reached : Bool) {sites : List Site} {marks : Marks}
    (h : marks.length = sites.length) {j : Nat} :
    (step set reached sites marks).Has j ↔ j < sites.length ∧ ((j = 0 ∧ reached) ∨
      ∃ i site, j = i + 1 ∧ marks.Has i ∧ sites[i]? = some site ∧
        site.behind.any set.contains) := by
  induction sites generalizing reached marks j with
  | nil => simp [step, Marks.Has]
  | cons site sites ih =>
    cases marks with
    | nil => simp at h
    | cons mark marks =>
      cases j with
      | zero => simp [step, Marks.Has]
      | succ j =>
        have rest := @ih (mark && site.behind.any set.contains) marks (by simpa using h) j
        simp only [step, Marks.Has, List.getElem?_cons_succ] at rest ⊢
        rw [rest]
        constructor
        · rintro ⟨inside, ⟨rfl, first⟩ | ⟨i, site, rfl, has, found, mem⟩⟩
          · simp only [Bool.and_eq_true] at first
            exact ⟨by simp; omega, .inr ⟨0, site, rfl, by simp [first.1], by simp, first.2⟩⟩
          · exact ⟨by simp; omega, .inr ⟨i + 1, site, rfl, has, found, mem⟩⟩
        · rintro ⟨inside, ⟨absurd, _⟩ | ⟨i, site, same, has, found, mem⟩⟩
          · omega
          · obtain rfl : j = i := by omega
            refine ⟨by simpa using inside, ?_⟩
            cases j with
            | zero =>
              simp only [List.getElem?_cons_zero, Option.some.injEq] at has found
              exact .inl ⟨rfl, by simp [has, found, mem]⟩
            | succ i => exact .inr ⟨i, site, rfl, has, found, mem⟩

/-- The ends of matches are followed from their starts. -/
theorem follows_ends (text : List Char) (r : Regex) :
    Follows (text.length + 1) (ends (sites text) r) (Span text r) := by
  induction r with
  | empty =>
    intro marks length
    refine ⟨length, fun j => ?_⟩
    simp only [ends, span_empty]
    constructor
    · intro has
      exact ⟨j, has, rfl, by have := has.lt; omega⟩
    · rintro ⟨_, has, rfl, _⟩
      exact has
  | one set =>
    intro marks length
    have lengths : marks.length = (sites text).length := by rw [length, length_sites]
    refine ⟨by rw [ends, length_step set false lengths, length_sites], fun j => ?_⟩
    simp only [ends, has_step set false lengths, span_one, length_sites]
    constructor
    · rintro ⟨_, ⟨_, absurd⟩ | ⟨i, site, rfl, has, found, mem⟩⟩
      · simp at absurd
      · rw [behind_of_getElem?_sites found, Option.any_eq_true] at mem
        exact ⟨i, has, rfl, mem⟩
    · rintro ⟨i, has, rfl, c, found, mem⟩
      have inside := (List.getElem?_eq_some_iff.1 found).1
      obtain ⟨site, known⟩ : ∃ site, (sites text)[i]? = some site :=
        ⟨_, List.getElem?_eq_getElem (by rw [length_sites]; omega)⟩
      refine ⟨by omega, .inr ⟨i, site, rfl, has, known, ?_⟩⟩
      rw [behind_of_getElem?_sites known, found]
      exact mem
  | position condition =>
    intro marks length
    have lengths : (sites text).length = marks.length := by rw [length, length_sites]
    refine ⟨by simp [ends, lengths, length], fun j => ?_⟩
    simp only [ends, span_position, Marks.Has, List.getElem?_zipWith]
    constructor
    · intro has
      cases known : (sites text)[j]? with
      | none => simp [known] at has
      | some site =>
        cases marked : marks[j]? with
        | none => simp [marked] at has
        | some mark =>
          simp only [known, marked, Option.some.injEq, Bool.and_eq_true] at has
          exact ⟨j, by rw [marked, has.1], rfl, site, known, has.2⟩
    · rintro ⟨_, has, rfl, site, known, holds⟩
      simp [has, known, holds]
  | group captures a ih =>
    intro marks length
    simp only [ends, span_group]
    exact ih marks length
  | concat a b ihA ihB =>
    intro marks length
    obtain ⟨lengthA, hasA⟩ := ihA marks length
    obtain ⟨lengthB, hasB⟩ := ihB _ lengthA
    refine ⟨lengthB, fun j => ?_⟩
    simp only [ends, hasB, hasA, span_concat]
    constructor
    · rintro ⟨k, ⟨i, has, left⟩, right⟩
      exact ⟨i, has, k, left, right⟩
    · rintro ⟨i, has, k, left, right⟩
      exact ⟨k, ⟨i, has, left⟩, right⟩
  | alternate a b ihA ihB =>
    intro marks length
    obtain ⟨lengthA, hasA⟩ := ihA marks length
    obtain ⟨lengthB, hasB⟩ := ihB marks length
    have lengths := lengthA.trans lengthB.symm
    refine ⟨(Marks.length_union lengths).trans lengthA, fun j => ?_⟩
    simp only [ends, Marks.has_union lengths, hasA, hasB, span_alternate, and_or_left, exists_or]
  | repeated low spare a ih =>
    intro marks length
    obtain ⟨lengthDue, hasDue⟩ := ih.iterate low marks length
    have bounded : ∀ {i j}, marks.Has i → (Span text (.repeated low spare a) i j ↔
        ∃ k, Rounds (Span text a) low i k ∧
          ∃ m, (∀ most ∈ spare, m ≤ most) ∧ Rounds (Span text a) m k j) := fun has =>
      span_repeated (by have := has.lt; omega)
    have regroup : ∀ {P : Nat → Nat → Prop} {j}, (∀ k m, P k m ↔ Rounds (Span text a) m k j ∧
        ∀ most ∈ spare, m ≤ most) →
        ((∃ k, (iterate (ends (sites text) a) low marks).Has k ∧ ∃ m, P k m) ↔
          ∃ i, marks.Has i ∧ Span text (.repeated low spare a) i j) := by
      intro P j means
      constructor
      · rintro ⟨k, has, m, holds⟩
        obtain ⟨i, has, due⟩ := (hasDue k).1 has
        obtain ⟨rounds, bound⟩ := (means k m).1 holds
        exact ⟨i, has, (bounded has).2 ⟨k, due, m, bound, rounds⟩⟩
      · rintro ⟨i, has, span⟩
        obtain ⟨k, due, m, bound, rounds⟩ := (bounded has).1 span
        exact ⟨k, (hasDue k).2 ⟨i, has, due⟩, m, (means k m).2 ⟨rounds, bound⟩⟩
    cases spare with
    | none =>
      obtain ⟨lengthAll, hasAll⟩ := ih.closure_size _ lengthDue
      simp only [ends, Option.getD_none, length_sites]
      exact ⟨lengthAll, fun j => (hasAll j).trans (regroup fun k m => by simp)⟩
    | some most =>
      obtain ⟨lengthMost, hasMost⟩ := ih.closure most _ lengthDue
      simp only [ends, Option.getD_some]
      exact ⟨lengthMost, fun j => (hasMost j).trans (regroup fun k m => by simp [and_comm])⟩

/-- The search decides whether the expression matches some part of the text. -/
theorem isMatch_iff {r : Regex} {text : List Char} : r.isMatch text ↔ r.MatchesWithin text := by
  have length : ((sites text).map fun _ => true).length = text.length + 1 := by
    simp [length_sites]
  have everywhere : ∀ i, Marks.Has ((sites text).map fun _ => true) i ↔ i ≤ text.length := by
    intro i
    rw [Marks.Has, List.getElem?_map]
    constructor
    · intro has
      obtain ⟨site, known, _⟩ := Option.map_eq_some_iff.1 has
      have := (List.getElem?_eq_some_iff.1 known).1
      rw [length_sites] at this
      omega
    · intro inside
      rw [List.getElem?_eq_getElem (by rw [length_sites]; omega), Option.map_some]
  obtain ⟨-, has⟩ := follows_ends text r _ length
  simp only [isMatch, Marks.any_iff, has, everywhere]
  constructor
  · rintro ⟨_, _, _, before, middle, behind, split, _, _, found⟩
    exact ⟨before, middle, behind, split, found⟩
  · rintro ⟨before, middle, behind, rfl, found⟩
    exact ⟨_, _, by simp, before, middle, behind, rfl, rfl, rfl, found⟩

end ContentFilter.Regex
