import ContentFilter.Regex.Search.Rounds

/-!
# Spans of matches

Where the matches of an expression in a fixed text begin and end, by the shape of the expression.
-/

namespace ContentFilter

theorem length_sitesFrom (before : Option Char) (text : List Char) :
    (sitesFrom before text).length = text.length + 1 := by
  induction text generalizing before with
  | nil => rfl
  | cons c rest ih => simp [sitesFrom, ih]

theorem length_sites (text : List Char) : (sites text).length = text.length + 1 :=
  length_sitesFrom none text

theorem getElem?_sitesFrom (first : Option Char) (before behind : List Char) :
    (sitesFrom first (before ++ behind))[before.length]? =
      some ⟨before.getLast?.or first, behind.head?⟩ := by
  induction before generalizing first with
  | nil => cases behind <;> simp [sitesFrom]
  | cons c rest ih =>
    simp only [List.cons_append, sitesFrom, List.length_cons, List.getElem?_cons_succ, ih]
    cases rest with
    | nil => simp
    | cons d rest => rw [List.getLast?_cons_cons, List.getLast?_cons, Option.some_or, Option.some_or]

/-- The position behind the characters of `before`. -/
theorem getElem?_sites (before behind : List Char) :
    (sites (before ++ behind))[before.length]? = some ⟨before.getLast?, behind.head?⟩ := by
  simp [sites, getElem?_sitesFrom]

/-- The character behind a position. -/
theorem behind_of_getElem?_sites {text : List Char} {i : Nat} {site : Site}
    (found : (sites text)[i]? = some site) : site.behind = text[i]? := by
  have inside : i ≤ text.length := by
    have := (List.getElem?_eq_some_iff.1 found).1
    rw [length_sites] at this
    omega
  have known := getElem?_sites (text.take i) (text.drop i)
  rw [List.take_append_drop, List.length_take, Nat.min_eq_left inside, found] at known
  obtain rfl := Option.some.inj known
  simp [List.head?_drop]

namespace Regex

/-- Within the text, the expression matches what lies between the positions `i` and `j`. -/
def Span (text : List Char) (r : Regex) (i j : Nat) : Prop :=
  ∃ before middle behind, text = before ++ middle ++ behind ∧ before.length = i ∧
    (before ++ middle).length = j ∧ r.Matches before middle behind

theorem span_empty {text : List Char} {i j : Nat} :
    Span text .empty i j ↔ i = j ∧ i ≤ text.length := by
  constructor
  · rintro ⟨before, middle, behind, rfl, rfl, rfl, ⟨⟩⟩
    simp
  · rintro ⟨rfl, le⟩
    exact ⟨text.take i, [], text.drop i, by simp, by simp [le], by simp [le], .empty⟩

theorem span_one {text : List Char} {set : CharSet} {i j : Nat} :
    Span text (.one set) i j ↔ j = i + 1 ∧ ∃ c, text[i]? = some c ∧ set.contains c := by
  constructor
  · rintro ⟨before, middle, behind, rfl, rfl, rfl, ⟨⟩⟩
    rename_i c mem
    exact ⟨by simp, c, by simp, mem⟩
  · rintro ⟨rfl, c, found, mem⟩
    obtain ⟨inside, rfl⟩ := List.getElem?_eq_some_iff.1 found
    refine ⟨text.take i, [text[i]], text.drop (i + 1), ?_, by simp; omega, by simp; omega, .one mem⟩
    simp

theorem span_position {text : List Char} {condition : SiteCondition} {i j : Nat} :
    Span text (.position condition) i j ↔
      i = j ∧ ∃ site, (sites text)[i]? = some site ∧ condition.holds site := by
  constructor
  · rintro ⟨before, middle, behind, rfl, rfl, rfl, ⟨⟩⟩
    rename_i holds
    exact ⟨by simp, _, by simpa using getElem?_sites before behind, holds⟩
  · rintro ⟨rfl, site, found, holds⟩
    have inside : i ≤ text.length := by
      have := (List.getElem?_eq_some_iff.1 found).1
      rw [length_sites] at this
      omega
    have known := getElem?_sites (text.take i) (text.drop i)
    rw [List.take_append_drop, List.length_take, Nat.min_eq_left inside, found] at known
    obtain rfl := Option.some.inj known
    exact ⟨text.take i, [], text.drop i, by simp, by simp [inside], by simp [inside],
      .position holds⟩

theorem span_group {text : List Char} {captures : Bool} {a : Regex} {i j : Nat} :
    Span text (.group captures a) i j ↔ Span text a i j := by
  constructor
  · rintro ⟨before, middle, behind, split, first, last, ⟨⟩⟩
    exact ⟨before, middle, behind, split, first, last, by assumption⟩
  · rintro ⟨before, middle, behind, split, first, last, found⟩
    exact ⟨before, middle, behind, split, first, last, .group found⟩

theorem span_concat_of {text : List Char} {a b : Regex} {i k j : Nat} {r : Regex}
    (combine : ∀ before m₁ m₂ behind, a.Matches before m₁ (m₂ ++ behind) →
      b.Matches (before ++ m₁) m₂ behind → r.Matches before (m₁ ++ m₂) behind)
    (left : Span text a i k) (right : Span text b k j) : Span text r i j := by
  obtain ⟨before, m₁, behind₁, rfl, rfl, rfl, matchesLeft⟩ := left
  obtain ⟨before₂, m₂, behind, split, length, rfl, matchesRight⟩ := right
  rw [List.append_assoc before₂] at split
  obtain ⟨rfl, rfl⟩ := List.append_inj split length.symm
  exact ⟨before, m₁ ++ m₂, behind, by simp, rfl, by simp,
    combine _ _ _ _ matchesLeft matchesRight⟩

theorem span_concat {text : List Char} {a b : Regex} {i j : Nat} :
    Span text (.concat a b) i j ↔ ∃ k, Span text a i k ∧ Span text b k j := by
  constructor
  · rintro ⟨before, middle, behind, rfl, rfl, rfl, ⟨⟩⟩
    rename_i m₁ m₂ left right
    exact ⟨(before ++ m₁).length, ⟨before, m₁, m₂ ++ behind, by simp, rfl, rfl, left⟩,
      before ++ m₁, m₂, behind, by simp, rfl, by simp, right⟩
  · rintro ⟨k, left, right⟩
    exact span_concat_of (fun _ _ _ _ => .concat) left right

theorem span_alternate {text : List Char} {a b : Regex} {i j : Nat} :
    Span text (.alternate a b) i j ↔ Span text a i j ∨ Span text b i j := by
  constructor
  · rintro ⟨before, middle, behind, rfl, rfl, rfl, left | right⟩
    · exact .inl ⟨before, middle, behind, rfl, rfl, rfl, by assumption⟩
    · exact .inr ⟨before, middle, behind, rfl, rfl, rfl, by assumption⟩
  · rintro (⟨before, middle, behind, rfl, rfl, rfl, found⟩ |
      ⟨before, middle, behind, rfl, rfl, rfl, found⟩)
    · exact ⟨before, middle, behind, rfl, rfl, rfl, .alternateLeft found⟩
    · exact ⟨before, middle, behind, rfl, rfl, rfl, .alternateRight found⟩

theorem span_repeated_succ {text : List Char} {low : Nat} {spare : Option Nat} {a : Regex}
    {i j : Nat} :
    Span text (.repeated (low + 1) spare a) i j ↔
      ∃ k, Span text a i k ∧ Span text (.repeated low spare a) k j := by
  constructor
  · rintro ⟨before, middle, behind, rfl, rfl, rfl, ⟨⟩⟩
    rename_i m₁ m₂ left right
    exact ⟨(before ++ m₁).length, ⟨before, m₁, m₂ ++ behind, by simp, rfl, rfl, left⟩,
      before ++ m₁, m₂, behind, by simp, rfl, by simp, right⟩
  · rintro ⟨k, left, right⟩
    exact span_concat_of (fun _ _ _ _ => .repeatedDue) left right

theorem span_repeated_zero {text : List Char} {spare : Option Nat} {a : Regex} {i j : Nat} :
    Span text (.repeated 0 spare a) i j ↔ (i = j ∧ i ≤ text.length) ∨ spare ≠ some 0 ∧
      ∃ k, Span text a i k ∧ Span text (.repeated 0 (spare.map (· - 1)) a) k j := by
  constructor
  · rintro ⟨before, middle, behind, rfl, rfl, rfl, ⟨⟩⟩
    · simp
    · rename_i m₁ m₂ room left right
      exact .inr ⟨room, (before ++ m₁).length, ⟨before, m₁, m₂ ++ behind, by simp, rfl, rfl, left⟩,
        before ++ m₁, m₂, behind, by simp, rfl, by simp, right⟩
  · rintro (⟨rfl, le⟩ | ⟨room, k, left, right⟩)
    · exact ⟨text.take i, [], text.drop i, by simp, by simp [le], by simp [le], .repeatedNil⟩
    · exact span_concat_of (fun _ _ _ _ => .repeatedSpare room) left right

theorem Span.le_length {text : List Char} {r : Regex} {i j : Nat} (span : Span text r i j) :
    j ≤ text.length := by
  obtain ⟨before, middle, behind, rfl, rfl, rfl, _⟩ := span
  simp

theorem rounds_of_matches {text : List Char} {spare : Option Nat} {a : Regex}
    {before middle behind : List Char} (found : (repeated 0 spare a).Matches before middle behind)
    (split : text = before ++ middle ++ behind) :
    ∃ m, (∀ most ∈ spare, m ≤ most) ∧
      Rounds (Span text a) m before.length (before ++ middle).length := by
  generalize same : repeated 0 spare a = r at found
  induction found generalizing spare with
  | empty | one | position | group | concat | alternateLeft | alternateRight | repeatedDue => simp at same
  | repeatedNil => exact ⟨0, by simp, by simp [Rounds]⟩
  | @repeatedSpare spare _ before m₁ m₂ behind room head tail _ ih =>
    obtain ⟨-, rfl, rfl⟩ : True ∧ _ := by simpa using same
    obtain ⟨m, bound, rounds⟩ := ih (by simpa using split) rfl
    refine ⟨m + 1, ?_, (before ++ m₁).length,
      ⟨before, m₁, m₂ ++ behind, by simpa using split, rfl, rfl, head⟩, by simpa using rounds⟩
    intro most isMost
    obtain rfl : spare = some most := isMost
    have := bound (most - 1) (by simp)
    have : most ≠ 0 := fun zero => room (by rw [zero])
    omega

theorem span_of_rounds {text : List Char} {spare : Option Nat} {a : Regex} {m i j : Nat}
    (bound : ∀ most ∈ spare, m ≤ most) (inside : i ≤ text.length)
    (rounds : Rounds (Span text a) m i j) : Span text (.repeated 0 spare a) i j := by
  induction m generalizing spare i with
  | zero => exact span_repeated_zero.2 (.inl ⟨rounds, inside⟩)
  | succ m ih =>
    obtain ⟨k, head, rounds⟩ := rounds
    refine span_repeated_zero.2 (.inr ⟨?_, k, head, ih ?_ head.le_length rounds⟩)
    · rintro rfl
      exact absurd (bound 0 rfl) (by omega)
    · intro most isMost
      obtain ⟨more, rfl, rfl⟩ := Option.map_eq_some_iff.1 isMost
      have := bound more rfl
      omega

/-- A repetition matches what rounds of copies lead over. -/
theorem span_repeated {text : List Char} {low : Nat} {spare : Option Nat} {a : Regex} {i j : Nat}
    (inside : i ≤ text.length) :
    Span text (.repeated low spare a) i j ↔ ∃ k, Rounds (Span text a) low i k ∧
      ∃ m, (∀ most ∈ spare, m ≤ most) ∧ Rounds (Span text a) m k j := by
  induction low generalizing i with
  | zero =>
    constructor
    · rintro ⟨before, middle, behind, split, rfl, rfl, found⟩
      exact ⟨_, rfl, rounds_of_matches found split⟩
    · rintro ⟨_, rfl, m, bound, rounds⟩
      exact span_of_rounds bound inside rounds
  | succ low ih =>
    rw [span_repeated_succ]
    constructor
    · rintro ⟨h, head, tail⟩
      obtain ⟨k, due, more⟩ := (ih head.le_length).1 tail
      exact ⟨k, ⟨h, head, due⟩, more⟩
    · rintro ⟨k, ⟨h, head, due⟩, more⟩
      exact ⟨h, head, (ih head.le_length).2 ⟨k, due, more⟩⟩

end Regex

end ContentFilter
