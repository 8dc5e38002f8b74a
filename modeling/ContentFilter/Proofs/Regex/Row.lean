import ContentFilter.Regex.Plan.Lemmas

/-!
# Expressions in a row

What a match of an expression is made of, by the shape of the expression; in particular where the
matches of expressions that follow one another meet, and how large a machine for them is.
-/

namespace ContentFilter.Regex

/-- Expressions that follow one another. -/
def row : List Regex → Regex
  | [] => .empty
  | [r] => r
  | r :: rest => .concat r (row rest)

variable {before middle behind : List Char}

/-! ## Shapes -/

theorem matches_empty : empty.Matches before middle behind ↔ middle = [] := by
  constructor
  · rintro ⟨⟩
    rfl
  · rintro rfl
    exact .empty

theorem matches_one {set : CharSet} :
    (one set).Matches before middle behind ↔ ∃ c, middle = [c] ∧ set.contains c := by
  constructor
  · rintro ⟨⟩
    exact ⟨_, rfl, by assumption⟩
  · rintro ⟨c, rfl, mem⟩
    exact .one mem

theorem matches_position {condition : SiteCondition} :
    (position condition).Matches before middle behind ↔
      middle = [] ∧ condition.holds ⟨before.getLast?, behind.head?⟩ := by
  constructor
  · rintro ⟨⟩
    exact ⟨rfl, by assumption⟩
  · rintro ⟨rfl, holds⟩
    exact .position holds

theorem matches_textStart :
    (position .textStart).Matches before middle behind ↔ middle = [] ∧ before = [] := by
  simp [matches_position, SiteCondition.holds]

theorem matches_textEnd :
    (position .textEnd).Matches before middle behind ↔ middle = [] ∧ behind = [] := by
  simp [matches_position, SiteCondition.holds]

theorem matches_group {captures : Bool} {a : Regex} :
    (group captures a).Matches before middle behind ↔ a.Matches before middle behind := by
  constructor
  · rintro ⟨⟩
    assumption
  · exact .group

theorem matches_alternate {a b : Regex} : (alternate a b).Matches before middle behind ↔
    a.Matches before middle behind ∨ b.Matches before middle behind := by
  constructor
  · rintro (_ | _)
    · exact .inl (by assumption)
    · exact .inr (by assumption)
  · rintro (left | right)
    · exact .alternateLeft left
    · exact .alternateRight right

theorem matches_concat {a b : Regex} : (concat a b).Matches before middle behind ↔
    ∃ m₁ m₂, middle = m₁ ++ m₂ ∧ a.Matches before m₁ (m₂ ++ behind) ∧
      b.Matches (before ++ m₁) m₂ behind := by
  constructor
  · rintro ⟨⟩
    exact ⟨_, _, rfl, by assumption, by assumption⟩
  · rintro ⟨m₁, m₂, rfl, left, right⟩
    exact .concat left right

/-- Any number of characters from a set. -/
theorem matches_many {set : CharSet} :
    (repeated 0 none (one set)).Matches before middle behind ↔ ∀ c ∈ middle, set.contains c := by
  constructor
  · intro found
    generalize same : repeated 0 none (one set) = r at found
    induction found with
    | empty | one | position | group | concat | alternateLeft | alternateRight | repeatedDue =>
      simp at same
    | repeatedNil => simp
    | repeatedSpare room head tail _ ih =>
      obtain ⟨-, rfl, rfl⟩ : True ∧ _ := by simpa using same
      obtain ⟨c, rfl, mem⟩ := matches_one.1 head
      exact List.forall_mem_cons.2 ⟨mem, ih rfl⟩
  · intro all
    induction middle generalizing before with
    | nil => exact .repeatedNil
    | cons c rest ih =>
      obtain ⟨mem, all⟩ := List.forall_mem_cons.1 all
      have first : (one set).Matches before [c] (rest ++ behind) := .one mem
      have more : (repeated 0 none (one set)).Matches before ([c] ++ rest) behind :=
        .repeatedSpare (by simp) first (ih all)
      exact more

/-- An expression or nothing. -/
theorem matches_optional {a : Regex} : (repeated 0 (some 1) a).Matches before middle behind ↔
    middle = [] ∨ a.Matches before middle behind := by
  constructor
  · intro found
    cases found with
    | repeatedNil => exact .inl rfl
    | @repeatedSpare _ _ _ m₁ m₂ _ room head tail =>
      obtain rfl : m₂ = [] := by
        cases tail with
        | repeatedNil => rfl
        | repeatedSpare none => exact absurd rfl none
      rw [List.append_nil]
      exact .inr head
  · rintro (rfl | found)
    · exact .repeatedNil
    · have none : (repeated 0 (some 0) a).Matches (before ++ middle) [] behind := .repeatedNil
      have once : (repeated 0 (some 1) a).Matches before (middle ++ []) behind :=
        .repeatedSpare (by simp) found none
      rwa [List.append_nil] at once

/-! ## Rows -/

theorem matches_row_cons {r : Regex} {rest : List Regex} :
    (row (r :: rest)).Matches before middle behind ↔ ∃ m₁ m₂, middle = m₁ ++ m₂ ∧
      r.Matches before m₁ (m₂ ++ behind) ∧ (row rest).Matches (before ++ m₁) m₂ behind := by
  cases rest with
  | nil => simp [row, matches_empty]
  | cons next rest => exact matches_concat

theorem matches_row_append {rs ts : List Regex} :
    (row (rs ++ ts)).Matches before middle behind ↔ ∃ m₁ m₂, middle = m₁ ++ m₂ ∧
      (row rs).Matches before m₁ (m₂ ++ behind) ∧ (row ts).Matches (before ++ m₁) m₂ behind := by
  induction rs generalizing before middle with
  | nil =>
    simp only [row, matches_empty, List.nil_append]
    constructor
    · intro found
      exact ⟨[], middle, rfl, rfl, by simpa using found⟩
    · rintro ⟨_, m₂, rfl, rfl, found⟩
      simpa using found
  | cons r rs ih =>
    simp only [List.cons_append, matches_row_cons, ih]
    constructor
    · rintro ⟨m₁, _, rfl, head, m₂, m₃, rfl, inside, last⟩
      exact ⟨m₁ ++ m₂, m₃, by simp, ⟨m₁, m₂, rfl, by simpa using head, inside⟩, by simpa using last⟩
    · rintro ⟨_, m₃, rfl, ⟨m₁, m₂, rfl, head, inside⟩, last⟩
      exact ⟨m₁, m₂ ++ m₃, by simp, by simpa using head, m₂, m₃, rfl, inside, by simpa using last⟩

/-- A row takes no more room than its expressions apart, or the state that does nothing. -/
theorem size_row_le (direction : Direction) (rs : List Regex) :
    (row rs).plan.size direction ≤ Plan.stateSize + Plan.sizes direction (rs.map plan) := by
  induction rs with
  | nil => exact Nat.le_refl _
  | cons r rest ih =>
    cases rest with
    | nil => simp [row, Plan.sizes]
    | cons next rest =>
      have joined := Plan.size_append_le direction r.plan (row (next :: rest)).plan
      rw [List.map_cons, Plan.sizes, row, plan_concat]
      · omega
      · simp

end ContentFilter.Regex
