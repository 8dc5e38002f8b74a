import ContentFilter.FilterPattern

/-!
# How globs are written

Every text is the way to write one glob, the one it is read as.  The rules say where a bar is an anchor:
as many as can be at the start, and then one at the end.
-/

namespace ContentFilter

namespace Glob

variable {glob : Glob} {text left body : List Char}

/-- An anchor as it is written. -/
def opening : GlobStart → List Char
  | .anywhere => []
  | .start => ['|']
  | .host => ['|', '|']

/-- The end of a glob as it is written. -/
def closing (atEnd : Bool) : List Char := if atEnd then ['|'] else []

/-- The glob is written as the text: an anchor, a character for every part, and a bar for the end.
Neither anchor stands where another bar would make it a longer one, or make one of the text. -/
def IsWrittenAs (glob : Glob) (text : List Char) : Prop :=
  ∃ body, text = opening glob.start ++ (body ++ closing glob.atEnd) ∧
    glob.parts = body.map partOf ∧
    (glob.start ≠ .host → (body ++ closing glob.atEnd).head? ≠ some '|') ∧
    (glob.atEnd = false → body.getLast? ≠ some '|')

theorem splitStart_eq_iff {anchor : GlobStart} : splitStart text = (anchor, left) ↔
    text = opening anchor ++ left ∧ (anchor ≠ .host → left.head? ≠ some '|') := by
  constructor
  · intro split
    unfold splitStart at split
    split at split
    · obtain ⟨rfl, rfl⟩ := Prod.mk.inj split
      exact ⟨rfl, fun other => absurd rfl other⟩
    · rename_i rest single
      obtain ⟨rfl, rfl⟩ := Prod.mk.inj split
      refine ⟨rfl, fun _ first => ?_⟩
      obtain ⟨more, rfl⟩ := List.head?_eq_some_iff.1 first
      exact single more rfl
    · rename_i none
      obtain ⟨rfl, rfl⟩ := Prod.mk.inj split
      refine ⟨rfl, fun _ first => ?_⟩
      obtain ⟨more, rfl⟩ := List.head?_eq_some_iff.1 first
      exact none more rfl
  · rintro ⟨rfl, greedy⟩
    cases anchor with
    | host => rfl
    | start =>
      have single := greedy (by simp)
      cases left with
      | nil => rfl
      | cons c rest => simp_all [opening, splitStart]
    | anywhere =>
      have none := greedy (by simp)
      cases left with
      | nil => rfl
      | cons c rest => simp_all [opening, splitStart]

theorem closing_iff {atEnd : Bool} :
    left = body ++ closing atEnd ∧ (atEnd = false → body.getLast? ≠ some '|') ↔
      atEnd = (left.getLast? == some '|') ∧ body = if atEnd then left.dropLast else left := by
  cases atEnd with
  | true =>
    simp only [closing, if_true, reduceCtorEq, false_implies, and_true]
    constructor
    · rintro rfl
      simp
    · rintro ⟨bar, rfl⟩
      have last : left.getLast? = some '|' := by simpa using bar.symm
      obtain ⟨front, rfl⟩ := List.getLast?_eq_some_iff.1 last
      simp
  | false =>
    simp only [closing]
    constructor
    · rintro ⟨rfl, noBar⟩
      simpa using noBar
    · rintro ⟨noBar, rfl⟩
      simpa using noBar

theorem ofText_of_splitStart {anchor : GlobStart} (split : splitStart text = (anchor, left)) :
    ofText text =
      { start := anchor
        parts := (if left.getLast? == some '|' then left.dropLast else left).map partOf
        atEnd := left.getLast? == some '|' } := by
  rw [ofText, split]

/-- Every text is the way to write one glob, the one it is read as. -/
theorem isWrittenAs_iff : glob.IsWrittenAs text ↔ glob = ofText text := by
  constructor
  · rintro ⟨body, whole, parts, greedy, noBar⟩
    have split := splitStart_eq_iff.2 ⟨whole, greedy⟩
    obtain ⟨atEnd, isBody⟩ := closing_iff.1 ⟨rfl, noBar⟩
    rw [ofText_of_splitStart split, ← atEnd, ← isBody, ← parts]
  · rintro rfl
    cases split : splitStart text with
    | mk anchor left =>
      obtain ⟨whole, greedy⟩ := splitStart_eq_iff.1 split
      obtain ⟨isLeft, noBar⟩ := closing_iff.2 ⟨rfl, rfl⟩
      rw [ofText_of_splitStart split]
      refine ⟨_, ?_, rfl, ?_, noBar⟩
      · rw [← isLeft]
        exact whole
      · rw [← isLeft]
        exact greedy

end Glob

/-- A regular expression stands between slashes, and is not empty. -/
theorem FilterPattern.regexLiteral?_eq_some_iff {pattern inner : List Char} :
    regexLiteral? pattern = some inner ↔ inner ≠ [] ∧ pattern = '/' :: inner ++ ['/'] := by
  constructor
  · intro literal
    unfold regexLiteral? at literal
    split at literal
    · rename_i c rest
      split at literal
      · rename_i closed
        obtain ⟨last, nonempty⟩ := Bool.and_eq_true_iff.1 closed
        obtain ⟨front, isFront⟩ := List.getLast?_eq_some_iff.1 (by simpa using last)
        obtain rfl := Option.some.inj literal
        rw [isFront, List.dropLast_concat]
        refine ⟨?_, rfl⟩
        rintro rfl
        obtain ⟨-, rfl⟩ := List.cons.inj isFront
        cases nonempty
      · cases literal
    · cases literal
  · rintro ⟨nonempty, rfl⟩
    cases inner with
    | nil => exact absurd rfl nonempty
    | cons c rest =>
      have inside : (c :: (rest ++ ['/'])).dropLast = c :: rest := by
        rw [← List.cons_append, List.dropLast_concat]
      simp [regexLiteral?, List.getLast?_cons, inside]

end ContentFilter
