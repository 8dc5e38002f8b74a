import ContentFilter.Regex.CharSet

/-!
# Regular expressions

What a pattern means once its flags have taken effect: concatenations, alternatives and repetitions
of single characters from a set and of conditions on a position.

A search only asks whether a match exists, so nothing here records which of several matches is
preferred, and laziness has no counterpart.
-/

namespace ContentFilter

/-- A condition on a position between two characters. -/
inductive SiteCondition where
  | textStart
  | textEnd
  /-- Behind a line break; with `crlf`, a carriage return and a line feed are one break. -/
  | lineStart (crlf : Bool)
  | lineEnd (crlf : Bool)
  | wordBoundary (alphabet : Alphabet)
  | notWordBoundary (alphabet : Alphabet)
  | wordStart (alphabet : Alphabet)
  | wordEnd (alphabet : Alphabet)
  /-- No character of a word before the position. -/
  | wordStartHalf (alphabet : Alphabet)
  /-- No character of a word behind the position. -/
  | wordEndHalf (alphabet : Alphabet)
deriving DecidableEq, Repr

/-- A position of a text, given by the characters before and behind it. -/
structure Site where
  before : Option Char
  behind : Option Char
deriving Repr

namespace SiteCondition

/-- Whether the condition holds at a position. -/
def holds (condition : SiteCondition) (site : Site) : Bool :=
  let word (alphabet : Alphabet) (c : Option Char) : Bool := c.any alphabet.isWord
  match condition with
  | .textStart => site.before.isNone
  | .textEnd => site.behind.isNone
  | .lineStart false => site.before.isNone || site.before == some '\n'
  | .lineStart true =>
    site.before.isNone || site.before == some '\n' ||
      (site.before == some '\r' && site.behind != some '\n')
  | .lineEnd false => site.behind.isNone || site.behind == some '\n'
  | .lineEnd true =>
    site.behind.isNone || site.behind == some '\r' ||
      (site.behind == some '\n' && site.before != some '\r')
  | .wordBoundary alphabet => word alphabet site.before != word alphabet site.behind
  | .notWordBoundary alphabet => word alphabet site.before == word alphabet site.behind
  | .wordStart alphabet => !word alphabet site.before && word alphabet site.behind
  | .wordEnd alphabet => word alphabet site.before && !word alphabet site.behind
  | .wordStartHalf alphabet => !word alphabet site.before
  | .wordEndHalf alphabet => !word alphabet site.behind

end SiteCondition

/-- A regular expression. -/
inductive Regex where
  | empty
  /-- One character from a set. -/
  | one (set : CharSet)
  /-- No character, at a position that satisfies a condition. -/
  | position (condition : SiteCondition)
  /-- The same as its inside; a machine may have to capture where in the text that was. -/
  | group (captures : Bool) (a : Regex)
  | concat (a b : Regex)
  | alternate (a b : Regex)
  /-- `low` copies in a row and up to `spare` more, or any number more. -/
  | repeated (low : Nat) (spare : Option Nat) (a : Regex)
deriving Repr

namespace Regex

/-- `Matches r before middle behind`: within the text `before ++ middle ++ behind`, the expression
matches `middle`. -/
inductive Matches : Regex → List Char → List Char → List Char → Prop
  | empty {before behind} : Matches .empty before [] behind
  | one {set c before behind} (mem : set.contains c) : Matches (.one set) before [c] behind
  | position {condition before behind}
      (holds : condition.holds ⟨before.getLast?, behind.head?⟩) :
      Matches (.position condition) before [] behind
  | group {captures a before middle behind} (inside : Matches a before middle behind) :
      Matches (.group captures a) before middle behind
  | concat {a b before m₁ m₂ behind}
      (left : Matches a before m₁ (m₂ ++ behind)) (right : Matches b (before ++ m₁) m₂ behind) :
      Matches (.concat a b) before (m₁ ++ m₂) behind
  | alternateLeft {a b before middle behind} (left : Matches a before middle behind) :
      Matches (.alternate a b) before middle behind
  | alternateRight {a b before middle behind} (right : Matches b before middle behind) :
      Matches (.alternate a b) before middle behind
  /-- No copy is left to match. -/
  | repeatedNil {spare a before behind} : Matches (.repeated 0 spare a) before [] behind
  /-- A copy that has to be there, and the others behind it. -/
  | repeatedDue {low spare a before m₁ m₂ behind} (head : Matches a before m₁ (m₂ ++ behind))
      (tail : Matches (.repeated low spare a) (before ++ m₁) m₂ behind) :
      Matches (.repeated (low + 1) spare a) before (m₁ ++ m₂) behind
  /-- A copy that may be there, and the others behind it. -/
  | repeatedSpare {spare a before m₁ m₂ behind} (room : spare ≠ some 0)
      (head : Matches a before m₁ (m₂ ++ behind))
      (tail : Matches (.repeated 0 (spare.map (· - 1)) a) (before ++ m₁) m₂ behind) :
      Matches (.repeated 0 spare a) before (m₁ ++ m₂) behind

/-- The expression matches some part of the text. -/
def MatchesWithin (r : Regex) (text : List Char) : Prop :=
  ∃ before middle behind, text = before ++ middle ++ behind ∧ r.Matches before middle behind

end Regex

end ContentFilter
