import ContentFilter.Regex.Basic

/-!
# Searching a text

`Regex.isMatch` decides whether an expression matches some part of a text.  It follows sets of
positions through the expression: a part of the expression sends the positions where it may begin to
the positions where it may end, all of them at once, and an unanchored search begins everywhere.

A set of positions of a text of `n` characters is a list of `n + 1` marks.
-/

namespace ContentFilter

/-- A mark for every position of a text: whether the position is in the set. -/
abbrev Marks := List Bool

namespace Marks

/-- The positions in one set or the other. -/
def union (a b : Marks) : Marks := List.zipWith (· || ·) a b

/-- Whether there is any position in the set. -/
def any (marks : Marks) : Bool := List.any marks id

/-- Whether every position of `a` is in `b`. -/
def subset (a b : Marks) : Bool := (List.zipWith (fun x y => !x || y) a b).all id

end Marks

/-- The positions of the rest of a text behind the character `before`. -/
def sitesFrom (before : Option Char) : List Char → List Site
  | [] => [⟨before, none⟩]
  | c :: rest => ⟨before, some c⟩ :: sitesFrom (some c) rest

/-- The positions of a text, from its start to its end. -/
def sites (text : List Char) : List Site := sitesFrom none text

namespace Regex

/-- The positions behind a character of the set; `reached` tells whether the first position is. -/
def step (set : CharSet) (reached : Bool) : List Site → Marks → Marks
  | site :: sites, mark :: marks =>
    reached :: step set (mark && site.behind.any set.contains) sites marks
  | _, _ => []

/-- `n` rounds of `f`, cut short where a round changes nothing. -/
def iterate (f : Marks → Marks) : Nat → Marks → Marks
  | 0, marks => marks
  | n + 1, marks =>
    let next := f marks
    if next == marks then marks else iterate f n next

/-- The positions reached by at most `n` rounds of `f`, cut short where a round adds none. -/
def closure (f : Marks → Marks) : Nat → Marks → Marks
  | 0, marks => marks
  | n + 1, marks =>
    let next := f marks
    if next.subset marks then marks else closure f n (marks.union next)

/-- The positions where a match may end that begins at one of the given positions.  An unbounded
repetition is closed after as many rounds as there are positions. -/
def ends (sites : List Site) : Regex → Marks → Marks
  | .empty, marks => marks
  | .one set, marks => step set false sites marks
  | .position condition, marks =>
    List.zipWith (fun site mark => mark && condition.holds site) sites marks
  | .group _ a, marks => ends sites a marks
  | .concat a b, marks => ends sites b (ends sites a marks)
  | .alternate a b, marks => (ends sites a marks).union (ends sites b marks)
  | .repeated low spare a, marks =>
    closure (ends sites a) (spare.getD sites.length) (iterate (ends sites a) low marks)

/-- Whether the expression matches some part of the text. -/
def isMatch (r : Regex) (text : List Char) : Bool :=
  let sites := sites text
  (r.ends sites (sites.map fun _ => true)).any

end Regex

end ContentFilter
