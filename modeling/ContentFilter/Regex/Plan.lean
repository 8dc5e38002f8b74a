import ContentFilter.Regex.Basic

/-!
# Plans of machines

An expression is run by a machine, and what is built for it does not follow the text of a pattern: a
repetition of nothing is nothing, letters in a row are one word, alternative characters are one set,
and alternatives that begin alike share what they begin with.  `Regex.plan` brings an expression into
this form, from which the size of the machine is read off.

Concatenations have at least two parts, none of them empty or a concatenation, and no two words stand
side by side in them.  Alternatives are at least two, none of them a list of alternatives.
-/

namespace ContentFilter.Regex

/-- The plan of a machine. -/
inductive Plan where
  | empty
  /-- Characters in a row. -/
  | word (chars : List Char)
  /-- One character of a table. -/
  | set (table : Unicode.RangeTable)
  | position (condition : SiteCondition)
  /-- At least `low` and, with an upper bound, at most `high` copies. -/
  | repeated (low : Nat) (high : Option Nat) (a : Plan)
  /-- A part whose place in the text is recorded. -/
  | captured (a : Plan)
  | concat (parts : List Plan)
  | alternate (branches : List Plan)

namespace Plan

/-! ## Attributes -/

mutual

/-- Whether the same text stands for the two plans.  Captures are numbered, so no two are alike. -/
def same : Plan → Plan → Bool
  | .empty, .empty => true
  | .word a, .word b => a == b
  | .set a, .set b => a == b
  | .position a, .position b => a == b
  | .repeated low high a, .repeated low' high' b => low == low' && high == high' && a.same b
  | .concat as, .concat bs => sameAll as bs
  | .alternate as, .alternate bs => sameAll as bs
  | _, _ => false

/-- Whether two lists of plans are alike. -/
def sameAll : List Plan → List Plan → Bool
  | [], [] => true
  | a :: as, b :: bs => a.same b && sameAll as bs
  | _, _ => false

end

mutual

/-- Whether only the empty text can match. -/
def isZeroWidth : Plan → Bool
  | .empty | .position _ => true
  | .word _ | .set _ => false
  | .repeated _ _ a => a.isZeroWidth
  | .captured a => a.isZeroWidth
  | .concat parts => allZeroWidth parts
  | .alternate branches => allZeroWidth branches

/-- Whether only the empty text can match any of the plans. -/
def allZeroWidth : List Plan → Bool
  | [] => true
  | a :: rest => a.isZeroWidth && allZeroWidth rest

end

mutual

/-- The number of parts of every kind. -/
def weight : Plan → Nat
  | .empty | .word _ | .set _ | .position _ => 1
  | .repeated _ _ a => a.weight + 1
  | .captured a => a.weight + 1
  | .concat parts => weights parts + 1
  | .alternate branches => weights branches + 1

/-- The number of parts of all the plans. -/
def weights : List Plan → Nat
  | [] => 0
  | a :: rest => a.weight + weights rest

end

/-! ## Building -/

/-- The plan of one character out of a table. -/
def ofTable : Unicode.RangeTable → Plan
  | [(low, high)] => if low = high then .word [Char.ofNat low] else .set [(low, high)]
  | table => .set table

/-- What the plan concatenates. -/
def parts : Plan → List Plan
  | .empty => []
  | .concat parts => parts
  | a => [a]

/-- A part in front of others; words run together. -/
def attach : Plan → List Plan → List Plan
  | .word a, .word b :: rest => .word (a ++ b) :: rest
  | a, rest => a :: rest

/-- The plan of parts that follow one another. -/
def ofParts : List Plan → Plan
  | [] => .empty
  | [a] => a
  | parts => .concat parts

/-- One plan behind the other. -/
def append (a b : Plan) : Plan := ofParts (a.parts.foldr attach b.parts)

/-- Copies of a plan.  A plan of no width needs one copy at most. -/
def copies (low : Nat) (high : Option Nat) (a : Plan) : Plan :=
  let (low, high) :=
    if a.isZeroWidth then (min low 1, some (min (high.getD 1) 1)) else (low, high)
  if high == some 0 then .empty
  else if low == 1 && high == some 1 then a
  else .repeated low high a

/-- What the plan chooses between. -/
def branches : Plan → List Plan
  | .alternate branches => branches
  | a => [a]

/-- The table of a plan for one fixed character. -/
def charTable? : Plan → Option Unicode.RangeTable
  | .word [c] => some [(c.toNat, c.toNat)]
  | _ => none

/-- The table of a plan for one character out of a set. -/
def setTable? : Plan → Option Unicode.RangeTable
  | .set table => some table
  | _ => none

/-- The parts of a concatenation. -/
def sequence : Plan → List Plan
  | .concat parts => parts
  | _ => []

/-- What two lists of plans begin with alike. -/
def commonStart : List Plan → List Plan → List Plan
  | a :: as, b :: bs => if a.same b then a :: commonStart as bs else []
  | _, _ => []

/-- The choice between alternatives.  Alternative characters become a set, and what concatenations
begin with alike is taken out in front of the choice; `fuel` bounds how often. -/
def choose (fuel : Nat) (alternatives : List Plan) : Plan :=
  match alternatives.flatMap branches with
  | [] => .set []
  | [a] => a
  | first :: rest =>
    let all := first :: rest
    match all.mapM charTable? <|> all.mapM setTable?, fuel with
    | some tables, _ => ofTable (.normalize tables.flatten)
    | none, 0 => .alternate all
    | none, fuel + 1 =>
      match rest.foldl (fun start b => commonStart start b.sequence) first.sequence with
      | [] => .alternate all
      | start =>
        let behind := all.map fun b => ofParts (b.sequence.drop start.length)
        append (ofParts start) (choose fuel behind)

/-- The plan of alternatives.  Every start that is taken out makes them lighter, so their weight is
fuel enough. -/
def ofAlternatives : List Plan → Plan
  | [a] => a
  | alternatives => choose (weights alternatives) alternatives

end Plan

/-- The plans of the alternatives of an expression. -/
def alternatives : Regex → List Plan
  | .empty => [.empty]
  | .one set => [.ofTable set.toTable]
  | .position condition => [.position condition]
  | .group false a => [.ofAlternatives a.alternatives]
  | .group true a => [.captured (.ofAlternatives a.alternatives)]
  | .concat a b => [.append (.ofAlternatives a.alternatives) (.ofAlternatives b.alternatives)]
  | .alternate a b => a.alternatives ++ b.alternatives
  | .repeated low spare a =>
    [.copies low (spare.map (low + ·)) (.ofAlternatives a.alternatives)]

/-- The plan of an expression. -/
def plan (r : Regex) : Plan := .ofAlternatives r.alternatives

end ContentFilter.Regex
