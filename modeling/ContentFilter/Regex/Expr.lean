/-!
# Regular expressions as written

The tree of a pattern's text: what its author wrote, before any flag has taken effect.  Flags may
change in the middle of a group, so only the lowering to `Regex` knows what a part means.

Lists of parts are chains of binary nodes.  `Expr.height` counts a chain as one level, which is how
the limit on nesting sees it.
-/

namespace ContentFilter.Regex

/-- A matching mode that a pattern may switch. -/
inductive Flag where
  | ignoreCase
  | multiLine
  | dotMatchesNewline
  | swapGreed
  | unicode
  | crlf
  | verbose
deriving DecidableEq, Repr

/-- One character of a flag group: a flag, or the hyphen after which flags are switched off. -/
inductive FlagItem where
  | off
  | flag (f : Flag)
deriving DecidableEq, Repr

/-- A literal character; `isByte` marks one written as a two-digit hexadecimal escape. -/
structure Literal where
  char : Char
  isByte : Bool
deriving DecidableEq, Repr

/-- The classes with one-letter escapes. -/
inductive Shorthand where
  | digit
  | space
  | word
deriving DecidableEq, Repr

/-- The classes with bracketed names, such as `[:alpha:]`. -/
inductive NamedClass where
  | alnum | alpha | ascii | blank | cntrl | digit | graph | lower | print | punct | space | upper
  | word | xdigit
deriving DecidableEq, Repr

/-- A property escape: a bare name, or a name and a value. -/
inductive PropertyQuery where
  | name (name : List Char)
  | value (name value : List Char)
deriving DecidableEq, Repr

/-- The operators between two parts of a bracketed class. -/
inductive SetOperator where
  | intersection
  | difference
  | symmetricDifference
deriving DecidableEq, Repr

/-- The inside of a bracketed class. -/
inductive ClassSet where
  | empty
  | literal (l : Literal)
  | range (low high : Literal)
  | named (name : NamedClass) (negated : Bool)
  | shorthand (kind : Shorthand) (negated : Bool)
  | property (query : PropertyQuery) (negated : Bool)
  | bracketed (negated : Bool) (inside : ClassSet)
  | union (a b : ClassSet)
  | operation (op : SetOperator) (a b : ClassSet)
deriving Repr

/-- The conditions on a position that consume no character. -/
inductive Assertion where
  | lineStart | lineEnd | textStart | textEnd
  | wordBoundary | notWordBoundary | wordStart | wordEnd | wordStartHalf | wordEndHalf
deriving DecidableEq, Repr

/-- A pattern as written. -/
inductive Expr where
  | empty
  | setFlags (items : List FlagItem)
  | literal (l : Literal)
  | dot
  | assertion (kind : Assertion)
  | shorthand (kind : Shorthand) (negated : Bool)
  | property (query : PropertyQuery) (negated : Bool)
  | bracketed (negated : Bool) (inside : ClassSet)
  /-- At least `low` and, with an upper bound, at most `high` copies. -/
  | repeated (low : Nat) (high : Option Nat) (e : Expr)
  | group (captures : Bool) (flags : List FlagItem) (e : Expr)
  | alternate (a b : Expr)
  | concat (a b : Expr)
deriving Repr

namespace ClassSet

def isUnion : ClassSet → Bool
  | .union _ _ => true
  | _ => false

/-- The chain of a list of parts; a chain of one part is that part. -/
def ofParts : List ClassSet → ClassSet
  | [] => .empty
  | [a] => a
  | a :: rest => .union a (ofParts rest)

/-- The levels of nesting in a class. -/
def height : ClassSet → Nat
  | .bracketed _ inside => inside.height + 1
  | .union a b => max (a.height + 1) (if b.isUnion then b.height else b.height + 1)
  | .operation _ a b => max a.height b.height + 1
  | _ => 0

end ClassSet

namespace Expr

def isConcat : Expr → Bool
  | .concat _ _ => true
  | _ => false

def isAlternate : Expr → Bool
  | .alternate _ _ => true
  | _ => false

/-- The chain of a list of parts that follow one another. -/
def ofParts : List Expr → Expr
  | [] => .empty
  | [a] => a
  | a :: rest => .concat a (ofParts rest)

/-- The chain of a list of alternatives. -/
def ofBranches : List Expr → Expr
  | [] => .empty
  | [a] => a
  | a :: rest => .alternate a (ofBranches rest)

/-- The levels of nesting in a pattern. -/
def height : Expr → Nat
  | .bracketed _ inside => inside.height + 1
  | .repeated _ _ e => e.height + 1
  | .group _ _ e => e.height + 1
  | .alternate a b => max (a.height + 1) (if b.isAlternate then b.height else b.height + 1)
  | .concat a b => max (a.height + 1) (if b.isConcat then b.height else b.height + 1)
  | _ => 0

/-- A part that a repetition operator may follow. -/
def isRepeatable : Expr → Bool
  | .empty | .setFlags _ => false
  | _ => true

end Expr

end ContentFilter.Regex
