import ContentFilter.Unicode.WordCharacter
import ContentFilter.Unicode.CaseFolding

/-!
# Sets of characters

What one position of a text pattern accepts.  A set is kept as it was described, and membership
follows the description; closing a set under letter case asks for a member of the character's orbit.
-/

namespace ContentFilter

open Unicode (RangeTable)

/-- The alphabet a pattern's named classes and letter cases are taken from. -/
inductive Alphabet where
  | ascii
  | unicode
deriving DecidableEq, Repr

namespace Alphabet

/-- A character of a word. -/
def isWord : Alphabet → Char → Bool
  | .ascii, c => c.isAlphanum || c == '_'
  | .unicode, c => Unicode.isWord c

/-- A decimal digit. -/
def isDigit : Alphabet → Char → Bool
  | .ascii, c => c.isDigit
  | .unicode, c => Unicode.isDigit c

/-- White space. -/
def isSpace : Alphabet → Char → Bool
  | .ascii, c => c == ' ' || (9 ≤ c.toNat && c.toNat ≤ 13)
  | .unicode, c => Unicode.isWhiteSpace c

/-- The characters equal to the given one up to letter case, itself included. -/
def caseOrbit : Alphabet → Char → List Char
  | .ascii, c => if c.isLower then [c.toUpper, c] else if c.isUpper then [c, c.toLower] else [c]
  | .unicode, c => Unicode.caseOrbit c

/-- The characters of words, as a table. -/
def wordTable : Alphabet → RangeTable
  | .ascii => [(0x30, 0x39), (0x41, 0x5a), (0x5f, 0x5f), (0x61, 0x7a)]
  | .unicode => Unicode.wordTable

/-- The decimal digits, as a table. -/
def digitTable : Alphabet → RangeTable
  | .ascii => [(0x30, 0x39)]
  | .unicode => Unicode.digitTable

/-- White space, as a table. -/
def spaceTable : Alphabet → RangeTable
  | .ascii => [(0x09, 0x0d), (0x20, 0x20)]
  | .unicode => Unicode.whiteSpaceTable

/-- The characters with a member of the table in their case orbit. -/
def caseClosure : Alphabet → RangeTable → RangeTable
  | .ascii, table => Unicode.absorb (Unicode.letterOrbits Alphabet.ascii.caseOrbit) table
  | .unicode, table => Unicode.caseClosure table

end Alphabet

/-- A set of characters. -/
inductive CharSet where
  | empty
  | all
  /-- The characters between two others, both included. -/
  | range (low high : Char)
  | table (ranges : RangeTable)
  | word (alphabet : Alphabet)
  | digit (alphabet : Alphabet)
  | space (alphabet : Alphabet)
  | union (a b : CharSet)
  | inter (a b : CharSet)
  | complement (a : CharSet)
  /-- Every character with a member of the set in its case orbit. -/
  | caseClosure (alphabet : Alphabet) (a : CharSet)
deriving Repr

namespace CharSet

/-- Whether a character is in the set. -/
def contains : CharSet → Char → Bool
  | .empty, _ => false
  | .all, _ => true
  | .range low high, c => low ≤ c && c ≤ high
  | .table ranges, c => RangeTable.contains ranges c
  | .word alphabet, c => alphabet.isWord c
  | .digit alphabet, c => alphabet.isDigit c
  | .space alphabet, c => alphabet.isSpace c
  | .union a b, c => a.contains c || b.contains c
  | .inter a b, c => a.contains c && b.contains c
  | .complement a, c => !a.contains c
  | .caseClosure alphabet a, c => (alphabet.caseOrbit c).any a.contains

/-- The set as a table in normal form. -/
def toTable : CharSet → RangeTable
  | .empty => []
  | .all => .complement []
  | .range low high => .normalize [(low.toNat, high.toNat)]
  | .table ranges => ranges
  | .word alphabet => alphabet.wordTable
  | .digit alphabet => alphabet.digitTable
  | .space alphabet => alphabet.spaceTable
  | .union a b => .union a.toTable b.toTable
  | .inter a b => .inter a.toTable b.toTable
  | .complement a => .complement a.toTable
  | .caseClosure alphabet a => alphabet.caseClosure a.toTable

/-- The set with one member. -/
def singleton (c : Char) : CharSet := .range c c

/-- The characters of `a` that are not in `b`. -/
def diff (a b : CharSet) : CharSet := .inter a (.complement b)

/-- The characters of exactly one of the two sets. -/
def symmDiff (a b : CharSet) : CharSet := .union (diff a b) (diff b a)

end CharSet

end ContentFilter
