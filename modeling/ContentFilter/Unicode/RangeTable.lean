/-!
# Range tables

Sets of characters as lists of code point ranges, and the compact text in which the larger tables of
this library are written down.

A coded table is the sequence of numbers `gap, length - 1` of its ranges: how many code points lie
between the end of the previous range and this one, and how far this range reaches beyond its first
code point.  A number is written in base 32, most significant digit first.  The last digit of a
number is one of `A` to `Z` and `a` to `f`, every other digit one of `g` to `z`, `0` to `9`, `-`
and `_`, so no separator is needed.
-/

namespace ContentFilter.Unicode

/-- Code points as ranges with both ends included. -/
abbrev RangeTable := List (Nat × Nat)

namespace RangeTable

/-- Whether some range of the table holds the code point. -/
def holds (table : RangeTable) (n : Nat) : Bool :=
  table.any fun range => range.1 ≤ n && n ≤ range.2

/-- Whether some range of the table holds the character. -/
def contains (table : RangeTable) (c : Char) : Bool := table.holds c.toNat

/-- Whether every character of the table is one of ASCII. -/
def isAscii (table : RangeTable) : Bool := table.all (·.2 < 128)

/-- The table of the listed characters. -/
def ofChars (chars : List Char) : RangeTable := chars.map fun c => (c.toNat, c.toNat)

/-- The value of a digit that ends its number, if the character is one. -/
def lastDigit? (c : Char) : Option Nat :=
  if 'A' ≤ c && c ≤ 'Z' then some (c.toNat - 'A'.toNat)
  else if 'a' ≤ c && c ≤ 'f' then some (c.toNat - 'a'.toNat + 26)
  else none

/-- The value of a digit that is followed by another one. -/
def leadingDigit (c : Char) : Nat :=
  if 'g' ≤ c && c ≤ 'z' then c.toNat - 'g'.toNat
  else if '0' ≤ c && c ≤ '9' then c.toNat - '0'.toNat + 20
  else if c = '-' then 30 else 31

/-- The numbers of a coded table; `high` is the value of the digits already read. -/
def numbers (high : Nat) : List Char → List Nat
  | [] => []
  | c :: rest =>
    match lastDigit? c with
    | some d => (high * 32 + d) :: numbers 0 rest
    | none => numbers (high * 32 + leadingDigit c) rest

/-- Ranges from their gaps and lengths; `start` is the first code point not yet passed. -/
def ofNumbers (start : Nat) : List Nat → RangeTable
  | gap :: reach :: rest =>
    (start + gap, start + gap + reach) :: ofNumbers (start + gap + reach + 1) rest
  | _ => []

/-- The table that a coded text stands for. -/
def ofCode (code : String) : RangeTable :=
  ofNumbers 0 (numbers 0 code.toList)

end RangeTable

end ContentFilter.Unicode
