import ContentFilter.Unicode.RangeTable.Algebra

/-!
# UTF-8 forms of range tables

A machine that reads bytes recognizes a character by its UTF-8 encoding.  `byteSequences` writes a
range table as sequences of byte ranges: a text of bytes encodes a character of the table exactly if
one of the sequences has a range for each of its bytes in turn.
-/

namespace ContentFilter.Unicode.RangeTable

/-- The bytes between two others, both included. -/
abbrev ByteRange := UInt8 × UInt8

/-- A range cut where a block of one of the sizes begins or ends within it, so that a block is either
whole in a part or the whole part is in the block; the sizes ascend. -/
def cutBlocks (low high : Nat) : List Nat → List (Nat × Nat)
  | [] => [(low, high)]
  | size :: sizes =>
    if low / size = high / size then [(low, high)]
    else
      let first := (low + (size - 1)) / size * size
      let last := (high + 1) / size * size
      (if low < first then [(low, first - 1)] else []) ++
        (if first < last then cutBlocks first (last - 1) sizes else []) ++
        (if last ≤ high then [(last, high)] else [])

/-- The characters whose encodings have one, two, three and four bytes; surrogates lie between two
stretches of the third kind.  A continuation byte tells sixty-four characters apart. -/
def encodingStretches : List ((Nat × Nat) × List Nat) :=
  let blocks := [0x40, 0x1000, 0x40000]
  [((0, 0x7f), []), ((0x80, 0x7ff), blocks), ((0x800, surrogates.1 - 1), blocks),
    ((surrogates.2 + 1, 0xffff), blocks), ((0x10000, maxCode), blocks)]

/-- The sequences of byte ranges for the characters of the table, in ascending order. -/
def byteSequences (table : RangeTable) : List (List ByteRange) :=
  table.flatMap fun range =>
    encodingStretches.flatMap fun (stretch, blocks) =>
      let low := max range.1 stretch.1
      let high := min range.2 stretch.2
      if high < low then [] else
        (cutBlocks low high blocks).map fun (first, last) =>
          (String.utf8EncodeChar (Char.ofNat first)).zip (String.utf8EncodeChar (Char.ofNat last))

end ContentFilter.Unicode.RangeTable
