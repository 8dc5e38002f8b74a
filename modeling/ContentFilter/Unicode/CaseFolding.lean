import ContentFilter.Unicode.RangeTable.Algebra

/-!
# Simple case folding

Which characters differ in letter case only, by the simple case foldings of Unicode 16.  The
characters that fold to the same one form an orbit; `caseOrbit` gives the orbit of a character, and
`caseClosure` every character with a given one in its orbit.

ASCII letters stand outside the tables: their orbits are the two cases of the letter, with the
Kelvin sign beside `k` and the long s beside `s`.
-/

namespace ContentFilter.Unicode

/-- A run of orbits of two characters: `count` lower ends from `first` on, `step` apart, each with
its partner `distance` above it. -/
structure CasePairRun where
  first : Nat
  count : Nat
  step : Nat
  distance : Nat

/-- Every orbit of two characters beyond ASCII. -/
def casePairRuns : List CasePairRun :=
  [⟨0x00C0, 5, 1, 32⟩, ⟨0x00C6, 17, 1, 32⟩, ⟨0x00D8, 7, 1, 32⟩, ⟨0x00DF, 1, 1, 7615⟩,
   ⟨0x00FF, 1, 1, 121⟩, ⟨0x0100, 24, 2, 1⟩, ⟨0x0132, 3, 2, 1⟩, ⟨0x0139, 8, 2, 1⟩,
   ⟨0x014A, 23, 2, 1⟩, ⟨0x0179, 3, 2, 1⟩, ⟨0x0180, 1, 1, 195⟩, ⟨0x0181, 1, 1, 210⟩,
   ⟨0x0182, 2, 2, 1⟩, ⟨0x0186, 1, 1, 206⟩, ⟨0x0187, 1, 1, 1⟩, ⟨0x0189, 2, 1, 205⟩,
   ⟨0x018B, 1, 1, 1⟩, ⟨0x018E, 1, 1, 79⟩, ⟨0x018F, 1, 1, 202⟩, ⟨0x0190, 1, 1, 203⟩,
   ⟨0x0191, 1, 1, 1⟩, ⟨0x0193, 1, 1, 205⟩, ⟨0x0194, 1, 1, 207⟩, ⟨0x0195, 1, 1, 97⟩,
   ⟨0x0196, 1, 1, 211⟩, ⟨0x0197, 1, 1, 209⟩, ⟨0x0198, 1, 1, 1⟩, ⟨0x019A, 1, 1, 163⟩,
   ⟨0x019B, 1, 1, 42561⟩, ⟨0x019C, 1, 1, 211⟩, ⟨0x019D, 1, 1, 213⟩, ⟨0x019E, 1, 1, 130⟩,
   ⟨0x019F, 1, 1, 214⟩, ⟨0x01A0, 3, 2, 1⟩, ⟨0x01A6, 1, 1, 218⟩, ⟨0x01A7, 1, 1, 1⟩,
   ⟨0x01A9, 1, 1, 218⟩, ⟨0x01AC, 1, 1, 1⟩, ⟨0x01AE, 1, 1, 218⟩, ⟨0x01AF, 1, 1, 1⟩,
   ⟨0x01B1, 2, 1, 217⟩, ⟨0x01B3, 2, 2, 1⟩, ⟨0x01B7, 1, 1, 219⟩, ⟨0x01B8, 1, 1, 1⟩,
   ⟨0x01BC, 1, 1, 1⟩, ⟨0x01BF, 1, 1, 56⟩, ⟨0x01CD, 8, 2, 1⟩, ⟨0x01DE, 9, 2, 1⟩, ⟨0x01F4, 1, 1, 1⟩,
   ⟨0x01F8, 20, 2, 1⟩, ⟨0x0222, 9, 2, 1⟩, ⟨0x023A, 1, 1, 10795⟩, ⟨0x023B, 1, 1, 1⟩,
   ⟨0x023E, 1, 1, 10792⟩, ⟨0x023F, 2, 1, 10815⟩, ⟨0x0241, 1, 1, 1⟩, ⟨0x0244, 1, 1, 69⟩,
   ⟨0x0245, 1, 1, 71⟩, ⟨0x0246, 5, 2, 1⟩, ⟨0x0250, 1, 1, 10783⟩, ⟨0x0251, 1, 1, 10780⟩,
   ⟨0x0252, 1, 1, 10782⟩, ⟨0x025C, 1, 1, 42319⟩, ⟨0x0261, 1, 1, 42315⟩, ⟨0x0264, 1, 1, 42343⟩,
   ⟨0x0265, 1, 1, 42280⟩, ⟨0x0266, 1, 1, 42308⟩, ⟨0x026A, 1, 1, 42308⟩, ⟨0x026B, 1, 1, 10743⟩,
   ⟨0x026C, 1, 1, 42305⟩, ⟨0x0271, 1, 1, 10749⟩, ⟨0x027D, 1, 1, 10727⟩, ⟨0x0282, 1, 1, 42307⟩,
   ⟨0x0287, 1, 1, 42282⟩, ⟨0x029D, 1, 1, 42261⟩, ⟨0x029E, 1, 1, 42258⟩, ⟨0x0370, 2, 2, 1⟩,
   ⟨0x0376, 1, 1, 1⟩, ⟨0x037B, 3, 1, 130⟩, ⟨0x037F, 1, 1, 116⟩, ⟨0x0386, 1, 1, 38⟩,
   ⟨0x0388, 3, 1, 37⟩, ⟨0x038C, 1, 1, 64⟩, ⟨0x038E, 2, 1, 63⟩, ⟨0x0390, 1, 1, 7235⟩,
   ⟨0x0391, 2, 2, 32⟩, ⟨0x0394, 2, 2, 32⟩, ⟨0x0397, 1, 1, 32⟩, ⟨0x039B, 3, 2, 32⟩,
   ⟨0x039E, 1, 1, 32⟩, ⟨0x03A4, 2, 1, 32⟩, ⟨0x03A7, 2, 1, 32⟩, ⟨0x03AA, 2, 1, 32⟩,
   ⟨0x03B0, 1, 1, 7219⟩, ⟨0x03CF, 1, 1, 8⟩, ⟨0x03D8, 12, 2, 1⟩, ⟨0x03F2, 1, 1, 7⟩,
   ⟨0x03F7, 1, 1, 1⟩, ⟨0x03FA, 1, 1, 1⟩, ⟨0x0400, 16, 1, 80⟩, ⟨0x0410, 2, 1, 32⟩,
   ⟨0x0413, 7, 2, 32⟩, ⟨0x0416, 4, 2, 32⟩, ⟨0x0420, 1, 1, 32⟩, ⟨0x0423, 7, 1, 32⟩,
   ⟨0x042B, 5, 1, 32⟩, ⟨0x0460, 1, 1, 1⟩, ⟨0x0464, 15, 2, 1⟩, ⟨0x048A, 27, 2, 1⟩,
   ⟨0x04C0, 1, 1, 15⟩, ⟨0x04C1, 7, 2, 1⟩, ⟨0x04D0, 48, 2, 1⟩, ⟨0x0531, 38, 1, 48⟩,
   ⟨0x10A0, 38, 1, 7264⟩, ⟨0x10C7, 1, 1, 7264⟩, ⟨0x10CD, 1, 1, 7264⟩, ⟨0x10D0, 43, 1, 3008⟩,
   ⟨0x10FD, 3, 1, 3008⟩, ⟨0x13A0, 80, 1, 38864⟩, ⟨0x13F0, 6, 1, 8⟩, ⟨0x1C89, 1, 1, 1⟩,
   ⟨0x1D79, 1, 1, 35332⟩, ⟨0x1D7D, 1, 1, 3814⟩, ⟨0x1D8E, 1, 1, 35384⟩, ⟨0x1E00, 48, 2, 1⟩,
   ⟨0x1E62, 26, 2, 1⟩, ⟨0x1EA0, 48, 2, 1⟩, ⟨0x1F00, 8, 1, 8⟩, ⟨0x1F10, 6, 1, 8⟩,
   ⟨0x1F20, 8, 1, 8⟩, ⟨0x1F30, 8, 1, 8⟩, ⟨0x1F40, 6, 1, 8⟩, ⟨0x1F51, 4, 2, 8⟩, ⟨0x1F60, 8, 1, 8⟩,
   ⟨0x1F70, 2, 1, 74⟩, ⟨0x1F72, 4, 1, 86⟩, ⟨0x1F76, 2, 1, 100⟩, ⟨0x1F78, 2, 1, 128⟩,
   ⟨0x1F7A, 2, 1, 112⟩, ⟨0x1F7C, 2, 1, 126⟩, ⟨0x1F80, 8, 1, 8⟩, ⟨0x1F90, 8, 1, 8⟩,
   ⟨0x1FA0, 8, 1, 8⟩, ⟨0x1FB0, 2, 1, 8⟩, ⟨0x1FB3, 1, 1, 9⟩, ⟨0x1FC3, 1, 1, 9⟩, ⟨0x1FD0, 2, 1, 8⟩,
   ⟨0x1FE0, 2, 1, 8⟩, ⟨0x1FE5, 1, 1, 7⟩, ⟨0x1FF3, 1, 1, 9⟩, ⟨0x2132, 1, 1, 28⟩,
   ⟨0x2160, 16, 1, 16⟩, ⟨0x2183, 1, 1, 1⟩, ⟨0x24B6, 26, 1, 26⟩, ⟨0x2C00, 48, 1, 48⟩,
   ⟨0x2C60, 1, 1, 1⟩, ⟨0x2C67, 3, 2, 1⟩, ⟨0x2C72, 1, 1, 1⟩, ⟨0x2C75, 1, 1, 1⟩, ⟨0x2C80, 50, 2, 1⟩,
   ⟨0x2CEB, 2, 2, 1⟩, ⟨0x2CF2, 1, 1, 1⟩, ⟨0xA640, 5, 2, 1⟩, ⟨0xA64C, 17, 2, 1⟩,
   ⟨0xA680, 14, 2, 1⟩, ⟨0xA722, 7, 2, 1⟩, ⟨0xA732, 31, 2, 1⟩, ⟨0xA779, 2, 2, 1⟩,
   ⟨0xA77E, 5, 2, 1⟩, ⟨0xA78B, 1, 1, 1⟩, ⟨0xA790, 2, 2, 1⟩, ⟨0xA794, 1, 1, 48⟩,
   ⟨0xA796, 10, 2, 1⟩, ⟨0xA7B3, 1, 1, 928⟩, ⟨0xA7B4, 8, 2, 1⟩, ⟨0xA7C7, 2, 2, 1⟩,
   ⟨0xA7CC, 1, 1, 1⟩, ⟨0xA7D0, 1, 1, 1⟩, ⟨0xA7D6, 3, 2, 1⟩, ⟨0xA7F5, 1, 1, 1⟩, ⟨0xFB05, 1, 1, 1⟩,
   ⟨0xFF21, 26, 1, 32⟩, ⟨0x10400, 40, 1, 40⟩, ⟨0x104B0, 36, 1, 40⟩, ⟨0x10570, 11, 1, 39⟩,
   ⟨0x1057C, 15, 1, 39⟩, ⟨0x1058C, 7, 1, 39⟩, ⟨0x10594, 2, 1, 39⟩, ⟨0x10C80, 51, 1, 64⟩,
   ⟨0x10D50, 22, 1, 32⟩, ⟨0x118A0, 32, 1, 32⟩, ⟨0x16E40, 32, 1, 32⟩, ⟨0x1E900, 34, 1, 34⟩]

/-- Every orbit of three characters or more. -/
def largeCaseOrbits : List (List Char) :=
  [['\u004b', '\u006b', '\u212a'], ['\u0053', '\u0073', '\u017f'], ['\u00b5', '\u039c', '\u03bc'],
   ['\u00c5', '\u00e5', '\u212b'], ['\u01c4', '\u01c5', '\u01c6'], ['\u01c7', '\u01c8', '\u01c9'],
   ['\u01ca', '\u01cb', '\u01cc'], ['\u01f1', '\u01f2', '\u01f3'],
   ['\u0345', '\u0399', '\u03b9', '\u1fbe'], ['\u0392', '\u03b2', '\u03d0'],
   ['\u0395', '\u03b5', '\u03f5'], ['\u0398', '\u03b8', '\u03d1', '\u03f4'],
   ['\u039a', '\u03ba', '\u03f0'], ['\u03a0', '\u03c0', '\u03d6'], ['\u03a1', '\u03c1', '\u03f1'],
   ['\u03a3', '\u03c2', '\u03c3'], ['\u03a6', '\u03c6', '\u03d5'], ['\u03a9', '\u03c9', '\u2126'],
   ['\u0412', '\u0432', '\u1c80'], ['\u0414', '\u0434', '\u1c81'], ['\u041e', '\u043e', '\u1c82'],
   ['\u0421', '\u0441', '\u1c83'], ['\u0422', '\u0442', '\u1c84', '\u1c85'],
   ['\u042a', '\u044a', '\u1c86'], ['\u0462', '\u0463', '\u1c87'], ['\u1c88', '\ua64a', '\ua64b'],
   ['\u1e60', '\u1e61', '\u1e9b']]

/-- Whether `n` is a lower end of the run. -/
def CasePairRun.isLower (run : CasePairRun) (n : Nat) : Bool :=
  run.first ≤ n && n < run.first + run.count * run.step && (n - run.first) % run.step == 0

/-- The partner of a code point in the run, if it has one there. -/
def CasePairRun.partner? (run : CasePairRun) (n : Nat) : Option Nat :=
  if run.isLower n then some (n + run.distance)
  else if run.distance ≤ n && run.isLower (n - run.distance) then some (n - run.distance)
  else none

/-- The orbit of a character of ASCII. -/
def asciiCaseOrbit (c : Char) : List Char :=
  if c = 'k' || c = 'K' then ['K', 'k', '\u212a']
  else if c = 's' || c = 'S' then ['S', 's', '\u017f']
  else if c.isLower then [c.toUpper, c]
  else if c.isUpper then [c, c.toLower]
  else [c]

/-- The characters that are equal to the given one up to letter case, itself included. -/
def caseOrbit (c : Char) : List Char :=
  if c.toNat < 128 then asciiCaseOrbit c
  else
    match largeCaseOrbits.find? (·.contains c) with
    | some orbit => orbit
    | none =>
      match casePairRuns.findSome? (·.partner? c.toNat) with
      | some n => [c, Char.ofNat n]
      | none => [c]

/-- The code points outside the table whose partner in the run is in it. -/
def CasePairRun.lacking (run : CasePairRun) (table : RangeTable) : List Nat :=
  let near : RangeTable := table.filter fun range =>
    run.first ≤ range.2 && range.1 < run.first + run.count * run.step + run.distance
  if near.isEmpty then [] else
    (List.range run.count).filterMap fun i =>
      let lower := run.first + i * run.step
      let upper := lower + run.distance
      match near.holds lower, near.holds upper with
      | true, false => some upper
      | false, true => some lower
      | _, _ => none

/-- The table with every orbit from the list that has a member in it. -/
def absorb (orbits : List (List Char)) (table : RangeTable) : RangeTable :=
  .union ((orbits.filter (·.any table.contains)).flatMap RangeTable.ofChars) table

/-- The orbits of the small letters of ASCII. -/
def letterOrbits (orbit : Char → List Char) : List (List Char) :=
  (List.range 26).map fun i => orbit (Char.ofNat ('a'.toNat + i))

/-- The characters with a member of the table in their orbit.  The runs of pairs lie beyond ASCII. -/
def caseClosure (table : RangeTable) : RangeTable :=
  let partners := if table.isAscii then [] else casePairRuns.flatMap (·.lacking table)
  .union (partners.map fun n => (n, n))
    (absorb (letterOrbits asciiCaseOrbit ++ largeCaseOrbits) table)

end ContentFilter.Unicode
