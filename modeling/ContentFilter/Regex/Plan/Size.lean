import ContentFilter.Regex.Plan
import ContentFilter.Unicode.RangeTable.Utf8

/-!
# Sizes of machines

How many bytes the machines for an expression take.  A text is searched by two of them: one reads
forward and finds where matches end, the other reads backward and finds where they begin.  Both are
made of states that follow one another: a state reads one byte, tests a position, records one or
leads on to others.

`Plan.fits` is the bound on patterns that keeps counted repetitions from growing without limit.
-/

namespace ContentFilter.Regex

/-- The way a machine reads its text. -/
inductive Direction where
  | forward
  | backward
deriving DecidableEq, Repr

namespace Plan

/-- The bytes of a state. -/
def stateSize : Nat := 32

/-- The bytes of an arc from a state that reads one of several ranges of bytes. -/
def arcSize : Nat := 8

/-- The bytes of a link from a state that reads nothing. -/
def linkSize : Nat := 4

/-- The sum of a quantity over a list. -/
def total {α : Type} (f : α → Nat) (l : List α) : Nat := l.foldl (fun n a => n + f a) 0

/-! ## Characters -/

/-- A state with an arc for each of several ranges of bytes. -/
def branchingSize (arcs : Nat) : Nat := stateSize + arcSize * arcs

/-- The groups of neighbours that begin with the same range of bytes. -/
def headGroups {α : Type} [BEq α] (sequences : List (List α)) : List (List (List α)) :=
  sequences.splitBy fun a b => a.head? == b.head?

/-- The lists of sequences that a reader meets which knows, byte by byte, what may still follow:
the given ones, and what remains of each of their head groups behind the head, `levels` deep. -/
def remainders {α : Type} [BEq α] : Nat → List (List (List α)) → List (List (List α))
  | 0, _ => []
  | levels + 1, level =>
    let behind := level.flatMap fun sequences => (headGroups sequences).map (·.map (·.drop 1))
    level ++ remainders levels (behind.filter (·.any (!·.isEmpty)))

/-- The states that read the encoding of a character of the table.  Reading forward, sequences of
bytes with the same remainder share it; reading backward, they share what they begin with, and one
state leads to all of them. -/
def setSize (direction : Direction) (table : Unicode.RangeTable) : Nat :=
  if table.isAscii then stateSize + branchingSize table.length
  else
    let sequences := table.byteSequences
    match direction with
    | .forward =>
      stateSize + total (fun rest => branchingSize (headGroups rest).length)
        (remainders 4 [sequences]).eraseDups
    | .backward =>
      let fresh := (sequences.zip ([] :: sequences)).map fun (a, before) =>
        a.length - ((a.zip before).takeWhile fun (x, y) => x == y).length
      2 * stateSize + stateSize * total id fresh + linkSize * sequences.length

/-! ## Words -/

/-- The bytes of a word. -/
def bytes (chars : List Char) : List UInt8 := chars.flatMap String.utf8EncodeChar

/-- The stretches of a list between its empty members. -/
def stretches {α : Type} : List (List α) → List (List (List α))
  | [] => [[]]
  | [] :: rest => [] :: stretches rest
  | a :: rest =>
    match stretches rest with
    | [] => [[a]]
    | stretch :: others => (a :: stretch) :: others

/-- The states of a tree in which words are looked up byte by byte, the earlier word first: where words
end between others, their first bytes are told apart anew.  `tails` are the words without the bytes
that lead to this place, and `depth` is greater than their lengths. -/
def treeSize : Nat → List (List UInt8) → Nat
  | 0, _ => 0
  | depth + 1, tails =>
    if tails.all (·.isEmpty) then 0
    else
      let rest := tails.dropWhile (·.isEmpty)
      let ends := (if rest.length < tails.length then 1 else 0) + rest.countP (·.isEmpty)
      let groups := (stretches rest).filter (!·.isEmpty)
      stateSize + linkSize * (groups.length + ends) + total (fun group =>
        let heads := (group.filterMap (·.head?)).eraseDups
        (if heads.length = 1 then stateSize else branchingSize heads.length) +
          total (fun head =>
            treeSize depth ((group.filter (·.head? == some head)).map (·.drop 1))) heads) groups

/-- The words of a list of plans that are all words. -/
def words? (plans : List Plan) : Option (List (List Char)) :=
  plans.mapM fun
    | .word chars => some chars
    | _ => none

/-- The states that read one of several words. -/
def wordsSize (direction : Direction) (words : List (List Char)) : Nat :=
  let sequences := words.map fun word =>
    match direction with
    | .forward => bytes word
    | .backward => (bytes word).reverse
  stateSize + treeSize (total List.length sequences + 1) sequences

/-! ## Repetitions -/

mutual

/-- The least number of bytes that can match, if there is one. -/
def minLength : Plan → Option Nat
  | .empty | .position _ => some 0
  | .word chars => some (bytes chars).length
  | .set table => table.head?.map fun range => (Char.ofNat range.1).utf8Size
  | .repeated low _ a => a.minLength.map (low * ·)
  | .captured a => a.minLength
  | .concat parts => (minLengths parts).map (total id)
  | .alternate branches => (minLengths branches).bind (·.min?)

/-- The least numbers of bytes that the plans can match. -/
def minLengths : List Plan → Option (List Nat)
  | [] => some []
  | a :: rest => do pure ((← a.minLength) :: (← minLengths rest))

end

/-- A state that leads two ways. -/
def forkSize : Nat := stateSize + 2 * linkSize

/-- The states of a repetition whose copies have `each` bytes of them.  A copy that may be left out has a
fork in front of it; copies without end are one copy with a way back. -/
def repeatedSize (low : Nat) (high : Option Nat) (consumes : Bool) (each : Nat) : Nat :=
  match high with
  | none =>
    if low = 0 then if consumes then forkSize + each else 2 * forkSize + stateSize + each
    else low * each + forkSize
  | some high =>
    if low = high then low * each
    else if low = 0 && high = 1 then forkSize + each + stateSize
    else
      (if low = 0 then stateSize else low * each) + (high - low) * (forkSize + each) + stateSize

/-! ## Machines -/

mutual

/-- The bytes of the states for a plan.  Only a machine that reads forward captures. -/
def size (direction : Direction) : Plan → Nat
  | .empty | .position _ => stateSize
  | .word chars => stateSize * (bytes chars).length
  | .set table => setSize direction table
  | .repeated low high a =>
    repeatedSize low high (a.minLength.any (0 < ·)) (a.size direction)
  | .captured a => a.size direction + if direction = .forward then 2 * stateSize else 0
  | .concat parts => sizes direction parts
  | .alternate branches =>
    match words? branches with
    | some words => wordsSize direction words
    | none => 2 * stateSize + linkSize * branches.length + sizes direction branches

/-- The bytes of the states for a list of plans. -/
def sizes (direction : Direction) : List Plan → Nat
  | [] => 0
  | a :: rest => a.size direction + sizes direction rest

end

mutual

/-- Whether a match has to begin at the start of the text. -/
def atStart : Plan → Bool
  | .position condition => condition == .textStart
  | .repeated low _ a => low != 0 && a.atStart
  | .captured a => a.atStart
  | .concat parts => firstAtStart parts
  | .alternate branches => allAtStart branches
  | .empty | .word _ | .set _ => false

/-- Whether a match of the plans in a row has to begin at the start of the text. -/
def firstAtStart : List Plan → Bool
  | [] => false
  | a :: rest => a.atStart || a.isZeroWidth && firstAtStart rest

/-- Whether a match of any of the plans has to begin at the start of the text. -/
def allAtStart : List Plan → Bool
  | [] => true
  | a :: rest => a.atStart && allAtStart rest

end

mutual

/-- Whether a match has to end at the end of the text. -/
def atEnd : Plan → Bool
  | .position condition => condition == .textEnd
  | .repeated low _ a => low != 0 && a.atEnd
  | .captured a => a.atEnd
  | .concat parts => lastAtEnd parts
  | .alternate branches => allAtEnd branches
  | .empty | .word _ | .set _ => false

/-- Whether a match of the plans in a row has to end at the end of the text. -/
def lastAtEnd : List Plan → Bool
  | [] => false
  | a :: rest => lastAtEnd rest || allZeroWidth rest && a.atEnd

/-- Whether a match of any of the plans has to end at the end of the text. -/
def allAtEnd : List Plan → Bool
  | [] => true
  | a :: rest => a.atEnd && allAtEnd rest

end

/-- Whether a match can only begin where a machine starts to read. -/
def isAnchored (plan : Plan) : Direction → Bool
  | .forward => plan.atStart
  | .backward => plan.atEnd

/-- The bytes of a machine.  In front of the plan it skips any bytes, unless it is anchored; behind it
comes the state that accepts.  A machine that reads forward captures the match as a whole. -/
def machineSize (direction : Direction) (plan : Plan) : Nat :=
  (if plan.isAnchored direction then stateSize else forkSize + stateSize + branchingSize 1) +
    (Plan.captured plan).size direction + stateSize

/-- From this many words on, they are looked up without a machine. -/
def manyWords : Nat := 3000

/-- Whether the machines for the plan have at most `maxSize` bytes, or none are needed. -/
def fits (maxSize : Nat) (plan : Plan) : Bool :=
  (words? plan.branches).any (manyWords ≤ ·.length) ||
    (plan.machineSize .forward ≤ maxSize && plan.machineSize .backward ≤ maxSize)

end Plan

end ContentFilter.Regex
