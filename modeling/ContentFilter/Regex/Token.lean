import ContentFilter.Regex.Expr
import ContentFilter.Unicode.WordCharacter

/-!
# Tokens of a regular expression

The text of a pattern cut into tokens: group brackets, alternation bars, repetition operators, and
atoms, among them whole bracketed classes.  Verbose mode, in which blanks and comments between tokens
do not count, is switched by flags and ends with the group it was switched in; so the reader keeps the
mode to return to for every open group.

Reading fails, with `none`, where the text is no pattern.
-/

namespace ContentFilter.Regex

/-- A piece of a pattern's text. -/
inductive Token where
  | openGroup (captures : Bool) (name : Option (List Char)) (flags : List FlagItem)
  | closeGroup
  | bar
  | repetition (low : Nat) (high : Option Nat)
  | atom (e : Expr)
deriving Repr

/-! ## Blanks -/

/-- The input without leading blanks and comments; `inComment` tells that it begins in a comment. -/
def skipVerbose (inComment : Bool) : List Char → List Char
  | [] => []
  | c :: rest =>
    if inComment then skipVerbose (c != '\n') rest
    else if Unicode.isWhiteSpace c then skipVerbose false rest
    else if c = '#' then skipVerbose true rest
    else c :: rest

/-- The input from its next significant character on. -/
def skipBlank (verbose : Bool) (input : List Char) : List Char :=
  if verbose then skipVerbose false input else input

/-- The next `n` significant characters. -/
def takeSignificant (verbose inComment : Bool) : Nat → List Char → Option (List Char × List Char)
  | 0, input => some ([], input)
  | _ + 1, [] => none
  | n + 1, c :: rest =>
    if inComment then takeSignificant verbose (c != '\n') (n + 1) rest
    else if verbose && Unicode.isWhiteSpace c then takeSignificant verbose false (n + 1) rest
    else if verbose && c = '#' then takeSignificant verbose true (n + 1) rest
    else (takeSignificant verbose false n rest).map fun (taken, rest) => (c :: taken, rest)

/-- The significant characters that satisfy `p`, up to the first that does not. -/
def spanSignificant (verbose : Bool) (p : Char → Bool) (inComment : Bool) :
    List Char → List Char × List Char
  | [] => ([], [])
  | c :: rest =>
    if inComment then spanSignificant verbose p (c != '\n') rest
    else if verbose && Unicode.isWhiteSpace c then spanSignificant verbose p false rest
    else if verbose && c = '#' then spanSignificant verbose p true rest
    else if p c then
      let (taken, rest) := spanSignificant verbose p false rest
      (c :: taken, rest)
    else ([], c :: rest)

/-- The significant characters before the next closing brace, and the input behind it. -/
def takeBraced (verbose : Bool) (input : List Char) : Option (List Char × List Char) :=
  match spanSignificant verbose (· != '}') false input with
  | (inside, '}' :: rest) => some (inside, rest)
  | _ => none

/-! ## Numbers -/

/-- The largest count and the largest code point that can be written. -/
def maxNumber : Nat := UInt32.size - 1

/-- The value of a hexadecimal digit. -/
def hexDigit? (c : Char) : Option Nat :=
  if c.isDigit then some (c.toNat - '0'.toNat)
  else if 'a' ≤ c && c ≤ 'f' then some (c.toNat - 'a'.toNat + 10)
  else if 'A' ≤ c && c ≤ 'F' then some (c.toNat - 'A'.toNat + 10)
  else none

/-- The character whose code point the hexadecimal digits give. -/
def charOfHex? (digits : List Char) : Option Char := do
  let values ← digits.mapM hexDigit?
  let n := values.foldl (fun n d => n * 16 + d) 0
  if digits.isEmpty then none
  else if n.isValidChar then some (Char.ofNat n) else none

/-- A count in a repetition, with white space around it. -/
def readCount (verbose : Bool) (input : List Char) : Option (Nat × List Char) :=
  let (digits, rest) :=
    spanSignificant verbose Char.isDigit false (input.dropWhile Unicode.isWhiteSpace)
  let n := digits.foldl (fun n d => n * 10 + (d.toNat - '0'.toNat)) 0
  if digits.isEmpty || maxNumber < n then none
  else some (n, rest.dropWhile Unicode.isWhiteSpace)

/-- The bounds of a counted repetition; the input begins behind the opening brace. -/
def readBounds (verbose : Bool) (input : List Char) :
    Option ((Nat × Option Nat) × List Char) := do
  let (low, rest) ← readCount verbose input
  match rest with
  | '}' :: rest => some ((low, some low), rest)
  | ',' :: rest =>
    match skipBlank verbose rest with
    | '}' :: rest => some ((low, none), rest)
    | rest =>
      match ← readCount verbose rest with
      | (high, '}' :: rest) => if low ≤ high then some ((low, some high), rest) else none
      | _ => none
  | _ => none

/-- The input behind the question mark that makes a repetition lazy. -/
def skipLazy : List Char → List Char
  | '?' :: rest => rest
  | rest => rest

/-! ## Escapes -/

/-- The property named between braces: with a value behind `!=`, `:` or `=`, or bare. -/
def propertyQuery (negated : Bool) (name : List Char) : PropertyQuery × Bool :=
  match splitNotEqual name with
  | some (name, value) => (.value name value, !negated)
  | none =>
    let mark := if name.contains ':' then ':' else '='
    if name.contains mark then
      let before := name.takeWhile (· != mark)
      (.value before (name.drop (before.length + 1)), negated)
    else (.name name, negated)
where
  /-- The parts before and behind the first `!=`. -/
  splitNotEqual : List Char → Option (List Char × List Char)
    | '!' :: '=' :: rest => some ([], rest)
    | c :: rest => (splitNotEqual rest).map fun (before, value) => (c :: before, value)
    | [] => none

/-- A property escape behind its letter. -/
def readProperty (verbose negated : Bool) (input : List Char) :
    Option ((PropertyQuery × Bool) × List Char) :=
  match skipBlank verbose input with
  | '{' :: rest => (takeBraced verbose rest).map fun (name, rest) =>
      (propertyQuery negated name, rest)
  | '\\' :: _ => none
  | c :: rest => some ((.name [c], negated), rest)
  | [] => none

/-- A hexadecimal escape behind its letter, with `digits` digits unless it has braces. -/
def readHex (verbose : Bool) (digits : Nat) (input : List Char) :
    Option (Literal × List Char) :=
  match skipBlank verbose input with
  | '{' :: rest => do
    let (inside, rest) ← takeBraced verbose rest
    let c ← charOfHex? inside
    pure (⟨c, false⟩, rest)
  | rest => do
    let (taken, rest) ← takeSignificant verbose false digits rest
    let c ← charOfHex? taken
    pure (⟨c, digits == 2⟩, rest)

/-- A letter or a hyphen, of which the names of word boundaries are made. -/
def isBoundaryNameChar (c : Char) : Bool :=
  c.isAlpha || c == '-'

/-- The kind of a word boundary; the input begins behind `\b`.  A brace that cannot begin a name is
left to be a repetition. -/
def readBoundary (verbose : Bool) (input : List Char) : Option (Assertion × List Char) :=
  match input with
  | '{' :: rest =>
    match skipBlank verbose rest with
    | [] => none
    | c :: _ =>
      if isBoundaryNameChar c then
        match spanSignificant verbose isBoundaryNameChar false rest with
        | (name, '}' :: rest) =>
          match String.ofList name with
          | "start" => some (.wordStart, rest)
          | "end" => some (.wordEnd, rest)
          | "start-half" => some (.wordStartHalf, rest)
          | "end-half" => some (.wordEndHalf, rest)
          | _ => none
        | _ => none
      else some (.wordBoundary, input)
  | _ => some (.wordBoundary, input)

/-- An escape sequence; the input begins behind the backslash.  Letters and digits have to be
among the listed ones; any other ASCII character stands for itself. -/
def readEscape (verbose : Bool) : List Char → Option (Expr × List Char)
  | [] => none
  | c :: rest =>
    let plain (c : Char) : Option (Expr × List Char) := some (.literal ⟨c, false⟩, rest)
    let assertion (kind : Assertion) : Option (Expr × List Char) := some (.assertion kind, rest)
    let shorthand (kind : Shorthand) (negated : Bool) : Option (Expr × List Char) :=
      some (.shorthand kind negated, rest)
    let property (negated : Bool) : Option (Expr × List Char) :=
      (readProperty verbose negated rest).map fun ((query, negated), rest) =>
        (.property query negated, rest)
    let hex (digits : Nat) : Option (Expr × List Char) :=
      (readHex verbose digits rest).map fun (l, rest) => (.literal l, rest)
    match c with
    | 'x' => hex 2
    | 'u' => hex 4
    | 'U' => hex 8
    | 'p' => property false
    | 'P' => property true
    | 'd' => shorthand .digit false
    | 'D' => shorthand .digit true
    | 's' => shorthand .space false
    | 'S' => shorthand .space true
    | 'w' => shorthand .word false
    | 'W' => shorthand .word true
    | 'a' => plain '\x07'
    | 'f' => plain '\x0c'
    | 't' => plain '\t'
    | 'n' => plain '\n'
    | 'r' => plain '\r'
    | 'v' => plain '\x0b'
    | 'A' => assertion .textStart
    | 'z' => assertion .textEnd
    | 'b' => (readBoundary verbose rest).map fun (kind, rest) => (.assertion kind, rest)
    | 'B' => assertion .notWordBoundary
    | '<' => assertion .wordStart
    | '>' => assertion .wordEnd
    | c => if c.toNat < 128 && !c.isAlphanum then plain c else none

/-! ## Bracketed classes -/

/-- The class with the given bracketed name. -/
def NamedClass.ofName? (name : List Char) : Option NamedClass :=
  match String.ofList name with
  | "alnum" => some .alnum
  | "alpha" => some .alpha
  | "ascii" => some .ascii
  | "blank" => some .blank
  | "cntrl" => some .cntrl
  | "digit" => some .digit
  | "graph" => some .graph
  | "lower" => some .lower
  | "print" => some .print
  | "punct" => some .punct
  | "space" => some .space
  | "upper" => some .upper
  | "word" => some .word
  | "xdigit" => some .xdigit
  | _ => none

/-- A class such as `[:alpha:]` behind its opening bracket; `none` if the text is not one. -/
def readNamedClass : List Char → Option (ClassSet × List Char)
  | ':' :: rest =>
    let negated := rest.head? == some '^'
    let body := if negated then rest.drop 1 else rest
    let name := body.takeWhile (· != ':')
    match body.drop name.length with
    | ':' :: ']' :: rest => (NamedClass.ofName? name).map fun kind => (.named kind negated, rest)
    | _ => none
  | _ => none

/-- A class that is still open: whether it is negated, the operator that waits for its right side
with what stands on its left, and the parts read since, newest first. -/
structure ClassLevel where
  negated : Bool
  pending : Option (SetOperator × ClassSet)
  parts : List ClassSet

namespace ClassLevel

/-- The level with one more part. -/
def push (level : ClassLevel) (part : ClassSet) : ClassLevel :=
  { level with parts := part :: level.parts }

/-- Everything read so far as one set; operators group to the left. -/
def inside (level : ClassLevel) : ClassSet :=
  let last := ClassSet.ofParts level.parts.reverse
  match level.pending with
  | none => last
  | some (op, left) => .operation op left last

/-- The level behind an operator. -/
def operate (level : ClassLevel) (op : SetOperator) : ClassLevel :=
  { level with pending := some (op, level.inside), parts := [] }

/-- The level behind an opening bracket: a caret negates, hyphens that come first are literal, and so
is a closing bracket that comes first. -/
def start (verbose : Bool) (input : List Char) : ClassLevel × List Char :=
  let input := skipBlank verbose input
  let (negated, input) := match input with
    | '^' :: rest => (true, skipBlank verbose rest)
    | _ => (false, input)
  let (hyphens, input) := spanSignificant verbose (· == '-') false input
  let literals := hyphens.map fun c => ClassSet.literal ⟨c, false⟩
  match literals, input with
  | [], ']' :: rest => (⟨negated, none, [.literal ⟨']', false⟩]⟩, rest)
  | _, _ => (⟨negated, none, literals⟩, input)

end ClassLevel

/-- One item of a class as an atom: an escape, or the character itself. -/
def readClassAtom (verbose : Bool) : List Char → Option (Expr × List Char)
  | [] => none
  | '\\' :: rest => readEscape verbose rest
  | c :: rest => some (.literal ⟨c, false⟩, rest)

/-- An atom as part of a class; a position condition is none. -/
def ClassSet.ofAtom? : Expr → Option ClassSet
  | .literal l => some (.literal l)
  | .shorthand kind negated => some (.shorthand kind negated)
  | .property query negated => some (.property query negated)
  | _ => none

/-- The next significant character behind a hyphen. -/
def peekBehindHyphen (verbose : Bool) (rest : List Char) : Option Char :=
  if verbose then
    match rest.dropWhile Unicode.isWhiteSpace with
    | '#' :: rest => (rest.dropWhile Unicode.isWhiteSpace).head?
    | rest => rest.head?
  else rest.head?

/-- One item of a class, or a range between two literals. -/
def readClassPart (verbose : Bool) (input : List Char) : Option (ClassSet × List Char) := do
  let (atom, rest) ← readClassAtom verbose input
  match skipBlank verbose rest with
  | [] => none
  | '-' :: rest =>
    let next := peekBehindHyphen verbose rest
    if next == some ']' || next == some '-' then
      let part ← ClassSet.ofAtom? atom
      pure (part, '-' :: rest)
    else
      let (atom', rest) ← readClassAtom verbose (skipBlank verbose rest)
      match atom, atom' with
      | .literal low, .literal high =>
        if low.char ≤ high.char then pure (.range low high, rest) else none
      | _, _ => none
  | rest =>
    let part ← ClassSet.ofAtom? atom
    pure (part, rest)

/-- A bracketed class up to its closing bracket; `outer` holds the classes it is nested in, innermost
first.  Every round consumes a character, so the length of the input is fuel enough. -/
def readClass (verbose : Bool) :
    Nat → ClassLevel → List ClassLevel → List Char → Option (Expr × List Char)
  | 0, _, _, _ => none
  | fuel + 1, level, outer, input =>
    match skipBlank verbose input with
    | [] => none
    | '[' :: rest =>
      match readNamedClass rest with
      | some (part, rest) => readClass verbose fuel (level.push part) outer rest
      | none =>
        let (inner, rest) := ClassLevel.start verbose rest
        readClass verbose fuel inner (level :: outer) rest
    | ']' :: rest =>
      match outer with
      | [] => some (.bracketed level.negated level.inside, rest)
      | parent :: outer =>
        readClass verbose fuel (parent.push (.bracketed level.negated level.inside)) outer rest
    | '&' :: '&' :: rest => readClass verbose fuel (level.operate .intersection) outer rest
    | '-' :: '-' :: rest => readClass verbose fuel (level.operate .difference) outer rest
    | '~' :: '~' :: rest => readClass verbose fuel (level.operate .symmetricDifference) outer rest
    | input =>
      match readClassPart verbose input with
      | some (part, rest) => readClass verbose fuel (level.push part) outer rest
      | none => none

/-! ## Groups -/

/-- The item that a character of a flag group stands for. -/
def FlagItem.ofChar? : Char → Option FlagItem
  | '-' => some .off
  | 'i' => some (.flag .ignoreCase)
  | 'm' => some (.flag .multiLine)
  | 's' => some (.flag .dotMatchesNewline)
  | 'U' => some (.flag .swapGreed)
  | 'u' => some (.flag .unicode)
  | 'R' => some (.flag .crlf)
  | 'x' => some (.flag .verbose)
  | _ => none

/-- Flag items up to `:` or `)`; `seen` holds those already read, newest first.  No item may come
twice, and the hyphen not last.  The second component tells whether a colon ended them. -/
def readFlags (seen : List FlagItem) : List Char → Option (List FlagItem × Bool × List Char)
  | [] => none
  | c :: rest =>
    if c = ':' || c = ')' then
      if seen.head? == some .off then none else some (seen.reverse, c = ':', rest)
    else
      match FlagItem.ofChar? c with
      | none => none
      | some item => if seen.contains item then none else readFlags (item :: seen) rest

/-- Whether a character may stand in the name of a group, and whether as its first one. -/
def isGroupNameChar (first : Bool) (c : Char) : Bool :=
  c == '_' || Unicode.isAlphabetic c ||
    (!first && (Unicode.isNumeric c || c == '.' || c == '[' || c == ']'))

/-- The name of a group up to `>`. -/
def readGroupName (seen : List Char) : List Char → Option (List Char × List Char)
  | [] => none
  | c :: rest =>
    if c = '>' then if seen.isEmpty then none else some (seen.reverse, rest)
    else if isGroupNameChar seen.isEmpty c then readGroupName (c :: seen) rest
    else none

/-- The head of a group behind its opening parenthesis: a token for the group, or for the flags that
are set where it stands. -/
def readGroupHead : List Char → Option (Token × List Char)
  | '?' :: 'P' :: '<' :: rest | '?' :: '<' :: rest =>
    (readGroupName [] rest).map fun (name, rest) => (.openGroup true (some name) [], rest)
  | '?' :: rest =>
    match readFlags [] rest with
    | none => none
    | some (flags, true, rest) => some (.openGroup false none flags, rest)
    | some (flags, false, rest) => if flags.isEmpty then none else some (.atom (.setFlags flags), rest)
  | rest => some (.openGroup true none [], rest)

/-- What the flag items say about a flag, if they mention it. -/
def FlagItem.state? (f : Flag) : List FlagItem → Option Bool
  | [] => none
  | .off :: rest => if rest.contains (.flag f) then some false else none
  | .flag g :: rest => if g = f then some true else FlagItem.state? f rest

/-! ## The whole pattern -/

/-- The tokens of a pattern.  `saved` holds the verbose modes to return to when the open groups end,
innermost first.  Every round consumes a character, so the length of the input is fuel enough. -/
def tokens (fuel : Nat) (verbose : Bool) (saved : List Bool) (input : List Char) :
    Option (List Token) :=
  match fuel with
  | 0 => none
  | fuel + 1 =>
    let single (t : Token) (rest : List Char) : Option (List Token) :=
      (tokens fuel verbose saved rest).map (t :: ·)
    match skipBlank verbose input with
    | [] => some []
    | '(' :: rest =>
      match readGroupHead (skipBlank verbose rest) with
      | none => none
      | some (.openGroup captures name flags, rest) =>
        let inner := (FlagItem.state? .verbose flags).getD verbose
        (tokens fuel inner (verbose :: saved) rest).map (.openGroup captures name flags :: ·)
      | some (.atom (.setFlags flags), rest) =>
        let verbose := (FlagItem.state? .verbose flags).getD verbose
        (tokens fuel verbose saved rest).map (.atom (.setFlags flags) :: ·)
      | some _ => none
    | ')' :: rest =>
      match saved with
      | [] => none
      | verbose :: saved => (tokens fuel verbose saved rest).map (.closeGroup :: ·)
    | '|' :: rest => single .bar rest
    | '?' :: rest => single (.repetition 0 (some 1)) (skipLazy rest)
    | '*' :: rest => single (.repetition 0 none) (skipLazy rest)
    | '+' :: rest => single (.repetition 1 none) (skipLazy rest)
    | '{' :: rest =>
      match readBounds verbose rest with
      | none => none
      | some ((low, high), rest) => single (.repetition low high) (skipLazy (skipBlank verbose rest))
    | '[' :: rest =>
      let (level, rest) := ClassLevel.start verbose rest
      match readClass verbose (rest.length + 1) level [] rest with
      | none => none
      | some (e, rest) => single (.atom e) rest
    | '\\' :: rest =>
      match readEscape verbose rest with
      | none => none
      | some (e, rest) => single (.atom e) rest
    | '.' :: rest => single (.atom .dot) rest
    | '^' :: rest => single (.atom (.assertion .lineStart)) rest
    | '$' :: rest => single (.atom (.assertion .lineEnd)) rest
    | c :: rest => single (.atom (.literal ⟨c, false⟩)) rest

end ContentFilter.Regex
