import ContentFilter.Json.Value

/-!
# Reading JSON

The value that a text stands for, with a mark where the text goes wrong.  Every step of the reader
consumes a character, so the length of the text bounds its recursion.
-/

namespace ContentFilter.Json

/-- A character that may stand between tokens. -/
def isBlank (c : Char) : Bool := c == ' ' || c == '\t' || c == '\n' || c == '\r'

/-- The text from its next token on. -/
def skipBlanks (s : List Char) : List Char := s.dropWhile isBlank

/-- The value of a hexadecimal digit. -/
def hexValue? (c : Char) : Option Nat :=
  if c.isDigit then some (c.toNat - '0'.toNat)
  else if 'a' ≤ c && c ≤ 'f' then some (c.toNat - 'a'.toNat + 10)
  else if 'A' ≤ c && c ≤ 'F' then some (c.toNat - 'A'.toNat + 10)
  else none

/-- The number that four hexadecimal digits spell. -/
def unit? (a b c d : Char) : Option Nat := do
  let a ← hexValue? a
  let b ← hexValue? b
  let c ← hexValue? c
  let d ← hexValue? d
  pure (((a * 16 + b) * 16 + c) * 16 + d)

/-- The character of an escape of one letter. -/
def simpleEscape? : Char → Option Char
  | '"' => some '"'
  | '\\' => some '\\'
  | '/' => some '/'
  | 'b' => some '\x08'
  | 'f' => some '\x0c'
  | 'n' => some '\n'
  | 'r' => some '\r'
  | 't' => some '\t'
  | _ => none

/-- What has been read of a string: its characters, newest first, a high surrogate that waits for its
partner, and whether every surrogate so far had one. -/
structure StringState where
  chars : List Char
  high : Option Nat
  paired : Bool

namespace StringState

/-- The state with one more character that is no surrogate. -/
def push (state : StringState) (c : Char) : StringState :=
  { chars := c :: state.chars, high := none, paired := state.paired && state.high.isNone }

/-- The state with one more escaped unit of sixteen bits. -/
def pushUnit (state : StringState) (n : Nat) : StringState :=
  if 0xdc00 ≤ n && n < 0xe000 then
    match state.high with
    | some high =>
      { state with
        chars := Char.ofNat (0x10000 + (high - 0xd800) * 0x400 + (n - 0xdc00)) :: state.chars
        high := none }
    | none => { state with paired := false }
  else if 0xd800 ≤ n && n < 0xdc00 then
    { state with high := some n, paired := state.paired && state.high.isNone }
  else state.push (Char.ofNat n)

/-- The value of the string when it ends. -/
def finish (state : StringState) : Json :=
  if state.paired && state.high.isNone then .string (String.ofList state.chars.reverse) else .unpaired

end StringState

/-- The rest of a string behind its opening quote, and the text behind it. -/
def readString (state : StringState) : List Char → Option (Json × List Char)
  | [] => none
  | '"' :: rest => some (state.finish, rest)
  | '\\' :: 'u' :: a :: b :: c :: d :: rest =>
    match unit? a b c d with
    | some n => readString (state.pushUnit n) rest
    | none => none
  | '\\' :: c :: rest =>
    match simpleEscape? c with
    | some c => readString (state.push c) rest
    | none => none
  | c :: rest => if c.toNat < 0x20 then none else readString (state.push c) rest

/-- The digits at the start of a text, and what follows. -/
def spanDigits (s : List Char) : List Char × List Char :=
  (s.takeWhile Char.isDigit, s.dropWhile Char.isDigit)

/-- The fraction of a number with its point, if there is one. -/
def readFraction : List Char → Option (List Char × List Char)
  | '.' :: rest =>
    let (digits, rest) := spanDigits rest
    if digits.isEmpty then none else some ('.' :: digits, rest)
  | rest => some ([], rest)

/-- The exponent of a number with its letter and sign, if there is one. -/
def readExponent : List Char → Option (List Char × List Char)
  | [] => some ([], [])
  | c :: rest =>
    if c = 'e' || c = 'E' then
      let (sign, rest) := match rest with
        | '+' :: rest => (['+'], rest)
        | '-' :: rest => (['-'], rest)
        | rest => ([], rest)
      let (digits, rest) := spanDigits rest
      if digits.isEmpty then none else some (c :: sign ++ digits, rest)
    else some ([], c :: rest)

/-- A number and the text behind it. -/
def readNumber (s : List Char) : Option (Json × List Char) := do
  let (sign, rest) := match s with
    | '-' :: rest => (['-'], rest)
    | rest => ([], rest)
  let (digits, rest) := spanDigits rest
  if digits.isEmpty || (digits.head? == some '0' && digits.length != 1) then none
  else
    let (fraction, rest) ← readFraction rest
    let (exponent, rest) ← readExponent rest
    pure (.number (String.ofList (sign ++ digits ++ fraction ++ exponent)), rest)

/-- The text behind a word, if it begins with the word. -/
def readWord (word s : List Char) : Option (List Char) :=
  if word.isPrefixOf s then some (s.drop word.length) else none

mutual

/-- A value and the text behind it.  There is no such text if the value was cut short. -/
def readValue : Nat → List Char → Json × Option (List Char)
  | 0, _ => (.broken, none)
  | fuel + 1, s =>
    match skipBlanks s with
    | [] => (.broken, none)
    | '"' :: rest =>
      match readString ⟨[], none, true⟩ rest with
      | some (value, rest) => (value, some rest)
      | none => (.broken, none)
    | '[' :: rest =>
      match skipBlanks rest with
      | ']' :: rest => (.array [] true, some rest)
      | rest => readItems fuel [] rest
    | '{' :: rest =>
      match skipBlanks rest with
      | '}' :: rest => (.object [] true, some rest)
      | rest => readFields fuel [] rest
    | c :: rest =>
      let word (value : Json) (text : List Char) : Json × Option (List Char) :=
        match readWord text rest with
        | some rest => (value, some rest)
        | none => (.broken, none)
      if c = 'n' then word .null ['u', 'l', 'l']
      else if c = 't' then word (.bool true) ['r', 'u', 'e']
      else if c = 'f' then word (.bool false) ['a', 'l', 's', 'e']
      else
        match readNumber (c :: rest) with
        | some (value, rest) => (value, some rest)
        | none => (.broken, none)

/-- The items of an array up to its closing bracket; `seen` holds those already read, newest first. -/
def readItems : Nat → List Json → List Char → Json × Option (List Char)
  | 0, seen, _ => (.array seen.reverse false, none)
  | fuel + 1, seen, s =>
    match readValue fuel s with
    | (value, none) => (.array (value :: seen).reverse false, none)
    | (value, some rest) =>
      match skipBlanks rest with
      | ',' :: rest => readItems fuel (value :: seen) rest
      | ']' :: rest => (.array (value :: seen).reverse true, some rest)
      | _ => (.array (value :: seen).reverse false, none)

/-- The fields of an object up to its closing brace; `seen` holds those already read, newest first. -/
def readFields : Nat → List (String × Json) → List Char → Json × Option (List Char)
  | 0, seen, _ => (.object seen.reverse false, none)
  | fuel + 1, seen, s =>
    let cut : Json × Option (List Char) := (.object seen.reverse false, none)
    match skipBlanks s with
    | '"' :: rest =>
      match readString ⟨[], none, true⟩ rest with
      | some (.string key, rest) =>
        match skipBlanks rest with
        | ':' :: rest =>
          match readValue fuel rest with
          | (value, none) => (.object ((key, value) :: seen).reverse false, none)
          | (value, some rest) =>
            match skipBlanks rest with
            | ',' :: rest => readFields fuel ((key, value) :: seen) rest
            | '}' :: rest => (.object ((key, value) :: seen).reverse true, some rest)
            | _ => (.object ((key, value) :: seen).reverse false, none)
        | _ => cut
      | _ => cut
    | _ => cut

end

/-- A text read as JSON: its value, and whether nothing but blanks follows it. -/
structure Document where
  value : Json
  ended : Bool

/-- The reading of a text. -/
def read (text : String) : Document :=
  let chars := text.toList
  match readValue (chars.length + 1) chars with
  | (value, some rest) => ⟨value, (skipBlanks rest).isEmpty⟩
  | (value, none) => ⟨value, false⟩

/-- The value of a text that is JSON without fault. -/
def parse? (text : String) : Option Json :=
  let document := read text
  if document.ended && document.value.isStrict maxDepth then some document.value else none

end ContentFilter.Json
