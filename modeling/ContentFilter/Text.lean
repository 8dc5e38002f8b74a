import ContentFilter.Unicode.WordCharacter

/-!
# Text

The few operations on lists of characters that filter lists are read with: trimming, splitting and
comparison that ignores the case of ASCII letters.
-/

namespace ContentFilter.Text

/-- The text without its longest ending on which `p` holds throughout. -/
def dropEndWhile (p : Char → Bool) (s : List Char) : List Char :=
  (s.reverse.dropWhile p).reverse

/-- The text without leading white space. -/
def trimStart (s : List Char) : List Char := s.dropWhile Unicode.isWhiteSpace

/-- The text without trailing white space. -/
def trimEnd (s : List Char) : List Char := dropEndWhile Unicode.isWhiteSpace s

/-- The text without white space around it. -/
def trim (s : List Char) : List Char := trimEnd (trimStart s)

/-- The text with the capital letters of ASCII made small. -/
def lower (s : List Char) : List Char := s.map Char.toLower

/-- Equality up to the case of ASCII letters. -/
def equalIgnoreCase (a b : List Char) : Bool := lower a == lower b

/-- The parts between the characters on which `p` holds; a text without one is its only part. -/
def splitBy (p : Char → Bool) : List Char → List (List Char)
  | [] => [[]]
  | c :: rest =>
    if p c then [] :: splitBy p rest
    else
      match splitBy p rest with
      | part :: parts => (c :: part) :: parts
      | [] => [[c]]

theorem splitBy_ne_nil (p : Char → Bool) (s : List Char) : splitBy p s ≠ [] := by
  cases s with
  | nil => simp [splitBy]
  | cons c rest =>
    simp only [splitBy]
    split
    · simp
    · split <;> simp

/-- The parts between the occurrences of a character. -/
def splitOn (separator : Char) (s : List Char) : List (List Char) := splitBy (· == separator) s

/-- The longest parts that are free of white space. -/
def words (s : List Char) : List (List Char) :=
  (splitBy Unicode.isWhiteSpace s).filter (· != [])

/-- The lines of a text.  A line feed ends its line, so none begins behind the last one. -/
def lines (s : List Char) : List (List Char) :=
  let parts := splitOn '\n' s
  if parts.getLast? == some [] then parts.dropLast else parts

/-- The rest of the text behind the given beginning, if it begins so. -/
def stripStart? (beginning s : List Char) : Option (List Char) :=
  if beginning.isPrefixOf s then some (s.drop beginning.length) else none

/-- Whether `part` stands somewhere in the text. -/
def containsText (part : List Char) : List Char → Bool
  | [] => part.isEmpty
  | c :: rest => part.isPrefixOf (c :: rest) || containsText part rest

/-- The length of a text in UTF-8. -/
def utf8Length : List Char → Nat
  | [] => 0
  | c :: rest => c.utf8Size + utf8Length rest

end ContentFilter.Text
