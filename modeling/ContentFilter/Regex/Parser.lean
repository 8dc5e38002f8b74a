import ContentFilter.Regex.Token

/-!
# From tokens to the tree of a pattern

A stack of open groups collects the parts of a pattern.  `Expr.parse` reads a whole pattern; it
refuses unbalanced groups, repetitions of nothing, two groups of one name and patterns nested too
deeply.
-/

namespace ContentFilter.Regex

/-- A group that is still open: whether it captures, its flags, its finished alternatives and the
parts of the current one, both newest first. -/
structure GroupLevel where
  captures : Bool
  flags : List FlagItem
  branches : List Expr
  parts : List Expr

namespace GroupLevel

/-- The level of the pattern as a whole, and of a group that has just been opened. -/
def start (captures : Bool) (flags : List FlagItem) : GroupLevel := ⟨captures, flags, [], []⟩

/-- The level with one more part. -/
def push (level : GroupLevel) (e : Expr) : GroupLevel :=
  { level with parts := e :: level.parts }

/-- The level behind a bar. -/
def nextBranch (level : GroupLevel) : GroupLevel :=
  { level with branches := Expr.ofParts level.parts.reverse :: level.branches, parts := [] }

/-- The alternatives read so far as one expression. -/
def inside (level : GroupLevel) : Expr :=
  Expr.ofBranches (Expr.ofParts level.parts.reverse :: level.branches).reverse

/-- The level with its last part repeated. -/
def repeatLast (low : Nat) (high : Option Nat) (level : GroupLevel) : Option GroupLevel :=
  match level.parts with
  | e :: rest =>
    if e.isRepeatable then some { level with parts := .repeated low high e :: rest } else none
  | [] => none

end GroupLevel

/-- The expression that the tokens spell; `outer` holds the groups around the current one, innermost
first. -/
def Expr.ofTokens (level : GroupLevel) (outer : List GroupLevel) : List Token → Option Expr
  | [] => if outer.isEmpty then some level.inside else none
  | .atom e :: rest => Expr.ofTokens (level.push e) outer rest
  | .bar :: rest => Expr.ofTokens level.nextBranch outer rest
  | .repetition low high :: rest =>
    match level.repeatLast low high with
    | some level => Expr.ofTokens level outer rest
    | none => none
  | .openGroup captures _ flags :: rest =>
    Expr.ofTokens (.start captures flags) (level :: outer) rest
  | .closeGroup :: rest =>
    match outer with
    | [] => none
    | parent :: outer =>
      Expr.ofTokens (parent.push (.group level.captures level.flags level.inside)) outer rest

/-- The names of the groups that the tokens open. -/
def groupNames (ts : List Token) : List (List Char) :=
  ts.filterMap fun
    | .openGroup _ name _ => name
    | _ => none

/-- The deepest nesting that a pattern may have. -/
def maxHeight : Nat := 250

/-- The tree of a pattern's text, if the text is a pattern. -/
def Expr.parse (text : List Char) : Option Expr := do
  let ts ← tokens (text.length + 1) false [] text
  let e ← Expr.ofTokens (.start false []) [] ts
  if (groupNames ts).Nodup && e.height ≤ maxHeight then some e else none

end ContentFilter.Regex
