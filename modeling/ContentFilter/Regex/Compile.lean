import ContentFilter.Regex.Basic
import ContentFilter.Regex.Parser
import ContentFilter.Regex.Plan.Size
import ContentFilter.Unicode.Property

/-!
# Compiling a pattern

Flags take effect here: the tree of a pattern becomes a regular expression.  Where the `u` flag is
switched off, only characters of ASCII have classes and cases, and whatever could match a part of a
character beyond ASCII is refused: a byte escape, the dot, a negated class, a property.

`Regex.compile` is the reading of a pattern's text as a whole, under a bound on its size.
-/

namespace ContentFilter.Regex

/-- The flags in force at some place of a pattern. -/
structure Modes where
  ignoreCase : Bool
  multiLine : Bool := false
  dotMatchesNewline : Bool := false
  alphabet : Alphabet := .unicode
  crlf : Bool := false
deriving Repr

namespace Modes

/-- The modes with one flag switched. -/
def set (modes : Modes) (value : Bool) : Flag → Modes
  | .ignoreCase => { modes with ignoreCase := value }
  | .multiLine => { modes with multiLine := value }
  | .dotMatchesNewline => { modes with dotMatchesNewline := value }
  | .unicode => { modes with alphabet := if value then .unicode else .ascii }
  | .crlf => { modes with crlf := value }
  | .swapGreed | .verbose => modes

/-- The modes behind a group of flags: switched on up to the hyphen, off behind it. -/
def apply (modes : Modes) (value : Bool) : List FlagItem → Modes
  | [] => modes
  | .off :: rest => modes.apply false rest
  | .flag f :: rest => (modes.set value f).apply value rest

/-- The set, closed under letter case where case does not count. -/
def fold (modes : Modes) (set : CharSet) : CharSet :=
  if modes.ignoreCase then .caseClosure modes.alphabet set else set

/-- The complement of a set, where negation is allowed. -/
def negate (modes : Modes) (negated : Bool) (set : CharSet) : Option CharSet :=
  match negated, modes.alphabet with
  | false, _ => some set
  | true, .unicode => some (.complement set)
  | true, .ascii => none

end Modes

/-- The characters of a class with a bracketed name, all of them ASCII. -/
def NamedClass.toSet : NamedClass → CharSet
  | .alnum => .union (.range '0' '9') (.union (.range 'A' 'Z') (.range 'a' 'z'))
  | .alpha => .union (.range 'A' 'Z') (.range 'a' 'z')
  | .ascii => .range '\x00' '\x7f'
  | .blank => .union (.singleton '\t') (.singleton ' ')
  | .cntrl => .union (.range '\x00' '\x1f') (.singleton '\x7f')
  | .digit => .range '0' '9'
  | .graph => .range '!' '~'
  | .lower => .range 'a' 'z'
  | .print => .range ' ' '~'
  | .punct => .union (.range '!' '/') (.union (.range ':' '@')
      (.union (.range '[' '\x60') (.range '\x7b' '~')))
  | .space => .space .ascii
  | .upper => .range 'A' 'Z'
  | .word => .word .ascii
  | .xdigit => .union (.range '0' '9') (.union (.range 'A' 'F') (.range 'a' 'f'))

/-- The characters of a class with a one-letter escape. -/
def Shorthand.toSet (alphabet : Alphabet) : Shorthand → CharSet
  | .digit => .digit alphabet
  | .space => .space alphabet
  | .word => .word alphabet

/-- The characters that have a property, if there is such a property. -/
def PropertyQuery.toSet? : PropertyQuery → Option CharSet
  | .name bare => (Unicode.property? bare).map .table
  | .value owner text => (Unicode.propertyValue? owner text).map .table

/-- The set of a property escape.  Properties speak of all characters, so they need the full
alphabet. -/
def propertySet (modes : Modes) (query : PropertyQuery) (negated : Bool) : Option CharSet :=
  match modes.alphabet with
  | .ascii => none
  | .unicode => do
    let set ← query.toSet?
    modes.negate negated (modes.fold set)

/-- A literal inside a class, which the alphabet has to hold. -/
def classLiteral (modes : Modes) (l : Literal) : Option Char :=
  match modes.alphabet with
  | .unicode => some l.char
  | .ascii => if l.char.toNat < 128 then some l.char else none

/-- The set that the inside of a bracketed class stands for.  Both sides of an operator are closed
under letter case before it is applied. -/
def ClassSet.toSet? (modes : Modes) : ClassSet → Option CharSet
  | .empty => some .empty
  | .literal l => (classLiteral modes l).map .singleton
  | .range low high => do
    let low ← classLiteral modes low
    let high ← classLiteral modes high
    pure (.range low high)
  | .named name negated => modes.negate negated (modes.fold name.toSet)
  | .shorthand kind negated => modes.negate negated (kind.toSet modes.alphabet)
  | .property query negated => propertySet modes query negated
  | .bracketed negated inside => do
    let set ← inside.toSet? modes
    modes.negate negated (modes.fold set)
  | .union a b => do
    let a ← a.toSet? modes
    let b ← b.toSet? modes
    pure (.union a b)
  | .operation op a b => do
    let a ← a.toSet? modes
    let b ← b.toSet? modes
    let a := modes.fold a
    let b := modes.fold b
    pure (match op with
      | .intersection => .inter a b
      | .difference => .diff a b
      | .symmetricDifference => .symmDiff a b)

/-- The characters of the dot. -/
def dotSet (modes : Modes) : Option CharSet :=
  match modes.alphabet with
  | .ascii => none
  | .unicode => some <|
    if modes.dotMatchesNewline then .all
    else if modes.crlf then .complement (.union (.singleton '\n') (.singleton '\r'))
    else .complement (.singleton '\n')

/-- The condition that an assertion stands for. -/
def Assertion.toCondition (modes : Modes) : Assertion → SiteCondition
  | .lineStart => if modes.multiLine then .lineStart modes.crlf else .textStart
  | .lineEnd => if modes.multiLine then .lineEnd modes.crlf else .textEnd
  | .textStart => .textStart
  | .textEnd => .textEnd
  | .wordBoundary => .wordBoundary modes.alphabet
  | .notWordBoundary => .notWordBoundary modes.alphabet
  | .wordStart => .wordStart modes.alphabet
  | .wordEnd => .wordEnd modes.alphabet
  | .wordStartHalf => .wordStartHalf modes.alphabet
  | .wordEndHalf => .wordEndHalf modes.alphabet

/-- The set of a literal outside a class. -/
def literalSet (modes : Modes) (l : Literal) : Option CharSet :=
  match modes.alphabet with
  | .ascii =>
    if l.isByte && 128 ≤ l.char.toNat then none else some (modes.fold (.singleton l.char))
  | .unicode => some (modes.fold (.singleton l.char))

/-- The regular expression of a pattern, and the modes in force behind it.  Flags set within a group
last to its end, across its alternatives. -/
def lower (modes : Modes) : Expr → Option (Regex × Modes)
  | .empty => some (.empty, modes)
  | .setFlags items => some (.empty, modes.apply true items)
  | .literal l => (literalSet modes l).map fun set => (.one set, modes)
  | .dot => (dotSet modes).map fun set => (.one set, modes)
  | .assertion kind => some (.position (kind.toCondition modes), modes)
  | .shorthand kind negated =>
    (modes.negate negated (kind.toSet modes.alphabet)).map fun set => (.one set, modes)
  | .property query negated => (propertySet modes query negated).map fun set => (.one set, modes)
  | .bracketed negated inside => do
    let set ← inside.toSet? modes
    let set ← modes.negate negated (modes.fold set)
    pure (.one set, modes)
  | .repeated low high e => do
    let (r, modes) ← lower modes e
    pure (.repeated low (high.map (· - low)) r, modes)
  | .group captures flags e => do
    let (r, _) ← lower (modes.apply true flags) e
    pure (.group captures r, modes)
  | .alternate a b => do
    let (a, modes) ← lower modes a
    let (b, modes) ← lower modes b
    pure (.alternate a b, modes)
  | .concat a b => do
    let (a, modes) ← lower modes a
    let (b, modes) ← lower modes b
    pure (.concat a b, modes)

/-- The regular expression of a pattern that is well formed, free of what the alphabet in force
excludes and run by machines of at most `maxSize` bytes. -/
def compile (maxSize : Nat) (ignoreCase : Bool) (pattern : List Char) : Option Regex := do
  let e ← Expr.parse pattern
  let (r, _) ← lower ⟨ignoreCase, false, false, .unicode, false⟩ e
  if r.plan.fits maxSize then pure r else none

end ContentFilter.Regex
