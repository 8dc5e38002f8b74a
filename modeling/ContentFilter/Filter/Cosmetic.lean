import ContentFilter.Filter

/-!
# Reading cosmetic filters

A cosmetic filter is a list of domains, a separator that begins with a hash, and a body.  The
separator tells selectors from scripts and exceptions from plain filters; procedural selectors and
style injection have separators too, and no rule.
-/

namespace ContentFilter.Filter

/-- What stands between the domains and the body of a cosmetic filter. -/
structure CosmeticSeparator where
  mark : String
  /-- The kind of the filter, if it is one that can be expressed. -/
  isScript : Bool
  isException : Bool
  isSupported : Bool
deriving DecidableEq, Repr

/-- Every separator; where several fit, the first one in this list is meant. -/
def cosmeticSeparators : List CosmeticSeparator :=
  [⟨"#@%#", true, true, true⟩, ⟨"#%#", true, false, true⟩,
   ⟨"#@?#", false, true, false⟩, ⟨"#?#", false, false, false⟩,
   ⟨"#@$#", false, true, false⟩, ⟨"#$#", false, false, false⟩,
   ⟨"#@#", false, true, true⟩, ⟨"##", false, false, true⟩]

/-- The separator that a text begins with, and the text behind it. -/
def separatorAt? (s : List Char) : Option (CosmeticSeparator × List Char) :=
  cosmeticSeparators.findSome? fun separator =>
    (Text.stripStart? separator.mark.toList s).map (separator, ·)

/-- A line that holds a cosmetic separator, cut at the first one. -/
structure CosmeticLine where
  domains : List Char
  separator : CosmeticSeparator
  body : List Char
deriving DecidableEq, Repr

/-- The cut of a line at its first cosmetic separator. -/
def splitCosmetic? : List Char → Option CosmeticLine
  | [] => none
  | c :: rest =>
    match separatorAt? (c :: rest) with
    | some (separator, body) => some ⟨[], separator, body⟩
    | none => (splitCosmetic? rest).map fun line => { line with domains := c :: line.domains }

/-- Whether a list of domains names one to include. -/
def namesInclude (domains : List Char) : Bool :=
  (Text.splitOn ',' domains).any fun token =>
    let token := Text.trim token
    !token.isEmpty && token.head? != some '~'

/-- The scope of a cosmetic filter.  A list whose every include is also excluded leaves none. -/
def cosmeticScope? (domains : List Char) : Option Domain.Scope := do
  let scope ← Domain.Scope.ofList? ',' domains
  if scope.includes.isEmpty && namesInclude domains then none else pure scope

/-- The filter with a selector as its body, or with a script call `+js(...)`.  Scripts may only be
empty in exceptions, and selectors must not be procedural. -/
def hidingFilter? (scope : Domain.Scope) (isException : Bool) (body : List Char) :
    Option Filter :=
  match Text.stripStart? "+js(".toList body with
  | some args =>
    if args.getLast? == some ')' then
      let script := Text.trim args.dropLast
      if script.isEmpty && !isException then none
      else some (.scriptlet ⟨String.ofList script, scope, isException⟩)
    else none
  | none =>
    if "+js".toList.isPrefixOf body || Text.containsText ":-abp-".toList body ||
        Text.containsText ":has-text(".toList body then none
    else some (.elementHide ⟨String.ofList body, scope, isException⟩)

/-- The filter of a cosmetic line. -/
def CosmeticLine.filter? (line : CosmeticLine) : Option Filter := do
  let body := Text.trim line.body
  if body.isEmpty then none
  else
    let scope ← cosmeticScope? line.domains
    if !line.separator.isSupported then none
    else if line.separator.isScript then
      some (.scriptlet ⟨String.ofList body, scope, line.separator.isException⟩)
    else hidingFilter? scope line.separator.isException body

end ContentFilter.Filter
