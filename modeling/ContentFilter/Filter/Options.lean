import ContentFilter.Filter

/-!
# Options of network filters

The clause behind the dollar sign of a network filter: comma-separated tokens that restrict the filter
to types, parties and domains, or change how it is applied.  Unknown options do not count.  An option
that would turn the filter into something else than a plain block or exception is unsupported and
makes the whole filter invalid.
-/

namespace ContentFilter.Filter

/-- What the options of a filter say.  Listed and negated types are kept apart until all are read. -/
structure Options where
  scope : Domain.Scope
  listedTypes : ResourceTypes
  negatedTypes : ResourceTypes
  party : Option Party
  important : Bool
  matchCase : Bool
  badfilter : Bool
deriving DecidableEq, Repr

namespace Options

/-- No options. -/
def none : Options := ⟨.everywhere, .empty, .empty, Option.none, false, false, false⟩

/-- The options that change a filter's action into one that has no rule. -/
def unsupported : List String :=
  ["redirect", "redirect-rule", "rewrite", "removeparam", "queryprune", "csp", "replace", "header",
   "permissions", "urltransform", "uritransform", "cookie", "hls", "jsonprune", "stealth", "popup",
   "popunder", "empty", "mp4", "inline-script", "inline-font", "elemhide", "ehide", "generichide",
   "ghide", "specifichide", "shide", "genericblock", "content", "jsinject", "urlblock", "extension"]

/-- The options with the domains of one more domain option.  A domain excluded by any of them is not
included by another. -/
def addDomains (options : Options) (value : List Char) : Option Options := do
  let scope ← Domain.Scope.ofList? '|' value
  if scope.includes.isEmpty && scope.excludes.isEmpty then Option.none
  else
    let merged : Domain.Scope :=
      { includes := scope.includes.foldl Domain.insertNew options.scope.includes
        excludes := scope.excludes.foldl Domain.insertNew options.scope.excludes }
    pure { options with scope := merged.separate }

/-- The options with one more token that has a value. -/
def addValued (options : Options) (name : String) (value : List Char) : Option Options :=
  if name == "domain" || name == "from" then options.addDomains value
  else if unsupported.contains name then Option.none
  else some options

/-- The restriction that a token without a value names, if it names one. -/
def partyOf? (name : String) : Option Party :=
  match name with
  | "third-party" | "thirdparty" | "3p" | "~first-party" | "~1p" => some .third
  | "~third-party" | "~3p" | "first-party" | "firstparty" | "1p" => some .first
  | _ => Option.none

/-- The options with one more type, negated by a leading `~`; other tokens do not count. -/
def addType (options : Options) (name : String) : Options :=
  match name.toList with
  | '~' :: rest =>
    match ResourceTypes.ofOption? (String.ofList rest) with
    | some types => { options with negatedTypes := options.negatedTypes.union types }
    | Option.none => options
  | _ =>
    match ResourceTypes.ofOption? name with
    | some types => { options with listedTypes := options.listedTypes.union types }
    | Option.none => options

/-- The options with one more token that has no value. -/
def addPlain (options : Options) (name : String) : Option Options :=
  match name with
  | "important" => some { options with important := true }
  | "match-case" | "match_case" => some { options with matchCase := true }
  | "badfilter" => some { options with badfilter := true }
  | _ =>
    match partyOf? name with
    | some party => some { options with party := some party }
    | Option.none =>
      if unsupported.contains name then Option.none else some (options.addType name)

/-- The options with one more token.  Names are read without regard to case, values as they stand. -/
def addToken (options : Options) (token : List Char) : Option Options :=
  let token := Text.trim token
  let name := token.takeWhile (· != '=')
  let folded := String.ofList (Text.lower name)
  if token.isEmpty then some options
  else
    match token.drop name.length with
    | _ :: value => options.addValued folded value
    | [] => options.addPlain folded

/-- The types the filter is restricted to, if it names any: the listed ones, or else the common ones,
without the negated ones. -/
def resourceTypes (options : Options) : Option ResourceTypes :=
  if options.listedTypes.isEmpty && options.negatedTypes.isEmpty then Option.none
  else if options.listedTypes.isEmpty then some (ResourceTypes.common.without options.negatedTypes)
  else some (options.listedTypes.without options.negatedTypes)

/-- The options of a clause, unless one of them is invalid or they leave no type. -/
def parse? (clause : List Char) : Option Options := do
  let options ← (Text.splitOn ',' clause).foldlM addToken none
  if options.resourceTypes.any (·.isEmpty) then Option.none else pure options

end Options

end ContentFilter.Filter
