import ContentFilter.Compilation

/-!
# Reports

The lines that commands print about compilations, lists and requests.
-/

namespace ContentFilter.Report

/-- A text filled up with blanks to at least `width` characters. -/
def padded (width : Nat) (text : String) : String :=
  text ++ String.ofList (List.replicate (width - text.length) ' ')

/-- The quotient of natural numbers rounded to the nearest one; a half goes to the even neighbour. -/
def roundedQuotient (n d : Nat) : Nat :=
  let quotient := n / d
  let rest := n % d
  if 2 * rest < d || (2 * rest = d && quotient % 2 = 0) then quotient else quotient + 1

/-- A number of bytes in units of 1024, with one place. -/
def kilobytes (size : Nat) : String :=
  let tenths := roundedQuotient (size * 10) 1024
  toString (tenths / 10) ++ "." ++ toString (tenths % 10)

/-- The lines about what a compilation dropped and kept. -/
def diagnosticsLines (diagnostics : CompileDiagnostics) : List String :=
  let perCategory := diagnostics.rulesPerCategory.map fun (category, count) =>
    "  " ++ padded 12 (category.name ++ ":") ++ " " ++ toString count ++ " rules"
  let exhausted := diagnostics.rangeExhausted.map fun exhaustion =>
    "  WARNING:  '" ++ exhaustion.category.name ++ "' id range (" ++ toString exhaustion.width ++
      " ids) exhausted, " ++ toString exhaustion.dropped ++ " rules dropped"
  let ceiling := if diagnostics.capacityDropped = 0 then [] else
    ("  WARNING:  rule ceiling of " ++ toString diagnostics.listCeiling ++ " reached, " ++
      toString diagnostics.capacityDropped ++ " list rules dropped") ::
    diagnostics.rulesPerList.map fun (list, count) =>
      "  " ++ padded 12 list ++ " " ++ toString count ++ " rules kept"
  let stale := if diagnostics.staleLists.isEmpty then [] else
    ["  Stale:    " ++ ", ".intercalate diagnostics.staleLists]
  ("  Skipped:  " ++ toString diagnostics.parseSkipped ++ " lines") ::
  ("  Removed:  " ++ toString diagnostics.duplicatesRemoved ++ " duplicates, " ++
    toString diagnostics.badfiltered ++ " badfiltered, " ++
    toString diagnostics.rejectedRules ++ " invalid") ::
  perCategory ++ exhausted ++ ceiling ++ stale

/-- The lines about a compilation whose rules were written to a file. -/
def compilationLines (inputs : Nat) (output : String) (lines size : Nat)
    (compilation : Compilation) : List String :=
  ("Compiled " ++ toString inputs ++ " filter lists to '" ++ output ++ "'") ::
  ("  Lines:    " ++ toString lines) ::
  ("  Rules:    " ++ toString compilation.rules.length ++ " network, " ++
    toString compilation.diagnostics.cosmeticRules ++ " cosmetic") ::
  diagnosticsLines compilation.diagnostics ++
  ["  Size:     " ++ toString size ++ " bytes (" ++ kilobytes size ++ " KB)"]

/-- The name of a format in a line about a list. -/
def formatTitle : ListFormat → String
  | .adblock => "Adblock"
  | .hosts => "Hosts"

/-- The line about a list that was read from a file. -/
def listLine (index : Nat) (fileName : String) (cached : CachedList) : String :=
  "  [" ++ toString index ++ "] " ++ fileName ++ " (" ++ cached.list.category.name ++ ", " ++
    formatTitle cached.list.format ++ ") - " ++ toString cached.list.rawRuleCount ++ " lines, " ++
    toString cached.filters.length ++ " rules, " ++ toString cached.skipped ++ " skipped"

/-- The line about a list that was fetched. -/
def fetchedLine (location : String) (cached : CachedList) : String :=
  "  fetched  " ++ location ++ " - " ++ toString cached.filters.length ++ " rules, " ++
    toString cached.skipped ++ " skipped"

/-- The line about a request. -/
def verdictLine (verdict : Verdict) (space : IdSpace) : String :=
  let decision := match verdict.decision with
    | .allow => "ALLOW"
    | .block => "BLOCK"
  match verdict.ruleId with
  | some id =>
    decision ++ " (rule " ++ toString id ++ ", priority " ++ toString verdict.priority ++ ", " ++
      ((space.categoryOf? id).map (·.name)).getD "unknown" ++ ")"
  | none => decision ++ " (no matching rule)"

end ContentFilter.Report
