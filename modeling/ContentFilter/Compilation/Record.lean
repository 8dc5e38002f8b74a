import ContentFilter.Compilation
import ContentFilter.Json.Value

/-!
# Diagnostics as a record

How what is known about a compilation is written as JSON.
-/

namespace ContentFilter

namespace Json

/-- An object with a field per category, in the order given. -/
def byCategory {α : Type} (encode : α → Json) (entries : List (Category × α)) : Json :=
  .record (entries.map fun (category, value) => (category.name, encode value))

end Json

/-- The record of a band that was used up. -/
def RangeExhaustion.toJson (exhaustion : RangeExhaustion) : Json :=
  .record [
    ("category", .string exhaustion.category.name),
    ("width", .nat exhaustion.width),
    ("dropped", .nat exhaustion.dropped)]

/-- The record of the diagnostics of a compilation. -/
def CompileDiagnostics.toJson (diagnostics : CompileDiagnostics) : Json :=
  .record [
    ("lists_compiled", .nat diagnostics.listsCompiled),
    ("parse_skipped", .nat diagnostics.parseSkipped),
    ("rules_before_optimize", .nat diagnostics.rulesBeforeOptimize),
    ("rules_after_optimize", .nat diagnostics.rulesAfterOptimize),
    ("duplicates_removed", .nat diagnostics.duplicatesRemoved),
    ("badfiltered", .nat diagnostics.badfiltered),
    ("rejected_rules", .nat diagnostics.rejectedRules),
    ("range_exhausted", .list (diagnostics.rangeExhausted.map RangeExhaustion.toJson)),
    ("list_ceiling", .nat diagnostics.listCeiling),
    ("capacity_dropped", .nat diagnostics.capacityDropped),
    ("stale_lists", Json.strings diagnostics.staleLists),
    ("rules_per_category", .byCategory Json.nat diagnostics.rulesPerCategory),
    ("rules_per_list", .record (diagnostics.rulesPerList.map fun (id, count) => (id, .nat count))),
    ("cosmetic_rules", .nat diagnostics.cosmeticRules)]

end ContentFilter
