import ContentFilter.Config
import ContentFilter.CosmeticIndex
import ContentFilter.FilterList
import ContentFilter.Matcher
import ContentFilter.Optimizer
import ContentFilter.Priority

/-!
# Compilation

All enabled lists and a user's own rules become one batch of rules with ids and priorities, and an
index of cosmetic filters.  A compilation depends on its input alone.

The user's rules come first and are exempt from the ceiling on list rules; the lists share what is left
of the budget, and where it ends earlier lists keep their rules.
-/

namespace ContentFilter

/-- Everything that a compilation depends on, the settings apart. -/
structure CompileInput where
  lists : List CachedList
  customRules : List CustomRule
  whitelist : List String
  blacklist : List String
  enabledCategories : List Category
  /-- How many rules the backend accepts in all. -/
  ruleBudget : Option Nat
deriving Repr

/-- A band of ids that was used up: how many ids it has, and how many rules went without. -/
structure RangeExhaustion where
  category : Category
  width : Nat
  dropped : Nat
deriving DecidableEq, Repr

/-- What is to be known about a compilation besides its rules. -/
structure CompileDiagnostics where
  listsCompiled : Nat
  /-- Lines that stand for no filter, in all compiled lists. -/
  parseSkipped : Nat
  rulesBeforeOptimize : Nat
  rulesAfterOptimize : Nat
  duplicatesRemoved : Nat
  badfiltered : Nat
  /-- Rules without a valid pattern. -/
  rejectedRules : Nat
  rangeExhausted : List RangeExhaustion
  /-- The ceiling on list rules after room was reserved for the user's own. -/
  listCeiling : Nat
  /-- List rules above the ceiling. -/
  capacityDropped : Nat
  staleLists : List String
  rulesPerCategory : List (Category × Nat)
  rulesPerList : List (String × Nat)
  cosmeticRules : Nat
deriving DecidableEq, Repr

/-- The result of a compilation; its rules are in the order of their ids. -/
structure Compilation where
  rules : List CompiledRule
  cosmetics : CosmeticIndex
  diagnostics : CompileDiagnostics
deriving Repr

/-- The ids of a batch of rules by category. -/
def ruleIdsByCategory (rules : List CompiledRule) : List (Category × List Nat) :=
  (Category.all.map fun category =>
    (category, (rules.filter (·.category == category)).map (·.id))).filter (!·.2.isEmpty)

/-- The ids of the compiled rules by category. -/
def Compilation.ruleIds (compilation : Compilation) : List (Category × List Nat) :=
  ruleIdsByCategory compilation.rules

/-! ## Rules without ids -/

/-- A rule that waits for its id. -/
structure RuleDraft where
  category : Category
  tier : PriorityTier
  matchPattern : String
  resourceTypes : ResourceTypes
  includes : Option (List String)
  excludes : Option (List String)
  party : Option Party
  caseSensitive : Bool
deriving DecidableEq, Repr

/-- The rule of a draft that has got its id. -/
def RuleDraft.toRule (draft : RuleDraft) (id : Nat) : CompiledRule where
  id := id
  priority := draft.tier.priority
  action := draft.tier.action
  matchPattern := draft.matchPattern
  resourceTypes := some draft.resourceTypes
  includes := draft.includes
  excludes := draft.excludes
  party := draft.party
  caseSensitive := draft.caseSensitive
  category := draft.category

/-- A list of domains as a condition; an empty one is none. -/
def nonEmpty? (domains : List String) : Option (List String) :=
  if domains.isEmpty then none else some domains

namespace RuleDraft

/-- The draft of a network filter, unless its pattern is no valid expression. -/
def ofFilter? (config : CompilerConfig) (category : Category) (tier : PriorityTier)
    (filter : NetworkFilter) : Option RuleDraft :=
  let pattern := FilterPattern.translate filter.pattern
  if FilterPattern.isValid pattern then
    some {
      category, tier
      matchPattern := pattern
      resourceTypes := filter.resourceTypes.getD config.defaultTypes
      includes := nonEmpty? filter.scope.includes
      excludes := nonEmpty? filter.scope.excludes
      party := filter.party
      caseSensitive := filter.matchCase }
  else none

/-- The draft of a custom rule, unless it stands for no filter or its pattern is invalid. -/
def ofCustomRule? (config : CompilerConfig) (rule : CustomRule) : Option RuleDraft := do
  let filter ← rule.toFilter?
  ofFilter? config .custom (.ofUserRule .custom filter.isException) filter

/-- The draft for a whitelisted site, unless its name is invalid: whatever its pages request is
allowed. -/
def ofWhitelist? (entry : String) : Option RuleDraft :=
  (Domain.normalize? entry).map fun domain =>
    { category := .whitelist
      tier := .whitelist
      matchPattern := ".*"
      resourceTypes := .all
      includes := some [domain]
      excludes := none
      party := none
      caseSensitive := false }

/-- The draft for a blacklisted domain, unless its name is invalid: requests to the domain and its
subdomains are blocked, navigations among them. -/
def ofBlacklist? (config : CompilerConfig) (entry : String) : Option RuleDraft :=
  (Domain.normalize? entry).map fun domain =>
    { category := .blacklist
      tier := .blacklist
      matchPattern := FilterPattern.translate ("||" ++ domain ++ "^")
      resourceTypes := config.defaultTypes.union (.only .mainFrame)
      includes := none
      excludes := none
      party := none
      caseSensitive := false }

end RuleDraft

/-! ## Handing out ids -/

/-- What has been compiled so far. -/
structure Emission where
  ids : IdAllocator
  /-- The rules with ids, newest first. -/
  rules : List CompiledRule
  exhausted : List RangeExhaustion
  rejected : Nat
deriving Repr

namespace Emission

/-- The emission without rules. -/
def start (space : IdSpace) : Emission := ⟨.start space, [], [], 0⟩

/-- The emission with one more rule that got no id. -/
def exhaust (emission : Emission) (category : Category) (width : Nat) : Emission :=
  let dropped := match emission.exhausted.find? (·.category == category) with
    | some exhaustion => exhaustion.dropped
    | none => 0
  { emission with
    exhausted := ⟨category, width, dropped + 1⟩ ::
      emission.exhausted.filter (·.category != category) }

/-- The emission with one more entry that yields no rule. -/
def reject (emission : Emission) : Emission := { emission with rejected := emission.rejected + 1 }

/-- The emission with one more draft, and whether the draft got an id. -/
def push (emission : Emission) (draft : RuleDraft) : Emission × Bool :=
  match emission.ids.next draft.category with
  | .ok (id, ids) => ({ emission with ids, rules := draft.toRule id :: emission.rules }, true)
  | .error (.exhausted category width) => (emission.exhaust category width, false)
  | .error (.undeclared _) => (emission.reject, false)

/-- The emission with one more entry of the user's own, which is rejected if it has no draft. -/
def pushUser (emission : Emission) : Option RuleDraft → Emission
  | some draft => (emission.push draft).1
  | none => emission.reject

end Emission

/-- The emission of list filters: how many got ids, in all and by list, and how many lay above the
ceiling. -/
structure ListEmission where
  emission : Emission
  emitted : Nat
  /-- The index of the list of every emitted rule, newest first. -/
  lists : List Nat
  capacityDropped : Nat
deriving Repr

/-- The emission with one more network filter of a list.  Its pattern is checked even above the
ceiling. -/
def ListEmission.pushFilter (config : CompilerConfig) (ceiling : Nat) (state : ListEmission)
    (sourced : SourcedFilter) : ListEmission :=
  match sourced.filter with
  | .network filter =>
    match RuleDraft.ofFilter? config sourced.category (.ofListFilter filter) filter with
    | none => { state with emission := state.emission.reject }
    | some draft =>
      if ceiling ≤ state.emitted then
        { state with capacityDropped := state.capacityDropped + 1 }
      else
        match state.emission.push draft with
        | (emission, true) =>
          { state with
            emission
            emitted := state.emitted + 1
            lists := sourced.listIndex :: state.lists }
        | (emission, false) => { state with emission }
  | _ => state

/-! ## The whole compilation -/

/-- Whether a list takes part: it is switched on, and so is its category unless the list is a
subscription. -/
def CachedList.isIncluded (enabled : List Category) (cached : CachedList) : Bool :=
  let category := cached.list.category
  cached.list.enabled && category.isListCategory &&
    (category == .filterLists || enabled.contains category)

/-- The ceiling on list rules, lowered so that all rules fit the budget. -/
def listCeiling (maxListRules : Nat) (budget : Option Nat) (userRules : Nat) : Nat :=
  match budget with
  | some budget => min maxListRules (budget - userRules)
  | none => maxListRules

namespace CompileInput

/-- The lists that take part, with their places in the input. -/
def includedLists (input : CompileInput) : List (CachedList × Nat) :=
  input.lists.zipIdx.filter (·.1.isIncluded input.enabledCategories)

/-- The filters of the lists that take part. -/
def sourcedFilters (input : CompileInput) : List SourcedFilter :=
  input.includedLists.flatMap fun (cached, index) =>
    cached.filters.map fun filter => ⟨index, cached.list.category, filter⟩

/-- The drafts of the user's own entries, in the order in which they get ids. -/
def userDrafts (input : CompileInput) (config : CompilerConfig) : List (Option RuleDraft) :=
  input.whitelist.map RuleDraft.ofWhitelist? ++
    input.blacklist.map (RuleDraft.ofBlacklist? config) ++
    input.customRules.map (RuleDraft.ofCustomRule? config)

/-- The counts of emitted rules by the id of their list, in the order of the ids; `lists` holds the
index of the list of every rule. -/
def countPerList (input : CompileInput) (lists : List Nat) : List (String × Nat) :=
  let ids := input.lists.zipIdx.filterMap fun (cached, index) =>
    let count := lists.count index
    if count = 0 then none else some (cached.list.id, count)
  (CosmeticIndex.sortedSet (ids.map (·.1))).map fun id =>
    (id, (ids.filter (·.1 == id)).foldl (fun total entry => total + entry.2) 0)

end CompileInput

/-- The compilation of an input under valid settings. -/
def compile (input : CompileInput) (config : CompilerConfig) : Except RuleSetError Compilation := do
  config.validate
  let included := input.includedLists.map (·.1)
  let optimized := Optimizer.optimize input.sourcedFilters
  let user := (input.userDrafts config).foldl Emission.pushUser (.start config.idSpace)
  let ceiling := listCeiling config.maxListRules input.ruleBudget user.rules.length
  let final := optimized.kept.foldl (ListEmission.pushFilter config ceiling) ⟨user, 0, [], 0⟩
  let rules := final.emission.rules.reverse.mergeSort fun a b => a.id ≤ b.id
  let cosmetics := CosmeticIndex.ofEntries (optimized.kept.filterMap (·.filter.toCosmetic?))
  pure {
    rules
    cosmetics
    diagnostics := {
      listsCompiled := included.length
      parseSkipped := included.foldl (fun total cached => total + cached.skipped) 0
      rulesBeforeOptimize := optimized.before
      rulesAfterOptimize := optimized.after
      duplicatesRemoved := optimized.duplicates
      badfiltered := optimized.withdrawn
      rejectedRules := final.emission.rejected
      rangeExhausted := Category.all.filterMap fun category =>
        final.emission.exhausted.find? (·.category == category)
      listCeiling := ceiling
      capacityDropped := final.capacityDropped
      staleLists := (included.filter (·.stale)).map (·.list.id)
      rulesPerCategory := (ruleIdsByCategory rules).map fun (category, ids) =>
        (category, ids.length)
      rulesPerList := input.countPerList final.lists
      cosmeticRules := cosmetics.size } }

end ContentFilter
