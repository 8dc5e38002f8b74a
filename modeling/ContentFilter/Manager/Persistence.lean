import ContentFilter.Compilation.Record
import ContentFilter.FilterList.Record
import ContentFilter.Json.Printer
import ContentFilter.Manager
import ContentFilter.Store

/-!
# Keeping the state of a manager

A manager's lists, rules and settings are kept in a store under four keys, and restored from there.
What is missing in the store is as in a new manager.  The compilation is not kept: the next
recompilation makes it anew.
-/

namespace ContentFilter

/-- The user's domain lists and the categories that are switched on. -/
structure UserDomains where
  whitelist : List String
  blacklist : List String
  enabledCategories : List Category
deriving DecidableEq, Repr

namespace UserDomains

/-- The record of the user's settings. -/
def toJson (domains : UserDomains) : Json :=
  .record [
    ("whitelist", Json.strings domains.whitelist),
    ("blacklist", Json.strings domains.blacklist),
    ("enabledCategories", Json.strings (domains.enabledCategories.map (·.name)))]

/-- A set of categories is read from an array of names, in any order. -/
def categoriesDecoder : Decoder (List Category) := fun json =>
  (Decoder.list (.choice Category.ofName?) json).map Category.ordered

/-- The fields of the record of the user's settings. -/
def fields : FieldsDecoder UserDomains :=
  UserDomains.mk <$> .required "whitelist" .strings
    <*> .required "blacklist" .strings
    <*> .required "enabledCategories" categoriesDecoder

/-- The user's settings are read from their record. -/
def decoder : Decoder UserDomains := fields.toDecoder

end UserDomains

/-- Lists of ids by category, as an object. -/
def ruleIdsJson (ids : List (Category × List Nat)) : Json :=
  .byCategory (fun ids => .list (ids.map Json.nat)) ids

/-- Lists of ids by category are read from an object, in which the last value of a category counts. -/
def ruleIdsDecoder : Decoder (List (Category × List Nat)) := fun json => do
  let entries ← Decoder.fields Category.ofName? (.list .natural32) json
  pure (Category.all.filterMap fun category =>
    (entries.reverse.lookup category).map (category, ·))

namespace Manager

variable {β σ : Type}

/-- The key of the lists. -/
def listsKey : String := "filter_lists"

/-- The key of the custom rules. -/
def customRulesKey : String := "custom_rules"

/-- The key of the user's domain lists and categories. -/
def userDomainsKey : String := "user_domains"

/-- The key of the ids of the last compilation. -/
def ruleIdsKey : String := "compiled_rule_ids"

/-- What a manager keeps: keys and values, in the order of writing. -/
def records (manager : Manager β) : List (String × Json) := [
  (listsKey, .list (manager.lists.map CachedList.toJson)),
  (customRulesKey, .list (manager.customRules.map CustomRule.toJson)),
  (userDomainsKey,
    UserDomains.toJson ⟨manager.whitelist, manager.blacklist, manager.enabledCategories⟩),
  (ruleIdsKey, ruleIdsJson manager.previousRuleIds)]

/-- The store with the state of a manager. -/
def save [KeyValueStore σ] (manager : Manager β) (store : σ) : σ :=
  manager.records.foldl (fun store (key, value) => KeyValueStore.set store key value.compress) store

/-- The value of a key, or the given one if the store has none. -/
def readKey {α : Type} [KeyValueStore σ] (store : σ) (key : String) (decode : Decoder α)
    (absent : α) : Except RuleSetError α :=
  match KeyValueStore.get? store key with
  | none => .ok absent
  | some text => (decode.run text).mapError fun cause => .store (.undecodable key cause)

/-- The manager of a backend with the state kept in a store.  The keys are read in the order in which
they are written. -/
def load [KeyValueStore σ] (config : CompilerConfig) (backend : β) (store : σ) :
    Except RuleSetError (Manager β) := do
  let fresh := new config backend
  let lists ← readKey store listsKey (.list CachedList.decoder) fresh.lists
  let customRules ← readKey store customRulesKey (.list CustomRule.decoder) fresh.customRules
  let domains ← readKey store userDomainsKey UserDomains.decoder
    ⟨fresh.whitelist, fresh.blacklist, fresh.enabledCategories⟩
  let previousRuleIds ← readKey store ruleIdsKey ruleIdsDecoder fresh.previousRuleIds
  pure { fresh with
    lists
    customRules
    whitelist := domains.whitelist
    blacklist := domains.blacklist
    enabledCategories := domains.enabledCategories
    previousRuleIds }

end Manager

end ContentFilter
