import ContentFilter.Text

/-!
# Categories

The sources that rules are filed under: five built-in kinds of lists, the user's own domain lists and
rules, and subscribed lists.
-/

namespace ContentFilter

/-- The logical source of a rule.  Every category owns a band of rule ids. -/
inductive Category where
  | ads
  | trackers
  | social
  | cryptominers
  | malware
  | whitelist
  | blacklist
  | custom
  | filterLists
deriving DecidableEq, Repr

namespace Category

/-- Every category, in the order in which they are reported. -/
def all : List Category :=
  [.ads, .trackers, .social, .cryptominers, .malware, .whitelist, .blacklist, .custom, .filterLists]

/-- The name of a category. -/
def name : Category → String
  | .ads => "ads"
  | .trackers => "trackers"
  | .social => "social"
  | .cryptominers => "cryptominers"
  | .malware => "malware"
  | .whitelist => "whitelist"
  | .blacklist => "blacklist"
  | .custom => "custom"
  | .filterLists => "filterlists"

/-- Whether filter lists may be filed under the category. -/
def isListCategory : Category → Bool
  | .whitelist | .blacklist | .custom => false
  | _ => true

/-- Whether the lists of the category depend on the set of enabled categories.  Subscribed lists have
only their own switch. -/
def isToggleable : Category → Bool
  | .ads | .trackers | .social | .cryptominers | .malware => true
  | _ => false

/-- The categories that start out enabled: those that can be switched. -/
def toggleable : List Category := all.filter isToggleable

/-- The category of exactly this name. -/
def ofName? (text : String) : Option Category := all.find? (·.name == text)

@[simp] theorem mem_all (category : Category) : category ∈ all := by cases category <;> decide

@[simp] theorem ofName?_name (category : Category) : ofName? category.name = some category := by
  cases category <;> rfl

/-- The category of a name typed by a user: white space around it and letter case do not count. -/
def ofText? (text : String) : Option Category :=
  all.find? fun c => Text.equalIgnoreCase c.name.toList (Text.trim text.toList)

end Category

end ContentFilter
