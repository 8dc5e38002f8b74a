import ContentFilter.Manager.Lemmas
import ContentFilter.Manager.Persistence

/-!
# Operations on a manager

What can be done to a manager of a backend held in memory, one operation after another, beside a store
that it is saved to.
-/

namespace ContentFilter

/-- An operation on a manager. -/
inductive Operation where
  | insertList (fresh : CachedList)
  | upsertList (list : FilterList) (text : String) (now : Nat)
  | removeList (id : String)
  | setListEnabled (id : String) (enabled : Bool)
  | recordFetchFailure (name : String)
  | addCustomRule (pattern : String) (action : RuleAction) (now : Nat)
  | removeCustomRule (id : Nat)
  | setUserDomains (whitelist blacklist : List String)
  | setEnabledCategories (categories : List Category)
  | recompile
  | save
  /-- The call of a number is to fail. -/
  | failOnCall (number : Nat)

/-- A manager and the store that it is saved to. -/
structure Scene (σ : Type) where
  manager : Manager MemoryBackend
  store : σ

namespace Scene

variable {σ : Type} [KeyValueStore σ]

/-- The scene behind an operation on the manager, which an operation that is refused leaves alone. -/
def edit (scene : Scene σ) (manager? : Option (Manager MemoryBackend)) : Scene σ :=
  { scene with manager := manager?.getD scene.manager }

/-- The scene behind an operation. -/
def apply (scene : Scene σ) : Operation → Scene σ
  | .insertList fresh => scene.edit (some (scene.manager.insertList fresh))
  | .upsertList list text now => scene.edit (some (scene.manager.upsertList list text now))
  | .removeList id => scene.edit (scene.manager.removeList? id)
  | .setListEnabled id enabled => scene.edit (scene.manager.setListEnabled? id enabled)
  | .recordFetchFailure name => scene.edit (scene.manager.recordFetchFailure? name)
  | .addCustomRule pattern action now =>
    scene.edit ((scene.manager.addCustomRule pattern action now).toOption.map (·.2))
  | .removeCustomRule id => scene.edit (scene.manager.removeCustomRule? id)
  | .setUserDomains whitelist blacklist =>
    scene.edit (some (scene.manager.setUserDomains whitelist blacklist))
  | .setEnabledCategories categories =>
    scene.edit (some (scene.manager.setEnabledCategories categories))
  | .recompile => { scene with manager := scene.manager.recompile.2 }
  | .save => { scene with store := scene.manager.save scene.store }
  | .failOnCall number =>
    let backend := { scene.manager.backend with failOnCall := some number }
    { scene with manager := { scene.manager with backend } }

/-- The scene behind operations, one after another. -/
def run (scene : Scene σ) (operations : List Operation) : Scene σ := operations.foldl apply scene

/-- What holds at first and outlasts every operation holds behind all of them. -/
theorem run_induct {motive : Scene σ → Prop} {scene : Scene σ} (start : motive scene)
    (step : ∀ scene operation, motive scene → motive (scene.apply operation))
    (operations : List Operation) : motive (scene.run operations) := by
  induction operations generalizing scene with
  | nil => exact start
  | cons operation rest ih => exact ih (step scene operation start)

end Scene

namespace Manager

/-- What an operation on lists, rules and settings leaves alone: all that comes of recompilations. -/
structure Edited {β : Type} (before after : Manager β) : Prop where
  config : after.config = before.config
  lastGood : after.lastGood = before.lastGood
  lastError : after.lastError = before.lastError
  previousRuleIds : after.previousRuleIds = before.previousRuleIds
  ruleIdChurn : after.ruleIdChurn = before.ruleIdChurn
  backend : after.backend = before.backend
  gate : after.gate = before.gate

namespace Edited

variable {β : Type} (manager : Manager β)

/-- Lists, rules and settings may be anything afterwards. -/
theorem settings (lists : List CachedList) (customRules : List CustomRule)
    (whitelist blacklist : List String) (enabledCategories : List Category) :
    manager.Edited
      { manager with lists, customRules, whitelist, blacklist, enabledCategories } :=
  ⟨rfl, rfl, rfl, rfl, rfl, rfl, rfl⟩

theorem refl : manager.Edited manager := settings manager _ _ _ _ _

theorem insertList (fresh : CachedList) : manager.Edited (manager.insertList fresh) := by
  unfold Manager.insertList
  split
  · exact settings manager _ _ _ _ _
  · exact settings manager _ _ _ _ _

theorem removeList? {id : String} {after : Manager β} (h : manager.removeList? id = some after) :
    manager.Edited after := by
  obtain ⟨-, rfl⟩ := removeList?_eq_some_iff.1 h
  exact settings manager _ _ _ _ _

theorem setListEnabled? {id : String} {enabled : Bool} {after : Manager β}
    (h : manager.setListEnabled? id enabled = some after) : manager.Edited after := by
  obtain ⟨index, -, rfl⟩ := Option.map_eq_some_iff.1 h
  exact settings manager _ _ _ _ _

theorem recordFetchFailure? {name : String} {after : Manager β}
    (h : manager.recordFetchFailure? name = some after) : manager.Edited after := by
  obtain ⟨index, -, rfl⟩ := Option.map_eq_some_iff.1 h
  exact settings manager _ _ _ _ _

theorem addCustomRule {pattern : String} {action : RuleAction} {now : Nat} {rule : CustomRule}
    {after : Manager β} (h : manager.addCustomRule pattern action now = .ok (rule, after)) :
    manager.Edited after := by
  obtain ⟨-, -, rfl⟩ := addCustomRule_eq_ok_iff.1 h
  exact settings manager _ _ _ _ _

theorem removeCustomRule? {id : Nat} {after : Manager β}
    (h : manager.removeCustomRule? id = some after) : manager.Edited after := by
  obtain ⟨-, rfl⟩ := removeCustomRule?_eq_some_iff.1 h
  exact settings manager _ _ _ _ _

end Edited

end Manager

namespace Scene

variable {σ : Type} [KeyValueStore σ]

omit [KeyValueStore σ] in
theorem edited_edit {scene : Scene σ} {manager? : Option (Manager MemoryBackend)}
    (h : ∀ after, manager? = some after → scene.manager.Edited after) :
    scene.manager.Edited (scene.edit manager?).manager := by
  cases manager? with
  | none => exact .refl scene.manager
  | some after => exact h after rfl

/-- Every operation but a recompilation and an injected failure leaves alone what comes of
recompilations. -/
theorem apply_cases (scene : Scene σ) (operation : Operation) :
    scene.manager.Edited (scene.apply operation).manager ∨
    (operation = .recompile ∧ (scene.apply operation).manager = scene.manager.recompile.2) ∨
    (∃ number, operation = .failOnCall number ∧ (scene.apply operation).manager =
      { scene.manager with
        backend := { scene.manager.backend with failOnCall := some number } }) := by
  cases operation with
  | insertList fresh =>
    refine .inl (edited_edit fun after same => ?_)
    cases same
    exact .insertList scene.manager fresh
  | upsertList list text now =>
    refine .inl (edited_edit fun after same => ?_)
    cases same
    exact .insertList scene.manager (.ofText list text now)
  | removeList id => exact .inl (edited_edit fun after same => .removeList? _ same)
  | setListEnabled id enabled => exact .inl (edited_edit fun after same => .setListEnabled? _ same)
  | recordFetchFailure name => exact .inl (edited_edit fun after same => .recordFetchFailure? _ same)
  | addCustomRule pattern action now =>
    refine .inl (edited_edit fun after same => ?_)
    rcases added : scene.manager.addCustomRule pattern action now with _ | ⟨rule, behind⟩
    · rw [added] at same
      cases same
    · rw [added] at same
      cases same
      exact .addCustomRule scene.manager added
  | removeCustomRule id => exact .inl (edited_edit fun after same => .removeCustomRule? _ same)
  | setUserDomains whitelist blacklist =>
    refine .inl (edited_edit fun after same => ?_)
    cases same
    exact .settings scene.manager _ _ _ _ _
  | setEnabledCategories categories =>
    refine .inl (edited_edit fun after same => ?_)
    cases same
    exact .settings scene.manager _ _ _ _ _
  | recompile => exact .inr (.inl ⟨rfl, rfl⟩)
  | save => exact .inl (.refl scene.manager)
  | failOnCall number => exact .inr (.inr ⟨number, rfl, rfl⟩)

end Scene

end ContentFilter
