import ContentFilter.Proofs.Manager.LastGood
import ContentFilter.Proofs.Manager.Storage

/-!
# Managers that are restored

Whatever was done to a manager, it is restored from a store as it was saved, and goes on as if nothing
had happened: the next recompilation serves what it would have served without the detour.
-/

namespace ContentFilter

/-! ## Counts of lists -/

theorem Text.length_splitBy_le (p : Char → Bool) (s : List Char) :
    (splitBy p s).length ≤ s.length + 1 := by
  induction s with
  | nil => exact Nat.le_refl _
  | cons c rest ih =>
    rw [splitBy]
    split
    · rw [List.length_cons, List.length_cons]
      omega
    · split
      · rename_i split
        rw [split, List.length_cons] at ih
        rw [List.length_cons, List.length_cons]
        omega
      · rw [List.length_singleton]
        omega

theorem Text.length_lines_le (s : List Char) : (lines s).length ≤ s.length + 1 := by
  have parts := length_splitBy_le (· == '\n') s
  unfold lines splitOn
  dsimp only
  split
  · rw [List.length_dropLast]
    omega
  · exact parts

/-- Every text in memory is shorter: a signed word counts its bytes. -/
def Text.lengthLimit : Nat := 0x8000000000000000

/-- The counts of a list that was read from a text fit their words. -/
theorem CachedList.fits_ofText {list : FilterList} {text : String} {now : Nat}
    (length : text.length < Text.lengthLimit) (time : now < UInt64.size) :
    (ofText list text now).Fits := by
  have lines := Text.length_lines_le text.toList
  rw [String.length_toList] at lines
  have room : Text.lengthLimit + 1 < UInt64.size := by decide
  refine ⟨⟨?_, ?_⟩, ?_⟩
  · show ((Text.lines text.toList).map _).length < _
    rw [List.length_map]
    omega
  · intro other same
    cases same
    exact time
  · show ((Text.lines text.toList).map _).countP _ < _
    have counted := List.countP_le_length (p := (· == LineResult.skipped))
      (l := (Text.lines text.toList).map (Filter.readLine list.format))
    rw [List.length_map] at counted
    omega

/-! ## Everything that can be done -/

namespace Manager

variable {β : Type} [RuleBackend β]

/-- The managers that come from a new one by what can be done to it.  Counts and times fit their words.
A recompilation is an attempt that begins on one manager and is concluded on another, since other
operations may come between; the backend and the gate are shared with others. -/
inductive Reachable (config : CompilerConfig) : Manager β → Prop where
  | new (backend : β) : Reachable config (.new config backend)
  | insertList {manager : Manager β} (before : Reachable config manager) {fresh : CachedList}
    (fits : fresh.Fits) : Reachable config (manager.insertList fresh)
  | upsertList {manager : Manager β} (before : Reachable config manager) (list : FilterList)
    {text : String} (length : text.length < Text.lengthLimit) {now : Nat} (time : now < UInt64.size) :
    Reachable config (manager.upsertList list text now)
  | removeList {manager after : Manager β} (before : Reachable config manager) {id : String}
    (removed : manager.removeList? id = some after) : Reachable config after
  | setListEnabled {manager after : Manager β} (before : Reachable config manager) {id : String}
    {enabled : Bool} (switched : manager.setListEnabled? id enabled = some after) :
    Reachable config after
  | recordFetchFailure {manager after : Manager β} (before : Reachable config manager) {name : String}
    (recorded : manager.recordFetchFailure? name = some after) : Reachable config after
  | addCustomRule {manager after : Manager β} (before : Reachable config manager) {pattern : String}
    {action : RuleAction} {now : Nat} {rule : CustomRule} (time : now < UInt64.size)
    (id : rule.id < UInt64.size) (added : manager.addCustomRule pattern action now = .ok (rule, after)) :
    Reachable config after
  | removeCustomRule {manager after : Manager β} (before : Reachable config manager) {id : Nat}
    (removed : manager.removeCustomRule? id = some after) : Reachable config after
  | setUserDomains {manager : Manager β} (before : Reachable config manager)
    (whitelist blacklist : List String) :
    Reachable config (manager.setUserDomains whitelist blacklist)
  | setEnabledCategories {manager : Manager β} (before : Reachable config manager)
    (categories : List Category) : Reachable config (manager.setEnabledCategories categories)
  | concluded {manager begun : Manager β} (before : Reachable config manager)
    (start : Reachable config begun) : Reachable config (manager.conclude begun.attempt)
  | withBackend {manager : Manager β} (before : Reachable config manager) (backend : β) :
    Reachable config { manager with backend }
  | withGate {manager : Manager β} (before : Reachable config manager) (gate : Gate) :
    Reachable config { manager with gate }

namespace Reachable

variable {config : CompilerConfig} {manager : Manager β}

/-- A run leads to a manager of the kind, with its repetition if it has to be repeated. -/
theorem finish (reachable : Reachable config manager) (result : Except RuleSetError SyncReport) :
    Reachable config (manager.finish result).2 := by
  unfold Manager.finish
  split
  · exact reachable.withGate _
  · rename_i gate _
    have again := reachable.withGate gate
    exact (again.concluded again).withGate _

/-- So does a recompilation, if what comes between does. -/
theorem recompileWith (reachable : Reachable config manager) {α : Type}
    (meanwhile : Manager β → α × Manager β)
    (kept : ∀ between, Reachable config between → Reachable config (meanwhile between).2) :
    Reachable config (manager.recompileWith meanwhile).2.2 := by
  unfold Manager.recompileWith
  split
  · exact reachable.withGate _
  · rename_i gate _
    have begun := reachable.withGate gate
    dsimp only
    split
    · exact ((kept _ begun).concluded begun).finish _
    · exact (begun.concluded begun).finish _

theorem recompile (reachable : Reachable config manager) :
    Reachable config manager.recompile.2 :=
  reachable.recompileWith (fun manager => ((), manager)) fun _ between => between

end Reachable

/-! ## Room in a store -/

theorem mem_modify {α : Type} {items : List α} {index : Nat} {change : α → α} {item : α}
    (member : item ∈ items.modify index change) :
    item ∈ items ∨ ∃ old ∈ items, item = change old := by
  induction items generalizing index with
  | nil =>
    rw [List.modify_nil] at member
    cases member
  | cons head rest ih =>
    cases index with
    | zero =>
      rw [List.modify_zero_cons] at member
      rcases List.mem_cons.1 member with rfl | later
      · exact .inr ⟨head, List.mem_cons_self, rfl⟩
      · exact .inl (List.mem_cons_of_mem _ later)
    | succ index =>
      rw [List.modify_succ_cons] at member
      rcases List.mem_cons.1 member with rfl | later
      · exact .inl List.mem_cons_self
      · rcases ih later with kept | ⟨old, among, same⟩
        · exact .inl (List.mem_cons_of_mem _ kept)
        · exact .inr ⟨old, List.mem_cons_of_mem _ among, same⟩

theorem ordered_filter (kept : Category → Bool) :
    Category.ordered (Category.all.filter kept) = Category.all.filter kept := by
  apply List.filter_congr
  intro category member
  rw [Bool.eq_iff_iff, List.contains_iff_mem, List.mem_filter, and_iff_right member]

namespace Storable

omit [RuleBackend β]

variable {manager after : Manager β} (storable : manager.Storable)
include storable

/-- An operation leaves room for lists, rules and categories that have it. -/
theorem edited (edited : manager.Edited after) (lists : ∀ cached ∈ after.lists, cached.Fits)
    (customRules : ∀ rule ∈ after.customRules, rule.Fits)
    (enabledCategories : Category.ordered after.enabledCategories = after.enabledCategories) :
    after.Storable := by
  refine ⟨lists, customRules, enabledCategories, ?_, ?_⟩
  · rw [edited.previousRuleIds]
    exact storable.byCategory
  · rw [edited.previousRuleIds]
    exact storable.ruleIds

/-- Changing a list in its place leaves its counts room if the change does. -/
theorem modify {index : Nat} {change : CachedList → CachedList}
    (kept : ∀ cached, cached.Fits → (change cached).Fits) :
    Storable { manager with lists := manager.lists.modify index change } := by
  refine storable.edited (.settings manager _ _ _ _ _) ?_ storable.customRules
    storable.enabledCategories
  intro cached member
  rcases mem_modify member with among | ⟨old, among, rfl⟩
  · exact storable.lists cached among
  · exact kept old (storable.lists old among)

theorem insertList {fresh : CachedList} (fits : fresh.Fits) : (manager.insertList fresh).Storable := by
  unfold Manager.insertList
  split
  · -- the counts are those of the fresh list
    exact storable.modify fun _ _ => ⟨⟨fits.list.rawRuleCount, fits.list.lastFetchedAt⟩, fits.skipped⟩
  · refine storable.edited (.settings manager _ _ _ _ _) ?_ storable.customRules
      storable.enabledCategories
    intro cached member
    rcases List.mem_append.1 member with among | last
    · exact storable.lists cached among
    · rw [List.mem_singleton.1 last]
      exact fits

theorem removeList? {id : String} (h : manager.removeList? id = some after) : after.Storable := by
  obtain ⟨-, rfl⟩ := removeList?_eq_some_iff.1 h
  exact storable.edited (.settings manager _ _ _ _ _)
    (fun cached member => storable.lists cached (List.mem_filter.1 member).1) storable.customRules
    storable.enabledCategories

theorem setListEnabled? {id : String} {enabled : Bool}
    (h : manager.setListEnabled? id enabled = some after) : after.Storable := by
  obtain ⟨index, -, rfl⟩ := Option.map_eq_some_iff.1 h
  exact storable.modify fun _ fits => ⟨⟨fits.list.rawRuleCount, fits.list.lastFetchedAt⟩, fits.skipped⟩

theorem recordFetchFailure? {name : String} (h : manager.recordFetchFailure? name = some after) :
    after.Storable := by
  obtain ⟨index, -, rfl⟩ := Option.map_eq_some_iff.1 h
  exact storable.modify fun _ fits => ⟨fits.list, fits.skipped⟩

theorem addCustomRule {pattern : String} {action : RuleAction} {now : Nat} {rule : CustomRule}
    (time : now < UInt64.size) (id : rule.id < UInt64.size)
    (h : manager.addCustomRule pattern action now = .ok (rule, after)) : after.Storable := by
  obtain ⟨made, -, rfl⟩ := addCustomRule_eq_ok_iff.1 h
  refine storable.edited (.settings manager _ _ _ _ _) storable.lists ?_ storable.enabledCategories
  intro other member
  rcases List.mem_append.1 member with among | last
  · exact storable.customRules other among
  · rw [List.mem_singleton.1 last]
    refine ⟨id, ?_⟩
    rw [made]
    exact time

theorem removeCustomRule? {id : Nat} (h : manager.removeCustomRule? id = some after) :
    after.Storable := by
  obtain ⟨-, rfl⟩ := removeCustomRule?_eq_some_iff.1 h
  exact storable.edited (.settings manager _ _ _ _ _) storable.lists
    (fun rule member => storable.customRules rule (List.mem_filter.1 member).1)
    storable.enabledCategories

theorem setEnabledCategories (categories : List Category) :
    (manager.setEnabledCategories categories).Storable := by
  refine storable.edited (.settings manager _ _ _ _ _) storable.lists storable.customRules ?_
  show Category.ordered ((Category.ordered categories).filter (·.isListCategory)) =
    (Category.ordered categories).filter (·.isListCategory)
  have all : (Category.ordered categories).filter (·.isListCategory) =
      Category.all.filter fun category => category.isListCategory && categories.contains category :=
    List.filter_filter
  rw [all]
  exact ordered_filter _

end Storable

/-- The ids of a compilation have room if the bands do. -/
theorem conclude_storable {manager begun : Manager β} (storable : manager.Storable)
    (valid : IdSpace.Valid begun.config.idSpace.ranges)
    (words : ∀ range ∈ begun.config.idSpace.ranges, range.stop ≤ UInt32.size) :
    (manager.conclude begun.attempt).Storable := by
  rcases begun.attempt_cases with ⟨failure, -, result⟩ | ⟨compilation, compiled, -, result⟩
  · rw [conclude, result]
    exact ⟨storable.lists, storable.customRules, storable.enabledCategories, storable.byCategory,
      storable.ruleIds⟩
  · rcases answer : (Sync.synchronize begun.backend compilation.rules).2 with failure | report
    · rw [conclude, result, answer]
      exact ⟨storable.lists, storable.customRules, storable.enabledCategories, storable.byCategory,
        storable.ruleIds⟩
    · have byCategory : IsByCategory compilation.ruleIds :=
        ⟨fun category => (compilation.rules.filter (·.category == category)).map (·.id), rfl⟩
      rw [conclude, result, answer]
      refine ⟨storable.lists, storable.customRules, storable.enabledCategories, byCategory, ?_⟩
      intro entry member id among
      obtain ⟨category, -, rfl⟩ := List.mem_map.1 (List.mem_filter.1 member).1
      obtain ⟨rule, filed, rfl⟩ := List.mem_map.1 among
      have emitted := (compile_inv compiled).mem_rules.1 (List.mem_filter.1 filed).1
      obtain ⟨range, declared, inside⟩ := (Compilation.IsOf.numbered valid).inBand rule emitted
      have bound := words range (List.mem_of_find?_eq_some declared)
      rw [IdRange.contains, Bool.and_eq_true, decide_eq_true_iff, decide_eq_true_iff] at inside
      omega

/-- The settings of a manager never change. -/
theorem Reachable.config_eq {config : CompilerConfig} {manager : Manager β}
    (reachable : Reachable config manager) : manager.config = config := by
  induction reachable with
  | new backend => rfl
  | insertList before fits ih => exact (Edited.insertList _ _).config.trans ih
  | upsertList before list length time ih => exact (Edited.insertList _ _).config.trans ih
  | removeList before removed ih => exact (Edited.removeList? _ removed).config.trans ih
  | setListEnabled before switched ih => exact (Edited.setListEnabled? _ switched).config.trans ih
  | recordFetchFailure before recorded ih =>
    exact (Edited.recordFetchFailure? _ recorded).config.trans ih
  | addCustomRule before time id added ih => exact (Edited.addCustomRule _ added).config.trans ih
  | removeCustomRule before removed ih => exact (Edited.removeCustomRule? _ removed).config.trans ih
  | setUserDomains before whitelist blacklist ih => exact ih
  | setEnabledCategories before categories ih => exact ih
  | concluded before start ih _ =>
    unfold conclude
    split
    · exact ih
    · exact ih
  | withBackend before backend ih => exact ih
  | withGate before gate ih => exact ih

/-- Whatever is done to a manager, its state has a place in a store. -/
theorem Reachable.storable {config : CompilerConfig} (valid : IdSpace.Valid config.idSpace.ranges)
    (words : ∀ range ∈ config.idSpace.ranges, range.stop ≤ UInt32.size) {manager : Manager β}
    (reachable : Reachable config manager) : manager.Storable := by
  induction reachable with
  | new backend =>
    refine ⟨?_, ?_, ordered_filter Category.isToggleable, ⟨fun _ => [], rfl⟩, ?_⟩
    · intro cached member
      cases member
    · intro rule member
      cases member
    · intro entry member
      cases member
  | insertList before fits ih => exact ih.insertList fits
  | upsertList before list length time ih => exact ih.insertList (CachedList.fits_ofText length time)
  | removeList before removed ih => exact ih.removeList? removed
  | setListEnabled before switched ih => exact ih.setListEnabled? switched
  | recordFetchFailure before recorded ih => exact ih.recordFetchFailure? recorded
  | addCustomRule before time id added ih => exact ih.addCustomRule time id added
  | removeCustomRule before removed ih => exact ih.removeCustomRule? removed
  | setUserDomains before whitelist blacklist ih =>
    exact ih.edited (.settings _ _ _ _ _ _) ih.lists ih.customRules ih.enabledCategories
  | setEnabledCategories before categories ih => exact ih.setEnabledCategories categories
  | concluded before start ih _ =>
    rw [← start.config_eq] at valid words
    exact conclude_storable ih valid words
  | withBackend before backend ih =>
    exact ⟨ih.lists, ih.customRules, ih.enabledCategories, ih.byCategory, ih.ruleIds⟩
  | withGate before gate ih =>
    exact ⟨ih.lists, ih.customRules, ih.enabledCategories, ih.byCategory, ih.ruleIds⟩

/-! ## Going on -/

/-- A recompilation that runs finds no other run under way. -/
theorem idle_of_recompile {manager after : Manager β} {result : Except RuleSetError SyncReport}
    (h : manager.recompile = (.ran result, after)) : manager.gate = .idle := by
  -- otherwise the call would have been left to the run under way
  cases gate : manager.gate with
  | idle => rfl
  | running | pending =>
    unfold recompile recompileWith at h
    rw [gate] at h
    cases h

/-- A recompilation that succeeds serves what is compiled from the state. -/
theorem served_of_recompile {manager after : Manager β} {report : SyncReport}
    (h : manager.recompile = (.ran (.ok report), after)) :
    ∃ compilation, compile manager.compileInput manager.config = .ok compilation ∧
      after.lastGood = some compilation ∧
      after.ruleIdChurn =
        ContentFilter.ruleIdChurn manager.previousRuleIds compilation.ruleIds := by
  rw [recompile_of_idle (idle_of_recompile h), Prod.mk.injEq, Recompiled.ran.injEq] at h
  obtain ⟨reported, rfl⟩ := h
  rcases manager.attempt_cases with ⟨failure, -, result⟩ | ⟨compilation, compiled, -, result⟩
  · rw [Attempt.report, result] at reported
    cases reported
  · rcases answer : (Sync.synchronize manager.backend compilation.rules).2 with failure | done
    · rw [Attempt.report, result, answer] at reported
      cases reported
    · refine ⟨compilation, compiled, ?_, ?_⟩
      · rw [conclude, result, answer]
        rfl
      · rw [conclude, result, answer]
        rfl

section Restored

variable {γ : Type} [RuleBackend γ]

/-- Two managers that serve the same. -/
structure ServesAs {β γ : Type} (manager : Manager β) (other : Manager γ) : Prop where
  compiledRules : manager.compiledRules = other.compiledRules
  diagnostics : manager.lastGood.map (·.diagnostics) = other.lastGood.map (·.diagnostics)
  cosmeticsFor : ∀ domain, manager.cosmeticsFor domain = other.cosmeticsFor domain
  scriptletsFor : ∀ domain, manager.scriptletsFor domain = other.scriptletsFor domain
  ruleIdChurn : manager.ruleIdChurn = other.ruleIdChurn

/-- A manager that goes on in the place of another one. -/
structure Continues (restored : Manager γ) (manager : Manager β) : Prop where
  lists : restored.lists = manager.lists
  customRules : restored.customRules = manager.customRules
  whitelist : restored.whitelist = manager.whitelist
  blacklist : restored.blacklist = manager.blacklist
  enabledCategories : restored.enabledCategories = manager.enabledCategories
  previousRuleIds : restored.previousRuleIds = manager.previousRuleIds
  /-- With the same limits two recompilations that succeed leave the same behind. -/
  recompiled : RuleBackend.limits restored.backend = RuleBackend.limits manager.backend →
    ∀ report restoredReport after restoredAfter,
      manager.recompile = (.ran (.ok report), after) →
      restored.recompile = (.ran (.ok restoredReport), restoredAfter) →
      restoredAfter.ServesAs after

theorem continues_restored (manager : Manager β) (backend : γ) :
    (manager.restored backend).Continues manager := by
  refine ⟨rfl, rfl, rfl, rfl, rfl, rfl, ?_⟩
  intro limits report restoredReport after restoredAfter ran restoredRan
  obtain ⟨compilation, compiled, good, churn⟩ := served_of_recompile ran
  obtain ⟨again, recompiled, restoredGood, restoredChurn⟩ := served_of_recompile restoredRan
  have input : (manager.restored backend).compileInput = manager.compileInput := by
    rw [compileInput, compileInput, limits]
    rfl
  obtain rfl : again = compilation := by
    rw [input] at recompiled
    exact Except.ok.inj (recompiled.symm.trans compiled)
  refine ⟨?_, ?_, ?_, ?_, ?_⟩
  · rw [compiledRules, compiledRules, good, restoredGood]
  · rw [good, restoredGood]
  · intro domain
    rw [cosmeticsFor, cosmeticsFor, good, restoredGood]
  · intro domain
    rw [scriptletsFor, scriptletsFor, good, restoredGood]
  · rw [churn, restoredChurn]
    rfl

/-- Whatever was done to a manager, saving it and loading it again succeeds, with any backend and over
anything that the store held before, and the loaded manager goes on in its place. -/
theorem load_save_continues {σ : Type} [KeyValueStore σ] (lawful : KeyValueStore.Lawful σ)
    {config : CompilerConfig} {ranges : List IdRange}
    (accepted : IdSpace.ofRanges ranges = .ok config.idSpace)
    (words : ∀ range ∈ config.idSpace.ranges, range.stop ≤ UInt32.size) {manager : Manager β}
    (reachable : Reachable config manager) (backend : γ) (store : σ) :
    ∃ restored, load config backend (manager.save store) = .ok restored ∧
      restored.backend = backend ∧ restored.Continues manager := by
  have storable := reachable.storable (IdSpace.valid_of_ofRanges accepted) words
  have loaded := load_save lawful storable backend store
  rw [reachable.config_eq] at loaded
  exact ⟨manager.restored backend, loaded, rfl, continues_restored manager backend⟩

end Restored

/-- A manager with a list, settings of the user and installed rules. -/
def furnished : Manager MemoryBackend :=
  let empty := new .standard (.new .standard)
  let listed := empty.upsertList (.new "base" "https://lists.test/base" .ads)
    "||ads.test^$script\nlists.test##.banner" 7
  let set := (listed.setUserDomains ["Example.COM"] ["b.io"]).setEnabledCategories [.social, .ads]
  set.recompile.2

/-- It is restored over what was no list of filters. -/
theorem load_save_continues_furnished :
    KeyValueStore.Lawful MemoryStore ∧
      IdSpace.ofRanges IdSpace.builtIn.ranges = .ok CompilerConfig.standard.idSpace ∧
      (∀ range ∈ CompilerConfig.standard.idSpace.ranges, range.stop ≤ UInt32.size) ∧
      Reachable .standard furnished ∧
      ∃ restored, load .standard (MemoryBackend.new .standard)
          (furnished.save (MemoryStore.ofList [(listsKey, "[1")])) = .ok restored ∧
        restored.backend = .new .standard ∧ restored.Continues furnished := by
  have accepted : IdSpace.ofRanges IdSpace.builtIn.ranges = .ok CompilerConfig.standard.idSpace := rfl
  have words : ∀ range ∈ CompilerConfig.standard.idSpace.ranges, range.stop ≤ UInt32.size := by
    decide
  have reachable : Reachable .standard furnished :=
    ((((Reachable.new _).upsertList _ (by decide) (by decide)).setUserDomains _
      _).setEnabledCategories _).recompile
  exact ⟨MemoryStore.lawful, accepted, words, reachable,
    load_save_continues MemoryStore.lawful accepted words reachable _ _⟩

end Manager

end ContentFilter
