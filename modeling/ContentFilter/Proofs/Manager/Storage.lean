import ContentFilter.Manager.Persistence
import ContentFilter.Proofs.FilterList.Records

/-!
# What a store gives back

A manager whose numbers fit their words is restored from a store as it was saved, whatever the store
held before.
-/

namespace ContentFilter

open FieldsDecoder Decoder

/-! ## Settings -/

namespace UserDomains

theorem decoder_toJson {domains : UserDomains}
    (ordered : Category.ordered domains.enabledCategories = domains.enabledCategories) :
    decoder domains.toJson = .ok domains := by
  have names : Json.strings (domains.enabledCategories.map (·.name)) =
      .list (domains.enabledCategories.map fun category => .string category.name) := by
    rw [Json.strings, List.map_map]
    rfl
  have categories : categoriesDecoder (Json.strings (domains.enabledCategories.map (·.name))) =
      .ok domains.enabledCategories := by
    rw [categoriesDecoder, names,
      list_map fun category _ => choice_string (Category.ofName?_name category)]
    exact congrArg Except.ok ordered
  refine toDecoder_ok ?_ rfl
  unfold fields
  refine seq_ok (seq_ok (map_ok ?_) ?_) ?_
  · exact field_ok rfl (strings_strings _)
  · exact field_ok rfl (strings_strings _)
  · exact field_ok rfl categories

theorem plain_toJson (domains : UserDomains) : domains.toJson.Plain := by
  simp [toJson]

end UserDomains

/-! ## Ids -/

/-- Ids by category as a compilation reports them: in the order of all categories, each of which has
ids. -/
def IsByCategory (ids : List (Category × List Nat)) : Prop :=
  ∃ idsOf : Category → List Nat,
    ids = (Category.all.map fun category => (category, idsOf category)).filter (!·.2.isEmpty)

theorem lookup_eq_some_iff_of_nodup {κ α : Type} [BEq κ] [LawfulBEq κ] {entries : List (κ × α)}
    (distinct : (entries.map (·.1)).Nodup) {key : κ} {value : α} :
    entries.lookup key = some value ↔ (key, value) ∈ entries := by
  induction entries with
  | nil => simp
  | cons head rest ih =>
    obtain ⟨name, first⟩ := head
    rw [List.map_cons, List.nodup_cons] at distinct
    by_cases here : key = name
    · subst here
      have absent : (key, value) ∉ rest := fun later =>
        distinct.1 (List.mem_map_of_mem (f := (·.1)) later)
      simp [absent, eq_comm]
    · simp [List.lookup_cons, beq_eq_false_iff_ne.2 here, here, ih distinct.2]

/-- The last ids of a category are all of its ids. -/
theorem IsByCategory.filterMap_lookup {ids : List (Category × List Nat)} (byCategory : IsByCategory ids) :
    (Category.all.filterMap fun category => (ids.reverse.lookup category).map (category, ·)) = ids := by
  obtain ⟨idsOf, rfl⟩ := byCategory
  have distinct : (((Category.all.map fun category => (category, idsOf category)).filter
      (!·.2.isEmpty)).reverse.map (·.1)).Nodup := by
    have all : ((Category.all.map fun category => (category, idsOf category)).map (·.1)).Nodup := by
      rw [List.map_map]
      exact (by decide : Category.all.Nodup)
    rw [List.map_reverse, (List.reverse_perm _).nodup_iff]
    exact all.sublist (List.filter_sublist.map _)
  have found : ∀ category, ((Category.all.map fun category => (category, idsOf category)).filter
      (!·.2.isEmpty)).reverse.lookup category =
        if (idsOf category).isEmpty then none else some (idsOf category) := by
    intro category
    apply Option.ext
    intro ids
    rw [lookup_eq_some_iff_of_nodup distinct, List.mem_reverse, List.mem_filter, List.mem_map]
    constructor
    · rintro ⟨⟨other, -, same⟩, some⟩
      cases same
      simpa using some
    · intro given
      split at given
      · cases given
      · rename_i some
        cases given
        exact ⟨⟨category, Category.mem_all category, rfl⟩, by simpa using some⟩
  calc
    _ = Category.all.filterMap fun category =>
        if (idsOf category).isEmpty then none else some (category, idsOf category) := by
      congr 1
      funext category
      rw [found category]
      split <;> rfl
    _ = _ := by
      rw [← List.filterMap_eq_filter, List.filterMap_map]
      congr 1
      funext category
      cases given : (idsOf category).isEmpty <;> simp [Option.guard, given]

theorem ruleIdsDecoder_ruleIdsJson {ids : List (Category × List Nat)}
    (byCategory : IsByCategory ids) (fits : ∀ entry ∈ ids, ∀ id ∈ entry.2, id < UInt32.size) :
    ruleIdsDecoder (ruleIdsJson ids) = .ok ids := by
  have entries : Decoder.fields Category.ofName? (.list .natural32) (ruleIdsJson ids) = .ok ids :=
    fields_map (fun ids => .list (ids.map Json.nat)) Category.ofName?_name fun entry member =>
      list_map fun id among => natural32_nat (fits entry member id among)
  rw [ruleIdsDecoder, entries]
  exact congrArg Except.ok byCategory.filterMap_lookup

theorem plain_ruleIdsJson (ids : List (Category × List Nat)) : (ruleIdsJson ids).Plain := by
  apply Json.Plain.record
  intro field member
  obtain ⟨entry, -, rfl⟩ := List.mem_map.1 member
  exact .map .nat

/-! ## Managers -/

/-- A store that gives back the last value of a key, and nothing of other keys. -/
structure KeyValueStore.Lawful (σ : Type) [KeyValueStore σ] : Prop where
  get?_set : ∀ (store : σ) (key value other : String),
    get? (set store key value) other = if key = other then some value else get? store other

theorem MemoryStore.lawful : KeyValueStore.Lawful MemoryStore := ⟨get?_set⟩

namespace Manager

variable {β γ σ : Type}

/-- A manager whose state has a place in a store: its numbers fit their words, and its categories are in
order. -/
structure Storable (manager : Manager β) : Prop where
  lists : ∀ cached ∈ manager.lists, cached.Fits
  customRules : ∀ rule ∈ manager.customRules, rule.Fits
  enabledCategories : Category.ordered manager.enabledCategories = manager.enabledCategories
  byCategory : IsByCategory manager.previousRuleIds
  ruleIds : ∀ entry ∈ manager.previousRuleIds, ∀ id ∈ entry.2, id < UInt32.size

/-- A new manager of another backend with the settings and the kept state of a manager. -/
def restored (manager : Manager β) (backend : γ) : Manager γ :=
  { new manager.config backend with
    lists := manager.lists
    customRules := manager.customRules
    whitelist := manager.whitelist
    blacklist := manager.blacklist
    enabledCategories := manager.enabledCategories
    previousRuleIds := manager.previousRuleIds }

variable [KeyValueStore σ]

/-- A key under which a value was written gives back what was encoded. -/
theorem readKey_ok {α : Type} {store : σ} {key : String} {decode : Decoder α} {absent a : α}
    {json : Json} (found : KeyValueStore.get? store key = some json.compress) (plain : json.Plain)
    (back : decode json = .ok a) : readKey store key decode absent = .ok a := by
  rw [readKey, found]
  show (decode.run json.compress).mapError _ = _
  rw [run_of_read plain.read_compress back]
  rfl

/-- The store behind the writing of records. -/
def written (store : σ) (records : List (String × Json)) : σ :=
  records.foldl (fun store (key, value) => KeyValueStore.set store key value.compress) store

/-- Writing records leaves other keys alone. -/
theorem get?_written_of_not_mem (lawful : KeyValueStore.Lawful σ) {records : List (String × Json)}
    {key : String} (other : key ∉ records.map (·.1)) (store : σ) :
    KeyValueStore.get? (written store records) key = KeyValueStore.get? store key := by
  induction records generalizing store with
  | nil => rfl
  | cons head rest ih =>
    rw [List.map_cons, List.mem_cons, not_or] at other
    show KeyValueStore.get? (written (KeyValueStore.set store head.1 head.2.compress) rest) key = _
    rw [ih other.2, lawful.get?_set, if_neg (Ne.symm other.1)]

/-- Of records with different keys every value is found under its key. -/
theorem get?_written (lawful : KeyValueStore.Lawful σ) {records : List (String × Json)}
    (distinct : (records.map (·.1)).Nodup) (store : σ) {key : String} {value : Json}
    (member : (key, value) ∈ records) :
    KeyValueStore.get? (written store records) key = some value.compress := by
  induction records generalizing store with
  | nil => cases member
  | cons head rest ih =>
    rw [List.map_cons, List.nodup_cons] at distinct
    show KeyValueStore.get? (written (KeyValueStore.set store head.1 head.2.compress) rest) key = _
    rcases List.mem_cons.1 member with rfl | later
    · rw [get?_written_of_not_mem lawful distinct.1, lawful.get?_set, if_pos rfl]
    · exact ih distinct.2 _ later

/-- A manager that has a place in a store is restored as it was saved. -/
theorem load_save (lawful : KeyValueStore.Lawful σ) {manager : Manager β}
    (storable : manager.Storable) (backend : γ) (store : σ) :
    load manager.config backend (manager.save store) = .ok (manager.restored backend) := by
  have distinct : (manager.records.map (·.1)).Nodup :=
    (by decide : [listsKey, customRulesKey, userDomainsKey, ruleIdsKey].Nodup)
  have found : ∀ key value, (key, value) ∈ manager.records →
      KeyValueStore.get? (manager.save store) key = some value.compress := fun key value =>
    get?_written lawful distinct store
  have lists : readKey (manager.save store) listsKey (.list CachedList.decoder) [] =
      .ok manager.lists :=
    readKey_ok (found _ _ (by simp [records])) (.map CachedList.plain_toJson)
      (list_map fun cached member => CachedList.decoder_toJson (storable.lists cached member))
  have customRules : readKey (manager.save store) customRulesKey (.list CustomRule.decoder) [] =
      .ok manager.customRules :=
    readKey_ok (found _ _ (by simp [records])) (.map CustomRule.plain_toJson)
      (list_map fun rule member => CustomRule.decoder_toJson (storable.customRules rule member))
  have domains : readKey (manager.save store) userDomainsKey UserDomains.decoder
      ⟨[], [], Category.toggleable⟩ =
        .ok ⟨manager.whitelist, manager.blacklist, manager.enabledCategories⟩ :=
    readKey_ok (found _ _ (by simp [records])) (UserDomains.plain_toJson _)
      (UserDomains.decoder_toJson storable.enabledCategories)
  have ruleIds : readKey (manager.save store) ruleIdsKey ruleIdsDecoder [] =
      .ok manager.previousRuleIds :=
    readKey_ok (found _ _ (by simp [records])) (plain_ruleIdsJson _)
      (ruleIdsDecoder_ruleIdsJson storable.byCategory storable.ruleIds)
  simp only [load, new, lists, customRules, domains, ruleIds]
  rfl

end Manager

end ContentFilter
