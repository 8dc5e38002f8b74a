import ContentFilter.Manager.Lemmas

/-!
# Subscriptions

The lists of a manager, told apart by their ids.  What is stored under an id follows from the insert
that created it and from what has happened to it since: an insert replaces all that a fetch brings, and
neither the name nor the switch; a failed fetch marks what is there as stale, until the next insert.
-/

namespace ContentFilter

/-- A call that is about the stored lists. -/
inductive ListCall where
  | insert (fresh : CachedList)
  | upsert (list : FilterList) (text : String) (now : Nat)
  | remove (id : String)
  | switch (id : String) (enabled : Bool)
  | fetchFailed (name : String)

/-- What can happen to a stored list. -/
inductive ListEvent where
  | refreshed (fresh : CachedList)
  | switched (enabled : Bool)
  | fetchFailed
deriving DecidableEq

namespace ListEvent

/-- The list that an event brings, if it brings one. -/
def fresh? : ListEvent → Option CachedList
  | .refreshed fresh => some fresh
  | _ => none

/-- What an event switches a list to, if it does. -/
def enabled? : ListEvent → Option Bool
  | .switched enabled => some enabled
  | _ => none

/-- What the manager makes of a stored list at an event. -/
def change : ListEvent → CachedList → CachedList
  | .refreshed fresh, stored => Manager.refreshed stored fresh
  | .switched enabled, stored => { stored with list := { stored.list with enabled } }
  | .fetchFailed, stored => { stored with stale := true }

end ListEvent

/-- A subscribed list: the insert that created it and what has happened to it since, the last event
first. -/
structure Subscription where
  created : CachedList
  since : List ListEvent

namespace Subscription

/-- The id that the list was created with. -/
def key (entry : Subscription) : String := entry.created.list.id

/-- The list of the last insert. -/
def latest (entry : Subscription) : CachedList :=
  (entry.since.findSome? ListEvent.fresh?).getD entry.created

/-- What the list was last switched to, or created as. -/
def isEnabled (entry : Subscription) : Bool :=
  (entry.since.findSome? ListEvent.enabled?).getD entry.created.list.enabled

/-- Whether a fetch has failed since the last insert, or what was inserted was stale. -/
def isStale (entry : Subscription) : Bool :=
  (entry.since.takeWhile (·.fresh?.isNone)).contains .fetchFailed || entry.latest.stale

/-- What is stored: the list of the last insert, under the id and the name of the first one. -/
def stored (entry : Subscription) : CachedList :=
  { entry.latest with
    list := { entry.latest.list with
      id := entry.created.list.id
      displayName := entry.created.list.displayName
      enabled := entry.isEnabled }
    stale := entry.isStale }

/-- The subscription behind one more event. -/
def noted (entry : Subscription) (event : ListEvent) : Subscription :=
  { entry with since := event :: entry.since }

/-- The manager changes what is stored just as the events tell. -/
theorem stored_noted (entry : Subscription) (event : ListEvent) :
    (entry.noted event).stored = event.change entry.stored := by
  cases event with
  | refreshed fresh => rfl
  | switched enabled => rfl
  | fetchFailed => rfl

/-! ## All subscriptions -/

/-- The subscriptions with an event noted at the one of a key. -/
def note (entries : List Subscription) (key : String) (event : ListEvent) : List Subscription :=
  entries.map fun entry => if entry.key = key then entry.noted event else entry

/-- The subscription that an id or a source stands for: the one with this id, or else the first one
whose last insert came from the source. -/
def resolve? (entries : List Subscription) (id source : String) : Option Subscription :=
  entries.find? (·.key == id) <|> entries.find? (·.latest.list.sourceUri == source)

/-- The subscriptions behind an insert. -/
def insert (entries : List Subscription) (fresh : CachedList) : List Subscription :=
  match resolve? entries fresh.list.id fresh.list.sourceUri with
  | some entry => note entries entry.key (.refreshed fresh)
  | none => entries ++ [⟨fresh, []⟩]

/-- The subscriptions behind a call. -/
def apply (entries : List Subscription) : ListCall → List Subscription
  | .insert fresh => insert entries fresh
  | .upsert list text now => insert entries (.ofText list text now)
  | .remove id => entries.filter (·.key != id)
  | .switch id enabled => note entries id (.switched enabled)
  | .fetchFailed name =>
    match resolve? entries name name with
    | some entry => note entries entry.key .fetchFailed
    | none => entries

/-- The subscriptions behind calls, one after another, where there was none. -/
def ofCalls (calls : List ListCall) : List Subscription := calls.foldl apply []

theorem map_key_note (entries : List Subscription) (key : String) (event : ListEvent) :
    (note entries key event).map Subscription.key = entries.map Subscription.key := by
  rw [note, List.map_map]
  refine List.map_congr_left fun entry _ => ?_
  rw [Function.comp_apply]
  split
  · rfl
  · rfl

/-- An event at a key that no subscription has is noted nowhere. -/
theorem note_of_forall_ne {entries : List Subscription} {key : String}
    (unknown : ∀ entry ∈ entries, entry.key ≠ key) (event : ListEvent) :
    note entries key event = entries :=
  (List.map_congr_left fun entry member => if_neg (unknown entry member)).trans entries.map_id

/-- Where keys are distinct, a list that is changed in its place is changed under its key. -/
theorem modify_map_stored {entries : List Subscription}
    (distinct : (entries.map Subscription.key).Nodup) {index : Nat} {entry : Subscription}
    (found : entries[index]? = some entry) (event : ListEvent) :
    (entries.map stored).modify index event.change = (note entries entry.key event).map stored := by
  refine List.ext_getElem? fun place => ?_
  rw [List.getElem?_modify, note, List.map_map, List.getElem?_map, List.getElem?_map]
  rcases there : entries[place]? with _ | other
  · rfl
  · have inside : index < (entries.map key).length := by
      rw [List.length_map]
      exact (List.getElem?_eq_some_iff.1 found).1
    -- no other place holds an entry of this key
    have same : index = place ↔ other.key = entry.key := by
      rw [← List.getElem?_inj inside distinct, List.getElem?_map, List.getElem?_map, found, there,
        Option.map_some, Option.map_some, Option.some.injEq, eq_comm]
    simp only [Option.map_some, Option.map_eq_map, Function.comp_apply, Option.some.injEq, same]
    split
    · exact (stored_noted _ event).symm
    · rfl

/-- The first entry with a property is found at its place. -/
theorem findIdx?_cases (entries : List Subscription) (p : Subscription → Bool) :
    (entries.findIdx? p = none ∧ entries.find? p = none) ∨
    ∃ index entry, entries.findIdx? p = some index ∧ entries[index]? = some entry ∧
      entries.find? p = some entry := by
  rw [List.find?_eq_bind_findIdx?_getElem?]
  rcases place : entries.findIdx? p with _ | index
  · exact .inl ⟨rfl, rfl⟩
  · obtain ⟨inside, -⟩ := List.findIdx?_eq_some_iff_getElem.1 place
    exact .inr ⟨index, entries[index], rfl, List.getElem?_eq_getElem inside,
      List.getElem?_eq_getElem inside⟩

theorem findList?_map_stored (entries : List Subscription) (id source : String) :
    Manager.findList? (entries.map stored) id source =
      (entries.findIdx? (·.key == id) <|> entries.findIdx? (·.latest.list.sourceUri == source)) := by
  unfold Manager.findList?
  rw [List.findIdx?_map, List.findIdx?_map]
  rfl

/-- The manager finds the list of just that subscription which an id or a source stands for. -/
theorem findList?_cases (entries : List Subscription) (id source : String) :
    (Manager.findList? (entries.map stored) id source = none ∧ resolve? entries id source = none) ∨
    ∃ index entry, Manager.findList? (entries.map stored) id source = some index ∧
      entries[index]? = some entry ∧ resolve? entries id source = some entry := by
  rw [findList?_map_stored, resolve?]
  rcases findIdx?_cases entries (·.key == id) with
    ⟨unplaced, unknown⟩ | ⟨index, entry, place, there, found⟩
  · rw [unplaced, unknown]
    exact findIdx?_cases entries (·.latest.list.sourceUri == source)
  · rw [place, found]
    exact .inr ⟨index, entry, rfl, there, rfl⟩

end Subscription

namespace Manager

variable {β : Type}

/-! ## Finding a list -/

/-- The place that is found holds a list with the id, or else the first one from the source. -/
theorem findList?_eq_some {lists : List CachedList} {id source : String} {index : Nat}
    (h : findList? lists id source = some index) :
    ∃ inside : index < lists.length, lists[index].list.id = id ∨
      lists[index].list.sourceUri = source ∧ (∀ other ∈ lists, other.list.id ≠ id) ∧
        ∀ other ∈ lists.take index, other.list.sourceUri ≠ source := by
  unfold findList? at h
  rcases byId : lists.findIdx? (·.list.id == id) with _ | place
  · rw [byId] at h
    obtain ⟨inside, origin, first⟩ := List.findIdx?_eq_some_iff_getElem.1 h
    refine ⟨inside, .inr ⟨by simpa using origin, ?_, ?_⟩⟩
    · simpa using byId
    · intro other member
      obtain ⟨place, before, rfl⟩ := List.mem_take_iff_getElem.1 member
      simpa using first place (by omega)
  · rw [byId] at h
    cases h
    obtain ⟨inside, same, -⟩ := List.findIdx?_eq_some_iff_getElem.1 byId
    exact ⟨inside, .inl (by simpa using same)⟩

theorem findList?_eq_none {lists : List CachedList} {id source : String} :
    findList? lists id source = none ↔
      ∀ other ∈ lists, other.list.id ≠ id ∧ other.list.sourceUri ≠ source := by
  simp only [findList?, Option.orElse_eq_orElse, Option.orElse_eq_or, Option.or_eq_none_iff,
    List.findIdx?_eq_none_iff, beq_eq_false_iff_ne, ← forall_and, ne_eq]

/-! ## One call after another -/

/-- The manager behind a call, which leaves it alone if it is refused. -/
def applyCall (manager : Manager β) : ListCall → Manager β
  | .insert fresh => manager.insertList fresh
  | .upsert list text now => manager.upsertList list text now
  | .remove id => (manager.removeList? id).getD manager
  | .switch id enabled => (manager.setListEnabled? id enabled).getD manager
  | .fetchFailed name => (manager.recordFetchFailure? name).getD manager

/-- A manager that nothing was subscribed to, behind calls one after another. -/
def ofCalls (config : CompilerConfig) (backend : β) (calls : List ListCall) : Manager β :=
  calls.foldl applyCall (new config backend)

/-- The lists of a manager are those of the subscriptions, and no two of them have one id. -/
structure Keeps (manager : Manager β) (entries : List Subscription) : Prop where
  lists : manager.lists = entries.map Subscription.stored
  distinct : (entries.map Subscription.key).Nodup

namespace Keeps

variable {manager : Manager β} {entries : List Subscription} (keeps : manager.Keeps entries)
include keeps

/-- An event may be noted at the place of a list or at its key. -/
theorem modify {index : Nat} {entry : Subscription} (found : entries[index]? = some entry)
    (event : ListEvent) :
    Keeps { manager with lists := manager.lists.modify index event.change }
      (Subscription.note entries entry.key event) where
  lists := by
    dsimp only
    rw [keeps.lists, Subscription.modify_map_stored keeps.distinct found]
  distinct := by
    rw [Subscription.map_key_note]
    exact keeps.distinct

theorem insert (fresh : CachedList) :
    (manager.insertList fresh).Keeps (Subscription.insert entries fresh) := by
  unfold insertList Subscription.insert
  rcases Subscription.findList?_cases entries fresh.list.id fresh.list.sourceUri with
    ⟨unplaced, unknown⟩ | ⟨index, entry, place, there, found⟩
  · rw [← keeps.lists] at unplaced
    rw [unplaced, unknown]
    constructor
    case lists =>
      dsimp only
      rw [List.map_append, keeps.lists]
      rfl
    case distinct =>
      rw [List.map_append, List.map_singleton, ← List.concat_eq_append, List.nodup_concat]
      -- a list of the same id would have been found
      refine ⟨fun known => ?_, keeps.distinct⟩
      obtain ⟨entry, member, same⟩ := List.mem_map.1 known
      have listed : entry.stored ∈ manager.lists := keeps.lists ▸ List.mem_map_of_mem member
      exact (findList?_eq_none.1 unplaced entry.stored listed).1 same
  · rw [← keeps.lists] at place
    rw [place, found]
    exact keeps.modify there (.refreshed fresh)

theorem remove (id : String) :
    ((manager.removeList? id).getD manager).Keeps (entries.filter (·.key != id)) := by
  have left : (manager.lists.filter (·.list.id != id)) =
      (entries.filter (·.key != id)).map Subscription.stored := by
    rw [keeps.lists, List.filter_map]
    rfl
  rw [getD_removeList?]
  constructor
  case lists => exact left
  case distinct => exact keeps.distinct.sublist (List.filter_sublist.map Subscription.key)

theorem switch (id : String) (enabled : Bool) :
    ((manager.setListEnabled? id enabled).getD manager).Keeps
      (Subscription.note entries id (.switched enabled)) := by
  have place : manager.lists.findIdx? (·.list.id == id) = entries.findIdx? (·.key == id) := by
    rw [keeps.lists, List.findIdx?_map]
    rfl
  unfold setListEnabled?
  rw [place]
  rcases Subscription.findIdx?_cases entries (·.key == id) with
    ⟨unplaced, unknown⟩ | ⟨index, entry, place, there, found⟩
  · rw [unplaced, Subscription.note_of_forall_ne]
    · exact keeps
    · simpa using unknown
  · rw [place]
    obtain rfl : entry.key = id := by simpa using List.find?_some found
    exact keeps.modify there (.switched enabled)

theorem fetchFailed (name : String) :
    ((manager.recordFetchFailure? name).getD manager).Keeps
      (Subscription.apply entries (.fetchFailed name)) := by
  unfold recordFetchFailure?
  rcases Subscription.findList?_cases entries name name with
    ⟨unplaced, unknown⟩ | ⟨index, entry, place, there, found⟩
  · rw [← keeps.lists] at unplaced
    rw [unplaced, Subscription.apply, unknown]
    exact keeps
  · rw [← keeps.lists] at place
    rw [place, Subscription.apply, found]
    exact keeps.modify there .fetchFailed

/-- A call does to the lists what it does to the subscriptions. -/
theorem applyCall (call : ListCall) :
    (manager.applyCall call).Keeps (Subscription.apply entries call) := by
  cases call with
  | insert fresh => exact keeps.insert fresh
  | upsert list text now => exact keeps.insert (.ofText list text now)
  | remove id => exact keeps.remove id
  | switch id enabled => exact keeps.switch id enabled
  | fetchFailed name => exact keeps.fetchFailed name

theorem nodup_ids : (manager.lists.map (·.list.id)).Nodup := by
  have ids : manager.lists.map (·.list.id) = entries.map Subscription.key := by
    rw [keeps.lists, List.map_map]
    rfl
  rw [ids]
  exact keeps.distinct

end Keeps

theorem Keeps.foldl_applyCall {manager : Manager β} {entries : List Subscription}
    (keeps : manager.Keeps entries) (calls : List ListCall) :
    (calls.foldl Manager.applyCall manager).Keeps (calls.foldl Subscription.apply entries) := by
  induction calls generalizing manager entries with
  | nil => exact keeps
  | cons call rest ih => exact ih (keeps.applyCall call)

theorem keeps_ofCalls (config : CompilerConfig) (backend : β) (calls : List ListCall) :
    (ofCalls config backend calls).Keeps (Subscription.ofCalls calls) := by
  have empty : (new config backend).Keeps [] := ⟨rfl, List.nodup_nil⟩
  exact empty.foldl_applyCall calls

/-- What an insert does to the stored lists: the one with its id, or else the first one from its source,
is refreshed between all others, and the inserted list comes behind them if there is none. -/
def Inserts (before after : List CachedList) (fresh : CachedList) : Prop :=
  (∃ front stored back, before = front ++ stored :: back ∧
      after = front ++ refreshed stored fresh :: back ∧
      (stored.list.id = fresh.list.id ∨
        stored.list.sourceUri = fresh.list.sourceUri ∧
          (∀ other ∈ before, other.list.id ≠ fresh.list.id) ∧
          ∀ other ∈ front, other.list.sourceUri ≠ fresh.list.sourceUri)) ∨
    (after = before ++ [fresh] ∧ ∀ other ∈ before,
      other.list.id ≠ fresh.list.id ∧ other.list.sourceUri ≠ fresh.list.sourceUri)

theorem inserts_insertList (manager : Manager β) (fresh : CachedList) :
    Inserts manager.lists (manager.insertList fresh).lists fresh := by
  unfold insertList
  split
  · rename_i index found
    obtain ⟨inside, known⟩ := findList?_eq_some found
    refine .inl ⟨manager.lists.take index, manager.lists[index], manager.lists.drop (index + 1),
      ?_, List.modify_eq_take_cons_drop inside, known⟩
    rw [← List.drop_eq_getElem_cons inside, List.take_append_drop]
  · rename_i unknown
    exact .inr ⟨rfl, findList?_eq_none.1 unknown⟩

/-- Behind all calls the stored lists are those of a keyed model: their ids are distinct, what is stored
under an id is what the calls since its creation tell, and an insert changes or appends just one list. -/
theorem lists_ofCalls (config : CompilerConfig) (backend : β) (calls : List ListCall) :
    (ofCalls config backend calls).lists = (Subscription.ofCalls calls).map Subscription.stored ∧
      ((ofCalls config backend calls).lists.map (·.list.id)).Nodup ∧
      (∀ fresh, Inserts (ofCalls config backend calls).lists
        ((ofCalls config backend calls).insertList fresh).lists fresh) ∧
      ∀ list text now, Inserts (ofCalls config backend calls).lists
        ((ofCalls config backend calls).upsertList list text now).lists (.ofText list text now) := by
  have keeps := keeps_ofCalls config backend calls
  refine ⟨keeps.lists, keeps.nodup_ids, fun fresh => ?_, fun list text now => ?_⟩
  · exact inserts_insertList _ fresh
  · exact inserts_insertList _ (.ofText list text now)

-- A list that was switched off stays off, although its refresh comes under another id.
example :
    ((ofCalls .standard ()
        [.insert ⟨.new "a" "a.io/list" .ads, [], false, 0⟩, .switch "a" false,
          .insert ⟨.new "b" "a.io/list" .ads, [], false, 3⟩, .fetchFailed "b"]).lists.map
      fun cached => (cached.list.id, cached.list.enabled, cached.stale, cached.skipped)) =
    [("a", false, false, 3)] := by
  decide

end Manager

end ContentFilter
