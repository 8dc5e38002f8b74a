import Mathlib.Data.List.Induction
import Mathlib.Data.List.Infix
import ContentFilter.Proofs.Manager.Subscriptions

/-!
# Sources of the stored lists

An insert looks for a stored list of its id before it looks for one of its source, and the list that it
finds comes from the new source afterwards.  The sources stay distinct until an insert has the id of one
list and the source of another.  While they are, a call that names a list by its source reaches it and no
other.
-/

namespace ContentFilter

/-- The list that a call brings, if it brings one. -/
def ListCall.fresh? : ListCall → Option CachedList
  | .insert fresh => some fresh
  | .upsert list text now => some (.ofText list text now)
  | .remove _ | .switch _ _ | .fetchFailed _ => none

namespace Manager

variable {β : Type} {before after front back : List CachedList} {fresh cached : CachedList}

/-- No two lists come from one source. -/
def DistinctSources (lists : List CachedList) : Prop := (lists.map (·.list.sourceUri)).Nodup

/-- A list agrees with one of the stored lists in its id, and with another one in its source. -/
def Crosses (lists : List CachedList) (fresh : CachedList) : Prop :=
  (∃ own ∈ lists, own.list.id = fresh.list.id) ∧
    ∃ other ∈ lists, other.list.id ≠ fresh.list.id ∧ other.list.sourceUri = fresh.list.sourceUri

instance (lists : List CachedList) : Decidable (DistinctSources lists) :=
  inferInstanceAs (Decidable (List.Nodup _))

instance (lists : List CachedList) (fresh : CachedList) : Decidable (Crosses lists fresh) :=
  inferInstanceAs (Decidable (_ ∧ _))

/-! ## One call -/

/-- Distinct sources stay distinct at an insert exactly if it does not cross. -/
theorem Inserts.distinctSources_iff (inserts : Inserts before after fresh)
    (ids : (before.map (·.list.id)).Nodup) (distinct : DistinctSources before) :
    DistinctSources after ↔ ¬ Crosses before fresh := by
  rcases inserts with ⟨front, stored, back, rfl, rfl, sameId | ⟨sameSource, noId, -⟩⟩ | ⟨rfl, unknown⟩
  case inl.inl =>
    -- the new source must be that of no other list, and all other lists have another id
    have otherId := (nodup_map_middle.1 ids).2
    rw [DistinctSources, nodup_map_middle, and_iff_right (nodup_map_middle.1 distinct).1]
    constructor
    · rintro apart ⟨-, other, member, notId, sameSource⟩
      rcases List.mem_cons.1 (List.perm_middle.mem_iff.1 member) with rfl | among
      · exact notId sameId
      · exact apart other among sameSource
    · intro straight other among sameSource
      refine straight ⟨⟨stored, List.mem_append_cons_self, sameId⟩, other, ?_, ?_, sameSource⟩
      · exact List.perm_middle.mem_iff.2 (List.mem_cons_of_mem _ among)
      · exact sameId ▸ otherId other among
  case inl.inr =>
    have sources : (front ++ refreshed stored fresh :: back).map (·.list.sourceUri) =
        (front ++ stored :: back).map (·.list.sourceUri) := by
      simp [refreshed, sameSource]
    refine iff_of_true ?_ ?_
    · rw [DistinctSources, sources]
      exact distinct
    · rintro ⟨⟨own, member, sameId⟩, -⟩
      exact noId own member sameId
  case inr =>
    refine iff_of_true ?_ ?_
    · rw [DistinctSources, List.map_append, List.map_singleton, ← List.concat_eq_append,
        List.nodup_concat]
      refine ⟨fun known => ?_, distinct⟩
      obtain ⟨other, member, sameSource⟩ := List.mem_map.1 known
      exact (unknown other member).2 sameSource
    · rintro ⟨⟨own, member, sameId⟩, -⟩
      exact (unknown own member).1 sameId

/-- A change that keeps the source of a list leaves distinct sources distinct. -/
theorem DistinctSources.modify {lists : List CachedList} {change : CachedList → CachedList}
    (distinct : DistinctSources lists)
    (kept : ∀ stored, (change stored).list.sourceUri = stored.list.sourceUri) (index : Nat) :
    DistinctSources (lists.modify index change) := by
  have sources : (lists.modify index change).map (·.list.sourceUri) =
      lists.map (·.list.sourceUri) := by
    refine List.ext_getElem? fun place => ?_
    rw [List.getElem?_map, List.getElem?_map, List.getElem?_modify]
    rcases lists[place]? with _ | stored
    · rfl
    · simp only [Option.map_eq_map, Option.map_some, Option.some.injEq]
      split
      · exact kept stored
      · rfl
  rw [DistinctSources, sources]
  exact distinct

/-- Distinct sources stay distinct at a call exactly if it is no insert that crosses. -/
theorem distinctSources_applyCall_iff {manager : Manager β}
    (ids : (manager.lists.map (·.list.id)).Nodup) (distinct : DistinctSources manager.lists)
    (call : ListCall) : DistinctSources (manager.applyCall call).lists ↔
      ∀ fresh ∈ call.fresh?, ¬ Crosses manager.lists fresh := by
  have insert : ∀ fresh, DistinctSources (manager.insertList fresh).lists ↔
      ∀ other ∈ some fresh, ¬ Crosses manager.lists other := fun fresh => by
    simpa using (inserts_insertList manager fresh).distinctSources_iff ids distinct
  cases call with
  | insert fresh => exact insert fresh
  | upsert list text now => exact insert (.ofText list text now)
  | remove id =>
    refine iff_of_true ?_ nofun
    rw [applyCall, getD_removeList?]
    exact distinct.sublist (List.filter_sublist.map _)
  | switch id enabled =>
    refine iff_of_true ?_ nofun
    rw [applyCall, setListEnabled?]
    cases manager.lists.findIdx? (·.list.id == id) with
    | none => exact distinct
    | some index =>
      refine distinct.modify (fun stored => ?_) index
      rfl
  | fetchFailed name =>
    refine iff_of_true ?_ nofun
    rw [applyCall, recordFetchFailure?]
    cases findList? manager.lists name name with
    | none => exact distinct
    | some index =>
      refine distinct.modify (fun stored => ?_) index
      rfl

/-! ## One call after another -/

variable {config : CompilerConfig} {backend : β}

theorem ofCalls_concat (calls : List ListCall) (call : ListCall) :
    ofCalls config backend (calls ++ [call]) = (ofCalls config backend calls).applyCall call := by
  rw [ofCalls, List.foldl_append]
  rfl

/-- Sources are distinct all along exactly if no insert crosses the lists that are stored by then. -/
theorem forall_distinctSources_iff (calls : List ListCall) :
    (∀ front, front <+: calls → DistinctSources (ofCalls config backend front).lists) ↔
      ∀ front call, front ++ [call] <+: calls →
        ∀ fresh ∈ call.fresh?, ¬ Crosses (ofCalls config backend front).lists fresh := by
  have step : ∀ {front}, DistinctSources (ofCalls config backend front).lists → ∀ call,
      DistinctSources (ofCalls config backend (front ++ [call])).lists ↔
        ∀ fresh ∈ call.fresh?, ¬ Crosses (ofCalls config backend front).lists fresh := by
    intro front distinct call
    rw [ofCalls_concat]
    exact distinctSources_applyCall_iff (keeps_ofCalls config backend front).nodup_ids distinct call
  constructor
  · intro distinct front call reached
    have before := distinct front ((List.prefix_append front [call]).trans reached)
    exact (step before call).1 (distinct (front ++ [call]) reached)
  · intro straight front reached
    induction front using List.reverseRecOn with
    | nil => exact List.nodup_nil
    | append_singleton front call ih =>
      have before := ih ((List.prefix_append front [call]).trans reached)
      exact (step before call).2 (straight front call reached)

/-! ## Lists that are named by their source -/

/-- With distinct sources a list is found under its source, unless another one has the id that is looked
for first. -/
theorem findList?_of_sourceUri {id : String} (distinct : DistinctSources (front ++ cached :: back))
    (noOther : ∀ other ∈ front ++ back, other.list.id ≠ id) :
    findList? (front ++ cached :: back) id cached.list.sourceUri = some front.length := by
  have apart := (nodup_map_middle.1 distinct).2
  have unnamed : front.findIdx? (·.list.id == id) = none := by
    simpa using fun other among => noOther other (List.mem_append_left _ among)
  have elsewhere : front.findIdx? (·.list.sourceUri == cached.list.sourceUri) = none := by
    simpa using fun other among => apart other (List.mem_append_left _ among)
  have bySource : (front ++ cached :: back).findIdx?
      (·.list.sourceUri == cached.list.sourceUri) = some front.length := by
    simp [List.findIdx?_append, elsewhere, List.findIdx?_cons]
  rw [findList?, bySource]
  by_cases own : cached.list.id = id
  · simp [List.findIdx?_append, unnamed, List.findIdx?_cons, own]
  · have behind : back.findIdx? (·.list.id == id) = none := by
      simpa using fun other among => noOther other (List.mem_append_right _ among)
    simp [List.findIdx?_append, unnamed, List.findIdx?_cons, own, behind]

theorem modify_length {change : CachedList → CachedList} :
    (front ++ cached :: back).modify front.length change = front ++ change cached :: back := by
  rw [List.modify_eq_take_cons_drop (by simp)]
  simp

section Reached

variable {manager : Manager β} (whole : manager.lists = front ++ cached :: back)
  (distinct : DistinctSources (front ++ cached :: back))
include whole distinct

theorem recordFetchFailure?_of_sourceUri
    (noOther : ∀ other ∈ front ++ back, other.list.id ≠ cached.list.sourceUri) :
    manager.recordFetchFailure? cached.list.sourceUri =
      some { manager with lists := front ++ { cached with stale := true } :: back } := by
  rw [recordFetchFailure?, whole, findList?_of_sourceUri distinct noOther, Option.map_some,
    modify_length]

theorem insertList_of_sourceUri (sameSource : fresh.list.sourceUri = cached.list.sourceUri)
    (noOther : ∀ other ∈ front ++ back, other.list.id ≠ fresh.list.id) :
    manager.insertList fresh =
      { manager with lists := front ++ refreshed cached fresh :: back } := by
  rw [insertList, whole, sameSource, findList?_of_sourceUri distinct noOther]
  dsimp only
  rw [modify_length]

end Reached

/-- Behind calls one after another the sources have been distinct all along exactly if no insert has had
the id of one stored list and the source of another.  Where they are distinct, a failed fetch that is named
by the source of a list marks this list, unless the name is the id of another one, and an insert from the
source refreshes it, unless its id is that of another one. -/
theorem distinctSources_ofCalls_iff (config : CompilerConfig) (backend : β) (calls : List ListCall) :
    ((∀ front, front <+: calls → DistinctSources (ofCalls config backend front).lists) ↔
      ∀ front call, front ++ [call] <+: calls →
        ∀ fresh ∈ call.fresh?, ¬ Crosses (ofCalls config backend front).lists fresh) ∧
    ∀ front cached back, (ofCalls config backend calls).lists = front ++ cached :: back →
      DistinctSources (front ++ cached :: back) →
      ((∀ other ∈ front ++ back, other.list.id ≠ cached.list.sourceUri) →
        (ofCalls config backend calls).recordFetchFailure? cached.list.sourceUri =
          some { ofCalls config backend calls with
            lists := front ++ { cached with stale := true } :: back }) ∧
      ∀ fresh : CachedList, fresh.list.sourceUri = cached.list.sourceUri →
        (∀ other ∈ front ++ back, other.list.id ≠ fresh.list.id) →
        (ofCalls config backend calls).insertList fresh =
          { ofCalls config backend calls with lists := front ++ refreshed cached fresh :: back } :=
  ⟨forall_distinctSources_iff calls, fun _ _ _ whole distinct =>
    ⟨recordFetchFailure?_of_sourceUri whole distinct, fun _ sameSource =>
      insertList_of_sourceUri whole distinct sameSource⟩⟩

/-- A list that was read from a source. -/
def listed (id source : String) : CachedList := ⟨.new id source .ads, [], false, 0⟩

/-- The calls of two inserts and a third one that renews the second list under a name that is not stored. -/
def renewingCalls : List ListCall :=
  [.insert (listed "a" "u/1"), .insert (listed "b" "u/2"), .switch "a" false, .insert (listed "c" "u/2")]

/-- Sources are distinct all along, and the next failed fetch marks the renewed list alone. -/
theorem distinctSources_ofCalls_iff_renewing :
    (∀ front, front <+: renewingCalls → DistinctSources (ofCalls .standard () front).lists) ∧
    (∀ front call, front ++ [call] <+: renewingCalls →
      ∀ fresh ∈ call.fresh?, ¬ Crosses (ofCalls .standard () front).lists fresh) ∧
    (ofCalls .standard () renewingCalls).recordFetchFailure? "u/2" =
      some { ofCalls .standard () renewingCalls with
        lists := [{ listed "a" "u/1" with list := { (listed "a" "u/1").list with enabled := false } },
          { listed "b" "u/2" with stale := true }] } := by
  have each : ∀ front ∈ renewingCalls.inits, DistinctSources (ofCalls .standard () front).lists := by
    decide
  have distinct : ∀ front, front <+: renewingCalls →
      DistinctSources (ofCalls .standard () front).lists := fun front reached =>
    each front ((List.mem_inits front renewingCalls).2 reached)
  obtain ⟨distinct_iff, named⟩ := distinctSources_ofCalls_iff .standard () renewingCalls
  refine ⟨distinct, distinct_iff.1 distinct, ?_⟩
  exact (named [_] (listed "b" "u/2") [] rfl (distinct _ (List.prefix_refl _))).1 (by decide)

/-- The calls of an insert that takes over the source of another list. -/
def crossingCalls : List ListCall :=
  [.insert (listed "a" "u/1"), .insert (listed "b" "u/2"), .insert (listed "a" "u/2")]

/-- The list that is found by its id takes the source over, and the other one keeps it. -/
theorem not_distinctSources_crossingCalls :
    Crosses (ofCalls .standard () (crossingCalls.take 2)).lists (listed "a" "u/2") ∧
      (ofCalls .standard () crossingCalls).lists = [listed "a" "u/2", listed "b" "u/2"] ∧
      ¬ DistinctSources (ofCalls .standard () crossingCalls).lists := by
  decide

end Manager

end ContentFilter
