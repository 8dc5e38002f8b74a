/-!
# Stores

Texts by keys, which outlive the program.
-/

namespace ContentFilter

/-- A type of stores. -/
class KeyValueStore (σ : Type) where
  get? : σ → String → Option String
  set : σ → String → String → σ

/-- A store held in memory, in the order of its keys. -/
structure MemoryStore where
  entries : List (String × String)
deriving DecidableEq, Repr

namespace MemoryStore

/-- The store without keys. -/
def empty : MemoryStore := ⟨[]⟩

/-- The entries with a value put under a key, in place of the value that was there. -/
def insertInto (key value : String) : List (String × String) → List (String × String)
  | [] => [(key, value)]
  | (name, old) :: rest =>
    if key < name then (key, value) :: (name, old) :: rest
    else if key = name then (key, value) :: rest
    else (name, old) :: insertInto key value rest

/-- The store with a value under a key. -/
def set (store : MemoryStore) (key value : String) : MemoryStore :=
  ⟨insertInto key value store.entries⟩

/-- The value of a key. -/
def get? (store : MemoryStore) (key : String) : Option String := store.entries.lookup key

/-- The store of a list of entries; the last value of a key counts. -/
def ofList (entries : List (String × String)) : MemoryStore :=
  entries.foldl (fun store (key, value) => store.set key value) empty

@[simp] theorem get?_empty (key : String) : empty.get? key = none := rfl

/-- The value is found under its key, and nothing else changes. -/
@[simp] theorem get?_set (store : MemoryStore) (key value other : String) :
    (store.set key value).get? other = if key = other then some value else store.get? other := by
  obtain ⟨entries⟩ := store
  simp only [set, get?]
  induction entries with
  | nil =>
    by_cases same : key = other
    · subst same
      simp [insertInto]
    · simp [insertInto, List.lookup_cons, same, beq_eq_false_iff_ne.2 (Ne.symm same)]
  | cons head rest ih =>
    obtain ⟨name, old⟩ := head
    have miss : ∀ {name : String}, ¬ name = other → (other == name) = false :=
      fun differs => beq_eq_false_iff_ne.2 (Ne.symm differs)
    simp only [insertInto]
    split
    · by_cases same : key = other
      · simp [same]
      · simp [List.lookup_cons, same, miss same]
    · split
      · rename_i replaced
        subst replaced
        by_cases same : key = other
        · simp [same]
        · simp [List.lookup_cons, same, miss same]
      · rename_i kept
        by_cases here : name = other
        · subst here
          simp [kept]
        · simp [List.lookup_cons, miss here, ih]

instance : KeyValueStore MemoryStore where
  get? := get?
  set := set

end MemoryStore

end ContentFilter
