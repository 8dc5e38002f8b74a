import ContentFilter.Config.Record
import ContentFilter.Proofs.Json.Decoding
import ContentFilter.Proofs.ResourceType.Text

/-!
# Sets of types as lists of names

A set whose bits all have a name is given back by the names of its types.  Every set that the options
of a filter or the settings of compilation make up is one of these, since both start from named types
and take away from them only.
-/

namespace ContentFilter

namespace ResourceTypes

/-- Whether every bit of the set has a name. -/
def Known (types : ResourceTypes) : Prop := types.unnamed = 0

/-- The known bits are the lowest twelve. -/
theorem known_iff {types : ResourceTypes} :
    types.Known ↔ ∀ i, 12 ≤ i → types.bits.toBitVec.getLsbD i = false := by
  have mask : ∀ i < 32, all.bits.toBitVec.getLsbD i = decide (i < 12) := by decide
  have unnamedBit : ∀ i < 32, types.unnamed.toBitVec.getLsbD i =
      (types.bits.toBitVec.getLsbD i && !decide (i < 12)) := by
    intro i inside
    rw [unnamed, UInt32.toBitVec_and, UInt32.toBitVec_not, BitVec.getLsbD_and, BitVec.getLsbD_not,
      mask i inside, decide_eq_true inside, Bool.true_and]
  constructor
  · intro known i high
    by_cases inside : i < 32
    · have bit := unnamedBit i inside
      rw [known, decide_eq_false (Nat.not_lt.2 high), Bool.not_false, Bool.and_true] at bit
      rw [← bit]
      simp
    · exact BitVec.getLsbD_of_ge _ i (Nat.not_lt.1 inside)
  · intro low
    apply UInt32.toBitVec_inj.1
    apply BitVec.eq_of_getLsbD_eq
    intro i inside
    rw [unnamedBit i inside]
    rcases Nat.lt_or_ge i 12 with named | high
    · simp [named]
    · simp [low i high]

theorem known_ofTypes (types : List ResourceType) : (ofTypes types).Known :=
  known_iff.2 fun _ high => getLsbD_ofTypes high

theorem known_empty : empty.Known := known_ofTypes []

theorem known_all : all.Known := by
  rw [Known]
  decide

theorem known_common : common.Known := known_ofTypes _

theorem known_only (t : ResourceType) : (only t).Known := by
  cases t <;> (rw [Known]; decide)

theorem Known.union {a b : ResourceTypes} (left : a.Known) (right : b.Known) :
    (a.union b).Known := by
  rw [known_iff] at *
  intro i high
  rw [ResourceTypes.union, UInt32.toBitVec_or, BitVec.getLsbD_or, left i high, right i high]
  rfl

/-- Whatever is taken from a set, known bits are left. -/
theorem known_without (a b : ResourceTypes) : (a.without b).Known := by
  rw [known_iff]
  intro i high
  have beyond := known_iff.1 known_all i high
  rw [without, UInt32.toBitVec_and, UInt32.toBitVec_and, BitVec.getLsbD_and, BitVec.getLsbD_and,
    beyond]
  simp

theorem known_foldl_union {sets : List ResourceTypes} (each : ∀ set ∈ sets, set.Known)
    {types : ResourceTypes} (known : types.Known) : (sets.foldl ResourceTypes.union types).Known := by
  induction sets generalizing types with
  | nil => exact known
  | cons head rest ih =>
    exact ih (fun set member => each set (List.mem_cons_of_mem _ member))
      (known.union (each head List.mem_cons_self))

/-- The types in a set of known types give it back. -/
theorem Known.ofTypes_toTypes {types : ResourceTypes} (known : types.Known) :
    ofTypes types.toTypes = types := by
  have whole := union_unnamed types
  rw [known] at whole
  have nothing : (ofTypes types.toTypes).union ⟨0⟩ = ofTypes types.toTypes := by
    simp [ResourceTypes.union]
  rw [← nothing, whole]

/-- Nothing is taken from a set of known types with the empty one. -/
theorem Known.without_empty {types : ResourceTypes} (known : types.Known) :
    types.without empty = types := by
  have same : (types.without empty).toTypes = types.toTypes :=
    List.filter_congr fun t _ => by rw [contains_without, contains_empty, Bool.not_false, Bool.and_true]
  rw [← (known_without types empty).ofTypes_toTypes, same, known.ofTypes_toTypes]

/-- The names of a set of known types give it back. -/
theorem ofNames_names {types : ResourceTypes} (known : types.Known) :
    ofNames types.names = types := by
  have named : types.names.filterMap ResourceType.ofName? = types.toTypes := by
    rw [names, List.filterMap_map]
    have same : ResourceType.ofName? ∘ ResourceType.name = some :=
      funext ResourceType.ofName?_name
    rw [same, List.filterMap_some]
  rw [ofNames, named, known.ofTypes_toTypes]

theorem known_ofOption? {option : String} {types : ResourceTypes}
    (named : ofOption? option = some types) : types.Known := by
  unfold ofOption? at named
  split at named
  all_goals first
    | cases named; exact known_only _
    | cases named; exact known_all
    | cases named

theorem known_ofSetting? {name : String} {types : ResourceTypes}
    (named : ofSetting? name = some types) : types.Known := by
  unfold ofSetting? at named
  cases option : ofOption? name with
  | some found =>
    rw [option] at named
    cases named
    exact known_ofOption? option
  | none =>
    rw [option] at named
    obtain ⟨t, -, rfl⟩ := Option.map_eq_some_iff.1 named
    exact known_only t

/-- The types that a setting names are known. -/
theorem known_settingDecoder {json : Json} {types : ResourceTypes}
    (decoded : settingDecoder json = .ok types) : types.Known := by
  obtain ⟨names, -, decoded⟩ := Decoder.exists_of_bind_eq_ok decoded
  obtain ⟨sets, named, decoded⟩ := Decoder.exists_of_bind_eq_ok decoded
  cases decoded
  refine known_foldl_union (fun set member => ?_) known_empty
  obtain ⟨name, -, found⟩ := Decoder.mem_of_mapM_eq_ok named set member
  split at found
  · rename_i setting
    cases found
    exact known_ofSetting? setting
  · cases found

end ResourceTypes

end ContentFilter
