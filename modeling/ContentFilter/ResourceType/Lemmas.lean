import ContentFilter.ResourceType

/-!
# Laws of sets of resource types

Which types a set contains after each operation: every type has a bit of its own.
-/

namespace ContentFilter

namespace ResourceType

@[simp] theorem mem_all (t : ResourceType) : t ∈ all := by cases t <;> decide

@[simp] theorem ofName?_name (t : ResourceType) : ofName? t.name = some t := by cases t <;> rfl

/-- The place of the bit of a type. -/
def index (t : ResourceType) : Nat := all.idxOf t

theorem index_lt (t : ResourceType) : t.index < 32 := by cases t <;> decide

theorem toBitVec_bit (t : ResourceType) : t.bit.toBitVec = BitVec.twoPow 32 t.index := by
  cases t <;> rfl

end ResourceType

namespace ResourceTypes

/-- Of a set and the mask of a single type at most the bit of the type is left. -/
theorem and_bit (types : ResourceTypes) (t : ResourceType) :
    types.bits &&& t.bit = if types.bits.toBitVec.getLsbD t.index then t.bit else 0 := by
  have bits : (types.bits &&& t.bit).toBitVec =
      if types.bits.toBitVec.getLsbD t.index then t.bit.toBitVec else 0#32 := by
    rw [UInt32.toBitVec_and, t.toBitVec_bit, BitVec.and_twoPow]
  split
  · rename_i known
    rw [if_pos known] at bits
    exact UInt32.toBitVec_inj.1 bits
  · rename_i unknown
    rw [if_neg unknown] at bits
    exact UInt32.toBitVec_inj.1 bits

theorem bit_ne_zero (t : ResourceType) : t.bit ≠ 0 := by cases t <;> decide

/-- A type is in a set if its bit is set. -/
theorem contains_eq_getLsbD (types : ResourceTypes) (t : ResourceType) :
    types.contains t = types.bits.toBitVec.getLsbD t.index := by
  rw [contains, and_bit]
  cases types.bits.toBitVec.getLsbD t.index with
  | true => exact beq_self_eq_true t.bit
  | false => exact beq_eq_false_iff_ne.2 (bit_ne_zero t).symm

/-- A set meets a single type if it contains the type. -/
theorem intersects_only (types : ResourceTypes) (t : ResourceType) :
    types.intersects (only t) = types.contains t := by
  show (!(types.bits &&& t.bit == 0)) = _
  rw [contains_eq_getLsbD, and_bit]
  cases types.bits.toBitVec.getLsbD t.index with
  | true =>
    have nonzero : (t.bit == 0) = false := beq_eq_false_iff_ne.2 (bit_ne_zero t)
    rw [if_pos rfl, nonzero]
    rfl
  | false => rfl

@[simp] theorem contains_empty (t : ResourceType) : empty.contains t = false := by
  cases t <;> rfl

@[simp] theorem contains_all (t : ResourceType) : all.contains t = true := by
  cases t <;> rfl

@[simp] theorem contains_only (t wanted : ResourceType) :
    (only t).contains wanted = (t == wanted) := by
  cases t <;> cases wanted <;> rfl

@[simp] theorem contains_union (a b : ResourceTypes) (t : ResourceType) :
    (a.union b).contains t = (a.contains t || b.contains t) := by
  simp [contains_eq_getLsbD, union]

@[simp] theorem contains_inter (a b : ResourceTypes) (t : ResourceType) :
    (a.inter b).contains t = (a.contains t && b.contains t) := by
  simp [contains_eq_getLsbD, inter]

@[simp] theorem contains_without (a b : ResourceTypes) (t : ResourceType) :
    (a.without b).contains t = (a.contains t && !b.contains t) := by
  have known : all.bits.toBitVec.getLsbD t.index = true := by
    rw [← contains_eq_getLsbD, contains_all]
  rw [contains_eq_getLsbD, contains_eq_getLsbD, contains_eq_getLsbD, without, UInt32.toBitVec_and,
    UInt32.toBitVec_and, UInt32.toBitVec_not, BitVec.getLsbD_and, BitVec.getLsbD_and, known,
    BitVec.getLsbD_not, Bool.true_and, decide_eq_true t.index_lt, Bool.true_and]

@[simp] theorem contains_ofTypes (types : List ResourceType) (t : ResourceType) :
    (ofTypes types).contains t = types.contains t := by
  have step : ∀ set : ResourceTypes,
      (types.foldl (fun set t => set.union (only t)) set).contains t =
        (set.contains t || types.contains t) := by
    induction types with
    | nil => simp
    | cons head rest ih =>
      intro set
      rw [List.foldl_cons, ih, contains_union, contains_only, List.contains_cons, Bool.or_assoc,
        Bool.beq_comm (a := head)]
  rw [ofTypes, step, contains_empty, Bool.false_or]

@[simp] theorem mem_toTypes {types : ResourceTypes} {t : ResourceType} :
    t ∈ types.toTypes ↔ types.contains t := by
  simp [toTypes]

/-! ## Sets one after another -/

theorem union_right_comm (a b c : ResourceTypes) : (a.union b).union c = (a.union c).union b := by
  simp only [union, UInt32.or_assoc, UInt32.or_comm b.bits]

/-- Types that are taken away one after another are taken away together. -/
theorem without_union (types a b : ResourceTypes) :
    types.without (a.union b) = (types.without a).without b := by
  simp only [without, union, mk.injEq]
  apply UInt32.toBitVec_inj.1
  apply BitVec.eq_of_getLsbD_eq
  intro i inside
  simp only [UInt32.toBitVec_and, UInt32.toBitVec_or, UInt32.toBitVec_not, BitVec.getLsbD_and,
    BitVec.getLsbD_or, BitVec.getLsbD_not, inside, decide_true, Bool.true_and, Bool.not_or]
  cases all.bits.toBitVec.getLsbD i <;> simp [Bool.and_assoc]

/-- Every option that names types names one. -/
theorem isEmpty_ofOption? {name : String} {types : ResourceTypes}
    (named : ofOption? name = some types) : types.isEmpty = false := by
  unfold ofOption? at named
  split at named <;> cases named <;> rfl

end ResourceTypes

end ContentFilter
