import ContentFilter.IdSpace.Lemmas
import Mathlib.Data.List.Nodup

/-!
# Tables of bands

Which tables of bands are accepted: those whose bands hold ids above zero, belong to different
categories, and follow one another.  Only neighbours are compared, and this is enough, as a band ends
above its start.  In an accepted table an id lies in one band at most, so it tells its category.
-/

namespace ContentFilter

namespace IdSpace

/-! ## Acceptance -/

/-- Bands that hold ids above zero, belong to different categories, and follow one another. -/
structure Valid (ranges : List IdRange) : Prop where
  bands : ∀ range ∈ ranges, 0 < range.start ∧ range.start < range.stop
  categories : (ranges.map (·.category)).Nodup
  ordered : ranges.Pairwise fun a b => a.stop ≤ b.start

/-- Bands that can stand behind those already read, the last of which is `before`'s first. -/
structure Continues (before ranges : List IdRange) : Prop where
  apart : ∀ earlier ∈ before, ∀ range ∈ ranges, earlier.category ≠ range.category
  above : ∀ last ∈ before.head?, ∀ range ∈ ranges, last.stop ≤ range.start

/-- The checks that a band passes when it is read. -/
theorem firstFault?_cons_eq_none_iff {before rest : List IdRange} {head : IdRange} :
    firstFault? before (head :: rest) = none ↔
      (0 < head.start ∧ head.start < head.stop) ∧
        (∀ earlier ∈ before, earlier.category ≠ head.category) ∧
        (∀ last ∈ before.head?, last.stop ≤ head.start) ∧
        firstFault? (head :: before) rest = none := by
  have holds : (head.start = 0 || head.stop ≤ head.start) = false ↔
      0 < head.start ∧ head.start < head.stop := by
    simp only [Bool.or_eq_false_iff, decide_eq_false_iff_not]
    omega
  have new : before.any (·.category == head.category) = false ↔
      ∀ earlier ∈ before, earlier.category ≠ head.category := by
    simp only [List.any_eq_false, beq_iff_eq, ne_eq]
  rw [firstFault?, ← holds, ← new]
  split
  · rename_i empty
    simp [empty]
  split
  · rename_i known
    simp [known]
  rename_i filled fresh
  rw [Bool.not_eq_true] at filled fresh
  cases before.head? with
  | none => simp [filled, fresh]
  | some last =>
    simp only [Option.mem_some_iff, forall_eq', filled, fresh, true_and]
    split
    · rename_i overlaps
      simp [Nat.not_le.2 overlaps]
    · rename_i follows
      simp [Nat.not_lt.1 follows]

/-- A table has no fault if it is valid and goes on from the bands already read. -/
theorem firstFault?_eq_none_iff {before ranges : List IdRange} :
    firstFault? before ranges = none ↔ Valid ranges ∧ Continues before ranges := by
  -- on the bands left to read; those read before only grow in front of them
  induction ranges generalizing before with
  | nil =>
    refine iff_of_true rfl ⟨⟨?_, List.nodup_nil, .nil⟩, ?_, ?_⟩ <;> simp
  | cons head rest ih =>
    rw [firstFault?_cons_eq_none_iff, ih]
    constructor
    · rintro ⟨band, new, follows, valid, continues⟩
      have higher : ∀ range ∈ rest, head.stop ≤ range.start := continues.above head rfl
      refine ⟨⟨List.forall_mem_cons.2 ⟨band, valid.bands⟩, ?_, .cons higher valid.ordered⟩, ?_, ?_⟩
      · rw [List.map_cons, List.nodup_cons]
        refine ⟨fun among => ?_, valid.categories⟩
        obtain ⟨range, after, same⟩ := List.mem_map.1 among
        exact continues.apart head List.mem_cons_self range after same.symm
      · intro earlier among
        exact List.forall_mem_cons.2
          ⟨new earlier among, continues.apart earlier (List.mem_cons_of_mem _ among)⟩
      · intro last found
        refine List.forall_mem_cons.2 ⟨follows last found, fun range after => ?_⟩
        -- the band in between holds ids, so its start lies below its end
        calc last.stop ≤ head.start := follows last found
          _ ≤ head.stop := Nat.le_of_lt band.2
          _ ≤ range.start := higher range after
    · rintro ⟨valid, continues⟩
      obtain ⟨band, bands⟩ := List.forall_mem_cons.1 valid.bands
      obtain ⟨new, categories⟩ := List.nodup_cons.1 (List.map_cons ▸ valid.categories)
      obtain ⟨higher, ordered⟩ := List.pairwise_cons.1 valid.ordered
      refine ⟨band, fun earlier among => continues.apart earlier among head List.mem_cons_self,
        fun last found => continues.above last found head List.mem_cons_self,
        ⟨bands, categories, ordered⟩, ?_, ?_⟩
      · refine List.forall_mem_cons.2 ⟨fun range after same => ?_, fun earlier among range after => ?_⟩
        · exact new (List.mem_map.2 ⟨range, after, same.symm⟩)
        · exact continues.apart earlier among range (List.mem_cons_of_mem _ after)
      · rintro last ⟨⟩
        exact higher

theorem ofRanges_eq_ok_iff {ranges : List IdRange} {space : IdSpace} :
    ofRanges ranges = .ok space ↔ (ranges ≠ [] ∧ Valid ranges) ∧ space = ⟨ranges⟩ := by
  have anew : Continues [] ranges := ⟨by simp, by simp⟩
  have faultless : firstFault? [] ranges = none ↔ Valid ranges := by
    rw [firstFault?_eq_none_iff, and_iff_left anew]
  unfold ofRanges
  split
  · rename_i empty
    simp [List.isEmpty_iff.1 empty]
  · rename_i nonempty
    rw [List.isEmpty_iff] at nonempty
    split
    · rename_i fault found
      rw [found] at faultless
      simp [← faultless]
    · rename_i none
      simp [nonempty, faultless.1 none, eq_comm]

theorem valid_of_ofRanges {ranges : List IdRange} {space : IdSpace}
    (accepted : ofRanges ranges = .ok space) : Valid space.ranges := by
  obtain ⟨⟨-, valid⟩, rfl⟩ := ofRanges_eq_ok_iff.1 accepted
  exact valid

/-! ## Owners of ids -/

/-- No id lies in two bands. -/
theorem eq_of_contains {ranges : List IdRange} (ordered : ranges.Pairwise fun a b => a.stop ≤ b.start)
    {a b : IdRange} (first : a ∈ ranges) (second : b ∈ ranges) {id : Nat} (inFirst : a.contains id)
    (inSecond : b.contains id) : a = b := by
  simp only [IdRange.contains, Bool.and_eq_true, decide_eq_true_iff] at inFirst inSecond
  induction ranges with
  | nil => cases first
  | cons head rest ih =>
    have above : ∀ range ∈ rest, head.stop ≤ range.start := fun _ =>
      List.rel_of_pairwise_cons ordered
    rcases List.mem_cons.1 first with rfl | firstLater
    · rcases List.mem_cons.1 second with rfl | secondLater
      · rfl
      · have := above b secondLater
        omega
    · rcases List.mem_cons.1 second with rfl | secondLater
      · have := above a firstLater
        omega
      · exact ih (List.Pairwise.of_cons ordered) firstLater secondLater

theorem category_of_range? {space : IdSpace} {category : Category} {range : IdRange}
    (found : space.range? category = some range) : range.category = category := by
  simpa using List.find?_some found

section Table

variable {space : IdSpace} (valid : Valid space.ranges)
include valid

/-- The band of a category is the one that the table has for it. -/
theorem range?_eq_some_iff {category : Category} {range : IdRange} :
    space.range? category = some range ↔ range ∈ space.ranges ∧ range.category = category := by
  constructor
  · intro found
    exact ⟨List.mem_of_find?_eq_some found, category_of_range? found⟩
  · rintro ⟨member, rfl⟩
    obtain ⟨other, found⟩ : ∃ other, space.range? range.category = some other :=
      Option.isSome_iff_exists.1 (List.find?_isSome.2 ⟨range, member, beq_self_eq_true _⟩)
    have same : other = range := List.inj_on_of_nodup_map valid.categories
      (List.mem_of_find?_eq_some found) member (category_of_range? found)
    rw [found, same]

/-- An id tells the category in whose band it lies. -/
theorem categoryOf?_eq_some_iff {id : Nat} {category : Category} :
    space.categoryOf? id = some category ↔
      ∃ range, space.range? category = some range ∧ range.contains id := by
  rw [categoryOf?, Option.map_eq_some_iff]
  constructor
  · rintro ⟨range, found, rfl⟩
    have member := List.mem_of_find?_eq_some found
    have inside : range.contains id := by simpa using List.find?_some found
    exact ⟨range, (range?_eq_some_iff valid).2 ⟨member, rfl⟩, inside⟩
  · rintro ⟨range, declared, inside⟩
    obtain ⟨member, named⟩ := (range?_eq_some_iff valid).1 declared
    obtain ⟨other, found⟩ : ∃ other, space.ranges.find? (·.contains id) = some other :=
      Option.isSome_iff_exists.1 (List.find?_isSome.2 ⟨range, member, inside⟩)
    have shared : other.contains id := by simpa using List.find?_some found
    have same : other = range := eq_of_contains valid.ordered (List.mem_of_find?_eq_some found)
      member shared inside
    exact ⟨other, found, same ▸ named⟩

end Table

/-- Whether a category owns an id. -/
def Owns (space : IdSpace) (category : Category) (id : Nat) : Prop :=
  ∃ range, space.range? category = some range ∧ range.contains id

/-- Exactly the valid tables are accepted, and in these every id has the category that owns it, which no
other one does. -/
theorem ofRanges_accepts (ranges : List IdRange) :
    ((∃ space, ofRanges ranges = .ok space) ↔
      ranges ≠ [] ∧ (∀ range ∈ ranges, 1 ≤ range.start ∧ range.start < range.stop) ∧
        (ranges.map (·.category)).Nodup ∧
        ∀ (i j : Nat) (_ : i < ranges.length) (_ : j < ranges.length),
          i < j → ranges[i].stop ≤ ranges[j].start) ∧
      ∀ space, ofRanges ranges = .ok space → space.ranges = ranges ∧
        (∀ id category, space.categoryOf? id = some category ↔ space.Owns category id) ∧
        ∀ id first second, space.Owns first id → space.Owns second id → first = second := by
  constructor
  · have pairs := List.pairwise_iff_getElem (R := fun a b : IdRange => a.stop ≤ b.start) (l := ranges)
    rw [← pairs]
    constructor
    · rintro ⟨space, accepted⟩
      obtain ⟨⟨nonempty, valid⟩, -⟩ := ofRanges_eq_ok_iff.1 accepted
      exact ⟨nonempty, valid.bands, valid.categories, valid.ordered⟩
    · rintro ⟨nonempty, bands, categories, ordered⟩
      exact ⟨⟨ranges⟩, ofRanges_eq_ok_iff.2 ⟨⟨nonempty, bands, categories, ordered⟩, rfl⟩⟩
  · intro space accepted
    obtain ⟨⟨-, valid⟩, rfl⟩ := ofRanges_eq_ok_iff.1 accepted
    have owner (id : Nat) (category : Category) : (IdSpace.mk ranges).categoryOf? id = some category ↔
        (IdSpace.mk ranges).Owns category id := categoryOf?_eq_some_iff valid
    refine ⟨rfl, owner, fun id first second isFirst isSecond => ?_⟩
    exact Option.some.inj (((owner id first).2 isFirst).symm.trans ((owner id second).2 isSecond))

/-- Bands that touch one another, the last of which ends at the top of a word of 32 bits. -/
def touchingBands : List IdRange :=
  [⟨.malware, 1, 2⟩, ⟨.ads, 2, 4294967294⟩, ⟨.custom, 4294967294, 4294967295⟩]

theorem ofRanges_accepts_touchingBands :
    ofRanges touchingBands = .ok ⟨touchingBands⟩ ∧
      (IdSpace.mk touchingBands).Owns .custom 4294967294 ∧
      (IdSpace.mk touchingBands).categoryOf? 4294967294 = some .custom ∧
      ¬ (IdSpace.mk touchingBands).Owns .ads 4294967294 ∧
      ¬ ∃ space, ofRanges touchingBands.reverse = .ok space := by
  have accepted : ofRanges touchingBands = .ok ⟨touchingBands⟩ := by decide
  have owned : (IdSpace.mk touchingBands).Owns .custom 4294967294 :=
    ⟨⟨.custom, 4294967294, 4294967295⟩, by decide, by decide⟩
  obtain ⟨-, owner, unique⟩ := (ofRanges_accepts touchingBands).2 _ accepted
  refine ⟨accepted, owned, (owner _ _).2 owned, fun shared => ?_, fun reversed => ?_⟩
  · cases unique _ _ _ owned shared
  · obtain ⟨-, -, -, ordered⟩ := (ofRanges_accepts _).1.1 reversed
    exact absurd (ordered 0 1 (by decide) (by decide) (by decide)) (by decide)

end IdSpace

end ContentFilter
