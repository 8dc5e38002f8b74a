import ContentFilter.Unicode.RangeTable

/-!
# The algebra of range tables

Union, intersection and complement of sets of characters that are kept as range tables.  Results are
in normal form: ranges in ascending order that neither overlap nor touch.

`contains_union`, `contains_complement` and `contains_inter` say that membership follows the
operations.
-/

namespace ContentFilter.Unicode.RangeTable

/-- The table with one more range; ranges that overlap or touch become one. -/
def insert (low high : Nat) : RangeTable → RangeTable
  | [] => [(low, high)]
  | (first, last) :: rest =>
    if last + 1 < low then (first, last) :: insert low high rest
    else if high + 1 < first then (low, high) :: (first, last) :: rest
    else insert (min low first) (max high last) rest

/-- The characters of either table. -/
def union (a b : RangeTable) : RangeTable :=
  a.foldr (fun range rest => if range.1 ≤ range.2 then insert range.1 range.2 rest else rest) b

/-- The table in normal form. -/
def normalize (table : RangeTable) : RangeTable := union table []

/-- The largest code point. -/
def maxCode : Nat := 0x10ffff

/-- The code points that encode halves of characters and are no characters themselves. -/
def surrogates : Nat × Nat := (0xd800, 0xdfff)

/-- The code points from `start` on that a table leaves out, when its ranges ascend. -/
def gaps (start : Nat) : RangeTable → RangeTable
  | [] => if start ≤ maxCode then [(start, maxCode)] else []
  | (first, last) :: rest =>
    (if start < first then [(start, first - 1)] else []) ++ gaps (max start (last + 1)) rest

/-- The characters that are not in the table. -/
def complement (table : RangeTable) : RangeTable := gaps 0 (normalize (surrogates :: table))

/-- The characters of both tables. -/
def inter (a b : RangeTable) : RangeTable := complement (union (complement a) (complement b))

/-! ## Membership -/

/-- The code point is in some range. -/
def Has (table : RangeTable) (n : Nat) : Prop := ∃ range ∈ table, range.1 ≤ n ∧ n ≤ range.2

theorem holds_iff {table : RangeTable} {n : Nat} : table.holds n ↔ table.Has n := by
  simp [holds, Has]

theorem contains_iff {table : RangeTable} {c : Char} : table.contains c ↔ table.Has c.toNat :=
  holds_iff

theorem has_nil {n : Nat} : ¬ Has [] n := by
  simp [Has]

theorem has_cons {range : Nat × Nat} {rest : RangeTable} {n : Nat} :
    Has (range :: rest) n ↔ (range.1 ≤ n ∧ n ≤ range.2) ∨ Has rest n := by
  simp [Has]

theorem has_append {a b : RangeTable} {n : Nat} : Has (a ++ b) n ↔ a.Has n ∨ b.Has n := by
  simp [Has, or_and_right, exists_or]

theorem has_insert {low high n : Nat} {table : RangeTable} :
    Has (insert low high table) n ↔ (low ≤ n ∧ n ≤ high) ∨ table.Has n := by
  induction table generalizing low high with
  | nil => simp [insert, Has]
  | cons range rest ih =>
    simp only [insert]
    split
    · rw [has_cons, has_cons, ih]
      exact or_left_comm
    · split
      · rw [has_cons]
      · rw [ih, has_cons]
        by_cases mem : Has rest n
        · simp [mem]
        · simp only [mem, or_false]
          omega

theorem has_union {a b : RangeTable} {n : Nat} : (union a b).Has n ↔ a.Has n ∨ b.Has n := by
  induction a with
  | nil => simp [union, Has]
  | cons range rest ih =>
    simp only [union, List.foldr_cons] at ih ⊢
    split
    · rw [has_insert, ih, has_cons]
      exact or_assoc.symm
    · have empty : ¬ (range.1 ≤ n ∧ n ≤ range.2) := by omega
      simp only [ih, has_cons, empty, false_or]

/-- The table is in normal form. -/
def IsNormal (table : RangeTable) : Prop :=
  (∀ range ∈ table, range.1 ≤ range.2) ∧ table.Pairwise fun a b => a.2 + 1 < b.1

theorem lt_of_mem_insert {bound low high : Nat} {table : RangeTable} (lt : bound < low)
    (later : ∀ range ∈ table, bound < range.1) : ∀ range ∈ insert low high table, bound < range.1 := by
  induction table generalizing low high with
  | nil => simpa [insert] using lt
  | cons range rest ih =>
    obtain ⟨first, later⟩ := List.forall_mem_cons.1 later
    simp only [insert]
    split
    · exact List.forall_mem_cons.2 ⟨first, ih lt later⟩
    · split
      · exact List.forall_mem_cons.2 ⟨lt, List.forall_mem_cons.2 ⟨first, later⟩⟩
      · exact ih (Nat.lt_min.2 ⟨lt, first⟩) later

theorem IsNormal.insert {low high : Nat} {table : RangeTable} (le : low ≤ high)
    (normal : IsNormal table) : IsNormal (insert low high table) := by
  induction table generalizing low high with
  | nil => simpa [RangeTable.insert, IsNormal] using le
  | cons range rest ih =>
    obtain ⟨full, apart⟩ := normal
    obtain ⟨fullFirst, fullRest⟩ := List.forall_mem_cons.1 full
    obtain ⟨first, apart⟩ := List.pairwise_cons.1 apart
    simp only [RangeTable.insert]
    split
    · rename_i before
      obtain ⟨fullInsert, apartInsert⟩ := ih le ⟨fullRest, apart⟩
      exact ⟨List.forall_mem_cons.2 ⟨fullFirst, fullInsert⟩,
        List.pairwise_cons.2 ⟨lt_of_mem_insert before first, apartInsert⟩⟩
    · split
      · rename_i behind
        refine ⟨List.forall_mem_cons.2 ⟨le, full⟩, List.pairwise_cons.2 ⟨?_,
          List.pairwise_cons.2 ⟨first, apart⟩⟩⟩
        refine List.forall_mem_cons.2 ⟨behind, fun r mem => ?_⟩
        have := first r mem
        omega
      · exact ih (by omega) ⟨fullRest, apart⟩

theorem IsNormal.union {a b : RangeTable} (normal : IsNormal b) : IsNormal (union a b) := by
  induction a with
  | nil => exact normal
  | cons range rest ih =>
    simp only [RangeTable.union, List.foldr_cons] at ih ⊢
    split
    · rename_i le
      exact ih.insert le
    · exact ih

theorem isNormal_normalize (table : RangeTable) : IsNormal (normalize table) :=
  IsNormal.union ⟨by simp, .nil⟩

theorem has_gaps {start n : Nat} {table : RangeTable} (normal : IsNormal table) (valid : n ≤ maxCode) :
    Has (gaps start table) n ↔ start ≤ n ∧ ¬ table.Has n := by
  induction table generalizing start with
  | nil =>
    by_cases room : start ≤ maxCode
    · simp [gaps, room, Has, valid]
    · simp only [gaps, room, if_false, has_nil, false_iff]
      omega
  | cons range rest ih =>
    obtain ⟨full, apart⟩ := normal
    obtain ⟨fullFirst, fullRest⟩ := List.forall_mem_cons.1 full
    obtain ⟨first, apart⟩ := List.pairwise_cons.1 apart
    have behind : Has rest n → range.2 < n := fun ⟨r, mem, le, _⟩ => by
      have := first r mem
      omega
    have gap : Has (if start < range.1 then [(start, range.1 - 1)] else []) n ↔
        start ≤ n ∧ n < range.1 := by
      split
      · simp only [has_cons, has_nil, or_false]
        omega
      · simp only [has_nil, false_iff]
        omega
    rw [gaps, has_append, gap, ih ⟨fullRest, apart⟩, has_cons]
    by_cases mem : Has rest n
    · have := behind mem
      simp only [mem, not_true_eq_false, and_false, or_false, or_true, iff_false]
      omega
    · simp only [mem, not_false_eq_true, and_true, or_false]
      omega

@[simp] theorem contains_union {a b : RangeTable} {c : Char} :
    (union a b).contains c = (a.contains c || b.contains c) :=
  Bool.eq_iff_iff.2 <| by
    rw [Bool.or_eq_true, contains_iff, contains_iff, contains_iff, has_union]

@[simp] theorem contains_normalize {table : RangeTable} {c : Char} :
    (normalize table).contains c = table.contains c :=
  Bool.eq_iff_iff.2 <| by
    rw [contains_iff, contains_iff, normalize, has_union, or_iff_left has_nil]

@[simp] theorem contains_complement {table : RangeTable} {c : Char} :
    (complement table).contains c = !table.contains c := by
  have valid : c.toNat ≤ maxCode ∧ ¬ (0xd800 ≤ c.toNat ∧ c.toNat ≤ 0xdfff) := by
    have := c.valid
    simp only [UInt32.isValidChar, Nat.isValidChar, Char.toNat, maxCode] at this ⊢
    omega
  refine Bool.eq_iff_iff.2 ?_
  rw [Bool.not_eq_true', ← Bool.not_eq_true, contains_iff, contains_iff, complement,
    has_gaps (isNormal_normalize _) valid.1, normalize, has_union, has_cons]
  simp [surrogates, valid.2, has_nil]

@[simp] theorem contains_inter {a b : RangeTable} {c : Char} :
    (inter a b).contains c = (a.contains c && b.contains c) := by
  simp [inter]

end ContentFilter.Unicode.RangeTable
