import ContentFilter.Proofs.FilterPattern.Meaning

/-!
# How large the machines of a glob are

The machines of a glob in ASCII grow with the number of its parts, by the same bound whether or not letter
case counts.  So a glob of ordinary length is far from either limit, without a look at its machines.
-/

namespace ContentFilter

open Regex

/-- The part asks for no character beyond ASCII. -/
def GlobPart.IsAscii : GlobPart → Prop
  | .wildcard | .separator => True
  | .literal c => c.toNat < 128

namespace Glob

variable (caseSensitive : Bool) (direction : Direction)

/-! ## Pieces -/

theorem size_literal_le {c : Char} (ascii : c.toNat < 128) :
    ((GlobPart.literal c).toRegex caseSensitive).plan.size direction ≤ 2000 := by
  have each : ∀ caseSensitive,
      ((GlobPart.literal c).toRegex caseSensitive).plan.size .forward ≤ 2000 ∧
        ((GlobPart.literal c).toRegex caseSensitive).plan.size .backward ≤ 2000 :=
    Unicode.forall_ascii (p := fun c => ∀ caseSensitive,
        ((GlobPart.literal c).toRegex caseSensitive).plan.size .forward ≤ 2000 ∧
          ((GlobPart.literal c).toRegex caseSensitive).plan.size .backward ≤ 2000)
      (by decide +kernel) ascii
  cases direction with
  | forward => exact (each caseSensitive).1
  | backward => exact (each caseSensitive).2

/-- The states for a part. -/
theorem size_part_le {part : GlobPart} (ascii : part.IsAscii) :
    (part.toRegex caseSensitive).plan.size direction ≤ 2000 := by
  cases part with
  | literal c => exact size_literal_le caseSensitive direction ascii
  | wildcard | separator => cases caseSensitive <;> cases direction <;> decide +kernel

theorem sizes_parts_le {parts : List GlobPart} (ascii : ∀ part ∈ parts, part.IsAscii) :
    Plan.sizes direction (parts.map fun part => (part.toRegex caseSensitive).plan) ≤
      2000 * parts.length := by
  induction parts with
  | nil => exact Nat.le_refl _
  | cons part parts ih =>
    obtain ⟨first, behind⟩ := List.forall_mem_cons.1 ascii
    have head := size_part_le caseSensitive direction first
    have tail := ih behind
    rw [List.map_cons, Plan.sizes, List.length_cons]
    omega

theorem sizes_startPieces_le (anchor : GlobStart) :
    Plan.sizes direction ((startPieces caseSensitive anchor).map (·.2.plan)) ≤ 3000 := by
  cases anchor <;> cases caseSensitive <;> cases direction <;> decide +kernel

theorem sizes_endPieces_le (atEnd : Bool) :
    Plan.sizes direction ((endPieces atEnd).map (·.2.plan)) ≤ 32 := by
  cases atEnd <;> cases direction <;> decide

/-! ## Globs -/

theorem length_squeeze_le (inRun : Bool) (parts : List GlobPart) :
    (squeeze inRun parts).length ≤ parts.length := by
  induction parts generalizing inRun with
  | nil => exact Nat.le_refl _
  | cons part rest ih =>
    cases part with
    | wildcard =>
      have behind := ih true
      cases inRun <;> simp [squeeze] <;> omega
    | separator | literal => exact Nat.succ_le_succ (ih false)

variable {glob : Glob}

theorem length_spelled_le : glob.spelled.parts.length ≤ glob.parts.length + 1 := by
  rw [spelled]
  split
  · exact Nat.le_add_left _ _
  · exact Nat.le_succ_of_le (length_squeeze_le _ _)

theorem isAscii_spelled (ascii : ∀ part ∈ glob.parts, part.IsAscii) :
    ∀ part ∈ glob.spelled.parts, part.IsAscii := by
  intro part member
  rw [spelled] at member
  split at member
  · obtain rfl := List.mem_singleton.1 member
    exact trivial
  · exact ascii part (mem_squeeze member)

theorem size_toRegex_le (ascii : ∀ part ∈ glob.parts, part.IsAscii) :
    (glob.toRegex caseSensitive).plan.size direction ≤ 2000 * glob.parts.length + 6000 := by
  have whole := size_row_le direction ((glob.spelled.pieces caseSensitive).map (·.2))
  have plans : ((glob.spelled.pieces caseSensitive).map (·.2)).map plan =
      (startPieces caseSensitive glob.spelled.start).map (·.2.plan) ++
        (glob.spelled.parts.map (fun part => (part.toRegex caseSensitive).plan) ++
          (endPieces glob.spelled.atEnd).map (·.2.plan)) := by
    simp [pieces, Function.comp_def]
  rw [plans, Plan.sizes_append, Plan.sizes_append] at whole
  have start := sizes_startPieces_le caseSensitive direction glob.spelled.start
  have inside := sizes_parts_le caseSensitive direction (isAscii_spelled ascii)
  have ends := sizes_endPieces_le direction glob.spelled.atEnd
  have short := @length_spelled_le glob
  have states : Plan.stateSize = 32 := rfl
  rw [toRegex]
  omega

/-- A glob in ASCII fits where there is room for its parts. -/
theorem fits_toRegex (ascii : ∀ part ∈ glob.parts, part.IsAscii) {maxSize : Nat}
    (room : 2000 * glob.parts.length + 7000 ≤ maxSize) :
    (glob.toRegex caseSensitive).plan.fits maxSize := by
  refine Plan.fits_of_size_le fun direction => ?_
  have := size_toRegex_le caseSensitive direction ascii
  omega

theorem isAscii_partOf {c : Char} (ascii : c.toNat < 128) : (partOf c).IsAscii := by
  unfold partOf
  split
  · exact trivial
  · split
    · exact trivial
    · exact ascii

/-- A glob has no more parts than its text has characters, and asks for none but them. -/
theorem parts_ofText {text : List Char} (ascii : ∀ c ∈ text, c.toNat < 128) :
    (ofText text).parts.length ≤ text.length ∧ ∀ part ∈ (ofText text).parts, part.IsAscii := by
  obtain ⟨body, whole, parts, -, -⟩ := isWrittenAs_iff.2 (Eq.refl (ofText text))
  have among : ∀ c ∈ body, c ∈ text := fun c member => by
    rw [whole]
    simp [member]
  rw [parts]
  constructor
  · have lengths := congrArg List.length whole
    simp only [List.length_append, List.length_map] at lengths ⊢
    omega
  · intro part member
    obtain ⟨c, inBody, rfl⟩ := List.mem_map.1 member
    exact isAscii_partOf (ascii c (among c inBody))

end Glob

namespace FilterPattern

/-- The pattern is a glob in ASCII of at most 5000 characters, white space around it apart. -/
structure IsShortGlob (raw : String) : Prop where
  isGlob : ∀ inner ≠ [], Text.trim raw.toList ≠ '/' :: inner ++ ['/']
  ascii : ∀ c ∈ Text.trim raw.toList, c.toNat < 128
  short : (Text.trim raw.toList).length ≤ 5000

/-- The translation of a short glob is loaded, whether or not letter case counts. -/
theorem IsShortGlob.isSome_load? {raw : String} (isShort : IsShortGlob raw) (caseSensitive : Bool) :
    (load? caseSensitive (translate raw)).isSome := by
  obtain ⟨parts, ascii⟩ := Glob.parts_ofText isShort.ascii
  have short := isShort.short
  have limit : maxLoadedSize = 10485760 := rfl
  have fits : ((Glob.ofText (Text.trim raw.toList)).toRegex caseSensitive).plan.fits maxLoadedSize :=
    Glob.fits_toRegex caseSensitive ascii (by omega)
  rw [load?, translate_of_glob isShort.isGlob,
    Glob.compile_regexText caseSensitive (Glob.writable_ofText _), if_pos fits]
  rfl

end FilterPattern

end ContentFilter
