import ContentFilter.ResourceType.Lemmas
import ContentFilter.ResourceType.Mask
import ContentFilter.Text.Lemmas
import Mathlib.Data.Nat.Init

/-!
# The text of a mask reads back

Every mask of 32 bits is read back from its text, those with bits that have no name among them.
-/

namespace ContentFilter

namespace ResourceTypes

/-! ## Bits -/

/-- Every one of the lowest twelve bits is that of a type. -/
theorem exists_index {i : Nat} (low : i < 12) : ∃ t : ResourceType, t.index = i := by
  have all : ∀ i < 12, (ResourceType.all.getD i .other).index = i := by decide
  exact ⟨_, all i low⟩

theorem index_lt_twelve (t : ResourceType) : t.index < 12 := by cases t <;> decide

/-- Sets of known types have no higher bit. -/
theorem getLsbD_ofTypes {types : List ResourceType} {i : Nat} (high : 12 ≤ i) :
    (ofTypes types).bits.toBitVec.getLsbD i = false := by
  have step : ∀ set : ResourceTypes, set.bits.toBitVec.getLsbD i = false →
      (types.foldl (fun set t => set.union (only t)) set).bits.toBitVec.getLsbD i = false := by
    induction types with
    | nil =>
      intro set none
      exact none
    | cons head rest ih =>
      intro set none
      apply ih
      have other : head.index ≠ i := by
        have := index_lt_twelve head
        omega
      show (set.bits ||| head.bit).toBitVec.getLsbD i = false
      rw [UInt32.toBitVec_or, head.toBitVec_bit, BitVec.getLsbD_or, none, BitVec.getLsbD_twoPow]
      simp [other]
  exact step empty (by simp [empty])

/-- A set is made up of its known types and its bits without a name. -/
theorem union_unnamed (types : ResourceTypes) :
    (ofTypes types.toTypes).union ⟨types.unnamed⟩ = types := by
  have bits : ((ofTypes types.toTypes).bits ||| types.unnamed).toBitVec = types.bits.toBitVec := by
    apply BitVec.eq_of_getLsbD_eq
    intro i inside
    rw [UInt32.toBitVec_or, BitVec.getLsbD_or, unnamed, UInt32.toBitVec_and, UInt32.toBitVec_not,
      BitVec.getLsbD_and, BitVec.getLsbD_not, decide_eq_true inside, Bool.true_and]
    rcases Nat.lt_or_ge i 12 with low | high
    · obtain ⟨t, rfl⟩ := exists_index low
      have known := contains_all t
      rw [contains_eq_getLsbD] at known
      rw [← contains_eq_getLsbD, contains_ofTypes, known, ← contains_eq_getLsbD]
      simp [toTypes]
    · have beyond : ∀ i < 32, 12 ≤ i → all.bits.toBitVec.getLsbD i = false := by decide
      have unknown := beyond i inside high
      rw [getLsbD_ofTypes high, unknown]
      simp
  exact congrArg ResourceTypes.mk (UInt32.toBitVec_inj.1 bits)

/-! ## Numbers -/

theorem hexDigit?_digitChar {n : Nat} (small : n < 16) : hexDigit? n.digitChar = some n := by
  have all : ∀ n < 16, hexDigit? n.digitChar = some n := by decide
  exact all n small

theorem mem_toDigits {n : Nat} {c : Char} (member : c ∈ Nat.toDigits 16 n) :
    ∃ digit < 16, c = digit.digitChar := by
  induction n using Nat.strongRecOn with
  | _ n ih =>
    rw [Nat.toDigits_eq_if (by decide)] at member
    split at member
    · rename_i small
      exact ⟨n, small, List.mem_singleton.1 member⟩
    · rcases List.mem_append.1 member with earlier | last
      · exact ih (n / 16) (by omega) earlier
      · exact ⟨n % 16, Nat.mod_lt n (by decide), List.mem_singleton.1 last⟩

/-- Written digits have the values that make up the number. -/
theorem mapM_hexDigit? (n : Nat) :
    ∃ values, (Nat.toDigits 16 n).mapM hexDigit? = some values ∧
      values.foldl (fun n digit => n * 16 + digit) 0 = n := by
  induction n using Nat.strongRecOn with
  | _ n ih =>
    rw [Nat.toDigits_eq_if (by decide)]
    split
    · rename_i small
      refine ⟨[n], ?_, by simp⟩
      simp [hexDigit?_digitChar small]
    · obtain ⟨values, digits, value⟩ := ih (n / 16) (by omega)
      refine ⟨values ++ [n % 16], ?_, ?_⟩
      · rw [List.mapM_append, digits]
        simp [hexDigit?_digitChar (Nat.mod_lt n (by decide : 16 > 0))]
      · rw [List.foldl_append, value]
        show n / 16 * 16 + n % 16 = n
        omega

/-- A written number is read back. -/
theorem hexNumber?_toDigits (bits : UInt32) :
    hexNumber? (Nat.toDigits 16 bits.toNat) = some bits := by
  obtain ⟨values, digits, value⟩ := mapM_hexDigit? bits.toNat
  have nonempty := @Nat.toDigits_ne_nil bits.toNat 16
  have unsigned : Text.stripStart? ['+'] (Nat.toDigits 16 bits.toNat) = none := by
    rcases same : Nat.toDigits 16 bits.toNat with _ | ⟨d, rest⟩
    · exact absurd same nonempty
    · obtain ⟨digit, small, rfl⟩ := mem_toDigits (same ▸ List.mem_cons_self)
      simp [Text.stripStart?]
  have fits : bits.toNat < UInt32.size := bits.toNat_lt
  rw [hexNumber?]
  simp only [unsigned, Option.getD_none, List.isEmpty_iff, nonempty, if_false, digits,
    Option.bind_eq_bind, Option.bind_some, value, if_pos fits, UInt32.ofNat_toNat]

/-! ## Flags -/

/-- A text that can stand between bars. -/
structure IsFlag (flag : List Char) : Prop where
  nonempty : flag ≠ []
  noBar : ∀ c ∈ flag, (c == '|') = false
  noBlank : ∀ c ∈ flag, Unicode.isWhiteSpace c = false

namespace IsFlag

variable {flag : List Char} (own : IsFlag flag)
include own

theorem trim_padded {before after : List Char} (blankBefore : ∀ c ∈ before, c = ' ')
    (blankAfter : ∀ c ∈ after, c = ' ') : Text.trim (before ++ (flag ++ after)) = flag := by
  have white : Unicode.isWhiteSpace ' ' = true := by decide
  apply Text.trim_padded _ _ _ _ own.nonempty
  · intro c inside
    rw [blankBefore c inside, white]
  · intro c inside
    rw [blankAfter c inside, white]
  · intro c head
    exact own.noBlank c (List.mem_of_mem_head? head)
  · intro c tail
    exact own.noBlank c (List.mem_of_mem_getLast? tail)

theorem noBar_padded {before after : List Char} (blankBefore : ∀ c ∈ before, c = ' ')
    (blankAfter : ∀ c ∈ after, c = ' ') : ∀ c ∈ before ++ (flag ++ after), (c == '|') = false := by
  have barless : (' ' == '|') = false := by decide
  intro c member
  simp only [List.mem_append] at member
  rcases member with earlier | inside | later
  · rw [blankBefore c earlier, barless]
  · exact own.noBar c inside
  · rw [blankAfter c later, barless]

end IsFlag

/-- The parts between bars are the flags, with blanks around them. -/
theorem map_trim_splitOn {flags : List (List Char)} (nonempty : flags ≠ [])
    (clean : ∀ flag ∈ flags, IsFlag flag) {blanks : List Char} (blank : ∀ c ∈ blanks, c = ' ') :
    (Text.splitOn '|' (blanks ++ [' ', '|', ' '].intercalate flags)).map Text.trim = flags := by
  induction flags generalizing blanks with
  | nil => exact absurd rfl nonempty
  | cons flag rest ih =>
    have own := clean flag List.mem_cons_self
    cases rest with
    | nil =>
      have barless := own.noBar_padded blank (List.forall_mem_nil _)
      have trimmed := own.trim_padded blank (List.forall_mem_nil _)
      rw [List.append_nil] at trimmed barless
      rw [List.intercalate_singleton, Text.splitOn, Text.splitBy_of_not barless, List.map_singleton,
        trimmed]
    | cons next rest =>
      have split : blanks ++ [' ', '|', ' '].intercalate (flag :: next :: rest) =
          (blanks ++ (flag ++ [' '])) ++ '|' ::
            ([' '] ++ [' ', '|', ' '].intercalate (next :: rest)) := by
        simp [List.intercalate_cons_cons]
      have single : ∀ c ∈ [' '], c = ' ' := fun _ => List.mem_singleton.1
      have barless := own.noBar_padded blank single
      have trimmed := own.trim_padded blank single
      have tail := ih (List.cons_ne_nil _ _)
        (fun flag later => clean flag (List.mem_cons_of_mem _ later)) single
      rw [split, Text.splitOn, Text.splitBy_append_cons barless rfl, List.map_cons, trimmed]
      exact congrArg _ tail

/-! ## The whole text -/

theorem isFlag_flagName (t : ResourceType) : IsFlag t.flagName.toList := by
  have plain : (t.flagName.toList.all fun c => !(c == '|') && !Unicode.isWhiteSpace c) = true := by
    cases t <;> rfl
  have chars : ∀ c ∈ t.flagName.toList, (c == '|') = false ∧ Unicode.isWhiteSpace c = false := by
    simpa [List.all_eq_true] using plain
  refine ⟨?_, fun c member => (chars c member).1, fun c member => (chars c member).2⟩
  cases t <;> decide

theorem ofFlag_flagName (t : ResourceType) : ofFlag t.flagName.toList = .ok (only t) := by
  cases t <;> rfl

/-- The text of the bits without a name. -/
theorem ofFlag_number (bits : UInt32) :
    ofFlag ('0' :: 'x' :: Nat.toDigits 16 bits.toNat) = .ok ⟨bits⟩ := by
  have digits : Text.stripStart? ['0', 'x'] ('0' :: 'x' :: Nat.toDigits 16 bits.toNat) =
      some (Nat.toDigits 16 bits.toNat) := rfl
  rw [ofFlag, digits]
  simp only [List.isEmpty_cons, hexNumber?_toDigits]
  rfl

theorem isFlag_number (n : Nat) : IsFlag ('0' :: 'x' :: Nat.toDigits 16 n) := by
  have plain : ∀ digit < 16, (digit.digitChar == '|') = false ∧
      Unicode.isWhiteSpace digit.digitChar = false := by decide
  have chars : ∀ c ∈ '0' :: 'x' :: Nat.toDigits 16 n, (c == '|') = false ∧
      Unicode.isWhiteSpace c = false := by
    intro c member
    rcases List.mem_cons.1 member with rfl | member
    · decide
    · rcases List.mem_cons.1 member with rfl | member
      · decide
      · obtain ⟨digit, small, rfl⟩ := mem_toDigits member
        exact plain digit small
  exact ⟨List.cons_ne_nil _ _, fun c member => (chars c member).1, fun c member => (chars c member).2⟩

theorem toList_number (n : Nat) :
    ("0x" ++ String.ofList (Nat.toDigits 16 n)).toList = '0' :: 'x' :: Nat.toDigits 16 n := by
  simp

/-- The sets that the flags of a mask stand for. -/
def parts (types : ResourceTypes) : List ResourceTypes :=
  types.toTypes.map only ++ if types.unnamed == 0 then [] else [⟨types.unnamed⟩]

theorem isFlag_of_mem_flags {types : ResourceTypes} :
    ∀ flag ∈ types.flags.map String.toList, IsFlag flag := by
  intro flag member
  rw [flags, List.map_append, List.map_map] at member
  rcases List.mem_append.1 member with named | number
  · obtain ⟨t, -, rfl⟩ := List.mem_map.1 named
    exact isFlag_flagName t
  · split at number
    · cases number
    · rw [List.map_singleton, List.mem_singleton] at number
      rw [number, toList_number]
      exact isFlag_number _

theorem mapM_ofFlag (types : ResourceTypes) :
    (types.flags.map String.toList).mapM ofFlag = .ok types.parts := by
  have named : ((types.toTypes.map (·.flagName)).map String.toList).mapM ofFlag =
      .ok (types.toTypes.map only) := by
    have each : (ofFlag ∘ String.toList ∘ ResourceType.flagName) = fun t => pure (only t) :=
      funext ofFlag_flagName
    rw [List.map_map, List.mapM_map, each, List.mapM_pure]
    rfl
  rw [flags, List.map_append, List.mapM_append, named, parts]
  split
  · rfl
  · rw [List.map_singleton, toList_number, List.mapM_cons, ofFlag_number]
    rfl

theorem foldl_parts (types : ResourceTypes) : types.parts.foldl union empty = types := by
  have known : (types.toTypes.map only).foldl union empty = ofTypes types.toTypes := by
    rw [List.foldl_map]
    rfl
  have whole := union_unnamed types
  rw [parts, List.foldl_append, known]
  split
  · rename_i none
    rw [beq_iff_eq.1 none] at whole
    simpa [union] using whole
  · exact whole

/-- A mask is read back from its text. -/
theorem ofText_text (types : ResourceTypes) : ofText types.text = .ok types := by
  have chars : types.text.toList = [' ', '|', ' '].intercalate (types.flags.map String.toList) :=
    String.toList_intercalate
  have clean := @isFlag_of_mem_flags types
  have sets := types.mapM_ofFlag
  have whole := types.foldl_parts
  rw [ofText, chars]
  cases given : types.flags.map String.toList with
  | nil =>
    -- a mask without flags is empty
    rw [given] at sets
    have none : [] = types.parts := Except.ok.inj sets
    rw [← whole, ← none]
    rfl
  | cons flag rest =>
    rw [given] at clean sets
    have parts := map_trim_splitOn (List.cons_ne_nil flag rest) clean (List.forall_mem_nil _)
    have solid : Text.trim ([' ', '|', ' '].intercalate (flag :: rest)) ≠ [] := by
      have own := clean flag List.mem_cons_self
      cases flag with
      | nil => exact absurd rfl own.nonempty
      | cons c flag =>
        rw [List.intercalate_cons_cons_left]
        exact Text.trim_cons_ne_nil (own.noBlank c List.mem_cons_self) _
    have read : (Text.splitOn '|' ([' ', '|', ' '].intercalate (flag :: rest))).mapM
        (fun part => ofFlag (Text.trim part)) = .ok types.parts := by
      rw [← parts, List.nil_append, List.mapM_map] at sets
      exact sets
    rw [if_neg (by simpa using solid), read]
    exact congrArg Except.ok whole

end ResourceTypes

end ContentFilter
