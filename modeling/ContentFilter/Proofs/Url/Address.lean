import Mathlib.Data.List.TakeWhile
import ContentFilter.Url.Address
import ContentFilter.Domain.Lemmas

/-!
# Numeric addresses

An address without a colon is one of version 4, and so it has a digit at both ends and a dot between
them.  Letter case does not matter in an address.
-/

namespace ContentFilter.Url.Address

/-! ## Addresses without a colon -/

/-- The number that is read off stands at the front of the text. -/
theorem readOctet_eq_some {s rest : List Char} (h : readOctet s = some rest) :
    ∃ digits, s = digits ++ rest ∧ digits ≠ [] ∧ ∀ c ∈ digits, c.isDigit := by
  unfold readOctet at h
  dsimp only at h
  split at h
  · cases h
  · rename_i accepted
    cases h
    simp only [Bool.or_eq_true, List.isEmpty_iff, not_or] at accepted
    obtain ⟨⟨⟨filled, -⟩, -⟩, -⟩ := accepted
    have split := List.prefix_iff_eq_append.1 (List.takeWhile_prefix Char.isDigit (l := s))
    exact ⟨s.takeWhile Char.isDigit, split.symm, filled, fun c member => List.mem_takeWhile_imp member⟩

/-- A number behind a dot, in the same way. -/
theorem dot_eq_some {s rest : List Char} (h : readVersion4.dot s = some rest) :
    ∃ digits, s = '.' :: (digits ++ rest) ∧ digits ≠ [] ∧ ∀ c ∈ digits, c.isDigit := by
  unfold readVersion4.dot at h
  split at h
  · obtain ⟨digits, rfl, filled, areDigits⟩ := readOctet_eq_some h
    exact ⟨digits, rfl, filled, areDigits⟩
  · cases h

/-- An address of version 4 begins and ends with a digit. -/
theorem readVersion4_eq_some {s : List Char} (h : readVersion4 s = some []) :
    (∃ c ∈ s.head?, c.isDigit) ∧ ∃ c ∈ s.getLast?, c.isDigit := by
  obtain ⟨second, first, h⟩ := Option.bind_eq_some_iff.1 h
  obtain ⟨third, dot, h⟩ := Option.bind_eq_some_iff.1 h
  obtain ⟨fourth, dotToo, last⟩ := Option.bind_eq_some_iff.1 h
  obtain ⟨a, rfl, aFilled, aDigits⟩ := readOctet_eq_some first
  obtain ⟨b, rfl, -, -⟩ := dot_eq_some dot
  obtain ⟨c, rfl, -, -⟩ := dot_eq_some dotToo
  obtain ⟨d, rfl, dFilled, dDigits⟩ := dot_eq_some last
  constructor
  · obtain ⟨digit, a, rfl⟩ := List.exists_cons_of_ne_nil aFilled
    exact ⟨digit, rfl, aDigits digit List.mem_cons_self⟩
  · refine ⟨d.getLast dFilled, ?_, dDigits _ (List.getLast_mem dFilled)⟩
    have ends : d.dropLast ++ [d.getLast dFilled] = d := List.dropLast_concat_getLast dFilled
    exact List.getLast?_eq_some_iff.2
      ⟨a ++ '.' :: (b ++ '.' :: (c ++ '.' :: d.dropLast)), by simp [ends]⟩

/-- Without a colon there is no group behind the first. -/
theorem readGroups_of_not_mem_colon {room : Nat} {s : List Char} (noColon : ':' ∉ s) :
    readGroups false room s = ⟨0, false, s⟩ := by
  have stops : readColon false s = none := by
    unfold readColon
    split
    · contradiction
    · split
      · simp at noColon
      · rfl
  cases room with
  | zero => rfl
  | succ room => simp [readGroups, stops]

/-- What is left behind a group was part of the text. -/
theorem readGroup_suffix {s rest : List Char} (h : readGroup s = some rest) : rest <:+ s := by
  unfold readGroup at h
  dsimp only at h
  split at h
  · cases h
  · cases h
    exact List.drop_suffix _ s

/-- An address of version 6 has a colon. -/
theorem readVersion6_of_not_mem_colon {s : List Char} (noColon : ':' ∉ s) :
    readVersion6 s = none := by
  have few : (readGroups true 8 s).count ≠ 8 ∧ ((readGroups true 8 s).endsInVersion4 = false →
      ':' ∉ (readGroups true 8 s).rest) := by
    rw [readGroups]
    split
    · simp
    · rename_i rest _ found
      have noColonBehind : ':' ∉ rest := fun member =>
        noColon ((readGroup_suffix found).subset member)
      rw [readGroups_of_not_mem_colon noColonBehind]
      exact ⟨by simp, fun _ => noColonBehind⟩
    · exact ⟨by simp, fun _ => noColon⟩
  unfold readVersion6
  dsimp only
  rw [if_neg few.1]
  split
  · rfl
  · rename_i noVersion4
    split
    · rename_i rest colons
      have free := few.2 (by simpa using noVersion4)
      rw [colons] at free
      simp at free
    · rfl

/-- An address without a colon is one of version 4. -/
theorem readVersion4_of_isAddress {s : List Char} (noColon : ':' ∉ s) (h : isAddress s) :
    readVersion4 s = some [] := by
  unfold isAddress at h
  rw [readVersion6_of_not_mem_colon noColon] at h
  split at h
  · rename_i rest read
    rw [read, List.isEmpty_iff.1 h]
  · cases h

/-- So it begins and ends with a digit. -/
theorem digit_ends_of_isAddress {s : List Char} (noColon : ':' ∉ s) (h : isAddress s) :
    (∃ c ∈ s.head?, c.isDigit) ∧ ∃ c ∈ s.getLast?, c.isDigit :=
  readVersion4_eq_some (readVersion4_of_isAddress noColon h)

/-- An address without a colon has a dot. -/
theorem dot_mem_of_isAddress {s : List Char} (noColon : ':' ∉ s) (h : isAddress s) : '.' ∈ s := by
  obtain ⟨second, first, h⟩ := Option.bind_eq_some_iff.1 (readVersion4_of_isAddress noColon h)
  obtain ⟨third, dot, -⟩ := Option.bind_eq_some_iff.1 h
  obtain ⟨a, rfl, -, -⟩ := readOctet_eq_some first
  obtain ⟨b, rfl, -, -⟩ := dot_eq_some dot
  simp

/-! ## Letter case -/

open Text (lower)

/-- The characters of ASCII one by one: a decimal digit is small, and the small form is a digit of either
base or a colon where the character is. -/
theorem ascii_table : ∀ i : Fin 128,
    ((Char.ofNat i).isDigit → (Char.ofNat i).toLower = Char.ofNat i) ∧
    (Char.ofNat i).toLower.isDigit = (Char.ofNat i).isDigit ∧
    (digit? 16 (Char.ofNat i).toLower).isSome = (digit? 16 (Char.ofNat i)).isSome ∧
    ((Char.ofNat i).toLower == ':') = (Char.ofNat i == ':') := by
  decide +kernel

theorem lower_of_isDigit {digits : List Char} (areDigits : ∀ c ∈ digits, c.isDigit) :
    lower digits = digits := by
  refine Text.lower_eq_self_iff.2 fun c member => ?_
  have digit := areDigits c member
  have ascii := Domain.ascii_of_isAlphanum (c := c) (by simp [Char.isAlphanum, digit])
  exact Unicode.forall_ascii (p := fun c => c.isDigit → c.toLower = c)
    (fun i => (ascii_table i).1) ascii digit

theorem readOctet_lower (s : List Char) : readOctet (lower s) = (readOctet s).map lower := by
  have digits : (lower s).takeWhile Char.isDigit = s.takeWhile Char.isDigit := by
    have caseless : ∀ c : Char, c.toLower.isDigit = c.isDigit :=
      Domain.apply_toLower (f := Char.isDigit) fun i => (ascii_table i).2.1
    rw [Text.takeWhile_lower caseless, lower_of_isDigit]
    exact fun c member => List.mem_takeWhile_imp member
  simp only [readOctet, digits, Text.drop_lower]
  split <;> rfl

theorem bind_lower {read : List Char → Option (List Char)}
    (caseless : ∀ s, read (lower s) = (read s).map lower) (s? : Option (List Char)) :
    (s?.map lower).bind read = (s?.bind read).map lower := by
  cases s? with
  | none => rfl
  | some s => exact caseless s

theorem dot_lower (s : List Char) : readVersion4.dot (lower s) = (readVersion4.dot s).map lower := by
  cases s with
  | nil => rfl
  | cons c rest =>
    by_cases isDot : c = '.'
    · subst isDot
      exact readOctet_lower rest
    · have other : c.toLower ≠ '.' := by
        simpa using (Domain.toLower_beq_dot c).trans (beq_eq_false_iff_ne.2 isDot)
      simp [lower, readVersion4.dot, isDot, other]

theorem readVersion4_lower (s : List Char) :
    readVersion4 (lower s) = (readVersion4 s).map lower := by
  simp only [readVersion4, Option.bind_eq_bind, readOctet_lower]
  refine bind_lower (fun second => ?_) _
  rw [dot_lower]
  refine bind_lower (fun third => ?_) _
  rw [dot_lower]
  exact bind_lower dot_lower _

theorem readGroup_lower (s : List Char) : readGroup (lower s) = (readGroup s).map lower := by
  have caseless : ∀ c : Char, (digit? 16 c.toLower).isSome = (digit? 16 c).isSome :=
    Domain.apply_toLower (f := fun c => (digit? 16 c).isSome) fun i => (ascii_table i).2.2.1
  have digits := Text.takeWhile_lower (p := fun c => (digit? 16 c).isSome) caseless s
  have empty (t : List Char) : (lower t).isEmpty = t.isEmpty := by
    rw [lower, List.isEmpty_map]
  simp only [readGroup, digits, Text.drop_lower, Text.length_lower, empty]
  split <;> rfl

theorem readColon_lower (isFirst : Bool) (s : List Char) :
    readColon isFirst (lower s) = (readColon isFirst s).map lower := by
  unfold readColon
  split
  · rfl
  · cases s with
    | nil => rfl
    | cons c rest =>
      by_cases isColon : c = ':'
      · subst isColon
        rfl
      · have other : c.toLower ≠ ':' := by
          have same := Domain.apply_toLower (f := (· == ':')) (fun i => (ascii_table i).2.2.2) c
          simpa using same.trans (beq_eq_false_iff_ne.2 isColon)
        simp [lower, isColon, other]

theorem readGroups_lower (isFirst : Bool) (room : Nat) (s : List Char) :
    readGroups isFirst room (lower s) =
      { readGroups isFirst room s with rest := lower (readGroups isFirst room s).rest } := by
  induction room generalizing isFirst s with
  | zero => rfl
  | succ room ih =>
    have version4 : (if room = 0 then none else (readColon isFirst (lower s)).bind readVersion4) =
        (if room = 0 then none else (readColon isFirst s).bind readVersion4).map lower := by
      rw [readColon_lower, bind_lower readVersion4_lower]
      split <;> rfl
    rw [readGroups, readGroups, version4, readColon_lower, bind_lower readGroup_lower]
    cases (if room = 0 then none else (readColon isFirst s).bind readVersion4) with
    | some rest => rfl
    | none =>
      cases (readColon isFirst s).bind readGroup with
      | none => rfl
      | some rest =>
        dsimp only [Option.map_none, Option.map_some]
        rw [ih]

/-- Two colons are read off one after the other. -/
theorem doubleColon_eq (read : List Char → List Char) (s : List Char) :
    (match s with
      | ':' :: ':' :: rest => some (read rest)
      | _ => none) = ((readColon false s).bind (readColon false)).map read := by
  split
  · rfl
  · rename_i apart
    match s, apart with
    | [], _ => rfl
    | [c], _ => by_cases isColon : c = ':' <;> simp [readColon, isColon]
    | c :: d :: rest, apart =>
      by_cases isColon : c = ':'
      · have other : d ≠ ':' := by
          rintro rfl
          exact apart rest (isColon ▸ rfl)
        simp [readColon, isColon, other]
      · simp [readColon, isColon]

theorem readVersion6_lower (s : List Char) :
    readVersion6 (lower s) = (readVersion6 s).map lower := by
  simp only [readVersion6, readGroups_lower]
  split
  · rfl
  · split
    · rfl
    · have colons := doubleColon_eq fun rest =>
        (readGroups true (7 - (readGroups true 8 s).count) rest).rest
      refine (colons _).trans (Eq.trans ?_ (congrArg (Option.map lower) (colons _).symm))
      rw [readColon_lower, bind_lower (readColon_lower false)]
      simp only [Option.map_map, Function.comp_def, readGroups_lower]

/-- Letter case does not matter in addresses. -/
theorem isAddress_lower (s : List Char) : isAddress (lower s) = isAddress s := by
  have empty (t : List Char) : (lower t).isEmpty = t.isEmpty := by
    rw [lower, List.isEmpty_map]
  simp only [isAddress, readVersion4_lower, readVersion6_lower]
  cases readVersion4 s with
  | some rest => exact empty rest
  | none =>
    cases readVersion6 s with
    | some rest => exact empty rest
    | none => rfl

end ContentFilter.Url.Address
