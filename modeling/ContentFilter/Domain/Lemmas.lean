import ContentFilter.Domain
import ContentFilter.Text.Lemmas
import ContentFilter.Unicode.CaseFolding.Lemmas

/-!
# Laws of domains

A normal domain is a name of small letters and other characters of host names.  A domain matches
another one that it ends with, behind a dot or as a whole; these are the domains above it, up to
letter case.
-/

namespace ContentFilter.Domain

/-! ## Characters of host names -/

theorem ascii_of_isAlphanum {c : Char} (alphanum : c.isAlphanum) : c.toNat < 128 := by
  have ranges : (decide ('A'.val ≤ c.val ∧ c.val ≤ 'Z'.val) || ('a'.val ≤ c.val && c.val ≤ 'z'.val) ||
      ('0'.val ≤ c.val && c.val ≤ '9'.val)) = true := alphanum
  simp only [Bool.or_eq_true, Bool.and_eq_true, decide_eq_true_eq, UInt32.le_iff_toNat_le] at ranges
  have value : c.toNat = c.val.toNat := rfl
  have capital : 'Z'.val.toNat = 90 := rfl
  have small : 'z'.val.toNat = 122 := rfl
  have digit : '9'.val.toNat = 57 := rfl
  omega

theorem ascii_of_isHostChar {c : Char} (isHost : isHostChar c) : c.toNat < 128 := by
  simp only [isHostChar, Bool.or_eq_true, beq_iff_eq] at isHost
  rcases isHost with ((alphanum | rfl) | rfl) | rfl
  · exact ascii_of_isAlphanum alphanum
  all_goals decide

/-- The characters of ASCII one by one: a small form is a character of host names where the character is
one, which is no white space then, and it is a dot or white space where the character is. -/
theorem ascii_table : ∀ i : Fin 128,
    (isHostChar (Char.ofNat i) → isHostChar (Char.ofNat i).toLower ∧
      Unicode.isWhiteSpace (Char.ofNat i) = false) ∧
    ((Char.ofNat i).toLower == '.') = (Char.ofNat i == '.') ∧
    Unicode.isWhiteSpace (Char.ofNat i).toLower = Unicode.isWhiteSpace (Char.ofNat i) := by
  decide +kernel

theorem of_isHostChar {c : Char} (isHost : isHostChar c) :
    isHostChar c.toLower ∧ Unicode.isWhiteSpace c = false :=
  Unicode.forall_ascii
    (p := fun c => isHostChar c → isHostChar c.toLower ∧ Unicode.isWhiteSpace c = false)
    (fun i => (ascii_table i).1) (ascii_of_isHostChar isHost) isHost

theorem isWhiteSpace_of_isHostChar {c : Char} (isHost : isHostChar c) :
    Unicode.isWhiteSpace c = false :=
  (of_isHostChar isHost).2

theorem toLower_eq_self_of_not_ascii {c : Char} (beyond : ¬ c.toNat < 128) : c.toLower = c := by
  have noCapital : ¬ (c.val ≥ 'A'.val ∧ c.val ≤ 'Z'.val) := by
    rintro ⟨-, high⟩
    have high := UInt32.le_iff_toNat_le.1 high
    have value : c.toNat = c.val.toNat := rfl
    have z : 'Z'.val.toNat = 90 := rfl
    omega
  exact dif_neg noCapital

/-- What the capital letters of ASCII have in common with the small ones, all characters have in common with
their small forms. -/
theorem apply_toLower {α : Type} {f : Char → α}
    (each : ∀ i : Fin 128, f (Char.ofNat i).toLower = f (Char.ofNat i)) (c : Char) :
    f c.toLower = f c := by
  by_cases ascii : c.toNat < 128
  · exact Unicode.forall_ascii (p := fun c => f c.toLower = f c) each ascii
  · rw [toLower_eq_self_of_not_ascii ascii]

theorem toLower_beq_dot (c : Char) : (c.toLower == '.') = (c == '.') :=
  apply_toLower (f := (· == '.')) (fun i => (ascii_table i).2.1) c

theorem isWhiteSpace_toLower (c : Char) :
    Unicode.isWhiteSpace c.toLower = Unicode.isWhiteSpace c :=
  apply_toLower (f := Unicode.isWhiteSpace) (fun i => (ascii_table i).2.2) c

/-! ## Normal domains -/

theorem hasEmptyLabel_lower (s : List Char) : hasEmptyLabel (Text.lower s) = hasEmptyLabel s := by
  induction s with
  | nil => rfl
  | cons c rest ih =>
    cases rest with
    | nil => simp [Text.lower, hasEmptyLabel]
    | cons d rest =>
      simp only [Text.lower, List.map_cons] at ih ⊢
      rw [hasEmptyLabel_cons_cons, hasEmptyLabel_cons_cons, toLower_beq_dot, toLower_beq_dot, ih]

/-- What is left of a name is a name that stays as it is. -/
theorem normalize?_eq_some {host domain : String} (normal : normalize? host = some domain) :
    domain.toList ≠ [] ∧ domain.toList.length ≤ maxLength ∧
      (∀ c ∈ domain.toList, isHostChar c) ∧ Text.lower domain.toList = domain.toList := by
  simp only [normalize?] at normal
  split at normal
  · cases normal
  · rename_i accepted
    obtain rfl := Option.some.inj normal
    simp only [Bool.or_eq_true, not_or, Bool.not_eq_true, Bool.not_eq_false', decide_eq_true_eq,
      List.isEmpty_iff, Nat.not_lt, List.all_eq_true] at accepted
    obtain ⟨⟨⟨nonempty, short⟩, hosts⟩, -⟩ := accepted
    rw [String.toList_ofList]
    refine ⟨?_, ?_, ?_, Text.lower_lower _⟩
    · simpa [Text.lower] using nonempty
    · simpa [Text.length_lower] using short
    · intro c member
      obtain ⟨original, isIn, rfl⟩ := List.mem_map.1 member
      exact (of_isHostChar (hosts original isIn)).1

/-- A normal form is its own normal form. -/
theorem normalize?_of_normalize? {host name : String} (normal : normalize? host = some name) :
    normalize? name = some name := by
  obtain ⟨-, -, hosts, small⟩ := normalize?_eq_some normal
  have trimmed : Text.trim name.toList = name.toList :=
    Text.trim_eq_self_of_not fun c member => isWhiteSpace_of_isHostChar (hosts c member)
  simp only [normalize?] at normal
  split at normal
  · cases normal
  · rename_i accepted
    have text : name.toList = Text.lower (trimDots (Text.trim host.toList)) := by
      rw [← Option.some.inj normal, String.toList_ofList]
    have undotted : trimDots name.toList = name.toList := by
      rw [text, trimDots, Text.dropWhile_lower toLower_beq_dot,
        Text.dropEndWhile_lower toLower_beq_dot]
      exact congrArg Text.lower (Text.dropEndWhile_dropWhile_idem _)
    simp only [Bool.or_eq_true, not_or, Bool.not_eq_true, Bool.not_eq_false', decide_eq_true_eq,
      List.isEmpty_iff, Nat.not_lt] at accepted
    obtain ⟨⟨⟨nonempty, short⟩, -⟩, labels⟩ := accepted
    rw [← hasEmptyLabel_lower, ← text] at labels
    rw [← Text.length_lower, ← text] at short
    have filled : name.toList ≠ [] := by simpa [text, Text.lower] using nonempty
    have all : name.toList.all isHostChar := List.all_eq_true.2 hosts
    simp only [normalize?]
    rw [trimmed, undotted, all, labels, small, String.ofList_toList]
    simp [filled, Nat.not_lt.2 short]

theorem trimDots_eq_self {s : List Char} (first : s.head? ≠ some '.')
    (last : s.getLast? ≠ some '.') : trimDots s = s := by
  have started : s.dropWhile (· == '.') = s := by
    cases s with
    | nil => rfl
    | cons c rest =>
      refine List.dropWhile_cons_of_neg fun dot => first ?_
      rw [List.head?_cons, eq_of_beq dot]
  rw [trimDots, started, Text.dropEndWhile_eq_self]
  intro c isLast
  rw [beq_eq_false_iff_ne]
  rintro rfl
  exact last isLast

/-- Only dots are taken from the ends of a name. -/
theorem mem_trimDots_of_ne {s : List Char} {c : Char} (member : c ∈ s) (noDot : c ≠ '.') :
    c ∈ trimDots s := by
  obtain ⟨dropped, split, dots⟩ :=
    Text.exists_eq_dropEndWhile_append (· == '.') (s.dropWhile (· == '.'))
  rw [← List.takeWhile_append_dropWhile (p := (· == '.')) (l := s), split] at member
  rcases List.mem_append.1 member with leading | member
  · have dot : (c == '.') = true := List.all_eq_true.1 List.all_takeWhile c leading
    exact absurd (eq_of_beq dot) noDot
  · rcases List.mem_append.1 member with inside | trailing
    · exact inside
    · exact absurd (eq_of_beq (dots c trailing)) noDot

/-- The normal form of a name without white space is what is left between its dots, in small letters. -/
theorem toList_of_normalize? {name : List Char} {domain : String}
    (unbroken : ∀ c ∈ name, Unicode.isWhiteSpace c = false)
    (normal : normalize? (String.ofList name) = some domain) :
    domain.toList = Text.lower (trimDots name) ∧ ∀ c ∈ trimDots name, isHostChar c := by
  simp only [normalize?, String.toList_ofList, Text.trim_eq_self_of_not unbroken] at normal
  split at normal
  · cases normal
  · rename_i accepted
    obtain rfl := Option.some.inj normal
    simp only [Bool.or_eq_true, not_or, Bool.not_eq_true, Bool.not_eq_false',
      List.all_eq_true] at accepted
    exact ⟨String.toList_ofList, accepted.1.2⟩

/-! ## Matching -/

theorem trimEndDots_eq_self {s : List Char} (noDot : s.getLast? ≠ some '.') : trimEndDots s = s := by
  refine Text.dropEndWhile_eq_self fun c isLast => ?_
  simp only [beq_eq_false_iff_ne]
  rintro rfl
  exact noDot isLast

theorem getLast?_trimEndDots (s : List Char) : (trimEndDots s).getLast? ≠ some '.' := by
  rw [trimEndDots, Text.dropEndWhile, List.getLast?_reverse]
  intro dot
  have kept := List.head?_dropWhile_not (· == '.') s.reverse
  rw [dot] at kept
  cases kept

/-- The end of a name without dots at its end has none there either. -/
theorem trimEndDots_of_suffix {s tail : List Char} (ending : tail <:+ trimEndDots s) :
    trimEndDots tail = tail := by
  refine trimEndDots_eq_self fun dot => getLast?_trimEndDots s ?_
  obtain ⟨front, split⟩ := ending
  rw [← split, List.getLast?_append, dot, Option.some_or]

theorem trimEndDots_append_dots (s : List Char) (n : Nat) :
    trimEndDots (s ++ List.replicate n '.') = trimEndDots s := by
  have dots : ∀ c ∈ (List.replicate n '.').reverse, (c == '.') = true := by
    intro c member
    rw [List.reverse_replicate] at member
    exact beq_iff_eq.2 (List.eq_of_mem_replicate member)
  rw [trimEndDots, Text.dropEndWhile, List.reverse_append, List.dropWhile_append_of_pos dots]
  rfl

theorem trimEndDots_lower (s : List Char) : trimEndDots (Text.lower s) = Text.lower (trimEndDots s) :=
  Text.dropEndWhile_lower toLower_beq_dot s

/-- A domain matches those that it ends with, as a whole or behind a dot. -/
theorem matchesDomain_iff {domain entry : String} : matchesDomain domain entry ↔
    entry.toList ≠ [] ∧ ∃ front tail, trimEndDots domain.toList = front ++ tail ∧
      Text.lower tail = Text.lower entry.toList ∧ (front = [] ∨ front.getLast? = some '.') := by
  simp only [matchesDomain, Bool.and_eq_true, Bool.not_eq_true', decide_eq_true_eq,
    Bool.or_eq_true, beq_iff_eq, Text.equalIgnoreCase_iff]
  generalize trimEndDots domain.toList = host
  constructor
  · rintro ⟨⟨⟨nonempty, short⟩, same⟩, boundary⟩
    refine ⟨by simpa using nonempty, host.take (host.length - entry.toList.length),
      host.drop (host.length - entry.toList.length), (List.take_append_drop _ _).symm, same, ?_⟩
    rcases boundary with whole | dot
    · left
      rw [whole, List.take_zero]
    · exact .inr dot
  · rintro ⟨nonempty, front, tail, rfl, same, boundary⟩
    have lengths : tail.length = entry.toList.length := by
      rw [← Text.length_lower, same, Text.length_lower]
    have split : (front ++ tail).length - entry.toList.length = front.length := by
      rw [List.length_append, lengths]
      omega
    rw [split, List.drop_left, List.take_left]
    refine ⟨⟨⟨by simpa using nonempty, ?_⟩, same⟩, ?_⟩
    · rw [List.length_append]
      omega
    · rcases boundary with rfl | dot
      · exact .inl rfl
      · exact .inr dot

/-! ## The domains above a host -/

theorem mem_behindDots {s tail : List Char} : tail ∈ behindDots s ↔
    tail ≠ [] ∧ ∃ front, s = front ++ tail ∧ front.getLast? = some '.' := by
  fun_induction behindDots s with
  | case1 c rest ih =>
    rw [List.mem_cons, ih]
    constructor
    · rintro (rfl | ⟨nonempty, front, split, dot⟩)
      · exact ⟨List.cons_ne_nil _ _, ['.'], rfl, rfl⟩
      · refine ⟨nonempty, '.' :: front, congrArg _ split, ?_⟩
        cases front with
        | nil => cases dot
        | cons d front => exact dot
    · rintro ⟨nonempty, front, split, dot⟩
      match front, dot with
      | ['.'], _ => exact .inl (List.cons.inj split).2.symm
      | _ :: e :: front, dot =>
        exact .inr ⟨nonempty, e :: front, (List.cons.inj split).2, dot⟩
  | case2 c rest inside ih =>
    rw [ih]
    constructor
    · rintro ⟨nonempty, front, split, dot⟩
      refine ⟨nonempty, c :: front, congrArg _ split, ?_⟩
      cases front with
      | nil => cases dot
      | cons d front => exact dot
    · rintro ⟨nonempty, front, split, dot⟩
      match front, dot with
      | ['.'], _ =>
        obtain ⟨isDot, same⟩ := List.cons.inj split
        obtain ⟨e, behind, rfl⟩ := List.exists_cons_of_ne_nil nonempty
        exact (inside e behind isDot same).elim
      | _ :: e :: front, dot => exact ⟨nonempty, e :: front, (List.cons.inj split).2, dot⟩
  | case3 =>
    constructor
    · intro impossible
      cases impossible
    · rintro ⟨nonempty, front, split, -⟩
      exact absurd (List.append_eq_nil_iff.1 split.symm).2 nonempty

/-- The domains above a host are what it ends with, as a whole or behind a dot. -/
theorem mem_suffixes {host name : String} : name ∈ suffixes host ↔
    name.toList ≠ [] ∧ ∃ front, trimEndDots host.toList = front ++ name.toList ∧
      (front = [] ∨ front.getLast? = some '.') := by
  unfold suffixes
  split
  · rename_i empty
    rw [empty]
    constructor
    · intro impossible
      cases impossible
    · rintro ⟨nonempty, front, split, -⟩
      exact absurd (List.append_eq_nil_iff.1 split.symm).2 nonempty
  · rename_i nonempty
    simp only [List.mem_map, List.mem_cons, mem_behindDots]
    constructor
    · rintro ⟨tail, rfl | ⟨longer, front, split, dot⟩, rfl⟩
      · rw [String.toList_ofList]
        exact ⟨nonempty, [], rfl, .inl rfl⟩
      · rw [String.toList_ofList]
        exact ⟨longer, front, split, .inr dot⟩
    · rintro ⟨longer, front, split, rfl | dot⟩
      · exact ⟨name.toList, .inl split.symm, String.ofList_toList⟩
      · exact ⟨name.toList, .inr ⟨longer, front, split, dot⟩, String.ofList_toList⟩

/-- A host matches a domain if the domain is above the host, up to letter case. -/
theorem matchesDomain_iff_exists_suffix {host entry : String} : matchesDomain host entry ↔
    ∃ name ∈ suffixes host, Text.equalIgnoreCase name.toList entry.toList := by
  simp only [matchesDomain_iff, mem_suffixes, Text.equalIgnoreCase_iff]
  constructor
  · rintro ⟨nonempty, front, tail, split, same, boundary⟩
    refine ⟨String.ofList tail, ⟨?_, front, ?_, boundary⟩, ?_⟩
    · rw [String.toList_ofList]
      rintro rfl
      exact nonempty (List.map_eq_nil_iff.1 same.symm)
    · rw [String.toList_ofList, split]
    · rw [String.toList_ofList, same]
  · rintro ⟨name, ⟨nonempty, front, split, boundary⟩, same⟩
    refine ⟨?_, front, name.toList, split, same, boundary⟩
    intro empty
    rw [empty] at same
    exact nonempty (List.map_eq_nil_iff.1 same)

/-- Above a host without capital letters are only domains without capital letters. -/
theorem lower_of_mem_suffixes {host name : String}
    (small : Text.lower host.toList = host.toList) (above : name ∈ suffixes host) :
    Text.lower name.toList = name.toList := by
  obtain ⟨-, front, split, -⟩ := mem_suffixes.1 above
  rw [Text.lower_eq_self_iff] at small ⊢
  intro c member
  apply small
  apply Text.mem_of_mem_dropEndWhile
  rw [trimEndDots] at split
  rw [split]
  exact List.mem_append_right _ member

/-- Domains without capital letters are found among those above a host as they stand. -/
theorem matchesDomain_iff_mem_suffixes {host entry : String}
    (smallHost : Text.lower host.toList = host.toList)
    (smallEntry : Text.lower entry.toList = entry.toList) :
    matchesDomain host entry ↔ entry ∈ suffixes host := by
  rw [matchesDomain_iff_exists_suffix]
  constructor
  · rintro ⟨name, above, same⟩
    rw [Text.equalIgnoreCase_iff, lower_of_mem_suffixes smallHost above, smallEntry,
      String.toList_inj] at same
    exact same ▸ above
  · intro above
    exact ⟨entry, above, Text.equalIgnoreCase_refl _⟩

/-! ## Scopes -/

theorem mem_insertNew {list : List String} {entry name : String} :
    name ∈ insertNew list entry ↔ name ∈ list ∨ name = entry := by
  unfold insertNew
  split
  · rename_i known
    constructor
    · exact .inl
    · rintro (before | rfl)
      · exact before
      · exact List.contains_iff_mem.1 known
  · rw [List.mem_append, List.mem_singleton]

namespace Scope

/-- A scope whose domains are in normal form. -/
def IsNormal (scope : Scope) : Prop :=
  ∀ name, name ∈ scope.includes ∨ name ∈ scope.excludes → ∃ host, normalize? host = some name

end Scope

end ContentFilter.Domain
