import ContentFilter.Text

/-!
# Laws of text

Splitting loses nothing but the separators, trimming twice is trimming once, and takes no words away.
-/

namespace ContentFilter.Text

/-! ## Splitting -/

/-- No part holds a character to split at. -/
theorem not_of_mem_splitBy {p : Char → Bool} {s part : List Char} (h : part ∈ splitBy p s) :
    ∀ c ∈ part, p c = false := by
  induction s generalizing part with
  | nil => simp_all [splitBy]
  | cons c rest ih =>
    simp only [splitBy] at h
    split at h
    · rcases List.mem_cons.1 h with rfl | later
      · simp
      · exact ih later
    · rename_i inside
      split at h
      · rename_i first parts split
        rcases List.mem_cons.1 h with rfl | later
        · intro d member
          rcases List.mem_cons.1 member with rfl | member
          · simpa using inside
          · exact ih (split ▸ List.mem_cons_self) d member
        · exact ih (split ▸ List.mem_cons_of_mem _ later)
      · rename_i split
        exact absurd split (splitBy_ne_nil p rest)

/-- The parts hold nothing but characters of the text. -/
theorem mem_of_mem_splitBy {p : Char → Bool} {s part : List Char} {c : Char} (h : part ∈ splitBy p s)
    (member : c ∈ part) : c ∈ s := by
  induction s generalizing part with
  | nil =>
    rw [List.mem_singleton.1 h] at member
    cases member
  | cons d rest ih =>
    simp only [splitBy] at h
    split at h
    · rcases List.mem_cons.1 h with rfl | later
      · cases member
      · exact List.mem_cons_of_mem _ (ih later member)
    · split at h
      · rename_i first parts split
        rcases List.mem_cons.1 h with rfl | later
        · rcases List.mem_cons.1 member with rfl | inside
          · exact List.mem_cons_self
          · exact List.mem_cons_of_mem _ (ih (split ▸ List.mem_cons_self) inside)
        · exact List.mem_cons_of_mem _ (ih (split ▸ List.mem_cons_of_mem _ later) member)
      · rename_i split
        exact absurd split (splitBy_ne_nil p rest)

/-- The parts with the separator between them make up the text. -/
theorem intercalate_splitOn (separator : Char) (s : List Char) :
    [separator].intercalate (splitOn separator s) = s := by
  induction s with
  | nil => simp [splitOn, splitBy]
  | cons c rest ih =>
    simp only [splitOn] at ih ⊢
    simp only [splitBy]
    split
    · rename_i same
      obtain rfl : c = separator := by simpa using same
      cases split : splitBy (· == c) rest with
      | nil => exact absurd split (splitBy_ne_nil _ rest)
      | cons first parts =>
        rw [split] at ih
        simp [ih]
    · split
      · rename_i first parts split
        rw [split] at ih
        cases parts with
        | nil => simpa using ih
        | cons second parts => simpa using ih
      · rename_i split
        exact absurd split (splitBy_ne_nil _ rest)

/-- A text without a character to split at is its only part. -/
theorem splitBy_of_not {p : Char → Bool} {s : List Char} (none : ∀ c ∈ s, p c = false) :
    splitBy p s = [s] := by
  induction s with
  | nil => rfl
  | cons c rest ih =>
    rw [splitBy, none c List.mem_cons_self, ih fun d member => none d (List.mem_cons_of_mem _ member)]
    rfl

/-- A text is split at every character to split at. -/
theorem splitBy_append {p : Char → Bool} {separator : Char} (splits : p separator = true)
    (s rest : List Char) : splitBy p (s ++ separator :: rest) = splitBy p s ++ splitBy p rest := by
  induction s with
  | nil => simp [splitBy, splits]
  | cons c s ih =>
    rw [List.cons_append, splitBy, splitBy, ih]
    split
    · rfl
    · cases parts : splitBy p s with
      | nil => exact absurd parts (splitBy_ne_nil p s)
      | cons part parts => rfl

/-- The first part ends at the first character to split at. -/
theorem splitBy_append_cons {p : Char → Bool} {part : List Char} (none : ∀ c ∈ part, p c = false)
    {separator : Char} (splits : p separator = true) (rest : List Char) :
    splitBy p (part ++ separator :: rest) = part :: splitBy p rest := by
  rw [splitBy_append splits, splitBy_of_not none]
  rfl

/-- Joined parts are split again where they were joined, as they do not contain the separator. -/
theorem splitOn_intercalate {separator : Char} {parts : List (List Char)} (nonempty : parts ≠ [])
    (free : ∀ part ∈ parts, separator ∉ part) :
    splitOn separator ([separator].intercalate parts) = parts := by
  have apart : ∀ part ∈ parts, ∀ c ∈ part, (c == separator) = false := by
    intro part member c among
    rw [beq_eq_false_iff_ne]
    rintro rfl
    exact free part member among
  induction parts with
  | nil => exact absurd rfl nonempty
  | cons part rest ih =>
    have first := apart part List.mem_cons_self
    cases rest with
    | nil =>
      have whole : [separator].intercalate [part] = part := by simp [List.intercalate]
      rw [whole, splitOn, splitBy_of_not first]
    | cons next rest =>
      have whole : [separator].intercalate (part :: next :: rest) =
          part ++ separator :: [separator].intercalate (next :: rest) := by simp [List.intercalate]
      have later := ih (List.cons_ne_nil next rest)
        (fun part member => free part (List.mem_cons_of_mem _ member))
        (fun part member => apart part (List.mem_cons_of_mem _ member))
      rw [whole, splitOn, splitBy_append_cons first (beq_self_eq_true separator)]
      rw [splitOn] at later
      rw [later]

/-- Joined parts hold the separator and what is in the parts. -/
theorem mem_of_mem_intercalate {separator c : Char} {parts : List (List Char)}
    (member : c ∈ [separator].intercalate parts) : c = separator ∨ ∃ part ∈ parts, c ∈ part := by
  induction parts with
  | nil => cases member
  | cons part rest ih =>
    cases rest with
    | nil =>
      rw [List.intercalate_singleton] at member
      exact .inr ⟨part, List.mem_cons_self, member⟩
    | cons next rest =>
      rw [List.intercalate_cons_cons, List.mem_append, List.mem_append, List.mem_singleton] at member
      rcases member with (first | isSeparator) | later
      · exact .inr ⟨part, List.mem_cons_self, first⟩
      · exact .inl isSeparator
      · exact (ih later).imp_right fun ⟨among, isPart, inside⟩ =>
          ⟨among, List.mem_cons_of_mem part isPart, inside⟩

/-- The last parts of a text stand at its end. -/
theorem intercalate_drop_suffix (separator : Char) (n : Nat) (parts : List (List Char)) :
    [separator].intercalate (parts.drop n) <:+ [separator].intercalate parts := by
  induction parts generalizing n with
  | nil => simp
  | cons part rest ih =>
    cases n with
    | zero => exact List.suffix_refl _
    | succ n =>
      refine (ih n).trans ?_
      cases rest with
      | nil => exact List.nil_suffix
      | cons next rest =>
        rw [List.intercalate_cons_cons]
        exact List.suffix_append _ _

/-! ## Trimming -/

theorem dropWhile_idem {p : Char → Bool} (s : List Char) :
    (s.dropWhile p).dropWhile p = s.dropWhile p := by
  induction s with
  | nil => rfl
  | cons c rest ih =>
    by_cases h : p c
    · simp [h, ih]
    · simp [h]

@[simp] theorem dropEndWhile_idem {p : Char → Bool} (s : List Char) :
    dropEndWhile p (dropEndWhile p s) = dropEndWhile p s := by
  simp [dropEndWhile, dropWhile_idem]

/-- Nothing is dropped from a text whose last character is to be kept. -/
theorem dropEndWhile_eq_self {p : Char → Bool} {s : List Char}
    (kept : ∀ c ∈ s.getLast?, p c = false) : dropEndWhile p s = s := by
  unfold dropEndWhile
  cases reversed : s.reverse with
  | nil => simpa using reversed
  | cons last front =>
    have isLast : s.getLast? = some last := by
      rw [← List.head?_reverse, reversed]
      rfl
    rw [List.dropWhile_cons_of_neg (by simp [kept last isLast]), ← reversed, List.reverse_reverse]

theorem mem_of_mem_dropEndWhile {p : Char → Bool} {s : List Char} {c : Char}
    (h : c ∈ dropEndWhile p s) : c ∈ s := by
  rw [dropEndWhile, List.mem_reverse] at h
  exact List.mem_reverse.1 ((List.dropWhile_sublist p).subset h)

/-- Dropping at the end drops nothing at the start of a text that has a character to keep there. -/
theorem dropEndWhile_cons_of_not {p : Char → Bool} {c : Char} (h : p c = false) (s : List Char) :
    dropEndWhile p (c :: s) = c :: dropEndWhile p s := by
  simp only [dropEndWhile, List.reverse_cons, List.dropWhile_append]
  by_cases all : (s.reverse.dropWhile p).isEmpty
  · simp [List.isEmpty_iff.1 all, h]
  · simp [all]

/-- A text without white space at its ends stays as it is. -/
theorem trim_eq_self {s : List Char} (first : ∀ c ∈ s.head?, Unicode.isWhiteSpace c = false)
    (last : ∀ c ∈ s.getLast?, Unicode.isWhiteSpace c = false) : trim s = s := by
  have started : trimStart s = s := by
    cases s with
    | nil => rfl
    | cons c rest => exact List.dropWhile_cons_of_neg (by simp [first c rfl])
  rw [trim, started, trimEnd, dropEndWhile_eq_self last]

/-- A text without white space stays as it is. -/
theorem trim_eq_self_of_not {s : List Char} (none : ∀ c ∈ s, Unicode.isWhiteSpace c = false) :
    trim s = s :=
  trim_eq_self (fun c first => none c (List.mem_of_mem_head? first))
    (fun c last => none c (List.mem_of_mem_getLast? last))

/-- What is put behind a text stays behind it when its start is trimmed, unless it is blank there. -/
theorem trimStart_append {c : Char} (filled : Unicode.isWhiteSpace c = false) (s more : List Char) :
    trimStart (s ++ c :: more) = trimStart s ++ c :: more := by
  rw [trimStart, List.dropWhile_append, trimStart]
  split
  · rename_i blank
    rw [List.isEmpty_iff.1 blank, List.dropWhile_cons_of_neg (by simp [filled])]
    rfl
  · rfl

/-- White space on both sides is trimmed. -/
theorem trim_padded {before s after : List Char} (blankBefore : ∀ c ∈ before, Unicode.isWhiteSpace c)
    (blankAfter : ∀ c ∈ after, Unicode.isWhiteSpace c)
    (first : ∀ c ∈ s.head?, Unicode.isWhiteSpace c = false)
    (last : ∀ c ∈ s.getLast?, Unicode.isWhiteSpace c = false) (nonempty : s ≠ []) :
    trim (before ++ (s ++ after)) = s := by
  have started : trimStart (before ++ (s ++ after)) = s ++ after := by
    rw [trimStart, List.dropWhile_append_of_pos blankBefore]
    cases s with
    | nil => exact absurd rfl nonempty
    | cons c rest => exact List.dropWhile_cons_of_neg (by simp [first c rfl])
  have ended : dropEndWhile Unicode.isWhiteSpace (s ++ after) =
      dropEndWhile Unicode.isWhiteSpace s := by
    have blank : ∀ c ∈ after.reverse, Unicode.isWhiteSpace c := fun c member =>
      blankAfter c (List.mem_reverse.1 member)
    rw [dropEndWhile, List.reverse_append, List.dropWhile_append_of_pos blank, dropEndWhile]
  rw [trim, started, trimEnd, ended, dropEndWhile_eq_self last]

theorem mem_of_mem_trim {s : List Char} {c : Char} (h : c ∈ trim s) : c ∈ s :=
  (List.dropWhile_sublist _).subset (mem_of_mem_dropEndWhile h)

/-- A text that begins with another character is only trimmed at its end. -/
theorem trim_cons {c : Char} (kept : Unicode.isWhiteSpace c = false) (s : List Char) :
    trim (c :: s) = c :: trimEnd s := by
  rw [trim, trimStart, List.dropWhile_cons_of_neg (by simp [kept]), trimEnd,
    dropEndWhile_cons_of_not kept]
  rfl

theorem trim_cons_ne_nil {c : Char} (kept : Unicode.isWhiteSpace c = false) (s : List Char) :
    trim (c :: s) ≠ [] := by
  rw [trim_cons kept]
  exact List.cons_ne_nil _ _

/-- What is left between two ends has nothing more to drop there. -/
theorem dropEndWhile_dropWhile_idem {p : Char → Bool} (s : List Char) :
    dropEndWhile p ((dropEndWhile p (s.dropWhile p)).dropWhile p) =
      dropEndWhile p (s.dropWhile p) := by
  cases start : s.dropWhile p with
  | nil => rfl
  | cons c rest =>
    have kept : p c = false := by
      have := List.head?_dropWhile_not p s
      simpa [start] using this
    rw [dropEndWhile_cons_of_not kept, List.dropWhile_cons_of_neg (by simp [kept]),
      dropEndWhile_cons_of_not kept, dropEndWhile_idem]

@[simp] theorem trim_trim (s : List Char) : trim (trim s) = trim s := dropEndWhile_dropWhile_idem s

/-- What is dropped at the end is what is to be dropped there. -/
theorem exists_eq_dropEndWhile_append (p : Char → Bool) (s : List Char) :
    ∃ dropped, s = dropEndWhile p s ++ dropped ∧ ∀ c ∈ dropped, p c := by
  refine ⟨(s.reverse.takeWhile p).reverse, ?_, fun c member => ?_⟩
  · rw [dropEndWhile, ← List.reverse_append, List.takeWhile_append_dropWhile, List.reverse_reverse]
  · exact List.all_eq_true.1 List.all_takeWhile c (List.mem_reverse.1 member)

/-- A text that was trimmed begins with no white space. -/
theorem isWhiteSpace_of_head?_trim {s : List Char} :
    ∀ c ∈ (trim s).head?, Unicode.isWhiteSpace c = false := by
  intro c first
  unfold trim trimEnd at first
  cases start : trimStart s with
  | nil =>
    rw [start] at first
    cases first
  | cons d rest =>
    have kept : Unicode.isWhiteSpace d = false := by
      have := List.head?_dropWhile_not Unicode.isWhiteSpace s
      rw [trimStart] at start
      simpa [start] using this
    rw [start, dropEndWhile_cons_of_not kept] at first
    obtain rfl := Option.some.inj first
    exact kept

theorem trim_append_blank {s blanks : List Char} (blank : ∀ c ∈ blanks, Unicode.isWhiteSpace c) :
    trim (s ++ blanks) = trim s := by
  have ended : ∀ c ∈ blanks.reverse, Unicode.isWhiteSpace c := fun c member =>
    blank c (List.mem_reverse.1 member)
  unfold trim trimEnd trimStart dropEndWhile
  rw [List.dropWhile_append]
  split
  · rename_i empty
    have gone : (blanks ++ []).dropWhile Unicode.isWhiteSpace = [] :=
      List.dropWhile_append_of_pos blank
    rw [List.append_nil] at gone
    rw [List.isEmpty_iff.1 empty, gone]
  · rw [List.reverse_append, List.dropWhile_append_of_pos ended]

/-! ## Words -/

/-- A word is not empty, and has no white space in it. -/
theorem mem_words {s word : List Char} (member : word ∈ words s) :
    word ≠ [] ∧ ∀ c ∈ word, Unicode.isWhiteSpace c = false := by
  obtain ⟨part, nonempty⟩ := List.mem_filter.1 member
  exact ⟨by simpa using nonempty, not_of_mem_splitBy part⟩

theorem mem_of_mem_words {s word : List Char} {c : Char} (h : word ∈ words s) (member : c ∈ word) :
    c ∈ s :=
  mem_of_mem_splitBy (List.mem_filter.1 h).1 member

/-- White space parts words. -/
theorem words_append {c : Char} (blank : Unicode.isWhiteSpace c) (s rest : List Char) :
    words (s ++ c :: rest) = words s ++ words rest := by
  rw [words, splitBy_append blank, List.filter_append]
  rfl

theorem words_cons_blank {c : Char} (blank : Unicode.isWhiteSpace c) (s : List Char) :
    words (c :: s) = words s :=
  words_append blank [] s

theorem words_blank_append {s blanks : List Char} (blank : ∀ c ∈ blanks, Unicode.isWhiteSpace c) :
    words (blanks ++ s) = words s := by
  induction blanks with
  | nil => rfl
  | cons c blanks ih =>
    obtain ⟨first, rest⟩ := List.forall_mem_cons.1 blank
    rw [List.cons_append, words_cons_blank first, ih rest]

theorem words_append_blank {s blanks : List Char} (blank : ∀ c ∈ blanks, Unicode.isWhiteSpace c) :
    words (s ++ blanks) = words s := by
  cases blanks with
  | nil => rw [List.append_nil]
  | cons c blanks =>
    obtain ⟨first, rest⟩ := List.forall_mem_cons.1 blank
    have none : words (blanks ++ []) = [] := words_blank_append rest
    rw [List.append_nil] at none
    rw [words_append first, none, List.append_nil]

/-- Trimming takes no words away. -/
@[simp] theorem words_trim (s : List Char) : words (trim s) = words s := by
  obtain ⟨dropped, split, blank⟩ := exists_eq_dropEndWhile_append Unicode.isWhiteSpace (trimStart s)
  have ended : words (trim s) = words (trimStart s) := by
    have parted := words_append_blank (s := trim s) blank
    rwa [trim, trimEnd, ← split, eq_comm] at parted
  have leading : ∀ c ∈ s.takeWhile Unicode.isWhiteSpace, Unicode.isWhiteSpace c :=
    List.all_eq_true.1 List.all_takeWhile
  have started := words_blank_append (s := s.dropWhile Unicode.isWhiteSpace) leading
  rw [List.takeWhile_append_dropWhile] at started
  exact ended.trans started.symm

/-- A word on its own. -/
theorem words_of_not {word : List Char} (nonempty : word ≠ [])
    (none : ∀ c ∈ word, Unicode.isWhiteSpace c = false) : words word = [word] := by
  rw [words, splitBy_of_not none]
  simp [nonempty]

/-- The first word of a text that begins with one. -/
theorem words_cons {c : Char} (filled : Unicode.isWhiteSpace c = false) (s : List Char) :
    ∃ rest, words (c :: s) = (c :: s).takeWhile (!Unicode.isWhiteSpace ·) :: rest := by
  have split := List.takeWhile_append_dropWhile (p := (!Unicode.isWhiteSpace ·)) (l := c :: s)
  have inside : ∀ d ∈ (c :: s).takeWhile (!Unicode.isWhiteSpace ·), Unicode.isWhiteSpace d = false :=
    fun d member => by simpa using List.all_eq_true.1 List.all_takeWhile d member
  have nonempty : (c :: s).takeWhile (!Unicode.isWhiteSpace ·) ≠ [] := by simp [filled]
  generalize (c :: s).takeWhile (!Unicode.isWhiteSpace ·) = first at split inside nonempty ⊢
  have alone : words first = [first] := words_of_not nonempty inside
  cases behind : (c :: s).dropWhile (!Unicode.isWhiteSpace ·) with
  | nil =>
    rw [behind, List.append_nil] at split
    exact ⟨[], by rw [← split, alone]⟩
  | cons d rest =>
    have blank : Unicode.isWhiteSpace d := by
      have := List.head?_dropWhile_not (!Unicode.isWhiteSpace ·) (c :: s)
      simpa [behind] using this
    rw [behind] at split
    exact ⟨words rest, by rw [← split, words_append blank, alone]; rfl⟩

/-! ## Lines -/

/-- A text without line feeds is one line. -/
theorem lines_of_not_mem {s : List Char} (nonempty : s ≠ []) (unbroken : '\n' ∉ s) :
    lines s = [s] := by
  have one : splitOn '\n' s = [s] := splitBy_of_not fun c member => by
    rw [beq_eq_false_iff_ne]
    rintro rfl
    exact unbroken member
  simp [lines, one, nonempty]

/-- No line holds a line feed. -/
theorem not_mem_of_mem_lines {s line : List Char} (h : line ∈ lines s) : '\n' ∉ line := by
  have part : line ∈ splitOn '\n' s := by
    unfold lines at h
    dsimp only at h
    split at h
    · exact (List.dropLast_sublist _).subset h
    · exact h
  exact fun member => absurd (not_of_mem_splitBy part '\n' member) (by decide)

/-- A text of one line is that line, with the end of the line behind it or not. -/
theorem trim_of_lines {s line : List Char} (single : lines s = [line]) : trim line = trim s := by
  unfold lines at single
  dsimp only at single
  have whole := intercalate_splitOn '\n' s
  split at single
  · rename_i ended
    obtain ⟨front, isFront⟩ := List.getLast?_eq_some_iff.1 (by simpa using ended)
    rw [isFront, List.dropLast_concat] at single
    rw [isFront, single] at whole
    have broken : s = line ++ ['\n'] := by simpa using whole.symm
    have blank : Unicode.isWhiteSpace '\n' := rfl
    rw [broken, trim_append_blank (by simpa using blank)]
  · rw [single] at whole
    simpa using congrArg trim whole

/-! ## Searching -/

theorem containsText_iff {part s : List Char} : containsText part s ↔ part <:+: s := by
  induction s with
  | nil => simp [containsText]
  | cons c rest ih =>
    rw [containsText, Bool.or_eq_true, ih, List.isPrefixOf_iff_prefix, List.infix_cons_iff]

/-! ## Letter case -/

@[simp] theorem toLower_toLower (c : Char) : c.toLower.toLower = c.toLower := by
  by_cases capital : c.val ≥ 'A'.val ∧ c.val ≤ 'Z'.val
  · have value : c.toLower.val = c.val + 32 := congrArg Char.val (dif_pos capital)
    have small : ¬ (c.toLower.val ≥ 'A'.val ∧ c.toLower.val ≤ 'Z'.val) := by
      rw [value]
      have low := UInt32.le_iff_toNat_le.1 capital.1
      have high := UInt32.le_iff_toNat_le.1 capital.2
      rintro ⟨_, above⟩
      have above := UInt32.le_iff_toNat_le.1 above
      rw [UInt32.toNat_add] at above
      have a : 'A'.val.toNat = 65 := rfl
      have z : 'Z'.val.toNat = 90 := rfl
      have shift : (32 : UInt32).toNat = 32 := rfl
      omega
    exact dif_neg small
  · have same : c.toLower = c := dif_neg capital
    rw [same, same]

@[simp] theorem lower_lower (s : List Char) : lower (lower s) = lower s := by
  simp [lower]

/-- A text stays as it is in small letters if it has no capital ones. -/
theorem lower_eq_self_iff {s : List Char} : lower s = s ↔ ∀ c ∈ s, c.toLower = c := by
  induction s with
  | nil => simp [lower]
  | cons c rest ih =>
    simp only [lower] at ih
    simp [lower, ih]

/-- What is done for characters in either case or in none can be done before or after they are made small. -/
theorem takeWhile_lower {p : Char → Bool} (caseless : ∀ c : Char, p c.toLower = p c)
    (s : List Char) : (lower s).takeWhile p = lower (s.takeWhile p) := by
  have same : p ∘ Char.toLower = p := funext caseless
  rw [lower, lower, List.takeWhile_map, same]

theorem dropWhile_lower {p : Char → Bool} (caseless : ∀ c : Char, p c.toLower = p c)
    (s : List Char) : (lower s).dropWhile p = lower (s.dropWhile p) := by
  have same : p ∘ Char.toLower = p := funext caseless
  rw [lower, lower, List.dropWhile_map, same]

theorem drop_lower (n : Nat) (s : List Char) : (lower s).drop n = lower (s.drop n) := by
  rw [lower, lower, List.map_drop]

theorem dropEndWhile_lower {p : Char → Bool} (caseless : ∀ c : Char, p c.toLower = p c)
    (s : List Char) : dropEndWhile p (lower s) = lower (dropEndWhile p s) := by
  have reversed : (lower s).reverse = lower s.reverse := List.map_reverse.symm
  rw [dropEndWhile, reversed, dropWhile_lower caseless, lower, ← List.map_reverse]
  rfl

/-- A text in small letters is split where it was split before. -/
theorem splitBy_lower {p : Char → Bool} (caseless : ∀ c : Char, p c.toLower = p c) (s : List Char) :
    splitBy p (lower s) = (splitBy p s).map lower := by
  induction s with
  | nil => rfl
  | cons c rest ih =>
    rw [lower] at ih
    simp only [lower, List.map_cons, splitBy, caseless, ih]
    split
    · rfl
    · cases split : splitBy p rest with
      | nil => exact absurd split (splitBy_ne_nil p rest)
      | cons part parts => rfl

theorem lower_intercalate {separator : Char} (caseless : separator.toLower = separator)
    (parts : List (List Char)) :
    lower ([separator].intercalate parts) = [separator].intercalate (parts.map lower) := by
  induction parts with
  | nil => rfl
  | cons part rest ih =>
    cases rest with
    | nil => simp [List.intercalate]
    | cons next rest =>
      rw [List.map_cons] at ih
      rw [List.intercalate_cons_cons, List.map_cons, List.map_cons, List.intercalate_cons_cons, ← ih]
      simp [lower, caseless]

theorem equalIgnoreCase_iff {a b : List Char} : equalIgnoreCase a b ↔ lower a = lower b := by
  simp [equalIgnoreCase]

theorem length_lower (s : List Char) : (lower s).length = s.length := by
  simp [lower]

theorem equalIgnoreCase_refl (s : List Char) : equalIgnoreCase s s := by
  simp [equalIgnoreCase]

end ContentFilter.Text
