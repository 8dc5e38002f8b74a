import ContentFilter.Json.Printer
import ContentFilter.Json.Reader
import Mathlib.Data.List.DropRight
import Mathlib.Tactic.SplitIfs

/-!
# Reading what was written

Both texts of a value that is whole, the compact one and the indented one, read back as that value,
whatever stands behind them, as long as that cannot go on with a number.  The two differ in the blanks
in front of the items and of the closing mark alone, so one lemma about texts between commas serves
both.
-/

namespace ContentFilter.Json

/-! ## Strings -/

/-- Hexadecimal digits have the values that they were written for. -/
theorem hexValue?_hexChar {n : Nat} (small : n < 16) : hexValue? (hexChar n) = some n := by
  have all : ∀ n < 16, hexValue? (hexChar n) = some n := by decide
  exact all n small

/-- A written character is read as itself. -/
theorem readString_escapeChar (state : StringState) (c : Char) (rest : List Char) :
    readString state (escapeChar c ++ rest) = readString (state.push c) rest := by
  unfold escapeChar
  split_ifs with quote backslash feed ret tab back form control
  · subst quote; rfl
  · subst backslash; rfl
  · subst feed; rfl
  · subst ret; rfl
  · subst tab; rfl
  · subst back; rfl
  · subst form; rfl
  · have unit : unit? '0' '0' (hexChar (c.toNat / 16)) (hexChar (c.toNat % 16)) = some c.toNat := by
      have zero : hexValue? '0' = some 0 := rfl
      have high := @hexValue?_hexChar (c.toNat / 16) (by omega)
      have low := @hexValue?_hexChar (c.toNat % 16) (by omega)
      simp only [unit?, zero, high, low, Option.bind_eq_bind, Option.bind_some, Option.pure_def,
        Option.some.injEq]
      omega
    have plain : state.pushUnit c.toNat = state.push c := by
      rw [StringState.pushUnit, if_neg (by simp; omega), if_neg (by simp; omega), Char.ofNat_toNat]
    show readString state ('\\' :: 'u' :: '0' :: '0' :: hexChar (c.toNat / 16) ::
      hexChar (c.toNat % 16) :: rest) = _
    rw [readString, unit]
    dsimp only
    rw [plain]
  · rw [List.singleton_append, readString]
    · rw [if_neg control]
    all_goals simp_all

/-- A written string is read as itself. -/
theorem readString_flatMap (s seen rest : List Char) :
    readString ⟨seen, none, true⟩ (s.flatMap escapeChar ++ '"' :: rest) =
      some (.string (String.ofList (seen.reverse ++ s)), rest) := by
  induction s generalizing seen with
  | nil => rw [List.append_nil]; rfl
  | cons c s ih =>
    have pushed : StringState.push ⟨seen, none, true⟩ c = ⟨c :: seen, none, true⟩ := rfl
    rw [List.flatMap_cons, List.append_assoc, readString_escapeChar, pushed, ih, List.reverse_cons,
      List.append_assoc, List.singleton_append]

/-! ## Numbers -/

/-- A text in which no number goes on: it is at its end, at one of the marks behind a value, or at the
end of a line. -/
def Ends (rest : List Char) : Prop :=
  ∀ c, rest.head? = some c → c = ',' ∨ c = ']' ∨ c = '\x7d' ∨ c = '\n'

theorem ends_nil : Ends [] := by
  intro c head
  cases head

theorem ends_cons {c : Char} (mark : c = ',' ∨ c = ']' ∨ c = '\x7d' ∨ c = '\n')
    (rest : List Char) : Ends (c :: rest) := by
  intro d head
  cases head
  exact mark

/-- The digits in front of the end are all of them. -/
theorem spanDigits_append {digits rest : List Char} (all : ∀ d ∈ digits, d.isDigit)
    (ends : Ends rest) : spanDigits (digits ++ rest) = (digits, rest) := by
  have stop : rest.takeWhile Char.isDigit = [] ∧ rest.dropWhile Char.isDigit = rest := by
    rcases rest with _ | ⟨c, rest⟩
    · exact ⟨rfl, rfl⟩
    · rcases ends c rfl with rfl | rfl | rfl | rfl <;> exact ⟨rfl, rfl⟩
  rw [spanDigits, List.takeWhile_append_of_pos all, List.dropWhile_append_of_pos all, stop.1, stop.2,
    List.append_nil]

theorem readFraction_of_ends {rest : List Char} (ends : Ends rest) :
    readFraction rest = some ([], rest) := by
  rcases rest with _ | ⟨c, rest⟩
  · rfl
  · rcases ends c rfl with rfl | rfl | rfl | rfl <;> rfl

theorem readExponent_of_ends {rest : List Char} (ends : Ends rest) :
    readExponent rest = some ([], rest) := by
  rcases rest with _ | ⟨c, rest⟩
  · rfl
  · rcases ends c rfl with rfl | rfl | rfl | rfl <;> rfl

theorem ne_of_isDigit {d c : Char} (digit : d.isDigit) (other : c.isDigit = false) : d ≠ c := by
  rintro rfl
  rw [digit] at other
  cases other

theorem isBlank_of_isDigit {d : Char} (digit : d.isDigit) : isBlank d = false := by
  simp [isBlank, ne_of_isDigit digit]

theorem isDigit_of_mem_toDigits {n : Nat} : ∀ d ∈ Nat.toDigits 10 n, d.isDigit := fun _ =>
  Nat.isDigit_of_mem_toDigits (by decide) (by decide)

/-- Only zero is written with a zero in front. -/
theorem head_toDigits_ne (n : Nat) (positive : 0 < n) : (Nat.toDigits 10 n).head? ≠ some '0' := by
  induction n using Nat.strongRecOn with
  | _ n ih =>
    rw [Nat.toDigits_eq_if (by decide)]
    split
    · simp only [List.head?_cons, ne_eq, Option.some.injEq, Nat.digitChar_eq_zero]
      omega
    · rw [List.head?_append_of_ne_nil _ Nat.toDigits_ne_nil]
      exact ih (n / 10) (by omega) (by omega)

/-- Digits are read as a number, unless there is a zero too many in front. -/
theorem readNumber_append {digits rest : List Char} (nonempty : digits ≠ [])
    (all : ∀ d ∈ digits, d.isDigit) (zero : digits.head? = some '0' → digits.length = 1)
    (ends : Ends rest) :
    readNumber (digits ++ rest) = some (.number (String.ofList digits), rest) := by
  have span := spanDigits_append all ends
  have lead : (digits.isEmpty || (digits.head? == some '0' && digits.length != 1)) = false := by
    rw [Bool.or_eq_false_iff, List.isEmpty_eq_false_iff, Bool.and_eq_false_iff]
    refine ⟨nonempty, ?_⟩
    by_cases leading : digits.head? = some '0'
    · exact .inr (by simp [zero leading])
    · exact .inl (by simpa using leading)
  unfold readNumber
  split
  rename_i sign text same
  have unsigned : (sign, text) = ([], digits ++ rest) := by
    rw [← same]
    split
    · rename_i minus
      rcases digits with _ | ⟨d, digits⟩
      · exact absurd rfl nonempty
      · obtain ⟨rfl, -⟩ := List.cons.inj minus
        exact absurd (all '-' List.mem_cons_self) (by decide)
    · rfl
  obtain ⟨rfl, rfl⟩ := Prod.mk.inj unsigned
  rw [span]
  simp [lead, readFraction_of_ends ends, readExponent_of_ends ends]

/-- A written number is read as itself. -/
theorem readNumber_toDigits (n : Nat) {rest : List Char} (ends : Ends rest) :
    readNumber (Nat.toDigits 10 n ++ rest) = some (.nat n, rest) := by
  have literal : Json.nat n = .number (String.ofList (Nat.toDigits 10 n)) := by
    rw [Json.nat, Nat.toString_eq_ofList_toDigits]
  rw [literal]
  refine readNumber_append Nat.toDigits_ne_nil isDigit_of_mem_toDigits (fun leading => ?_) ends
  rcases Nat.eq_zero_or_pos n with rfl | positive
  · rfl
  · exact absurd leading (head_toDigits_ne n positive)

/-! ## Texts that spell a value -/

/-- A text spells a value if it begins with a character that can stand neither between tokens nor behind
the last item of an array, and is read as the value with fuel for its length. -/
structure Spells (text : List Char) (json : Json) : Prop where
  token : ∃ c behind, text = c :: behind ∧ isBlank c = false ∧ c ≠ ']'
  read : ∀ fuel rest, text.length ≤ fuel + 1 → Ends rest →
    readValue (fuel + 1) (text ++ rest) = (json, some rest)

/-- Characters that may all stand between tokens. -/
def Blank (text : List Char) : Prop := ∀ c ∈ text, isBlank c

theorem blank_nil : Blank [] := List.forall_mem_nil _

theorem blank_newLine (level : Nat) : Blank (newLine level).toList := by
  intro c member
  rw [newLine, String.toList_ofList] at member
  rcases List.mem_cons.1 member with rfl | indented
  · rfl
  · rw [List.eq_of_mem_replicate indented]
    rfl

theorem skipBlanks_cons {c : Char} (token : isBlank c = false) (text : List Char) :
    skipBlanks (c :: text) = c :: text :=
  List.dropWhile_cons_of_neg (by simp [token])

theorem skipBlanks_append {blanks : List Char} (blank : Blank blanks) (text : List Char) :
    skipBlanks (blanks ++ text) = skipBlanks text :=
  List.dropWhile_append_of_pos blank

theorem skipBlanks_skipBlanks (text : List Char) :
    skipBlanks (skipBlanks text) = skipBlanks text :=
  List.dropWhile_idempotent isBlank text

theorem readValue_skipBlanks (fuel : Nat) (text : List Char) :
    readValue fuel (skipBlanks text) = readValue fuel text := by
  cases fuel with
  | zero => rfl
  | succ fuel => rw [readValue, readValue, skipBlanks_skipBlanks]

theorem readItems_skipBlanks (fuel : Nat) (seen : List Json) (text : List Char) :
    readItems fuel seen (skipBlanks text) = readItems fuel seen text := by
  cases fuel with
  | zero => rfl
  | succ fuel => rw [readItems, readItems, readValue_skipBlanks]

theorem readFields_skipBlanks (fuel : Nat) (seen : List (String × Json)) (text : List Char) :
    readFields fuel seen (skipBlanks text) = readFields fuel seen text := by
  cases fuel with
  | zero => rfl
  | succ fuel => rw [readFields, readFields, skipBlanks_skipBlanks]

/-- Blanks in front of a text do not count. -/
theorem Spells.read_blanks {text : List Char} {json : Json} (spells : Spells text json)
    {blanks : List Char} (blank : Blank blanks) {fuel : Nat} {rest : List Char}
    (enough : text.length ≤ fuel + 1) (ends : Ends rest) :
    readValue (fuel + 1) (blanks ++ (text ++ rest)) = (json, some rest) := by
  rw [← readValue_skipBlanks, skipBlanks_append blank, readValue_skipBlanks,
    spells.read fuel rest enough ends]

theorem Spells.length_pos {text : List Char} {json : Json} (spells : Spells text json) :
    0 < text.length := by
  obtain ⟨c, behind, rfl, -⟩ := spells.token
  exact Nat.succ_pos _

/-! The first character tells what is read. -/

theorem readValue_quote (fuel : Nat) (text : List Char) :
    readValue (fuel + 1) ('"' :: text) =
      match readString ⟨[], none, true⟩ text with
      | some (value, rest) => (value, some rest)
      | none => (.broken, none) := rfl

theorem readValue_bracket (fuel : Nat) (text : List Char) :
    readValue (fuel + 1) ('[' :: text) =
      match skipBlanks text with
      | ']' :: rest => (.array [] true, some rest)
      | rest => readItems fuel [] rest := rfl

theorem readValue_brace (fuel : Nat) (text : List Char) :
    readValue (fuel + 1) ('\x7b' :: text) =
      match skipBlanks text with
      | '\x7d' :: rest => (.object [] true, some rest)
      | rest => readFields fuel [] rest := rfl

theorem readValue_of_isDigit {d : Char} (digit : d.isDigit) (fuel : Nat) (text : List Char) :
    readValue (fuel + 1) (d :: text) =
      match readNumber (d :: text) with
      | some (value, rest) => (value, some rest)
      | none => (.broken, none) := by
  rw [readValue, skipBlanks_cons (isBlank_of_isDigit digit)]
  have other : ∀ c : Char, c.isDigit = false → d ≠ c := fun _ => ne_of_isDigit digit
  split
  · rename_i same
    cases same
  · rename_i same
    exact absurd (List.cons.inj same).1 (other '"' rfl)
  · rename_i same
    exact absurd (List.cons.inj same).1 (other '[' rfl)
  · rename_i same
    exact absurd (List.cons.inj same).1 (other '\x7b' rfl)
  · rename_i same
    obtain ⟨rfl, rfl⟩ := List.cons.inj same
    dsimp only
    exact (if_neg (other 'n' rfl)).trans
      ((if_neg (other 't' rfl)).trans (if_neg (other 'f' rfl)))

theorem spells_null : Spells "null".toList .null :=
  ⟨⟨'n', _, rfl, rfl, by decide⟩, fun _ _ _ _ => rfl⟩

theorem spells_true : Spells "true".toList (.bool true) :=
  ⟨⟨'t', _, rfl, rfl, by decide⟩, fun _ _ _ _ => rfl⟩

theorem spells_false : Spells "false".toList (.bool false) :=
  ⟨⟨'f', _, rfl, rfl, by decide⟩, fun _ _ _ _ => rfl⟩

theorem toList_quote (s : String) :
    (quote s).toList = '"' :: (s.toList.flatMap escapeChar ++ ['"']) := by
  simp [quote]

theorem spells_quote (s : String) : Spells (quote s).toList (.string s) where
  token := ⟨'"', _, toList_quote s, rfl, by decide⟩
  read fuel rest _ _ := by
    rw [toList_quote, List.cons_append, List.append_assoc, List.singleton_append, readValue_quote,
      readString_flatMap, List.reverse_nil, List.nil_append, String.ofList_toList]

theorem spells_nat (n : Nat) : Spells (toString n).toList (.nat n) := by
  rw [Nat.toString_eq_ofList_toDigits, String.toList_ofList]
  obtain ⟨d, digits, same, digit⟩ : ∃ d digits, Nat.toDigits 10 n = d :: digits ∧ d.isDigit := by
    rcases same : Nat.toDigits 10 n with _ | ⟨d, digits⟩
    · exact absurd same Nat.toDigits_ne_nil
    · exact ⟨d, digits, rfl, isDigit_of_mem_toDigits d (same ▸ List.mem_cons_self)⟩
  constructor
  case token => exact ⟨d, digits, same, isBlank_of_isDigit digit, ne_of_isDigit digit rfl⟩
  case read =>
    intro fuel rest _ ends
    have number := readNumber_toDigits n ends
    rw [same, List.cons_append] at number ⊢
    rw [readValue_of_isDigit digit, number]

/-! ## Texts between commas -/

/-- Texts between commas, with blanks in front of each of them. -/
def joined (blanks : List Char) (texts : List (List Char)) : List Char :=
  [','].intercalate (texts.map (blanks ++ ·))

theorem joined_singleton (blanks text : List Char) : joined blanks [text] = blanks ++ text := by
  simp [joined, List.intercalate]

theorem joined_cons_cons (blanks text next : List Char) (texts : List (List Char)) :
    joined blanks (text :: next :: texts) =
      blanks ++ (text ++ ',' :: joined blanks (next :: texts)) := by
  simp [joined, List.intercalate]

/-- Behind the blanks stands the first character of the first text. -/
theorem skipBlanks_joined {blanks : List Char} (blank : Blank blanks) {text behind : List Char}
    {c : Char} (same : text = c :: behind) (token : isBlank c = false) (texts : List (List Char))
    (rest : List Char) :
    ∃ behind, skipBlanks (joined blanks (text :: texts) ++ rest) = c :: behind := by
  subst same
  cases texts with
  | nil =>
    rw [joined_singleton, List.append_assoc, skipBlanks_append blank, List.cons_append,
      skipBlanks_cons token]
    exact ⟨_, rfl⟩
  | cons next texts =>
    rw [joined_cons_cons, List.append_assoc, skipBlanks_append blank, List.append_assoc,
      List.cons_append, skipBlanks_cons token]
    exact ⟨_, rfl⟩

/-- The text of a field: its name, a colon, and behind a gap the text of its value. -/
def fieldText (gap : List Char) (key : String) (text : List Char) : List Char :=
  (quote key).toList ++ ':' :: (gap ++ text)

theorem fieldText_append (gap : List Char) (key : String) (text rest : List Char) :
    fieldText gap key text ++ rest = (quote key).toList ++ ':' :: (gap ++ (text ++ rest)) := by
  simp [fieldText]

theorem fieldText_eq_cons (gap : List Char) (key : String) (text : List Char) :
    ∃ behind, fieldText gap key text = '"' :: behind := by
  rw [fieldText, toList_quote]
  exact ⟨_, rfl⟩

theorem length_fieldText (gap : List Char) (key : String) (text : List Char) :
    text.length < (fieldText gap key text).length := by
  simp only [fieldText, List.length_append, List.length_cons]
  omega

/-- Behind its name a field has its value. -/
theorem readFields_key {blanks : List Char} (blank : Blank blanks) (fuel : Nat)
    (seen : List (String × Json)) (key : String) (text : List Char) :
    readFields (fuel + 1) seen (blanks ++ ((quote key).toList ++ ':' :: text)) =
      match readValue fuel text with
      | (value, none) => (.object ((key, value) :: seen).reverse false, none)
      | (value, some rest) =>
        match skipBlanks rest with
        | ',' :: rest => readFields fuel ((key, value) :: seen) rest
        | '\x7d' :: rest => (.object ((key, value) :: seen).reverse true, some rest)
        | _ => (.object ((key, value) :: seen).reverse false, none) := by
  have name := readString_flatMap key.toList [] (':' :: text)
  rw [List.reverse_nil, List.nil_append, String.ofList_toList] at name
  rw [← readFields_skipBlanks, skipBlanks_append blank, readFields_skipBlanks, toList_quote,
    List.cons_append, List.append_assoc, List.singleton_append, readFields, skipBlanks_cons rfl]
  simp only [name]
  rw [skipBlanks_cons rfl]
  rfl

section Joined

variable {blanks close : List Char} (blank : Blank blanks) (closeBlank : Blank close)
include blank closeBlank

/-- Items are read up to the bracket behind them, by induction on the items. -/
theorem readItems_joined {α : Type} {text : α → List Char} {value : α → Json} {items : List α}
    (nonempty : items ≠ []) (spells : ∀ item ∈ items, Spells (text item) (value item))
    (seen : List Json) (rest : List Char) (ends : Ends (close ++ ']' :: rest)) {fuel : Nat}
    (enough : (joined blanks (items.map text)).length ≤ fuel) :
    readItems (fuel + 1) seen (joined blanks (items.map text) ++ (close ++ ']' :: rest)) =
      (.array (seen.reverse ++ items.map value) true, some rest) := by
  induction items generalizing seen fuel with
  | nil => exact absurd rfl nonempty
  | cons item tail ih =>
    have first := spells item List.mem_cons_self
    have positive := first.length_pos
    cases tail with
    | nil =>
      rw [List.map_cons, List.map_nil] at enough ⊢
      rw [joined_singleton, List.length_append] at enough
      obtain ⟨fuel, rfl⟩ : ∃ less, fuel = less + 1 := ⟨fuel - 1, by omega⟩
      rw [joined_singleton, List.append_assoc, readItems, first.read_blanks blank (by omega) ends]
      dsimp only
      rw [skipBlanks_append closeBlank, skipBlanks_cons rfl]
      simp
    | cons next tail =>
      rw [List.map_cons, List.map_cons] at enough ⊢
      rw [joined_cons_cons, List.length_append, List.length_append, List.length_cons] at enough
      obtain ⟨fuel, rfl⟩ : ∃ less, fuel = less + 1 := ⟨fuel - 1, by omega⟩
      have shorter : (joined blanks ((next :: tail).map text)).length ≤ fuel := by
        rw [List.map_cons]
        omega
      have later := ih (List.cons_ne_nil next tail)
        (fun item member => spells item (List.mem_cons_of_mem _ member)) (value item :: seen)
        shorter
      rw [joined_cons_cons, List.append_assoc, List.append_assoc, List.cons_append, readItems,
        first.read_blanks blank (by omega) (ends_cons (.inl rfl) _)]
      show readItems (fuel + 1) (value item :: seen) _ = _
      rw [List.map_cons] at later
      rw [later]
      simp

/-- A list between brackets spells its items. -/
theorem spells_list {α : Type} {text : α → List Char} {value : α → Json} {items : List α}
    (nonempty : items ≠ []) (spells : ∀ item ∈ items, Spells (text item) (value item))
    (ends : ∀ rest, Ends (close ++ ']' :: rest)) :
    Spells ('[' :: (joined blanks (items.map text) ++ (close ++ [']'])))
      (.list (items.map value)) := by
  refine ⟨⟨'[', _, rfl, rfl, by decide⟩, fun fuel rest enough _ => ?_⟩
  obtain ⟨item, tail, rfl⟩ := List.exists_cons_of_ne_nil nonempty
  have bound : (joined blanks ((item :: tail).map text)).length + 2 ≤ fuel + 1 := by
    simp only [List.length_cons, List.length_append] at enough
    simp only [List.map_cons] at enough ⊢
    omega
  obtain ⟨fuel, rfl⟩ : ∃ less, fuel = less + 1 := ⟨fuel - 1, by omega⟩
  have shorter : (joined blanks ((item :: tail).map text)).length ≤ fuel := by omega
  have read := readItems_joined blank closeBlank nonempty spells [] rest (ends rest) shorter
  have regrouped : '[' :: (joined blanks ((item :: tail).map text) ++ (close ++ [']'])) ++ rest =
      '[' :: (joined blanks ((item :: tail).map text) ++ (close ++ ']' :: rest)) := by simp
  rw [regrouped, readValue_bracket]
  -- The first item is no closing bracket.
  obtain ⟨c, behind, same, token, open_⟩ := (spells item List.mem_cons_self).token
  have first : ∃ behind, skipBlanks (joined blanks ((item :: tail).map text) ++
      (close ++ ']' :: rest)) = c :: behind := skipBlanks_joined blank same token _ _
  obtain ⟨behind, first⟩ := first
  split
  · rename_i closed
    rw [first] at closed
    exact absurd (List.cons.inj closed).1 open_
  · rw [readItems_skipBlanks, read]
    rfl

/-- Fields are read up to the brace behind them, by induction on the fields. -/
theorem readFields_joined {gap : List Char} (gapBlank : Blank gap) {α : Type} {key : α → String}
    {text : α → List Char} {value : α → Json} {fields : List α} (nonempty : fields ≠ [])
    (spells : ∀ field ∈ fields, Spells (text field) (value field))
    (seen : List (String × Json)) (rest : List Char) (ends : Ends (close ++ '\x7d' :: rest))
    {fuel : Nat}
    (enough : (joined blanks (fields.map fun field =>
      fieldText gap (key field) (text field))).length ≤ fuel) :
    readFields (fuel + 1) seen
        (joined blanks (fields.map fun field => fieldText gap (key field) (text field)) ++
          (close ++ '\x7d' :: rest)) =
      (.object (seen.reverse ++ fields.map fun field => (key field, value field)) true,
        some rest) := by
  induction fields generalizing seen fuel with
  | nil => exact absurd rfl nonempty
  | cons field tail ih =>
    have first := spells field List.mem_cons_self
    have positive := first.length_pos
    have size := length_fieldText gap (key field) (text field)
    cases tail with
    | nil =>
      rw [List.map_cons, List.map_nil] at enough ⊢
      rw [joined_singleton, List.length_append] at enough
      obtain ⟨fuel, rfl⟩ : ∃ less, fuel = less + 1 := ⟨fuel - 1, by omega⟩
      rw [joined_singleton, List.append_assoc, fieldText_append, readFields_key blank,
        first.read_blanks gapBlank (by omega) ends]
      dsimp only
      rw [skipBlanks_append closeBlank, skipBlanks_cons rfl]
      simp
    | cons next tail =>
      rw [List.map_cons, List.map_cons] at enough ⊢
      rw [joined_cons_cons, List.length_append, List.length_append, List.length_cons] at enough
      obtain ⟨fuel, rfl⟩ : ∃ less, fuel = less + 1 := ⟨fuel - 1, by omega⟩
      have shorter : (joined blanks ((next :: tail).map fun field =>
          fieldText gap (key field) (text field))).length ≤ fuel := by
        rw [List.map_cons]
        omega
      have later := ih (List.cons_ne_nil next tail)
        (fun field member => spells field (List.mem_cons_of_mem _ member))
        ((key field, value field) :: seen) shorter
      rw [joined_cons_cons, List.append_assoc, List.append_assoc, List.cons_append,
        fieldText_append, readFields_key blank,
        first.read_blanks gapBlank (by omega) (ends_cons (.inl rfl) _)]
      show readFields (fuel + 1) ((key field, value field) :: seen) _ = _
      rw [List.map_cons] at later
      rw [later]
      simp

/-- Fields between braces spell a record. -/
theorem spells_record {gap : List Char} (gapBlank : Blank gap) {α : Type} (key : α → String)
    {text : α → List Char} {value : α → Json} {fields : List α} (nonempty : fields ≠ [])
    (spells : ∀ field ∈ fields, Spells (text field) (value field))
    (ends : ∀ rest, Ends (close ++ '\x7d' :: rest)) :
    Spells ('\x7b' ::
        (joined blanks (fields.map fun field => fieldText gap (key field) (text field)) ++
          (close ++ ['\x7d'])))
      (.record (fields.map fun field => (key field, value field))) := by
  refine ⟨⟨'\x7b', _, rfl, rfl, by decide⟩, fun fuel rest enough _ => ?_⟩
  obtain ⟨field, tail, rfl⟩ := List.exists_cons_of_ne_nil nonempty
  generalize texts : (field :: tail).map (fun field => fieldText gap (key field) (text field)) =
    fieldTexts at enough
  have bound : (joined blanks fieldTexts).length + 2 ≤ fuel + 1 := by
    simp only [List.length_cons, List.length_append] at enough
    omega
  obtain ⟨fuel, rfl⟩ : ∃ less, fuel = less + 1 := ⟨fuel - 1, by omega⟩
  have shorter : (joined blanks fieldTexts).length ≤ fuel := by omega
  subst texts
  have read := readFields_joined blank closeBlank gapBlank nonempty spells [] rest (ends rest)
    shorter
  have regrouped : ∀ middle : List Char, '\x7b' :: (middle ++ (close ++ ['\x7d'])) ++ rest =
      '\x7b' :: (middle ++ (close ++ '\x7d' :: rest)) := fun _ => by simp
  rw [regrouped, readValue_brace]
  -- The first field begins with a quotation mark.
  obtain ⟨behind, quoted⟩ := fieldText_eq_cons gap (key field) (text field)
  have first : ∃ behind, skipBlanks (joined blanks ((field :: tail).map fun field =>
      fieldText gap (key field) (text field)) ++ (close ++ '\x7d' :: rest)) = '"' :: behind :=
    skipBlanks_joined blank quoted rfl _ _
  obtain ⟨behind, first⟩ := first
  split
  · rename_i closed
    rw [first] at closed
    exact absurd (List.cons.inj closed).1 (by decide)
  · rw [readFields_skipBlanks, read]
    rfl

end Joined

/-! ## The two texts of a value -/

/-- A value that is whole, and whose numbers are natural ones. -/
inductive Plain : Json → Prop where
  | null : Plain .null
  | bool (b : Bool) : Plain (.bool b)
  | nat (n : Nat) : Plain (.nat n)
  | string (s : String) : Plain (.string s)
  | list {items : List Json} (plain : ∀ item ∈ items, Plain item) : Plain (.list items)
  | record {fields : List (String × Json)} (plain : ∀ field ∈ fields, Plain field.2) :
    Plain (.record fields)

attribute [simp] Plain.null Plain.bool Plain.nat Plain.string

@[simp] theorem plain_record_iff {fields : List (String × Json)} :
    Plain (.record fields) ↔ ∀ field ∈ fields, Plain field.2 := by
  constructor
  · rintro (_ | _ | _ | _ | _ | plain)
    exact plain
  · exact .record

@[simp] theorem plain_list_iff {items : List Json} :
    Plain (.list items) ↔ ∀ item ∈ items, Plain item := by
  constructor
  · rintro (_ | _ | _ | _ | plain | _)
    exact plain
  · exact .list

theorem Plain.option {α : Type} {encode : α → Json} (plain : ∀ a, Plain (encode a)) (o : Option α) :
    Plain (.option encode o) := by
  cases o with
  | none => exact .null
  | some a => exact plain a

theorem Plain.map {α : Type} {encode : α → Json} {values : List α}
    (plain : ∀ a, Plain (encode a)) : Plain (.list (values.map encode)) := by
  apply Plain.list
  intro item member
  obtain ⟨a, -, rfl⟩ := List.mem_map.1 member
  exact plain a

@[simp] theorem plain_strings (values : List String) : Plain (strings values) := .map .string

theorem toList_compressItems (items : List Json) :
    (compressItems items).toList = joined [] (items.map (·.compress.toList)) := by
  induction items with
  | nil => rfl
  | cons item tail ih =>
    cases tail with
    | nil => simp [compressItems, joined_singleton]
    | cons next tail =>
      rw [List.map_cons] at ih
      rw [List.map_cons, List.map_cons, joined_cons_cons, ← ih, compressItems]
      · simp
      · simp

theorem toList_compressFields (fields : List (String × Json)) :
    (compressFields fields).toList =
      joined [] (fields.map fun field => fieldText [] field.1 field.2.compress.toList) := by
  induction fields with
  | nil => rfl
  | cons field tail ih =>
    obtain ⟨key, value⟩ := field
    cases tail with
    | nil => simp [compressFields, joined_singleton, fieldText]
    | cons next tail =>
      rw [List.map_cons] at ih
      rw [List.map_cons, List.map_cons, joined_cons_cons, ← ih, compressFields]
      · simp [fieldText]
      · simp

theorem toList_prettyItems (level : Nat) (items : List Json) :
    (prettyItems level items).toList =
      joined (newLine level).toList (items.map fun item => (item.prettyAt level).toList) := by
  induction items with
  | nil => rfl
  | cons item tail ih =>
    cases tail with
    | nil => simp [prettyItems, joined_singleton]
    | cons next tail =>
      rw [List.map_cons] at ih
      rw [List.map_cons, List.map_cons, joined_cons_cons, ← ih, prettyItems]
      · simp
      · simp

theorem toList_prettyFields (level : Nat) (fields : List (String × Json)) :
    (prettyFields level fields).toList =
      joined (newLine level).toList
        (fields.map fun field => fieldText [' '] field.1 (field.2.prettyAt level).toList) := by
  induction fields with
  | nil => rfl
  | cons field tail ih =>
    obtain ⟨key, value⟩ := field
    cases tail with
    | nil => simp [prettyFields, joined_singleton, fieldText]
    | cons next tail =>
      rw [List.map_cons] at ih
      rw [List.map_cons, List.map_cons, joined_cons_cons, ← ih, prettyFields]
      · simp [fieldText]
      · simp

theorem spells_emptyList : Spells "[]".toList (.list []) :=
  ⟨⟨'[', _, rfl, rfl, by decide⟩, fun _ _ _ _ => rfl⟩

theorem spells_emptyRecord : Spells "\x7b\x7d".toList (.record []) :=
  ⟨⟨'\x7b', _, rfl, rfl, by decide⟩, fun _ _ _ _ => rfl⟩

/-- The compact text of a whole value spells it, by induction on how it is whole. -/
theorem Plain.spells_compress {json : Json} (plain : Plain json) :
    Spells json.compress.toList json := by
  induction plain with
  | null => exact spells_null
  | bool b =>
    cases b with
    | false => exact spells_false
    | true => exact spells_true
  | nat n => exact spells_nat n
  | string s => exact spells_quote s
  | @list items _ spells =>
    have ends (rest : List Char) : Ends ([] ++ ']' :: rest) := ends_cons (.inr (.inl rfl)) rest
    rcases items with _ | ⟨item, tail⟩
    · exact spells_emptyList
    · have whole := spells_list blank_nil blank_nil (List.cons_ne_nil item tail) spells ends
      rw [List.map_id'] at whole
      rw [Json.list, compress, String.toList_append, String.toList_append, toList_compressItems]
      exact whole
  | @record fields _ spells =>
    have ends (rest : List Char) : Ends ([] ++ '\x7d' :: rest) :=
      ends_cons (.inr (.inr (.inl rfl))) rest
    rcases fields with _ | ⟨field, tail⟩
    · exact spells_emptyRecord
    · have whole := spells_record blank_nil blank_nil blank_nil Prod.fst
        (List.cons_ne_nil field tail) spells ends
      rw [List.map_id'] at whole
      rw [Json.record, compress, String.toList_append, String.toList_append, toList_compressFields]
      exact whole

/-- The indented text of a whole value spells it at every level. -/
theorem Plain.spells_prettyAt {json : Json} (plain : Plain json) (level : Nat) :
    Spells (json.prettyAt level).toList json := by
  induction plain generalizing level with
  | null => exact spells_null
  | bool b =>
    cases b with
    | false => exact spells_false
    | true => exact spells_true
  | nat n => exact spells_nat n
  | string s => exact spells_quote s
  | @list items _ spells =>
    have ends (rest : List Char) : Ends ((newLine level).toList ++ ']' :: rest) := by
      rw [newLine, String.toList_ofList]
      exact ends_cons (.inr (.inr (.inr rfl))) _
    rcases items with _ | ⟨item, tail⟩
    · exact spells_emptyList
    · have whole := spells_list (blank_newLine (level + 1)) (blank_newLine level)
        (List.cons_ne_nil item tail) (fun item member => spells item member (level + 1)) ends
      rw [List.map_id'] at whole
      rw [Json.list, prettyAt, String.toList_append, String.toList_append, String.toList_append,
        toList_prettyItems, List.append_assoc, List.append_assoc]
      exact whole
  | @record fields _ spells =>
    have ends (rest : List Char) : Ends ((newLine level).toList ++ '\x7d' :: rest) := by
      rw [newLine, String.toList_ofList]
      exact ends_cons (.inr (.inr (.inr rfl))) _
    rcases fields with _ | ⟨field, tail⟩
    · exact spells_emptyRecord
    · have space : Blank [' '] := List.forall_mem_singleton.2 rfl
      have whole := spells_record (blank_newLine (level + 1)) (blank_newLine level) space Prod.fst
        (List.cons_ne_nil field tail) (fun field member => spells field member (level + 1)) ends
      rw [List.map_id'] at whole
      rw [Json.record, prettyAt, String.toList_append, String.toList_append, String.toList_append,
        toList_prettyFields, List.append_assoc, List.append_assoc]
      exact whole

/-- A text that spells a value reads as the value, with nothing behind it. -/
theorem Spells.read_eq {text : String} {json : Json} (spells : Spells text.toList json) :
    Json.read text = ⟨json, true⟩ := by
  have back := spells.read text.toList.length [] (Nat.le_succ _) ends_nil
  rw [List.append_nil] at back
  unfold Json.read
  simp only [back]
  rfl

theorem Plain.read_compress {json : Json} (plain : Plain json) :
    Json.read json.compress = ⟨json, true⟩ :=
  plain.spells_compress.read_eq

theorem Plain.read_pretty {json : Json} (plain : Plain json) :
    Json.read json.pretty = ⟨json, true⟩ :=
  (plain.spells_prettyAt 0).read_eq

end ContentFilter.Json
