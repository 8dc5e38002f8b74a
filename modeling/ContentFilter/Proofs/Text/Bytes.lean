import ContentFilter.Domain.Lemmas
import Mathlib.Data.String.Basic

/-!
# The bytes of strings

Strings are ordered by the code points of their characters.  The bytes of their UTF-8 encodings give
the same order.  A character begins at every byte that does not continue another one, and the letters of
ASCII can be made small byte by byte.
-/

namespace ContentFilter.Text

/-- The bytes of a string in UTF-8. -/
def bytes (s : String) : List UInt8 := s.toUTF8.data.toList

theorem bytes_eq_flatMap (s : String) : bytes s = s.toList.flatMap String.utf8EncodeChar := by
  conv => lhs; rw [← String.ofList_toList (s := s)]
  rw [bytes, String.toUTF8_eq_toByteArray]
  exact List.toList_data_toByteArray

theorem codePoint_lt (c : Char) : c.val.toNat < 0x110000 := by
  rcases c.valid with low | ⟨_, high⟩
  · exact Nat.lt_trans low (by decide)
  · exact high

/-- The digits of a code point to the base of sixty-four, as an encoding cuts them out. -/
theorem exists_digits {n : Nat} (bound : n < 0x110000) :
    ∃ a b c d, n = 262144 * a + 4096 * b + 64 * c + d ∧ a < 5 ∧ b < 64 ∧ c < 64 ∧ d < 64 ∧
      n / 262144 = a ∧ n / 4096 = 64 * a + b ∧ n / 64 = 64 * (64 * a + b) + c ∧ n % 64 = d := by
  refine ⟨n / 262144, n / 4096 % 64, n / 64 % 64, n % 64, ?_⟩
  omega

/-- The encoding of a smaller character is smaller, whatever follows. -/
theorem encode_append_lt {c d : Char} (below : c < d) (a b : List UInt8) :
    String.utf8EncodeChar c ++ a < String.utf8EncodeChar d ++ b := by
  have order : c.val.toNat < d.val.toNat := UInt32.lt_iff_toNat_lt.1 below
  obtain ⟨c₃, c₂, c₁, c₀, whole, _, _, _, _, three, two, one, zero⟩ := exists_digits (codePoint_lt c)
  obtain ⟨d₃, d₂, d₁, d₀, whole', _, _, _, _, three', two', one', zero'⟩ :=
    exists_digits (codePoint_lt d)
  -- without divisions the comparison of two encodings is linear in the digits
  rw [String.utf8EncodeChar.eq_1, String.utf8EncodeChar.eq_1, three, two, one, zero, three', two',
    one', zero']
  clear three two one zero three' two' one' zero'
  generalize c.val.toNat = m at *
  generalize d.val.toNat = n at *
  split <;> split <;> (try split) <;> (try split) <;> (try split) <;> (try split) <;>
    simp only [List.cons_append, List.nil_append, List.cons_lt_cons_iff, UInt8.lt_iff_toNat_lt,
      ← UInt8.toNat_inj, UInt8.toNat_ofNat'] <;>
    omega

/-- The bytes of a smaller string are smaller. -/
theorem bytes_lt_bytes {a b : String} (below : a < b) : bytes a < bytes b := by
  rw [String.lt_iff_toList_lt] at below
  rw [bytes_eq_flatMap, bytes_eq_flatMap]
  generalize a.toList = s at *
  generalize b.toList = t at *
  induction s generalizing t with
  | nil =>
    cases t with
    | nil => exact absurd below (List.lt_irrefl [])
    | cons d t =>
      obtain ⟨first, rest, encoded⟩ :=
        List.exists_cons_of_ne_nil (String.utf8EncodeChar_ne_nil (c := d))
      rw [List.flatMap_cons, encoded]
      exact List.nil_lt_cons ..
  | cons c s ih =>
    cases t with
    | nil => cases below
    | cons d t =>
      rw [List.flatMap_cons, List.flatMap_cons]
      rcases List.cons_lt_cons_iff.1 below with lower | ⟨rfl, later⟩
      · exact encode_append_lt lower _ _
      · exact List.append_left_lt (ih _ later)

theorem bytes_injective {a b : String} (same : bytes a = bytes b) : a = b := by
  by_contra apart
  rcases lt_or_gt_of_ne apart with below | above
  · exact absurd (bytes_lt_bytes below) (same ▸ List.lt_irrefl _)
  · exact absurd (bytes_lt_bytes above) (same ▸ List.lt_irrefl _)

/-! ## Boundaries of characters -/

/-- The bytes of a text in UTF-8. -/
def encode (s : List Char) : List UInt8 := s.flatMap String.utf8EncodeChar

theorem bytes_ofList (s : List Char) : bytes (String.ofList s) = encode s := by
  rw [bytes_eq_flatMap, String.toList_ofList, encode]

theorem encode_append (s t : List Char) : encode (s ++ t) = encode s ++ encode t :=
  List.flatMap_append

theorem encode_eq_nil_iff {s : List Char} : encode s = [] ↔ s = [] := by
  cases s with
  | nil => simp [encode]
  | cons c rest => simp [encode, String.utf8EncodeChar_ne_nil]

theorem encode_injective {s t : List Char} (same : encode s = encode t) : s = t := by
  rw [← bytes_ofList, ← bytes_ofList] at same
  exact String.ofList_injective (bytes_injective same)

/-- Whether a byte goes on with a character that an earlier byte has begun. -/
def isContinuation (b : UInt8) : Bool := 128 ≤ b && b < 192

/-- A character of ASCII is one byte, and all bytes of another one are above those of ASCII. -/
theorem encode_cases (c : Char) :
    (c.toNat < 128 ∧ String.utf8EncodeChar c = [UInt8.ofNat c.toNat]) ∨
      (128 ≤ c.toNat ∧ ∃ lead rest, String.utf8EncodeChar c = lead :: rest ∧ 192 ≤ lead ∧
        ∀ b ∈ rest, isContinuation b) := by
  have value : c.toNat = c.val.toNat := rfl
  have low : (128 : UInt8).toNat = 128 := rfl
  have high : (192 : UInt8).toNat = 192 := rfl
  have later (n : Nat) : isContinuation (UInt8.ofNat (n % 64 + 128)) := by
    simp only [isContinuation, Bool.and_eq_true, decide_eq_true_eq, UInt8.le_iff_toNat_le,
      UInt8.lt_iff_toNat_lt, UInt8.toNat_ofNat']
    omega
  have leads {n : Nat} (above : 192 ≤ n) (byte : n < 256) : 192 ≤ UInt8.ofNat n := by
    rw [UInt8.le_iff_toNat_le, UInt8.toNat_ofNat']
    omega
  have bound := codePoint_lt c
  rw [String.utf8EncodeChar.eq_1, value]
  split
  · rename_i ascii
    exact .inl ⟨by omega, rfl⟩
  · rename_i beyond
    refine .inr ⟨by omega, ?_⟩
    split
    · exact ⟨_, _, rfl, leads (by omega) (by omega), List.forall_mem_singleton.2 (later _)⟩
    · split
      · exact ⟨_, _, rfl, leads (by omega) (by omega),
          List.forall_mem_cons.2 ⟨later _, List.forall_mem_singleton.2 (later _)⟩⟩
      · exact ⟨_, _, rfl, leads (by omega) (by omega), List.forall_mem_cons.2
          ⟨later _, List.forall_mem_cons.2 ⟨later _, List.forall_mem_singleton.2 (later _)⟩⟩⟩

/-- Only the first byte of a character does not go on with another one. -/
theorem exists_encode_eq_cons (c : Char) :
    ∃ lead more, String.utf8EncodeChar c = lead :: more ∧ isContinuation lead = false ∧
      ∀ b ∈ more, isContinuation b := by
  rcases encode_cases c with ⟨ascii, encoded⟩ | ⟨-, lead, more, encoded, high, goesOn⟩
  · have begins := Unicode.forall_ascii (p := fun c => isContinuation (UInt8.ofNat c.toNat) = false)
      (by decide +kernel) ascii
    exact ⟨_, [], encoded, begins, by simp⟩
  · refine ⟨lead, more, encoded, ?_, goesOn⟩
    simp [isContinuation, high]

/-- The bytes of a character outside ASCII are no characters of ASCII. -/
theorem le_of_mem_utf8EncodeChar {c : Char} (beyond : ¬ c.toNat < 128) :
    ∀ b ∈ String.utf8EncodeChar c, 128 ≤ b := by
  rcases encode_cases c with ⟨ascii, -⟩ | ⟨-, lead, more, encoded, high, goesOn⟩
  · exact absurd ascii beyond
  · rw [encoded, List.forall_mem_cons]
    refine ⟨UInt8.le_trans (by decide) high, fun b member => ?_⟩
    have inside := goesOn b member
    simp only [isContinuation, Bool.and_eq_true, decide_eq_true_eq] at inside
    exact inside.1

/-- Whether a character of a text begins at an offset in its bytes, or the text ends there. -/
def isBoundary (bytes : List UInt8) (offset : Nat) : Bool :=
  match bytes[offset]? with
  | some b => !isContinuation b
  | none => offset == bytes.length

theorem isBoundary_append (s t : List UInt8) (offset : Nat) :
    isBoundary (s ++ t) (s.length + offset) = isBoundary t offset := by
  unfold isBoundary
  rw [List.getElem?_append_right (Nat.le_add_right _ _), Nat.add_sub_cancel_left, List.length_append]
  split
  · rfl
  · rw [Bool.eq_iff_iff, beq_iff_eq, beq_iff_eq]
    omega

/-- The boundaries are the lengths of what a text begins with. -/
theorem isBoundary_encode_iff {s : List Char} {offset : Nat} :
    isBoundary (encode s) offset ↔ ∃ front tail, s = front ++ tail ∧ (encode front).length = offset := by
  induction s generalizing offset with
  | nil =>
    constructor
    · intro ends
      exact ⟨[], [], rfl, (beq_iff_eq.1 ends).symm⟩
    · rintro ⟨front, tail, split, rfl⟩
      obtain ⟨rfl, -⟩ := List.append_eq_nil_iff.1 split.symm
      rfl
  | cons c rest ih =>
    have whole : encode (c :: rest) = String.utf8EncodeChar c ++ encode rest := rfl
    obtain ⟨lead, more, encoded, begins, goesOn⟩ := exists_encode_eq_cons c
    rcases Nat.lt_or_ge offset (String.utf8EncodeChar c).length with inside | behind
    · cases offset with
      | zero =>
        refine iff_of_true ?_ ⟨[], c :: rest, rfl, rfl⟩
        simp [whole, encoded, isBoundary, begins]
      | succ offset =>
        rw [encoded, List.length_cons, Nat.add_lt_add_iff_right] at inside
        refine iff_of_false ?_ ?_
        · have found : (encode (c :: rest))[offset + 1]? = some more[offset] := by
            rw [whole, encoded, List.cons_append, List.getElem?_cons_succ,
              List.getElem?_append_left inside, List.getElem?_eq_getElem inside]
          simp [isBoundary, found, goesOn _ (List.getElem_mem inside)]
        · rintro ⟨front, tail, split, length⟩
          cases front with
          | nil => cases length
          | cons d front =>
            obtain ⟨rfl, -⟩ := List.cons.inj split
            have longer : (encode (c :: front)).length = more.length + 1 + (encode front).length := by
              rw [encode, List.flatMap_cons, encoded, List.length_append, List.length_cons, encode]
            omega
    · obtain ⟨further, rfl⟩ := Nat.exists_eq_add_of_le behind
      rw [whole, isBoundary_append, ih]
      constructor
      · rintro ⟨front, tail, rfl, rfl⟩
        exact ⟨c :: front, tail, rfl, List.length_append⟩
      · rintro ⟨front, tail, split, length⟩
        cases front with
        | nil =>
          rw [encoded, List.length_cons, encode, List.flatMap_nil, List.length_nil] at length
          omega
        | cons d front =>
          obtain ⟨rfl, rfl⟩ := List.cons.inj split
          rw [encode, List.flatMap_cons, List.length_append] at length
          exact ⟨front, tail, rfl, Nat.add_left_cancel length⟩

/-- A text ends in a dot if its bytes do. -/
theorem getLast?_encode_eq_dot_iff {s : List Char} :
    (encode s).getLast? = some 46 ↔ s.getLast? = some '.' := by
  have isDot (c : Char) : (String.utf8EncodeChar c).getLast? = some 46 ↔ c = '.' := by
    by_cases ascii : c.toNat < 128
    · exact Unicode.forall_ascii
        (p := fun c => (String.utf8EncodeChar c).getLast? = some 46 ↔ c = '.') (by decide +kernel) ascii
    · refine iff_of_false (fun last => ?_) ?_
      · have high := le_of_mem_utf8EncodeChar ascii 46 (List.mem_of_getLast? last)
        exact absurd high (by decide)
      · rintro rfl
        exact ascii (by decide)
  rcases List.eq_nil_or_concat' s with rfl | ⟨front, c, rfl⟩
  · simp [encode]
  · obtain ⟨lead, more, encoded, -⟩ := exists_encode_eq_cons c
    have last : (encode (front ++ [c])).getLast? = (String.utf8EncodeChar c).getLast? := by
      rw [encode_append, encode, encode, List.flatMap_singleton, List.getLast?_append, encoded,
        List.getLast?_cons, Option.some_or]
    rw [last, isDot, List.getLast?_concat, Option.some.injEq]

/-! ## Letter case -/

/-- A byte with the capital letters of ASCII made small. -/
def lowerByte (b : UInt8) : UInt8 := if 65 ≤ b && b ≤ 90 then b + 32 else b

theorem lowerByte_of_le {b : UInt8} (beyond : 128 ≤ b) : lowerByte b = b := by
  refine if_neg fun capital => ?_
  simp only [Bool.and_eq_true, decide_eq_true_eq, UInt8.le_iff_toNat_le] at capital beyond
  exact absurd (Nat.le_trans beyond capital.2) (by decide)

/-- Letters are made small byte by byte. -/
theorem map_lowerByte_utf8EncodeChar (c : Char) :
    (String.utf8EncodeChar c).map lowerByte = String.utf8EncodeChar c.toLower := by
  by_cases ascii : c.toNat < 128
  · exact Unicode.forall_ascii
      (p := fun c => (String.utf8EncodeChar c).map lowerByte = String.utf8EncodeChar c.toLower)
      (by decide +kernel) ascii
  · rw [Domain.toLower_eq_self_of_not_ascii ascii]
    exact (List.map_congr_left fun b member =>
      lowerByte_of_le (le_of_mem_utf8EncodeChar ascii b member)).trans (List.map_id _)

theorem map_lowerByte_encode (s : List Char) : (encode s).map lowerByte = encode (lower s) := by
  simp only [encode, lower, List.map_flatMap, List.flatMap_map, map_lowerByte_utf8EncodeChar]

/-- Texts are equal up to letter case if their bytes are. -/
theorem map_lowerByte_eq_iff {s t : List Char} :
    (encode s).map lowerByte = (encode t).map lowerByte ↔ lower s = lower t := by
  rw [map_lowerByte_encode, map_lowerByte_encode]
  exact ⟨encode_injective, congrArg encode⟩

end ContentFilter.Text
