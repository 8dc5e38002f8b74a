import ContentFilter.Json.Decoder
import ContentFilter.Proofs.Json.Reading
import ContentFilter.Rule.Record

/-!
# Decoding what was encoded

When a decoder gives back the value that was encoded: for each kind of JSON value, and for records, whose
fields all have to be there under their names.  And the other way round, what a value that was decoded
tells about its parts: each of them was decoded too.
-/

namespace ContentFilter

/-! ## Numbers -/

theorem Json.natural?_toString (n : Nat) : natural? (toString n) = some n := by
  have digits : (Nat.toDigits 10 n).all Char.isDigit := by
    rw [List.all_eq_true]
    intro d member
    exact Nat.isDigit_of_mem_toDigits (by decide) (by decide) member
  have value : digitsValue (Nat.toDigits 10 n) = n := by
    have back := @Nat.ofDigitChars_ten_toDigits n
    rw [Nat.ofDigitChars_eq_foldl] at back
    rw [digitsValue]
    simpa only [Nat.mul_comm] using back
  have nonempty : (Nat.toDigits 10 n).isEmpty = false :=
    List.isEmpty_eq_false_iff.2 Nat.toDigits_ne_nil
  rw [natural?, Nat.toString_eq_ofList_toDigits, String.toList_ofList]
  simp only [nonempty, digits, value, Bool.not_false, Bool.and_self, if_true]

namespace Decoder

variable {α : Type}

theorem natural_nat {largest n : Nat} (fits : n ≤ largest) : natural largest (.nat n) = .ok n := by
  simp only [natural, Json.nat, Json.natural?_toString, if_pos fits]

theorem natural32_nat {n : Nat} (fits : n < UInt32.size) : natural32 (.nat n) = .ok n :=
  natural_nat (Nat.le_sub_one_of_lt fits)

theorem natural64_nat {n : Nat} (fits : n < UInt64.size) : natural64 (.nat n) = .ok n :=
  natural_nat (Nat.le_sub_one_of_lt fits)

/-! ## Options, arrays and objects -/

/-- What is not encoded as null is told from what is missing. -/
theorem option_option {decode : Decoder α} {encode : α → Json} {o : Option α}
    (nonnull : ∀ a, encode a ≠ .null) (back : ∀ a, o = some a → decode (encode a) = .ok a) :
    option decode (.option encode o) = .ok o := by
  cases o with
  | none => rfl
  | some a =>
    show option decode (encode a) = _
    unfold option
    split
    · rename_i null
      exact absurd null (nonnull a)
    · rw [back a rfl]
      rfl

theorem mapM_eq_ok {β γ : Type} {f : β → Except DecodeError γ} {g : γ → β} {values : List γ}
    (each : ∀ value ∈ values, f (g value) = .ok value) : (values.map g).mapM f = .ok values := by
  induction values with
  | nil => rfl
  | cons head rest ih =>
    have first := each head List.mem_cons_self
    have later := ih fun value member => each value (List.mem_cons_of_mem _ member)
    rw [List.map_cons, List.mapM_cons, first, later]
    rfl

/-- An array gives back its values if each item does. -/
theorem list_map {decode : Decoder α} {encode : α → Json} {values : List α}
    (back : ∀ a ∈ values, decode (encode a) = .ok a) :
    list decode (.list (values.map encode)) = .ok values := by
  have items : (values.map encode).mapM (fun item => inner (decode item)) = .ok values := by
    apply mapM_eq_ok
    intro a member
    rw [back a member]
    rfl
  simp only [list, Json.list, items]
  rfl

theorem strings_strings (values : List String) : strings (Json.strings values) = .ok values :=
  list_map fun _ _ => rfl

/-- An object gives back its entries if each key and each value does. -/
theorem fields_map {κ : Type} {key? : String → Option κ} {name : κ → String} {decode : Decoder α}
    (encode : α → Json) {entries : List (κ × α)} (keys : ∀ key, key? (name key) = some key)
    (back : ∀ entry ∈ entries, decode (encode entry.2) = .ok entry.2) :
    fields key? decode (.record (entries.map fun entry => (name entry.1, encode entry.2))) =
      .ok entries := by
  unfold fields Json.record
  dsimp only
  rw [mapM_eq_ok]
  · rfl
  · intro entry member
    simp only [keys, back entry member]
    rfl

theorem choice_string {ofName? : String → Option α} {name : String} {a : α}
    (named : ofName? name = some a) : choice ofName? (.string name) = .ok a := by
  simp only [choice, choice.pick, named]

/-- What a decoder makes of a value it makes of both texts of the value. -/
theorem run_of_read {decode : Decoder α} {text : String} {json : Json}
    (read : Json.read text = ⟨json, true⟩) {a : α} (back : decode json = .ok a) :
    decode.run text = .ok a := by
  simp only [run, read, back]
  rfl

/-! ## The parts of what was decoded -/

theorem natural_eq_ok {largest : Nat} {json : Json} {n : Nat}
    (decoded : natural largest json = .ok n) : n ≤ largest := by
  unfold natural at decoded
  split at decoded
  · split at decoded
    · split at decoded
      · rename_i fits
        cases decoded
        exact fits
      · cases decoded
    · cases decoded
  · cases decoded

theorem natural32_eq_ok {json : Json} {n : Nat} (decoded : natural32 json = .ok n) :
    n < UInt32.size :=
  Nat.lt_of_le_of_lt (natural_eq_ok decoded) (by decide)

theorem inner_eq_ok {result : Except DecodeError α} {a : α} (decoded : inner result = .ok a) :
    result = .ok a := by
  cases result with
  | error cause => cases decoded
  | ok b => exact decoded

/-- A step that succeeded had a first part that did. -/
theorem exists_of_bind_eq_ok {β γ ε : Type} {x : Except ε β} {f : β → Except ε γ} {c : γ}
    (done : x >>= f = .ok c) : ∃ b, x = .ok b ∧ f b = .ok c := by
  cases x with
  | error cause => cases done
  | ok b => exact ⟨b, rfl, done⟩

theorem mem_of_mapM_eq_ok {β γ ε : Type} {f : β → Except ε γ} {items : List β} {values : List γ}
    (decoded : items.mapM f = .ok values) : ∀ value ∈ values, ∃ item ∈ items, f item = .ok value := by
  induction items generalizing values with
  | nil =>
    cases decoded
    exact List.forall_mem_nil _
  | cons item rest ih =>
    rw [List.mapM_cons] at decoded
    obtain ⟨first, found, decoded⟩ := exists_of_bind_eq_ok decoded
    obtain ⟨tail, later, decoded⟩ := exists_of_bind_eq_ok decoded
    cases decoded
    intro value member
    rcases List.mem_cons.1 member with rfl | member
    · exact ⟨item, List.mem_cons_self, found⟩
    · obtain ⟨item, among, same⟩ := ih later value member
      exact ⟨item, List.mem_cons_of_mem _ among, same⟩

/-- Every value of a list was decoded. -/
theorem list_eq_ok {decode : Decoder α} {json : Json} {values : List α}
    (decoded : list decode json = .ok values) : ∀ a ∈ values, ∃ item, decode item = .ok a := by
  unfold list at decoded
  split at decoded
  · rename_i items closed
    obtain ⟨found, each, decoded⟩ := exists_of_bind_eq_ok decoded
    cases closed with
    | false => cases decoded
    | true =>
      cases decoded
      intro a member
      obtain ⟨item, -, back⟩ := mem_of_mapM_eq_ok each a member
      exact ⟨item, inner_eq_ok back⟩
  · cases decoded

/-- What was decoded from a text was decoded from a value. -/
theorem run_eq_ok {decode : Decoder α} {text : String} {a : α} (decoded : decode.run text = .ok a) :
    ∃ json, decode json = .ok a := by
  unfold run at decoded
  obtain ⟨b, found, decoded⟩ := exists_of_bind_eq_ok decoded
  cases ended : (Json.read text).ended with
  | false =>
    rw [ended] at decoded
    cases decoded
  | true =>
    rw [ended] at decoded
    cases decoded
    exact ⟨_, found⟩

end Decoder

/-! ## Records -/

namespace FieldsDecoder

variable {α β : Type}

theorem map_ok {f : α → β} {decoder : FieldsDecoder α} {source : FieldSource} {a : α}
    (decoded : decoder.decode source = .ok a) : (f <$> decoder).decode source = .ok (f a) := by
  show (apply (pure f) decoder).decode source = _
  simp only [apply, pure, decoded]

theorem seq_ok {f : FieldsDecoder (α → β)} {decoder : FieldsDecoder α} {source : FieldSource}
    {g : α → β} {a : α} (left : f.decode source = .ok g) (right : decoder.decode source = .ok a) :
    (f <*> decoder).decode source = .ok (g a) := by
  show (apply f decoder).decode source = _
  simp only [apply, left, right]

/-- A field that stands once in a record is decoded from its value. -/
theorem field_ok {name : String} {decode : Decoder α}
    {absent : FieldSource → Except (List FieldFault) α} {source : FieldSource} {value : Json} {a : α}
    (once : source.fields.filter (·.1 == name) = [(name, value)]) (back : decode value = .ok a) :
    (field name decode absent).decode source = .ok a := by
  have found : ∃ rank, occurrences name source = [(rank, value)] := by
    rw [← List.zipIdx_map_fst 0 source.fields, List.filter_map, List.map_eq_singleton_iff] at once
    obtain ⟨⟨field, rank⟩, single, rfl⟩ := once
    have here : source.fields.zipIdx.filter (·.1.1 == name) = [((name, value), rank)] := single
    exact ⟨rank, by rw [occurrences, here]; rfl⟩
  obtain ⟨rank, found⟩ := found
  simp only [field, found, back]
  rfl

/-- A field that stands nowhere in a record counts as absent. -/
theorem field_absent {name : String} {decode : Decoder α}
    {absent : FieldSource → Except (List FieldFault) α} {source : FieldSource}
    (nowhere : source.fields.filter (·.1 == name) = []) :
    (field name decode absent).decode source = absent source := by
  have none : occurrences name source = [] := by
    rw [← List.zipIdx_map_fst 0 source.fields, List.filter_map, List.map_eq_nil_iff] at nowhere
    exact List.map_eq_nil_iff.2 nowhere
  simp only [field, none]

/-- Known fields are no faults of the record around them. -/
theorem outerFaults_eq_nil {names : List String} {fields : List (String × Json)}
    (known : (fields.all fun field => names.contains field.1) = true) :
    outerFaults names fields true = [] := by
  unfold outerFaults
  dsimp only
  rw [if_pos rfl, List.append_nil, List.map_eq_nil_iff, List.filter_eq_nil_iff]
  rintro ⟨⟨name, value⟩, rank⟩ member
  have among : names.contains name :=
    List.all_eq_true.1 known (name, value) (List.fst_mem_of_mem_zipIdx member)
  dsimp only
  rw [among, Bool.not_true, Bool.false_and]
  exact Bool.false_ne_true

/-- A record without unknown fields is decoded from its fields. -/
theorem toDecoder_ok {decoder : FieldsDecoder α} {fields : List (String × Json)} {a : α}
    (decoded : decoder.decode ⟨fields, false⟩ = .ok a)
    (known : (fields.all fun field => decoder.names.contains field.1) = true) :
    decoder.toDecoder (.record fields) = .ok a := by
  have none := outerFaults_eq_nil known
  simp only [toDecoder, Json.record, decoded, none]

/-! The parts of a record that was decoded. -/

theorem map_eq_ok {f : α → β} {decoder : FieldsDecoder α} {source : FieldSource} {b : β}
    (decoded : (f <$> decoder).decode source = .ok b) :
    ∃ a, decoder.decode source = .ok a ∧ f a = b := by
  change (apply (pure f) decoder).decode source = .ok b at decoded
  cases found : decoder.decode source with
  | error faults =>
    simp only [apply, pure, found] at decoded
    cases decoded
  | ok a =>
    simp only [apply, pure, found] at decoded
    exact ⟨a, rfl, Except.ok.inj decoded⟩

theorem seq_eq_ok {f : FieldsDecoder (α → β)} {decoder : FieldsDecoder α} {source : FieldSource}
    {b : β} (decoded : (f <*> decoder).decode source = .ok b) :
    ∃ g a, f.decode source = .ok g ∧ decoder.decode source = .ok a ∧ g a = b := by
  change (apply f decoder).decode source = .ok b at decoded
  simp only [apply] at decoded
  split at decoded
  · rename_i g a left right
    exact ⟨g, a, left, right, Except.ok.inj decoded⟩
  all_goals cases decoded

/-- A field was decoded from a value, unless it is absent. -/
theorem field_eq_ok {name : String} {decode : Decoder α}
    {absent : FieldSource → Except (List FieldFault) α} {source : FieldSource} {a : α}
    (decoded : (field name decode absent).decode source = .ok a) :
    (∃ value, decode value = .ok a) ∨ absent source = .ok a := by
  simp only [field] at decoded
  split at decoded
  · exact .inr decoded
  · rename_i rank value more _
    split at decoded
    · cases decoded
    · rename_i b found _
      cases decoded
      exact .inl ⟨value, Decoder.inner_eq_ok found⟩
    · cases decoded

theorem required_eq_ok {name : String} {decode : Decoder α} {source : FieldSource} {a : α}
    (decoded : (required name decode).decode source = .ok a) : ∃ value, decode value = .ok a := by
  rcases field_eq_ok decoded with found | absent
  · exact found
  · cases absent

/-- A field with a value for its absence was decoded, or has that value. -/
theorem defaulted_eq_ok {name : String} {decode : Decoder α} {value : α} {source : FieldSource}
    {a : α} (decoded : (defaulted name decode value).decode source = .ok a) :
    (∃ json, decode json = .ok a) ∨ a = value := by
  rcases field_eq_ok decoded with found | absent
  · exact .inl found
  · exact .inr (Except.ok.inj absent).symm

theorem toDecoder_eq_ok {decoder : FieldsDecoder α} {json : Json} {a : α}
    (decoded : decoder.toDecoder json = .ok a) : ∃ source, decoder.decode source = .ok a := by
  unfold toDecoder at decoded
  split at decoded
  · dsimp only at decoded
    split at decoded
    · rename_i b found _
      cases decoded
      exact ⟨_, found⟩
    all_goals cases decoded
  · dsimp only at decoded
    split at decoded
    · rename_i b found _
      cases decoded
      exact ⟨_, found⟩
    all_goals cases decoded
  · cases decoded

end FieldsDecoder

end ContentFilter
