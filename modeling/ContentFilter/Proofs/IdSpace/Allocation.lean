import ContentFilter.Proofs.IdSpace.Bands

/-!
# Rows of calls for ids

An allocator that is called again and again, for categories in any order.  It opens the sequences of the
categories as they are asked for and changes them in place, also where a call fails.  What it has handed
out is told by the answers: the ids of a category are those of its band, from the bottom, and a call fails
where the band is used up or missing, and then changes nothing.  All this can be worked out in words of 32
bits.
-/

namespace ContentFilter

namespace IdSequence

/-- A sequence whose numbers come out right in words of 32 bits: no difference falls below zero, and the
step to the next id stays below the top. -/
structure FitsWords (ids : IdSequence) : Prop where
  width : (UInt32.ofNat ids.range.stop - UInt32.ofNat ids.range.start).toNat = ids.range.width
  issued : (UInt32.ofNat ids.next - UInt32.ofNat ids.range.start).toNat = ids.issued
  remaining : (UInt32.ofNat ids.range.stop - UInt32.ofNat ids.next).toNat = ids.remaining
  step : ids.next < ids.range.stop → (UInt32.ofNat ids.next + 1).toNat = ids.next + 1

theorem toNat_sub_ofNat {a b : Nat} (below : b ≤ a) (word : a < UInt32.size) :
    (UInt32.ofNat a - UInt32.ofNat b).toNat = a - b := by
  have smaller : b < UInt32.size := Nat.lt_of_le_of_lt below word
  rw [UInt32.toNat_sub_of_le, UInt32.toNat_ofNat_of_lt' word, UInt32.toNat_ofNat_of_lt' smaller]
  rw [UInt32.le_iff_toNat_le, UInt32.toNat_ofNat_of_lt' word, UInt32.toNat_ofNat_of_lt' smaller]
  exact below

theorem fitsWords_of_within {ids : IdSequence} (low : ids.range.start ≤ ids.next)
    (high : ids.next ≤ ids.range.stop) (word : ids.range.stop < UInt32.size) : ids.FitsWords where
  width := toNat_sub_ofNat (Nat.le_trans low high) word
  issued := toNat_sub_ofNat low (Nat.lt_of_le_of_lt high word)
  remaining := toNat_sub_ofNat high word
  step := fun left => by
    have one : (1 : UInt32).toNat = 1 := rfl
    rw [UInt32.toNat_add, UInt32.toNat_ofNat_of_lt' (Nat.lt_of_le_of_lt high word), one]
    refine Nat.mod_eq_of_lt ?_
    simp only [UInt32.size] at word
    omega

end IdSequence

namespace IdAllocator

/-! ## One call -/

/-- The allocator with the sequence of a category open. -/
def opening (allocator : IdAllocator) (category : Category) : Except IdError IdAllocator :=
  match allocator.opened? category with
  | some _ => .ok allocator
  | none => (allocator.space.sequence category).map allocator.store

/-- A call for an id and the allocator that it leaves.  The call opens the sequence of the category before
it asks for an id, so what it has opened is open behind it even if there is no id. -/
def call (allocator : IdAllocator) (category : Category) : Except IdError Nat × IdAllocator :=
  match allocator.opening category with
  | .error cause => (.error cause, allocator)
  | .ok ready =>
    match ready.opened? category with
    | none => (.error (.undeclared category), ready)
    | some ids =>
      match ids.next? with
      | some (id, behind) => (.ok id, ready.store behind)
      | none => (.error ids.exhaustion, ready)

theorem store_store (allocator : IdAllocator) (first second : IdSequence)
    (same : first.range.category = second.range.category) :
    (allocator.store first).store second = allocator.store second := by
  simp [store, same, List.filter_filter]

/-- A call gives what a request does.  It leaves the allocator behind the request, or as it was where the
request fails: a sequence that is opened by a call has an id to give. -/
theorem call_eq {allocator : IdAllocator} (valid : IdSpace.Valid allocator.space.ranges)
    (category : Category) :
    allocator.call category =
      match allocator.next category with
      | .ok (id, behind) => (.ok id, behind)
      | .error cause => (.error cause, allocator) := by
  cases isOpen : allocator.opened? category with
  | some ids =>
    have found : allocator.sequence category = .ok ids := by
      rw [sequence, isOpen]
    simp only [call, opening, isOpen, next, found, bind, Except.bind]
    cases ids.next? <;> rfl
  | none =>
    have found : allocator.sequence category = allocator.space.sequence category := by
      rw [sequence, isOpen]
    cases declared : allocator.space.range? category with
    | none => simp only [call, opening, isOpen, next, found, IdSpace.sequence, declared]; rfl
    | some range =>
      have holds : range.start < range.stop :=
        (valid.bands range (List.mem_of_find?_eq_some declared)).2
      have opened : (allocator.store (.start range)).opened? category = some (.start range) := by
        rw [opened?_store]
        exact if_pos (IdSpace.category_of_range? declared)
      have gives : (IdSequence.start range).next? =
          some (range.start, { range, next := range.start + 1 }) :=
        if_neg (Nat.not_le_of_lt holds)
      have twice := store_store allocator (.start range) { range, next := range.start + 1 } rfl
      simp only [call, opening, isOpen, next, found, IdSpace.sequence, declared, Except.map, opened,
        gives, twice, bind, Except.bind]
      rfl

/-- How a call is answered by an allocator that has handed out so many ids of the category, and what it
leaves. -/
structure Serves (allocator : IdAllocator) (category : Category) (count : Nat)
    (answer : Except IdError Nat) (behind : IdAllocator) : Prop where
  next_eq : allocator.next category = answer.map (·, behind)
  ok_iff : ∀ id, answer = .ok id ↔
    ∃ range, allocator.space.range? category = some range ∧ id = range.start + count ∧
      count < range.width
  exhausted_iff : ∀ other width, answer = .error (.exhausted other width) ↔
    other = category ∧ ∃ range, allocator.space.range? category = some range ∧
      width = range.width ∧ count = range.width
  undeclared_iff : ∀ other, answer = .error (.undeclared other) ↔
    other = category ∧ allocator.space.range? category = none
  unchanged : ∀ cause, answer = .error cause → behind = allocator

/-- Every call is answered so. -/
theorem call_serves {allocator : IdAllocator} (sound : allocator.Sound)
    (valid : IdSpace.Valid allocator.space.ranges) (category : Category) :
    Serves allocator category (allocator.issued category) (allocator.call category).1
      (allocator.call category).2 := by
  have within := issued_le_capacity sound category
  rw [call_eq valid]
  rcases sound.next_cases category with
    ⟨undeclared, fails⟩ | ⟨ids, declared, reached, ⟨full, fails⟩ | ⟨left, gives⟩⟩
  · rw [fails]
    constructor <;> simp [undeclared, Except.map, fails, eq_comm]
  · have all : allocator.issued category = ids.range.width := by
      rw [IdSpace.capacity, declared] at within
      have width : ids.range.width = ids.range.stop - ids.range.start := rfl
      dsimp only at within
      omega
    rw [fails]
    constructor <;> simp [declared, Except.map, fails, all, eq_comm]
  · have width : ids.range.width = ids.range.stop - ids.range.start := rfl
    have few : allocator.issued category < ids.range.width := by omega
    rw [gives]
    constructor <;> simp [declared, Except.map, gives, reached, few, Nat.ne_of_lt few, eq_comm]

/-! ## Rows of calls -/

/-- A call and what it was answered. -/
structure Call where
  category : Category
  answer : Except IdError Nat

/-- The id that a category was given by a call, if it was. -/
def Call.idFor? (call : Call) (category : Category) : Option Nat :=
  if call.category = category then call.answer.toOption else none

/-- The ids that a category was given by a row of calls. -/
def idsFor (category : Category) (log : List Call) : List Nat := log.filterMap (·.idFor? category)

/-- The answers to a row of calls, made one after another, and the allocator that they leave. -/
def calls (allocator : IdAllocator) : List Category → List Call × IdAllocator
  | [] => ([], allocator)
  | category :: rest =>
    let (answer, next) := allocator.call category
    let (log, behind) := next.calls rest
    (⟨category, answer⟩ :: log, behind)

/-- An allocator behind a row of calls that were answered so, in terms of the one in front of them. -/
structure Follows (allocator : IdAllocator) (log : List Call) (behind : IdAllocator) : Prop where
  sound : behind.Sound
  space_eq : behind.space = allocator.space
  issued_eq : ∀ category,
    behind.issued category = allocator.issued category + (idsFor category log).length
  id_eq : ∀ category k id, (idsFor category log)[k]? = some id →
    ∃ range, allocator.space.range? category = some range ∧
      id = range.start + (allocator.issued category + k)

namespace Follows

variable {allocator next behind : IdAllocator} {category : Category} {log : List Call}

theorem nil (sound : allocator.Sound) : Follows allocator [] allocator :=
  ⟨sound, rfl, fun _ => rfl, by simp [idsFor]⟩

/-- A call that fails leaves no trace. -/
theorem cons_error (cause : IdError) (follows : Follows allocator log behind) :
    Follows allocator (⟨category, .error cause⟩ :: log) behind := by
  have same (other : Category) : idsFor other (⟨category, .error cause⟩ :: log) = idsFor other log := by
    simp [idsFor, Call.idFor?, Except.toOption]
  constructor
  case sound => exact follows.sound
  case space_eq => exact follows.space_eq
  case issued_eq =>
    intro other
    rw [same]
    exact follows.issued_eq other
  case id_eq =>
    intro other
    rw [same]
    exact follows.id_eq other

/-- A call that succeeds puts its id in front of those that its category is given later. -/
theorem cons_ok {id : Nat} (sound : allocator.Sound) (gives : allocator.next category = .ok (id, next))
    (follows : Follows next log behind) :
    Follows allocator (⟨category, .ok id⟩ :: log) behind := by
  obtain ⟨-, space, ⟨range, declared, first, -⟩, issued⟩ := next_eq_ok sound gives
  have hit : idsFor category (⟨category, .ok id⟩ :: log) = id :: idsFor category log := by
    simp [idsFor, Call.idFor?, Except.toOption]
  have miss {other : Category} (apart : category ≠ other) :
      idsFor other (⟨category, .ok id⟩ :: log) = idsFor other log := by
    simp [idsFor, Call.idFor?, apart]
  constructor
  case sound => exact follows.sound
  case space_eq => exact follows.space_eq.trans space
  case issued_eq =>
    intro other
    rw [follows.issued_eq, issued]
    by_cases same : category = other
    · rw [if_pos same, ← same, hit, List.length_cons]
      omega
    · rw [if_neg same, miss same]
  case id_eq =>
    intro other k later found
    by_cases same : category = other
    · subst same
      rw [hit] at found
      cases k with
      | zero =>
        obtain rfl := Option.some.inj found
        exact ⟨range, declared, first⟩
      | succ k =>
        obtain ⟨band, isBand, reached⟩ := follows.id_eq category k later found
        rw [issued, if_pos rfl] at reached
        exact ⟨band, space ▸ isBand, by omega⟩
    · rw [miss same] at found
      obtain ⟨band, isBand, reached⟩ := follows.id_eq other k later found
      rw [issued, if_neg same] at reached
      exact ⟨band, space ▸ isBand, reached⟩

end Follows

theorem calls_follows {allocator : IdAllocator} (sound : allocator.Sound)
    (valid : IdSpace.Valid allocator.space.ranges) (categories : List Category) :
    Follows allocator (allocator.calls categories).1 (allocator.calls categories).2 := by
  induction categories generalizing allocator with
  | nil => exact .nil sound
  | cons category rest ih =>
    rw [calls, call_eq valid]
    cases gives : allocator.next category with
    | error cause => exact (ih sound valid).cons_error cause
    | ok given =>
      obtain ⟨soundNext, space, -⟩ := next_eq_ok sound gives
      exact (ih soundNext (space ▸ valid)).cons_ok sound gives

/-- One call more is made of the allocator that the row leaves. -/
theorem calls_concat (allocator : IdAllocator) (earlier : List Category) (category : Category) :
    allocator.calls (earlier ++ [category]) =
      let (log, last) := allocator.calls earlier
      let (answer, behind) := last.call category
      (log ++ [⟨category, answer⟩], behind) := by
  induction earlier generalizing allocator with
  | nil => rfl
  | cons first rest ih => simp only [List.cons_append, calls, ih]

/-- What the answers to a row of calls tell of the allocator behind them. -/
structure Accounts (space : IdSpace) (log : List Call) (allocator : IdAllocator) : Prop where
  space_eq : allocator.space = space
  /-- The ids of a category are those of its band, from the bottom. -/
  id_eq : ∀ category k id, (idsFor category log)[k]? = some id →
    ∃ range, space.range? category = some range ∧ id = range.start + k
  issued_eq : ∀ category, allocator.issued category = (idsFor category log).length
  within : ∀ category ids, allocator.opened? category = some ids →
    ids.range.start ≤ ids.next ∧ ids.next ≤ ids.range.stop ∧ ids.FitsWords

/-- Whatever an allocator was asked for, its answers tell what it has handed out, and the next call of the
row is answered accordingly. -/
theorem calls_account {ranges : List IdRange} {space : IdSpace}
    (accepted : IdSpace.ofRanges ranges = .ok space)
    (words : ∀ range ∈ ranges, range.stop < UInt32.size) (earlier : List Category)
    (category : Category) :
    let (log, allocator) := (start space).calls earlier
    let (answer, behind) := allocator.call category
    (start space).calls (earlier ++ [category]) = (log ++ [⟨category, answer⟩], behind) ∧
      Accounts space log allocator ∧
      Serves allocator category (idsFor category log).length answer behind := by
  obtain ⟨⟨-, valid⟩, rfl⟩ := IdSpace.ofRanges_eq_ok_iff.1 accepted
  have follows := calls_follows (sound_start ⟨ranges⟩) valid earlier
  have fresh (other : Category) : (start ⟨ranges⟩).issued other = 0 := rfl
  have issued (other : Category) : ((start ⟨ranges⟩).calls earlier).2.issued other =
      (idsFor other ((start ⟨ranges⟩).calls earlier).1).length := by
    rw [follows.issued_eq, fresh, Nat.zero_add]
  refine ⟨calls_concat _ earlier category, ?_, ?_⟩
  · constructor
    case space_eq => exact follows.space_eq
    case id_eq =>
      intro other k id found
      obtain ⟨range, declared, reached⟩ := follows.id_eq other k id found
      rw [fresh, Nat.zero_add] at reached
      exact ⟨range, declared, reached⟩
    case issued_eq => exact issued
    case within =>
      intro other ids opened
      obtain ⟨declared, low, high⟩ := follows.sound other ids opened
      rw [follows.space_eq] at declared
      have word := words ids.range (List.mem_of_find?_eq_some declared)
      exact ⟨low, high, IdSequence.fitsWords_of_within low high word⟩
  · rw [← issued]
    exact call_serves follows.sound (follows.space_eq ▸ valid) category

/-- Two bands, the second of which ends at the top of a word of 32 bits. -/
def topBands : List IdRange := [⟨.ads, 1, 4⟩, ⟨.custom, 4294967293, 4294967295⟩]

/-- Calls that use up the second band, and one for a category without a band. -/
def busyCalls : List Category := [.custom, .ads, .malware, .custom, .custom, .ads]

/-- The band stays used up, and the other one goes on. -/
theorem calls_account_topBands :
    IdSpace.ofRanges topBands = .ok ⟨topBands⟩ ∧
      (∀ range ∈ topBands, range.stop < UInt32.size) ∧
      let (log, allocator) := (start ⟨topBands⟩).calls busyCalls
      idsFor .custom log = [4294967293, 4294967294] ∧ idsFor .ads log = [1, 2] ∧
        allocator.issued .custom = 2 ∧
        allocator.call .custom = (.error (.exhausted .custom 2), allocator) ∧
        (allocator.call .ads).1 = .ok 3 := by
  have accepted : IdSpace.ofRanges topBands = .ok ⟨topBands⟩ := by decide
  have words : ∀ range ∈ topBands, range.stop < UInt32.size := by decide
  obtain ⟨-, accounts, ofCustom⟩ := calls_account accepted words busyCalls .custom
  obtain ⟨-, -, ofAds⟩ := calls_account accepted words busyCalls .ads
  have exhausted := (ofCustom.exhausted_iff .custom 2).2
    ⟨rfl, ⟨.custom, 4294967293, 4294967295⟩, by decide, by decide, by decide⟩
  refine ⟨accepted, words, by decide, by decide, accounts.issued_eq .custom, ?_, ?_⟩
  · exact Prod.ext exhausted (ofCustom.unchanged _ exhausted)
  · exact (ofAds.ok_iff 3).2 ⟨⟨.ads, 1, 4⟩, by decide, by decide, by decide⟩

end IdAllocator

end ContentFilter
