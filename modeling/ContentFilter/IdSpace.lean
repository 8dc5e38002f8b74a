import ContentFilter.Category

/-!
# Rule ids

The ids of rules are split into one band per category, so that batches never collide and a category
can be dropped by its band.  A table of bands is sorted and its bands are disjoint; every compilation
hands out ids from the bottom of each band.
-/

namespace ContentFilter

/-- The band `[start, stop)` of rule ids that a category owns. -/
structure IdRange where
  category : Category
  start : Nat
  stop : Nat
deriving DecidableEq, Repr

namespace IdRange

/-- How many ids a band has. -/
def width (range : IdRange) : Nat := range.stop - range.start

/-- Whether an id is in the band. -/
def contains (range : IdRange) (id : Nat) : Bool := range.start ≤ id && id < range.stop

/-- The text of a band in messages. -/
def text (range : IdRange) : String :=
  "[" ++ toString range.start ++ ", " ++ toString range.stop ++ ")"

end IdRange

/-- What is wrong with a table of bands. -/
inductive IdRangeError where
  | noRanges
  /-- A band without ids, or one that starts at zero. -/
  | emptyRange (range : IdRange)
  | declaredTwice (category : Category)
  /-- A band that begins before the end of the band in front of it. -/
  | overlap (range previous : IdRange)
  | undeclared (category : Category)
deriving DecidableEq, Repr

/-- The text of an error. -/
def IdRangeError.message : IdRangeError → String
  | .noRanges => "no ranges declared"
  | .emptyRange range =>
    "range for '" ++ range.category.name ++ "' is empty or starts at zero: " ++ range.text
  | .declaredTwice category => "category '" ++ category.name ++ "' declared twice"
  | .overlap range previous =>
    "'" ++ range.category.name ++ "' " ++ range.text ++ " overlaps or precedes '" ++
      previous.category.name ++ "' " ++ previous.text
  | .undeclared category => "no range declared for '" ++ category.name ++ "'"

/-- A table of bands. -/
structure IdSpace where
  ranges : List IdRange
deriving DecidableEq, Repr

namespace IdSpace

/-- The first fault of a table, read from the front; `before` holds the bands already read, the last
one first. -/
def firstFault? (before : List IdRange) : List IdRange → Option IdRangeError
  | [] => none
  | range :: rest =>
    if range.start = 0 || range.stop ≤ range.start then some (.emptyRange range)
    else if before.any (·.category == range.category) then some (.declaredTwice range.category)
    else
      match before.head? with
      | some previous =>
        if range.start < previous.stop then some (.overlap range previous)
        else firstFault? (range :: before) rest
      | none => firstFault? (range :: before) rest

/-- The table of the given bands, if they are sorted and disjoint, start at one or above, hold ids
and belong to different categories. -/
def ofRanges (ranges : List IdRange) : Except IdRangeError IdSpace :=
  if ranges.isEmpty then .error .noRanges
  else
    match firstFault? [] ranges with
    | some fault => .error fault
    | none => .ok ⟨ranges⟩

/-- The built-in table: lists by category, then the user's domain lists, then custom rules and
subscribed lists in far higher bands. -/
def builtIn : IdSpace where
  ranges :=
    [⟨.ads, 1000, 6000⟩, ⟨.trackers, 6000, 11000⟩, ⟨.social, 11000, 16000⟩,
     ⟨.cryptominers, 16000, 21000⟩, ⟨.malware, 21000, 26000⟩, ⟨.whitelist, 30000, 35000⟩,
     ⟨.blacklist, 35000, 40000⟩, ⟨.custom, 1000000, 1100000⟩, ⟨.filterLists, 2000000, 2500000⟩]

/-- The band of a category. -/
def range? (space : IdSpace) (category : Category) : Option IdRange :=
  space.ranges.find? (·.category == category)

/-- The category whose band holds an id. -/
def categoryOf? (space : IdSpace) (id : Nat) : Option Category :=
  (space.ranges.find? (·.contains id)).map (·.category)

end IdSpace

/-- The failure to hand out an id: the category has no band, or its band is used up. -/
inductive IdError where
  | undeclared (category : Category)
  | exhausted (category : Category) (width : Nat)
deriving DecidableEq, Repr

/-- The ids of one band, handed out from its bottom. -/
structure IdSequence where
  range : IdRange
  next : Nat
deriving DecidableEq, Repr

namespace IdSequence

/-- The sequence of a band of which no id has been handed out. -/
def start (range : IdRange) : IdSequence := ⟨range, range.start⟩

/-- The next id and the sequence behind it. -/
def next? (ids : IdSequence) : Option (Nat × IdSequence) :=
  if ids.range.stop ≤ ids.next then none else some (ids.next, { ids with next := ids.next + 1 })

/-- How many ids have been handed out. -/
def issued (ids : IdSequence) : Nat := ids.next - ids.range.start

/-- How many ids are left. -/
def remaining (ids : IdSequence) : Nat := ids.range.stop - ids.next

/-- The ids that are left, in order. -/
def rest (ids : IdSequence) : List Nat := List.range' ids.next ids.remaining

/-- The sequence when every id has been handed out. -/
def drained (ids : IdSequence) : IdSequence := { ids with next := max ids.next ids.range.stop }

/-- The error of a sequence that has no id left. -/
def exhaustion (ids : IdSequence) : IdError := .exhausted ids.range.category ids.range.width

end IdSequence

namespace IdSpace

/-- A fresh sequence of a category's ids. -/
def sequence (space : IdSpace) (category : Category) : Except IdError IdSequence :=
  match space.range? category with
  | some range => .ok (.start range)
  | none => .error (.undeclared category)

end IdSpace

/-- Hands out the ids of every category during one compilation.  A category's sequence is opened by
its first request. -/
structure IdAllocator where
  space : IdSpace
  sequences : List IdSequence
deriving DecidableEq, Repr

namespace IdAllocator

/-- The allocator that has handed out no id. -/
def start (space : IdSpace) : IdAllocator := ⟨space, []⟩

/-- The open sequence of a category. -/
def opened? (allocator : IdAllocator) (category : Category) : Option IdSequence :=
  allocator.sequences.find? (·.range.category == category)

/-- The sequence of a category, open or fresh. -/
def sequence (allocator : IdAllocator) (category : Category) : Except IdError IdSequence :=
  match allocator.opened? category with
  | some ids => .ok ids
  | none => allocator.space.sequence category

/-- The allocator with the state of a category's sequence replaced. -/
def store (allocator : IdAllocator) (ids : IdSequence) : IdAllocator :=
  { allocator with
    sequences := ids ::
      allocator.sequences.filter (·.range.category != ids.range.category) }

/-- The next id of a category, and the allocator behind it. -/
def next (allocator : IdAllocator) (category : Category) : Except IdError (Nat × IdAllocator) := do
  let ids ← allocator.sequence category
  match ids.next? with
  | some (id, ids) => pure (id, allocator.store ids)
  | none => throw ids.exhaustion

/-- How many ids of a category have been handed out. -/
def issued (allocator : IdAllocator) (category : Category) : Nat :=
  match allocator.opened? category with
  | some ids => ids.issued
  | none => 0

end IdAllocator

end ContentFilter
