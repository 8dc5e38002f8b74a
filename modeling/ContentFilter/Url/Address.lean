/-!
# Numeric addresses

Which texts are addresses of the Internet protocol, in version 4 with four decimal numbers or in
version 6 with up to eight hexadecimal groups, a run of zero groups written as `::`, and possibly an
address of version 4 in place of the last two groups.
-/

namespace ContentFilter.Url.Address

/-- The value of a digit in the given base, at most sixteen. -/
def digit? (base : Nat) (c : Char) : Option Nat :=
  let value? :=
    if c.isDigit then some (c.toNat - '0'.toNat)
    else if 'a' ≤ c && c ≤ 'f' then some (c.toNat - 'a'.toNat + 10)
    else if 'A' ≤ c && c ≤ 'F' then some (c.toNat - 'A'.toNat + 10)
    else none
  value?.filter (· < base)

/-- The text behind a decimal number up to 255 that has no needless zero in front. -/
def readOctet (s : List Char) : Option (List Char) :=
  let digits := s.takeWhile Char.isDigit
  let value := digits.foldl (fun n d => n * 10 + (d.toNat - '0'.toNat)) 0
  let zeroInFront := digits.head? == some '0' && 1 < digits.length
  if digits.isEmpty || 3 < digits.length || zeroInFront || 255 < value then none
  else some (s.drop digits.length)

/-- The text behind an address of version 4. -/
def readVersion4 (s : List Char) : Option (List Char) := do
  let rest ← readOctet s
  let rest ← dot rest
  let rest ← dot rest
  dot rest
where
  /-- The text behind a dot and a number. -/
  dot : List Char → Option (List Char)
    | '.' :: rest => readOctet rest
    | _ => none

/-- The text behind a group of one to four hexadecimal digits. -/
def readGroup (s : List Char) : Option (List Char) :=
  let digits := s.takeWhile fun c => (digit? 16 c).isSome
  if digits.isEmpty || 4 < digits.length then none else some (s.drop digits.length)

/-- The text behind the colon in front of every group but the first. -/
def readColon (isFirst : Bool) (s : List Char) : Option (List Char) :=
  if isFirst then some s
  else
    match s with
    | ':' :: rest => some rest
    | _ => none

/-- What a row of groups came to: how many there are, whether an address of version 4 ended them,
and the text behind. -/
structure Groups where
  count : Nat
  endsInVersion4 : Bool
  rest : List Char

/-- As many groups as there are, `room` at most. -/
def readGroups (isFirst : Bool) : Nat → List Char → Groups
  | 0, s => ⟨0, false, s⟩
  | room + 1, s =>
    let version4 := if room = 0 then none else (readColon isFirst s).bind readVersion4
    match version4, (readColon isFirst s).bind readGroup with
    | some rest, _ => ⟨2, true, rest⟩
    | none, some rest =>
      let more := readGroups false room rest
      { more with count := more.count + 1 }
    | none, none => ⟨0, false, s⟩

/-- The text behind an address of version 6.  The groups in front of `::` hold no address of
version 4, and `::` stands for one group at least. -/
def readVersion6 (s : List Char) : Option (List Char) :=
  let head := readGroups true 8 s
  if head.count = 8 then some head.rest
  else if head.endsInVersion4 then none
  else
    match head.rest with
    | ':' :: ':' :: rest => some (readGroups true (7 - head.count) rest).rest
    | _ => none

/-- Whether the text is an address of either version. -/
def isAddress (s : List Char) : Bool :=
  match readVersion4 s with
  | some rest => rest.isEmpty
  | none =>
    match readVersion6 s with
    | some rest => rest.isEmpty
    | none => false

end ContentFilter.Url.Address
