import ContentFilter.Text

/-!
# Domains

Domain names in rules and requests.  A name matches another one on label boundaries only:
`sub.example.com` matches `example.com`, and `notexample.com` does not.
-/

namespace ContentFilter.Domain

/-- A character that a host name may hold. -/
def isHostChar (c : Char) : Bool :=
  c.isAlphanum || c == '.' || c == '-' || c == '_'

/-- Whether two dots stand side by side. -/
def hasEmptyLabel : List Char → Bool
  | '.' :: '.' :: _ => true
  | _ :: rest => hasEmptyLabel rest
  | [] => false

theorem hasEmptyLabel_cons_cons (c d : Char) (rest : List Char) :
    hasEmptyLabel (c :: d :: rest) = (c == '.' && d == '.' || hasEmptyLabel (d :: rest)) := by
  by_cases both : c = '.' ∧ d = '.'
  · obtain ⟨rfl, rfl⟩ := both
    rfl
  · have apart : (c == '.' && d == '.') = false := by simpa using both
    rw [apart, Bool.false_or, hasEmptyLabel]
    rintro behind rfl same
    exact both ⟨rfl, (List.cons.inj same).1⟩

/-- The text without dots at its ends. -/
def trimDots (s : List Char) : List Char :=
  Text.dropEndWhile (· == '.') (s.dropWhile (· == '.'))

/-- The text without dots at its end. -/
def trimEndDots (s : List Char) : List Char := Text.dropEndWhile (· == '.') s

/-- The longest name that is accepted. -/
def maxLength : Nat := 253

/-- The normal form of a domain token: no white space or dots around it, small letters.  There is
none if the token is empty, too long or no host name. -/
def normalize? (host : String) : Option String :=
  let name := trimDots (Text.trim host.toList)
  if name.isEmpty || maxLength < name.length || !name.all isHostChar || hasEmptyLabel name then none
  else some (String.ofList (Text.lower name))

/-- Whether a domain is `entry` or a subdomain of it; dots at the end of the domain do not count. -/
def matchesDomain (domain entry : String) : Bool :=
  let host := trimEndDots domain.toList
  let entry := entry.toList
  let split := host.length - entry.length
  !entry.isEmpty && entry.length ≤ host.length && Text.equalIgnoreCase (host.drop split) entry &&
    (split == 0 || (host.take split).getLast? == some '.')

/-- Whether a rule with these domain lists applies on a domain: one of the includes matches, unless
there are none, and none of the excludes does. -/
def applies (includes excludes : List String) (domain : String) : Bool :=
  (includes.isEmpty || includes.any (matchesDomain domain)) &&
    !excludes.any (matchesDomain domain)

/-- The include and exclude lists of a rule. -/
structure Scope where
  includes : List String
  excludes : List String
deriving DecidableEq, Repr

/-- The list with the entry at its end, unless it is there already. -/
def insertNew (list : List String) (entry : String) : List String :=
  if list.contains entry then list else list ++ [entry]

namespace Scope

/-- The scope without restrictions. -/
def everywhere : Scope := ⟨[], []⟩

/-- The scope with one more token: a domain, or `~` and a domain to exclude.  Blank tokens are
skipped, and there is no result if the domain is invalid. -/
def addToken (scope : Scope) (token : List Char) : Option Scope :=
  match Text.trim token with
  | [] => some scope
  | '~' :: rest => (normalize? (String.ofList rest)).map fun domain =>
    { scope with excludes := insertNew scope.excludes domain }
  | trimmed => (normalize? (String.ofList trimmed)).map fun domain =>
    { scope with includes := insertNew scope.includes domain }

/-- The scope without the includes that are excluded as well. -/
def separate (scope : Scope) : Scope :=
  { scope with includes := scope.includes.filter (!scope.excludes.contains ·) }

/-- The scope that a list of domains between separators describes.  A domain listed both ways is only
excluded. -/
def ofList? (separator : Char) (value : List Char) : Option Scope :=
  ((Text.splitOn separator value).foldlM addToken everywhere).map separate

end Scope

/-- The domain behind the first dot, if there is one. -/
def parent? (host : String) : Option String :=
  match host.toList.dropWhile (· != '.') with
  | _ :: c :: rest => some (String.ofList (c :: rest))
  | _ => none

/-- What stands behind each dot that is not the last character, longest first. -/
def behindDots : List Char → List (List Char)
  | '.' :: c :: rest => (c :: rest) :: behindDots (c :: rest)
  | _ :: rest => behindDots rest
  | [] => []

/-- A host and the domains above it, most specific first; dots at its end do not count. -/
def suffixes (host : String) : List String :=
  match trimEndDots host.toList with
  | [] => []
  | name => (name :: behindDots name).map String.ofList

end ContentFilter.Domain
