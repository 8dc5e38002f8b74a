import Mathlib.Data.Bool.AllAny
import Mathlib.Data.List.TakeWhile
import ContentFilter.Url
import ContentFilter.Text.Lemmas

/-!
# URLs put together from parts

A URL made of a scheme, maybe a user, a host, maybe a port, and what follows behind them.  A user may
hold the characters that stand behind users and in front of ports, a host in brackets those in front of
ports, and what follows may hold anything.  The host that is read off such a URL is the one that it was
made with, whoever asks for it.
-/

namespace ContentFilter

namespace Url

/-! ## Splitting at a character -/

theorem bne_of_not_mem {c : Char} {s : List Char} (absent : c ∉ s) : ∀ d ∈ s, (d != c) = true := by
  intro d member
  simp only [bne_iff_ne, ne_eq]
  rintro rfl
  exact absent member

/-- Up to a character, a text without it in front. -/
theorem takeWhile_append_cons {c : Char} {s t : List Char} (absent : c ∉ s) :
    (s ++ c :: t).takeWhile (· != c) = s := by
  rw [List.takeWhile_append_of_pos (bne_of_not_mem absent)]
  simp

theorem splitScheme?_of_not_mem {scheme rest : List Char} (noColon : ':' ∉ scheme) :
    splitScheme? (scheme ++ ':' :: '/' :: '/' :: rest) = some (scheme, rest) := by
  simp only [splitScheme?, takeWhile_append_cons noColon]
  rw [List.drop_left]
  rfl

/-- Nothing stands behind an `@` in a text without one. -/
theorem behindLast_eq_self {c : Char} {s : List Char} (absent : c ∉ s) : behindLast c s = s := by
  have others := bne_of_not_mem (mt List.mem_reverse.1 absent)
  rw [behindLast, List.takeWhile_eq_self_iff.2 others, List.reverse_reverse]

/-- What stands behind the last occurrence of a character. -/
theorem behindLast_append_cons {c : Char} {s t : List Char} (absent : c ∉ t) :
    behindLast c (s ++ c :: t) = t := by
  have split : (s ++ c :: t).reverse = t.reverse ++ c :: s.reverse := by simp
  rw [behindLast, split, takeWhile_append_cons (mt List.mem_reverse.1 absent), List.reverse_reverse]

theorem beforeLast_eq_self {c : Char} {s : List Char} (absent : c ∉ s) : beforeLast c s = s := by
  rw [beforeLast, if_neg (by simpa using absent)]

/-- What stands before the last occurrence of a character. -/
theorem beforeLast_append_cons {c : Char} {s t : List Char} (absent : c ∉ t) :
    beforeLast c (s ++ c :: t) = s := by
  have others := bne_of_not_mem (mt List.mem_reverse.1 absent)
  have isThere : (s ++ c :: t).contains c := by simp
  have split : (s ++ c :: t).reverse = t.reverse ++ c :: s.reverse := by simp
  rw [beforeLast, if_pos isThere, split, List.dropWhile_append_of_pos others]
  simp

/-! ## Authorities -/

theorem endsAuthority_iff {c : Char} : endsAuthority c ↔ c ∈ ['/', '?', '#'] := by
  simp [endsAuthority, or_assoc]

/-- An authority ends where a character that ends it stands, or at the end of the URL. -/
theorem takeWhile_authority {authority rest : List Char}
    (inside : ∀ c ∈ authority, c ∉ ['/', '?', '#']) (behind : ∀ c ∈ rest.head?, c ∈ ['/', '?', '#']) :
    (authority ++ rest).takeWhile (!endsAuthority ·) = authority := by
  have goesOn : ∀ c ∈ authority, (!endsAuthority c) = true := by
    intro c member
    have other := mt endsAuthority_iff.1 (inside c member)
    simpa using other
  have stops : rest.takeWhile (!endsAuthority ·) = [] := by
    cases rest with
    | nil => rfl
    | cons c more =>
      have ends := endsAuthority_iff.2 (behind c rfl)
      simp [ends]
  rw [List.takeWhile_append_of_pos goesOn, stops, List.append_nil]

/-- The host of a URL as it is written: a name, or a text in brackets such as a numeric address. -/
inductive IsHost : List Char → Prop
  | name {host} (nonempty : host ≠ []) (plain : ∀ c ∈ host, c ∉ ['/', '?', '#', '@', '[', ':']) :
      IsHost host
  | bracketed {inside} (plain : ∀ c ∈ inside, c ∉ ['/', '?', '#', '@', ']']) :
      IsHost ('[' :: inside ++ [']'])

theorem IsHost.ne_nil {host : List Char} (isHost : IsHost host) : host ≠ [] := by
  cases isHost with
  | name nonempty => exact nonempty
  | bracketed => simp

theorem IsHost.not_mem {host : List Char} (isHost : IsHost host) {c : Char} (member : c ∈ host) :
    c ∉ ['/', '?', '#', '@'] := by
  cases isHost with
  | name _ plain =>
    have outside := plain c member
    simp_all
  | @bracketed inside plain =>
    simp only [List.cons_append, List.mem_cons, List.mem_append, List.not_mem_nil, or_false] at member
    rcases member with rfl | among | rfl
    · decide
    · have outside := plain c among
      simp_all
    · decide

/-- A port with the colon in front of it, or nothing. -/
def IsPortText (text : List Char) : Prop := text = [] ∨ ∃ digits, text = ':' :: digits ∧ ':' ∉ digits

/-- A name ends at the last colon, which stands in no name and no port. -/
theorem beforeLast_hostAndPort {host port : List Char} (noColon : ':' ∉ host)
    (isPort : IsPortText port) : beforeLast ':' (host ++ port) = host := by
  rcases isPort with rfl | ⟨digits, rfl, absent⟩
  · rw [List.append_nil, beforeLast_eq_self noColon]
  · exact beforeLast_append_cons absent

/-- An address ends at the first closing bracket, whatever stands in front of it and behind. -/
theorem authorityHost_hostAndPort {authority host port : List Char} (isHost : IsHost host)
    (isPort : IsPortText port) (behindUser : behindLast '@' authority = host ++ port) :
    authorityHost authority = host := by
  rw [authorityHost, behindUser]
  cases isHost with
  | name nonempty plain =>
    have noColon : ':' ∉ host := fun member => plain _ member (by decide)
    split
    · rename_i rest bracketed
      obtain ⟨first, more, rfl⟩ := List.exists_cons_of_ne_nil nonempty
      obtain rfl : first = '[' := (List.cons.inj bracketed).1
      exact absurd (by decide) (plain '[' List.mem_cons_self)
    · exact beforeLast_hostAndPort noColon isPort
  | @bracketed inside plain =>
    have closes : (inside ++ ']' :: port).contains ']' := by simp
    have absent : ']' ∉ inside := fun member => plain _ member (by decide)
    simp only [List.cons_append, List.append_assoc, List.nil_append]
    rw [if_pos closes, takeWhile_append_cons absent]

end Url

/-- The parts of a URL. -/
structure UrlParts where
  scheme : List Char
  /-- What identifies a user to the host. -/
  user : Option (List Char)
  host : List Char
  port : Option (List Char)
  /-- The path, the query and the fragment. -/
  rest : List Char
  colon_not_mem_scheme : ':' ∉ scheme
  plain_user : ∀ name ∈ user, ∀ c ∈ name, c ∉ ['/', '?', '#']
  isHost : Url.IsHost host
  plain_port : ∀ digits ∈ port, ∀ c ∈ digits, c ∉ ['/', '?', '#', '@', ':']
  head_rest : ∀ c ∈ rest.head?, c ∈ ['/', '?', '#']

namespace UrlParts

variable (parts : UrlParts)

/-- The user with the `@` behind it. -/
def userText : List Char :=
  match parts.user with
  | none => []
  | some name => name ++ ['@']

/-- The port with the colon in front of it. -/
def portText : List Char :=
  match parts.port with
  | none => []
  | some digits => ':' :: digits

/-- The user, the host and the port. -/
def authority : List Char := parts.userText ++ (parts.host ++ parts.portText)

/-- The characters of the URL. -/
def chars : List Char := parts.scheme ++ "://".toList ++ (parts.authority ++ parts.rest)

/-- The URL as text. -/
def text : String := String.ofList parts.chars

/-! ## The host that is read off -/

theorem not_mem_userText {c : Char} (member : c ∈ parts.userText) : c ∉ ['/', '?', '#'] := by
  unfold userText at member
  split at member
  · cases member
  · rename_i name isUser
    rcases List.mem_append.1 member with inside | last
    · exact parts.plain_user name isUser c inside
    · obtain rfl := List.mem_singleton.1 last
      decide

theorem not_mem_portText {c : Char} (member : c ∈ parts.portText) : c ∉ ['/', '?', '#', '@'] := by
  unfold portText at member
  split at member
  · cases member
  · rename_i digits isPort
    rcases List.mem_cons.1 member with rfl | inside
    · decide
    · have outside := parts.plain_port digits isPort c inside
      simp_all

theorem not_mem_hostAndPort {c : Char} (member : c ∈ parts.host ++ parts.portText) :
    c ∉ ['/', '?', '#', '@'] :=
  (List.mem_append.1 member).elim parts.isHost.not_mem parts.not_mem_portText

theorem not_mem_authority {c : Char} (member : c ∈ parts.authority) : c ∉ ['/', '?', '#'] := by
  rcases List.mem_append.1 member with user | behind
  · exact parts.not_mem_userText user
  · have outside := parts.not_mem_hostAndPort behind
    simp_all

/-- The host and the port stand behind the last `@`. -/
theorem behindLast_authority :
    Url.behindLast '@' parts.authority = parts.host ++ parts.portText := by
  have noUser : '@' ∉ parts.host ++ parts.portText := fun member =>
    parts.not_mem_hostAndPort member (by decide)
  unfold authority userText
  split
  · exact Url.behindLast_eq_self noUser
  · rw [List.append_assoc]
    exact Url.behindLast_append_cons noUser

theorem isPortText_portText : Url.IsPortText parts.portText := by
  unfold portText
  split
  · exact .inl rfl
  · rename_i digits isPort
    exact .inr ⟨digits, rfl, fun member => parts.plain_port digits isPort ':' member (by decide)⟩

theorem host?_text : Url.host? parts.text = some (String.ofList parts.host) := by
  have whole : parts.chars = parts.scheme ++ ':' :: '/' :: '/' :: (parts.authority ++ parts.rest) := by
    simp [chars]
  have authority := Url.takeWhile_authority (fun _ => parts.not_mem_authority) parts.head_rest
  simp only [Url.host?, text, String.toList_ofList, whole,
    Url.splitScheme?_of_not_mem parts.colon_not_mem_scheme, Option.bind_eq_bind, Option.bind_some,
    authority, Url.authorityHost_hostAndPort parts.isHost parts.isPortText_portText
      parts.behindLast_authority]
  cases host : parts.host with
  | nil => exact absurd host parts.isHost.ne_nil
  | cons c rest => rfl

/-- The URL as an initiator.  It is told from a bare host by its `://`. -/
theorem initiatorHost?_text (unbroken : ∀ c ∈ parts.chars, Unicode.isWhiteSpace c = false) :
    Url.initiatorHost? parts.text = Url.host? parts.text := by
  have trimmed : Text.trim parts.text.toList = parts.chars := by
    rw [text, String.toList_ofList, Text.trim_eq_self_of_not unbroken]
  have marked : "://".toList <:+: parts.chars := List.infix_append _ _ _
  have named : (parts.chars.isEmpty || parts.chars == "null".toList) = false := by
    have colon : ':' ∈ parts.chars := marked.subset (by decide)
    rw [Bool.or_eq_false_iff, List.isEmpty_eq_false_iff, beq_eq_false_iff_ne]
    refine ⟨List.ne_nil_of_mem colon, fun same => ?_⟩
    rw [same] at colon
    exact absurd colon (by decide)
  simp only [Url.initiatorHost?, trimmed, named, Text.containsText_iff.2 marked, if_true]
  rfl

/-- The host of a URL is the one that it was made with, and without white space so is the host of the
initiator. -/
theorem hosts_text (unbroken : ∀ c ∈ parts.chars, Unicode.isWhiteSpace c = false) :
    Url.host? parts.text = some (String.ofList parts.host) ∧
      Url.initiatorHost? parts.text = some (String.ofList parts.host) := by
  rw [parts.initiatorHost?_text unbroken, and_self]
  exact parts.host?_text

/-- A URL that pretends to be one of another host: its user looks like a host with a port, and its path
like a URL. -/
def disguisedUrl : UrlParts where
  scheme := "https".toList
  user := some "bank.test:443@[::2]:80".toList
  host := "[::1]".toList
  port := some "8080]".toList
  rest := "/@http://user:x@bank.test:80/".toList
  colon_not_mem_scheme := by decide
  plain_user := by
    rintro _ ⟨⟩
    exact List.all_iff_forall_prop.1 (by decide)
  isHost :=
    have plain : ∀ c ∈ "::1".toList, c ∉ ['/', '?', '#', '@', ']'] :=
      List.all_iff_forall_prop.1 (by decide)
    .bracketed plain
  plain_port := by
    rintro _ ⟨⟩
    exact List.all_iff_forall_prop.1 (by decide)
  head_rest := by
    rintro _ ⟨⟩
    decide

theorem hosts_text_disguised :
    disguisedUrl.text = "https://bank.test:443@[::2]:80@[::1]:8080]/@http://user:x@bank.test:80/" ∧
      (∀ c ∈ disguisedUrl.chars, Unicode.isWhiteSpace c = false) ∧
      Url.host? disguisedUrl.text = some "[::1]" ∧
      Url.initiatorHost? disguisedUrl.text = some "[::1]" := by
  have unbroken : ∀ c ∈ disguisedUrl.chars, Unicode.isWhiteSpace c = false :=
    List.all_iff_forall_prop.1 (by decide +kernel)
  exact ⟨rfl, unbroken, disguisedUrl.hosts_text unbroken⟩

end UrlParts

end ContentFilter
