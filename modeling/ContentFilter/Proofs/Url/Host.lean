import ContentFilter.Domain.Lemmas
import ContentFilter.Proofs.Url.Parts

/-!
# URLs with the name of a host

A URL as most requests have it: a scheme, the name of a host, a port or none, and what follows behind
them.  The host that is read off such a URL is the one it was made with.
-/

namespace ContentFilter

/-- A URL with a scheme of letters, the name of a host and maybe a port. -/
structure HostUrl where
  scheme : List Char
  host : List Char
  /-- The digits of the port. -/
  port : Option (List Char)
  /-- The path, the query and the fragment. -/
  rest : List Char
  scheme_ne_nil : scheme ≠ []
  isAlpha_of_mem_scheme : ∀ c ∈ scheme, c.isAlpha
  host_ne_nil : host ≠ []
  isHostChar_of_mem_host : ∀ c ∈ host, Domain.isHostChar c
  not_dot_at_end : host.getLast? ≠ some '.'
  isDigit_of_mem_port : ∀ digits ∈ port, ∀ c ∈ digits, c.isDigit
  endsAuthority_of_head_rest : ∀ c ∈ rest.head?, Url.endsAuthority c

namespace HostUrl

variable (url : HostUrl)

/-- The port with the colon in front of it. -/
def portText : List Char :=
  match url.port with
  | none => []
  | some digits => ':' :: digits

/-- What stands behind the host. -/
def behindHost : List Char := url.portText ++ url.rest

/-- The characters of the URL. -/
def chars : List Char := url.scheme ++ "://".toList ++ (url.host ++ url.behindHost)

/-- The URL as text. -/
def text : String := String.ofList url.chars

/-! ## Characters -/

/-- A character of a class is none of those that are outside the class. -/
theorem not_mem_of_outside {isInside : Char → Bool} {outside : List Char}
    (areOutside : outside.all (!isInside ·)) {c : Char} (inside : isInside c) : c ∉ outside := by
  intro member
  have isOutside := List.all_eq_true.1 areOutside c member
  rw [inside] at isOutside
  cases isOutside

theorem not_mem_of_isHostChar {c : Char} (isHost : Domain.isHostChar c) :
    c ∉ ['/', '?', '#', '@', '[', ':'] :=
  not_mem_of_outside (by decide) isHost

theorem not_mem_of_isDigit {c : Char} (digit : c.isDigit) :
    c ∉ ['/', '?', '#', '@', '[', ':', '.'] :=
  not_mem_of_outside (by decide) digit

theorem not_mem_of_isAlpha {c : Char} (letter : c.isAlpha) : c ∉ [':', '/', '.'] :=
  not_mem_of_outside (by decide) letter

theorem not_mem_scheme {c : Char} (outside : c ∈ [':', '/', '.']) : c ∉ url.scheme :=
  fun member => not_mem_of_isAlpha (url.isAlpha_of_mem_scheme c member) outside

/-- What stands behind the host begins with a character that can end it. -/
theorem mem_of_behindHost {c : Char} {more : List Char} (behind : url.behindHost = c :: more) :
    c ∈ [':', '/', '?', '#'] := by
  unfold behindHost portText at behind
  split at behind
  · have ends := url.endsAuthority_of_head_rest c (by simpa using congrArg List.head? behind)
    simp only [Url.endsAuthority, Bool.or_eq_true, beq_iff_eq] at ends
    rcases ends with (rfl | rfl) | rfl <;> decide
  · obtain ⟨rfl, -⟩ := List.cons.inj behind
    decide

/-- Behind a colon there are digits only, up to where the authority ends. -/
theorem isDigit_of_behindHost {more after : List Char}
    (behind : url.behindHost = ':' :: (more ++ after))
    (inside : ∀ c ∈ more, Url.endsAuthority c = false) : ∀ c ∈ more, c.isDigit := by
  unfold behindHost portText at behind
  split at behind
  · have ends := url.endsAuthority_of_head_rest ':' (by simpa using congrArg List.head? behind)
    exact absurd ends (by decide)
  · rename_i digits isPort
    have areDigits := url.isDigit_of_mem_port digits isPort
    obtain ⟨-, split⟩ := List.cons.inj behind
    rcases List.append_eq_append_iff.1 split with ⟨others, isMore, isRest⟩ | ⟨others, isDigits, -⟩
    · cases others with
      | nil => simpa [isMore] using areDigits
      | cons c others =>
        have ends := url.endsAuthority_of_head_rest c (by simp [isRest])
        rw [inside c (by simp [isMore])] at ends
        cases ends
    · exact fun c member => areDigits c (by simp [isDigits, member])

/-! ## The host that is read off -/

theorem chars_eq : url.chars = url.scheme ++ ':' :: '/' :: '/' :: (url.host ++ url.behindHost) := by
  simp [chars]

theorem splitScheme?_chars :
    Url.splitScheme? url.chars = some (url.scheme, url.host ++ url.behindHost) := by
  have noColon : ':' ∉ url.scheme := url.not_mem_scheme (by decide)
  rw [chars_eq, Url.splitScheme?_of_not_mem noColon]

/-- The parts of the URL; there is no user. -/
def toParts : UrlParts where
  scheme := url.scheme
  user := none
  host := url.host
  port := url.port
  rest := url.rest
  colon_not_mem_scheme := url.not_mem_scheme (by decide)
  plain_user := by
    rintro _ ⟨⟩
  isHost := .name url.host_ne_nil fun c member =>
    not_mem_of_isHostChar (url.isHostChar_of_mem_host c member)
  plain_port := fun digits isPort c member => by
    have outside := not_mem_of_isDigit (url.isDigit_of_mem_port digits isPort c member)
    simp_all
  head_rest := fun c first => Url.endsAuthority_iff.1 (url.endsAuthority_of_head_rest c first)

theorem text_toParts : url.toParts.text = url.text := by
  simp only [UrlParts.text, UrlParts.chars, UrlParts.authority, UrlParts.userText, List.append_assoc]
  simp only [text, chars, behindHost, List.append_assoc]
  rfl

/-- The host that is read off the URL is its host. -/
theorem host?_text : Url.host? url.text = some (String.ofList url.host) := by
  rw [← url.text_toParts]
  exact url.toParts.host?_text

end HostUrl

end ContentFilter
