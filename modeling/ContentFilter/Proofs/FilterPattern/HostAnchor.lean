import Mathlib.Data.List.Forall2
import ContentFilter.Proofs.FilterPattern.Meaning
import ContentFilter.Proofs.FilterPattern.Size
import ContentFilter.Proofs.Url.Host

/-!
# Patterns for a host

The pattern `||name^` is loaded for every normal domain.  The search for it finds a URL exactly if the
host of the URL is the domain or a subdomain of it, or if the scheme of the URL is the name, which a name
with a dot cannot be.
-/

namespace ContentFilter

namespace Glob

variable {caseSensitive : Bool} {wanted name middle behind : List Char}

/-! ## Names -/

/-- The glob of a name at the host, with the end of the name behind it. -/
def ofName (name : List Char) : Glob :=
  { start := .host, parts := name.map .literal ++ [.separator], atEnd := false }

theorem partOf_of_isHostChar {c : Char} (isHost : Domain.isHostChar c) : partOf c = .literal c := by
  have notStar : c ≠ '*' := by
    rintro rfl
    exact absurd isHost (by decide)
  have notCaret : c ≠ '^' := by
    rintro rfl
    exact absurd isHost (by decide)
  rw [partOf, if_neg notStar, if_neg notCaret]

theorem isWrittenAs_ofName (hosts : ∀ c ∈ name, Domain.isHostChar c) :
    (ofName name).IsWrittenAs ("||".toList ++ name ++ ['^']) := by
  refine ⟨name ++ ['^'], by simp [ofName, opening, closing], ?_, fun other => absurd rfl other, ?_⟩
  · have literals : name.map partOf = name.map .literal :=
      List.map_congr_left fun c member => partOf_of_isHostChar (hosts c member)
    rw [List.map_append, literals]
    rfl
  · simp

theorem ofText_ofName (hosts : ∀ c ∈ name, Domain.isHostChar c) :
    ofText ("||".toList ++ name ++ ['^']) = ofName name :=
  (isWrittenAs_iff.1 (isWrittenAs_ofName hosts)).symm

theorem writable_ofName (hosts : ∀ c ∈ name, Domain.isHostChar c) :
    ∀ part ∈ (ofName name).parts, part.IsWritable := by
  rw [← ofText_ofName hosts]
  exact writable_ofText _

/-! ## Matches of a name -/

theorem fits_literals {parts : List GlobPart} :
    Fits caseSensitive (wanted.map .literal ++ parts) middle behind ↔ ∃ text rest,
      middle = text ++ rest ∧ List.Forall₂ (Accepts caseSensitive) wanted text ∧
        Fits caseSensitive parts rest behind := by
  induction wanted generalizing middle with
  | nil => simp
  | cons c wanted ih =>
    rw [List.map_cons, List.cons_append, fits_cons]
    constructor
    · rintro ⟨_, _, rfl, ⟨d, rfl, accepts⟩, inside⟩
      obtain ⟨text, rest, rfl, all, fits⟩ := ih.1 inside
      exact ⟨d :: text, rest, rfl, .cons accepts all, fits⟩
    · rintro ⟨_, rest, rfl, all, fits⟩
      cases all with
      | cons accepts all =>
        exact ⟨[_], _, rfl, ⟨_, rfl, accepts⟩, ih.2 ⟨_, rest, rfl, all, fits⟩⟩

/-- A separator fits in front of a text that begins with one, or is empty. -/
theorem fits_separator {after : List Char} :
    (∃ middle behind, after = middle ++ behind ∧ Fits caseSensitive [.separator] middle behind) ↔
      ∀ c ∈ after.head?, IsSeparator caseSensitive c := by
  constructor
  · rintro ⟨_, behind, rfl, fits⟩ c first
    cases fits with
    | separator isSeparator rest =>
      obtain rfl := Option.some.inj first
      exact isSeparator
    | separatorAtEnd rest => cases first
  · intro separators
    cases after with
    | nil => exact ⟨[], [], rfl, .separatorAtEnd .nil⟩
    | cons c after => exact ⟨[c], after, rfl, .separator (separators c rfl) .nil⟩

theorem matches_ofName {url : List Char} : (ofName name).Matches caseSensitive url ↔
    ∃ before text after, url = before ++ (text ++ after) ∧
      BeginsBehind caseSensitive .host before ∧
      List.Forall₂ (Accepts caseSensitive) name text ∧
      ∀ c ∈ after.head?, IsSeparator caseSensitive c := by
  constructor
  · rintro ⟨before, _, behind, rfl, begins, fits, -⟩
    obtain ⟨text, middle, rfl, all, ends⟩ := fits_literals.1 fits
    exact ⟨before, text, middle ++ behind, by simp, begins, all,
      fits_separator.1 ⟨middle, behind, rfl, ends⟩⟩
  · rintro ⟨before, text, after, rfl, begins, all, separators⟩
    obtain ⟨middle, behind, rfl, ends⟩ := fits_separator.2 separators
    exact ⟨before, text ++ middle, behind, by simp, begins,
      fits_literals.2 ⟨text, middle, rfl, all, ends⟩, by simp [ofName]⟩

/-! ## Characters -/

theorem isInner_of_isHostChar {c : Char} (isHost : Domain.isHostChar c) : isInner c := by
  simp only [Domain.isHostChar, isInner, Bool.or_eq_true] at isHost ⊢
  tauto

theorem not_isSeparator {c : Char} (isHost : Domain.isHostChar c) : ¬ IsSeparator caseSensitive c :=
  fun separator => separator c (isInner_of_isHostChar isHost)
    (accepts_self (Domain.ascii_of_isHostChar isHost))

/-- What ends a host is a separator. -/
theorem isSeparator_of_mem {c : Char} (ends : c ∈ [':', '/', '?', '#']) :
    IsSeparator caseSensitive c := by
  obtain ⟨ascii, caseless⟩ := caseless_of_mem ends
  intro w inner accepts
  obtain rfl := eq_of_accepts ascii caseless accepts
  exact HostUrl.not_mem_of_outside (by decide) inner ends

theorem exists_accepts_of_mem {text : List Char}
    (all : List.Forall₂ (Accepts caseSensitive) name text) {c : Char} (member : c ∈ text) :
    ∃ w ∈ name, Accepts caseSensitive w c := by
  induction all with
  | nil => cases member
  | cons accepts all ih =>
    rcases List.mem_cons.1 member with rfl | later
    · exact ⟨_, List.mem_cons_self, accepts⟩
    · obtain ⟨w, isIn, accepts⟩ := ih later
      exact ⟨w, List.mem_cons_of_mem _ isIn, accepts⟩

/-- What passes for a name holds no character that ends a host. -/
theorem not_mem_of_accepts {text : List Char} (hosts : ∀ c ∈ name, Domain.isHostChar c)
    (all : List.Forall₂ (Accepts caseSensitive) name text) {c : Char}
    (ends : c ∈ [':', '/', '?', '#']) : c ∉ text := by
  intro member
  obtain ⟨w, isIn, accepts⟩ := exists_accepts_of_mem all member
  exact isSeparator_of_mem ends w (isInner_of_isHostChar (hosts w isIn)) accepts

/-- What passes for a name has every character of the name that has no letter case. -/
theorem mem_of_accepts {text : List Char} (all : List.Forall₂ (Accepts caseSensitive) name text)
    {c : Char} (ascii : c.toNat < 128) (caseless : c.isAlpha = false) (member : c ∈ name) : c ∈ text := by
  induction all with
  | nil => cases member
  | cons accepts all ih =>
    rcases List.mem_cons.1 member with rfl | later
    · obtain rfl := (accepts_iff_eq ascii caseless).1 accepts
      exact List.mem_cons_self
    · exact List.mem_cons_of_mem _ (ih later)

theorem free_of_areLabels {labels : List Char} (areLabels : labels = [] ∨ AreLabels labels) :
    ∀ c ∈ labels, c ∉ ['/', '?', '#'] := by
  rcases areLabels with rfl | ⟨inside, rfl, free⟩
  · simp
  · intro c member
    rcases List.mem_append.1 member with member | last
    · exact free c member
    · obtain rfl := List.mem_singleton.1 last
      decide

/-- Names of ASCII pass for each other if they are equal up to the case of letters. -/
theorem forall₂_accepts_iff {text : List Char} (ascii : ∀ c ∈ name, c.toNat < 128)
    (textAscii : ∀ c ∈ text, c.toNat < 128) :
    List.Forall₂ (Accepts false) name text ↔ Text.lower text = Text.lower name := by
  induction name generalizing text with
  | nil => simp [Text.lower]
  | cons w name ih =>
    obtain ⟨wAscii, ascii⟩ := List.forall_mem_cons.1 ascii
    cases text with
    | nil => simp [Text.lower]
    | cons c text =>
      obtain ⟨cAscii, textAscii⟩ := List.forall_mem_cons.1 textAscii
      have first : Accepts false w c ↔ c.toLower = w.toLower :=
        (Unicode.mem_caseOrbit_iff_toLower wAscii cAscii).trans eq_comm
      simp only [List.forall₂_cons, first, ih ascii textAscii, Text.lower, List.map_cons,
        List.cons.injEq]

/-- Letters are a scheme. -/
theorem isScheme_of_isAlpha {scheme : List Char} (nonempty : scheme ≠ [])
    (letters : ∀ c ∈ scheme, c.isAlpha) : IsScheme caseSensitive (scheme ++ "://".toList) := by
  obtain ⟨first, rest, rfl⟩ := List.exists_cons_of_ne_nil nonempty
  obtain ⟨letter, letters⟩ := List.forall_mem_cons.1 letters
  have alphanum : ∀ {c : Char}, c.isAlpha → c.isAlphanum := fun letter => by
    simp [Char.isAlphanum, letter]
  have itself : ∀ {c : Char}, c.isAlpha → Accepts caseSensitive c c := fun letter =>
    accepts_self (Domain.ascii_of_isAlphanum (alphanum letter))
  exact ⟨first, rest, rfl, ⟨first, letter, itself letter⟩, fun c member =>
    ⟨c, .inl (alphanum (letters c member)), itself (letters c member)⟩⟩

end Glob

/-! ## The host of a URL -/

namespace HostUrl

variable {caseSensitive : Bool} (url : HostUrl)

open Glob

theorem isScheme : IsScheme caseSensitive (url.scheme ++ "://".toList) :=
  isScheme_of_isAlpha url.scheme_ne_nil url.isAlpha_of_mem_scheme

theorem ascii_of_mem_scheme : ∀ c ∈ url.scheme, c.toNat < 128 := fun c member =>
  Domain.ascii_of_isAlphanum (by simp [Char.isAlphanum, url.isAlpha_of_mem_scheme c member])

/-- A scheme in front of the URL is its own. -/
theorem eq_scheme {scheme behind : List Char} (isScheme : IsScheme caseSensitive scheme)
    (whole : url.chars = scheme ++ behind) :
    scheme = url.scheme ++ "://".toList ∧ behind = url.host ++ url.behindHost := by
  obtain ⟨first, rest, rfl, ⟨w, letter, accepts⟩, inside⟩ := isScheme
  have noColon : ':' ∉ first :: rest := by
    intro member
    rcases List.mem_cons.1 member with rfl | member
    · obtain rfl := eq_of_accepts (by decide) (by decide) accepts
      exact absurd letter (by decide)
    · obtain ⟨w, inScheme, accepts⟩ := inside ':' member
      obtain rfl := eq_of_accepts (by decide) (by decide) accepts
      exact absurd inScheme (by decide)
  have split : Url.splitScheme? url.chars = some (first :: rest, behind) := by
    have shape : url.chars = (first :: rest) ++ ':' :: '/' :: '/' :: behind := by
      rw [whole]
      simp
    rw [shape, Url.splitScheme?_of_not_mem noColon]
  obtain ⟨same, behindSame⟩ := Prod.mk.inj (Option.some.inj (url.splitScheme?_chars.symm.trans split))
  exact ⟨by rw [same], behindSame.symm⟩

/-- In front of the first dot of the URL stands its scheme. -/
theorem scheme_of_dot {front behind : List Char} (whole : url.chars = front ++ '.' :: behind) :
    ∃ rest, front = url.scheme ++ "://".toList ++ rest := by
  have noDot : '.' ∉ url.scheme ++ "://".toList := by
    have outside : '.' ∉ url.scheme := url.not_mem_scheme (by decide)
    simpa using outside
  rcases List.append_eq_append_iff.1 whole with ⟨rest, isFront, -⟩ | ⟨rest, isScheme, behindSame⟩
  · exact ⟨rest, isFront⟩
  · cases rest with
    | nil => exact ⟨[], by rw [isScheme, List.append_nil, List.append_nil]⟩
    | cons c rest =>
      obtain ⟨rfl, -⟩ := List.cons.inj behindSame
      exact absurd (by rw [isScheme]; simp) noDot

section Name

variable {name labels text after : List Char}

/-- A name that the URL begins with is the scheme, and no labels stand in front of it. -/
theorem eq_scheme_of_name_at_start (hosts : ∀ c ∈ name, Domain.isHostChar c)
    (all : List.Forall₂ (Accepts caseSensitive) name text)
    (areLabels : labels = [] ∨ AreLabels labels)
    (separators : ∀ c ∈ after.head?, IsSeparator caseSensitive c)
    (whole : url.chars = labels ++ (text ++ after)) : text = url.scheme := by
  rcases areLabels with rfl | ⟨inside, rfl, free⟩
  · rw [url.chars_eq, List.nil_append] at whole
    rcases List.append_eq_append_iff.1 whole with ⟨more, isText, behind⟩ | ⟨more, isScheme, isAfter⟩
    -- the name cannot take in the colon, nor end inside the scheme
    case inl =>
      cases more with
      | nil => rw [isText, List.append_nil]
      | cons c more =>
        obtain ⟨rfl, -⟩ := List.cons.inj behind
        exact absurd (by simp [isText]) (not_mem_of_accepts hosts all (c := ':') (by decide))
    case inr =>
      cases more with
      | nil => rw [isScheme, List.append_nil]
      | cons c more =>
        have letter : c.isAlpha := url.isAlpha_of_mem_scheme c (by simp [isScheme])
        have isHost : Domain.isHostChar c := by simp [Domain.isHostChar, Char.isAlphanum, letter]
        exact absurd (separators c (by simp [isAfter])) (not_isSeparator isHost)
  · have atDot : url.chars = inside ++ '.' :: (text ++ after) := by
      rw [whole]
      simp
    obtain ⟨rest, rfl⟩ := url.scheme_of_dot atDot
    exact absurd (by decide) (free '/' (by simp))

/-- A name does not go on behind the host: nothing but digits may stand there before the authority
ends. -/
theorem not_beyond_host {c : Char} {more : List Char} (hosts : ∀ c ∈ name, Domain.isHostChar c)
    (all : List.Forall₂ (Accepts caseSensitive) name text)
    (areLabels : labels = [] ∨ AreLabels labels)
    (isBehind : url.behindHost = c :: more ++ after) : labels ++ text ≠ url.host ++ c :: more := by
  intro longer
  have textFree : ∀ d ∈ text, d ∉ [':', '/', '?', '#'] := fun d member ends =>
    not_mem_of_accepts hosts all ends member
  have free : ∀ d ∈ c :: more, d ∉ ['/', '?', '#'] := by
    intro d member
    have isIn : d ∈ labels ++ text := by
      rw [longer]
      exact List.mem_append_right _ member
    rcases List.mem_append.1 isIn with inLabels | inText
    · exact free_of_areLabels areLabels d inLabels
    · have outside := textFree d inText
      simp_all
  have colon : c = ':' := by
    have ends := url.mem_of_behindHost isBehind
    have stays := free c List.mem_cons_self
    simp_all
  have digits : ∀ d ∈ more, d.isDigit := by
    subst colon
    refine url.isDigit_of_behindHost isBehind fun d member => ?_
    have stays := free d (List.mem_cons_of_mem _ member)
    simp_all [Url.endsAuthority]
  -- the name takes in the colon, or the labels do and end among the digits
  rcases List.append_eq_append_iff.1 longer with ⟨front, -, isText⟩ | ⟨front, isLabels, isMore⟩
  · have inText : c ∈ text := by simp [isText]
    exact textFree c inText (by simp [colon])
  · have dot : front = [] ∨ '.' ∈ front := by
      rcases areLabels with rfl | ⟨inside, rfl, -⟩
      · exact .inl (List.append_eq_nil_iff.1 isLabels.symm).2
      · refine front.eq_nil_or_concat.imp_right ?_
        rintro ⟨shorter, d, rfl⟩
        rw [List.concat_eq_append] at isLabels ⊢
        have last := congrArg List.getLast? isLabels
        rw [← List.append_assoc, List.getLast?_concat, List.getLast?_concat] at last
        obtain rfl := Option.some.inj last
        simp
    rcases dot with rfl | dot
    · have isText : c :: more = text := isMore
      exact textFree c (by simp [← isText]) (by simp [colon])
    · have among : '.' ∈ c :: more := by
        rw [isMore]
        exact List.mem_append_left _ dot
      rcases List.mem_cons.1 among with isColon | digit
      · exact absurd (isColon.trans colon) (by decide)
      · exact absurd (digits _ digit) (by decide)

/-- A name behind labels reaches to the end of the host. -/
theorem host_eq_append (hosts : ∀ c ∈ name, Domain.isHostChar c)
    (all : List.Forall₂ (Accepts caseSensitive) name text)
    (areLabels : labels = [] ∨ AreLabels labels)
    (separators : ∀ c ∈ after.head?, IsSeparator caseSensitive c)
    (whole : url.host ++ url.behindHost = labels ++ (text ++ after)) : url.host = labels ++ text := by
  rw [← List.append_assoc] at whole
  rcases List.append_eq_append_iff.1 whole with ⟨more, longer, isBehind⟩ | ⟨more, shorter, isAfter⟩
  case inl =>
    cases more with
    | nil => rw [longer, List.append_nil]
    | cons c more =>
      exact absurd longer (url.not_beyond_host hosts all areLabels isBehind)
  case inr =>
    cases more with
    | nil => rw [shorter, List.append_nil]
    | cons c more =>
      have isHost := url.isHostChar_of_mem_host c (by simp [shorter])
      exact absurd (separators c (by simp [isAfter])) (not_isSeparator isHost)

/-- The glob of a name matches the URL if the host ends with the name, as a whole or behind a dot, or if
the name is the scheme. -/
theorem matches_ofName_iff_host_or_scheme (hosts : ∀ c ∈ name, Domain.isHostChar c) :
    (ofName name).Matches false url.chars ↔
      (∃ front tail, url.host = front ++ tail ∧ Text.lower tail = Text.lower name ∧
        (front = [] ∨ front.getLast? = some '.')) ∨
      Text.lower url.scheme = Text.lower name := by
  have nameAscii : ∀ c ∈ name, c.toNat < 128 := fun c member =>
    Domain.ascii_of_isHostChar (hosts c member)
  have ascii : ∀ {front tail}, url.host = front ++ tail → ∀ c ∈ tail, c.toNat < 128 :=
    fun isHost c member => Domain.ascii_of_isHostChar
      (url.isHostChar_of_mem_host c (by simp [isHost, member]))
  rw [matches_ofName]
  constructor
  · rintro ⟨_, tail, after, whole, ⟨scheme, labels, rfl, isScheme, areLabels⟩, all, separators⟩
    rcases isScheme with rfl | isScheme
    · obtain rfl := url.eq_scheme_of_name_at_start hosts all areLabels separators whole
      exact .inr ((forall₂_accepts_iff nameAscii url.ascii_of_mem_scheme).1 all)
    · rw [List.append_assoc] at whole
      obtain ⟨-, atHost⟩ := url.eq_scheme isScheme whole
      have isHost := url.host_eq_append hosts all areLabels separators atHost.symm
      refine .inl ⟨labels, tail, isHost, (forall₂_accepts_iff nameAscii (ascii isHost)).1 all, ?_⟩
      rcases areLabels with none | ⟨inside, rfl, -⟩
      · exact .inl none
      · exact .inr (by simp)
  · rintro (⟨front, tail, isHost, same, boundary⟩ | same)
    · refine ⟨url.scheme ++ "://".toList ++ front, tail, url.behindHost, ?_, ?_, ?_, ?_⟩
      · simp [chars, isHost]
      · refine ⟨url.scheme ++ "://".toList, front, rfl, .inr url.isScheme, boundary.imp_right ?_⟩
        intro dot
        obtain ⟨inside, rfl⟩ := List.getLast?_eq_some_iff.1 dot
        refine ⟨inside, rfl, fun c member => ?_⟩
        have outside := not_mem_of_isHostChar
          (url.isHostChar_of_mem_host c (by simp [isHost, member]))
        simp_all
      · exact (forall₂_accepts_iff nameAscii (ascii isHost)).2 same
      · intro c first
        obtain ⟨more, behind⟩ := List.head?_eq_some_iff.1 first
        exact isSeparator_of_mem (url.mem_of_behindHost behind)
    · refine ⟨[], url.scheme, ':' :: '/' :: '/' :: (url.host ++ url.behindHost), url.chars_eq, ?_, ?_, ?_⟩
      · exact ⟨[], [], rfl, .inl rfl, .inl rfl⟩
      · exact (forall₂_accepts_iff nameAscii url.ascii_of_mem_scheme).2 same
      · rintro c ⟨⟩
        exact isSeparator_of_mem (by decide)

/-- The glob of a dotted name matches the URL if the host ends with the name, as a whole or behind a
dot. -/
theorem matches_ofName_iff (hosts : ∀ c ∈ name, Domain.isHostChar c) (dotted : '.' ∈ name) :
    (ofName name).Matches false url.chars ↔ ∃ front tail, url.host = front ++ tail ∧
      Text.lower tail = Text.lower name ∧ (front = [] ∨ front.getLast? = some '.') := by
  rw [url.matches_ofName_iff_host_or_scheme hosts, or_iff_left]
  intro same
  have all := (forall₂_accepts_iff (fun c member => Domain.ascii_of_isHostChar (hosts c member))
    url.ascii_of_mem_scheme).2 same
  exact url.not_mem_scheme (by decide) (mem_of_accepts all (by decide) (by decide) dotted)

end Name

end HostUrl

/-! ## Loading -/

namespace Glob

open Regex

variable {name : List Char}

theorem isAscii_ofName (hosts : ∀ c ∈ name, Domain.isHostChar c) :
    ∀ part ∈ (ofName name).parts, part.IsAscii := by
  intro part member
  rcases List.mem_append.1 member with inName | isEnd
  · obtain ⟨c, among, rfl⟩ := List.mem_map.1 inName
    exact Domain.ascii_of_isHostChar (hosts c among)
  · obtain rfl := List.mem_singleton.1 isEnd
    exact trivial

/-- The machines for a name as long as a domain can be are small enough to be accepted. -/
theorem fits_ofName (caseSensitive : Bool) (hosts : ∀ c ∈ name, Domain.isHostChar c)
    (short : name.length ≤ Domain.maxLength) {maxSize : Nat}
    (large : FilterPattern.maxRuleSize ≤ maxSize) :
    ((ofName name).toRegex caseSensitive).plan.fits maxSize := by
  have parts : (ofName name).parts.length = name.length + 1 := by simp [ofName]
  have longest : name.length ≤ 253 := short
  have limit : FilterPattern.maxRuleSize = 1048576 := rfl
  exact fits_toRegex caseSensitive (isAscii_ofName hosts) (by omega)

end Glob

namespace FilterPattern

/-- A pattern for a normal domain behind the host anchor is translated as the glob of its name. -/
theorem translate_ofName {domain : String} (normal : Domain.normalize? domain = some domain) :
    (translate ("||" ++ domain ++ "^")).toList = (Glob.ofName domain.toList).regexText := by
  obtain ⟨-, -, hosts, -⟩ := Domain.normalize?_eq_some normal
  have trimmed : Text.trim ("||" ++ domain ++ "^").toList = "||".toList ++ domain.toList ++ ['^'] := by
    have whole : ("||" ++ domain ++ "^").toList = '|' :: '|' :: (domain.toList ++ ['^']) := by simp
    rw [whole, Text.trim_eq_self]
    · rfl
    · simp only [List.head?_cons, Option.mem_def, Option.some.injEq, forall_eq']
      decide
    · rw [← List.cons_append, ← List.cons_append, List.getLast?_concat]
      simp only [Option.mem_def, Option.some.injEq, forall_eq']
      decide
  have isGlob : ∀ inner ≠ [], Text.trim ("||" ++ domain ++ "^").toList ≠ '/' :: inner ++ ['/'] := by
    intro inner _ same
    rw [trimmed] at same
    cases same
  rw [translate_of_glob isGlob, trimmed, Glob.ofText_ofName hosts]

/-- It compiles to that glob. -/
theorem compile_ofName {domain : String} (normal : Domain.normalize? domain = some domain)
    (caseSensitive : Bool) {maxSize : Nat} (large : maxRuleSize ≤ maxSize) :
    Regex.compile maxSize (!caseSensitive) (translate ("||" ++ domain ++ "^")).toList =
      some ((Glob.ofName domain.toList).toRegex caseSensitive) := by
  obtain ⟨-, short, hosts, -⟩ := Domain.normalize?_eq_some normal
  rw [translate_ofName normal, Glob.compile_regexText caseSensitive (Glob.writable_ofName hosts),
    if_pos (Glob.fits_ofName caseSensitive hosts short large)]

theorem load?_ofName {domain : String} (normal : Domain.normalize? domain = some domain) :
    load? false (translate ("||" ++ domain ++ "^")) =
      some ((Glob.ofName domain.toList).toRegex false) :=
  compile_ofName normal false (by decide)

/-- Such a pattern is accepted into a rule set. -/
theorem isValid_ofName {domain : String} (normal : Domain.normalize? domain = some domain) :
    isValid (translate ("||" ++ domain ++ "^")) := by
  have compiled : Regex.compile maxRuleSize false (translate ("||" ++ domain ++ "^")).toList =
      some ((Glob.ofName domain.toList).toRegex true) := compile_ofName normal true (Nat.le_refl _)
  have filled : translate ("||" ++ domain ++ "^") ≠ "" := by
    intro empty
    have none := translate_ofName normal
    rw [empty] at none
    exact Glob.regexText_ne_nil _ none.symm
  rw [isValid, compiled]
  simpa using filled

/-- A rule for a normal domain behind the host anchor is loaded, and it finds the URLs whose host is the
domain or a subdomain of it. -/
theorem load?_host_anchor {domain : String} (normal : Domain.normalize? domain = some domain)
    (dotted : '.' ∈ domain.toList) :
    ∃ regex, load? false (translate ("||" ++ domain ++ "^")) = some regex ∧ ∀ url : HostUrl,
      (regex.isMatch url.text.toList ↔ Domain.matchesDomain (String.ofList url.host) domain) ∧
      Url.host? url.text = some (String.ofList url.host) := by
  obtain ⟨nonempty, -, hosts, -⟩ := Domain.normalize?_eq_some normal
  refine ⟨(Glob.ofName domain.toList).toRegex false, load?_ofName normal, fun url =>
    ⟨?_, url.host?_text⟩⟩
  rw [HostUrl.text, String.toList_ofList, Glob.isMatch_toRegex,
    url.matches_ofName_iff hosts dotted, Domain.matchesDomain_iff, String.toList_ofList,
    Domain.trimEndDots_eq_self url.not_dot_at_end]
  simp [nonempty]

/-- A URL of a subdomain, in other letters and with a port. -/
def subdomainUrl : HostUrl where
  scheme := "HTTP".toList
  host := "a.K.Example".toList
  port := some "8080".toList
  rest := "/x?y=||".toList
  scheme_ne_nil := by decide
  isAlpha_of_mem_scheme := List.all_eq_true.1 (by decide)
  host_ne_nil := by decide
  isHostChar_of_mem_host := List.all_eq_true.1 (by decide)
  not_dot_at_end := by decide
  isDigit_of_mem_port := by
    rintro _ ⟨⟩
    exact List.all_eq_true.1 (by decide)
  endsAuthority_of_head_rest := by
    rintro _ ⟨⟩
    decide

/-- A URL of a host that only ends alike, with the domain in its query. -/
def lookalikeUrl : HostUrl where
  scheme := "https".toList
  host := "notk.example".toList
  port := none
  rest := "?https://k.example/".toList
  scheme_ne_nil := by decide
  isAlpha_of_mem_scheme := List.all_eq_true.1 (by decide)
  host_ne_nil := by decide
  isHostChar_of_mem_host := List.all_eq_true.1 (by decide)
  not_dot_at_end := by decide
  isDigit_of_mem_port := by
    rintro _ ⟨⟩
  endsAuthority_of_head_rest := by
    rintro _ ⟨⟩
    decide

theorem load?_host_anchor_subdomain :
    Domain.normalize? "k.example" = some "k.example" ∧ '.' ∈ "k.example".toList ∧
    ∃ regex, load? false (translate ("||" ++ "k.example" ++ "^")) = some regex ∧
      regex.isMatch subdomainUrl.text.toList ∧
      Url.host? subdomainUrl.text = some (String.ofList "a.K.Example".toList) ∧
      ¬ regex.isMatch lookalikeUrl.text.toList := by
  have normal : Domain.normalize? "k.example" = some "k.example" := by decide +kernel
  have dotted : '.' ∈ "k.example".toList := by decide
  obtain ⟨regex, loaded, finds⟩ := load?_host_anchor normal dotted
  obtain ⟨subdomain, hostRead⟩ := finds subdomainUrl
  obtain ⟨lookalike, -⟩ := finds lookalikeUrl
  have matching : Domain.matchesDomain (String.ofList "a.K.Example".toList) "k.example" := by
    decide +kernel
  have other : ¬ Domain.matchesDomain (String.ofList "notk.example".toList) "k.example" := by
    decide +kernel
  exact ⟨normal, dotted, regex, loaded, subdomain.2 matching, hostRead,
    fun found => other (lookalike.1 found)⟩

end FilterPattern

end ContentFilter
