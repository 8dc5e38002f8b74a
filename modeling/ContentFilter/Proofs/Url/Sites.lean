import ContentFilter.Proofs.Url.Address
import ContentFilter.Url

/-!
# Sites

Two hosts belong to one site if their registrable domains are equal up to letter case.  Only the labels
of a name count: a numeric address is its own registrable domain, and so is a host that begins with a
bracket, whether or not the bracket is closed.  A name and the names that it is below belong to one site,
unless the latter have a single label or are public suffixes.  The registrable domain is its own one, and
neither letter case nor dots at the end of a host matter to it.
-/

namespace ContentFilter

namespace Url

/-! ## Last labels -/

/-- The labels of a name. -/
def labels (name : List Char) : List (List Char) := Text.splitOn '.' name

theorem lastLabels_eq (n : Nat) (name : List Char) :
    lastLabels n name = ['.'].intercalate ((labels name).drop ((labels name).length - n)) := rfl

theorem length_labels_pos (name : List Char) : 0 < (labels name).length :=
  List.length_pos_iff.2 (Text.splitBy_ne_nil _ _)

theorem labels_append (front tail : List Char) :
    labels (front ++ '.' :: tail) = labels front ++ labels tail :=
  Text.splitBy_append (p := (· == '.')) (beq_self_eq_true '.') front tail

theorem two_le_length_labels {name : List Char} (dotted : '.' ∈ name) :
    2 ≤ (labels name).length := by
  obtain ⟨front, tail, rfl⟩ := List.append_of_mem dotted
  have first := length_labels_pos front
  have second := length_labels_pos tail
  rw [labels_append, List.length_append]
  omega

theorem labels_lastLabels {n : Nat} (positive : 0 < n) (name : List Char) :
    labels (lastLabels n name) = (labels name).drop ((labels name).length - n) := by
  refine Text.splitOn_intercalate ?_ fun label member dot => ?_
  · have filled := length_labels_pos name
    have left : 0 < ((labels name).drop ((labels name).length - n)).length := by
      rw [List.length_drop]
      omega
    exact List.length_pos_iff.1 left
  · exact absurd (Text.not_of_mem_splitBy (List.mem_of_mem_drop member) '.' dot) (by decide)

theorem lastLabels_of_length_le {n : Nat} {name : List Char} (few : (labels name).length ≤ n) :
    lastLabels n name = name := by
  rw [lastLabels_eq, Nat.sub_eq_zero_of_le few, List.drop_zero]
  exact Text.intercalate_splitOn '.' name

/-- Few labels are the last ones of many. -/
theorem lastLabels_lastLabels {m n : Nat} (positive : 0 < n) (few : m ≤ n) (name : List Char) :
    lastLabels m (lastLabels n name) = lastLabels m name := by
  rw [lastLabels_eq, labels_lastLabels positive, List.length_drop, List.drop_drop, lastLabels_eq]
  congr 2
  omega

/-- What stands in front of the last labels does not matter. -/
theorem lastLabels_append {n : Nat} {tail : List Char} (few : n ≤ (labels tail).length)
    (front : List Char) : lastLabels n (front ++ '.' :: tail) = lastLabels n tail := by
  rw [lastLabels_eq, labels_append, List.length_append, Nat.add_sub_assoc few,
    List.drop_append, List.drop_eq_nil_of_le (Nat.le_add_right _ _), List.nil_append,
    Nat.add_sub_cancel_left, lastLabels_eq]

theorem lastLabels_suffix (n : Nat) (name : List Char) : lastLabels n name <:+ name := by
  have part := Text.intercalate_drop_suffix '.' ((labels name).length - n) (labels name)
  rwa [labels, Text.intercalate_splitOn] at part

theorem labels_lower (name : List Char) : labels (Text.lower name) = (labels name).map Text.lower :=
  Text.splitBy_lower Domain.toLower_beq_dot name

theorem lastLabels_lower (n : Nat) (name : List Char) :
    lastLabels n (Text.lower name) = Text.lower (lastLabels n name) := by
  rw [lastLabels_eq, labels_lower, List.length_map, ← List.map_drop,
    ← Text.lower_intercalate (by decide), lastLabels_eq]

/-! ## Registrable domains of names -/

/-- A host that is a name, whose labels count. -/
structure IsName (host : List Char) : Prop where
  /-- It is no numeric address. -/
  noAddress : Address.isAddress host = false
  /-- It does not begin with a bracket, as numeric addresses of version 6 do in a URL. -/
  noBracket : host.head? ≠ some '['

theorem isName_iff {host : List Char} :
    IsName host ↔ ¬ (host.head? == some '[' || Address.isAddress host) := by
  rw [Bool.or_eq_true, not_or, Bool.not_eq_true, Bool.not_eq_true, beq_eq_false_iff_ne]
  exact ⟨fun named => ⟨named.noBracket, named.noAddress⟩, fun h => ⟨h.2, h.1⟩⟩

instance (host : List Char) : Decidable (IsName host) := decidable_of_iff _ isName_iff.symm

/-- Whether a name is one of the common public suffixes, up to letter case. -/
def isPublicSuffix (name : List Char) : Bool :=
  twoLabelSuffixes.any fun suffix => Text.equalIgnoreCase suffix.toList name

/-- How many labels the registrable domain of a name has, if the name has as many. -/
def siteLabels (name : List Char) : Nat := if isPublicSuffix (lastLabels 2 name) then 3 else 2

/-- The registrable domain of a host without dots at its end. -/
def siteName (host : List Char) : List Char :=
  if IsName host then lastLabels (siteLabels host) host else host

theorem siteName_of_isName {host : List Char} (named : IsName host) :
    siteName host = lastLabels (siteLabels host) host :=
  if_pos named

theorem siteName_of_not_isName {host : List Char} (nameless : ¬ IsName host) : siteName host = host :=
  if_neg nameless

theorem toList_registrableDomain (host : String) :
    (registrableDomain host).toList = siteName (Domain.trimEndDots host.toList) := by
  unfold registrableDomain
  dsimp only
  split
  · rename_i whole
    have nameless : ¬ IsName (Domain.trimEndDots host.toList) := fun named => isName_iff.1 named whole
    rw [String.toList_ofList, siteName_of_not_isName nameless]
  · rename_i named
    rw [String.toList_ofList, siteName_of_isName (isName_iff.2 named), siteLabels]
    show (if isPublicSuffix (lastLabels 2 _) then _ else _) = _
    split <;> rfl

theorem two_le_siteLabels (name : List Char) : 2 ≤ siteLabels name := by
  unfold siteLabels
  split <;> decide

theorem siteName_suffix (host : List Char) : siteName host <:+ host := by
  unfold siteName
  split
  · exact lastLabels_suffix _ _
  · exact List.suffix_refl _

/-- A registrable domain is its own one. -/
theorem siteName_siteName (host : List Char) : siteName (siteName host) = siteName host := by
  by_cases named : IsName host
  · rw [siteName_of_isName named]
    generalize isLabels : siteLabels host = n
    have enough : 2 ≤ n := isLabels ▸ two_le_siteLabels host
    have same : siteLabels (lastLabels n host) = n := by
      rw [siteLabels, lastLabels_lastLabels (by omega) enough, ← siteLabels, isLabels]
    by_cases again : IsName (lastLabels n host)
    · rw [siteName_of_isName again, same, lastLabels_lastLabels (by omega) (Nat.le_refl n)]
    · exact siteName_of_not_isName again
  · rw [siteName_of_not_isName named, siteName_of_not_isName named]

/-! ## Letter case -/

theorem isName_lower (host : List Char) : IsName (Text.lower host) ↔ IsName host := by
  rw [isName_iff, isName_iff, Address.isAddress_lower]
  cases host with
  | nil => rfl
  | cons c rest =>
    have same := Domain.apply_toLower (f := (some · == some '[')) (by decide +kernel) c
    rw [Text.lower, List.map_cons, List.head?_cons, List.head?_cons, same]

theorem isPublicSuffix_lower (name : List Char) :
    isPublicSuffix (Text.lower name) = isPublicSuffix name := by
  simp only [isPublicSuffix, Text.equalIgnoreCase, Text.lower_lower]

theorem siteLabels_lower (name : List Char) : siteLabels (Text.lower name) = siteLabels name := by
  rw [siteLabels, lastLabels_lower, isPublicSuffix_lower, siteLabels]

theorem siteName_lower (host : List Char) :
    siteName (Text.lower host) = Text.lower (siteName host) := by
  by_cases named : IsName host
  · rw [siteName_of_isName ((isName_lower host).2 named), siteLabels_lower, lastLabels_lower,
      siteName_of_isName named]
  · rw [siteName_of_not_isName (mt (isName_lower host).1 named), siteName_of_not_isName named]

/-! ## Subdomains -/

/-- A name that is no public suffix has all labels of its registrable domain. -/
theorem siteLabels_le {name : List Char} (dotted : '.' ∈ name)
    (unlisted : isPublicSuffix name = false) : siteLabels name ≤ (labels name).length := by
  have two := two_le_length_labels dotted
  unfold siteLabels
  split
  · rename_i listed
    by_contra few
    have whole : lastLabels 2 name = name := lastLabels_of_length_le (by omega)
    rw [whole, unlisted] at listed
    cases listed
  · exact two

/-- Labels in front of a name that is no public suffix do not matter to the registrable domain. -/
theorem siteName_append {tail : List Char} (dotted : '.' ∈ tail)
    (unlisted : isPublicSuffix tail = false) (named : IsName tail) {front : List Char}
    (boundary : front = [] ∨ front.getLast? = some '.') (whole : IsName (front ++ tail)) :
    siteName (front ++ tail) = siteName tail := by
  rcases boundary with rfl | dot
  · rfl
  · obtain ⟨before, rfl⟩ := List.getLast?_eq_some_iff.1 dot
    rw [List.append_assoc, List.singleton_append] at whole ⊢
    have enough := siteLabels_le dotted unlisted
    have same : siteLabels (before ++ '.' :: tail) = siteLabels tail := by
      rw [siteLabels, lastLabels_append (two_le_length_labels dotted), ← siteLabels]
    rw [siteName_of_isName whole, siteName_of_isName named, same, lastLabels_append enough]

theorem isThirdParty_eq_false_iff {site request : String} :
    isThirdParty site request = false ↔
      Text.lower (registrableDomain site).toList = Text.lower (registrableDomain request).toList := by
  rw [isThirdParty, Bool.not_eq_false', Text.equalIgnoreCase_iff]

theorem isThirdParty_of_matchesDomain {site request : String} (dotted : '.' ∈ site.toList)
    (unlisted : isPublicSuffix site.toList = false) (named : IsName site.toList)
    (whole : IsName (Domain.trimEndDots request.toList))
    (below : Domain.matchesDomain request site) : isThirdParty site request = false := by
  obtain ⟨-, front, tail, split, same, boundary⟩ := Domain.matchesDomain_iff.1 below
  have ended : Domain.trimEndDots tail = tail :=
    Domain.trimEndDots_of_suffix (split ▸ List.suffix_append front tail)
  -- the end of the request's host is the site up to letter case, so all that is known of the one holds of
  -- the other
  have dottedTail : '.' ∈ tail := by
    have member : '.' ∈ Text.lower tail := same ▸ List.mem_map_of_mem (f := Char.toLower) dotted
    obtain ⟨c, inside, isDot⟩ := List.mem_map.1 member
    have dot := Domain.toLower_beq_dot c
    rw [isDot] at dot
    exact eq_of_beq dot.symm ▸ inside
  have unlistedTail : isPublicSuffix tail = false := by
    rw [← isPublicSuffix_lower, same, isPublicSuffix_lower, unlisted]
  have namedTail : IsName tail := by
    rw [← isName_lower, same, isName_lower]
    exact named
  rw [isThirdParty_eq_false_iff, toList_registrableDomain, toList_registrableDomain]
  calc Text.lower (siteName (Domain.trimEndDots site.toList))
      = siteName (Domain.trimEndDots (Text.lower tail)) := by
        rw [← siteName_lower, ← Domain.trimEndDots_lower, same]
    _ = Text.lower (siteName tail) := by rw [Domain.trimEndDots_lower, ended, siteName_lower]
    _ = Text.lower (siteName (Domain.trimEndDots request.toList)) := by
        rw [split] at whole ⊢
        rw [siteName_append dottedTail unlistedTail namedTail boundary whole]

theorem registrableDomain_registrableDomain (host : String) :
    registrableDomain (registrableDomain host) = registrableDomain host := by
  rw [← String.toList_inj, toList_registrableDomain, toList_registrableDomain,
    Domain.trimEndDots_of_suffix (siteName_suffix _), siteName_siteName]

/-- Names below a site are first party, a registrable domain is its own one, and neither letter case nor
dots at the end of a host matter to it. -/
theorem registrableDomain_stable :
    (∀ site request : String, '.' ∈ site.toList → isPublicSuffix site.toList = false →
      IsName site.toList → IsName (Domain.trimEndDots request.toList) →
      Domain.matchesDomain request site → isThirdParty site request = false) ∧
      (∀ host, registrableDomain (registrableDomain host) = registrableDomain host) ∧
      ∀ (host other : String) (n : Nat), Text.equalIgnoreCase host.toList other.toList →
        Text.equalIgnoreCase (registrableDomain host).toList
          (registrableDomain (other ++ String.ofList (List.replicate n '.'))).toList := by
  refine ⟨fun site request => isThirdParty_of_matchesDomain, registrableDomain_registrableDomain,
    fun host other n same => ?_⟩
  rw [Text.equalIgnoreCase_iff] at same ⊢
  rw [toList_registrableDomain, toList_registrableDomain, String.toList_append, String.toList_ofList,
    Domain.trimEndDots_append_dots, ← siteName_lower, ← siteName_lower, ← Domain.trimEndDots_lower,
    ← Domain.trimEndDots_lower, same]

/-- A site below a common public suffix, and a host with an empty label and dots at its end. -/
theorem registrableDomain_stable_emptyLabel :
    Domain.matchesDomain "cdn..example.co.UK.." "Example.CO.uk" ∧
      isThirdParty "Example.CO.uk" "cdn..example.co.UK.." = false ∧
      registrableDomain "cdn..example.co.UK.." = "example.co.UK" ∧
      registrableDomain "example.co.UK" = "example.co.UK" ∧
      Text.equalIgnoreCase (registrableDomain "a.B.test").toList
        (registrableDomain ("A.b.TEST" ++ String.ofList (List.replicate 3 '.'))).toList := by
  obtain ⟨firstParty, own, caseless⟩ := registrableDomain_stable
  have below : Domain.matchesDomain "cdn..example.co.UK.." "Example.CO.uk" := by decide +kernel
  have found : registrableDomain "cdn..example.co.UK.." = "example.co.UK" := by decide +kernel
  refine ⟨below, ?_, found, found ▸ own _, caseless _ _ 3 (by decide +kernel)⟩
  exact firstParty _ _ (by decide +kernel) (by decide +kernel) (by decide +kernel)
    (by decide +kernel) below

/-- Whether a host is neither a numeric address nor a text in brackets.  It need not be a name: a bracket
at its beginning may be left open. -/
def IsBare (host : List Char) : Prop :=
  Address.isAddress host = false ∧ ¬ (host.head? = some '[' ∧ host.getLast? = some ']')

instance (host : List Char) : Decidable (IsBare host) := inferInstanceAs (Decidable (_ ∧ _))

/-- Not every bare host is a name.  An open bracket at its beginning parts it from the names above it, and
the hosts below it from itself. -/
theorem isThirdParty_openBracket :
    host? "https://[x.a.com/ads.js" = some "[x.a.com" ∧
      ('.' ∈ "a.com".toList ∧ isPublicSuffix "a.com".toList = false ∧ IsBare "a.com".toList ∧
        IsBare (Domain.trimEndDots "[x.a.com".toList) ∧ Domain.matchesDomain "[x.a.com" "a.com" ∧
        isThirdParty "a.com" "[x.a.com" = true) ∧
      '.' ∈ "[x.a.com".toList ∧ isPublicSuffix "[x.a.com".toList = false ∧
        IsBare "[x.a.com".toList ∧ IsBare (Domain.trimEndDots "b.[x.a.com".toList) ∧
        Domain.matchesDomain "b.[x.a.com" "[x.a.com" ∧
        isThirdParty "[x.a.com" "b.[x.a.com" = true := by
  decide +kernel

end Url

end ContentFilter
