import ContentFilter.Domain.Lemmas
import ContentFilter.Proofs.Text.Bytes

/-!
# The walk over the domains above a host

The domains above a host are met on a walk that takes one label off at a time, and the walk ends: it
meets one domain for each place at which a label begins.  A host matches exactly the domains that are met
so, up to letter case, and the comparison can be made on the bytes of the two names.
-/

namespace ContentFilter.Domain

/-! ## Walks -/

/-- A walk from a domain to those above it, one label less at a time, up to one that has nothing above
it. -/
inductive Walk : Option String → List String → Prop
  | done : Walk none []
  | step {host : String} {above : List String} (rest : Walk (parent? host) above) :
      Walk (some host) (host :: above)

theorem Walk.unique {start : Option String} {first second : List String} (walk : Walk start first)
    (other : Walk start second) : first = second := by
  induction walk generalizing second with
  | done =>
    cases other
    rfl
  | step _ ih =>
    cases other with
    | step rest => rw [ih rest]

/-- Where the walk from a host begins; dots at its end do not count. -/
def walkStart? (host : String) : Option String :=
  match trimEndDots host.toList with
  | [] => none
  | name => some (String.ofList name)

theorem behindDots_eq (s : List Char) :
    behindDots s =
      match s.dropWhile (· != '.') with
      | _ :: c :: rest => (c :: rest) :: behindDots (c :: rest)
      | _ => [] := by
  induction s with
  | nil => rfl
  | cons c rest ih =>
    by_cases dot : c = '.'
    · subst dot
      cases rest <;> rfl
    · have goesOn : behindDots (c :: rest) = behindDots rest := by
        rw [behindDots]
        rintro d behind rfl
        exact absurd rfl dot
      rw [goesOn, ih, List.dropWhile_cons_of_pos (by simpa using dot)]

theorem walk_behindDots (name : List Char) :
    Walk (some (String.ofList name)) ((name :: behindDots name).map String.ofList) := by
  rw [List.map_cons, behindDots_eq]
  refine .step ?_
  rw [parent?, String.toList_ofList]
  -- on the length of the name: what stands behind its first dot is shorter
  cases behind : name.dropWhile (· != '.') with
  | nil => exact .done
  | cons dot tail =>
    cases tail with
    | nil => exact .done
    | cons c rest =>
      have shorter : (c :: rest).length < name.length := by
        have part := (List.dropWhile_sublist (· != '.') (l := name)).length_le
        rw [behind] at part
        exact part
      exact walk_behindDots (c :: rest)
termination_by name.length

theorem walk_iff {host : String} {walked : List String} :
    Walk (walkStart? host) walked ↔ walked = suffixes host := by
  have walk : Walk (walkStart? host) (suffixes host) := by
    unfold walkStart? suffixes
    cases trimEndDots host.toList with
    | nil => exact .done
    | cons c rest => exact walk_behindDots _
  constructor
  · exact fun other => other.unique walk
  · rintro rfl
    exact walk

/-! ## Label boundaries -/

/-- Whether a label begins at a place of a name: at its start, or behind a dot. -/
def isLabelStart (name : List Char) (place : Nat) : Bool :=
  place == 0 || name[place - 1]? == some '.'

/-- The places of a name at which a label begins. -/
def labelStarts (name : List Char) : List Nat :=
  (List.range name.length).filter (isLabelStart name)

theorem behindDots_cons_cons (c d : Char) (rest : List Char) :
    behindDots (c :: d :: rest) =
      if c = '.' then (d :: rest) :: behindDots (d :: rest) else behindDots (d :: rest) := by
  split
  · rename_i dot
    subst dot
    rfl
  · rename_i inside
    rw [behindDots]
    rintro e behind rfl
    exact absurd rfl inside

/-- What stands behind the dots of a name begins at the places behind them. -/
theorem behindDots_cons (c : Char) (rest : List Char) :
    behindDots (c :: rest) =
      ((List.range rest.length).filter fun place => (c :: rest)[place]? == some '.').map rest.drop := by
  induction rest generalizing c with
  | nil => simp [behindDots]
  | cons d rest ih =>
    rw [behindDots_cons_cons, ih, List.length_cons, List.range_succ_eq_map, List.filter_cons,
      List.filter_map]
    by_cases dot : c = '.'
    · simp [dot, Function.comp_def]
    · simp [dot, Function.comp_def]

theorem map_drop_labelStarts (c : Char) (rest : List Char) :
    (labelStarts (c :: rest)).map (c :: rest).drop = (c :: rest) :: behindDots (c :: rest) := by
  rw [labelStarts, List.length_cons, List.range_succ_eq_map, List.filter_cons_of_pos rfl,
    List.filter_map, List.map_cons, List.map_map, behindDots_cons]
  rfl

/-- One domain stands behind each dot of a name that does not end in one. -/
theorem length_behindDots {s : List Char} (ended : s.getLast? ≠ some '.') :
    (behindDots s).length = s.count '.' := by
  fun_induction behindDots s with
  | case1 c rest ih =>
    rw [List.getLast?_cons_cons] at ended
    rw [List.length_cons, ih ended, List.count_cons_self]
  | case2 c rest inside ih =>
    cases rest with
    | nil =>
      have other : c ≠ '.' := by
        rintro rfl
        exact ended rfl
      rw [ih (by simp), List.count_cons_of_ne other]
    | cons d rest =>
      have other : c ≠ '.' := by
        rintro rfl
        exact inside d rest rfl rfl
      rw [List.getLast?_cons_cons] at ended
      rw [ih ended, List.count_cons_of_ne other]
  | case3 => rfl

/-- The walk meets one domain for each place at which a label begins, the one that begins there. -/
theorem suffixes_eq (host : String) :
    (suffixes host).map String.toList =
      (labelStarts (trimEndDots host.toList)).map (trimEndDots host.toList).drop := by
  unfold suffixes
  cases trimEndDots host.toList with
  | nil => rfl
  | cons c rest =>
    rw [map_drop_labelStarts, List.map_map]
    exact (List.map_congr_left fun name _ => String.toList_ofList).trans (List.map_id _)

example : suffixes ".a..b." = [".a..b", "a..b", ".b", "b"] := by decide +kernel

/-- There is one more of them than there are dots, unless nothing but dots is there. -/
theorem length_suffixes (host : String) :
    (suffixes host).length =
      if trimEndDots host.toList = [] then 0 else (trimEndDots host.toList).count '.' + 1 := by
  have ended := getLast?_trimEndDots host.toList
  unfold suffixes
  cases name : trimEndDots host.toList with
  | nil => rfl
  | cons c rest =>
    rw [name] at ended
    rw [if_neg (List.cons_ne_nil c rest), List.length_map, List.length_cons, length_behindDots ended]

/-! ## The comparison of bytes -/

/-- Whether a domain is `entry` or a subdomain of it, told by the bytes of the names.  The bytes at the end
of the domain are compared only if a character begins where they do. -/
def matchesBytes (domain entry : String) : Bool :=
  let host := Text.encode (trimEndDots domain.toList)
  let entry := Text.encode entry.toList
  let split := host.length - entry.length
  !entry.isEmpty && entry.length ≤ host.length && Text.isBoundary host split &&
    (host.drop split).map Text.lowerByte == entry.map Text.lowerByte &&
    (split == 0 || host[split - 1]? == some 46)

/-- Nothing stands in front of an offset, or a dot does, as in the text up to there. -/
theorem empty_or_dot_iff (front tail : List Char) :
    ((Text.encode front).length = 0 ∨
        (Text.encode front ++ Text.encode tail)[(Text.encode front).length - 1]? = some 46) ↔
      front = [] ∨ front.getLast? = some '.' := by
  rw [List.length_eq_zero_iff, Text.encode_eq_nil_iff]
  refine or_congr_right' fun filled => ?_
  have positive : 0 < (Text.encode front).length :=
    List.length_pos_iff.2 (mt Text.encode_eq_nil_iff.1 filled)
  rw [List.getElem?_append_left (Nat.sub_lt positive Nat.one_pos), ← List.getLast?_eq_getElem?,
    Text.getLast?_encode_eq_dot_iff]

theorem matchesBytes_eq (domain entry : String) :
    matchesBytes domain entry = matchesDomain domain entry := by
  rw [Bool.eq_iff_iff, matchesDomain_iff]
  simp only [matchesBytes, Bool.and_eq_true, Bool.not_eq_true', decide_eq_true_eq, Bool.or_eq_true,
    beq_iff_eq, List.isEmpty_eq_false_iff, ne_eq, Text.encode_eq_nil_iff]
  generalize trimEndDots domain.toList = host
  generalize entry.toList = name
  constructor
  · rintro ⟨⟨⟨⟨filled, -⟩, boundary⟩, same⟩, before⟩
    obtain ⟨front, tail, rfl, length⟩ := Text.isBoundary_encode_iff.1 boundary
    rw [← length, Text.encode_append, List.drop_left, Text.map_lowerByte_eq_iff] at same
    rw [← length, Text.encode_append, empty_or_dot_iff] at before
    exact ⟨filled, front, tail, rfl, same, before⟩
  · rintro ⟨filled, front, tail, rfl, same, before⟩
    have lengths : (Text.encode tail).length = (Text.encode name).length := by
      simpa using congrArg List.length (Text.map_lowerByte_eq_iff.2 same)
    have split : (Text.encode (front ++ tail)).length - (Text.encode name).length =
        (Text.encode front).length := by
      rw [Text.encode_append, List.length_append, lengths, Nat.add_sub_cancel_right]
    have boundary := Text.isBoundary_encode_iff.2 ⟨front, tail, rfl, rfl⟩
    rw [split]
    refine ⟨⟨⟨⟨filled, ?_⟩, boundary⟩, ?_⟩, ?_⟩
    · rw [Text.encode_append, List.length_append, lengths]
      exact Nat.le_add_left _ _
    · rw [Text.encode_append, List.drop_left, Text.map_lowerByte_eq_iff, same]
    · rw [Text.encode_append]
      exact (empty_or_dot_iff front tail).2 before

/-- The domains above a host are met on the walk from it, one for each place at which a label begins, and
the host matches those that are equal to one of them up to the case of ASCII letters. -/
theorem suffixes_agree (host : String) :
    (∀ walked, Walk (walkStart? host) walked ↔ walked = suffixes host) ∧
      (suffixes host).map String.toList =
        (labelStarts (trimEndDots host.toList)).map (trimEndDots host.toList).drop ∧
      (suffixes host).length =
        (if trimEndDots host.toList = [] then 0 else (trimEndDots host.toList).count '.' + 1) ∧
      ∀ entry, matchesBytes host entry = matchesDomain host entry ∧
        (matchesDomain host entry ↔
          ∃ name ∈ suffixes host, Text.equalIgnoreCase name.toList entry.toList) :=
  ⟨fun _ => walk_iff, suffixes_eq host, length_suffixes host, fun entry =>
    ⟨matchesBytes_eq host entry, matchesDomain_iff_exists_suffix⟩⟩

end ContentFilter.Domain
