import ContentFilter.Proofs.Compilation.Emission
import ContentFilter.Proofs.IdSpace.Bands
import ContentFilter.Proofs.RuleTable.Members

/-!
# The ids of compiled rules

The rules of a category get the ids from the bottom of its band, without a gap.  As bands are disjoint,
no two compiled rules share an id.
-/

namespace ContentFilter

namespace Emission

/-- An emission whose rules have the ids that were handed out of the bands. -/
structure Numbered (space : IdSpace) (emission : Emission) : Prop where
  table : emission.ids.space = space
  sound : emission.ids.Sound
  /-- The rules of a category have the ids from the bottom of its band, the newest the highest. -/
  ids : ∀ category range, space.range? category = some range →
    (emission.rules.filter (·.category == category)).map (·.id) =
      (List.range' range.start (emission.ids.issued category)).reverse
  /-- A rule has an id of the band of its category. -/
  inBand : ∀ rule ∈ emission.rules, ∃ range, space.range? rule.category = some range ∧
    range.contains rule.id
  distinct : (emission.rules.map (·.id)).Nodup

namespace Numbered

variable {space : IdSpace} {emission : Emission}

theorem start (space : IdSpace) : Numbered space (.start space) := by
  refine ⟨rfl, IdAllocator.sound_start space, ?_, ?_, List.nodup_nil⟩
  · intro category range _
    rfl
  · intro rule member
    cases member

theorem reject (numbered : Numbered space emission) : Numbered space emission.reject :=
  ⟨numbered.table, numbered.sound, numbered.ids, numbered.inBand, numbered.distinct⟩

theorem exhaust (numbered : Numbered space emission) (category : Category) (width : Nat) :
    Numbered space (emission.exhaust category width) :=
  ⟨numbered.table, numbered.sound, numbered.ids, numbered.inBand, numbered.distinct⟩

/-- The id of a rule lies below those that its category has still to hand out. -/
theorem id_lt (numbered : Numbered space emission) {rule : CompiledRule}
    (member : rule ∈ emission.rules) {range : IdRange}
    (declared : space.range? rule.category = some range) :
    rule.id < range.start + emission.ids.issued rule.category := by
  have among : rule.id ∈ (emission.rules.filter (·.category == rule.category)).map (·.id) :=
    List.mem_map_of_mem (List.mem_filter.2 ⟨member, beq_self_eq_true _⟩)
  rw [numbered.ids rule.category range declared, List.mem_reverse, List.mem_range'_1] at among
  exact among.2

/-- The next id of a category is not the id of a rule. -/
theorem next_not_mem (numbered : Numbered space emission) (valid : IdSpace.Valid space.ranges)
    {category : Category} {range : IdRange} (declared : space.range? category = some range)
    (left : range.start + emission.ids.issued category < range.stop) :
    range.start + emission.ids.issued category ∉ emission.rules.map (·.id) := by
  intro used
  obtain ⟨rule, member, same⟩ := List.mem_map.1 used
  obtain ⟨band, found, inside⟩ := numbered.inBand rule member
  have free : range.contains rule.id := by
    rw [same, IdRange.contains, Bool.and_eq_true, decide_eq_true_iff, decide_eq_true_iff]
    omega
  -- bands are disjoint, so the rule that had the id is of the same category
  have together : band = range := IdSpace.eq_of_contains valid.ordered
    (List.mem_of_find?_eq_some found) (List.mem_of_find?_eq_some declared) inside free
  have kind : rule.category = category := by
    rw [← IdSpace.category_of_range? found, together, IdSpace.category_of_range? declared]
  have below := numbered.id_lt member found
  rw [together, kind] at below
  omega

theorem push (numbered : Numbered space emission) (valid : IdSpace.Valid space.ranges)
    (draft : RuleDraft) : Numbered space (emission.push draft).1 := by
  rcases push_cases emission draft with ⟨id, ids, answer, pushed⟩ | ⟨_, _, _, pushed⟩ | ⟨_, _, pushed⟩
  · rw [pushed]
    obtain ⟨sound, same, ⟨range, declared, next, left⟩, issued⟩ :=
      IdAllocator.next_eq_ok numbered.sound answer
    rw [numbered.table] at same declared
    constructor
    case table => exact same
    case sound => exact sound
    case ids =>
      intro category band found
      show (((draft.toRule id) :: emission.rules).filter (·.category == category)).map (·.id) =
        (List.range' band.start (ids.issued category)).reverse
      rw [issued]
      by_cases here : draft.category = category
      · have kind : ((draft.toRule id).category == category) = true := beq_iff_eq.2 here
        rw [if_pos here, List.filter_cons, if_pos kind, List.map_cons,
          numbered.ids category band found, List.range'_concat, List.reverse_append]
        rw [← here, declared, Option.some.injEq] at found
        rw [← found, ← here, Nat.one_mul, ← next]
        rfl
      · rw [if_neg here, List.filter_cons_of_neg (by simpa [RuleDraft.toRule] using here)]
        exact numbered.ids category band found
    case inBand =>
      intro rule member
      rcases List.mem_cons.1 member with rfl | before
      · refine ⟨range, declared, ?_⟩
        show range.contains id
        rw [IdRange.contains, Bool.and_eq_true, decide_eq_true_iff, decide_eq_true_iff]
        omega
      · exact numbered.inBand rule before
    case distinct =>
      show (id :: emission.rules.map (·.id)).Nodup
      rw [List.nodup_cons, next]
      exact ⟨numbered.next_not_mem valid declared (next ▸ left), numbered.distinct⟩
  · rw [pushed]
    exact numbered.exhaust _ _
  · rw [pushed]
    exact numbered.reject

end Numbered

end Emission

namespace Compilation.IsOf

variable {input : CompileInput} {config : CompilerConfig} {compilation : Compilation}

theorem numbered (valid : IdSpace.Valid config.idSpace.ranges) :
    (input.listEmission config).emission.Numbered config.idSpace := by
  apply listEmission_induct (.start config.idSpace)
  · intro emission numbered
    exact numbered.reject
  · intro emission draft _ numbered
    exact numbered.push valid draft

/-- Compiled rules are in the strict order of their ids. -/
theorem pairwise_rules (h : compilation.IsOf input config)
    (valid : IdSpace.Valid config.idSpace.ranges) :
    compilation.rules.Pairwise fun a b => a.id < b.id := by
  rw [h.rules]
  apply pairwise_sortById
  rw [List.map_reverse, (List.reverse_perm _).nodup_iff]
  exact (numbered valid).distinct

/-- The rules of a category have the ids from the bottom of its band, one after another. -/
theorem ids_of_category (h : compilation.IsOf input config)
    (valid : IdSpace.Valid config.idSpace.ranges) {category : Category} {range : IdRange}
    (declared : config.idSpace.range? category = some range) :
    (compilation.rules.filter (·.category == category)).map (·.id) =
      List.range' range.start (compilation.rules.countP (·.category == category)) := by
  have ordered : ((compilation.rules.filter (·.category == category)).map (·.id)).Pairwise
      (· < ·) :=
    ((h.pairwise_rules valid).filter _).map _ fun _ _ below => below
  -- sorting does not change which ids there are, and they were handed out without a gap
  have handedOut : ((compilation.rules.filter (·.category == category)).map (·.id)).Perm
      (List.range' range.start
        ((input.listEmission config).emission.ids.issued category)) := by
    refine ((h.perm_rules.filter _).map _).trans ?_
    rw [(numbered valid).ids category range declared]
    exact List.reverse_perm _
  have inOrder := handedOut.eq_of_pairwise
    (fun _ _ _ _ below above => absurd below (Nat.lt_asymm above)) ordered List.pairwise_lt_range'
  have count := congrArg List.length inOrder
  rw [List.length_map, List.length_range', ← List.countP_eq_length_filter] at count
  rw [inOrder, count]

end Compilation.IsOf

/-- Rules that keep to a table of bands. -/
structure KeepsBands (space : IdSpace) (rules : List CompiledRule) : Prop where
  ordered : rules.Pairwise fun a b => a.id < b.id
  /-- The id of a rule tells its category. -/
  told : ∀ rule ∈ rules, space.categoryOf? rule.id = some rule.category
  /-- The id of a rule lies in the band of its category and in no other one. -/
  inBand : ∀ rule ∈ rules, ∀ range ∈ space.ranges,
    range.contains rule.id ↔ range.category = rule.category
  /-- The rules of a category use the ids from the bottom of its band, without a gap. -/
  gapless : ∀ category, ∃ range, space.range? category = some range ∧
    (rules.filter (·.category == category)).map (·.id) =
      List.range' range.start (rules.countP (·.category == category))

/-- Valid settings yield a compilation whose rules keep to the table of bands: whatever was rejected or
dropped has used no id. -/
theorem compile_keepsBands (input : CompileInput) {config : CompilerConfig} {ranges : List IdRange}
    (accepted : IdSpace.ofRanges ranges = .ok config.idSpace) (valid : config.validate = .ok ()) :
    ∃ compilation, compile input config = .ok compilation ∧
      KeepsBands config.idSpace compilation.rules := by
  obtain ⟨compilation, compiled⟩ := exists_compile input valid
  have h := compile_inv compiled
  have bands := IdSpace.valid_of_ofRanges accepted
  have inBand : ∀ rule ∈ compilation.rules, ∃ range,
      config.idSpace.range? rule.category = some range ∧ range.contains rule.id := by
    intro rule member
    rw [h.mem_rules] at member
    exact (Compilation.IsOf.numbered bands).inBand rule member
  refine ⟨compilation, compiled, ?_⟩
  constructor
  case ordered => exact h.pairwise_rules bands
  case told =>
    intro rule member
    exact (IdSpace.categoryOf?_eq_some_iff bands).2 (inBand rule member)
  case inBand =>
    intro rule member other among
    obtain ⟨range, declared, inside⟩ := inBand rule member
    obtain ⟨own, named⟩ := (IdSpace.range?_eq_some_iff bands).1 declared
    constructor
    · intro both
      rw [IdSpace.eq_of_contains bands.ordered among own both inside, named]
    · intro same
      have found := (IdSpace.range?_eq_some_iff bands).2 ⟨among, same⟩
      rw [declared, Option.some.injEq] at found
      exact found ▸ inside
  case gapless =>
    intro category
    obtain ⟨range, declared⟩ :=
      Option.isSome_iff_exists.1 (CompilerConfig.range?_isSome valid category)
    exact ⟨range, declared, h.ids_of_category bands declared⟩

/-- Settings with two ids for every category. -/
def narrowConfig : CompilerConfig where
  maxListRules := 3
  idSpace := ⟨Category.all.zipIdx.map fun (category, i) => ⟨category, 2 * i + 1, 2 * i + 3⟩⟩
  defaultTypes := .common

/-- An input with more domains and more filters than there are ids, and invalid ones among them. -/
def crowdedInput : CompileInput where
  lists := [.ofText (.new "base" "https://lists.test/base" .ads)
    "||a.io^\n/(/\n||b.io^\n||c.io^" 1]
  customRules := []
  whitelist := ["a.io", "..", "b.io", "c.io"]
  blacklist := ["d.io"]
  enabledCategories := [.ads]
  ruleBudget := none

/-- Rules that were rejected or dropped have used no id. -/
theorem compile_keepsBands_crowded :
    IdSpace.ofRanges narrowConfig.idSpace.ranges = .ok narrowConfig.idSpace ∧
      narrowConfig.validate = .ok () ∧
      ∃ compilation, compile crowdedInput narrowConfig = .ok compilation ∧
        KeepsBands narrowConfig.idSpace compilation.rules := by
  have accepted : IdSpace.ofRanges narrowConfig.idSpace.ranges = .ok narrowConfig.idSpace := rfl
  have valid : narrowConfig.validate = .ok () := rfl
  exact ⟨accepted, valid, compile_keepsBands crowdedInput accepted valid⟩

end ContentFilter
