import ContentFilter.Proofs.Matching.Best

/-!
# Verdicts of sets of rules

The verdict on a request is read off the rules that match it.  The highest priority among them is its
priority; it allows if some rule of that priority does; and it names the first rule of this priority and
action in the batch.  So the order of a batch, rules that it holds twice and rules of a lower priority
bear neither on the decision nor on the priority.
-/

namespace ContentFilter

namespace CompiledRule

theorem rank_lt_of_priority_lt {rule other : CompiledRule} (below : other.priority < rule.priority) :
    other.rank < rule.rank := by
  simp only [rank]
  split <;> split <;> omega

/-- A rank tells the priority and the action. -/
theorem rank_eq_iff {rule other : CompiledRule} :
    other.rank = rule.rank ↔ other.priority = rule.priority ∧ other.action = rule.action := by
  simp only [rank]
  cases rule.action <;> cases other.action <;> simp <;> omega

end CompiledRule

/-- A verdict that follows from the rules that match a request, which stand in the order of the batch. -/
structure Verdict.FollowsFrom (verdict : Verdict) (matching : List CompiledRule) : Prop where
  unmatched_iff : verdict = .unmatched ↔ matching = []
  attained : matching ≠ [] → ∃ rule ∈ matching, rule.priority = verdict.priority
  highest : ∀ rule ∈ matching, rule.priority ≤ verdict.priority
  allow_iff : matching ≠ [] → (verdict.decision = .allow ↔
    ∃ rule ∈ matching, rule.priority = verdict.priority ∧ rule.action = .allow)
  /-- The first rule with the priority and the action of the verdict is the one that it names. -/
  ruleId : verdict.ruleId = (matching.find? fun rule =>
    rule.priority == verdict.priority && rule.action == verdict.decision).map (·.id)

/-- Two verdicts that differ at most in the rule they name. -/
structure Verdict.Agrees (verdict other : Verdict) : Prop where
  decision : verdict.decision = other.decision
  priority : verdict.priority = other.priority

namespace Matcher

/-! ## The first rule of the highest rank -/

/-- A rule gives way only to a later one of a higher rank, so the deciding rule is the first of its
rank. -/
theorem find?_of_foldl_prefer {current rule : CompiledRule} {rest : List CompiledRule}
    (found : rest.foldl prefer (some current) = some rule) :
    (current :: rest).find? (rule.rank ≤ ·.rank) = some rule := by
  induction rest generalizing current with
  | nil =>
    obtain rfl : current = rule := Option.some.inj found
    simp
  | cons head rest ih =>
    rw [List.foldl_cons, prefer] at found
    by_cases wins : head.outranks current
    case pos =>
      rw [if_pos wins] at found
      obtain ⟨best, -, same, highest⟩ := foldl_prefer_some head rest
      obtain rfl : best = rule := Option.some.inj (same.symm.trans found)
      have above := highest head List.mem_cons_self
      have below := CompiledRule.outranks_iff.1 wins
      rw [List.find?_cons_of_neg (by simp; omega)]
      exact ih found
    case neg =>
      rw [if_neg wins] at found
      have notAbove := mt CompiledRule.outranks_iff.2 wins
      have first := ih found
      by_cases isBest : rule.rank ≤ current.rank
      · rw [List.find?_cons_of_pos (by simpa using isBest)] at first ⊢
        exact first
      · rw [List.find?_cons_of_neg (by simpa using isBest)] at first ⊢
        rw [List.find?_cons_of_neg (by simp; omega)]
        exact first

/-- The deciding rule is the first of those that match with its priority and action. -/
theorem find?_of_best? {candidates : List CompiledRule} {rule : CompiledRule}
    (decides : best? candidates = some rule) :
    candidates.find? (fun other => other.priority == rule.priority && other.action == rule.action) =
      some rule := by
  obtain ⟨-, highest⟩ := best?_eq_some decides
  have first : candidates.find? (rule.rank ≤ ·.rank) = some rule := by
    cases candidates with
    | nil => cases decides
    | cons current rest => exact find?_of_foldl_prefer decides
  rw [← first, ← List.head?_filter, ← List.head?_filter]
  congr 1
  refine List.filter_congr fun other member => ?_
  have below := highest other member
  rw [Bool.eq_iff_iff, Bool.and_eq_true, beq_iff_eq, beq_iff_eq, ← CompiledRule.rank_eq_iff,
    decide_eq_true_eq]
  omega

/-! ## Verdicts -/

/-- A request is decided by the deciding rule, if any rule matches it. -/
theorem decide_ofRules_cases (rules : List CompiledRule) (request : Request) :
    (rules.filter (·.matchesRequest request) = [] ∧ (ofRules rules).decide request = .unmatched) ∨
    ∃ rule, best? (rules.filter (·.matchesRequest request)) = some rule ∧
      (ofRules rules).decide request = rule.verdict := by
  rw [decide, candidates_ofRules]
  rcases decides : best? (rules.filter (·.matchesRequest request)) with _ | rule
  · exact .inl ⟨best?_eq_none_iff.1 decides, rfl⟩
  · exact .inr ⟨rule, rfl, rfl⟩

/-- The verdict of a deciding rule follows from the rules that match. -/
theorem followsFrom_of_best? {matching : List CompiledRule} {rule : CompiledRule}
    (decides : best? matching = some rule) : rule.verdict.FollowsFrom matching := by
  obtain ⟨member, highest⟩ := best?_eq_some decides
  have filled : matching ≠ [] := List.ne_nil_of_mem member
  constructor
  case unmatched_iff => simp [CompiledRule.verdict, Verdict.unmatched, filled]
  case attained => exact fun _ => ⟨rule, member, rfl⟩
  case highest => exact fun other among => CompiledRule.priority_le_of_rank_le (highest other among)
  case allow_iff =>
    intro _
    constructor
    · intro allows
      exact ⟨rule, member, rfl, allows⟩
    · rintro ⟨other, among, level, allows⟩
      have below := highest other among
      show rule.action = .allow
      cases blocks : rule.action with
      | allow => rfl
      | block =>
        have level : other.priority = rule.priority := level
        have above : rule.rank < other.rank := by simp [CompiledRule.rank, level, allows, blocks]
        omega
  case ruleId =>
    show some rule.id = (matching.find? fun other =>
      other.priority == rule.priority && other.action == rule.action).map (·.id)
    rw [find?_of_best? decides, Option.map_some]

theorem decide_followsFrom (rules : List CompiledRule) (request : Request) :
    ((ofRules rules).decide request).FollowsFrom (rules.filter (·.matchesRequest request)) := by
  rcases decide_ofRules_cases rules request with ⟨none, decided⟩ | ⟨rule, decides, decided⟩
  · rw [none, decided]
    exact ⟨by simp, by simp, by simp, by simp, rfl⟩
  · rw [decided]
    exact followsFrom_of_best? decides

/-- More rules change neither the decision nor the priority if they are below the verdict. -/
theorem decide_agrees {rules others : List CompiledRule} {request : Request}
    (kept : ∀ rule ∈ rules, rule ∈ others)
    (below : ∀ rule ∈ others, rule ∈ rules ∨
      rule.priority < ((ofRules rules).decide request).priority) :
    ((ofRules others).decide request).Agrees ((ofRules rules).decide request) := by
  rcases decide_ofRules_cases rules request with ⟨none, decided⟩ | ⟨rule, decides, decided⟩
  case inl =>
    -- no rule is below the verdict on a request that is unmatched
    have noneToo : others.filter (·.matchesRequest request) = [] := by
      rw [List.filter_eq_nil_iff] at none ⊢
      intro other member
      rcases below other member with among | low
      · exact none other among
      · rw [decided] at low
        cases low
    rcases decide_ofRules_cases others request with ⟨-, same⟩ | ⟨other, found, -⟩
    · rw [same, decided]
      exact ⟨rfl, rfl⟩
    · rw [noneToo] at found
      cases found
  case inr =>
    obtain ⟨member, highest⟩ := best?_eq_some decides
    obtain ⟨among, found⟩ := List.mem_filter.1 member
    have among : rule ∈ others.filter (·.matchesRequest request) :=
      List.mem_filter.2 ⟨kept rule among, found⟩
    rcases decide_ofRules_cases others request with ⟨none, -⟩ | ⟨other, decidesToo, decidedToo⟩
    · rw [none] at among
      cases among
    · obtain ⟨memberToo, highestToo⟩ := best?_eq_some decidesToo
      obtain ⟨given, foundToo⟩ := List.mem_filter.1 memberToo
      have above := highestToo rule among
      have level : other.rank = rule.rank := by
        rw [decided] at below
        rcases below other given with known | low
        · exact Nat.le_antisymm (highest other (List.mem_filter.2 ⟨known, foundToo⟩)) above
        · have low : other.rank < rule.rank := CompiledRule.rank_lt_of_priority_lt low
          omega
      obtain ⟨priority, action⟩ := CompiledRule.rank_eq_iff.1 level
      rw [decided, decidedToo]
      exact ⟨action, priority⟩

/-- The verdict on a request follows from the rules that match it.  Its decision and priority are those of
every batch with the same rules, and of every batch with further rules below the verdict. -/
theorem decide_ofRules_setwise (rules : List CompiledRule) (request : Request) :
    ((ofRules rules).decide request).FollowsFrom (rules.filter (·.matchesRequest request)) ∧
      (∀ others : List CompiledRule, (∀ rule, rule ∈ others ↔ rule ∈ rules) →
        ((ofRules others).decide request).Agrees ((ofRules rules).decide request)) ∧
      ∀ added others : List CompiledRule,
        (∀ rule ∈ added, rule.priority < ((ofRules rules).decide request).priority) →
        (∀ rule, rule ∈ others ↔ rule ∈ rules ∨ rule ∈ added) →
        ((ofRules others).decide request).Agrees ((ofRules rules).decide request) := by
  refine ⟨decide_followsFrom rules request, fun others same => ?_, fun added others low same => ?_⟩
  · exact decide_agrees (fun rule => (same rule).2) fun rule member => .inl ((same rule).1 member)
  · exact decide_agrees (fun rule member => (same rule).2 (.inl member)) fun rule member =>
      ((same rule).1 member).imp_right (low rule)

/-- A rule for all requests. -/
def generalRule (id priority : Nat) (action : RuleAction) : CompiledRule :=
  ⟨id, priority, action, ".", none, none, none, none, false, .ads⟩

/-- A request from nowhere. -/
def scriptRequest : Request := ⟨"http://a.io/", .only .script, none⟩

/-- A block and two exceptions of one priority. -/
def tiedRules : List CompiledRule :=
  [generalRule 1 5 .block, generalRule 3 5 .allow, generalRule 2 5 .allow]

/-- The same rules in another order, one of them twice, with a block below them. -/
def shuffledRules : List CompiledRule :=
  [generalRule 2 5 .allow, generalRule 4 4 .block, generalRule 1 5 .block, generalRule 3 5 .allow,
    generalRule 1 5 .block]

/-- The first exception decides, and the second one among the shuffled rules. -/
theorem decide_ofRules_setwise_tied :
    (ofRules tiedRules).decide scriptRequest = ⟨.allow, some 3, 5⟩ ∧
      (ofRules shuffledRules).decide scriptRequest = ⟨.allow, some 2, 5⟩ ∧
      (∀ rule ∈ [generalRule 4 4 .block], rule.priority <
        ((ofRules tiedRules).decide scriptRequest).priority) ∧
      (∀ rule, rule ∈ shuffledRules ↔ rule ∈ tiedRules ∨ rule ∈ [generalRule 4 4 .block]) ∧
      ((ofRules shuffledRules).decide scriptRequest).Agrees
        ((ofRules tiedRules).decide scriptRequest) := by
  have tied : (ofRules tiedRules).decide scriptRequest = ⟨.allow, some 3, 5⟩ := by decide +kernel
  have shuffled : (ofRules shuffledRules).decide scriptRequest = ⟨.allow, some 2, 5⟩ := by
    decide +kernel
  have low : ∀ rule ∈ [generalRule 4 4 .block], rule.priority <
      ((ofRules tiedRules).decide scriptRequest).priority := by
    rw [tied]
    decide
  have same : ∀ rule, rule ∈ shuffledRules ↔ rule ∈ tiedRules ∨ rule ∈ [generalRule 4 4 .block] := by
    intro rule
    simp only [shuffledRules, tiedRules, List.mem_cons, List.not_mem_nil, or_false]
    grind
  obtain ⟨-, -, agrees⟩ := decide_ofRules_setwise tiedRules scriptRequest
  exact ⟨tied, shuffled, low, same, agrees _ _ low same⟩

end Matcher

end ContentFilter
