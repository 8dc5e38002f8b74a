import ContentFilter.Matcher

/-!
# The deciding rule

Which of the rules that match a request decides it.  Going before another rule is a comparison of
ranks, so the deciding rule is one of the highest rank, wherever it stands in the batch.
-/

namespace ContentFilter

namespace CompiledRule

/-- The rank of a rule among those that match: by priority, and then allowing before blocking. -/
def rank (rule : CompiledRule) : Nat :=
  2 * rule.priority + if rule.action = .allow then 1 else 0

theorem outranks_iff {rule current : CompiledRule} :
    rule.outranks current ↔ current.rank < rule.rank := by
  simp only [outranks, rank, Bool.or_eq_true, Bool.and_eq_true, decide_eq_true_eq, beq_iff_eq]
  cases rule.action <;> cases current.action <;> simp <;> omega

theorem priority_le_of_rank_le {rule other : CompiledRule} (h : other.rank ≤ rule.rank) :
    other.priority ≤ rule.priority := by
  simp only [rank] at h
  split at h <;> split at h <;> omega

/-- Whether a rule matches a request: its conditions hold, and its pattern is a regular expression
found in the URL. -/
def matchesRequest (rule : CompiledRule) (request : Request) : Bool :=
  rule.conditionHolds request.types ((Url.host? request.url).getD "")
      (request.initiator.bind Url.initiatorHost?) &&
    (FilterPattern.load? rule.caseSensitive rule.matchPattern).any (·.isMatch request.url.toList)

end CompiledRule

namespace Matcher

/-- The deciding rule when one more rule matches. -/
def prefer (best : Option CompiledRule) (rule : CompiledRule) : Option CompiledRule :=
  match best with
  | some current => if rule.outranks current then some rule else some current
  | none => some rule

theorem best?_eq_foldl (candidates : List CompiledRule) :
    best? candidates = candidates.foldl prefer none := rfl

/-- From a rule onwards the deciding rule is found among it and the later ones, and none of them has
a higher rank. -/
theorem foldl_prefer_some (current : CompiledRule) (rest : List CompiledRule) :
    ∃ rule ∈ current :: rest, rest.foldl prefer (some current) = some rule ∧
      ∀ other ∈ current :: rest, other.rank ≤ rule.rank := by
  induction rest generalizing current with
  | nil => exact ⟨current, List.mem_cons_self, rfl, by simp⟩
  | cons head rest ih =>
    rw [List.foldl_cons]
    by_cases wins : head.outranks current
    · obtain ⟨rule, member, found, highest⟩ := ih head
      refine ⟨rule, List.mem_cons_of_mem _ member, by simpa [prefer, wins] using found, ?_⟩
      intro other among
      rcases List.mem_cons.1 among with rfl | later
      · have below := CompiledRule.outranks_iff.1 wins
        have above := highest head List.mem_cons_self
        omega
      · exact highest other later
    · obtain ⟨rule, member, found, highest⟩ := ih current
      refine ⟨rule, ?_, by simpa [prefer, wins] using found, ?_⟩
      · rcases List.mem_cons.1 member with rfl | later
        · exact List.mem_cons_self
        · exact List.mem_cons_of_mem _ (List.mem_cons_of_mem _ later)
      · intro other among
        rcases List.mem_cons.1 among with rfl | later
        · exact highest _ List.mem_cons_self
        · rcases List.mem_cons.1 later with rfl | last
          · have notBelow := mt CompiledRule.outranks_iff.2 wins
            have above := highest current List.mem_cons_self
            omega
          · exact highest other (List.mem_cons_of_mem _ last)

/-- No rule decides if none matches. -/
theorem best?_eq_none_iff {candidates : List CompiledRule} :
    best? candidates = none ↔ candidates = [] := by
  cases candidates with
  | nil => simp [best?_eq_foldl]
  | cons current rest =>
    obtain ⟨rule, _, found, _⟩ := foldl_prefer_some current rest
    simp [best?_eq_foldl, prefer, found]

/-- The deciding rule is one of those that match, and no other has a higher rank. -/
theorem best?_eq_some {candidates : List CompiledRule} {rule : CompiledRule}
    (h : best? candidates = some rule) :
    rule ∈ candidates ∧ ∀ other ∈ candidates, other.rank ≤ rule.rank := by
  cases candidates with
  | nil => simp [best?_eq_foldl] at h
  | cons current rest =>
    obtain ⟨best, member, found, highest⟩ := foldl_prefer_some current rest
    rw [best?_eq_foldl, List.foldl_cons] at h
    obtain rfl : best = rule := Option.some.inj (found.symm.trans h)
    exact ⟨member, highest⟩

/-- The rules of a batch that match a request, in their order. -/
theorem candidates_ofRules (rules : List CompiledRule) (request : Request) :
    (ofRules rules).candidates request = rules.filter (·.matchesRequest request) := by
  induction rules with
  | nil => rfl
  | cons head rest ih =>
    rw [List.filter_cons, ← ih, CompiledRule.matchesRequest]
    simp only [candidates, ofRules]
    cases loads : FilterPattern.load? head.caseSensitive head.matchPattern with
    | none =>
      have unloaded : head.load? = none := by rw [CompiledRule.load?, loads, Option.map_none]
      rw [List.filterMap_cons_none unloaded, Option.any_none, Bool.and_false,
        if_neg Bool.false_ne_true]
    | some regex =>
      have loaded : head.load? = some ⟨head, regex⟩ := by
        rw [CompiledRule.load?, loads, Option.map_some]
      rw [List.filterMap_cons_some loaded, List.filter_cons, Option.any_some]
      split
      · rfl
      · rfl

theorem mem_candidates_ofRules {rules : List CompiledRule} {request : Request}
    {rule : CompiledRule} :
    rule ∈ (ofRules rules).candidates request ↔ rule ∈ rules ∧ rule.matchesRequest request := by
  rw [candidates_ofRules, List.mem_filter]

end Matcher

end ContentFilter
