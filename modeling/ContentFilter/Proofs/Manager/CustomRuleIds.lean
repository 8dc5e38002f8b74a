import Mathlib.Data.List.Induction
import Mathlib.Order.Bounds.Basic
import ContentFilter.Manager.Lemmas

/-!
# The ids of custom rules

A custom rule gets the first id that is free from the reading of a clock on.  The clock may stand still,
go backwards or jump: a search passes over an id only where a stored rule has it, so it ends, and no two
stored rules have one id.  A removal therefore takes out one rule at most.
-/

namespace ContentFilter

/-! ## The search -/

/-- A search for an id that is not used.  It goes on to the next one as long as it meets a used one, and
counts those that it passes over. -/
inductive IdSearch {α : Type} [Add α] [OfNat α 1] (used : List α) : α → Nat → α → Prop where
  | free {id : α} (unused : id ∉ used) : IdSearch used id 0 id
  | taken {id found : α} {passed : Nat} (present : id ∈ used)
    (rest : IdSearch used (id + 1) passed found) : IdSearch used id (passed + 1) found

namespace IdSearch

theorem unique {α : Type} [Add α] [OfNat α 1] {used : List α} {id found other : α}
    {passed count : Nat} (search : IdSearch used id passed found)
    (another : IdSearch used id count other) : count = passed ∧ other = found := by
  induction search generalizing count with
  | free unused =>
    cases another with
    | free => exact ⟨rfl, rfl⟩
    | taken present => exact absurd present unused
  | taken present _ ih =>
    cases another with
    | free unused => exact absurd present unused
    | taken _ rest =>
      obtain ⟨rfl, rfl⟩ := ih rest
      exact ⟨rfl, rfl⟩

variable {used : List Nat} {id found passed : Nat}

theorem found_eq (search : IdSearch used id passed found) : found = id + passed := by
  induction search with
  | free => rfl
  | taken _ _ ih => omega

theorem isLeast (search : IdSearch used id passed found) :
    IsLeast {other | id ≤ other ∧ other ∉ used} found := by
  induction search with
  | free unused => exact ⟨⟨le_rfl, unused⟩, fun other candidate => candidate.1⟩
  | taken present _ ih =>
    obtain ⟨⟨above, unused⟩, least⟩ := ih
    refine ⟨⟨Nat.le_of_succ_le above, unused⟩, fun other ⟨reached, absent⟩ => least ⟨?_, absent⟩⟩
    exact Nat.lt_of_le_of_ne reached fun same => absent (same ▸ present)

theorem countP_le_eq (used : List Nat) (id : Nat) :
    used.countP (id ≤ ·) = used.count id + used.countP (id + 1 ≤ ·) := by
  induction used with
  | nil => rfl
  | cons other rest ih =>
    rw [List.countP_cons, List.countP_cons, List.count_cons, ih]
    grind

/-- The measure of the search: fewer ids are left above a used one. -/
theorem countP_succ_lt (present : id ∈ used) :
    used.countP (id + 1 ≤ ·) < used.countP (id ≤ ·) := by
  have counted := List.count_pos_iff.2 present
  have parts := countP_le_eq used id
  omega

/-- A search passes over no more ids than are used at or above its start. -/
theorem passed_le (search : IdSearch used id passed found) : passed ≤ used.countP (id ≤ ·) := by
  induction search with
  | free => exact Nat.zero_le _
  | taken present _ ih =>
    have fewer := countP_succ_lt present
    omega

/-- A search is the same in words of 64 bits if all numbers fit. -/
theorem words (search : IdSearch used id passed found) (fits : ∀ other ∈ used, other < UInt64.size)
    (word : found < UInt64.size) :
    IdSearch (used.map UInt64.ofNat) (.ofNat id) passed (.ofNat found) := by
  induction search with
  | free unused =>
    refine .free fun present => ?_
    obtain ⟨other, member, same⟩ := List.mem_map.1 present
    have equal := congrArg UInt64.toNat same
    rw [UInt64.toNat_ofNat_of_lt' (fits other member), UInt64.toNat_ofNat_of_lt' word] at equal
    exact unused (equal ▸ member)
  | @taken id found passed present _ ih =>
    have next : UInt64.ofNat (id + 1) = UInt64.ofNat id + 1 := UInt64.ofNat_add id 1
    exact .taken (List.mem_map_of_mem present) (next ▸ ih word)

end IdSearch

/-- As many steps as there are used ids at or above the first one are enough, so the bound on the steps
never cuts a search short. -/
theorem Manager.exists_idSearch_freeId {used : List Nat} {steps id : Nat}
    (enough : used.countP (id ≤ ·) ≤ steps) :
    ∃ passed, IdSearch used id passed (freeId used steps id) := by
  induction steps generalizing id with
  | zero =>
    refine ⟨0, .free fun present => ?_⟩
    have fewer := IdSearch.countP_succ_lt present
    omega
  | succ steps ih =>
    rw [freeId]
    split
    · rename_i present
      have member : id ∈ used := List.contains_iff_mem.1 present
      have fewer := IdSearch.countP_succ_lt member
      have left : used.countP (id + 1 ≤ ·) ≤ steps := by omega
      obtain ⟨passed, rest⟩ := ih left
      exact ⟨passed + 1, .taken member rest⟩
    · rename_i unused
      exact ⟨0, .free fun present => unused (List.contains_iff_mem.2 present)⟩

/-- The search for the id of a new rule ends, since it passes over stored ids only. -/
theorem Manager.exists_idSearch {β : Type} (manager : Manager β) (now : Nat) :
    ∃ passed,
      IdSearch (manager.customRules.map (·.id)) now passed (manager.nextCustomRuleId now) := by
  refine exists_idSearch_freeId ?_
  rw [List.countP_map]
  exact List.countP_le_length

/-! ## One call -/

/-- A call about the custom rules.  An addition reads the clock. -/
inductive CustomRuleCall where
  | add (pattern : String) (action : RuleAction) (now : Nat)
  | remove (id : Nat)

/-- What a call about the custom rules is answered. -/
inductive CustomRuleAnswer where
  | added (result : Except RuleSetError CustomRule)
  | removed (wasStored : Bool)

namespace CustomRuleCall

/-- The readings of the clock in a row of calls. -/
def readings (calls : List CustomRuleCall) : List Nat :=
  calls.filterMap fun
    | .add _ _ now => some now
    | .remove _ => none

/-- Every reading of the clock is as far below the top of words of 64 bits as there are calls. -/
def FarFromTop (calls : List CustomRuleCall) : Prop :=
  ∀ now ∈ readings calls, now + calls.length ≤ UInt64.size

theorem mem_readings_append {earlier later : List CustomRuleCall} {now : Nat} :
    now ∈ readings (earlier ++ later) ↔ now ∈ readings earlier ∨ now ∈ readings later := by
  rw [readings, List.filterMap_append, List.mem_append]
  rfl

theorem FarFromTop.of_append {earlier later : List CustomRuleCall}
    (far : FarFromTop (earlier ++ later)) : FarFromTop earlier := by
  intro now reading
  have below := far now (mem_readings_append.2 (.inl reading))
  rw [List.length_append] at below
  omega

end CustomRuleCall

/-- How the text of a rule is read does not depend on its id or its time. -/
theorem CustomRule.toFilter?_congr {rule other : CustomRule} (pattern : rule.pattern = other.pattern)
    (action : rule.action = other.action) : rule.toFilter? = other.toFilter? := by
  unfold toFilter?
  rw [pattern, action]

namespace Manager

variable {β : Type}

/-- The answer to a call about the custom rules, and the manager behind it. -/
def callCustom (manager : Manager β) : CustomRuleCall → CustomRuleAnswer × Manager β
  | .add pattern action now =>
    match manager.addCustomRule pattern action now with
    | .ok (rule, after) => (.added (.ok rule), after)
    | .error failure => (.added (.error failure), manager)
  | .remove id =>
    match manager.removeCustomRule? id with
    | some after => (.removed true, after)
    | none => (.removed false, manager)

/-- A new manager behind calls about the custom rules, one after another. -/
def ofCustomCalls (config : CompilerConfig) (backend : β) (calls : List CustomRuleCall) : Manager β :=
  calls.foldl (fun manager call => (manager.callCustom call).2) (new config backend)

/-- The rule that is added if its text can be read. -/
def newCustomRule (manager : Manager β) (pattern : String) (action : RuleAction) (now : Nat) :
    CustomRule :=
  ⟨manager.nextCustomRuleId now, String.ofList (Text.trim pattern.toList), action, now⟩

/-- The ids from a reading on that no custom rule has. -/
def unusedIds (manager : Manager β) (now : Nat) : Set Nat :=
  {id | now ≤ id ∧ ∀ rule ∈ manager.customRules, rule.id ≠ id}

/-- How the search for the id of a new rule ends. -/
structure EndsSearch (manager : Manager β) (now : Nat) : Prop where
  /-- In words of 64 bits the search has just one course, to the id that the rule gets. -/
  search_iff : ∀ passed found,
    IdSearch (manager.customRules.map (UInt64.ofNat ·.id)) (.ofNat now) passed found ↔
      passed = manager.nextCustomRuleId now - now ∧ found = .ofNat (manager.nextCustomRuleId now)
  /-- It passes over no more ids than are stored from the reading on. -/
  passed_le : manager.nextCustomRuleId now - now ≤ manager.customRules.countP (now ≤ ·.id)
  least : IsLeast (manager.unusedIds now) (manager.nextCustomRuleId now)
  word : manager.nextCustomRuleId now < UInt64.size

/-- What comes of adding a rule. -/
structure Adds (manager : Manager β) (pattern : String) (action : RuleAction) (now : Nat)
    (result : Except RuleSetError CustomRule) (behind : Manager β) : Prop where
  /-- The rule is the one with the smallest unused id, if its text can be read. -/
  ok_iff : ∀ rule, result = .ok rule ↔
    IsLeast (manager.unusedIds now) rule.id ∧
      rule.pattern = String.ofList (Text.trim pattern.toList) ∧ rule.action = action ∧
      rule.createdAt = now ∧ rule.toFilter?.isSome
  appended : ∀ rule, result = .ok rule →
    behind = { manager with customRules := manager.customRules ++ [rule] }
  /-- The addition fails if the text cannot be read, whatever id the rule would get. -/
  error_iff : ∀ failure, result = .error failure ↔
    failure = .config (.invalidRule pattern) ∧
      ∀ rule : CustomRule, rule.pattern = String.ofList (Text.trim pattern.toList) →
        rule.action = action → rule.toFilter? = none
  unchanged : ∀ failure, result = .error failure → behind = manager

/-- What comes of removing the rule of an id. -/
structure Removes (manager : Manager β) (id : Nat) (wasStored : Bool) (behind : Manager β) :
    Prop where
  true_iff : wasStored = true ↔ ∃ rule ∈ manager.customRules, rule.id = id
  /-- One rule is taken out between all others, and none of those has the id. -/
  removed : wasStored = true → ∃ front rule back,
    manager.customRules = front ++ rule :: back ∧ rule.id = id ∧
      (∀ other ∈ front ++ back, other.id ≠ id) ∧
      behind = { manager with customRules := front ++ back }
  unchanged : wasStored = false → behind = manager

/-- How a manager answers a call about the custom rules. -/
inductive ServesCustom (manager : Manager β) :
    CustomRuleCall → CustomRuleAnswer → Manager β → Prop where
  | add {pattern : String} {action : RuleAction} {now : Nat} {result : Except RuleSetError CustomRule}
    {behind : Manager β} (search : manager.EndsSearch now)
    (adds : manager.Adds pattern action now result behind) :
    ServesCustom manager (.add pattern action now) (.added result) behind
  | remove {id : Nat} {wasStored : Bool} {behind : Manager β}
    (removes : manager.Removes id wasStored behind) :
    ServesCustom manager (.remove id) (.removed wasStored) behind

theorem unusedIds_eq (manager : Manager β) (now : Nat) :
    manager.unusedIds now = {id | now ≤ id ∧ id ∉ manager.customRules.map (·.id)} := by
  ext id
  simp only [unusedIds, Set.mem_ofPred_eq, List.mem_map, not_exists, not_and, ne_eq]

/-- The rule gets the smallest unused id, however many ids are stored. -/
theorem isLeast_nextCustomRuleId (manager : Manager β) (now : Nat) :
    IsLeast (manager.unusedIds now) (manager.nextCustomRuleId now) := by
  rw [unusedIds_eq]
  obtain ⟨passed, search⟩ := manager.exists_idSearch now
  exact search.isLeast

/-! ## Each call does what it should -/

section Step

variable {manager : Manager β}

/-- A rule is added if its text can be read, and refused otherwise. -/
theorem callCustom_add (manager : Manager β) (pattern : String) (action : RuleAction) (now : Nat) :
    manager.callCustom (.add pattern action now) =
      let rule := manager.newCustomRule pattern action now
      if rule.toFilter?.isSome then
        (.added (.ok rule), { manager with customRules := manager.customRules ++ [rule] })
      else (.added (.error (.config (.invalidRule pattern))), manager) := by
  unfold callCustom addCustomRule
  dsimp only
  rw [← newCustomRule]
  cases (manager.newCustomRule pattern action now).toFilter? <;> rfl

theorem adds_of_readable {pattern : String} {action : RuleAction} {now : Nat}
    (read : (manager.newCustomRule pattern action now).toFilter?.isSome) :
    manager.Adds pattern action now (.ok (manager.newCustomRule pattern action now))
      { manager with
        customRules := manager.customRules ++ [manager.newCustomRule pattern action now] } where
  ok_iff := by
    have least := manager.isLeast_nextCustomRuleId now
    intro rule
    rw [Except.ok.injEq]
    constructor
    · rintro rfl
      exact ⟨least, rfl, rfl, rfl, read⟩
    · rintro ⟨smallest, samePattern, sameAction, sameTime, -⟩
      rw [newCustomRule, CustomRule.mk.injEq]
      exact ⟨least.unique smallest, samePattern.symm, sameAction.symm, sameTime.symm⟩
  appended := by
    rintro rule same
    cases same
    rfl
  error_iff := by
    refine fun failure => ⟨nofun, fun ⟨_, unreadable⟩ => ?_⟩
    rw [unreadable (manager.newCustomRule pattern action now) rfl rfl] at read
    cases read
  unchanged := nofun

theorem adds_of_unreadable {pattern : String} {action : RuleAction} {now : Nat}
    (unread : (manager.newCustomRule pattern action now).toFilter? = none) :
    manager.Adds pattern action now (.error (.config (.invalidRule pattern))) manager := by
  have unreadable : ∀ rule : CustomRule,
      rule.pattern = String.ofList (Text.trim pattern.toList) → rule.action = action →
        rule.toFilter? = none := by
    intro rule samePattern sameAction
    rw [← unread]
    exact CustomRule.toFilter?_congr samePattern sameAction
  constructor
  case ok_iff =>
    refine fun rule => ⟨nofun, fun ⟨_, samePattern, sameAction, _, read⟩ => ?_⟩
    rw [unreadable rule samePattern sameAction] at read
    cases read
  case appended => nofun
  case error_iff =>
    intro failure
    rw [Except.error.injEq, eq_comm]
    exact ⟨fun same => ⟨same, unreadable⟩, fun refusal => refusal.1⟩
  case unchanged => exact fun _ _ => rfl

/-- Where ids are distinct, the stored rule of an id is taken out between the others. -/
theorem removeCustomRule?_of_mem (distinct : (manager.customRules.map (·.id)).Nodup)
    {rule : CustomRule} (member : rule ∈ manager.customRules) : ∃ front back,
      manager.customRules = front ++ rule :: back ∧
        (∀ other ∈ front ++ back, other.id ≠ rule.id) ∧
        manager.removeCustomRule? rule.id =
          some { manager with customRules := front ++ back } := by
  obtain ⟨front, back, rules⟩ := List.append_of_mem member
  have others : ∀ other ∈ front ++ back, other.id ≠ rule.id := by
    rw [rules] at distinct
    exact (nodup_map_middle.1 distinct).2
  have kept : (front ++ back).filter (·.id != rule.id) = front ++ back :=
    List.filter_eq_self.2 fun other among => by simpa using others other among
  have left : manager.customRules.filter (·.id != rule.id) = front ++ back := by
    rw [rules, List.filter_append, List.filter_cons_of_neg (by simp), ← List.filter_append, kept]
  refine ⟨front, back, rules, others, removeCustomRule?_eq_some_iff.2 ⟨⟨rule, member, rfl⟩, ?_⟩⟩
  rw [left]

theorem removeCustomRule?_of_forall_ne {id : Nat}
    (unknown : ∀ rule ∈ manager.customRules, rule.id ≠ id) :
    manager.removeCustomRule? id = none := by
  refine Option.eq_none_iff_forall_ne_some.2 fun after removed => ?_
  obtain ⟨⟨rule, member, same⟩, -⟩ := removeCustomRule?_eq_some_iff.1 removed
  exact unknown rule member same

theorem callCustom_remove (manager : Manager β) (id : Nat) :
    manager.callCustom (.remove id) =
      (.removed (manager.removeCustomRule? id).isSome,
        (manager.removeCustomRule? id).getD manager) := by
  unfold callCustom
  dsimp only
  cases manager.removeCustomRule? id <;> rfl

/-- What holds of a call about the custom rules where ids are distinct and the search ends well. -/
theorem servesCustom_callCustom (distinct : (manager.customRules.map (·.id)).Nodup)
    (call : CustomRuleCall) (search : ∀ now ∈ CustomRuleCall.readings [call], manager.EndsSearch now) :
    manager.ServesCustom call (manager.callCustom call).1 (manager.callCustom call).2 := by
  cases call with
  | add pattern action now =>
    have ends := search now List.mem_cons_self
    rw [callCustom_add]
    dsimp only
    split
    · rename_i read
      exact .add ends (adds_of_readable read)
    · rename_i unread
      exact .add ends (adds_of_unreadable (Option.not_isSome_iff_eq_none.1 unread))
  | remove id =>
    by_cases stored : ∃ rule ∈ manager.customRules, rule.id = id
    · obtain ⟨rule, member, rfl⟩ := stored
      obtain ⟨front, back, rules, others, removed⟩ := removeCustomRule?_of_mem distinct member
      rw [callCustom_remove, removed]
      refine .remove ⟨iff_of_true rfl ⟨rule, member, rfl⟩, fun _ => ?_, nofun⟩
      exact ⟨front, rule, back, rules, rfl, others, rfl⟩
    · have missing : manager.removeCustomRule? id = none :=
        removeCustomRule?_of_forall_ne fun rule member same => stored ⟨rule, member, same⟩
      rw [callCustom_remove, missing]
      exact .remove ⟨iff_of_false nofun stored, nofun, fun _ => rfl⟩

end Step

/-! ## What is kept -/

/-- The custom rules behind so many calls: their ids are distinct words. -/
structure KeepsIds (manager : Manager β) (calls : Nat) : Prop where
  distinct : (manager.customRules.map (·.id)).Nodup
  few : manager.customRules.length ≤ calls
  words : ∀ rule ∈ manager.customRules, rule.id < UInt64.size

section Step

variable {manager : Manager β} {calls : Nat}

theorem KeepsIds.endsSearch (keeps : manager.KeepsIds calls) {now : Nat}
    (far : now + calls < UInt64.size) : manager.EndsSearch now := by
  obtain ⟨passed, search⟩ := manager.exists_idSearch now
  have reached := search.found_eq
  have passedLe : passed ≤ manager.customRules.countP (now ≤ ·.id) := by
    have bound := search.passed_le
    rwa [List.countP_map] at bound
  have stored := List.countP_le_length (p := (now ≤ ·.id)) (l := manager.customRules)
  have few := keeps.few
  -- one id is passed over for a stored rule at most, and there are no more of them than calls
  have word : manager.nextCustomRuleId now < UInt64.size := by omega
  have fits : ∀ id ∈ manager.customRules.map (·.id), id < UInt64.size :=
    List.forall_mem_map.2 keeps.words
  have inWords := search.words fits word
  rw [List.map_map] at inWords
  have passedEq : passed = manager.nextCustomRuleId now - now := by omega
  rw [passedEq] at inWords passedLe
  constructor
  case search_iff =>
    intro count found
    constructor
    · exact inWords.unique
    · rintro ⟨rfl, rfl⟩
      exact inWords
  case passed_le => exact passedLe
  case least => exact manager.isLeast_nextCustomRuleId now
  case word => exact word

/-- Whatever a call is answered, the ids behind it are distinct, since only an unused one is added. -/
theorem ServesCustom.keepsIds {call : CustomRuleCall} {answer : CustomRuleAnswer}
    {behind : Manager β} (serves : manager.ServesCustom call answer behind)
    (keeps : manager.KeepsIds calls) : behind.KeepsIds (calls + 1) := by
  have same : manager.KeepsIds (calls + 1) :=
    ⟨keeps.distinct, Nat.le_succ_of_le keeps.few, keeps.words⟩
  cases serves with
  | @add pattern action now result _ search adds =>
    cases result with
    | error failure =>
      rw [adds.unchanged failure rfl]
      exact same
    | ok rule =>
      have smallest := ((adds.ok_iff rule).1 rfl).1
      rw [adds.appended rule rfl]
      constructor
      case distinct =>
        rw [List.map_append, List.map_singleton, ← List.concat_eq_append, List.nodup_concat]
        refine ⟨fun used => ?_, keeps.distinct⟩
        obtain ⟨other, member, sameId⟩ := List.mem_map.1 used
        exact smallest.1.2 other member sameId
      case few =>
        rw [List.length_append, List.length_singleton]
        exact Nat.succ_le_succ keeps.few
      case words =>
        intro other member
        rcases List.mem_append.1 member with among | last
        · exact keeps.words other among
        · rw [List.mem_singleton.1 last, smallest.unique search.least]
          exact search.word
  | @remove id wasStored _ removes =>
    cases wasStored with
    | false =>
      rw [removes.unchanged rfl]
      exact same
    | true =>
      obtain ⟨front, rule, back, rules, -, -, rfl⟩ := removes.removed rfl
      have fewer : (front ++ back).Sublist manager.customRules := by
        rw [rules]
        exact (List.sublist_cons_self rule back).append_left front
      exact ⟨keeps.distinct.sublist (fewer.map _), fewer.length_le.trans same.few,
        fun other member => keeps.words other (fewer.subset member)⟩

end Step

/-! ## Rows of calls -/

theorem ofCustomCalls_concat (config : CompilerConfig) (backend : β) (earlier : List CustomRuleCall)
    (call : CustomRuleCall) :
    ofCustomCalls config backend (earlier ++ [call]) =
      ((ofCustomCalls config backend earlier).callCustom call).2 := by
  rw [ofCustomCalls, List.foldl_concat]
  rfl

/-- The step: behind a row that keeps ids, a call is served and keeps them. -/
theorem servesCustom_of_farFromTop {manager : Manager β} {earlier : List CustomRuleCall}
    {call : CustomRuleCall} (far : CustomRuleCall.FarFromTop (earlier ++ [call]))
    (keeps : manager.KeepsIds earlier.length) :
    manager.ServesCustom call (manager.callCustom call).1 (manager.callCustom call).2 := by
  refine servesCustom_callCustom keeps.distinct call fun now reading => keeps.endsSearch ?_
  have below := far now (CustomRuleCall.mem_readings_append.2 (.inr reading))
  rw [List.length_append, List.length_singleton] at below
  omega

theorem keepsIds_ofCustomCalls (config : CompilerConfig) (backend : β) (calls : List CustomRuleCall)
    (far : CustomRuleCall.FarFromTop calls) :
    (ofCustomCalls config backend calls).KeepsIds calls.length := by
  induction calls using List.reverseRecOn with
  | nil => exact ⟨List.nodup_nil, Nat.le_refl 0, nofun⟩
  | append_singleton earlier call ih =>
    have keeps := ih far.of_append
    rw [ofCustomCalls_concat, List.length_append, List.length_singleton]
    exact (servesCustom_of_farFromTop far keeps).keepsIds keeps

/-- Under whatever clock, the search for an id ends at the smallest unused one from its reading on, the
stored ids are distinct behind every row of calls, and each call adds or takes out just one rule, or none
and changes nothing. -/
theorem customCalls_serve (config : CompilerConfig) (backend : β) {earlier : List CustomRuleCall}
    {call : CustomRuleCall} (far : CustomRuleCall.FarFromTop (earlier ++ [call])) :
    let manager := ofCustomCalls config backend earlier
    let answer := (manager.callCustom call).1
    let behind := (manager.callCustom call).2
    ofCustomCalls config backend (earlier ++ [call]) = behind ∧
      (manager.customRules.map (·.id)).Nodup ∧ (behind.customRules.map (·.id)).Nodup ∧
      manager.ServesCustom call answer behind := by
  have keeps := keepsIds_ofCustomCalls config backend earlier far.of_append
  have serves := servesCustom_of_farFromTop far keeps
  exact ⟨ofCustomCalls_concat config backend earlier call, keeps.distinct,
    (serves.keepsIds keeps).distinct, serves⟩

/-- Calls under a clock that stands still, jumps as far as it may and goes backwards.  One text cannot
be read, and one id is freed again. -/
def unsteadyCalls : List CustomRuleCall := [
  .add "a.io" .block 5, .add "b.io" .allow 5, .add "x.test##.ad" .block 9, .add "c.io" .block 4,
  .remove 5, .remove 5, .add "d.io" .block 18446744073709551607, .add "e.io" .block 3]

/-- A rule that gets the id that was freed, behind two ids in use. -/
def refillingRule : CustomRule := ⟨5, "f.io", .block, 3⟩

theorem customCalls_serve_unsteadyCalls :
    CustomRuleCall.FarFromTop (unsteadyCalls ++ [.add "f.io" .block 3]) ∧
      let manager := ofCustomCalls .standard () unsteadyCalls
      let behind := ofCustomCalls .standard () (unsteadyCalls ++ [.add "f.io" .block 3])
      manager.customRules.map (·.id) = [6, 4, 18446744073709551607, 3] ∧
      (manager.callCustom (.add "f.io" .block 3)).1 = .added (.ok refillingRule) ∧
      behind = { manager with customRules := manager.customRules ++ [refillingRule] } ∧
      IsLeast (manager.unusedIds 3) 5 ∧
      IdSearch (manager.customRules.map (UInt64.ofNat ·.id)) 3 2 5 := by
  have far : CustomRuleCall.FarFromTop (unsteadyCalls ++ [.add "f.io" .block 3]) := by
    unfold CustomRuleCall.FarFromTop
    decide
  obtain ⟨behind, -, -, serves⟩ := customCalls_serve .standard () far
  have rule : (ofCustomCalls .standard () unsteadyCalls).newCustomRule "f.io" .block 3 =
      refillingRule := by
    decide +kernel
  have read : refillingRule.toFilter?.isSome := by decide +kernel
  rw [callCustom_add, rule, if_pos read] at serves behind
  cases serves with
  | add search adds =>
    have smallest := ((adds.ok_iff refillingRule).1 rfl).1
    refine ⟨far, by decide +kernel, ?_, behind, smallest, ?_⟩
    · rw [callCustom_add, rule, if_pos read]
    · refine (search.search_iff 2 5).2 ?_
      rw [search.least.unique smallest]
      exact ⟨rfl, rfl⟩

end Manager

end ContentFilter
