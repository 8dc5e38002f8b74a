import ContentFilter.Proofs.Sync.Rediff

/-!
# The calls of a run

A run makes its calls one after the other until one is refused.  What each call preserves holds behind
every call, and what is left to do behind a call is what a new run would do.
-/

namespace ContentFilter

namespace Sync

section Log

variable {β : Type} [RuleBackend β]

/-- A call that was made: what it asked for, its answer, and the backend behind it. -/
structure Call (β : Type) where
  batch : SyncBatch
  answer : Except BackendError Unit
  behind : β

/-- The calls that are made until one is refused. -/
def sent (backend : β) : List SyncBatch → List (Call β)
  | [] => []
  | batch :: rest =>
    match RuleBackend.update backend batch with
    | (backend, .ok ()) => ⟨batch, .ok (), backend⟩ :: sent backend rest
    | (backend, .error cause) => [⟨batch, .error cause, backend⟩]

/-- The calls that a run of synchronization makes. -/
def log (backend : β) (target : List CompiledRule) : List (Call β) :=
  match plan backend target with
  | .ok plan => sent backend (calls backend plan)
  | .error _ => []

section Step

variable {backend behind : β} {batch : SyncBatch}

theorem send_of_ok (taken : RuleBackend.update backend batch = (behind, .ok ()))
    (report : SyncReport) (rest : List SyncBatch) :
    send backend report (batch :: rest) = send behind (report.count batch) rest := by
  rw [send, taken]

theorem send_of_error {cause : BackendError}
    (refused : RuleBackend.update backend batch = (behind, .error cause)) (report : SyncReport)
    (rest : List SyncBatch) :
    send backend report (batch :: rest) =
      (behind, .error (.syncFailed cause report.removed report.added)) := by
  rw [send, refused]

theorem sent_of_ok (taken : RuleBackend.update backend batch = (behind, .ok ()))
    (rest : List SyncBatch) :
    sent backend (batch :: rest) = ⟨batch, .ok (), behind⟩ :: sent behind rest := by
  rw [sent, taken]

theorem sent_of_error {cause : BackendError}
    (refused : RuleBackend.update backend batch = (behind, .error cause)) (rest : List SyncBatch) :
    sent backend (batch :: rest) = [⟨batch, .error cause, behind⟩] := by
  rw [sent, refused]

end Step

/-- The calls succeed if every call that was made was carried out. -/
theorem exists_send_eq_ok_iff (backend : β) (report : SyncReport) (batches : List SyncBatch) :
    (∃ last, (send backend report batches).2 = .ok last) ↔
      ∀ call ∈ sent backend batches, call.answer = .ok () := by
  induction batches generalizing backend report with
  | nil => simp [send, sent]
  | cons batch rest ih =>
    rcases update : RuleBackend.update backend batch with ⟨behind, cause | ⟨⟨⟩⟩⟩
    · rw [send_of_error update, sent_of_error update]
      simp
    · rw [send_of_ok update, sent_of_ok update, ih, List.forall_mem_cons]
      exact (and_iff_right rfl).symm

/-- Calls fail as a synchronization that was cut, and in no other way. -/
theorem send_eq_error {backend after : β} {report : SyncReport} {batches : List SyncBatch}
    {failure : RuleSetError} (h : send backend report batches = (after, .error failure)) :
    ∃ cause removed added, failure = .syncFailed cause removed added := by
  induction batches generalizing backend report with
  | nil => cases h
  | cons batch rest ih =>
    rcases update : RuleBackend.update backend batch with ⟨behind, cause | ⟨⟨⟩⟩⟩
    · rw [send_of_error update] at h
      cases h
      exact ⟨cause, report.removed, report.added, rfl⟩
    · rw [send_of_ok update] at h
      exact ih h

/-- Where every call is carried out, the calls that are made are all of them. -/
theorem map_batch_sent {backend : β} {batches : List SyncBatch}
    (taken : ∀ call ∈ sent backend batches, call.answer = .ok ()) :
    (sent backend batches).map (·.batch) = batches := by
  induction batches generalizing backend with
  | nil => rfl
  | cons batch rest ih =>
    rcases update : RuleBackend.update backend batch with ⟨behind, cause | ⟨⟨⟩⟩⟩
    · rw [sent_of_error update] at taken
      cases taken _ List.mem_cons_self
    · rw [sent_of_ok update] at taken ⊢
      rw [List.map_cons, ih fun call member => taken call (List.mem_cons_of_mem _ member)]

end Log

/-- The calls that lead a backend held in memory to a target. -/
def due (backend : MemoryBackend) (target : List CompiledRule) : List SyncBatch :=
  (SyncPlan.diff target backend.table.rules).batches backend.limits.maxBatch

section Fits

variable {backend : MemoryBackend} {target : List CompiledRule}
  (fits : target.length ≤ backend.limits.maxRules)
include fits

theorem plan_of_fits : plan backend target = .ok (.diff target backend.table.rules) := by
  unfold plan
  exact if_neg (Nat.not_lt.2 fits)

theorem synchronize_of_fits :
    synchronize backend target =
      send backend ⟨0, 0, (SyncPlan.diff target backend.table.rules).unchanged, 0⟩
        (due backend target) := by
  unfold synchronize
  rw [plan_of_fits fits]
  rfl

theorem log_of_fits : log backend target = sent backend (due backend target) := by
  unfold log
  rw [plan_of_fits fits]
  rfl

end Fits

/-- A target that does not fit is refused before any call. -/
theorem synchronize_of_not_fits {backend : MemoryBackend} {target : List CompiledRule}
    (large : backend.limits.maxRules < target.length) :
    synchronize backend target =
      (backend, .error (.backendCapacity target.length backend.limits.maxRules)) := by
  have refused : plan backend target =
      .error (.backendCapacity target.length backend.limits.maxRules) := if_pos large
  unfold synchronize
  rw [refused]

/-! ## What is due along a run -/

/-- A run that has reached its target: no call is due, and no failure was injected into any of its
calls. -/
structure Finished (start : MemoryBackend) (target : List CompiledRule) (after : MemoryBackend) :
    Prop where
  done : due after target = []
  limits : after.limits = start.limits
  failOnCall : after.failOnCall = start.failOnCall
  calls : after.calls = start.calls + (due start target).length
  spared : ∀ number, start.calls < number → number ≤ after.calls → start.failOnCall ≠ some number

/-- A run that was cut at a call: `before` is the backend in front of the call, which was due and was
refused. -/
structure Cut (start : MemoryBackend) (target : List CompiledRule) (before : MemoryBackend)
    (cause : BackendError) : Prop where
  refused : ∃ batch rest, due before target = batch :: rest ∧
    before.counted.refusal? batch = some cause
  limits : before.limits = start.limits
  failOnCall : before.failOnCall = start.failOnCall
  first : start.calls ≤ before.calls
  last : before.calls < start.calls + (due start target).length

section Run

variable {target : List CompiledRule} (distinct : (target.map (·.id)).Nodup) {maxBatch : Nat}
include distinct

/-- A run finishes or is cut, and what every call of it preserves holds at its end, of the rules and of
what was counted up to there. -/
theorem send_cases {P : RuleTable → SyncReport → Prop}
    (step : ∀ table report batch rest, P table report →
      (SyncPlan.diff target table.rules).batches maxBatch = batch :: rest →
        P (table.apply batch) (report.count batch))
    {backend : MemoryBackend} (width : backend.limits.maxBatch = maxBatch) (report : SyncReport)
    (start : P backend.table report) :
    (∃ after last, send backend report (due backend target) = (after, .ok last) ∧
      P after.table last ∧ Finished backend target after) ∨
    (∃ before cause last, send backend report (due backend target) =
        (before.counted, .error (.syncFailed cause last.removed last.added)) ∧
      P before.table last ∧ Cut backend target before cause) := by
  generalize planned : due backend target = batches
  induction batches generalizing backend report with
  | nil =>
    refine .inl ⟨backend, report, rfl, start, planned, rfl, rfl, ?_, ?_⟩
    · rw [planned]
      rfl
    · intro number above below
      omega
  | cons batch rest ih =>
    rcases backend.update_cases batch with ⟨taken, update⟩ | ⟨cause, refused, update⟩
    · -- the call is carried out, and what was due after it is due
      generalize next : ({ backend.counted with table := backend.table.apply batch } :
        MemoryBackend) = behind at update
      have planned' : due behind target = rest := by
        rw [← next]
        exact SyncPlan.batches_diff_apply distinct planned
      have limits : behind.limits = backend.limits := by
        rw [← next]
        rfl
      have fails : behind.failOnCall = backend.failOnCall := by
        rw [← next]
        rfl
      have calls : behind.calls = backend.calls + 1 := by
        rw [← next]
        rfl
      have kept : P behind.table (report.count batch) := by
        rw [← next]
        subst width
        exact step _ _ _ _ start planned
      have spared : backend.failOnCall ≠ some (backend.calls + 1) :=
        (MemoryBackend.refusal?_eq_none_iff.1 taken).1
      rw [send_of_ok update]
      have count : (due backend target).length = rest.length + 1 := by
        rw [planned]
        rfl
      rcases ih (limits ▸ width) _ kept planned' with
        ⟨after, last, ran, holds, finished⟩ | ⟨before, cause, last, ran, holds, cut⟩
      · refine .inl ⟨after, last, ran, holds, finished.done, finished.limits.trans limits,
          finished.failOnCall.trans fails, ?_, ?_⟩
        · rw [finished.calls, calls, planned', count]
          omega
        · intro number above below
          by_cases here : number = backend.calls + 1
          · rw [here]
            exact spared
          · rw [← fails]
            exact finished.spared number (by omega) below
      · refine .inr ⟨before, cause, last, ran, holds, cut.refused, cut.limits.trans limits,
          cut.failOnCall.trans fails, ?_, ?_⟩
        · have := cut.first
          omega
        · have := cut.last
          rw [planned'] at this
          omega
    · rw [send_of_error update]
      refine .inr ⟨backend, cause, report, rfl, start, ⟨batch, rest, planned, refused⟩, rfl, rfl,
        Nat.le_refl _, ?_⟩
      rw [planned, List.length_cons]
      omega

/-- A run that succeeds leaves the target installed, whatever the limits of the backend are. -/
theorem rules_of_synchronize_eq_ok {backend after : MemoryBackend} {report : SyncReport}
    (h : synchronize backend target = (after, .ok report)) :
    after.table.rules = sortById target := by
  by_cases fits : target.length ≤ backend.limits.maxRules
  · rw [synchronize_of_fits fits] at h
    have step : ∀ (table : RuleTable) (report : SyncReport) batch rest, True →
        (SyncPlan.diff target table.rules).batches backend.limits.maxBatch = batch :: rest → True :=
      fun _ _ _ _ _ _ => trivial
    rcases send_cases distinct step rfl _ trivial with
      ⟨reached, last, ran, -, finished⟩ | ⟨before, cause, last, ran, -, -⟩
    · rw [h] at ran
      cases ran
      exact SyncPlan.rules_eq_of_batches_eq_nil distinct finished.done
    · rw [h] at ran
      cases ran
  · rw [synchronize_of_not_fits (Nat.lt_of_not_le fits)] at h
    cases h

omit distinct in
/-- A run that fails was cut, or has left the backend alone. -/
theorem synchronize_eq_error {backend after : MemoryBackend} {failure : RuleSetError}
    (h : synchronize backend target = (after, .error failure)) :
    (∃ cause removed added, failure = .syncFailed cause removed added) ∨ after = backend := by
  by_cases fits : target.length ≤ backend.limits.maxRules
  · rw [synchronize_of_fits fits] at h
    exact .inl (send_eq_error h)
  · rw [synchronize_of_not_fits (Nat.lt_of_not_le fits)] at h
    cases h
    exact .inr rfl

/-- What every call of a run preserves holds behind each of them. -/
theorem forall_sent {P : RuleTable → Prop}
    (step : ∀ table batch rest, P table →
      (SyncPlan.diff target table.rules).batches maxBatch = batch :: rest → P (table.apply batch))
    {backend : MemoryBackend} (width : backend.limits.maxBatch = maxBatch)
    (start : P backend.table) : ∀ call ∈ sent backend (due backend target), P call.behind.table := by
  generalize planned : due backend target = batches
  induction batches generalizing backend with
  | nil =>
    intro call member
    cases member
  | cons batch rest ih =>
    rcases backend.update_cases batch with ⟨-, update⟩ | ⟨cause, -, update⟩
    · rw [sent_of_ok update, List.forall_mem_cons]
      have kept : P (backend.table.apply batch) := by
        subst width
        exact step _ _ _ start planned
      refine ⟨kept, ih ?_ ?_ ?_⟩
      · exact width
      · exact kept
      · exact SyncPlan.batches_diff_apply distinct planned
    · rw [sent_of_error update]
      intro call member
      rw [List.mem_singleton] at member
      rw [member]
      exact start

end Run

end Sync

end ContentFilter
