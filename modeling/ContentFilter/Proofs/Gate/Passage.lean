import ContentFilter.Gate

/-!
# What a gate lets through

A job may trigger its own gate from inside and may break off.  Here is said which runs a trigger from
outside brings about, and what becomes of the triggers from inside.  None of them starts a run.  Each of
them is followed by a whole run that began after it, unless its own run breaks off, which leaves no run
behind it, or the next run does, which is the last one then.
-/

namespace ContentFilter.Gate

/-! ## Triggers from inside -/

theorem trigger_of_ne_idle {gate : Gate} (busy : gate ≠ .idle) :
    gate.trigger = (.coalesced, .pending) := by
  cases gate with
  | idle => exact absurd rfl busy
  | running => rfl
  | pending => rfl

/-- During a run all triggers coalesce, and the gate notes that there were any. -/
theorem triggerInside_of_ne_idle (run count : Nat) {gate : Gate} (busy : gate ≠ .idle) :
    triggerInside run count gate =
      (List.replicate count ⟨run, .coalesced, true⟩, if count = 0 then gate else .pending) := by
  induction count generalizing gate with
  | zero => rfl
  | succ count ih =>
    have pending : Gate.pending ≠ .idle := by decide
    have noted : (if count = 0 then Gate.pending else .pending) = .pending := ite_self _
    rw [triggerInside, trigger_of_ne_idle busy]
    dsimp only
    rw [ih pending, noted, List.replicate_succ, if_neg (Nat.succ_ne_zero count)]
    rfl

/-! ## The runs of one trigger -/

namespace Job

/-- How often the job triggers the gate from inside a run. -/
def triggersIn (job : Job) (run : Nat) : Nat := job.inner.getD run 0

/-- Whether a run breaks off. -/
def Aborts (job : Job) (run : Nat) : Prop := job.abortsAt = some run

instance (job : Job) (run : Nat) : Decidable (job.Aborts run) :=
  inferInstanceAs (Decidable (job.abortsAt = some run))

/-- Whether a run is to be repeated: the gate was triggered from inside, and the run has not broken
off. -/
def Repeats (job : Job) (run : Nat) : Prop := 0 < job.triggersIn run ∧ ¬ job.Aborts run

/-- Whether a trigger from outside that starts the run `first` comes to another run: that or every one
before it is to be repeated. -/
def Reaches (job : Job) (first run : Nat) : Prop :=
  first ≤ run ∧ ∀ earlier, first ≤ earlier → earlier < run → job.Repeats earlier

/-- What is seen of the triggers from inside a run. -/
def coalescedIn (job : Job) (run : Nat) : List InnerTrigger :=
  List.replicate (job.triggersIn run) ⟨run, .coalesced, true⟩

theorem Reaches.refl (job : Job) (run : Nat) : job.Reaches run run := by
  refine ⟨Nat.le_refl run, fun earlier above below => ?_⟩
  omega

theorem Reaches.head {job : Job} {first run : Nat} (again : job.Repeats first)
    (reached : job.Reaches (first + 1) run) : job.Reaches first run := by
  refine ⟨Nat.le_of_succ_le reached.1, fun earlier above below => ?_⟩
  rcases Nat.eq_or_lt_of_le above with rfl | later
  · exact again
  · exact reached.2 earlier later below

theorem not_repeats_iff {job : Job} {run : Nat} :
    ¬ job.Repeats run ↔ job.triggersIn run = 0 ∨ job.Aborts run := by
  unfold Repeats Aborts
  by_cases aborts : job.abortsAt = some run
  · simp [aborts]
  · simp [aborts, Nat.pos_iff_ne_zero]

/-- The runs before the first one that is not to be repeated are all that are reached. -/
theorem reaches_iff_le {job : Job} {first last run : Nat} (reached : job.Reaches first last)
    (stops : ¬ job.Repeats last) : job.Reaches first run ↔ first ≤ run ∧ run ≤ last := by
  constructor
  · intro further
    refine ⟨further.1, Nat.le_of_not_lt fun beyond => ?_⟩
    exact stops (further.2 last reached.1 beyond)
  · rintro ⟨above, below⟩
    exact ⟨above, fun earlier from_ before => reached.2 earlier from_ (Nat.lt_of_lt_of_le before below)⟩

end Job

/-- A passage that ends with a run. -/
structure Passage.EndsWith (job : Job) (first last : Nat) (passage : Passage) : Prop where
  runs : passage.runs = last + 1
  reached : job.Reaches first last
  stops : ¬ job.Repeats last
  inner : passage.inner = (List.range' first (last + 1 - first)).flatMap job.coalescedIn
  aborted : job.Aborts last → passage.outcome = .aborted
  ran : ¬ job.Aborts last → passage.outcome = .ran last
  gate : passage.gate = .idle

/-- A run that is to be repeated stands in front of the others. -/
theorem Passage.EndsWith.cons {job : Job} {first last : Nat} {passage : Passage}
    (ends : passage.EndsWith job (first + 1) last) (again : job.Repeats first) :
    { passage with inner := job.coalescedIn first ++ passage.inner }.EndsWith job first last := by
  have later := ends.reached.1
  constructor
  case runs => exact ends.runs
  case reached => exact ends.reached.head again
  case stops => exact ends.stops
  case inner =>
    have count : last + 1 - first = last + 1 - (first + 1) + 1 := by omega
    show job.coalescedIn first ++ passage.inner = _
    rw [ends.inner, count, List.range'_succ, List.flatMap_cons]
  case aborted => exact ends.aborted
  case ran => exact ends.ran
  case gate => exact ends.gate

section Pass

variable {job : Job} {run : Nat}

/-- A run that is not to be repeated is the last one. -/
theorem pass_of_not_repeats {inner : List Nat} (count : inner.headD 0 = job.triggersIn run)
    (stops : ¬ job.Repeats run) : (pass job.abortsAt run inner).EndsWith job run run := by
  have busy : Gate.running ≠ .idle := by decide
  have single : (List.range' run (run + 1 - run)).flatMap job.coalescedIn = job.coalescedIn run := by
    rw [Nat.add_sub_cancel_left, List.range'_one, List.flatMap_singleton]
  unfold pass
  rw [triggerInside_of_ne_idle run _ busy, count]
  dsimp only
  by_cases aborts : job.abortsAt = some run
  · rw [aborts, beq_self_eq_true, if_pos rfl]
    exact ⟨rfl, .refl job run, stops, single.symm, fun _ => rfl, fun whole => absurd aborts whole, rfl⟩
  · have quiet : job.triggersIn run = 0 := (Job.not_repeats_iff.1 stops).resolve_right aborts
    rw [if_neg (by simpa using aborts), if_pos quiet]
    exact ⟨rfl, .refl job run, stops, single.symm, fun broken => absurd broken aborts, fun _ => rfl, rfl⟩

/-- A run that is to be repeated is followed by the next one. -/
theorem pass_of_repeats {count : Nat} {rest : List Nat} (own : count = job.triggersIn run)
    (again : job.Repeats run) :
    pass job.abortsAt run (count :: rest) =
      { pass job.abortsAt (run + 1) rest with
        inner := job.coalescedIn run ++ (pass job.abortsAt (run + 1) rest).inner } := by
  have busy : Gate.running ≠ .idle := by decide
  have whole : (job.abortsAt == some run) = false := beq_eq_false_iff_ne.2 again.2
  have triggered : job.triggersIn run ≠ 0 := Nat.pos_iff_ne_zero.1 again.1
  rw [pass, List.headD_cons, triggerInside_of_ne_idle run _ busy, own, whole, if_neg triggered]
  rfl

/-- The runs that begin with `run` end with the first one that is not to be repeated; `inner` holds the
counts of triggers from that run on. -/
theorem pass_endsWith (inner : List Nat) (left : ∀ k, inner.getD k 0 = job.triggersIn (run + k)) :
    ∃ last, (pass job.abortsAt run inner).EndsWith job run last := by
  induction inner generalizing run with
  | nil =>
    have quiet : 0 = job.triggersIn run := left 0
    exact ⟨run, pass_of_not_repeats quiet (Job.not_repeats_iff.2 (.inl quiet.symm))⟩
  | cons count rest ih =>
    have own : count = job.triggersIn run := left 0
    by_cases again : job.Repeats run
    · have later : ∀ k, rest.getD k 0 = job.triggersIn (run + 1 + k) := by
        intro k
        rw [Nat.add_assoc, Nat.add_comm 1 k]
        exact left (k + 1)
      obtain ⟨last, ends⟩ := ih later
      rw [pass_of_repeats own again]
      exact ⟨last, ends.cons again⟩
    · exact ⟨run, pass_of_not_repeats own again⟩

end Pass

/-! ## Triggers from outside -/

/-- Whether a trigger from inside is followed by a whole run: one that began after the run from which it
came, and did not break off. -/
def Passage.Answers (job : Job) (passage : Passage) (trigger : InnerTrigger) : Prop :=
  ∃ run, trigger.run < run ∧ run < passage.runs ∧ ¬ job.Aborts run

/-- What a trigger from outside has brought about, when the next run of the job was the one numbered
`first`. -/
structure Passage.Serves (job : Job) (first : Nat) (passage : Passage) : Prop where
  /-- It starts a run. -/
  starts : first < passage.runs
  /-- A run is followed by another one just if the gate was triggered from inside and the run did not
  break off. -/
  followed_iff : ∀ run, first ≤ run → run < passage.runs →
    (run + 1 < passage.runs ↔ 0 < job.triggersIn run ∧ ¬ job.Aborts run)
  /-- The triggers from inside are those of these runs, and all of them coalesce. -/
  inner : passage.inner = (List.range' first (passage.runs - first)).flatMap job.coalescedIn
  /-- A trigger from inside is followed by a run that began after its own, unless its own run breaks
  off. -/
  repeated_iff : ∀ trigger ∈ passage.inner,
    (trigger.run + 1 < passage.runs ↔ ¬ job.Aborts trigger.run)
  /-- It is followed by a whole run, unless its own run breaks off or the next one does. -/
  answers_iff : ∀ trigger ∈ passage.inner,
    (passage.Answers job trigger ↔ ¬ job.Aborts trigger.run ∧ ¬ job.Aborts (trigger.run + 1))
  /-- It returns the value of the last run, which is the first one without triggers from inside. -/
  ran_iff : ∀ run, passage.outcome = .ran run ↔
    job.Reaches first run ∧ job.triggersIn run = 0 ∧ ¬ job.Aborts run
  /-- It is left by a run that breaks off, and in no other case. -/
  aborted_iff : passage.outcome = .aborted ↔ ∃ run, job.Reaches first run ∧ job.Aborts run
  /-- Afterwards no run is under way or noted. -/
  gate : passage.gate = .idle

namespace Passage.EndsWith

variable {job : Job} {first last : Nat} {passage : Passage}

/-- The run that is reached and is not to be repeated is the last one. -/
theorem eq_last (ends : passage.EndsWith job first last) {run : Nat} (reached : job.Reaches first run)
    (stops : ¬ job.Repeats run) : run = last := by
  have low := ((Job.reaches_iff_le ends.reached ends.stops).1 reached).2
  have high := ((Job.reaches_iff_le reached stops).1 ends.reached).2
  omega

theorem followed_iff (ends : passage.EndsWith job first last) {run : Nat} (above : first ≤ run)
    (below : run < passage.runs) : run + 1 < passage.runs ↔ job.Repeats run := by
  have runs := ends.runs
  constructor
  · intro further
    exact ends.reached.2 run above (by omega)
  · intro again
    have other : run ≠ last := by
      rintro rfl
      exact ends.stops again
    omega

/-- The triggers from inside are those of the runs. -/
theorem mem_inner (ends : passage.EndsWith job first last) {trigger : InnerTrigger}
    (member : trigger ∈ passage.inner) :
    first ≤ trigger.run ∧ trigger.run < passage.runs ∧ 0 < job.triggersIn trigger.run := by
  rw [ends.inner] at member
  obtain ⟨run, among, here⟩ := List.mem_flatMap.1 member
  obtain ⟨some, rfl⟩ := List.mem_replicate.1 here
  obtain ⟨above, below⟩ := List.mem_range'_1.1 among
  have made : run < last + 1 := by omega
  exact ⟨above, ends.runs ▸ made, Nat.pos_iff_ne_zero.2 some⟩

/-- A run that was triggered from inside is repeated unless it breaks off. -/
theorem repeated_iff (ends : passage.EndsWith job first last) {trigger : InnerTrigger}
    (member : trigger ∈ passage.inner) :
    trigger.run + 1 < passage.runs ↔ ¬ job.Aborts trigger.run := by
  obtain ⟨above, below, triggered⟩ := ends.mem_inner member
  rw [ends.followed_iff above below]
  exact and_iff_right triggered

theorem answers_iff (ends : passage.EndsWith job first last) {trigger : InnerTrigger}
    (member : trigger ∈ passage.inner) :
    passage.Answers job trigger ↔
      ¬ job.Aborts trigger.run ∧ ¬ job.Aborts (trigger.run + 1) := by
  have above := (ends.mem_inner member).1
  constructor
  · rintro ⟨run, later, made, whole⟩
    have next : trigger.run + 1 < passage.runs := by omega
    refine ⟨(ends.repeated_iff member).1 next, fun broken => ?_⟩
    -- no run follows one that breaks off, so the whole run would be that one
    have stops : ¬ trigger.run + 1 + 1 < passage.runs := by
      rw [ends.followed_iff (by omega) next]
      exact fun again => again.2 broken
    have same : run = trigger.run + 1 := by omega
    exact whole (same ▸ broken)
  · rintro ⟨whole, wholeNext⟩
    exact ⟨trigger.run + 1, Nat.lt_succ_self _, (ends.repeated_iff member).2 whole, wholeNext⟩

theorem serves (ends : passage.EndsWith job first last) : passage.Serves job first := by
  have runs := ends.runs
  have from_ := ends.reached.1
  constructor
  case starts => omega
  case followed_iff => exact fun run => ends.followed_iff
  case inner =>
    rw [ends.inner, runs]
  case repeated_iff => exact fun trigger => ends.repeated_iff
  case answers_iff => exact fun trigger => ends.answers_iff
  case ran_iff =>
    intro run
    constructor
    · intro ran
      have whole : ¬ job.Aborts last := by
        intro broken
        rw [ends.aborted broken] at ran
        cases ran
      rw [ends.ran whole] at ran
      cases ran
      exact ⟨ends.reached, (Job.not_repeats_iff.1 ends.stops).resolve_right whole, whole⟩
    · rintro ⟨reached, quiet, whole⟩
      obtain rfl := ends.eq_last reached (Job.not_repeats_iff.2 (.inl quiet))
      exact ends.ran whole
  case aborted_iff =>
    constructor
    · intro aborted
      refine ⟨last, ends.reached, ?_⟩
      by_cases broken : job.Aborts last
      · exact broken
      · rw [ends.ran broken] at aborted
        cases aborted
    · rintro ⟨run, reached, broken⟩
      obtain rfl := ends.eq_last reached (Job.not_repeats_iff.2 (.inr broken))
      exact ends.aborted broken
  case gate => exact ends.gate

end Passage.EndsWith

/-- Passages of triggers from outside that follow one another, when `first` runs were made before.
Every trigger finds the gate as if it were new. -/
inductive Served (job : Job) : Nat → List Passage → Prop where
  | nil (first : Nat) : Served job first []
  | cons {first : Nat} {passage : Passage} {rest : List Passage}
    (fresh : passage = triggerJob job .idle first) (serves : passage.Serves job first)
    (later : Served job passage.runs rest) : Served job first (passage :: rest)

theorem triggerJob_serves (job : Job) (first : Nat) :
    (triggerJob job .idle first).Serves job first := by
  have left : ∀ k, (job.inner.drop first).getD k 0 = job.triggersIn (first + k) := by
    intro k
    rw [Job.triggersIn, List.getD_eq_getElem?_getD, List.getElem?_drop,
      List.getD_eq_getElem?_getD]
  obtain ⟨last, ends⟩ := pass_endsWith _ left
  exact ends.serves

theorem served_triggerTimes (job : Job) (count first : Nat) :
    Served job first (triggerTimes job count .idle first) := by
  induction count generalizing first with
  | zero => exact .nil first
  | succ count ih =>
    have serves := triggerJob_serves job first
    have later := ih (triggerJob job .idle first).runs
    rw [triggerTimes, serves.gate]
    exact .cons rfl serves later

/-- Every trigger from outside starts a run, which is repeated as long as it was triggered from inside
and did not break off; triggers from inside start none, and are followed by a whole run unless their own
run or the next one breaks off.  Afterwards the gate is as good as new, also when a run broke off. -/
theorem triggerTimes_served (job : Job) (count : Nat) :
    (triggerTimes job count .idle 0).length = count ∧
      Served job 0 (triggerTimes job count .idle 0) := by
  have length : ∀ gate first, (triggerTimes job count gate first).length = count := by
    induction count with
    | zero => exact fun _ _ => rfl
    | succ count ih =>
      intro gate first
      rw [triggerTimes, List.length_cons, ih]
  exact ⟨length .idle 0, served_triggerTimes job count 0⟩

/-- A trigger need not be followed by a whole run when its own run is one: the repetition breaks off, and
no other run is made. -/
theorem not_answers_abortedRepetition :
    triggerTimes ⟨[1], some 1⟩ 1 .idle 0 = [⟨.aborted, 2, .idle, [⟨0, .coalesced, true⟩]⟩] ∧
      ¬ Job.Aborts ⟨[1], some 1⟩ 0 ∧
      ¬ Passage.Answers ⟨[1], some 1⟩ ⟨.aborted, 2, .idle, [⟨0, .coalesced, true⟩]⟩
        ⟨0, .coalesced, true⟩ := by
  refine ⟨by decide, by decide, ?_⟩
  rintro ⟨run, later, made, whole⟩
  have last : run = 1 := Nat.le_antisymm (Nat.le_of_lt_succ made) later
  exact whole (congrArg some last.symm)

/-- The first run is repeated, and the second breaks off although it was triggered from inside.  The next
trigger starts a run as if the gate were new. -/
example : triggerTimes ⟨[1, 2], some 1⟩ 2 .idle 0 =
    [⟨.aborted, 2, .idle, [⟨0, .coalesced, true⟩, ⟨1, .coalesced, true⟩, ⟨1, .coalesced, true⟩]⟩,
      ⟨.ran 2, 3, .idle, []⟩] := by
  decide

end ContentFilter.Gate
