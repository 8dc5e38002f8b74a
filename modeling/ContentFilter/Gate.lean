/-!
# The recompilation gate

A gate lets one run of a job pass at a time.  Triggers that arrive during a run are noted, and however
many there are, they make the caller of that run repeat it once.  So every trigger that is noted is
followed by a whole run that began after it, with two exceptions: the run during which it arrives breaks
off, and what was noted is forgotten, or the repetition breaks off in turn.
-/

namespace ContentFilter

/-- The state of a gate. -/
inductive Gate where
  | idle
  | running
  /-- A run is under way and is to be repeated. -/
  | pending
deriving DecidableEq, Repr

namespace Gate

/-- What becomes of a trigger. -/
inductive Trigger where
  | started
  /-- A run is under way, and is to be repeated. -/
  | coalesced
deriving DecidableEq, Repr

/-- What follows a run that has ended. -/
inductive Ending where
  | done
  | again
deriving DecidableEq, Repr

/-- Whether a run is under way. -/
def isRunning (gate : Gate) : Bool := gate != .idle

/-- A trigger: it starts a run if none is under way. -/
def trigger : Gate → Trigger × Gate
  | .idle => (.started, .running)
  | .running | .pending => (.coalesced, .pending)

/-- The end of a run. -/
def finish : Gate → Ending × Gate
  | .pending => (.again, .running)
  | .idle | .running => (.done, .idle)

/-- The gate behind a run that broke off; what was noted is forgotten. -/
def reset (_ : Gate) : Gate := .idle

/-! ## Jobs that trigger their own gate -/

/-- A job by its runs, which are counted over all triggers. -/
structure Job where
  /-- How often every run triggers the gate from inside; runs beyond the list do not. -/
  inner : List Nat
  /-- The run that breaks off, after it has triggered the gate. -/
  abortsAt : Option Nat
deriving DecidableEq, Repr

/-- What became of a trigger from inside a run. -/
structure InnerTrigger where
  run : Nat
  trigger : Trigger
  /-- Whether a run was under way afterwards. -/
  running : Bool
deriving DecidableEq, Repr

/-- How a trigger from outside ended. -/
inductive Outcome where
  /-- The job has run; its last run had this number. -/
  | ran (run : Nat)
  | coalesced
  | aborted
deriving DecidableEq, Repr

/-- What a trigger from outside has brought about. -/
structure Passage where
  outcome : Outcome
  /-- How many runs there were in all. -/
  runs : Nat
  gate : Gate
  inner : List InnerTrigger
deriving DecidableEq, Repr

/-- The triggers from inside a run, one after another. -/
def triggerInside (run : Nat) : Nat → Gate → List InnerTrigger × Gate
  | 0, gate => ([], gate)
  | count + 1, gate =>
    let (trigger, gate) := gate.trigger
    let (later, gate') := triggerInside run count gate
    (⟨run, trigger, gate.isRunning⟩ :: later, gate')

/-- The runs that begin with `run`; `inner` tells how often it and the following ones trigger the gate
from inside. -/
def pass (abortsAt : Option Nat) (run : Nat) (inner : List Nat) : Passage :=
  let (triggers, gate) := triggerInside run (inner.headD 0) .running
  if abortsAt == some run then ⟨.aborted, run + 1, gate.reset, triggers⟩
  else
    match gate.finish, inner with
    | (.again, _), _ :: rest =>
      let passage := pass abortsAt (run + 1) rest
      { passage with inner := triggers ++ passage.inner }
    | (_, gate), _ => ⟨.ran run, run + 1, gate, triggers⟩

/-- A trigger from outside, when there were `runs` runs before. -/
def triggerJob (job : Job) (gate : Gate) (runs : Nat) : Passage :=
  match gate.trigger with
  | (.started, _) => pass job.abortsAt runs (job.inner.drop runs)
  | (.coalesced, gate) => ⟨.coalesced, runs, gate, []⟩

/-- Triggers from outside, one after another. -/
def triggerTimes (job : Job) : Nat → Gate → Nat → List Passage
  | 0, _, _ => []
  | count + 1, gate, runs =>
    let passage := triggerJob job gate runs
    passage :: triggerTimes job count passage.gate passage.runs

end Gate

end ContentFilter
