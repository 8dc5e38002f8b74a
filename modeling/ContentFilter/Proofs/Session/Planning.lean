import ContentFilter.Proofs.Backend.Refusal
import ContentFilter.Proofs.DeclarativeRule.Records
import ContentFilter.Proofs.Sync.Rediff
import ContentFilter.Session

/-!
# Plans for declarative records

A session compares records as the compiled rules that they stand for.  The conversion loses what this
library does not know, so an installed record need not be the one that was asked for.  But the records
that a plan installs are rendered from compiled rules, and stand for the same rules again; so the calls
of one plan are enough, and the next plan is empty.

The calls are followed on the installed records and on a table of compiled rules side by side.  The
table is the one whose plan the remaining calls are.
-/

namespace ContentFilter

/-- A session plans with the records that it reads from two texts. -/
theorem Session.plan_of_run (session : Session) {targetText installedText : String}
    {target installed : List DeclarativeRule}
    (targetRead : (Decoder.list DeclarativeRule.decoder).run targetText = .ok target)
    (installedRead : (Decoder.list DeclarativeRule.decoder).run installedText = .ok installed)
    (maxBatch : Option Nat) :
    session.plan targetText installedText maxBatch =
      .ok (planDeclarative target installed
        (maxBatch.getD BackendLimits.standard.maxBatch) session.idSpace) := by
  unfold plan
  dsimp only
  rw [targetRead, installedRead]
  rfl

/-- Installed rules are compared by the table that they make up. -/
theorem SyncPlan.diff_ofRules (target installed : List CompiledRule) :
    diff target (RuleTable.ofRules installed).rules = diff target installed := by
  unfold diff
  rw [RuleTable.ofRules_rules]

/-! ## Calls on records -/

namespace DeclarativeBatch

/-- How many operations a call has. -/
def size (batch : DeclarativeBatch) : Nat := batch.additions.length + batch.removals.length

/-- The records that a call does not remove. -/
def kept (batch : DeclarativeBatch) (records : List DeclarativeRule) : List DeclarativeRule :=
  records.filter fun record => !batch.removals.contains record.id

/-- The records behind a call, which removes first and adds afterwards. -/
def apply (batch : DeclarativeBatch) (records : List DeclarativeRule) : List DeclarativeRule :=
  batch.kept records ++ batch.additions

/-- Whether no record is added under an id that is present: the added records have different ids, none
of which is left when the call has removed records. -/
def Admitted (batch : DeclarativeBatch) (records : List DeclarativeRule) : Prop :=
  (batch.additions.map (·.id)).Nodup ∧
    ∀ record ∈ batch.additions, record.id ∉ (batch.kept records).map (·.id)

/-- The records behind several calls. -/
def applyAll (batches : List DeclarativeBatch) (records : List DeclarativeRule) :
    List DeclarativeRule :=
  batches.foldl (fun records batch => batch.apply records) records

theorem mem_kept {batch : DeclarativeBatch} {records : List DeclarativeRule}
    {record : DeclarativeRule} :
    record ∈ batch.kept records ↔ record ∈ records ∧ record.id ∉ batch.removals := by
  simp [kept]

end DeclarativeBatch

/-! ## Records and rules side by side -/

/-- Records with different ids whose numbers fit their words, and a table of the rules that they stand
for. -/
structure Mirrors (space : IdSpace) (records : List DeclarativeRule) (table : RuleTable) : Prop where
  distinct : (records.map (·.id)).Nodup
  fits : ∀ record ∈ records, record.Fits
  members : ∀ rule, rule ∈ table.rules ↔ ∃ record ∈ records, record.toCompiled space = rule

namespace Mirrors

variable {space : IdSpace} {records target : List DeclarativeRule} {table : RuleTable}

/-- The rules of records have the ids of the records. -/
theorem map_id_toCompiled (records : List DeclarativeRule) (space : IdSpace) :
    (records.map (·.toCompiled space)).map (·.id) = records.map (·.id) := by
  rw [List.map_map]
  rfl

theorem nodup_ids_toCompiled (distinct : (records.map (·.id)).Nodup) (space : IdSpace) :
    ((records.map (·.toCompiled space)).map (·.id)).Nodup := by
  rw [map_id_toCompiled]
  exact distinct

/-- Records make up the table of their rules. -/
theorem ofRules (distinct : (records.map (·.id)).Nodup) (fits : ∀ record ∈ records, record.Fits)
    (space : IdSpace) :
    Mirrors space records (.ofRules (records.map (·.toCompiled space))) := by
  refine ⟨distinct, fits, fun rule => ?_⟩
  rw [RuleTable.mem_ofRules_iff (nodup_ids_toCompiled distinct space), List.mem_map]

theorem mem_ids_iff (mirrors : Mirrors space records table) {id : Nat} :
    id ∈ records.map (·.id) ↔ ∃ rule ∈ table.rules, rule.id = id := by
  rw [List.mem_map]
  constructor
  · rintro ⟨record, member, rfl⟩
    exact ⟨record.toCompiled space, (mirrors.members _).2 ⟨record, member, rfl⟩, rfl⟩
  · rintro ⟨rule, member, rfl⟩
    obtain ⟨record, among, rfl⟩ := (mirrors.members rule).1 member
    exact ⟨record, among, rfl⟩

section Target

variable (distinctTarget : (target.map (·.id)).Nodup)
  (fitsTarget : ∀ record ∈ target, record.Fits) (mirrors : Mirrors space records table)
  {maxBatch : Nat}
include distinctTarget fitsTarget mirrors

omit fitsTarget in
/-- A call that is due adds no record under an id that is present. -/
theorem admitted {batch : SyncBatch} {rest : List SyncBatch}
    (next : (SyncPlan.diff (target.map (·.toCompiled space)) table.rules).batches maxBatch =
      batch :: rest) : (DeclarativeBatch.ofSyncBatch batch).Admitted records := by
  have distinct := nodup_ids_toCompiled distinctTarget space
  have admits := SyncPlan.admits_of_batches distinct next
  constructor
  · have ids : (batch.additions.map (·.toDeclarative)).map (·.id) = batch.additions.map (·.id) := by
      rw [List.map_map]
      rfl
    show ((batch.additions.map (·.toDeclarative)).map (·.id)).Nodup
    rw [ids]
    exact admits.1
  · intro record added present
    obtain ⟨rule, among, rfl⟩ := List.mem_map.1 added
    obtain ⟨other, left, same⟩ := List.mem_map.1 present
    obtain ⟨installed, kept⟩ := DeclarativeBatch.mem_kept.1 left
    -- the table has lost the id as well
    have still : other.toCompiled space ∈ (table.erase batch.removals).rules :=
      RuleTable.mem_erase_iff.2 ⟨(mirrors.members _).2 ⟨other, installed, rfl⟩, kept⟩
    have free := admits.2 rule among
    rw [RuleTable.mem_rules_iff] at still
    have id : (other.toCompiled space).id = rule.id := same
    rw [id, free] at still
    cases still

/-- A call that is due has the same effect on records and on the table of their rules. -/
theorem apply {batch : SyncBatch} {rest : List SyncBatch}
    (next : (SyncPlan.diff (target.map (·.toCompiled space)) table.rules).batches maxBatch =
      batch :: rest) :
    Mirrors space ((DeclarativeBatch.ofSyncBatch batch).apply records) (table.apply batch) := by
  have distinct := nodup_ids_toCompiled distinctTarget space
  obtain ⟨different, free⟩ := mirrors.admitted distinctTarget next
  have wanted : ∀ rule ∈ batch.additions, ∃ record ∈ target, record.toCompiled space = rule :=
    fun rule added => List.mem_map.1 (SyncPlan.mem_target_of_batches next added).1
  constructor
  case distinct =>
    rw [DeclarativeBatch.apply, List.map_append, List.nodup_append]
    refine ⟨mirrors.distinct.sublist (List.filter_sublist.map _), different, ?_⟩
    intro id left other added same
    obtain ⟨record, among, rfl⟩ := List.mem_map.1 added
    exact free record among (same ▸ left)
  case fits =>
    intro record member
    rcases List.mem_append.1 member with left | added
    · exact mirrors.fits record (DeclarativeBatch.mem_kept.1 left).1
    · obtain ⟨rule, among, rfl⟩ := List.mem_map.1 added
      obtain ⟨origin, targeted, rfl⟩ := wanted rule among
      exact ⟨(fitsTarget origin targeted).id, (fitsTarget origin targeted).priority⟩
  case members =>
    intro rule
    rw [RuleTable.mem_apply_iff (SyncPlan.admits_of_batches distinct next), mirrors.members]
    constructor
    · rintro (added | ⟨⟨record, member, rfl⟩, kept⟩)
      · refine ⟨rule.toDeclarative, List.mem_append_right _ (List.mem_map_of_mem added), ?_⟩
        obtain ⟨origin, -, rfl⟩ := wanted rule added
        exact origin.toCompiled_rendered space
      · refine ⟨record, List.mem_append_left _ ?_, rfl⟩
        exact DeclarativeBatch.mem_kept.2 ⟨member, kept⟩
    · rintro ⟨record, member, rfl⟩
      rcases List.mem_append.1 member with left | added
      · obtain ⟨installed, kept⟩ := DeclarativeBatch.mem_kept.1 left
        exact .inr ⟨⟨record, installed, rfl⟩, kept⟩
      · obtain ⟨rule, among, rfl⟩ := List.mem_map.1 added
        obtain ⟨origin, -, rfl⟩ := wanted rule among
        rw [origin.toCompiled_rendered space]
        exact .inl among

/-- Behind the first calls of a plan the others are due, by induction on the calls that are made. -/
theorem applyAll {before rest : List SyncBatch}
    (planned : (SyncPlan.diff (target.map (·.toCompiled space)) table.rules).batches maxBatch =
      before ++ rest) :
    ∃ behind, Mirrors space
        (DeclarativeBatch.applyAll (before.map .ofSyncBatch) records) behind ∧
      (SyncPlan.diff (target.map (·.toCompiled space)) behind.rules).batches maxBatch = rest := by
  induction before generalizing records table with
  | nil => exact ⟨table, mirrors, planned⟩
  | cons batch before ih =>
    rw [List.cons_append] at planned
    exact ih (mirrors.apply distinctTarget fitsTarget planned)
      (SyncPlan.batches_diff_apply (nodup_ids_toCompiled distinctTarget space) planned)

end Target

end Mirrors

/-! ## The whole plan -/

/-- Calls that lead from installed records to the ids of a target, within a limit on their operations:
removals come first, no id is added while it is present, and no id is left that the target has not. -/
structure LeadsTo (maxBatch : Nat) (target installed : List DeclarativeRule)
    (batches : List DeclarativeBatch) : Prop where
  nonempty : ∀ batch ∈ batches, 0 < batch.size
  bounded : ∀ batch ∈ batches, batch.size ≤ max 1 maxBatch
  removalsFirst : batches.Pairwise fun earlier later =>
    earlier.additions ≠ [] → later.removals = []
  admitted : ∀ before batch after, batches = before ++ batch :: after →
    batch.Admitted (DeclarativeBatch.applyAll before installed)
  distinct : ((DeclarativeBatch.applyAll batches installed).map (·.id)).Nodup
  ids : ∀ id, id ∈ (DeclarativeBatch.applyAll batches installed).map (·.id) ↔
    id ∈ target.map (·.id)

/-- Records that stand for the same rules as a target have no plan. -/
theorem planDeclarative_of_mem_iff {target records : List DeclarativeRule} {space : IdSpace}
    (distinctTarget : (target.map (·.id)).Nodup) (distinct : (records.map (·.id)).Nodup)
    (same : ∀ rule, (∃ record ∈ records, record.toCompiled space = rule) ↔
      ∃ record ∈ target, record.toCompiled space = rule) (maxBatch : Nat) :
    planDeclarative target records maxBatch space = [] := by
  have ids := Mirrors.nodup_ids_toCompiled distinct space
  have plan := SyncPlan.diff_of_mem_iff
    (Mirrors.nodup_ids_toCompiled distinctTarget space)
    fun rule => by
      rw [RuleTable.mem_ofRules_iff ids, List.mem_map, List.mem_map]
      exact same rule
  rw [SyncPlan.diff_ofRules] at plan
  have none : (SyncPlan.diff (target.map (·.toCompiled space))
      (records.map (·.toCompiled space))).batches maxBatch = [] := by
    rw [SyncPlan.batches_eq_nil_iff, plan]
    rfl
  rw [planDeclarative, none, List.map_nil]

section Plan

variable {target installed : List DeclarativeRule}
  (distinctTarget : (target.map (·.id)).Nodup) (fitsTarget : ∀ record ∈ target, record.Fits)
  (distinctInstalled : (installed.map (·.id)).Nodup)
  (fitsInstalled : ∀ record ∈ installed, record.Fits)
include distinctTarget fitsTarget distinctInstalled fitsInstalled

/-- Behind all calls of a plan the records stand for the rules of the target. -/
theorem exists_mirrors_planDeclarative (maxBatch : Nat) (space : IdSpace) :
    ∃ behind, Mirrors space
        (DeclarativeBatch.applyAll (planDeclarative target installed maxBatch space) installed)
        behind ∧
      ∀ rule, rule ∈ behind.rules ↔ ∃ record ∈ target, record.toCompiled space = rule := by
  have start := Mirrors.ofRules distinctInstalled fitsInstalled space
  obtain ⟨behind, mirrors, done⟩ := start.applyAll distinctTarget fitsTarget
    (List.append_nil _).symm
  rw [SyncPlan.diff_ofRules] at mirrors
  refine ⟨behind, mirrors, fun rule => ?_⟩
  rw [SyncPlan.mem_iff_of_batches_eq_nil (Mirrors.nodup_ids_toCompiled distinctTarget space) done,
    List.mem_map]

theorem leadsTo_planDeclarative (maxBatch : Nat) (space : IdSpace) :
    LeadsTo maxBatch target installed (planDeclarative target installed maxBatch space) := by
  have size (batch : SyncBatch) :
      (DeclarativeBatch.ofSyncBatch batch).size = batch.size := by
    simp [DeclarativeBatch.size, DeclarativeBatch.ofSyncBatch, SyncBatch.size]
  obtain ⟨behind, mirrors, reached⟩ := exists_mirrors_planDeclarative distinctTarget fitsTarget
    distinctInstalled fitsInstalled maxBatch space
  constructor
  case nonempty =>
    intro batch member
    obtain ⟨call, among, rfl⟩ := List.mem_map.1 member
    rw [size]
    exact (SyncPlan.size_of_mem_batches among).1
  case bounded =>
    intro batch member
    obtain ⟨call, among, rfl⟩ := List.mem_map.1 member
    rw [size, Nat.max_comm]
    exact (SyncPlan.size_of_mem_batches among).2
  case removalsFirst =>
    apply List.pairwise_map.2
    refine (SyncPlan.pairwise_batches _ maxBatch).imp fun removesNone added => removesNone ?_
    intro none
    exact added (congrArg (List.map CompiledRule.toDeclarative) none)
  case admitted =>
    intro before batch after split
    obtain ⟨earlier, rest, whole, rfl, later⟩ := List.map_eq_append_iff.1 split
    obtain ⟨call, behindCall, rfl, rfl, -⟩ := List.map_eq_cons_iff.1 later
    rw [← SyncPlan.diff_ofRules] at whole
    obtain ⟨table, onTheWay, due⟩ :=
      (Mirrors.ofRules distinctInstalled fitsInstalled space).applyAll distinctTarget fitsTarget
        whole
    exact onTheWay.admitted distinctTarget due
  case distinct => exact mirrors.distinct
  case ids =>
    intro id
    rw [mirrors.mem_ids_iff, List.mem_map]
    constructor
    · rintro ⟨rule, member, rfl⟩
      obtain ⟨record, wanted, rfl⟩ := (reached rule).1 member
      exact ⟨record, wanted, rfl⟩
    · rintro ⟨record, wanted, rfl⟩
      exact ⟨record.toCompiled space, (reached _).2 ⟨record, wanted, rfl⟩, rfl⟩

/-- The records behind a plan, in whatever order they are listed, have no plan any more. -/
theorem planDeclarative_of_perm {maxBatch : Nat} {space : IdSpace} {records : List DeclarativeRule}
    (listed : records.Perm
      (DeclarativeBatch.applyAll (planDeclarative target installed maxBatch space) installed)) :
    planDeclarative target records maxBatch space = [] := by
  obtain ⟨behind, mirrors, reached⟩ := exists_mirrors_planDeclarative distinctTarget fitsTarget
    distinctInstalled fitsInstalled maxBatch space
  apply planDeclarative_of_mem_iff distinctTarget
  · exact (listed.map _).nodup_iff.2 mirrors.distinct
  · intro rule
    rw [← reached, mirrors.members]
    constructor
    · rintro ⟨record, member, same⟩
      exact ⟨record, listed.mem_iff.1 member, same⟩
    · rintro ⟨record, member, same⟩
      exact ⟨record, listed.mem_iff.2 member, same⟩

end Plan

/-- For any two texts that hold records with different ids there is a plan, whose calls lead from the
installed records to the ids of the target.  Behind the calls the records can be written and read again,
and however they are listed and spelled, the plan for them is empty. -/
theorem Session.plan_leadsTo (session : Session) {targetText installedText : String}
    {target installed : List DeclarativeRule}
    (targetRead : (Decoder.list DeclarativeRule.decoder).run targetText = .ok target)
    (installedRead : (Decoder.list DeclarativeRule.decoder).run installedText = .ok installed)
    (distinctTarget : (target.map (·.id)).Nodup) (distinctInstalled : (installed.map (·.id)).Nodup)
    (maxBatch : Option Nat) :
    ∃ batches, session.plan targetText installedText maxBatch = .ok batches ∧
      LeadsTo (maxBatch.getD BackendLimits.standard.maxBatch) target installed batches ∧
      ∀ records, records.Perm (DeclarativeBatch.applyAll batches installed) →
        (∀ text ∈ DeclarativeRule.texts records,
          (Decoder.list DeclarativeRule.decoder).run text = .ok records) ∧
        ∀ text, (Decoder.list DeclarativeRule.decoder).run text = .ok records →
          session.plan targetText text maxBatch = .ok [] := by
  have fitsTarget := DeclarativeRule.fits_of_run targetRead
  have fitsInstalled := DeclarativeRule.fits_of_run installedRead
  generalize limit : maxBatch.getD BackendLimits.standard.maxBatch = largest
  refine ⟨planDeclarative target installed largest session.idSpace, ?_, ?_, ?_⟩
  · rw [session.plan_of_run targetRead installedRead, limit]
  · exact leadsTo_planDeclarative distinctTarget fitsTarget distinctInstalled fitsInstalled _ _
  · intro records listed
    obtain ⟨behind, mirrors, -⟩ := exists_mirrors_planDeclarative distinctTarget fitsTarget
      distinctInstalled fitsInstalled largest session.idSpace
    constructor
    · intro text
      exact DeclarativeRule.run_of_mem_texts fun record member =>
        mirrors.fits record (listed.mem_iff.1 member)
    · intro text read
      rw [session.plan_of_run targetRead read, limit]
      rw [planDeclarative_of_perm distinctTarget fitsTarget distinctInstalled fitsInstalled listed]

/-- Records that ask for a type that has no name and leave conditions out. -/
def foreignTarget : List DeclarativeRule :=
  [⟨1000, 1, .block, ⟨some "a", some ["script", "warp"], none, none, none, none⟩⟩,
   ⟨7, 2, .allow, ⟨none, none, some [], none, some .third, some true⟩⟩]

/-- Records of which one stands for a rule of the target, one differs from it, and one is not wanted. -/
def foreignInstalled : List DeclarativeRule :=
  [⟨9, 1, .block, ⟨none, none, none, none, none, none⟩⟩,
   ⟨1000, 1, .block, ⟨some "a", some ["script"], none, none, none, some false⟩⟩,
   ⟨7, 2, .allow, ⟨some "b", none, none, none, none, none⟩⟩]

/-- The compact text of the target. -/
def foreignTargetText : String := (Json.list (foreignTarget.map DeclarativeRule.toJson)).compress

/-- The compact text of the installed records. -/
def foreignInstalledText : String :=
  (Json.list (foreignInstalled.map DeclarativeRule.toJson)).compress

/-- A limit of no operation counts as one. -/
theorem Session.plan_leadsTo_foreign :
    (Decoder.list DeclarativeRule.decoder).run foreignTargetText = .ok foreignTarget ∧
      (Decoder.list DeclarativeRule.decoder).run foreignInstalledText = .ok foreignInstalled ∧
      (foreignTarget.map (·.id)).Nodup ∧ (foreignInstalled.map (·.id)).Nodup ∧
      ∃ batches, start.plan foreignTargetText foreignInstalledText (some 0) = .ok batches ∧
        LeadsTo 0 foreignTarget foreignInstalled batches := by
  have target : (Decoder.list DeclarativeRule.decoder).run foreignTargetText =
      .ok foreignTarget :=
    DeclarativeRule.run_of_mem_texts (by decide) (List.mem_cons_of_mem _ List.mem_cons_self)
  have installed : (Decoder.list DeclarativeRule.decoder).run foreignInstalledText =
      .ok foreignInstalled :=
    DeclarativeRule.run_of_mem_texts (by decide) (List.mem_cons_of_mem _ List.mem_cons_self)
  have distinctTarget : (foreignTarget.map (·.id)).Nodup := by decide
  have distinctInstalled : (foreignInstalled.map (·.id)).Nodup := by decide
  obtain ⟨batches, planned, leads, -⟩ :=
    start.plan_leadsTo target installed distinctTarget distinctInstalled (some 0)
  exact ⟨target, installed, distinctTarget, distinctInstalled, batches, planned, leads⟩

end ContentFilter
