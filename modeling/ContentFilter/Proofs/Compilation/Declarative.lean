import ContentFilter.Proofs.CommandLine.Files
import ContentFilter.Proofs.Compilation.Numbering
import ContentFilter.Proofs.Config.Decoded
import ContentFilter.Proofs.CosmeticIndex.Scan
import ContentFilter.Proofs.DeclarativeRule.Records
import ContentFilter.Proofs.Filter.WellFormed
import ContentFilter.Proofs.Session.Planning

/-!
# Compiled rules survive their declarative form

A declarative record holds neither the category of a rule nor its mask of types.  Both come back: the
category because the id of a compiled rule lies in the band of its category and in no other one, the
mask because whatever the compiler reads names types that have names.  So the file of a compilation
decides requests as the compilation does, and planning its rules against themselves leaves nothing to
do.
-/

namespace ContentFilter

/-! ## Types of drafts -/

section Types

variable {config : CompilerConfig} (default : config.defaultTypes.Known)
include default

theorem RuleDraft.known_of_ofFilter? {category : Category} {tier : PriorityTier}
    {filter : NetworkFilter} {draft : RuleDraft}
    (drafted : ofFilter? config category tier filter = some draft) (known : filter.TypesKnown) :
    draft.resourceTypes.Known := by
  unfold ofFilter? at drafted
  dsimp only at drafted
  split at drafted
  · cases drafted
    cases named : filter.resourceTypes with
    | none => simpa [named] using default
    | some types => simpa [named] using known types named
  · cases drafted

/-- Filters that were read from texts name known types, so what is drafted from an input has no bit
without a name. -/
theorem CompileInput.known_of_mem_drafts {input : CompileInput}
    (read : ∀ cached ∈ input.lists, cached.IsRead) {draft : RuleDraft}
    (member : draft ∈ input.drafts config) : draft.resourceTypes.Known := by
  rcases mem_drafts.1 member with ⟨entry, -, drafted⟩ | ⟨entry, -, drafted⟩ | ⟨rule, -, drafted⟩ |
    ⟨sourced, kept, drafted⟩
  · unfold RuleDraft.ofWhitelist? at drafted
    obtain ⟨domain, -, rfl⟩ := Option.map_eq_some_iff.1 drafted
    exact ResourceTypes.known_all
  · unfold RuleDraft.ofBlacklist? at drafted
    obtain ⟨domain, -, rfl⟩ := Option.map_eq_some_iff.1 drafted
    exact default.union (ResourceTypes.known_only .mainFrame)
  · unfold RuleDraft.ofCustomRule? at drafted
    obtain ⟨filter, accepted, made⟩ := Option.bind_eq_some_iff.1 drafted
    exact RuleDraft.known_of_ofFilter? default made
      (CustomRule.wellFormed_of_toFilter? accepted).typesKnown
  · obtain ⟨⟨cached, index⟩, included, from_⟩ :=
      List.mem_flatMap.1 ((Optimizer.sublist_kept _).subset kept)
    obtain ⟨filter, among, rfl⟩ := List.mem_map.1 from_
    unfold SourcedFilter.draft? at drafted
    split at drafted
    · rename_i network kind
      obtain ⟨list, text, fetchedAt, same⟩ :=
        read cached (List.fst_mem_of_mem_zipIdx (List.mem_filter.1 included).1)
      rw [same] at among
      obtain rfl : filter = .network network := kind
      exact RuleDraft.known_of_ofFilter? default drafted
        (NetworkFilter.WellFormed.typesKnown (Filter.wellFormed_of_mem_ofText among))
    · cases drafted

end Types

/-! ## Records of compiled rules -/

namespace Compilation.IsOf

variable {input : CompileInput} {config : CompilerConfig} {compilation : Compilation}

theorem toCompiled_toDeclarative (h : compilation.IsOf input config) (formed : config.WellFormed)
    (read : ∀ cached ∈ input.lists, cached.IsRead) {rule : CompiledRule}
    (member : rule ∈ compilation.rules) :
    rule.toDeclarative.toCompiled config.idSpace = rule := by
  apply CompiledRule.toCompiled_toDeclarative
  · obtain ⟨draft, drafted, same⟩ := h.exists_draft member
    intro types restricted
    rw [same] at restricted
    obtain rfl : draft.resourceTypes = types := Option.some.inj restricted
    exact CompileInput.known_of_mem_drafts formed.known read drafted
  · rw [h.mem_rules] at member
    exact (IdSpace.categoryOf?_eq_some_iff formed.bands).2
      ((numbered formed.bands).inBand rule member)

/-- The numbers of compiled rules fit their words: ids lie below the end of a band, and there are few
priorities. -/
theorem fits_toDeclarative (h : compilation.IsOf input config) (formed : config.WellFormed)
    {rule : CompiledRule} (member : rule ∈ compilation.rules) : rule.toDeclarative.Fits := by
  constructor
  case id =>
    rw [h.mem_rules] at member
    obtain ⟨range, declared, inside⟩ := (numbered formed.bands).inBand rule member
    have bounded := formed.bounded range (List.mem_of_find?_eq_some declared)
    rw [IdRange.contains, Bool.and_eq_true, decide_eq_true_iff, decide_eq_true_iff] at inside
    exact Nat.lt_trans inside.2 bounded
  case priority =>
    obtain ⟨draft, -, same⟩ := h.exists_draft member
    rw [same]
    show draft.tier.priority < UInt32.size
    cases draft.tier <;> decide

theorem map_toDeclarative (h : compilation.IsOf input config) (formed : config.WellFormed)
    (read : ∀ cached ∈ input.lists, cached.IsRead) :
    (compilation.rules.map (·.toDeclarative)).map (·.toCompiled config.idSpace) =
      compilation.rules := by
  calc
    (compilation.rules.map (·.toDeclarative)).map (·.toCompiled config.idSpace) =
        compilation.rules.map (fun rule => rule.toDeclarative.toCompiled config.idSpace) :=
      List.map_map
    _ = compilation.rules.map id :=
      List.map_congr_left fun rule member => h.toCompiled_toDeclarative formed read member
    _ = compilation.rules := List.map_id _

end Compilation.IsOf

/-! ## Texts of compiled rules -/

/-- The texts in which the records of rules are handed on: the indented one, which is kept in rule
files, and the compact one. -/
def recordTexts (rules : List CompiledRule) : List String :=
  [ruleFileText rules, (Json.list (rules.map (·.toDeclarative.toJson))).compress]

theorem recordTexts_eq (rules : List CompiledRule) :
    recordTexts rules = DeclarativeRule.texts (rules.map (·.toDeclarative)) := by
  rw [recordTexts, ruleFileText, DeclarativeRule.texts, List.map_map]
  rfl

/-- Rules that survive their declarative form under a table of ids: each is given back by its record, all
of them by the texts of their records, a file of them decides requests as they do, and planned against
themselves they leave nothing to do. -/
structure SurvivesRecords (space : IdSpace) (rules : List CompiledRule) : Prop where
  restored : ∀ rule ∈ rules, rule.toDeclarative.toCompiled space = rule
  read : ∀ text ∈ recordTexts rules, rulesOfText space text = .ok rules
  /-- Wherever the rules could be written to a file, a check with the file prints the verdict of the
  rules: the decision, and the id and the priority of the rule that decided. -/
  checked : ∀ (config : Config) (path : String) (folder behind : Folder) (size : Nat),
    config.compiler.idSpace = space →
    folder.perform (CommandLine.writeRules path rules) = (.ok size, behind) →
    ∀ (url resourceType : String) (initiator : Option String),
      behind.perform (CommandLine.runCheck config path url resourceType initiator) =
        (.ok (),
          { behind with
            printed := Report.verdictLine
                ((Matcher.ofRules rules).decide ⟨url, .ofRequest resourceType, initiator⟩) space ::
              behind.printed })
  planned : ∀ session : Session, session.idSpace = space →
    ∀ target ∈ recordTexts rules, ∀ installed ∈ recordTexts rules, ∀ maxBatch : Option Nat,
      session.plan target installed maxBatch = .ok []
  settled : ∀ maxBatch : Nat, (SyncPlan.diff rules rules).batches maxBatch = []

/-- Under settings that were read from a record, whatever is compiled from lists that were read from
texts survives its declarative form. -/
theorem compile_survivesRecords {input : CompileInput} {json : Json} {config : CompilerConfig}
    (decoded : CompilerConfig.decoder json = .ok config)
    (read : ∀ cached ∈ input.lists, cached.IsRead) {compilation : Compilation}
    (compiled : compile input config = .ok compilation) :
    SurvivesRecords config.idSpace compilation.rules := by
  have formed := CompilerConfig.wellFormed_of_decoder decoded
  have h := compile_inv compiled
  have back := h.map_toDeclarative formed read
  have settled (maxBatch : Nat) :=
    SyncPlan.batches_diff_self (h.pairwise_rules formed.bands) maxBatch
  have run : ∀ text ∈ recordTexts compilation.rules,
      (Decoder.list DeclarativeRule.decoder).run text =
        .ok (compilation.rules.map (·.toDeclarative)) := by
    intro text
    rw [recordTexts_eq]
    apply DeclarativeRule.run_of_mem_texts
    intro record member
    obtain ⟨rule, among, rfl⟩ := List.mem_map.1 member
    exact h.fits_toDeclarative formed among
  have rulesRead : ∀ text ∈ recordTexts compilation.rules,
      rulesOfText config.idSpace text = .ok compilation.rules := by
    intro text member
    rw [rulesOfText, run text member]
    exact congrArg Except.ok back
  constructor
  case restored => exact fun rule member => h.toCompiled_toDeclarative formed read member
  case read => exact rulesRead
  case checked =>
    intro settings path folder behind size same written url resourceType initiator
    have found := Folder.read_of_writeRules written
    have fromFile := rulesRead (ruleFileText compilation.rules) List.mem_cons_self
    rw [← same] at fromFile ⊢
    exact Folder.perform_runCheck found fromFile url resourceType initiator
  case planned =>
    intro session same target fromTarget installed fromInstalled maxBatch
    rw [session.plan_of_run (run target fromTarget) (run installed fromInstalled), same,
      planDeclarative, back, settled, List.map_nil]
  case settled => exact settled

/-- An input with a rule of every kind, types and domains among them. -/
def mixedInput : CompileInput where
  lists := [.ofText (.new "base" "https://lists.test/base" .ads)
    "||a.io^$script,~third-party\n@@||a.io/ok^$domain=b.io|~c.b.io\n||d.io^$~image,match-case" 1]
  customRules := [⟨1, "@@/ad*$third-party", .allow, 0⟩]
  whitelist := ["e.io"]
  blacklist := ["f.io"]
  enabledCategories := [.ads]
  ruleBudget := some 30

theorem compile_survivesRecords_mixed :
    CompilerConfig.decoder narrowConfig.toJson = .ok narrowConfig ∧
      (∀ cached ∈ mixedInput.lists, cached.IsRead) ∧
      ∃ compilation, compile mixedInput narrowConfig = .ok compilation ∧
        SurvivesRecords narrowConfig.idSpace compilation.rules := by
  have decoded : CompilerConfig.decoder narrowConfig.toJson = .ok narrowConfig := rfl
  have read : ∀ cached ∈ mixedInput.lists, cached.IsRead := by
    intro cached member
    rw [List.mem_singleton.1 member]
    exact ⟨_, _, _, rfl⟩
  have valid : narrowConfig.validate = .ok () := rfl
  obtain ⟨compilation, compiled⟩ := exists_compile mixedInput valid
  exact ⟨decoded, read, compilation, compiled, compile_survivesRecords decoded read compiled⟩

end ContentFilter
