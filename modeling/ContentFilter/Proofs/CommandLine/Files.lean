import ContentFilter.CommandLine.Folder
import ContentFilter.Text.Lemmas

/-!
# Files of a folder

A text that was written to a file is read back from there, and so are the rules of a rule file.
-/

namespace ContentFilter

namespace Folder

/-! ## Paths -/

/-- A name that can stand between the slashes of a path and leads somewhere. -/
structure IsName (name : String) : Prop where
  nonempty : name.toList ≠ []
  notHere : name.toList ≠ ['.']
  whole : '/' ∉ name.toList

theorem isName_of_mem_steps {path name : String} (member : name ∈ steps path) : IsName name := by
  obtain ⟨part, kept, rfl⟩ := List.mem_map.1 member
  obtain ⟨among, leads⟩ := List.mem_filter.1 kept
  rw [Bool.and_eq_true, bne_iff_ne, bne_iff_ne] at leads
  constructor
  case nonempty => simpa using leads.1
  case notHere => simpa using leads.2
  case whole =>
    intro slash
    rw [String.toList_ofList] at slash
    have other := Text.not_of_mem_splitBy among '/' slash
    simp at other

/-- The path of names leads through these names. -/
theorem steps_joined {names : List String} (nonempty : names ≠ [])
    (valid : ∀ name ∈ names, IsName name) : steps (joined names) = names := by
  have text : (joined names).toList = ['/'].intercalate (names.map String.toList) := by
    simp [joined, String.toList_intercalate]
  have parts : Text.splitOn '/' (joined names).toList = names.map String.toList := by
    rw [text]
    apply Text.splitOn_intercalate
    · simpa using nonempty
    · intro part member
      obtain ⟨name, among, rfl⟩ := List.mem_map.1 member
      exact (valid name among).whole
  have kept : (names.map String.toList).filter (fun part => part != [] && part != ['.']) =
      names.map String.toList := by
    rw [List.filter_eq_self]
    intro part member
    obtain ⟨name, among, rfl⟩ := List.mem_map.1 member
    simp [(valid name among).nonempty, (valid name among).notHere]
  rw [steps, parts, kept, List.map_map]
  simp

/-! ## Reading and writing -/

/-- Putting a text under a key brings in no other entry. -/
theorem mem_insertInto {key value : String} {entries : List (String × String)}
    {entry : String × String} (member : entry ∈ MemoryStore.insertInto key value entries) :
    entry = (key, value) ∨ entry ∈ entries := by
  induction entries with
  | nil => exact .inl (List.mem_singleton.1 member)
  | cons head rest ih =>
    obtain ⟨name, old⟩ := head
    simp only [MemoryStore.insertInto] at member
    split at member
    · rcases List.mem_cons.1 member with here | later
      · exact .inl here
      · exact .inr later
    · split at member
      · rcases List.mem_cons.1 member with here | later
        · exact .inl here
        · exact .inr (List.mem_cons_of_mem _ later)
      · rcases List.mem_cons.1 member with here | later
        · exact .inr (List.mem_cons.2 (.inl here))
        · rcases ih later with here | before
          · exact .inl here
          · exact .inr (List.mem_cons_of_mem _ before)

/-- What was written to a file is read from there. -/
theorem read_write {folder behind : Folder} {path text : String}
    (written : folder.write path text = (behind, .ok ())) : behind.read path = .ok text := by
  unfold write at written
  split at written
  · cases (Prod.mk.inj written).2
  · rename_i clear
    obtain ⟨rfl, -⟩ := Prod.mk.inj written
    unfold obstacle? at clear
    dsimp only at clear
    split at clear
    · cases clear
    rename_i named
    split at clear
    · cases clear
    rename_i file
    split at clear
    · cases clear
    split at clear
    · cases clear
    split at clear
    · cases clear
    rename_i open_
    have nonempty : steps path ≠ [] := by
      intro none
      simp [none, hasFolder] at file
    have same : steps (joined (steps path)) = steps path :=
      steps_joined nonempty fun name => isName_of_mem_steps
    rw [hasFolder, Bool.or_eq_true, not_or, List.any_eq_true] at file
    have stillFile : ({ folder with files := folder.files.set (joined (steps path)) text } :
        Folder).hasFolder (steps path) = false := by
      rw [hasFolder, Bool.or_eq_false_iff, List.any_eq_false]
      refine ⟨by simpa using nonempty, fun entry member inside => ?_⟩
      rcases mem_insertInto member with rfl | before
      · simp [same] at inside
      · exact file.2 ⟨entry, before, inside⟩
    unfold read
    dsimp only
    rw [if_neg named, stillFile, if_neg Bool.false_ne_true, MemoryStore.get?_set, if_pos rfl]
    dsimp only
    rw [if_neg open_]

/-! ## Steps of commands -/

/-- What a step of a command comes to, and the folder behind it. -/
def perform {α : Type} (folder : Folder) (step : CommandLine.Step (StateM Folder) α) :
    Except CommandError α × Folder := step.run.run folder

section Steps

variable {α β : Type} (folder : Folder)

theorem perform_bind (step : CommandLine.Step (StateM Folder) α)
    (next : α → CommandLine.Step (StateM Folder) β) :
    folder.perform (step >>= next) =
      match folder.perform step with
      | (.ok a, behind) => behind.perform (next a)
      | (.error cause, behind) => (.error cause, behind) := by
  show (ExceptT.bindCont next (folder.perform step).1 : StateM Folder _) (folder.perform step).2 = _
  rcases folder.perform step with ⟨_ | _, _⟩ <;> rfl

theorem perform_lift (action : StateM Folder α) :
    folder.perform (liftM action) = (.ok (action.run folder).1, (action.run folder).2) := rfl

end Steps

/-- A rule file that was written holds the text of the rules. -/
theorem read_of_writeRules {folder behind : Folder} {path : String} {rules : List CompiledRule}
    {size : Nat} (written : folder.perform (CommandLine.writeRules path rules) = (.ok size, behind)) :
    behind.read path = .ok (ruleFileText rules) := by
  unfold CommandLine.writeRules at written
  rw [perform_bind, perform_lift] at written
  dsimp only [Host.write, modifyGet, MonadStateOf.modifyGet, StateT.modifyGet, StateT.run,
    pure] at written
  rcases answer : folder.write path (ruleFileText rules) with ⟨after, cause | _⟩
  · rw [answer] at written
    cases (Prod.mk.inj written).1
  · rw [answer] at written
    obtain ⟨-, rfl⟩ := Prod.mk.inj written
    exact read_write answer

/-- Rules that were read from a file answer a request as they do in memory. -/
theorem perform_runCheck {folder : Folder} {config : Config} {path text : String}
    {rules : List CompiledRule} (found : folder.read path = .ok text)
    (read : rulesOfText config.compiler.idSpace text = .ok rules) (url resourceType : String)
    (initiator : Option String) :
    folder.perform (CommandLine.runCheck config path url resourceType initiator) =
      (.ok (),
        { folder with
          printed := Report.verdictLine
              ((Matcher.ofRules rules).decide ⟨url, .ofRequest resourceType, initiator⟩)
              config.compiler.idSpace :: folder.printed }) := by
  have text : folder.perform (CommandLine.readFile path) = (.ok text, folder) := by
    unfold CommandLine.readFile
    rw [perform_bind, perform_lift]
    have answer : (Host.read path : StateM Folder _).run folder = (.ok text, folder) := by
      rw [← found]
      rfl
    rw [answer]
    rfl
  unfold CommandLine.runCheck
  rw [perform_bind, text]
  dsimp only
  rw [perform_bind, read]
  rfl

end Folder

end ContentFilter
