import ContentFilter.CommandLine.Run
import ContentFilter.Store

/-!
# A host in memory

A folder of text files, with a network and a clock, on which the commands run as plain functions.
-/

namespace ContentFilter

/-- A machine whose files are in one folder and the folders in it. -/
structure Folder where
  /-- The texts of the files by their paths. -/
  files : MemoryStore
  /-- What the network answers for an absolute address. -/
  network : String → Except FetchError Page
  clock : Nat
  /-- The lines printed so far, newest first. -/
  printed : List String

namespace Folder

/-- The names of the folders and of the file that a path leads through. -/
def steps (path : String) : List String :=
  ((Text.splitOn '/' path.toList).filter fun part => part != [] && part != ['.']).map String.ofList

/-- The path of names. -/
def joined (names : List String) : String := "/".intercalate names

/-- Whether there is a folder of this path. -/
def hasFolder (folder : Folder) (names : List String) : Bool :=
  names.isEmpty ||
    folder.files.entries.any fun (path, _) => names.isPrefixOf (steps path) && steps path != names

/-- Whether a file stands where the path needs a folder. -/
def isBlocked (folder : Folder) (names : List String) : Bool :=
  (List.range names.length).any fun length =>
    (folder.files.get? (joined (names.take length))).isSome

/-- The text of a file. -/
def read (folder : Folder) (path : String) : Except FileError String :=
  let names := steps path
  if path.isEmpty then .error .notFound
  else if folder.hasFolder names then .error .isDirectory
  else
    match folder.files.get? (joined names) with
    | some text => if path.toList.getLast? == some '/' then .error .notDirectory else .ok text
    | none => .error (if folder.isBlocked names then .notDirectory else .notFound)

/-- Why a file cannot be written, if it cannot. -/
def obstacle? (folder : Folder) (path : String) : Option FileError :=
  let names := steps path
  if path.isEmpty then some .notFound
  else if folder.hasFolder names then some .isDirectory
  else if folder.isBlocked names then some .notDirectory
  else if !folder.hasFolder names.dropLast then some .notFound
  else if path.toList.getLast? == some '/' then some .isDirectory
  else none

/-- The folder with a text in a file. -/
def write (folder : Folder) (path text : String) : Folder × Except FileError Unit :=
  match folder.obstacle? path with
  | some cause => (folder, .error cause)
  | none => ({ folder with files := folder.files.set (joined (steps path)) text }, .ok ())

/-- The folder with a file given another path. -/
def rename (folder : Folder) (source target : String) : Folder × Except FileError Unit :=
  match folder.read source with
  | .error cause => (folder, .error cause)
  | .ok text =>
    match folder.obstacle? target with
    | some cause => (folder, .error cause)
    | none =>
      let name := joined (steps source)
      let others : MemoryStore := ⟨folder.files.entries.filter (·.1 != name)⟩
      ({ folder with files := others.set (joined (steps target)) text }, .ok ())

instance : Host (StateM Folder) where
  read path := do return (← get).read path
  write path text := modifyGet fun folder =>
    let (folder, answer) := folder.write path text
    (answer, folder)
  rename source target := modifyGet fun folder =>
    let (folder, answer) := folder.rename source target
    (answer, folder)
  get address := do return (← MonadState.get).network address
  now := do return (← MonadState.get).clock
  print line := modify fun folder => { folder with printed := line :: folder.printed }

/-- The program run in a folder, and the folder behind it. -/
def run (folder : Folder) (arguments : List String) : CommandLine.Exit × Folder :=
  (CommandLine.runArguments arguments : StateM Folder CommandLine.Exit).run folder

/-- The lines printed so far. -/
def lines (folder : Folder) : List String := folder.printed.reverse

end Folder

end ContentFilter
