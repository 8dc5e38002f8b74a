import ContentFilter.Text

/-!
# Paths

The names of files and their places, as texts with slashes between the parts.
-/

namespace ContentFilter.Path

/-- The parts of a path without those at its end that name nothing: empty ones and single dots. -/
def significantParts (path : String) : List (List Char) :=
  let parts := Text.splitOn '/' path.toList
  (parts.reverse.dropWhile fun part => part == [] || part == ['.']).reverse

/-- The folder part of a path, with its slash, and the name in it, unless the path names no file. -/
def split? (path : String) : Option (List Char × List Char) :=
  match (significantParts path).reverse with
  | [] => none
  | name :: folders =>
    if name == ['.', '.'] then none
    else some (folders.reverse.flatMap (· ++ ['/']), name)

/-- The name of the file that a path names. -/
def fileName? (path : String) : Option String := (split? path).map fun (_, name) => String.ofList name

/-- A file name without its extension.  A dot at the beginning begins none. -/
def stem (name : List Char) : List Char :=
  let beforeDot := (name.reverse.dropWhile (· != '.')).drop 1
  if beforeDot.isEmpty then name else beforeDot.reverse

/-- The path with another extension, if it names a file. -/
def withExtension (path extension : String) : String :=
  match split? path with
  | some (folder, name) => String.ofList (folder ++ stem name ++ '.' :: extension.toList)
  | none => path

/-- What stands behind the last slash of a location; slashes at its end do not count. -/
def lastSegment (location : String) : String :=
  let trimmed := Text.dropEndWhile (· == '/') location.toList
  String.ofList (trimmed.reverse.takeWhile (· != '/')).reverse

end ContentFilter.Path
