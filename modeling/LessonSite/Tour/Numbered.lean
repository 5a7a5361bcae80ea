import LessonSite.EntryName
import LessonSite.FileTree.Basic

/-!
# Numbered directories

The chapters of a locale and the lessons of a chapter are the subdirectories of
one directory, each with a name that starts with its number.  They are listed by
number; hidden directories and those the caller names are left out, and every
other name has to be an entry name.
-/

namespace LessonSite

/-- Why no tour can be read from a directory. -/
inductive TourFault where
  | unreadable (path : String) (fault : FileFault)
  | unlistable (directory path : String) (fault : FileFault)
  | linkLoop (directory path : String)
  | missingFile (path : String)
  | malformedName (path : String) (reason : EntryNameError)
  | duplicateNumber (number : UInt32) (directory : String)
  | emptyChapter (directory : String)
  | emptyTour (directory : String)
  deriving Repr, DecidableEq

def TourFault.message : TourFault → String
  | .unreadable path fault => "cannot read " ++ path ++ ": " ++ fault.message
  | .unlistable directory path fault =>
      "cannot list " ++ directory ++ ": IO error for operation on " ++
        path ++ ": " ++
        fault.message
  | .linkLoop directory path =>
      "cannot list " ++ directory ++ ": File system loop found: " ++ path ++
        " points to an ancestor " ++ directory
  | .missingFile path => "missing file: " ++ path
  | .malformedName path reason =>
      "malformed directory name " ++ path ++ ": " ++ reason.message
  | .duplicateNumber number directory =>
      "duplicate number " ++ toString number.toNat ++ " in " ++ directory
  | .emptyChapter directory => "chapter has no lessons: " ++ directory
  | .emptyTour directory => "no chapters found in " ++ directory

namespace FileTree

/-- The names in a path, as far as they tell it from other paths: empty names do
not count, and `.` counts at the start only. -/
def pathParts (path : String) : List String :=
  let names := pathNames path
  (if Text.startsWith "/" path then
    ["/"]
  else (names.take 1).filter (· ≠ "")) ++
    (names.drop 1).filter fun name => name ≠ "" ∧ name ≠ "."

def samePath (left right : String) : Bool :=
  pathParts left = pathParts right

end FileTree

/-- A subdirectory with a number. -/
structure NumberedDirectory where
  entry : EntryName
  /-- The name of the directory itself. -/
  name : String
  deriving Repr, DecidableEq

namespace NumberedDirectory

/-- Whether an entry of a directory is a directory, links followed. -/
def leadsToDirectory (tree : FileTree) (directory name : String) :
    Except TourFault Bool :=
  let path := FileTree.joinPath directory name
  match tree.resolve path with
  | .error fault => .error (.unlistable directory path fault)
  | .ok place =>
      match tree.at? place with
      | some (.directory _) =>
          if (tree.resolve directory).toOption = some place then
            .error (.linkLoop directory path)
          else .ok true
      | _ => .ok false

/-- The directory is left out of the listing. -/
def isLeftOut (skipped : List String) (directory name : String) : Bool :=
  Text.startsWith "." name ||
    skipped.any (FileTree.samePath · (FileTree.joinPath directory name))

/-- The numbered directories among the given entries of a directory. -/
def amongEntries (tree : FileTree) (skipped : List String)
    (directory : String) :
    List String → Except TourFault (List NumberedDirectory)
  | [] => .ok []
  | name :: names => do
      if (← leadsToDirectory tree directory name) &&
          !isLeftOut skipped directory name then
        match EntryName.parse name with
        | .error reason =>
            .error (.malformedName (FileTree.joinPath directory name) reason)
        | .ok entry =>
            return ⟨entry, name⟩ ::
              (← amongEntries tree skipped directory names)
      else amongEntries tree skipped directory names

/-- The first number that two neighbours share. -/
def sharedNumber? : List NumberedDirectory → Option UInt32
  | first :: second :: rest =>
      if first.entry.number = second.entry.number then some first.entry.number
      else sharedNumber? (second :: rest)
  | _ => none

/-- The names of the entries of a directory, sorted. -/
def entryNames (tree : FileTree) (directory : String) :
    Except TourFault (List String) :=
  match tree.node directory with
  | .error fault => .error (.unlistable directory directory fault)
  | .ok (.directory entries) =>
      .ok ((entries.map Prod.fst).mergeSort fun left right => left ≤ right)
  | .ok _ => .ok []

/-- The numbered directories in a directory, by number. -/
def list (tree : FileTree) (skipped : List String) (directory : String) :
    Except TourFault (List NumberedDirectory) := do
  let found ← amongEntries tree skipped directory (← entryNames tree directory)
  let sorted :=
    found.mergeSort fun left right => left.entry.number ≤ right.entry.number
  match sharedNumber? sorted with
  | some number => .error (.duplicateNumber number directory)
  | none => .ok sorted

end NumberedDirectory

end LessonSite
