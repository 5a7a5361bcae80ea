import LessonSite.Text.Parts
import LessonSite.Text.Utf8

/-!
# Trees of files

A directory with everything below it, as a value.  A path is followed name by
name; a link on the way is followed from the directory it stands in, but not
without end.
-/

namespace LessonSite

/-- Why a file cannot be used. -/
inductive FileFault where
  | missing
  | notDirectory
  | isDirectory
  | exists
  | tooManyLinks
  | nameTooLong
  | denied
  | nulInName
  | nulInCommand
  | notUtf8
deriving Repr, DecidableEq

def FileFault.message : FileFault → String
  | .missing => "No such file or directory (os error 2)"
  | .notDirectory => "Not a directory (os error 20)"
  | .isDirectory => "Is a directory (os error 21)"
  | .exists => "File exists (os error 17)"
  | .tooManyLinks => "Too many levels of symbolic links (os error 40)"
  | .nameTooLong => "File name too long (os error 36)"
  | .denied => "Permission denied (os error 13)"
  | .nulInName => "file name contained an unexpected NUL byte"
  | .nulInCommand => "nul byte found in provided data"
  | .notUtf8 => "stream did not contain valid UTF-8"

/-- A file, a directory or a link. -/
inductive FileNode where
  | file (content : List UInt8)
  | directory (entries : List (String × FileNode))
  | link (target : String)
deriving Inhabited

abbrev FileTree := List (String × FileNode)

namespace FileTree

/-- The node at a place, given by the names on the way there; links are not
followed. -/
def at? (tree : FileTree) : List String → Option FileNode
  | [] => some (.directory tree)
  | name :: names =>
      match List.lookup name tree, names with
      | some node, [] => some node
      | some (.directory entries), name :: names =>
          FileTree.at? entries (name :: names)
      | _, _ => none

/-- Names of a path; an empty name or `.` stands for the directory itself. -/
def pathNames (path : String) : List String :=
  Text.splitOn '/' path

/-- At most this many links are followed on one path. -/
def linkLimit : Nat := 40

/-- Follows names from a place up to a link that has to be followed; `jump` goes
on from there.  The last name may be a link that is not followed when
`followLast` is false. -/
def followNames (tree : FileTree) (followLast : Bool)
    (jump : (place : List String) → (target : String) → (names : List String) →
      Except FileFault (List String))
    (place : List String) : List String → Except FileFault (List String)
  | [] => .ok place
  | name :: names =>
      match tree.at? place with
      | some (.directory entries) =>
          if name = "" ∨ name = "." then
            followNames tree followLast jump place names
          else if name = ".." then
            followNames tree followLast jump place.dropLast names
          else if (Utf8.encode name).length > 255 then .error .nameTooLong
          else
            match List.lookup name entries with
            | none => .error .missing
            | some (.link target) =>
                if names.isEmpty ∧ !followLast then .ok (place ++ [name])
                else jump place target names
            | some _ => followNames tree followLast jump (place ++ [name]) names
      | _ => .error .notDirectory

/-- Follows names from a place, and at most the given number of links on the
way. -/
def follow (tree : FileTree) (followLast : Bool) :
    (links : Nat) → (place names : List String) → Except FileFault (List String)
  | 0 => followNames tree followLast fun _ _ _ => .error .tooManyLinks
  | links + 1 =>
      followNames tree followLast fun place target names =>
        if Text.startsWith "/" target then .error .missing
        else follow tree followLast links place (pathNames target ++ names)

/-- Where a path leads.  The tree is that of the working directory: a path that
begins with a slash leads out of it and is missing, and so is what a link with
such a target leads to. -/
def resolve (tree : FileTree) (path : String) :
    Except FileFault (List String) :=
  if path.toList.contains '\x00' then .error .nulInName
  else if path = "" ∨ Text.startsWith "/" path then .error .missing
  else tree.follow true linkLimit [] (pathNames path)

/-- The node that a path leads to. -/
def node (tree : FileTree) (path : String) : Except FileFault FileNode :=
  match tree.resolve path with
  | .error fault => .error fault
  | .ok place =>
      match tree.at? place with
      | some node => .ok node
      | none => .error .missing

def isFile (tree : FileTree) (path : String) : Bool :=
  match tree.node path with
  | .ok (.file _) => true
  | _ => false

/-- The path leads to a directory. -/
def isDirectory (tree : FileTree) (path : String) : Bool :=
  match tree.node path with
  | .ok (.directory _) => true
  | _ => false

def hasNode (tree : FileTree) (path : String) : Bool :=
  match tree.node path with
  | .ok _ => true
  | .error _ => false

/-- The bytes of the file that a path leads to. -/
def read (tree : FileTree) (path : String) : Except FileFault (List UInt8) :=
  match tree.node path with
  | .error fault => .error fault
  | .ok (.file content) => .ok content
  | .ok _ => .error .isDirectory

/-- The text of the file that a path leads to. -/
def readText (tree : FileTree) (path : String) : Except FileFault String :=
  match tree.read path with
  | .error fault => .error fault
  | .ok content =>
      match Utf8.decode? content with
      | some text => .ok text
      | none => .error .notUtf8

/-- A path followed from a directory. -/
def joinPath (directory path : String) : String :=
  if Text.startsWith "/" path ∨ directory = "" then path
  else if Text.endsWith "/" directory then directory ++ path
  else directory ++ "/" ++ path

end FileTree

end LessonSite
