import LessonSite.FileTree.Basic

/-!
# Changing trees of files

Making directories and writing files.  A change is made at a place, after the
path to it has been followed; what stands elsewhere stays as it is.
-/

namespace LessonSite.FileTree

/-- The entries with one node put under a name. -/
def put (name : String) (node : FileNode) : FileTree → FileTree
  | [] => [(name, node)]
  | (present, old) :: entries =>
      if present = name then (name, node) :: entries
      else (present, old) :: put name node entries

/-- Puts a node at a place whose directories are there. -/
def putAt (node : FileNode) : List String → FileTree → FileTree
  | [], tree => tree
  | [name], tree => put name node tree
  | name :: next :: names, tree =>
      match List.lookup name tree with
      | some (.directory entries) =>
          put name (.directory (putAt node (next :: names) entries)) tree
      | _ => tree

/-- The directory and the last name of a path; `.` and empty names at the end do
not count. -/
def splitLast (path : String) : List String × Option String :=
  let names :=
    ((pathNames path).reverse.dropWhile fun name =>
      name = "" ∨ name = ".").reverse
  (names.dropLast, names.getLast?)

def makeDirectory (tree : FileTree) (names : List String) (name : String) :
    Except FileFault FileTree :=
  match tree.follow true linkLimit [] names with
  | .error fault => .error fault
  | .ok place =>
      match tree.at? place with
      | some (.directory entries) =>
          if name = ".." then .error .exists
          else if (Utf8.encode name).length > 255 then .error .nameTooLong
          else if (List.lookup name entries).isSome then .error .exists
          else .ok (putAt (.directory []) (place ++ [name]) tree)
      | _ => .error .notDirectory

def reachesDirectory (tree : FileTree) (names : List String) : Bool :=
  match tree.follow true linkLimit [] names with
  | .ok place =>
      match tree.at? place with
      | some (.directory _) => true
      | _ => false
  | .error _ => false

/-- Makes a directory and those above it, as far as they are missing.  The names
are those of the path from its end; `.` and empty names at the end do not
count. -/
def makeDirectories (tree : FileTree) : List String → Except FileFault FileTree
  | [] => .ok tree
  | name :: above =>
      if name = "" ∨ name = "." then makeDirectories tree above
      else
        match tree.makeDirectory above.reverse name with
        | .ok tree => .ok tree
        | .error .missing =>
            match makeDirectories tree above with
            | .error fault => .error fault
            | .ok tree =>
                match tree.makeDirectory above.reverse name with
                | .ok tree => .ok tree
                | .error fault =>
                    if tree.reachesDirectory (name :: above).reverse then
                      .ok tree
                    else .error fault
        | .error fault =>
            if tree.reachesDirectory (name :: above).reverse then
              .ok tree
            else .error fault

/-- Makes the directory at a path and those above it, as far as they are
missing.  A directory that the path names by a `.` at its end is not made. -/
def makePath (tree : FileTree) (path : String) : Except FileFault FileTree :=
  if path.toList.contains '\x00' then .error .nulInName
  else
    match (pathNames path).reverse.dropWhile (· = "") with
    | "." :: names =>
        match tree.follow true linkLimit [] names.reverse with
        | .error .missing =>
            match tree.makeDirectories
              (names.dropWhile fun name => name = "" ∨ name = ".").tail with
            | .error fault => .error fault
            | .ok tree =>
                if tree.reachesDirectory names.reverse then
                  .ok tree
                else .error .missing
        | .error fault => .error fault
        | .ok _ =>
            if tree.reachesDirectory names.reverse then
              .ok tree
            else .error .notDirectory
    | names => tree.makeDirectories names

/-- Where a file at a path is written: at the place itself, or where links from
there lead. -/
def target (tree : FileTree) (place : List String) (name : String) :
    (links : Nat) → Except FileFault (List String)
  | 0 => .error .tooManyLinks
  | links + 1 =>
      match tree.at? (place ++ [name]) with
      | some (.link goal) =>
          match splitLast goal with
          | (_, none) => .error .isDirectory
          | (names, some last) =>
              if Text.startsWith "/" goal then .error .missing
              else
                match tree.follow true linkLimit place names with
                | .error fault => .error fault
                | .ok place => target tree place last links
      | some (.directory _) => .error .isDirectory
      | _ => .ok (place ++ [name])

def write (tree : FileTree) (path : String) (content : List UInt8) :
    Except FileFault FileTree :=
  if path.toList.contains '\x00' then .error .nulInName
  else
    match splitLast path with
    | (_, none) => .error .isDirectory
    | (names, some name) =>
        match tree.follow true linkLimit [] names with
        | .error fault => .error fault
        | .ok place =>
            match tree.at? place with
            | some (.directory _) =>
                if name = ".." then .error .isDirectory
                else if (Utf8.encode name).length > 255 then .error .nameTooLong
                else
                  match tree.target place name linkLimit with
                  | .error fault => .error fault
                  | .ok place => .ok (putAt (.file content) place tree)
            | _ => .error .notDirectory

/-- Makes the directory that a path's last name stands in. -/
def makeParents (tree : FileTree) (path : String) : Except FileFault FileTree :=
  tree.makeDirectories (splitLast path).1.reverse

/-- Writes a file and makes the directories it needs. -/
def writeDeep (tree : FileTree) (path : String) (content : List UInt8) :
    Except FileFault FileTree := do
  (← tree.makeParents path).write path content

/-- Makes a link and the directories it needs. -/
def linkDeep (tree : FileTree) (path target : String) :
    Except FileFault FileTree := do
  let tree ← tree.makeParents path
  match splitLast path with
  | (_, none) => .error .exists
  | (names, some name) =>
      let place ← tree.follow true linkLimit [] names
      if (tree.at? (place ++ [name])).isSome then .error .exists
      else return putAt (.link target) (place ++ [name]) tree

mutual

/-- All files of a node with their paths below the given one. -/
def filesOf (path : String) : FileNode → List (String × List UInt8)
  | .file content => [(path, content)]
  | .directory entries => filesIn path entries
  | .link _ => []

/-- All files of a directory with their paths below the given one. -/
def filesIn (path : String) :
    List (String × FileNode) → List (String × List UInt8)
  | [] => []
  | (name, node) :: entries =>
      filesOf (if path = "" then name else path ++ "/" ++ name) node ++
        filesIn path entries

end

/-- All files below a directory, with their paths from there, sorted. -/
def filesBelow (tree : FileTree) (path : String) : List (String × List UInt8) :=
  match tree.node path with
  | .ok (.directory entries) =>
      (filesIn "" entries).mergeSort fun left right => left.1 ≤ right.1
  | _ => []

end LessonSite.FileTree
