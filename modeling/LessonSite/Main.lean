import LessonSite.CommandLine.Basic

/-!
# The program

Does what the arguments ask for on the files below the working directory.  Files
are read before a job and written after it; the job itself is a function of the
arguments and of the files.
-/

namespace LessonSite.CommandLine

/-- Directories are read down to this depth. -/
def depthLimit : Nat := 64

/-- What directory entries hold; those that cannot be read are left out. -/
def readEntries : (depth : Nat) → List IO.FS.DirEntry → IO FileTree
  | 0, _ => return []
  | _, [] => return []
  | depth + 1, entry :: entries => do
      let here ←
        try
          if ← entry.path.isDir then
            let below ← readEntries depth (← entry.path.readDir).toList
            pure [(entry.fileName, FileNode.directory below)]
          else
            let content ← IO.FS.readBinFile entry.path
            pure [(entry.fileName, FileNode.file content.toList)]
        catch _ => pure []
      return here ++ (← readEntries (depth + 1) entries)
termination_by depth entries => (depth, entries.length)

/-- The files that a change has made or given another content. -/
def changedFiles (before after : FileTree) : List (String × List UInt8) :=
  (after.filesBelow ".").filter fun (path, content) =>
    match before.read path with
    | .ok present => present != content
    | .error _ => true

/-- Writes a file and makes the directory it stands in. -/
def writeFile (path : String) (content : List UInt8) : IO Unit := do
  let directory := (FileTree.splitLast path).1
  if !directory.isEmpty then
    IO.FS.createDirAll (String.intercalate "/" directory)
  IO.FS.writeBinFile path (ByteArray.mk content.toArray)

end LessonSite.CommandLine

open LessonSite.CommandLine in
/-- Does a job and ends with its code. -/
def main (arguments : List String) : IO UInt32 := do
  let workingDirectory ← IO.currentDir
  let tree ← readEntries depthLimit (← workingDirectory.readDir).toList
  let (ending, console) := LessonSite.CommandLine.main arguments tree
  for line in console.printed do
    IO.println line
  for (path, content) in changedFiles tree console.tree do
    writeFile path content
  for line in ending.complaint do
    IO.eprintln line
  return UInt32.ofNat ending.exitCode
