import LessonSite.Url.Reader

/-!
# Addresses of files

The address of a directory, and the file that an address stands for.  The names
of a path are escaped as segments, and the escapes of segments are undone, so a
segment may hold a slash that only the path of the file shows.
-/

namespace LessonSite.Url

/-- The names of an absolute path; repeated slashes and `.` leave none. -/
def pathNames (path : String) : List String :=
  (Text.splitOn '/' path).filter fun name => name != "" && name != "."

/-- An absolute path without repeated slashes and `.`; a slash at its end is
kept. -/
def tidyPath (path : String) : String :=
  let names := pathNames path
  "/" ++ "/".intercalate names ++
    (if Text.endsWith "/" path ∧ !names.isEmpty then "/" else "")

/-- The address of the directory at an absolute path. -/
def ofDirectory (path : String) : Url :=
  { emptyFile with
    path := .rooted ((pathNames path).map (fun name =>
      String.ofList (escape EscapeSet.segment name.toList)) ++ [""]) }

/-- The bytes of the absolute path that an address stands for.  Addresses with a
host or an opaque path stand for none, and after a drive there is a slash. -/
def filePathBytes? (url : Url) : Option (List UInt8) :=
  match url.host, url.path with
  | _, .rooted [] => none
  | none, .rooted segments => some (write segments)
  | some (.domain name), .rooted segments =>
      if name = "" ∨ name = "localhost" then some (write segments) else none
  | _, _ => none
where
  /-- The bytes of the names, each after a slash. -/
  write (segments : List String) : List UInt8 :=
    let bytes := segments.flatMap fun segment => 0x2F :: unescape segment.toList
    match bytes.reverse with
    | mark :: letter :: _ :: _ =>
        if isDrive [Char.ofNat letter.toNat, Char.ofNat mark.toNat] then
          bytes ++ [0x2F]
        else bytes
    | _ => bytes

end LessonSite.Url
