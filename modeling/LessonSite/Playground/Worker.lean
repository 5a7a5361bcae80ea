import LessonSite.FileTree.Basic
import LessonSite.Json.Reader
import LessonSite.Json.Writer
import LessonSite.Playground.Diagnostic
import LessonSite.Text.Utf8

/-!
# Compilers and runners

A compiler gets a program and answers with an artifact or with diagnostics; a
runner gets the artifact and answers with lines of output.  Requests and answers
are JSON texts.
-/

namespace LessonSite

/-- A program to compile. -/
structure CompileRequest where
  /-- Names and texts of files. -/
  files : List (String × String)
  debug : Bool
  deriving DecidableEq, Repr

/-- What a compiler makes of a program. -/
inductive CompileResult where
  | success (artifact : String)
  | error (diagnostics : List Diagnostic)
  deriving DecidableEq, Repr

/-- Why no message can be had from a worker that was started. -/
inductive MessageFault where
  | unread (fault : FileFault)
  | unparsed (detail : String)
  deriving DecidableEq, Repr

def MessageFault.message : MessageFault → String
  | .unread fault => "worker IO error: " ++ fault.message
  | .unparsed detail => "malformed worker message: " ++ detail

/-- Why a worker gives no answer. -/
inductive WorkerFault where
  | notConfigured (role : String)
  | notStarted (program : String) (fault : FileFault)
  /-- A worker that was stopped from outside has no code. -/
  | exited (program : String) (code : Option Int) (complaint : String)
  | malformed {fault : MessageFault}
  | missingPipe (pipe : String)
  deriving DecidableEq, Repr

/-- The code a program ended with, as messages show it. -/
def exitCodeText : Option Int → String
  | some code => "Some(" ++ toString code ++ ")"
  | none => "None"

def WorkerFault.message : WorkerFault → String
  | .notConfigured role => "no " ++ role ++ " command configured"
  | .notStarted program fault =>
      "cannot start " ++ program ++ ": " ++ fault.message
  | .exited program code complaint =>
      program ++ " exited with " ++ exitCodeText code ++ ": " ++ complaint
  | @malformed fault => fault.message
  | .missingPipe pipe => "worker " ++ pipe ++ " pipe unavailable"

namespace CompileRequest

def toJson (request : CompileRequest) : Json :=
  .object
    [("files",
        .array
          (request.files.map fun (name, text) =>
            .array [.string name, .string text])),
      ("debug", .bool request.debug)]

def write (request : CompileRequest) : String :=
  request.toJson.write

/-- The file written by a JSON value. -/
def fileOfJson? : Json → Option (String × String)
  | .array [.string name, .string text] => some (name, text)
  | _ => none

/-- The request written by a JSON value. -/
def ofJson? (value : Json) : Option CompileRequest := do
  match ← Json.recordFields? ["files", "debug"] value with
  | [files, debug] => do
      return {
        files := ← (← files.array?).mapM fileOfJson?, debug := ← debug.bool? }
  | _ => none

/-- Reads a request from its text. -/
def read? (text : String) : Option CompileRequest :=
  (Json.parse text).bind ofJson?

end CompileRequest

namespace CompileResult

def diagnostics : CompileResult → List Diagnostic
  | .success _ => []
  | .error diagnostics => diagnostics

/-- A result as a JSON object; its first member says which kind it is. -/
def toJson : CompileResult → Json
  | .success artifact =>
      .object [("kind", .string "success"), ("artifact", .string artifact)]
  | .error diagnostics =>
      .object
        [("kind", .string "error"),
          ("diagnostics", .array (diagnostics.map (·.toJson)))]

def write (result : CompileResult) : String :=
  result.toJson.write

/-- The kind of result that a JSON value names, and the value without that
name. -/
def kindOfJson? : Json → Option (String × Json)
  | .object members => do
      let kind ← (← (Json.soleMember? members "kind").join).string?
      return (kind, .object (members.filter fun (name, _) => name ≠ "kind"))
  | .array (.string kind :: items) => some (kind, .array items)
  | _ => none

/-- The result written by a JSON value. -/
def ofJson? (value : Json) : Option CompileResult := do
  let (kind, rest) ← kindOfJson? value
  if kind = "success" then
    match ← Json.recordFields? ["artifact"] rest with
    | [artifact] => return .success (← artifact.string?)
    | _ => none
  else if kind = "error" then
    match ← Json.recordFields? ["diagnostics"] rest with
    | [diagnostics] =>
        return .error (← (← diagnostics.array?).mapM Diagnostic.ofJson?)
    | _ => none
  else none

/-- Reads a result from its text; no number in it may be too large, not even one
that does not matter. -/
def read? (text : String) : Option CompileResult := do
  let value ← Json.parse text
  if value.isFinite then ofJson? value else none

end CompileResult

end LessonSite
