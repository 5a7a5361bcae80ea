import LessonSite.Playground.Worker
import LessonSite.Shell.Basic

/-!
# Workers as programs

A worker is a command: a program with arguments.  The compiler gets its request
as text and answers with a text; every line that the runner writes is output of
the artifact.
-/

namespace LessonSite

/-- How a command ends; one that is stopped has no code. -/
structure CommandEnd where
  code : Option Nat
  output : List UInt8
  complaint : List UInt8

namespace CommandEnd

def ofShell (shell : Shell.State) : CommandEnd where
  code := if shell.ending = some .killed then none else some shell.code
  output := shell.output
  complaint := shell.complaint

def ofFinish (finish : Shell.Finish) : CommandEnd :=
  ⟨some finish.code, finish.output, finish.complaint⟩

end CommandEnd

namespace Worker

/-- Names of directories, which cannot be started. -/
def directories : List String :=
  ["/", ".", "..", "./", "../", "/bin", "/usr", "/usr/bin", "/etc", "/tmp",
    "/dev"]

/-- The name of a program, the directory of programs aside. -/
def programName (program : String) : String :=
  ((Text.afterStart? "/usr/bin/" program).or
    (Text.afterStart? "/bin/" program)).getD program

/-- Why a command cannot be started. -/
def startFault? (program : String) (arguments : List String) :
    Option FileFault :=
  if (program :: arguments).any fun word => word.toList.contains '\x00' then
    some .nulInCommand
  else if directories.contains program then some .denied
  else if programName program = "sh" ∨
    Shell.isProgram (programName program) then none
  else some .missing

/-- Runs a command that can be started. -/
def run (name : String) (arguments : List String)
    (input : List UInt8) : CommandEnd :=
  match name, arguments with
  | "sh", "-c" :: script :: _ =>
      .ofShell ((Shell.State.start input).runScript script)
  | "sh", [] =>
      .ofShell ((Shell.State.start []).runScript (Utf8.decodeLossy input))
  | _, _ =>
      match Shell.runProgram name arguments input with
      | some finish => .ofFinish finish
      | none => .ofFinish (.failure 1 (name ++ ": cannot be used in this way"))

/-- Runs the command of a worker on some input. -/
def perform (role : String) (command : List String) (input : String) :
    Except WorkerFault CommandEnd :=
  match command with
  | [] => .error (.notConfigured role)
  | program :: arguments =>
      match startFault? program arguments with
      | some fault => .error (.notStarted program fault)
      | none => .ok (run (programName program) arguments (Utf8.encode input))

/-- What a compiler answers to a request.  What is wrong with an answer that is
no result is told in words of its own, not in those of a JSON reader. -/
def compile (command : List String) (request : CompileRequest) :
    Except WorkerFault CompileResult := do
  let finished ← perform "compiler" command request.write
  if finished.code = some 0 then
    match (Utf8.decode? finished.output).bind CompileResult.read? with
    | some result => .ok result
    | none => .error (@WorkerFault.malformed (.unparsed "no compile result"))
  else
    .error (.exited (command.head?.getD "") (finished.code.map Int.ofNat)
      (Text.trim (Utf8.decodeLossy finished.complaint)))

/-- The lines of a stream up to the first that is no text. -/
def textLines : List (List UInt8) → List String
  | [] => []
  | line :: lines =>
      match Utf8.decode? line with
      | none => []
      | some text => Text.lines text ++ textLines lines

/-- The lines that a runner writes for an artifact. -/
def execute (command : List String) (artifact : String) :
    Except WorkerFault (List String) := do
  let finished ← perform "runner" command artifact
  return textLines (Shell.splitLines finished.output) ++
    textLines (Shell.splitLines finished.complaint)

end Worker

end LessonSite
