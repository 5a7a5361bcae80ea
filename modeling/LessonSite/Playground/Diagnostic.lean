import LessonSite.Json.Value

/-!
# Diagnostics

What a compiler has to say about a program: a message, how grave it is and where
it belongs.
-/

namespace LessonSite

/-- How grave a diagnostic is. -/
inductive Severity where
  | error
  | warning
  deriving DecidableEq, Repr, Inhabited

def Severity.name : Severity → String
  | .error => "error"
  | .warning => "warning"

/-- The severity with a given name. -/
def Severity.ofName? (name : String) : Option Severity :=
  [Severity.error, .warning].find? fun severity => severity.name = name

/-- A message of a compiler. -/
structure Diagnostic where
  message : String
  severity : Severity
  line : Option Nat
  column : Option Nat
  deriving DecidableEq, Repr, Inhabited

namespace Diagnostic

def error (message : String) : Diagnostic :=
  ⟨message, .error, none, none⟩

/-- The place of a diagnostic; a column without a line is not shown. -/
def place (diagnostic : Diagnostic) : String :=
  match diagnostic.line, diagnostic.column with
  | some line, some column => toString line ++ ":" ++ toString column ++ ": "
  | some line, none => toString line ++ ": "
  | none, _ => ""

/-- The line that shows a diagnostic. -/
def shown (diagnostic : Diagnostic) : String :=
  diagnostic.place ++ diagnostic.severity.name ++ ": " ++ diagnostic.message

/-- A diagnostic as a JSON object; a place that is not known is left out. -/
def toJson (diagnostic : Diagnostic) : Json :=
  .object
    (("message", .string diagnostic.message) ::
      ("severity", .string diagnostic.severity.name) ::
      ((diagnostic.line.map fun line => ("line", Json.integer line)).toList ++
        (diagnostic.column.map fun column =>
          ("column", Json.integer column)).toList))

/-- The severity written by a JSON value: a name, or an object whose only member
has that name and holds nothing. -/
def severityOfJson? : Json → Option Severity
  | .string name => Severity.ofName? name
  | .object [(name, .null)] => Severity.ofName? name
  | .object [(name, .object [])] => Severity.ofName? name
  | _ => none

/-- A line or column written by a JSON value. -/
def positionOfJson? : Option Json → Option (Option Nat)
  | none => some none
  | some .null => some none
  | some value => (value.natBelow? UInt32.size).map some

/-- The diagnostic written by a JSON value. -/
def ofJson? (value : Json) : Option Diagnostic := do
  match ← Json.recordParts? ["message"]
    ["severity", "line", "column"] value with
  | ([message], [severity, line, column]) => do
      return {
        message := ← message.string?
        severity := ← match severity with
          | some severity => severityOfJson? severity
          | none => some .error
        line := ← positionOfJson? line
        column := ← positionOfJson? column
      }
  | _ => none

end Diagnostic

end LessonSite
