import LessonSite.Number.Basic
import LessonSite.Text.Parts

/-!
# Entry names

A chapter or lesson directory is named by digits, an underscore and a name, such
as `02_control_flow`.  The digits give its place among its siblings; the name,
with spaces for underscores, is what readers see, and with hyphens for spaces it
is a segment of an address.
-/

namespace LessonSite

/-- Why a directory name is not an entry name. -/
inductive EntryNameError where
  | missingSeparator
  | nonNumericPrefix (text : String)
  | emptyName
  deriving DecidableEq, Repr

/-- The wording of an entry name error. -/
def EntryNameError.message : EntryNameError → String
  | .missingSeparator => "expected `<digits>_<name>`, found no `_` separator"
  | .nonNumericPrefix text => "prefix `" ++ text ++ "` is not a number"
  | .emptyName => "nothing follows the numeric prefix"

/-- A directory name taken apart. -/
structure EntryName where
  number : UInt32
  name : String
  deriving DecidableEq, Repr

namespace EntryName

def displayTitle (entry : EntryName) : String :=
  Text.replaceChar '_' ' ' entry.name

end EntryName

/-- The segment of an address that stands for a displayed name. -/
def slugSegment (display : String) : String :=
  Text.replaceChar ' ' '-' display

/-- The segment of an address that stands for an entry. -/
def EntryName.slugSegment (entry : EntryName) : String :=
  LessonSite.slugSegment entry.displayTitle

/-- The number written by a nonempty run of ASCII digits, when it fits 32
bits. -/
def number32? (digits : List Char) : Option UInt32 :=
  if digits ≠ [] ∧ digits.all Char.isDigit ∧
      decimalValue digits < UInt32.size then
    some (UInt32.ofNat (decimalValue digits))
  else none

/-- Takes a directory name apart at its first underscore. -/
def EntryName.parse (text : String) : Except EntryNameError EntryName :=
  let characters := text.toList
  let before := characters.takeWhile (· ≠ '_')
  match characters.dropWhile (· ≠ '_') with
  | [] => .error .missingSeparator
  | _ :: name =>
      match number32? before with
      | none => .error (.nonNumericPrefix (String.ofList before))
      | some number =>
          if name = [] then .error .emptyName
          else .ok { number, name := String.ofList name }

end LessonSite
