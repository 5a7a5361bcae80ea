/-!
# Parts of a text

Taking a text apart at a given start, a given end or a separator, and small
changes of single characters.  Each operation works on the list of characters;
the main statement is that `stripStart?` finds exactly the rest after the given
start.
-/

namespace LessonSite.Text

/-- Replaces every occurrence of one character by another. -/
def replaceChar (source target : Char) (text : String) : String :=
  String.ofList
    (text.toList.map fun character =>
      if character = source then target else character)

/-- What follows the given start of a list, if the list begins with it. -/
def stripStart? : (start characters : List Char) → Option (List Char)
  | [], characters => some characters
  | _ :: _, [] => none
  | expected :: start, character :: characters =>
      if expected = character then stripStart? start characters else none

theorem stripStart?_eq_some_iff {start characters rest : List Char} :
    stripStart? start characters = some rest ↔ characters = start ++ rest := by
  induction start generalizing characters with
  | nil => simp [stripStart?, eq_comm]
  | cons expected start induction =>
      cases characters with
      | nil => simp [stripStart?]
      | cons character characters =>
          by_cases same : expected = character
          · simp [stripStart?, same, induction]
          · simp [stripStart?, same, Ne.symm same]

/-- The part of a string after a given start, if the string begins with it. -/
def afterStart? (start text : String) : Option String :=
  (stripStart? start.toList text.toList).map String.ofList

/-- The part of a string before a given end, if the string stops with it. -/
def beforeEnd? (ending text : String) : Option String :=
  (stripStart? ending.toList.reverse text.toList.reverse).map fun rest =>
    String.ofList rest.reverse

/-- The string begins with the given text. -/
def startsWith (start text : String) : Bool :=
  (afterStart? start text).isSome

/-- The string stops with the given text. -/
def endsWith (ending text : String) : Bool :=
  (beforeEnd? ending text).isSome

/-- The texts between the occurrences of a separator; there is always at least
one. -/
def splitChars (separator : Char) : List Char → List (List Char)
  | [] => [[]]
  | character :: characters =>
      if character = separator then
        [] :: splitChars separator characters
      else
        match splitChars separator characters with
        | [] => [[character]]
        | part :: parts => (character :: part) :: parts

/-- Splits a string at every occurrence of a character. -/
def splitOn (separator : Char) (text : String) : List String :=
  (splitChars separator text.toList).map String.ofList

/-- Lower-case form of an ASCII letter; other characters are kept. -/
def toLowerAscii (character : Char) : Char :=
  if 'A' ≤ character ∧ character ≤ 'Z' then
    Char.ofNat (character.toNat + 32)
  else character

/-- Replaces the ASCII capital letters of a string by small ones. -/
def lowerAscii (text : String) : String :=
  String.ofList (text.toList.map toLowerAscii)

/-- Decimal digits of a natural number, on at least `width` places filled with
zeros. -/
def padNumber (width number : Nat) : String :=
  let digits := toString number
  String.ofList (List.replicate (width - digits.length) '0') ++ digits

/-- A line without the carriage return before its end. -/
def dropReturn (line : List Char) : List Char :=
  if line.getLast? = some '\r' then line.dropLast else line

/-- The lines among parts that line feeds end, all but the last of them; the
last part is a line only if it is not empty, and it is kept as it is. -/
def linesOfParts : List (List Char) → List (List Char)
  | [] => []
  | [last] => if last = [] then [] else [last]
  | part :: next :: parts => dropReturn part :: linesOfParts (next :: parts)

def lines (text : String) : List String :=
  (linesOfParts (splitChars '\n' text.toList)).map String.ofList

end LessonSite.Text
