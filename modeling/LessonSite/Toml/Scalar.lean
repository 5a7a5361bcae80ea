import LessonSite.Number.Basic
import LessonSite.Toml.Datetime
import LessonSite.Toml.Value

/-!
# Strings and numbers of a settings document

Each reader takes a text that begins with what it reads and returns the value
and the rest.
-/

namespace LessonSite.Toml

def isGap (character : Char) : Bool :=
  character == ' ' || character == '\t'

/-- The text after the blanks at its start. -/
def skipGap (input : List Char) : List Char :=
  input.dropWhile isGap

/-- The text after a line end at its start. -/
def afterLineEnd? : List Char → Option (List Char)
  | '\n' :: rest => some rest
  | '\r' :: '\n' :: rest => some rest
  | _ => none

/-- Characters that stand for themselves in strings and comments. -/
def isPlain (character : Char) : Bool :=
  character == '\t' || (0x20 ≤ character.toNat && character.toNat ≠ 0x7F)

/-- The value of a hexadecimal digit. -/
def hexDigit? (character : Char) : Option Nat :=
  let code := character.toNat
  if 48 ≤ code ∧ code ≤ 57 then some (code - 48)
  else if 97 ≤ code ∧ code ≤ 102 then some (code - 87)
  else if 65 ≤ code ∧ code ≤ 70 then some (code - 55)
  else none

/-- The character that the given count of hexadecimal digits names. -/
def readCode (count : Nat) (input : List Char) : Option (Char × List Char) := do
  let digits ← (input.take count).mapM hexDigit?
  let code := digits.foldl (fun (total : Nat) digit => total * 16 + digit) 0
  if digits.length = count ∧ code.isValidChar then
    some (Char.ofNat code, input.drop count)
  else none

/-- The character after a backslash. -/
def readEscape : List Char → Option (Char × List Char)
  | 'b' :: rest => some ('\x08', rest)
  | 't' :: rest => some ('\t', rest)
  | 'n' :: rest => some ('\n', rest)
  | 'f' :: rest => some ('\x0c', rest)
  | 'r' :: rest => some ('\r', rest)
  | '"' :: rest => some ('"', rest)
  | '\\' :: rest => some ('\\', rest)
  | 'u' :: rest => readCode 4 rest
  | 'U' :: rest => readCode 8 rest
  | _ => none

/-- The rest of a string up to its quotation mark; the bound is the length of
the text. -/
def readBasic (found : List Char) :
    Nat → List Char → Option (String × List Char)
  | 0, _ => none
  | _ + 1, [] => none
  | _ + 1, '"' :: rest => some (String.ofList found.reverse, rest)
  | bound + 1, '\\' :: rest => do
      let (character, rest) ← readEscape rest
      readBasic (character :: found) bound rest
  | bound + 1, character :: rest =>
      if isPlain character then
        readBasic (character :: found) bound rest
      else none

/-- The rest of a literal string. -/
def readLiteral (input : List Char) : Option (String × List Char) :=
  match input.dropWhile fun character =>
    isPlain character && character != '\'' with
  | '\'' :: rest =>
      some
        (String.ofList
            (input.takeWhile fun character =>
              isPlain character && character != '\''),
          rest)
  | _ => none

/-- The end of a string of several lines: up to two marks before the closing
three belong to it. -/
def closeLong (mark : Char) (found input : List Char) :
    Option (String × List Char) :=
  let marks := (input.takeWhile (· == mark)).length
  if marks < 3 ∨ 5 < marks then none
  else
    some
      (String.ofList ((List.replicate (marks - 3) mark ++ found).reverse),
        input.drop marks)

/-- The text after the blanks and line ends at its start. -/
def skipBlankLines : List Char → List Char
  | '\n' :: rest => skipBlankLines rest
  | '\r' :: '\n' :: rest => skipBlankLines rest
  | ' ' :: rest => skipBlankLines rest
  | '\t' :: rest => skipBlankLines rest
  | input => input

/-- What follows a backslash at the end of a line: blanks and line ends, at
least one of these. -/
def skipLines? (input : List Char) : Option (List Char) :=
  (afterLineEnd? (skipGap input)).map skipBlankLines

/-- The rest of a string of several lines. -/
def readLongBasic (found : List Char) :
    Nat → List Char → Option (String × List Char)
  | 0, _ => none
  | _ + 1, [] => none
  | bound + 1, '"' :: rest =>
      if rest.take 2 = ['"', '"'] then closeLong '"' found ('"' :: rest)
      else readLongBasic ('"' :: found) bound rest
  | bound + 1, '\\' :: rest =>
      match skipLines? rest with
      | some rest => readLongBasic found bound rest
      | none => do
          let (character, rest) ← readEscape rest
          readLongBasic (character :: found) bound rest
  | bound + 1, '\n' :: rest => readLongBasic ('\n' :: found) bound rest
  | bound + 1, '\r' :: '\n' :: rest => readLongBasic ('\n' :: found) bound rest
  | bound + 1, character :: rest =>
      if isPlain character then
        readLongBasic (character :: found) bound rest
      else none

/-- The rest of a literal string of several lines. -/
def readLongLiteral (found : List Char) :
    List Char → Option (String × List Char)
  | [] => none
  | '\'' :: rest =>
      if rest.take 2 = ['\'', '\''] then closeLong '\'' found ('\'' :: rest)
      else readLongLiteral ('\'' :: found) rest
  | '\n' :: rest => readLongLiteral ('\n' :: found) rest
  | '\r' :: '\n' :: rest => readLongLiteral ('\n' :: found) rest
  | character :: rest =>
      if isPlain character then
        readLongLiteral (character :: found) rest
      else none

/-- A line end right after the opening marks does not count. -/
def dropFirstLineEnd (input : List Char) : List Char :=
  (afterLineEnd? input).getD input

def readShortString : List Char → Option (String × List Char)
  | '"' :: rest => readBasic [] (rest.length + 1) rest
  | '\'' :: rest => readLiteral rest
  | _ => none

def readString : List Char → Option (String × List Char)
  | '"' :: '"' :: '"' :: rest =>
      let rest := dropFirstLineEnd rest
      readLongBasic [] (rest.length + 1) rest
  | '\'' :: '\'' :: '\'' :: rest => readLongLiteral [] (dropFirstLineEnd rest)
  | input => readShortString input

/-- Reads digits; single underscores may stand between them. -/
def readGrouped (isDigit : Char → Bool) :
    List Char → Option (List Char × List Char)
  | first :: rest => if isDigit first then some (digits first rest) else none
  | [] => none
where
  /-- The digits after one that has been read. -/
  digits (last : Char) : List Char → List Char × List Char
    | [] => ([last], [])
    | ['_'] => ([last], ['_'])
    | '_' :: next :: rest =>
        if isDigit next then
          let (more, after) := digits next rest
          (last :: more, after)
        else ([last], '_' :: next :: rest)
    | next :: rest =>
        if isDigit next then
          let (more, after) := digits next rest
          (last :: more, after)
        else ([last], next :: rest)

/-- The number that digits stand for. -/
def numberOf (base : Nat) (digits : List Char) : Nat :=
  digits.foldl (fun total digit => total * base + (hexDigit? digit).getD 0) 0

/-- A number in sixty-four bits. -/
def inRange (number : Int) : Option Int :=
  if -(Nat.pow 2 63 : Int) ≤ number ∧ number < Nat.pow 2 63 then some number
  else none

def readBased (base : Nat) (input : List Char) :
    Option (Value × List Char) := do
  let isDigit := fun character =>
    ((hexDigit? character).filter (· < base)).isSome
  let (digits, rest) ← readGrouped isDigit input
  return (.integer (← inRange (numberOf base digits)), rest)

/-- The sign of a number, and what follows it. -/
def readSign : List Char → Bool × List Char
  | '-' :: rest => (true, rest)
  | '+' :: rest => (false, rest)
  | input => (false, input)

/-- The digits before the point; a zero stands alone. -/
def readWhole : List Char → Option (List Char × List Char)
  | '0' :: rest => some (['0'], rest)
  | input => readGrouped Char.isDigit input

/-- The exponent of a number, if there is one. -/
def readExponent : List Char → Option (Option Int × List Char)
  | mark :: rest =>
      if mark = 'e' ∨ mark = 'E' then do
        let (negative, rest) := readSign rest
        let (digits, rest) ← readGrouped Char.isDigit rest
        let number : Int := numberOf 10 digits
        return (some (if negative then -number else number), rest)
      else some (none, mark :: rest)
  | [] => some (none, [])

/-- A decimal as a floating-point number; one that is too large is no number. -/
def toFloat (negative : Bool) (digits : List Char) (scale : Int) :
    Option Value :=
  match Double.ofDecimal negative (numberOf 10 digits) scale with
  | .infinite false => none
  | number => some (.float number)

/-- An integer or a floating-point number in decimal digits. -/
def readDecimal (input : List Char) : Option (Value × List Char) := do
  let (negative, input) := readSign input
  let (whole, rest) ← readWhole input
  match rest with
  | '.' :: after =>
      let (fraction, rest) ← readGrouped Char.isDigit after
      let (exponent, rest) ← readExponent rest
      return (← toFloat negative (whole ++ fraction)
        (exponent.getD 0 - fraction.length), rest)
  | _ =>
      match ← readExponent rest with
      | (some exponent, rest) =>
          return (← toFloat negative whole exponent, rest)
      | (none, rest) =>
          let number : Int := numberOf 10 whole
          return (.integer (← inRange (if negative then -number else number)),
            rest)

/-- The words for numbers that have no digits. -/
def readNamedFloat (input : List Char) : Option (Value × List Char) :=
  let (negative, rest) := readSign input
  match rest with
  | 'i' :: 'n' :: 'f' :: rest => some (.float (.infinite negative), rest)
  | 'n' :: 'a' :: 'n' :: rest => some (.float .notANumber, rest)
  | _ => none

def readNumber (input : List Char) : Option (Value × List Char) :=
  match readDatetime input with
  | some (text, rest) => some (.datetime text, rest)
  | none =>
      match input with
      | '0' :: 'x' :: rest => readBased 16 rest
      | '0' :: 'o' :: rest => readBased 8 rest
      | '0' :: 'b' :: rest => readBased 2 rest
      | _ => (readNamedFloat input).orElse fun _ => readDecimal input

end LessonSite.Toml
