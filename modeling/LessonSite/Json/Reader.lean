import LessonSite.Json.Value
import LessonSite.Number.Basic

/-!
# Reading JSON

A reader for JSON texts that accepts exactly the grammar, with a bound on how
deep arrays and objects may be nested.  Every function takes the characters
still to read and gives back those it left; the `fuel` is a bound on the number
of calls, taken from the length of the text.
-/

namespace LessonSite.Json

def isSpace (character : Char) : Bool :=
  character = ' ' || character = '\n' || character = '\r' || character = '\t'

def skipSpace (characters : List Char) : List Char :=
  characters.dropWhile isSpace

/-- The value of a hexadecimal digit. -/
def hexValue? (character : Char) : Option Nat :=
  let code := character.toNat
  if '0'.toNat ≤ code ∧ code ≤ '9'.toNat then some (code - '0'.toNat)
  else if 'a'.toNat ≤ code ∧ code ≤ 'f'.toNat then some (code - 'a'.toNat + 10)
  else if 'A'.toNat ≤ code ∧ code ≤ 'F'.toNat then some (code - 'A'.toNat + 10)
  else none

/-- Reads four hexadecimal digits. -/
def readHex4 : List Char → Option (Nat × List Char)
  | first :: second :: third :: fourth :: rest => do
      let high ← hexValue? first
      let upper ← hexValue? second
      let lower ← hexValue? third
      let low ← hexValue? fourth
      pure (high * 4096 + upper * 256 + lower * 16 + low, rest)
  | _ => none

/-- Reads what follows a backslash: one character, or two halves of a surrogate
pair. -/
def readEscape : List Char → Option (Char × List Char)
  | '"' :: rest => some ('"', rest)
  | '\\' :: rest => some ('\\', rest)
  | '/' :: rest => some ('/', rest)
  | 'b' :: rest => some ('\x08', rest)
  | 'f' :: rest => some ('\x0C', rest)
  | 'n' :: rest => some ('\n', rest)
  | 'r' :: rest => some ('\r', rest)
  | 't' :: rest => some ('\t', rest)
  | 'u' :: rest => do
      let (unit, rest) ← readHex4 rest
      if 0xD800 ≤ unit ∧ unit < 0xDC00 then
        match rest with
        | '\\' :: 'u' :: rest => do
            let (low, rest) ← readHex4 rest
            if 0xDC00 ≤ low ∧ low < 0xE000 then
              pure
                (Char.ofNat (0x10000 + (unit - 0xD800) * 1024 + (low - 0xDC00)),
                  rest)
            else none
        | _ => none
      else if 0xDC00 ≤ unit ∧ unit < 0xE000 then none
      else pure (Char.ofNat unit, rest)
  | _ => none

/-- Reads the inside of a string and the quotation mark after it. -/
def readString : (fuel : Nat) → List Char → Option (List Char × List Char)
  | 0, _ => none
  | _ + 1, [] => none
  | _ + 1, '"' :: rest => some ([], rest)
  | fuel + 1, '\\' :: rest => do
      let (character, rest) ← readEscape rest
      let (text, rest) ← readString fuel rest
      pure (character :: text, rest)
  | fuel + 1, character :: rest =>
      if character.toNat < 32 then none
      else do
        let (text, rest) ← readString fuel rest
        pure (character :: text, rest)

/-- Reads the digits in front of a fraction or an exponent: a single zero or no
leading zero. -/
def readWhole (characters : List Char) : Option (List Char × List Char) :=
  match characters.takeWhile Char.isDigit with
  | [] => none
  | '0' :: _ :: _ => none
  | digits => some (digits, characters.dropWhile Char.isDigit)

/-- Reads a fraction, if there is one. -/
def readFraction : List Char → Option (List Char × List Char)
  | '.' :: rest =>
      match rest.takeWhile Char.isDigit with
      | [] => none
      | digits => some (digits, rest.dropWhile Char.isDigit)
  | characters => some ([], characters)

def readSign : List Char → Bool × List Char
  | '+' :: rest => (false, rest)
  | '-' :: rest => (true, rest)
  | rest => (false, rest)

/-- Reads an exponent, if there is one. -/
def readExponent : List Char → Option (Option Int × List Char)
  | marker :: rest =>
      if marker = 'e' ∨ marker = 'E' then
        let (negative, rest) := readSign rest
        match rest.takeWhile Char.isDigit with
        | [] => none
        | digits =>
            let value : Int := decimalValue digits
            some
              (some (if negative then -value else value),
                rest.dropWhile Char.isDigit)
      else some (none, marker :: rest)
  | [] => some (none, [])

/-- The value of a number without fraction and exponent: an integer when it fits
64 bits. -/
def wholeNumber (negative : Bool) (digits : List Char) : Json :=
  let value := decimalValue digits
  if negative then
    if value ≠ 0 ∧ value ≤ Nat.pow 2 63 then .integer (-(value : Int))
    else .decimal (.ofDecimal true value 0)
  else if value < UInt64.size then .integer value
  else .decimal (.ofDecimal false value 0)

/-- Reads a number after its sign. -/
def readNumber (negative : Bool) (characters : List Char) :
    Option (Json × List Char) := do
  let (digits, rest) ← readWhole characters
  let (fraction, rest) ← readFraction rest
  let (exponent, rest) ← readExponent rest
  if fraction = [] ∧ exponent = none then
    pure (wholeNumber negative digits, rest)
  else
    let scale := exponent.getD 0 - fraction.length
    pure
      (.decimal (.ofDecimal negative (decimalValue (digits ++ fraction)) scale),
        rest)

/-- Passes over a word of the grammar. -/
def readWord (word : String) (value : Json) (characters : List Char) :
    Option (Json × List Char) :=
  if word.toList.isPrefixOf characters then
    some (value, characters.drop word.length)
  else none

mutual

/-- Reads a value after the blanks in front of it; `depth` containers may still
be opened. -/
def readValue (depth : Nat) :
    (fuel : Nat) → List Char → Option (Json × List Char)
  | 0, _ => none
  | fuel + 1, characters =>
      match skipSpace characters with
      | '"' :: rest => do
          let (text, rest) ← readString (rest.length + 1) rest
          pure (.string (String.ofList text), rest)
      | '[' :: rest =>
          match depth with
          | 0 => none
          | depth + 1 => do
              let (items, rest) ← readItems depth fuel rest
              pure (.array items, rest)
      | '{' :: rest =>
          match depth with
          | 0 => none
          | depth + 1 => do
              let (members, rest) ← readMembers depth fuel rest
              pure (.object members, rest)
      | '-' :: rest => readNumber true rest
      | 't' :: rest => readWord "true" (.bool true) ('t' :: rest)
      | 'f' :: rest => readWord "false" (.bool false) ('f' :: rest)
      | 'n' :: rest => readWord "null" .null ('n' :: rest)
      | rest => readNumber false rest

/-- Reads what follows the opening bracket of an array. -/
def readItems (depth : Nat) :
    (fuel : Nat) → List Char → Option (List Json × List Char)
  | 0, _ => none
  | fuel + 1, characters =>
      match skipSpace characters with
      | ']' :: rest => some ([], rest)
      | rest => do
          let (item, rest) ← readValue depth fuel rest
          let (items, rest) ← readMoreItems depth fuel rest
          pure (item :: items, rest)

/-- Reads the end of an array or a comma and further items. -/
def readMoreItems (depth : Nat) :
    (fuel : Nat) → List Char → Option (List Json × List Char)
  | 0, _ => none
  | fuel + 1, characters =>
      match skipSpace characters with
      | ']' :: rest => some ([], rest)
      | ',' :: rest => do
          let (item, rest) ← readValue depth fuel rest
          let (items, rest) ← readMoreItems depth fuel rest
          pure (item :: items, rest)
      | _ => none

/-- Reads what follows the opening brace of an object. -/
def readMembers (depth : Nat) :
    (fuel : Nat) → List Char → Option (List (String × Json) × List Char)
  | 0, _ => none
  | fuel + 1, characters =>
      match skipSpace characters with
      | '}' :: rest => some ([], rest)
      | rest => do
          let (member, rest) ← readMember depth fuel rest
          let (members, rest) ← readMoreMembers depth fuel rest
          pure (member :: members, rest)

/-- Reads a name, a colon and a value. -/
def readMember (depth : Nat) :
    (fuel : Nat) → List Char → Option ((String × Json) × List Char)
  | 0, _ => none
  | fuel + 1, characters =>
      match skipSpace characters with
      | '"' :: rest => do
          let (name, rest) ← readString (rest.length + 1) rest
          match skipSpace rest with
          | ':' :: rest => do
              let (value, rest) ← readValue depth fuel rest
              pure ((String.ofList name, value), rest)
          | _ => none
      | _ => none

/-- Reads the end of an object or a comma and further members. -/
def readMoreMembers (depth : Nat) :
    (fuel : Nat) → List Char → Option (List (String × Json) × List Char)
  | 0, _ => none
  | fuel + 1, characters =>
      match skipSpace characters with
      | '}' :: rest => some ([], rest)
      | ',' :: rest => do
          let (member, rest) ← readMember depth fuel rest
          let (members, rest) ← readMoreMembers depth fuel rest
          pure (member :: members, rest)
      | _ => none

end

/-- Reads a whole text as one value, blanks around it allowed. -/
def parseWithin (depth : Nat) (text : String) : Option Json :=
  let characters := text.toList
  match readValue depth (3 * characters.length + 3) characters with
  | some (value, rest) => if skipSpace rest = [] then some value else none
  | none => none

/-- How many containers may be open at once. -/
def depthLimit : Nat := 127

/-- Reads a whole text as one value nested no deeper than `depthLimit`. -/
def parse (text : String) : Option Json :=
  parseWithin depthLimit text

end LessonSite.Json
