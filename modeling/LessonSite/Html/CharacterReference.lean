import LessonSite.Html.Token
import LessonSite.Markup.Entity.Table

/-!
# Character references

A reference begins with an ampersand and stands for one or two characters, by
number or by name.  An ampersand that begins no reference stands for itself.
-/

namespace LessonSite.Html

/-- Numbers in the C1 range mean the characters of the code page that is usual
there. -/
def controlMeanings : List (Nat × Nat) :=
  [(0x80, 0x20AC), (0x82, 0x201A), (0x83, 0x0192), (0x84, 0x201E),
    (0x85, 0x2026), (0x86, 0x2020), (0x87, 0x2021), (0x88, 0x02C6),
    (0x89, 0x2030), (0x8A, 0x0160), (0x8B, 0x2039), (0x8C, 0x0152),
    (0x8E, 0x017D), (0x91, 0x2018), (0x92, 0x2019), (0x93, 0x201C),
    (0x94, 0x201D), (0x95, 0x2022), (0x96, 0x2013), (0x97, 0x2014),
    (0x98, 0x02DC), (0x99, 0x2122), (0x9A, 0x0161), (0x9B, 0x203A),
    (0x9C, 0x0153), (0x9E, 0x017E), (0x9F, 0x0178)]

/-- The character that a number stands for. -/
def characterOfNumber (number : Nat) : Char :=
  if number = 0 ∨ number > 0x10FFFF ∨ (0xD800 ≤ number ∧ number ≤ 0xDFFF) then
    '\ufffd'
  else Char.ofNat ((List.lookup number controlMeanings).getD number)

/-- The value of a digit in bases up to sixteen. -/
def digitValue? (base : Nat) (character : Char) : Option Nat :=
  let code := character.toNat
  let value :=
    if 48 ≤ code ∧ code ≤ 57 then code - 48
    else if 97 ≤ code ∧ code ≤ 102 then code - 87
    else if 65 ≤ code ∧ code ≤ 70 then code - 55
    else 16
  if value < base then some value else none

/-- Reads digits and an optional semicolon. -/
def readNumber (base : Nat) (input : List Char) :
    Option (List Char × List Char) :=
  let isDigit := fun character => (digitValue? base character).isSome
  let digits := input.takeWhile isDigit
  if digits.isEmpty then none
  else
    let number :=
      digits.foldl
        (fun total digit => total * base + (digitValue? base digit).getD 0) 0
    match input.dropWhile isDigit with
    | ';' :: rest => some ([characterOfNumber number], rest)
    | rest => some ([characterOfNumber number], rest)

def isNameCharacter (character : Char) : Bool :=
  isLetter character || ('0' ≤ character && character ≤ '9')

/-- Reads the longest name; in a value, a name without semicolon that goes on is
no reference. -/
def readName (inValue : Bool) (input : List Char) :
    Option (List Char × List Char) :=
  let letters :=
    (input.take (Markup.Entity.longestName - 1)).takeWhile isNameCharacter
  let whole :=
    match input.drop letters.length with
    | ';' :: rest =>
        (Markup.Entity.lookup? (String.ofList (letters ++ [';']))).map
          fun text => (text.toList, rest)
    | _ => none
  let cutShort := (List.range letters.length).reverse.findSome? fun shorter =>
    (Markup.Entity.lookup? (String.ofList (letters.take (shorter + 1)))).map
      fun text => (text.toList, input.drop (shorter + 1))
  match whole, cutShort with
  | some found, _ => some found
  | none, some (text, rest) =>
      let goesOn :=
        match rest with
        | next :: _ => next == '=' || isNameCharacter next
        | [] => false
      if inValue && goesOn then none else some (text, rest)
  | none, none => none

/-- Reads what follows an ampersand. -/
def readReference (inValue : Bool) : List Char → Option (List Char × List Char)
  | '#' :: 'x' :: rest => readNumber 16 rest
  | '#' :: 'X' :: rest => readNumber 16 rest
  | '#' :: rest => readNumber 10 rest
  | input => readName inValue input

/-- Replaces the references of a text by what they stand for. -/
def decodeReferences (inValue : Bool) : List Char → List Char
  | [] => []
  | '&' :: rest =>
      match readReference inValue rest with
      | some (text, after) =>
          if _shorter : after.length ≤ rest.length then
            text ++ decodeReferences inValue after
          else text
      | none => '&' :: decodeReferences inValue rest
  | character :: rest => character :: decodeReferences inValue rest
termination_by input => input.length

end LessonSite.Html
