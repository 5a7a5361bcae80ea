import LessonSite.Text.Punctuation

/-!
# Positions in a Markdown text

A text is an array of characters, and a position is an index into it.  The
scanning functions take a position and give the position after what they passed
over; those that may fail give none.
-/

namespace LessonSite.Markdown

/-- A Markdown text by its characters. -/
abbrev Source := Array Char

/-- A space, a tab, a vertical tab or a form feed. -/
def isInlineSpace (character : Char) : Bool :=
  character = ' ' || character = '\t' || character = '\x0B' ||
    character = '\x0C'

/-- A carriage return or a line feed. -/
def isLineBreak (character : Char) : Bool :=
  character = '\n' || character = '\r'

def isAsciiSpace (character : Char) : Bool :=
  isInlineSpace character || isLineBreak character

def isAsciiLetter (character : Char) : Bool :=
  character.isAlpha

def isAsciiAlphanumeric (character : Char) : Bool :=
  character.isAlphanum

namespace Source

/-- The character at a position is the given one. -/
def hasAt (source : Source) (position : Nat) (character : Char) : Bool :=
  source[position]? = some character

/-- The position after the run of characters of a class. -/
def skipWhile (source : Source) (inClass : Char → Bool)
    (position : Nat) : Nat :=
  if inside : position < source.size then
    if inClass source[position] then
      source.skipWhile inClass (position + 1)
    else position
  else position
termination_by source.size - position

/-- The position after the run of one character, at least the start. -/
def skipRun (source : Source) (character : Char) (position : Nat) : Nat :=
  source.skipWhile (· = character) position

/-- The start of the run of characters of a class that ends at a position, not
before `start`. -/
def backWhile (source : Source) (inClass : Char → Bool) (start : Nat) :
    (stop : Nat) → Nat
  | 0 => 0
  | position + 1 =>
      if position < start then position + 1
      else
        match source[position]? with
        | some character =>
            if inClass character then
              source.backWhile inClass start position
            else position + 1
        | none => position + 1

/-- Passes over spaces inside a line. -/
def skipSpace (source : Source) (position : Nat) : Nat :=
  source.skipWhile isInlineSpace position

/-- The position after a line break; the end of the text counts as one of no
length. -/
def lineBreak? (source : Source) (position : Nat) : Option Nat :=
  match source[position]? with
  | none => some position
  | some '\n' => some (position + 1)
  | some '\r' =>
      some
        (if source.hasAt (position + 1) '\n' then
          position + 2
        else position + 1)
  | some _ => none

/-- The position after a blank rest of a line. -/
def blankLine? (source : Source) (position : Nat) : Option Nat :=
  source.lineBreak? (source.skipSpace position)

/-- The rest of the line is blank. -/
def isBlankLine (source : Source) (position : Nat) : Bool :=
  (source.blankLine? position).isSome

/-- The position after the next line feed, or the end of the text. -/
def nextLine (source : Source) (position : Nat) : Nat :=
  min source.size (source.skipWhile (· ≠ '\n') position + 1)

/-- The characters between two positions. -/
def slice (source : Source) (start stop : Nat) : List Char :=
  (source.extract start stop).toList

/-- The text between two positions. -/
def sliceText (source : Source) (start stop : Nat) : String :=
  String.ofList (source.slice start stop)

/-- The given characters stand at a position. -/
def hasTextAt (source : Source) (position : Nat) : List Char → Bool
  | [] => true
  | character :: rest =>
      source.hasAt position character && source.hasTextAt (position + 1) rest

/-- The given small letters stand at a position, in either case. -/
def hasWordAt (source : Source) (position : Nat) : List Char → Bool
  | [] => true
  | character :: rest =>
      match source[position]? with
      | some found =>
          found.toLower = character && source.hasWordAt (position + 1) rest
      | none => false

/-- The start of the next place before `stop` where the given characters
stand. -/
def find? (source : Source) (pattern : List Char) (position stop : Nat) :
    Option Nat :=
  if position + pattern.length ≤ stop ∧ position < stop then
    if source.hasTextAt position pattern then some position
    else source.find? pattern (position + 1) stop
  else none
termination_by stop - position

end Source

end LessonSite.Markdown
