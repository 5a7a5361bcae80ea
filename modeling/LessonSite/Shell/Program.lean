import LessonSite.Shell.Pattern
import LessonSite.Text.Parts
import LessonSite.Text.Utf8

/-!
# Small programs

Programs that read a stream of bytes and write one: the tools out of which
workers are put together.
-/

namespace LessonSite.Shell

/-- What a program leaves behind. -/
structure Finish where
  output : List UInt8
  complaint : List UInt8
  code : Nat
  /-- What it has not read of its input. -/
  rest : List UInt8

namespace Finish

/-- A program that succeeds and has read all of its input. -/
def success (output : List UInt8) : Finish :=
  ⟨output, [], 0, []⟩

/-- A program that fails with a complaint. -/
def failure (code : Nat) (complaint : String) : Finish :=
  ⟨[], Utf8.encode (complaint ++ "\n"), code, []⟩

end Finish

/-- The lines of a stream with their ends. -/
def splitLines : List UInt8 → List (List UInt8)
  | [] => []
  | byte :: bytes =>
      if byte = 10 then [byte] :: splitLines bytes
      else
        match splitLines bytes with
        | [] => [[byte]]
        | line :: lines => (byte :: line) :: lines

/-- Does something to the text of a line, its end aside. -/
def onLine (change : List Char → List Char) (line : List UInt8) : List UInt8 :=
  let text := (Utf8.decodeLossy (line.filter (· ≠ 10))).toList
  Utf8.encode (String.ofList (change text)) ++ line.filter (· = 10)

/-- The text of a line, its end aside. -/
def lineText (line : List UInt8) : List Char :=
  (Utf8.decodeLossy (line.filter (· ≠ 10))).toList

def numberLine (number : Nat) (line : List UInt8) : List UInt8 :=
  let digits := (toString number).toList
  Utf8.encode
    (String.ofList
      (List.replicate (6 - digits.length) ' ' ++ digits ++ ['\t'])) ++ line

/-- The value of up to so many octal digits, and what follows them. -/
def readOctal : (count : Nat) → Nat → List Char → Nat × List Char
  | 0, value, rest => (value, rest)
  | count + 1, value, digit :: rest =>
      if '0' ≤ digit ∧ digit ≤ '7' then
        readOctal count (value * 8 + (digit.toNat - '0'.toNat)) rest
      else (value, digit :: rest)
  | _, value, [] => (value, [])

/-- The byte that a character after a backslash stands for. -/
def escapedByte? (character : Char) : Option UInt8 :=
  List.lookup character
    [('a', 7), ('b', 8), ('t', 9), ('n', 10), ('v', 11), ('f', 12), ('r', 13),
      ('\\', 92), ('"', 34)]

/-- Writes one round of a format.  Directives take arguments in order; those
that are missing are empty. -/
def formatRound :
    (fuel : Nat) → List Char → List String → List UInt8 × List String
  | 0, _, arguments => ([], arguments)
  | _ + 1, [], arguments => ([], arguments)
  | fuel + 1, '\\' :: rest, arguments =>
      match rest with
      | [] => ([92], arguments)
      | character :: after =>
          if '0' ≤ character ∧ character ≤ '7' then
            let (value, after) := readOctal 3 0 rest
            let (bytes, arguments) := formatRound fuel after arguments
            (UInt8.ofNat value :: bytes, arguments)
          else
            let (bytes, arguments) := formatRound fuel after arguments
            match escapedByte? character with
            | some byte => (byte :: bytes, arguments)
            | none =>
                (92 :: Utf8.encode (String.singleton character) ++ bytes,
                  arguments)
  | fuel + 1, '%' :: '%' :: rest, arguments =>
      let (bytes, arguments) := formatRound fuel rest arguments
      (37 :: bytes, arguments)
  | fuel + 1, '%' :: directive :: rest, arguments =>
      let argument := arguments.head?.getD ""
      let shown :=
        if directive = 'd' ∨ directive = 'i' ∨ directive = 'u' then
          if argument = "" then "0" else argument
        else if directive = 'c' then String.ofList (argument.toList.take 1)
        else argument
      let (bytes, arguments) := formatRound fuel rest arguments.tail
      (Utf8.encode shown ++ bytes, arguments)
  | fuel + 1, character :: rest, arguments =>
      let (bytes, arguments) := formatRound fuel rest arguments
      (Utf8.encode (String.singleton character) ++ bytes, arguments)

/-- Writes a format once, and again as long as it takes arguments and some are
left. -/
def format (text : List Char) : (fuel : Nat) → List String → List UInt8
  | 0, _ => []
  | fuel + 1, arguments =>
      let (bytes, left) := formatRound (text.length + 1) text arguments
      if left.isEmpty ∨ left.length = arguments.length then
        bytes
      else bytes ++ format text fuel left

/-- Writes words with the escapes in them; `\c` ends the output. -/
def unescape : (fuel : Nat) → List Char → List UInt8 × Bool
  | 0, _ => ([], false)
  | _ + 1, [] => ([], false)
  | _ + 1, '\\' :: 'c' :: _ => ([], true)
  | fuel + 1, '\\' :: '0' :: rest =>
      let (value, rest) := readOctal 3 0 rest
      let (bytes, stopped) := unescape fuel rest
      (UInt8.ofNat value :: bytes, stopped)
  | fuel + 1, '\\' :: character :: rest =>
      let (bytes, stopped) := unescape fuel rest
      match if character = '"' then none else escapedByte? character with
      | some byte => (byte :: bytes, stopped)
      | none =>
          (92 :: Utf8.encode (String.singleton character) ++ bytes, stopped)
  | fuel + 1, character :: rest =>
      let (bytes, stopped) := unescape fuel rest
      (Utf8.encode (String.singleton character) ++ bytes, stopped)

/-- Words with blanks between them. -/
def joinWords (words : List String) : String :=
  String.intercalate " " words

/-- Writes words and a line feed; the first word may ask to leave that out. -/
def echo (escapes : Bool) (words : List String) : List UInt8 :=
  let (ended, words) :=
    match words with
    | "-n" :: words => (false, words)
    | words => (true, words)
  let text := joinWords words
  let (bytes, stopped) :=
    if escapes then
      unescape (text.length + 1) text.toList
    else (Utf8.encode text, false)
  if ended && !stopped then bytes ++ [10] else bytes

/-- The number of lines that options ask for. -/
def lineCount? : List String → Option Nat
  | [] => some 10
  | ["-n", number] => number.toNat?
  | [option] =>
      ((Text.afterStart? "-n" option).or (Text.afterStart? "-" option)).bind
        (·.toNat?)
  | _ => none

/-- An instruction to exchange text in every line. -/
structure Substitution where
  pattern : Pattern
  replacement : List Char
  all : Bool

namespace Substitution

/-- Reads up to a delimiter; a delimiter after a backslash is part of the
text. -/
def readPart (delimiter : Char) : List Char → Option (List Char × List Char)
  | [] => none
  | '\\' :: character :: rest => do
      let (part, rest) ← readPart delimiter rest
      return ((if character = delimiter then
          [character]
        else ['\\', character]) ++ part, rest)
  | character :: rest =>
      if character = delimiter then some ([], rest)
      else do
        let (part, rest) ← readPart delimiter rest
        return (character :: part, rest)

def read (script : String) : Option Substitution :=
  match script.toList with
  | 's' :: delimiter :: rest => do
      let (pattern, rest) ← readPart delimiter rest
      let (replacement, options) ← readPart delimiter rest
      let pattern ← Pattern.read pattern
      if options = [] then return ⟨pattern, replacement, false⟩
      else if options = ['g'] then return ⟨pattern, replacement, true⟩
      else none
  | _ => none

/-- The text put in place of a match. -/
def expand (matched : List Char) : List Char → List Char
  | [] => []
  | '\\' :: 'n' :: rest => '\n' :: expand matched rest
  | '\\' :: character :: rest => character :: expand matched rest
  | '&' :: rest => matched ++ expand matched rest
  | character :: rest => character :: expand matched rest

/-- Follows an instruction in a line. -/
def apply (substitution : Substitution) (line : List Char) : List Char :=
  substitution.pattern.replace
    (fun matched => expand matched substitution.replacement)
    substitution.all line

end Substitution

/-- The characters of a set of `tr`, ranges written out. -/
def characterSet : List Char → List Char
  | [] => []
  | '[' :: ':' :: 'l' :: 'o' :: 'w' :: 'e' :: 'r' :: ':' :: ']' :: rest =>
      "abcdefghijklmnopqrstuvwxyz".toList ++ characterSet rest
  | '[' :: ':' :: 'u' :: 'p' :: 'p' :: 'e' :: 'r' :: ':' :: ']' :: rest =>
      "ABCDEFGHIJKLMNOPQRSTUVWXYZ".toList ++ characterSet rest
  | '\\' :: 'n' :: rest => '\n' :: characterSet rest
  | first :: '-' :: last :: rest =>
      (List.range (last.toNat + 1 - first.toNat)).map
          (fun step => Char.ofNat (first.toNat + step)) ++
        characterSet rest
  | character :: rest => character :: characterSet rest

/-- Exchanges characters of one set for those of another; the last of these
stands for all that are missing. -/
def translate (sources targets : List Char) (character : Char) : Char :=
  match sources.idxOf? character with
  | none => character
  | some position => (targets[position]?.or targets.getLast?).getD character

/-- Searches lines: those that match, or that do not. -/
def matchingLines (negated : Bool) (pattern : Pattern) (input : List UInt8) :
    List (List UInt8) :=
  (splitLines input).filter fun line =>
    negated != pattern.occursIn (lineText line)

def withEnd (line : List UInt8) : List UInt8 :=
  if line.getLast? = some 10 then line else line ++ [10]

def numberOutput (number : Nat) : Finish :=
  .success (Utf8.encode (toString number ++ "\n"))

/-- Runs a program that searches its input. -/
def search (arguments : List String) (input : List UInt8) : Option Finish := do
  let options := arguments.filter (Text.startsWith "-")
  let texts := arguments.filter fun argument => !Text.startsWith "-" argument
  let pattern ←
    match texts with
    | [text] => Pattern.read text.toList
    | _ => none
  if options.any fun option => option ∉ ["-c", "-q", "-v", "-F", "-e"] then none
  else
    let found := matchingLines (options.contains "-v") pattern input
    let code := if found.isEmpty then 1 else 0
    let output :=
      if options.contains "-q" then []
      else if options.contains "-c" then
        Utf8.encode (toString found.length ++ "\n")
      else (found.map withEnd).flatten
    return { Finish.success output with code }

/-- Lines without those that equal the line before. -/
def withoutRepeats : List (List UInt8) → List (List UInt8)
  | first :: second :: lines =>
      if first = second then withoutRepeats (second :: lines)
      else first :: withoutRepeats (second :: lines)
  | lines => lines

/-- Lines in the order of their bytes. -/
def sortLines (input : List UInt8) : List (List UInt8) :=
  ((splitLines input).map withEnd).mergeSort fun left right =>
    !List.lex right left fun first second => decide (first < second)

def countUp (first last : Nat) : List UInt8 :=
  ((List.range (last + 1 - first)).map fun step =>
    Utf8.encode (toString (first + step) ++ "\n")).flatten

/-- Runs a program by name; `none` if there is no such program or it does not
know what to do. -/
def runProgram (name : String) (arguments : List String) (input : List UInt8) :
    Option Finish :=
  match name, arguments with
  | "cat", [] => some (.success input)
  | "cat", ["-"] => some (.success input)
  | "cat", ["-n"] =>
      some (.success ((splitLines input).mapIdx fun index line =>
        numberLine (index + 1) line).flatten)
  | "cat", path :: _ =>
      some (.failure 1 ("cat: " ++ path ++ ": No such file or directory"))
  | "seq", [last] => last.toNat?.map fun last => .success (countUp 1 last)
  | "seq",
    [first,
      last] => do return .success (countUp (← first.toNat?) (← last.toNat?))
  | "tee", _ => some (.success input)
  | "head", ["-c", number] =>
      number.toNat?.map fun count => .success (input.take count)
  | "head", options =>
      (lineCount? options).map fun count =>
        .success ((splitLines input).take count).flatten
  | "tail", ["-n", position] =>
      match Text.afterStart? "+" position with
      | some position =>
          position.toNat?.map fun position =>
            .success ((splitLines input).drop (position - 1)).flatten
      | none =>
          position.toNat?.map fun count =>
            let lines := splitLines input
            .success (lines.drop (lines.length - count)).flatten
  | "tail", options =>
      (lineCount? options).map fun count =>
        let lines := splitLines input
        .success (lines.drop (lines.length - count)).flatten
  | "echo", words =>
      some { Finish.success (echo false words) with rest := input }
  | "printf", text :: arguments =>
      some
        { Finish.success
            (format text.toList (arguments.length + 1) arguments) with
          rest := input }
  | "true", _ => some { Finish.success [] with rest := input }
  | "false", _ => some { Finish.success [] with code := 1, rest := input }
  | "sleep", _ => some { Finish.success [] with rest := input }
  | "sort", [] =>
      some (.success (sortLines input).flatten)
  | "sort", ["-r"] => some (.success (sortLines input).reverse.flatten)
  | "sort", ["-u"] => some (.success (withoutRepeats (sortLines input)).flatten)
  | "uniq", [] =>
      some (.success (withoutRepeats ((splitLines input).map withEnd)).flatten)
  | "tac", [] => some (.success (splitLines input).reverse.flatten)
  | "rev", [] =>
      some (.success ((splitLines input).map (onLine List.reverse)).flatten)
  | "wc", ["-l"] => some (numberOutput (input.count 10))
  | "wc", ["-c"] => some (numberOutput input.length)
  | "sed", [script] =>
      (Substitution.read script).map fun substitution =>
        .success ((splitLines input).map (onLine substitution.apply)).flatten
  | "sed", ["-e", script] =>
      (Substitution.read script).map fun substitution =>
        .success ((splitLines input).map (onLine substitution.apply)).flatten
  | "tr", ["-d", set] =>
      let set := characterSet set.toList
      some (.success (Utf8.encode (String.ofList
        ((Utf8.decodeLossy input).toList.filter fun character =>
          character ∉ set))))
  | "tr", [sources, targets] =>
      some
        (.success
          (Utf8.encode (String.ofList ((Utf8.decodeLossy input).toList.map
            (translate (characterSet sources.toList)
              (characterSet targets.toList))))))
  | "grep", arguments => search arguments input
  | _, _ => none

/-- There is a program of that name. -/
def isProgram (name : String) : Bool :=
  name ∈
    ["cat", "seq", "tee", "uniq", "head", "tail", "echo", "printf", "true",
      "false", "sleep", "sort", "tac", "rev", "wc", "sed", "tr", "grep"]

end LessonSite.Shell
