import LessonSite.Shell.Script
import LessonSite.Text.Parts

/-!
# Reading scripts

The grammar of scripts, as far as workers need it.
-/

namespace LessonSite.Shell

def isBlank (character : Char) : Bool :=
  character == ' ' || character == '\t'

/-- A character that ends a word. -/
def endsWord (character : Char) : Bool :=
  isBlank character || character ∈ ['\n', ';', '|', '&', '<', '>', '(', ')']

/-- A character that may begin a name. -/
def beginsName (character : Char) : Bool :=
  character.isAlpha || character == '_'

def readName (text : List Char) : List Char × List Char :=
  text.span fun character => character.isAlphanum || character == '_'

def skipBlanks (text : List Char) : List Char :=
  text.dropWhile isBlank

/-- Passes over blanks, ends of lines, semicolons and comments between steps. -/
def skipBreaks : (fuel : Nat) → List Char → List Char
  | 0, text => text
  | fuel + 1, text =>
      match text with
      | '#' :: rest => skipBreaks fuel (rest.dropWhile (· ≠ '\n'))
      | character :: rest =>
          if isBlank character || character == '\n' || character == ';' then
            skipBreaks fuel rest
          else text
      | [] => []

/-- What follows a word that stands alone. -/
def afterWord? (word : String) (text : List Char) : Option (List Char) :=
  let length := word.length
  if text.take length = word.toList ∧ (text.drop length).head?.all endsWord then
    some (text.drop length)
  else none

/-- Words that end a list of steps. -/
def endingWords : List String :=
  ["\x7d", "then", "else", "elif", "fi", "do", "done"]

def endsSteps (text : List Char) : Bool :=
  text.isEmpty || text.head? == some ')' ||
    endingWords.any fun word => (afterWord? word text).isSome

def readTarget (text : List Char) : Option (Target × List Char) :=
  match text with
  | '&' :: '1' :: rest => some (.toOutput, rest)
  | '&' :: '2' :: rest => some (.toComplaint, rest)
  | _ =>
      let text := skipBlanks (text.dropWhile (· == '>'))
      let (path, rest) := text.span fun character => !endsWord character
      if path = [] then none else some (.nowhere, rest)

/-- Reads a redirection, if there is one. -/
def readRedirection (text : List Char) : Option (Redirection × List Char) :=
  match text with
  | '>' :: rest =>
      (readTarget rest).map fun (target, rest) => (.output target, rest)
  | '1' :: '>' :: rest =>
      (readTarget rest).map fun (target, rest) => (.output target, rest)
  | '2' :: '>' :: rest =>
      (readTarget rest).map fun (target, rest) => (.complaint target, rest)
  | '<' :: rest => (readTarget rest).map fun (_, rest) => (.noInput, rest)
  | _ => none

/-- Reads all redirections that stand here. -/
def readRedirections : (fuel : Nat) → List Char → List Redirection × List Char
  | 0, text => ([], text)
  | fuel + 1, text =>
      match readRedirection (skipBlanks text) with
      | some (redirection, rest) =>
          let (redirections, rest) := readRedirections fuel rest
          (redirection :: redirections, rest)
      | none => ([], skipBlanks text)

/-- Reads a sum up to the two brackets that end it. -/
def readSum : (depth : Nat) → List Char → Option (List Char × List Char)
  | _, [] => none
  | 0, ')' :: ')' :: rest => some ([], rest)
  | 0, ')' :: _ => none
  | depth + 1, ')' :: rest =>
      (readSum depth rest).map fun (sum, rest) => (')' :: sum, rest)
  | depth, '(' :: rest =>
      (readSum (depth + 1) rest).map fun (sum, rest) => ('(' :: sum, rest)
  | depth, character :: rest =>
      (readSum depth rest).map fun (sum, rest) => (character :: sum, rest)

/-- Reads a name and the sign of an assignment, if they are there. -/
def readAssignment (text : List Char) : Option (String × List Char) :=
  match text, readName text with
  | first :: _, (name, '=' :: rest) =>
      if beginsName first then some (String.ofList name, rest) else none
  | _, _ => none

mutual

/-- Reads what follows a dollar sign. -/
def readDollar (quoted : Bool) :
    (fuel : Nat) → List Char → Option (WordPart × List Char)
  | 0, _ => none
  | _ + 1, '(' :: '(' :: rest =>
      (readSum 0 rest).map fun (sum, rest) => (.sum (String.ofList sum), rest)
  | fuel + 1, '(' :: rest => do
      match ← readSteps fuel rest with
      | (script, ')' :: rest) => return (.output script quoted, rest)
      | _ => none
  | _ + 1, '\x7b' :: '#' :: rest =>
      match readName rest with
      | (name, '\x7d' :: rest) => some (.size (String.ofList name), rest)
      | _ => none
  | _ + 1, '\x7b' :: rest =>
      match readName rest with
      | (name, '\x7d' :: rest) =>
          some (.variable (String.ofList name) quoted, rest)
      | (name, ':' :: '-' :: rest) =>
          let (text, rest) := rest.span (· ≠ '\x7d')
          some
            (.valueOr (String.ofList name) (String.ofList text) quoted,
              rest.drop 1)
      | _ => none
  | _ + 1, '$' :: rest => some (.variable "$" quoted, rest)
  | _ + 1, '?' :: rest => some (.variable "?" quoted, rest)
  | _ + 1, '#' :: rest => some (.text "0" true, rest)
  | _ + 1, '0' :: rest => some (.text "sh" true, rest)
  | _ + 1, text =>
      match text with
      | first :: _ =>
          if beginsName first then
            let (name, rest) := readName text
            some (.variable (String.ofList name) quoted, rest)
          else some (.text "$" true, text)
      | [] => some (.text "$" true, [])

/-- Reads a script between grave accents, the first of which has been read. -/
def readEnclosed (quoted : Bool) :
    (fuel : Nat) → List Char → Option (WordPart × List Char)
  | 0, _ => none
  | fuel + 1, text =>
      match text.span (· ≠ '\x60') with
      | (inside, '\x60' :: rest) =>
          match readSteps fuel inside with
          | some (script, []) => some (.output script quoted, rest)
          | _ => none
      | _ => none

/-- Reads what stands between double quotation marks. -/
def readQuoted : (fuel : Nat) → List Char → Option (List WordPart × List Char)
  | 0, _ => none
  | _ + 1, [] => none
  | _ + 1, '"' :: rest => some ([.text "" true], rest)
  | fuel + 1, '$' :: rest => do
      let (part, rest) ← readDollar true fuel rest
      let (parts, rest) ← readQuoted fuel rest
      return (part :: parts, rest)
  | fuel + 1, '\x60' :: rest => do
      let (part, rest) ← readEnclosed true fuel rest
      let (parts, rest) ← readQuoted fuel rest
      return (part :: parts, rest)
  | fuel + 1, '\\' :: character :: rest => do
      let (parts, rest) ← readQuoted fuel rest
      let text :=
        if character ∈ ['$', '"', '\\'] then String.singleton character
        else String.ofList ['\\', character]
      return (.text text true :: parts, rest)
  | fuel + 1, character :: rest => do
      let (parts, rest) ← readQuoted fuel rest
      return (.text (String.singleton character) true :: parts, rest)

/-- Reads a word up to the character that ends it. -/
def readWord : (fuel : Nat) → List Char → Option (List WordPart × List Char)
  | 0, _ => none
  | _ + 1, [] => some ([], [])
  | fuel + 1, '\'' :: rest => do
      let (inside, rest) := rest.span (· ≠ '\'')
      match rest with
      | '\'' :: rest =>
          let (parts, rest) ← readWord fuel rest
          return (.text (String.ofList inside) true :: parts, rest)
      | _ => none
  | fuel + 1, '"' :: rest => do
      let (inside, rest) ← readQuoted fuel rest
      let (parts, rest) ← readWord fuel rest
      return (inside ++ parts, rest)
  | fuel + 1, '\\' :: character :: rest => do
      let (parts, rest) ← readWord fuel rest
      return (.text (String.singleton character) true :: parts, rest)
  | fuel + 1, '$' :: rest => do
      let (part, rest) ← readDollar false fuel rest
      let (parts, rest) ← readWord fuel rest
      return (part :: parts, rest)
  | fuel + 1, '\x60' :: rest => do
      let (part, rest) ← readEnclosed false fuel rest
      let (parts, rest) ← readWord fuel rest
      return (part :: parts, rest)
  | fuel + 1, character :: rest =>
      if endsWord character then some ([], character :: rest)
      else do
        let (parts, rest) ← readWord fuel rest
        return (.text (String.singleton character) false :: parts, rest)

/-- Reads words up to something else. -/
def readWords :
    (fuel : Nat) → List Char → Option (List (List WordPart) × List Char)
  | 0, _ => none
  | fuel + 1, text =>
      match skipBlanks text with
      | [] => some ([], [])
      | first :: rest =>
          if endsWord first then some ([], first :: rest)
          else do
            let (word, rest) ← readWord fuel (first :: rest)
            let (words, rest) ← readWords fuel rest
            return (word :: words, rest)

/-- Reads the rest of a simple command; assignments stand before the first
word. -/
def readSimple (begun : Bool) : (fuel : Nat) → List Char →
    Option
      ((List (String × List WordPart) × List (List WordPart) ×
        List Redirection) × List Char)
  | 0, _ => none
  | fuel + 1, text => do
      let text := skipBlanks text
      match readRedirection text with
      | some (redirection, rest) =>
          let ((assignments, words, redirections), rest)
            ← readSimple begun fuel rest
          return ((assignments, words, redirection :: redirections), rest)
      | none =>
          match text with
          | [] => return (([], [], []), [])
          | '#' :: rest => return (([], [], []), rest.dropWhile (· ≠ '\n'))
          | first :: _ =>
              if endsWord first then return (([], [], []), text)
              else
                match if begun then none else readAssignment text with
                | some (name, rest) =>
                    let (value, rest) ← readWord fuel rest
                    let ((assignments, words, redirections), rest)
                      ← readSimple false fuel rest
                    return (((name, value) :: assignments, words, redirections),
                      rest)
                | none =>
                    let (word, rest) ← readWord fuel text
                    let ((assignments, words, redirections), rest)
                      ← readSimple true fuel rest
                    return ((assignments, word :: words, redirections), rest)

/-- Reads steps and the word that ends them. -/
def readBody (word : String) :
    (fuel : Nat) → List Char → Option (List Step × List Char)
  | 0, _ => none
  | fuel + 1, text => do
      let (body, rest) ← readSteps fuel text
      return (body, ← afterWord? word rest)

/-- Reads a choice from its condition on, with the word that ends it. -/
def readChoice : (fuel : Nat) → List Char →
    Option ((List Step × List Step × List Step) × List Char)
  | 0, _ => none
  | fuel + 1, text => do
      let (condition, rest) ← readBody "then" fuel text
      let (body, rest) ← readSteps fuel rest
      match afterWord? "fi" rest, afterWord? "else" rest,
        afterWord? "elif" rest with
      | some rest, _, _ => return ((condition, body, []), rest)
      | none, some rest, _ =>
          let (otherwise, rest) ← readBody "fi" fuel rest
          return ((condition, body, otherwise), rest)
      | none, none, some rest =>
          let ((inner, first, second), rest) ← readChoice fuel rest
          return ((condition, body,
            [.run .always false [.choice inner first second []]]), rest)
      | none, none, none => none

/-- Reads a command; its first word may tell that it holds steps. -/
def readCommand : (fuel : Nat) → List Char → Option (Command × List Char)
  | 0, _ => none
  | fuel + 1, text => do
      let text := skipBlanks text
      match text with
      | '(' :: rest =>
          match ← readSteps fuel rest with
          | (body, ')' :: rest) =>
              let (redirections, rest) := readRedirections rest.length rest
              return (.group true body redirections, rest)
          | _ => none
      | _ =>
          if let some rest := afterWord? "\x7b" text then
            let (body, rest) ← readBody "\x7d" fuel rest
            let (redirections, rest) := readRedirections rest.length rest
            return (.group false body redirections, rest)
          else if let some rest := afterWord? "if" text then
            let ((condition, body, otherwise), rest) ← readChoice fuel rest
            let (redirections, rest) := readRedirections rest.length rest
            return (.choice condition body otherwise redirections, rest)
          else if let some (whileFailing, rest) :=
              ((afterWord? "while" text).map (false, ·)).or
                ((afterWord? "until" text).map (true, ·)) then
            let (condition, rest) ← readBody "do" fuel rest
            let (body, rest) ← readBody "done" fuel rest
            let (redirections, rest) := readRedirections rest.length rest
            return (.loop whileFailing condition body redirections, rest)
          else if let some rest := afterWord? "for" text then
            let (name, rest) := readName (skipBlanks rest)
            let rest ← afterWord? "in" (skipBlanks rest)
            let (words, rest) ← readWords fuel rest
            let rest ← afterWord? "do" (skipBreaks rest.length rest)
            let (body, rest) ← readBody "done" fuel rest
            let (redirections, rest) := readRedirections rest.length rest
            return (.each (String.ofList name) words body redirections, rest)
          else
            let ((assignments, words, redirections), rest)
              ← readSimple false fuel text
            return (.simple assignments words redirections, rest)

/-- Reads the commands of a pipeline. -/
def readPipeline : (fuel : Nat) → List Char → Option (List Command × List Char)
  | 0, _ => none
  | fuel + 1, text => do
      let (command, rest) ← readCommand fuel text
      match command with
      | .simple [] [] [] => none
      | _ =>
          match rest with
          | '|' :: '|' :: _ => return ([command], rest)
          | '|' :: rest =>
              let (commands, rest) ← readPipeline fuel rest
              return (command :: commands, rest)
          | _ => return ([command], rest)

/-- Reads a step that has a condition, and those after it. -/
def readStep (condition : Condition) :
    (fuel : Nat) → List Char → Option (List Step × List Char)
  | 0, _ => none
  | fuel + 1, text => do
      let text := skipBreaks text.length text
      let (negated, text) :=
        match text with
        | '!' :: ' ' :: rest => (true, rest)
        | text => (false, text)
      let (commands, rest) ← readPipeline fuel text
      let step := Step.run condition negated commands
      match rest with
      | '&' :: '&' :: rest =>
          let (steps, rest) ← readStep .afterSuccess fuel rest
          return (step :: steps, rest)
      | '|' :: '|' :: rest =>
          let (steps, rest) ← readStep .afterFailure fuel rest
          return (step :: steps, rest)
      | '&' :: _ => none
      | _ =>
          let (steps, rest) ← readSteps fuel rest
          return (step :: steps, rest)

/-- Reads steps up to a word or a bracket that ends them. -/
def readSteps : (fuel : Nat) → List Char → Option (List Step × List Char)
  | 0, _ => none
  | fuel + 1, text =>
      let text := skipBreaks text.length text
      if endsSteps text then some ([], text) else readStep .always fuel text

end

def readScript? (text : String) : Option (List Step) :=
  match readSteps (4 * text.length + 16) text.toList with
  | some (steps, []) => some steps
  | _ => none

end LessonSite.Shell
