/-!
# Scripts

A script is a list of steps, each a pipeline of commands that is run always or
only after success or failure of what came before.  The words of a command hold
texts, variables, sums and the output of scripts.  Steps are put together to
groups, choices and loops.  In a sum, whole numbers and variables are added,
multiplied and divided in the usual order.
-/

namespace LessonSite.Shell

/-- When a step is run. -/
inductive Condition where
  | always
  | afterSuccess
  | afterFailure
  deriving DecidableEq, Repr

/-- Where output goes. -/
inductive Target where
  | toOutput
  | toComplaint
  | nowhere
  deriving DecidableEq, Repr

/-- A stream of a command sent elsewhere. -/
inductive Redirection where
  | output (target : Target)
  | complaint (target : Target)
  | noInput
  deriving DecidableEq, Repr

mutual

/-- A part of a word.  What quotation marks enclose is kept together. -/
inductive WordPart where
  | text (text : String) (quoted : Bool)
  | variable (name : String) (quoted : Bool)
  /-- A variable, or a text if it is empty. -/
  | valueOr (name text : String) (quoted : Bool)
  /-- The number of bytes in a variable. -/
  | size (name : String)
  /-- The value of a sum. -/
  | sum (text : String)
  | output (script : List Step) (quoted : Bool)

/-- A command; its streams may be sent elsewhere. -/
inductive Command where
  /-- Variables to set, and words. -/
  | simple (assignments : List (String × List WordPart))
      (words : List (List WordPart)) (redirections : List Redirection)
  /-- Steps taken one after the other, perhaps by a shell of their own. -/
  | group (separate : Bool) (body : List Step) (redirections : List Redirection)
  /-- Steps taken if a condition succeeds, and others taken if it fails. -/
  | choice (condition body otherwise : List Step)
      (redirections : List Redirection)
  /-- Steps taken again and again as long as a condition succeeds, or fails. -/
  | loop (whileFailing : Bool) (condition body : List Step)
      (redirections : List Redirection)
  /-- Steps taken for each of some words. -/
  | each (name : String) (words : List (List WordPart)) (body : List Step)
      (redirections : List Redirection)

/-- A step of a script. -/
inductive Step where
  | run (condition : Condition) (negated : Bool) (commands : List Command)

end

/-- A sum without blanks and dollar signs. -/
def sumCharacters (text : String) : List Char :=
  text.toList.filter fun character => character ∉ [' ', '\t', '\n', '$']

mutual

/-- The value of the terms that follow, added to a number. -/
def addTerms (value : String → Int) (number : Int) :
    (fuel : Nat) → List Char → Option (Int × List Char)
  | 0, _ => none
  | fuel + 1, '+' :: rest => do
      let (term, rest) ← readTerm value fuel rest
      addTerms value (number + term) fuel rest
  | fuel + 1, '-' :: rest => do
      let (term, rest) ← readTerm value fuel rest
      addTerms value (number - term) fuel rest
  | _ + 1, rest => some (number, rest)

/-- The value of the factors that follow, multiplied with a number; nothing is
divided by zero. -/
def multiplyFactors (value : String → Int) (number : Int) :
    (fuel : Nat) → List Char → Option (Int × List Char)
  | 0, _ => none
  | fuel + 1, '*' :: rest => do
      let (factor, rest) ← readFactor value fuel rest
      multiplyFactors value (number * factor) fuel rest
  | fuel + 1, '/' :: rest => do
      let (factor, rest) ← readFactor value fuel rest
      if factor = 0 then none
      else multiplyFactors value (number.tdiv factor) fuel rest
  | fuel + 1, '%' :: rest => do
      let (factor, rest) ← readFactor value fuel rest
      if factor = 0 then none
      else multiplyFactors value (number.tmod factor) fuel rest
  | _ + 1, rest => some (number, rest)

def readTerm (value : String → Int) :
    (fuel : Nat) → List Char → Option (Int × List Char)
  | 0, _ => none
  | fuel + 1, text => do
      let (factor, rest) ← readFactor value fuel text
      multiplyFactors value factor fuel rest

/-- The value of a factor: a number, a variable, or a sum between brackets. -/
def readFactor (value : String → Int) :
    (fuel : Nat) → List Char → Option (Int × List Char)
  | 0, _ => none
  | fuel + 1, '-' :: rest =>
      (readFactor value fuel rest).map fun (factor, rest) => (-factor, rest)
  | fuel + 1, '(' :: rest => do
      let (term, rest) ← readTerm value fuel rest
      match ← addTerms value term fuel rest with
      | (sum, ')' :: rest) => return (sum, rest)
      | _ => none
  | _ + 1, text =>
      let (word, rest) :=
        text.span fun character => character.isAlphanum || character == '_'
      match word with
      | [] => none
      | first :: _ =>
          if first.isDigit then
            (String.ofList word).toNat?.map fun number => ((number : Int), rest)
          else some (value (String.ofList word), rest)

end

/-- The value of a sum, given those of variables. -/
def evaluateSum (value : String → Int) (text : String) : Option Int :=
  let characters := sumCharacters text
  let fuel := 4 * characters.length + 4
  match (readTerm value fuel characters).bind fun (term, rest) =>
    addTerms value term fuel rest with
  | some (sum, []) => some sum
  | _ => none

end LessonSite.Shell
