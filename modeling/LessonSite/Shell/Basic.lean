import LessonSite.Shell.Program
import LessonSite.Shell.Reader
import LessonSite.Text.Blank

/-!
# Running scripts

A shell with its variables and streams.  A script that is part of a word, and
every command of a longer pipeline, is run by a shell of its own.
-/

namespace LessonSite.Shell

/-- How a shell ends before its script does. -/
inductive Ending where
  | exited
  | killed
  deriving DecidableEq, Repr

/-- A shell. -/
structure State where
  environment : List (String × String)
  input : List UInt8
  output : List UInt8
  complaint : List UInt8
  /-- The code of the last command. -/
  code : Nat
  ending : Option Ending

/-- The number that stands for the shell itself. -/
def ownNumber : String := "4711"

namespace State

/-- A shell with something to read. -/
def start (input : List UInt8) : State :=
  ⟨[], input, [], [], 0, none⟩

def value (shell : State) (name : String) : String :=
  if name = "$" then ownNumber
  else if name = "?" then toString shell.code
  else (List.lookup name shell.environment).getD ""

def setVariable (shell : State) (name value : String) : State :=
  { shell with
    environment :=
      (name, value) :: shell.environment.filter fun (other, _) => other ≠ name }

def unsetVariable (shell : State) (name : String) : State :=
  { shell with
    environment := shell.environment.filter fun (other, _) => other ≠ name }

def write (shell : State) (target : Target) (bytes : List UInt8) : State :=
  match target with
  | .toOutput => { shell with output := shell.output ++ bytes }
  | .toComplaint => { shell with complaint := shell.complaint ++ bytes }
  | .nowhere => shell

/-- Where something goes that is sent to a target while output and complaints go
elsewhere. -/
def aim (current : Target × Target) : Target → Target
  | .toOutput => current.1
  | .toComplaint => current.2
  | .nowhere => .nowhere

/-- Where output and complaints go after redirections, each of which counts for
what follows. -/
def targets : List Redirection → Target × Target → Target × Target
  | [], current => current
  | .output target :: redirections, current =>
      targets redirections (aim current target, current.2)
  | .complaint target :: redirections, current =>
      targets redirections (current.1, aim current target)
  | .noInput :: redirections, current => targets redirections current

/-- What there is to read after redirections. -/
def inputAfter (shell : State) (redirections : List Redirection) : List UInt8 :=
  if redirections.contains .noInput then [] else shell.input

def finish (shell : State) (redirections : List Redirection)
    (finish : Finish) : State :=
  let (first, second) := targets redirections (.toOutput, .toComplaint)
  let shell := (shell.write first finish.output).write second finish.complaint
  { shell with
    input := if redirections.contains .noInput then shell.input else finish.rest
    code := finish.code }

/-- The shell in which the steps of a command are taken. -/
def inside (shell : State) (redirections : List Redirection) : State :=
  { shell with
    input := shell.inputAfter redirections, output := [], complaint := [] }

/-- Goes on after the steps of a command have been taken; those of a shell of
its own leave no variables behind and do not end this one. -/
def absorb (shell : State) (separate : Bool) (redirections : List Redirection)
    (inner : State) :
    State :=
  let after :=
    shell.finish redirections
      ⟨inner.output, inner.complaint, inner.code, inner.input⟩
  if separate then
    { after with
      ending :=
        if inner.ending = some .killed then some .killed else shell.ending }
  else { after with environment := inner.environment, ending := inner.ending }

/-- Reads a line into variables: a word into each, and all that is left into the
last. -/
def readLine (shell : State) (names : List String) : State :=
  let line := shell.input.takeWhile (· ≠ 10)
  let ended := shell.input.contains 10
  let shell := { shell with
    input := shell.input.drop (line.length + 1)
    code := if ended then 0 else 1 }
  fill shell names (skipBlanks (Utf8.decodeLossy line).toList)
where
  /-- Puts words into variables. -/
  fill (shell : State) : List String → List Char → State
    | [], _ => shell
    | [name], text =>
        shell.setVariable name (String.ofList (Text.trimEndChars isBlank text))
    | name :: names, text =>
        let (word, rest) := text.span fun character => !isBlank character
        fill (shell.setVariable name (String.ofList word)) names
          (skipBlanks rest)

def compareNumbers (left right : String) (isWanted : Int → Int → Bool) :
    Option Bool := do
  return isWanted (← left.toInt?) (← right.toInt?)

/-- Whether a test succeeds; `none` if it makes no sense. -/
def test : List String → Option Bool
  | [] => some false
  | "!" :: words => (test words).map (!·)
  | [word] => some (word ≠ "")
  | ["-n", word] => some (word ≠ "")
  | ["-z", word] => some (word = "")
  | [left, "=", right] => some (left = right)
  | [left, "!=", right] => some (left ≠ right)
  | [left, "-eq", right] => compareNumbers left right (· == ·)
  | [left, "-ne", right] => compareNumbers left right (· != ·)
  | [left, "-lt", right] => compareNumbers left right (· < ·)
  | [left, "-le", right] => compareNumbers left right (· ≤ ·)
  | [left, "-gt", right] => compareNumbers left right (· > ·)
  | [left, "-ge", right] => compareNumbers left right (· ≥ ·)
  | _ => none

def testCode (words : List String) : Nat :=
  match test words with
  | some true => 0
  | some false => 1
  | none => 2

/-- Runs a command whose words are known. -/
def call (shell : State) (redirections : List Redirection) : List String → State
  | [] => shell
  | [":"] => { shell with code := 0 }
  | ["exit"] => { shell with ending := some .exited }
  | "exit" :: number :: _ =>
      { shell with
        code := (number.toNat?.getD 2) % 256, ending := some .exited }
  | "exec" :: words =>
      if words.isEmpty then { shell with code := 0 }
      else
        let after := shell.call redirections words
        { after with ending := after.ending.or (some .exited) }
  | "kill" :: arguments =>
      if arguments.contains ownNumber ∧ ¬ arguments.contains "-0" then
        { shell with ending := some .killed }
      else { shell with code := if arguments.contains "-0" then 0 else 1 }
  | "read" :: names => shell.readLine (names.filter (· ≠ "-r"))
  | "test" :: words => { shell with code := testCode words }
  | "[" :: words =>
      { shell with
        code :=
          if words.getLast? = some "]" then testCode words.dropLast else 2 }
  | "unset" :: names => names.foldl unsetVariable { shell with code := 0 }
  | "export" :: words =>
      words.foldl (fun shell word =>
        match readAssignment word.toList with
        | some (name, value) => shell.setVariable name (String.ofList value)
        | none => shell) { shell with code := 0 }
  | "echo" :: arguments =>
      shell.finish redirections
        { Finish.success (echo true arguments) with
          rest := shell.inputAfter redirections }
  | name :: arguments =>
      let input := shell.inputAfter redirections
      match runProgram name arguments input with
      | some result => shell.finish redirections result
      | none =>
          shell.finish redirections
            { Finish.failure 127 ("sh: 1: " ++ name ++ ": not found") with
              rest := input }

/-- A text without the line feeds at its end. -/
def trimLineFeeds (text : String) : String :=
  String.ofList (Text.trimEndChars (· == '\n') text.toList)

/-- The words in characters, of which some are kept together. -/
def splitWords : List (Char × Bool) → List (List Char)
  | [] => [[]]
  | (character, kept) :: rest =>
      if !kept && (isBlank character || character == '\n') then
        [] :: splitWords rest
      else
        match splitWords rest with
        | word :: words => (character :: word) :: words
        | [] => [[character]]

mutual

/-- The characters of a word, each with whether it is kept together with its
neighbours. -/
def expand : (fuel : Nat) → State → List WordPart → State × List (Char × Bool)
  | 0, shell, _ => (shell, [])
  | _ + 1, shell, [] => (shell, [])
  | fuel + 1, shell, part :: parts =>
      let (shell, text, kept) :=
        match part with
        | .text text _ => (shell, text, true)
        | .variable name quoted => (shell, shell.value name, quoted)
        | .valueOr name text quoted =>
            (shell, if shell.value name = "" then text else shell.value name,
              quoted)
        | .sum text =>
            (shell,
              toString
                ((evaluateSum (fun name => (shell.value name).toInt?.getD 0)
                  text).getD 0), true)
        | .size name =>
            (shell, toString (Utf8.encode (shell.value name)).length, true)
        | .output script quoted =>
            let inner := runSteps fuel { shell with output := [] } script
            ({ shell with
                input := inner.input
                complaint := inner.complaint
                code := inner.code
                ending :=
                  if inner.ending = some Ending.killed then
                    some .killed
                  else shell.ending },
              trimLineFeeds (Utf8.decodeLossy (inner.output.filter (· ≠ 0))),
              quoted)
      let (shell, rest) := expand fuel shell parts
      (shell, text.toList.map (·, kept) ++ rest)

def assign : (fuel : Nat) → State → List (String × List WordPart) → State
  | 0, shell, _ => shell
  | _ + 1, shell, [] => shell
  | fuel + 1, shell, (name, word) :: assignments =>
      let (shell, value) := expand fuel shell word
      let text := String.ofList (value.map Prod.fst)
      assign fuel (shell.setVariable name text) assignments

def expandWords :
    (fuel : Nat) → State → List (List WordPart) → State × List String
  | 0, shell, _ => (shell, [])
  | _ + 1, shell, [] => (shell, [])
  | fuel + 1, shell, word :: words =>
      let (shell, characters) := expand fuel shell word
      let quoted := word.any fun part =>
        match part with
        | .text _ quoted => quoted
        | .variable _ quoted => quoted
        | .valueOr _ _ quoted => quoted
        | .size _ => true
        | .sum _ => true
        | .output _ quoted => quoted
      let found := (splitWords characters).filter (· ≠ [])
      let found := if found.isEmpty && quoted then [[]] else found
      let (shell, rest) := expandWords fuel shell words
      (shell, found.map String.ofList ++ rest)

def runCommand : (fuel : Nat) → State → Command → State
  | 0, shell, _ => shell
  | fuel + 1, shell, .simple assignments words redirections =>
      let (shell, words) := expandWords fuel shell words
      if words.isEmpty then assign fuel { shell with code := 0 } assignments
      else (assign fuel shell assignments).call redirections words
  | fuel + 1, shell, .group separate body redirections =>
      shell.absorb separate redirections
        (runSteps fuel (shell.inside redirections) body)
  | fuel + 1, shell, .choice condition body otherwise redirections =>
      let asked := runSteps fuel (shell.inside redirections) condition
      shell.absorb false redirections <|
        if asked.ending.isSome then asked
        else if asked.code = 0 then runSteps fuel asked body
        else runSteps fuel { asked with code := 0 } otherwise
  | fuel + 1, shell, .loop whileFailing condition body redirections =>
      shell.absorb false redirections
        (runLoop fuel (shell.inside redirections) whileFailing 0 condition body)
  | fuel + 1, shell, .each name words body redirections =>
      let (shell, words) := expandWords fuel shell words
      shell.absorb false redirections
        (runEach fuel { shell.inside redirections with code := 0 }
          name words body)

/-- Takes steps as long as a condition succeeds, or fails; the code is that of
the last round. -/
def runLoop : (fuel : Nat) → State → Bool → Nat → List Step → List Step → State
  | 0, shell, _, _, _, _ => shell
  | fuel + 1, shell, whileFailing, code, condition, body =>
      let asked := runSteps fuel shell condition
      if asked.ending.isSome then asked
      else if (asked.code = 0) = !whileFailing then
        let done := runSteps fuel asked body
        if done.ending.isSome then done
        else runLoop fuel done whileFailing done.code condition body
      else { asked with code }

/-- Takes steps for each of some words. -/
def runEach : (fuel : Nat) → State → String → List String → List Step → State
  | 0, shell, _, _, _ => shell
  | _ + 1, shell, _, [], _ => shell
  | fuel + 1, shell, name, word :: words, body =>
      let done := runSteps fuel (shell.setVariable name word) body
      if done.ending.isSome then done else runEach fuel done name words body

/-- Runs the commands of a pipeline, each on the output of the one before. -/
def runPipeline : (fuel : Nat) → State → List Command → State
  | 0, shell, _ => shell
  | _ + 1, shell, [] => shell
  | fuel + 1, shell, [command] => runCommand fuel shell command
  | fuel + 1, shell, command :: commands =>
      let first := runCommand fuel { shell with output := [] } command
      let last := runPipeline fuel
        { shell with
          input := first.output, output := [], complaint := first.complaint }
        commands
      { shell with
        input := first.input
        output := shell.output ++ last.output
        complaint := last.complaint
        code := last.code
        ending :=
          if first.ending = some Ending.killed ∨
            last.ending = some Ending.killed then some .killed
          else none }

/-- Runs steps until the shell ends. -/
def runSteps : (fuel : Nat) → State → List Step → State
  | 0, shell, _ => shell
  | _ + 1, shell, [] => shell
  | fuel + 1, shell, .run condition negated commands :: steps =>
      let wanted :=
        match condition with
        | .always => true
        | .afterSuccess => shell.code = 0
        | .afterFailure => shell.code ≠ 0
      let next :=
        if wanted then
          let next := runPipeline fuel shell commands
          if negated then
            { next with code := if next.code = 0 then 1 else 0 }
          else next
        else shell
      if next.ending.isSome then next else runSteps fuel next steps

end

/-- More commands than this are not run one inside the other or in one loop. -/
def patience : Nat := 100000

/-- Runs a script; one that cannot be read is refused. -/
def runScript (shell : State) (script : String) : State :=
  match readScript? script with
  | none =>
      { shell with complaint := Utf8.encode "sh: 1: Syntax error\n", code := 2 }
  | some steps => runSteps patience shell steps

end State

end LessonSite.Shell
