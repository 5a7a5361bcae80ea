import LessonSite.Text.Parts

/-!
# Arguments of the command line

A job with options before and after its name.  The directories of the tour and
of the site can be given in both places; what stands after the name counts.
-/

namespace LessonSite.CommandLine

/-- The jobs by their names. -/
inductive JobName where
  | scan
  | check
  | build
  | run
  | stockConfig
  deriving DecidableEq, Repr

namespace JobName

def name : JobName → String
  | .scan => "scan"
  | .check => "check"
  | .build => "build"
  | .run => "run"
  | .stockConfig => "gen-config"

def all : List JobName :=
  [.scan, .check, .build, .run, .stockConfig]

def ofName? (name : String) : Option JobName :=
  all.find? fun job => job.name = name

end JobName

/-- What is asked for. -/
structure Invocation where
  job : JobName
  source : String
  output : String
  /-- The lesson to run. -/
  slug : String
  debug : Bool
  deriving DecidableEq, Repr

/-- Why there is nothing to do. -/
inductive Stop where
  /-- The arguments make no sense. -/
  | usage
  | help
  | version
  deriving DecidableEq, Repr

/-- The options read before or after the name of a job. -/
structure Options where
  source : Option String
  output : Option String
  verbose : Bool
  debug : Bool
  slug : Option String
  deriving DecidableEq, Repr

namespace Options

def none : Options :=
  ⟨.none, .none, false, false, .none⟩

/-- Sets the directory of the tour, which can be given once. -/
def withSource (options : Options) (value : String) : Except Stop Options :=
  if options.source.isSome ∨ value = "" then .error .usage
  else .ok { options with source := some value }

/-- Sets the directory of the site, which can be given once. -/
def withOutput (options : Options) (value : String) : Except Stop Options :=
  if options.output.isSome ∨ value = "" then .error .usage
  else .ok { options with output := some value }

def withVerbose (options : Options) : Except Stop Options :=
  if options.verbose then
    .error .usage
  else .ok { options with verbose := true }

/-- Asks for a debug compile, once and for the job that compiles. -/
def withDebug (options : Options) (job : Option JobName) :
    Except Stop Options :=
  if job ≠ some .run ∨ options.debug then
    .error .usage
  else .ok { options with debug := true }

/-- Sets the lesson to run, once. -/
def withSlug (options : Options) (job : Option JobName) (value : String) :
    Except Stop Options :=
  if job ≠ some .run ∨ options.slug.isSome then .error .usage
  else .ok { options with slug := some value }

/-- Takes letters that stand for options. -/
def withLetters (options : Options) (job : Option JobName) :
    List Char → Except Stop Options
  | [] => .ok options
  | 'v' :: letters => do (← options.withVerbose).withLetters job letters
  | 'h' :: _ => .error .help
  | 'V' :: _ => .error (if job.isNone then .version else .usage)
  | _ => .error .usage

/-- Takes a word that names an option without a value. -/
def withWord (options : Options) (job : Option JobName) (word : String) :
    Except Stop Options :=
  if word = "--verbose" then options.withVerbose
  else if word = "--debug" then options.withDebug job
  else if word = "--help" then .error .help
  else if word = "--version" ∧ job.isNone then .error .version
  else .error .usage

/-- The value in a word such as `--source=tour`. -/
def valueIn? (name word : String) : Option String :=
  Text.afterStart? (name ++ "=") word

end Options

/-- The word can be the value of an option. -/
def isValue (word : String) : Bool :=
  word = "-" || !Text.startsWith "-" word

/-- Reads arguments, first those before the name of a job, then those after
it. -/
def readOptions (job : Option JobName) (options : Options) :
    List String → Except Stop (Options × Option (JobName × List String))
  | [] => .ok (options, none)
  | "--source" :: value :: rest => do
      if isValue value then readOptions job (← options.withSource value) rest
      else .error .usage
  | "--output" :: value :: rest => do
      if isValue value then readOptions job (← options.withOutput value) rest
      else .error .usage
  | "--" :: rest => do
      return (← rest.foldlM (fun options word => options.withSlug job word)
        options, none)
  | word :: rest => do
      if isValue word then
        match job with
        | some _ => readOptions job (← options.withSlug job word) rest
        | none =>
            match JobName.ofName? word with
            | some name => .ok (options, some (name, rest))
            | none => .error (if word = "help" then .help else .usage)
      else
        match Options.valueIn? "--source" word,
          Options.valueIn? "--output" word with
        | some value, _ => readOptions job (← options.withSource value) rest
        | none, some value => readOptions job (← options.withOutput value) rest
        | none, none =>
            if Text.startsWith "--" word then
              readOptions job (← options.withWord job word) rest
            else
              readOptions job
                (← options.withLetters job (word.toList.drop 1)) rest

/-- Reads the arguments of the command line. -/
def readArguments (arguments : List String) : Except Stop Invocation := do
  match ← readOptions none .none arguments with
  | (_, none) => .error .usage
  | (before, some (job, rest)) =>
      let (after, _) ← readOptions (some job) .none rest
      return {
        job
        source := (after.source.or before.source).getD "tour"
        output := (after.output.or before.output).getD "dist"
        slug := after.slug.getD ""
        debug := after.debug
      }

end LessonSite.CommandLine
