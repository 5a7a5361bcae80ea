import LessonSite.CommandLine.Arguments
import LessonSite.Config.Reader
import LessonSite.Config.Stock
import LessonSite.Playground.Once
import LessonSite.Playground.Process
import LessonSite.Site.Files
import LessonSite.Site.Inventory
import LessonSite.Template.Builtin
import LessonSite.Text.Hidden
import LessonSite.Tour.Reader

/-!
# Jobs of the command line

Listing a tour, checking it, making its site, and running the program of one
lesson.  A job prints lines as it goes on and may change files; what it has done
before it fails remains done.
-/

namespace LessonSite.CommandLine

/-- The line that names the program and its version. -/
def versionLine : String := "lang-tour 0.4.0"

def usageLines : List String :=
  ["Usage: lang-tour [--source DIRECTORY] [--output DIRECTORY] [-v] JOB",
    "",
    "  scan               lists the chapters and lessons of a tour",
    "  check              checks a tour without writing anything",
    "  build              writes the site of a tour",
    "  run [--debug] SLUG runs the program of a lesson",
    "  gen-config         prints a settings file with all settings"]

/-- Why a job fails. -/
inductive Failure where
  | config (error : Config.LoadError)
  | tour (fault : TourFault)
  | site (fault : SiteFault)
  | template (fault : TemplateFault)
  | worker (fault : WorkerFault)
  | noLesson (slug : String)
  /-- The program of the lesson failed, with lines to show. -/
  | program (lines : List String)

/-- The message for a lesson that does not exist, between quotation marks. -/
def noLessonMessage (slug : String) : String :=
  Text.quote ("no lesson with slug \"" ++ slug ++ "\"")

/-- The lines that tell of a failure; a program's own lines stand for
themselves. -/
def Failure.lines : Failure → List String
  | .config error => ["Error: " ++ error.message]
  | .tour fault => ["Error: " ++ fault.message]
  | .site fault => ["Error: " ++ fault.message]
  | .template fault => ["Error: " ++ fault.message]
  | .worker fault => ["Error: " ++ fault.message]
  | .noLesson slug => ["Error: " ++ noLessonMessage slug]
  | .program lines => lines

/-- Files, and the lines that have been printed. -/
structure Console where
  tree : FileTree
  printed : List String

/-- Something done on a console, which may fail. -/
abbrev Work := ExceptT Failure (StateM Console)

def printLines (lines : List String) : Work Unit :=
  modify fun console => { console with printed := console.printed ++ lines }

def files : Work FileTree := do
  return (← get).tree

def attempt {Fault Result : Type} (failure : Fault → Failure) :
    Except Fault Result → Work Result
  | .ok result => pure result
  | .error fault => throw (failure fault)

def loadConfig (source : String) : Work Config := do
  attempt .config (Config.load (← files) source)

def readTour (source : String) (config : Config) : Work Tour := do
  attempt .tour (Tour.read (← files) source config)

/-- Prints what was found in a tour. -/
def printTour (source : String) (tour : Tour) : Work Unit := do
  printLines (Inventory.ofTour tour (Inventory.settingFiles (← files) source))

def scan (source : String) : Work Unit := do
  let config ← loadConfig source
  printTour source (← readTour source config)

/-- Checks a tour without writing anything. -/
def check (source : String) : Work Unit := do
  printLines ["==> Checking " ++ source]
  let config ← loadConfig source
  let tour ← readTour source config
  let pages ← attempt .site (tour.pages config)
  let _ ← attempt .template (Template.load (← files) source config)
  printLines [Inventory.summary tour pages]

def build (source output : String) : Work Unit := do
  let config ← loadConfig source
  printLines ["==> Stage 1: Scanning " ++ source]
  let tour ← readTour source config
  printTour source tour
  printLines ["==> Stage 2: Generating pages → " ++ output]
  let pages ← attempt .site (tour.pages config)
  let template ← attempt .template (Template.load (← files) source config)
  let tree ← attempt .site (writeSite template output (← files) pages)
  modify fun console => { console with tree }
  printLines (Inventory.ofPages pages)
  printLines ["==> Build complete: " ++ output]

/-- The program shown on the page with the given path: that of a lesson, or of
the page a locale opens with. -/
def lessonCode? (tour : Tour) (slug : String) : Option String :=
  match Locale.all.find? fun locale => slug = locale.prefixed "" with
  | some locale => (tour.locale? locale).map fun part => part.intro.code
  | none => (tour.findLesson? slug).map Lesson.code

/-- Runs a program and prints its output. -/
def runProgram (config : Config) (code : String) (debug : Bool) :
    Work Unit := do
  if config.playground.compiler = [] then
    throw (.worker (.notConfigured "compiler"))
  if config.playground.runner = [] then
    throw (.worker (.notConfigured "runner"))
  let playground :=
    Playground.start config.mainFileName config.playground.debounce code .light
  let follower := Follower.start.lookAll
    (playground.runOnce debug (Worker.compile config.playground.compiler)
      (Worker.execute config.playground.runner))
  printLines follower.printed
  let last := follower.ended.getD .empty
  match last.status with
  | .failed _ => throw (.program last.shownLines)
  | _ => pure ()

/-- Runs the program of a lesson. -/
def run (source slug : String) (debug : Bool) : Work Unit := do
  let config ← loadConfig source
  let tour ← readTour source config
  let slug := Tour.bareSlug slug
  match lessonCode? tour slug with
  | none => throw (.noLesson slug)
  | some code => runProgram config code debug

def perform (invocation : Invocation) : Work Unit :=
  match invocation.job with
  | .scan => scan invocation.source
  | .check => check invocation.source
  | .build => build invocation.source invocation.output
  | .run => run invocation.source invocation.slug invocation.debug
  | .stockConfig => printLines (Text.lines Config.stockText)

/-- How the command line ends. -/
inductive Ending where
  | done
  | failed (failure : Failure)
  | stopped (stop : Stop)

/-- Does what arguments ask for, on some files. -/
def main (arguments : List String) (tree : FileTree) : Ending × Console :=
  match readArguments arguments with
  | .error .version => (.stopped .version, ⟨tree, [versionLine]⟩)
  | .error .help => (.stopped .help, ⟨tree, usageLines⟩)
  | .error stop => (.stopped stop, ⟨tree, []⟩)
  | .ok invocation =>
      match (perform invocation).run.run ⟨tree, []⟩ with
      | (.ok (), console) => (.done, console)
      | (.error failure, console) => (.failed failure, console)

/-- What the error stream shows at the end. -/
def Ending.complaint : Ending → List String
  | .failed failure => failure.lines
  | .stopped .usage => ["error: the arguments make no sense; see --help"]
  | _ => []

/-- The code of the program's end: mistakes in the arguments are told from
failures. -/
def Ending.exitCode : Ending → Nat
  | .done => 0
  | .failed _ => 1
  | .stopped .usage => 2
  | .stopped _ => 0

end LessonSite.CommandLine
