import LessonSite.Client.Theme
import LessonSite.Playground.Diagnostic
import LessonSite.Playground.Worker

/-!
# Playgrounds

The program in the editor is compiled and run when it has not been edited for a
while.  Every edit, every new lesson and every request to run takes a new
ticket; the ticket taken last owns the pane, and what older tickets still bring
is not shown.  Each ticket has a task that waits, compiles and runs, and every
step of a task is an event.
-/

namespace LessonSite

/-- How far the program in the pane has come. -/
inductive PaneStatus where
  | idle
  | compiling
  | running
  | finished
  | failed (diagnostics : List Diagnostic)
  deriving DecidableEq, Repr, Inhabited

/-- A pane, with the ticket of the compile that last wrote it. -/
structure Pane where
  status : PaneStatus
  lines : List String
  ticket : Nat
  deriving DecidableEq, Repr, Inhabited

namespace Pane

/-- A pane that nothing was written to. -/
def empty : Pane :=
  ⟨.idle, [], 0⟩

def text (pane : Pane) : String :=
  String.intercalate "\n" pane.lines

/-- The lines to show: diagnostics if the program failed, else its output. -/
def shownLines (pane : Pane) : List String :=
  match pane.status with
  | .failed diagnostics => diagnostics.map (·.shown)
  | _ => pane.lines

end Pane

/-- How far the task of a ticket has come. -/
inductive Stage where
  /-- It waits before it compiles, for the given time if there is one. -/
  | armed (delay : Option Nat)
  | compiling
  /-- The runner has been given the artifact. -/
  | starting
  | streaming
  deriving DecidableEq, Repr

/-- The task of a ticket. -/
structure Task where
  ticket : Nat
  debug : Bool
  stage : Stage
  deriving DecidableEq, Repr

/-- A playground. -/
structure Playground where
  /-- The name under which the program is compiled. -/
  fileName : String
  /-- Milliseconds without an edit before a program is compiled. -/
  debounce : Nat
  buffer : String
  /-- The ticket that owns the pane. -/
  owner : Option Nat
  /-- A counter of 64 bits: fewer than `2 ^ 64` tickets are taken. -/
  nextTicket : Nat
  theme : Theme
  /-- A counter of 64 bits: the compiler is started fewer than `2 ^ 64`
  times. -/
  compilesStarted : Nat
  pane : Pane
  tasks : List Task
  deriving DecidableEq, Repr

/-- Something that happens to a playground. -/
inductive PlaygroundEvent where
  | edit (text : String)
  | run (debug : Bool)
  /-- Another lesson with its program is shown. -/
  | lesson (code : String)
  | theme (theme : Theme)
  /-- The playground is given up. -/
  | close
  /-- The time before the compile is over. -/
  | wake (ticket : Nat)
  | compiled (ticket : Nat) (reply : Except WorkerFault CompileResult)
  /-- The runner has started, or it could not. -/
  | started (ticket : Nat) (fault : Option WorkerFault)
  | line (ticket : Nat) (line : String)
  | ended (ticket : Nat)

/-- Something a playground asks of a worker. -/
inductive Order where
  | compile (ticket : Nat) (request : CompileRequest)
  | execute (ticket : Nat) (artifact : String)
  deriving DecidableEq, Repr

/-- What a step of a playground brings about. -/
structure Effect where
  playground : Playground
  /-- The pane that those who watch it are shown, if it was written. -/
  written : Option Pane
  /-- What is asked of a worker. -/
  order : Option Order
  deriving DecidableEq, Repr

namespace Playground

/-- A playground in which nothing has been asked for. -/
def start (fileName : String) (debounce : Nat) (code : String) (theme : Theme) :
    Playground where
  fileName
  debounce
  buffer := code
  owner := none
  nextTicket := 1
  theme
  compilesStarted := 0
  pane := .empty
  tasks := []

/-- Takes a new ticket, which owns the pane from now on. -/
def arm (playground : Playground) (delay : Option Nat)
    (debug : Bool) : Playground :=
  { playground with
    owner := some playground.nextTicket
    nextTicket := playground.nextTicket + 1
    tasks :=
      playground.tasks ++ [⟨playground.nextTicket, debug, .armed delay⟩] }

/-- Exchanges the program and takes a ticket that waits for further edits. -/
def exchange (playground : Playground) (code : String) : Playground :=
  { playground with buffer := code }.arm (some playground.debounce) false

/-- The task of a ticket, if it is at a stage of the given kind. -/
def taskAt? (playground : Playground) (ticket : Nat) (atStage : Stage → Bool) :
    Option Task :=
  playground.tasks.find? fun task => task.ticket = ticket ∧ atStage task.stage

def finish (playground : Playground) (ticket : Nat) : Playground :=
  { playground with
    tasks := playground.tasks.filter fun task => task.ticket ≠ ticket }

/-- Moves the task of a ticket to a stage. -/
def moveOn (playground : Playground) (ticket : Nat)
    (stage : Stage) : Playground :=
  { playground with
    tasks := playground.tasks.map fun task =>
      if task.ticket = ticket then { task with stage } else task }

/-- Nothing is written and nothing asked for. -/
def quietly (playground : Playground) : Effect :=
  ⟨playground, none, none⟩

/-- Changes the pane in the name of a ticket if the ticket owns it; the pane
that was written. -/
def update (playground : Playground) (ticket : Nat) (change : Pane → Pane) :
    Playground × Option Pane :=
  if playground.owner = some ticket then
    let pane := change { playground.pane with ticket }
    ({ playground with pane }, some pane)
  else (playground, none)

/-- Changes the pane in the name of a ticket and goes on with its task; a ticket
that does not own the pane has its task ended. -/
def updateThen (playground : Playground) (ticket : Nat) (change : Pane → Pane)
    (next : Playground → Playground) (order : Option Order) : Effect :=
  match playground.update ticket change with
  | (updated, some pane) => ⟨next updated, some pane, order⟩
  | (_, none) => (playground.finish ticket).quietly

/-- The task fails: the pane shows diagnostics and nothing else. -/
def fail (playground : Playground) (ticket : Nat)
    (diagnostics : List Diagnostic) : Effect :=
  playground.updateThen ticket
    (fun pane => { pane with status := .failed diagnostics, lines := [] })
    (·.finish ticket) none

/-- The request for the program as it is now. -/
def request (playground : Playground) (debug : Bool) : CompileRequest :=
  ⟨[(playground.fileName, playground.buffer)], debug⟩

/-- Sends the program to the compiler if the ticket of the task still owns the
pane. -/
def compile (playground : Playground) (task : Task) : Effect :=
  if playground.owner = some task.ticket then
    let counted :=
      { playground with compilesStarted := playground.compilesStarted + 1 }
    let (updated, written) :=
      counted.update task.ticket fun pane => { pane with status := .compiling }
    ⟨updated.moveOn task.ticket .compiling, written,
      some (.compile task.ticket (playground.request task.debug))⟩
  else (playground.finish task.ticket).quietly

/-- Takes what the compiler has made of the program. -/
def take (playground : Playground) (ticket : Nat) :
    Except WorkerFault CompileResult → Effect
  | .ok (.success artifact) =>
      playground.updateThen ticket
        (fun pane => { pane with status := .running, lines := [] })
        (·.moveOn ticket .starting) (some (.execute ticket artifact))
  | .ok (.error diagnostics) => playground.fail ticket diagnostics
  | .error fault => playground.fail ticket [.error fault.message]

/-- What happens changes the playground and may ask something of a worker.  An
event for a ticket whose task is not at that point has no effect. -/
def step (playground : Playground) : PlaygroundEvent → Effect
  | .edit text => (playground.exchange text).quietly
  | .run debug => (playground.arm none debug).quietly
  | .lesson code => (playground.exchange code).quietly
  | .theme theme => { playground with theme }.quietly
  | .close => { playground with owner := none }.quietly
  | .wake ticket =>
      match playground.taskAt? ticket (fun stage => stage matches .armed _) with
      | none => playground.quietly
      | some task => playground.compile task
  | .compiled ticket reply =>
      match playground.taskAt? ticket (· = .compiling) with
      | none => playground.quietly
      | some _ => playground.take ticket reply
  | .started ticket fault =>
      match playground.taskAt? ticket (· = .starting), fault with
      | none, _ => playground.quietly
      | some _, none => (playground.moveOn ticket .streaming).quietly
      | some _, some fault => playground.fail ticket [.error fault.message]
  | .line ticket line =>
      match playground.taskAt? ticket (· = .streaming) with
      | none => playground.quietly
      | some _ =>
          playground.updateThen ticket
            (fun pane => { pane with lines := pane.lines ++ [line] }) id none
  | .ended ticket =>
      match playground.taskAt? ticket (· = .streaming) with
      | none => playground.quietly
      | some _ =>
          playground.updateThen ticket
            (fun pane => { pane with status := .finished })
            (·.finish ticket) none

/-- Lets events happen one after the other: the playground at the end and the
panes that were written on the way. -/
def watch (playground : Playground) :
    List PlaygroundEvent → Playground × List Pane
  | [] => (playground, [])
  | event :: events =>
      let effect := playground.step event
      let (last, panes) := watch effect.playground events
      (last, effect.written.toList ++ panes)

end Playground

end LessonSite
