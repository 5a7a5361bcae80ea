import LessonSite.Playground.Basic

/-!
# Running a program once

A program that is compiled and run without an editor: the panes that it shows
one after the other, and somebody who looks at the pane now and then and prints
the lines that are new.
-/

namespace LessonSite

namespace Playground

/-- The events of the output of an artifact. -/
def outputEvents (ticket : Nat) :
    Except WorkerFault (List String) → List PlaygroundEvent
  | .error fault => [.started ticket (some fault)]
  | .ok lines =>
      .started ticket none :: lines.map (PlaygroundEvent.line ticket) ++
        [.ended ticket]

/-- The panes while the program in the editor is compiled and run at once. -/
def runOnce (playground : Playground) (debug : Bool)
    (compile : CompileRequest → Except WorkerFault CompileResult)
    (execute : String → Except WorkerFault (List String)) : List Pane :=
  let ticket := playground.nextTicket
  let (armed, armedPanes) := playground.watch [.run debug, .wake ticket]
  let reply := compile (armed.request debug)
  let (compiled, compiledPanes) := armed.watch [.compiled ticket reply]
  armedPanes ++ compiledPanes ++
    match reply with
    | .ok (.success artifact) =>
        (compiled.watch (outputEvents ticket (execute artifact))).2
    | _ => []

end Playground

/-- The program in the pane has come to its end, one way or the other. -/
def PaneStatus.isFinal : PaneStatus → Bool
  | .finished => true
  | .failed _ => true
  | _ => false

/-- Someone who looks at a pane again and again and prints the lines that are
new each time, until the program in it has come to its end. -/
structure Follower where
  /-- The lines that have been printed. -/
  printed : List String
  /-- The number of lines in the pane at the last look. -/
  count : Nat
  /-- The pane in which the program has come to its end. -/
  ended : Option Pane
  deriving DecidableEq, Repr

namespace Follower

def start : Follower :=
  ⟨[], 0, none⟩

/-- A look at the pane; whoever has seen the end does not look any more. -/
def look (follower : Follower) (pane : Pane) : Follower :=
  match follower.ended with
  | some _ => follower
  | none =>
      { printed := follower.printed ++ pane.lines.drop follower.count
        count := pane.lines.length
        ended := if pane.status.isFinal then some pane else none }

/-- Looks at panes one after the other. -/
def lookAll (follower : Follower) (panes : List Pane) : Follower :=
  panes.foldl look follower

end Follower

end LessonSite
