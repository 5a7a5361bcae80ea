import LessonSite.Client.Navigator
import LessonSite.FileTree.Basic
import LessonSite.RouteState
import LessonSite.Text.Utf8

/-!
# Sources of route states

Route states come from the files of a site or from a table of answers.  An
answer of a table may take its time, and it may fail a number of times before it
succeeds.
-/

namespace LessonSite

/-- How a request fails. -/
inductive FetchFault where
  | status (code : Nat)
  | failure (reason : String)
  deriving DecidableEq, Repr

/-- The error for a request that fails. -/
def FetchFault.toError (url : Url) : FetchFault → NavigationError
  | .status code => .refused url code
  | .failure reason => .unreachable url reason

/-- How requests for one path are answered. -/
structure Route where
  path : String
  state : Option RouteState
  delay : Nat
  /-- The faults of the first requests. -/
  faults : List FetchFault

/-- Where route states come from. -/
inductive Source where
  | table (routes : List Route)
  /-- The files of a site in a directory. -/
  | files (tree : FileTree) (directory : String)

namespace Source

/-- A directory that stands for the one the file tree is the content of. -/
def workplace : String := "/work/"

/-- The error for a file that cannot be read. -/
def fileError (url : Url) : FileFault → NavigationError
  | .missing => .refused url 404
  | fault => .unreachable url fault.message

/-- The route state in the file that an address names. -/
def readFile (tree : FileTree) (directory : String) (url : Url) :
    Except NavigationError RouteState :=
  match fileFor? (Url.tidyPath (workplace ++ directory)) url with
  | none => .error (.refused url 404)
  | some path =>
      match (Utf8.decode? path).bind (Text.afterStart? workplace) with
      | none => .error (.refused url 404)
      | some path =>
          match tree.read path with
          | .error fault => .error (fileError url fault)
          | .ok content =>
              match (Utf8.decode? content).bind RouteState.read? with
              | some state => .ok state
              | none => .error (.malformed url)

/-- The time that an answer takes; `none` if the page does not wait for it at
all. -/
def delay? (source : Source) (url : Url) : Option Nat :=
  match source with
  | .files _ _ => some 0
  | .table routes =>
      match routes.find? fun route => route.path = url.pathText with
      | some route => if route.delay = 0 then none else some route.delay
      | none => none

/-- The answer of a table, and the table without the fault that was answered. -/
def answerOf (url : Url) :
    List Route → Except NavigationError RouteState × List Route
  | [] => (.error (.refused url 404), [])
  | route :: routes =>
      if route.path = url.pathText then
        match route.faults, route.state with
        | fault :: faults, _ =>
            (.error (fault.toError url), { route with faults } :: routes)
        | [], some state => (.ok state, route :: routes)
        | [], none => (.error (.refused url 404), route :: routes)
      else
        let (answer, rest) := answerOf url routes
        (answer, route :: rest)

def answer (source : Source) (url : Url) :
    Except NavigationError RouteState × Source :=
  match source with
  | .files tree directory => (readFile tree directory url, source)
  | .table routes =>
      let (answer, routes) := answerOf url routes
      (answer, .table routes)

end Source

end LessonSite
