import LessonSite.Client.Context
import LessonSite.Client.History
import LessonSite.Client.RouteData
import LessonSite.Text.Hidden
import LessonSite.Url.Reader

/-!
# Navigation

A click, or a step through the history, shows another page in place of the
current one.  A call whose page has no known route state asks for it and goes on
when the answer comes; any number of calls may wait, and a call may be given up
while it waits.  The last call to get its answer decides what is shown.
-/

namespace LessonSite

/-- Why a navigation fails. -/
inductive NavigationError where
  | unreachable (url : Url) (reason : String)
  | refused (url : Url) (status : Nat)
  | malformed (url : Url)
  | invalidHref (error : InvalidHref)
  deriving DecidableEq, Repr

def NavigationError.message : NavigationError → String
  | .unreachable url reason => "fetching " ++ url.write ++ " failed: " ++ reason
  | .refused url status =>
      "fetching " ++ url.write ++ " returned status " ++ toString status
  | .malformed url => "route state at " ++ url.write ++ " is malformed"
  | .invalidHref error =>
      "invalid href " ++ Text.quote error.href ++ ": " ++ error.fault.message

/-- What the last request has come to. -/
inductive Phase where
  | idle
  | loading (href : Url)
  | failed (href : Url) (reason : String)
  deriving DecidableEq, Repr

/-- What a user asks for. -/
inductive Call where
  /-- The route state of the page that was loaded. -/
  | open
  | click (href : String)
  /-- A click on something that is no link. -/
  | clickElsewhere
  | back
  | forward
  deriving DecidableEq, Repr

/-- What a waiting call does when its route state comes. -/
inductive Pending where
  | opening (location : Url)
  | following (target : Url)
  /-- A step through the history that has been made already, backwards or
  not. -/
  | returning (target : Url) (backwards : Bool)
  deriving DecidableEq, Repr

/-- The address of the page that a waiting call is to show. -/
def Pending.target : Pending → Url
  | .opening location => location
  | .following target => target
  | .returning target _ => target

/-- How a call ends. -/
inductive Outcome where
  /-- The page of the call is shown. -/
  | shown (state : RouteState)
  | navigated (target : Url)
  | ignored
  | atEnd
  | failed (error : NavigationError)
  deriving DecidableEq, Repr

/-- The navigation of a page: what it shows, where it has been, and the calls
that wait. -/
structure Navigator where
  context : Context
  phase : Phase
  history : History
  /-- A counter of 64 bits: fewer than `2 ^ 64` fetches are under way. -/
  inFlight : Nat
  nextCall : Nat
  waiting : List (Nat × Pending)
  deriving DecidableEq, Repr

/-- What a call has come to: it waits for the route state at an address, or it
has ended and all components may have to be told of a route state. -/
inductive Progress where
  | waits (call : Nat) (request : Url)
  | ends (outcome : Outcome) (broadcast : Option RouteState)
  deriving DecidableEq, Repr

namespace Navigator

/-- The navigation of a page that has just been loaded. -/
def start (location : Url) : Navigator :=
  ⟨.start location, .idle, .start location, 0, 0, []⟩

/-- Moves through the history; at its end nothing happens. -/
def travel (navigator : Navigator) (backwards : Bool) : Navigator :=
  let history :=
    if backwards then navigator.history.back? else navigator.history.forward?
  { navigator with history := history.getD navigator.history }

/-- Takes back a step through the history whose page cannot be shown. -/
def undo (navigator : Navigator) : Pending → Navigator
  | .returning _ backwards => navigator.travel (!backwards)
  | _ => navigator

/-- Asks for the route state of the page that a call is to show. -/
def load (navigator : Navigator) (pending : Pending) : Navigator × Progress :=
  match pending.target.routeData with
  | .error error =>
      (navigator.undo pending, .ends (.failed (.invalidHref error)) none)
  | .ok request =>
      ({ navigator with
          context := { navigator.context with busy := true }
          phase := .loading pending.target
          inFlight := navigator.inFlight + 1
          nextCall := navigator.nextCall + 1
          waiting := navigator.waiting ++ [(navigator.nextCall, pending)] },
        .waits navigator.nextCall request)

/-- Ends one request; when it was the last one, the page is no longer busy. -/
def land (navigator : Navigator) (call : Nat) : Navigator :=
  { navigator with
    context :=
      if navigator.inFlight = 1 then { navigator.context with busy := false }
      else navigator.context
    inFlight := navigator.inFlight - 1
    waiting := navigator.waiting.filter fun (other, _) => other ≠ call }

/-- Shows a page with a known route state. -/
def display (navigator : Navigator) (location : Url)
    (state : RouteState) : Navigator :=
  { navigator with context := navigator.context.showPage location state }

/-- Goes on with a call whose route state has come. -/
def proceed (navigator : Navigator) (state : RouteState) :
    Pending → Navigator × Progress
  | .opening location =>
      (({ navigator with
          history := navigator.history.replace location state }).display
        location state, .ends (.shown state) none)
  | .following target =>
      (({ navigator with
          history := navigator.history.push target state }).display
          target state,
        .ends (.navigated target) (some state))
  | .returning target _ =>
      (({ navigator with
          history := navigator.history.replace target state }).display target
        state, .ends (.shown state) (some state))

/-- A step through the history.  A page that was shown before is shown as it
was. -/
def traverse (navigator : Navigator) (backwards : Bool) :
    Navigator × Progress :=
  match if backwards then
      navigator.history.back?
    else navigator.history.forward? with
  | none => (navigator, .ends .atEnd none)
  | some history =>
      let navigator := { navigator with history }
      match history.current.state with
      | some state =>
          (navigator.display history.current.url state,
            .ends (.shown state) (some state))
      | none => navigator.load (.returning history.current.url backwards)

/-- A click on a link.  Links to other sites are left alone. -/
def follow (navigator : Navigator) (href : String) : Navigator × Progress :=
  match navigator.context.location.join href with
  | .error fault =>
      (navigator, .ends (.failed (.invalidHref ⟨href, fault⟩)) none)
  | .ok target =>
      if target.sameSite navigator.context.location then
        navigator.load (.following target)
      else (navigator, .ends .ignored none)

def begin (navigator : Navigator) : Call → Navigator × Progress
  | .open => navigator.load (.opening navigator.context.location)
  | .click href => navigator.follow href
  | .clickElsewhere => (navigator, .ends .ignored none)
  | .back => navigator.traverse true
  | .forward => navigator.traverse false

/-- Gives a waiting call its answer. -/
def answer (navigator : Navigator) (call : Nat) (pending : Pending) :
    Except NavigationError RouteState → Navigator × Progress
  | .ok state =>
      ({ navigator.land call with phase := .idle }).proceed state pending
  | .error error =>
      (({ navigator.land call with
          phase := .failed pending.target error.message }).undo pending,
        .ends (.failed error) none)

/-- Something that happens to the navigation of a page. -/
inductive Happening where
  | call (call : Call)
  | answer (call : Nat) (answer : Except NavigationError RouteState)
  | abandon (call : Nat)

/-- What happens changes the navigation; a call that does not wait cannot be
answered. -/
def step (navigator : Navigator) : Happening → Navigator × Option Progress
  | .call call => ((navigator.begin call).1, some (navigator.begin call).2)
  | .answer call answer =>
      match List.lookup call navigator.waiting with
      | none => (navigator, none)
      | some pending =>
          ((navigator.answer call pending answer).1,
            some (navigator.answer call pending answer).2)
  | .abandon call =>
      match List.lookup call navigator.waiting with
      | none => (navigator, none)
      | some _ => (navigator.land call, none)

end Navigator

end LessonSite
