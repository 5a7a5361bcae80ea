import LessonSite.Client.Basic
import LessonSite.Session.Source

/-!
# Sessions

A client used over time.  Activities begin one after the other at one moment;
each goes on until it has to wait, and waiting activities go on when their time
has come, the earliest first.  Meanwhile the playground goes on with its work.
-/

namespace LessonSite

/-- A client with its source of route states. -/
structure Session where
  client : Client
  source : Option Source
  /-- The addresses that were asked for. -/
  requests : List Url

/-- Something a user does that can take time. -/
inductive Activity where
  /-- A call, which may be given up after a time. -/
  | navigate (call : Call) (limit : Option Nat)
  | sleep (time : Nat)
  /-- Waits and then looks at the page. -/
  | probe (time : Nat)

/-- What has come of an activity. -/
inductive Report where
  | nothing
  | outcome (outcome : Outcome)
  | abandoned
  | view (client : Client)
  /-- There is nothing to navigate with. -/
  | noSource

/-- What an activity does after waiting. -/
inductive Continuation where
  | answer (call : Nat) (request : Url)
  | giveUp (call : Nat)
  | nothing
  | look

/-- An activity that has begun. -/
inductive Begun where
  | ended (report : Report)
  | waits (due : Nat) (continuation : Continuation)

namespace Session

/-- A session on a page that has just been loaded. -/
def start (location : Url) (source : Option Source) : Session :=
  ⟨.start location, source, []⟩

/-- The report on a call that has ended. -/
def reportOf : Option Progress → Report
  | some (.ends outcome _) => .outcome outcome
  | _ => .nothing

/-- Answers the request of a waiting call. -/
def answer (session : Session) (call : Nat) (request : Url) :
    Session × Report :=
  match session.source with
  | none => (session, .noSource)
  | some source =>
      let (answer, source) := source.answer request
      let (client, progress) := session.client.answer call answer
      ({ session with client, source := some source }, reportOf progress)

/-- Goes on with an activity that has waited. -/
def proceed (session : Session) : Continuation → Session × Report
  | .answer call request => session.answer call request
  | .giveUp call =>
      ({ session with client := session.client.abandon call }, .abandoned)
  | .nothing => (session, .nothing)
  | .look => (session, .view session.client)

/-- An activity that waits for some time, if that is any. -/
def pause (session : Session) (time : Nat) (continuation : Continuation) :
    Session × Begun :=
  if time = 0 then
    let (session, report) := session.proceed continuation
    (session, .ended report)
  else (session, .waits (session.client.now + time) continuation)

/-- Waits for the answer to the request of a call. -/
def await (session : Session) (source : Source) (call : Nat) (request : Url)
    (limit : Option Nat) : Session × Begun :=
  let session := { session with requests := session.requests ++ [request] }
  let now := session.client.now
  match source.delay? request with
  | none =>
      let (session, report) := session.answer call request
      (session, .ended report)
  | some delay =>
      match limit with
      | some limit =>
          if delay ≤ limit then
            (session, .waits (now + delay) (.answer call request))
          else (session, .waits (now + limit) (.giveUp call))
      | none => (session, .waits (now + delay) (.answer call request))

def begin (session : Session) : Activity → Session × Begun
  | .navigate call limit =>
      match session.source with
      | none => (session, .ended .noSource)
      | some source =>
          let (client, progress) := session.client.begin call
          let session := { session with client }
          match progress with
          | .ends outcome _ => (session, .ended (.outcome outcome))
          | .waits call request => session.await source call request limit
  | .sleep time => session.pause time .nothing
  | .probe time => session.pause time .look

/-- Begins activities, one after the other. -/
def beginAll (session : Session) : List Activity → Session × List Begun
  | [] => (session, [])
  | activity :: activities =>
      let (session, begun) := session.begin activity
      let (session, others) := session.beginAll activities
      (session, begun :: others)

/-- An activity that waits, with its place among all of them. -/
structure Waiter where
  place : Nat
  due : Nat
  continuation : Continuation

/-- The activities that wait, counted on from a given place. -/
def waiters (place : Nat) : List Begun → List Waiter
  | [] => []
  | .ended _ :: others => waiters (place + 1) others
  | .waits due continuation :: others =>
      ⟨place, due, continuation⟩ :: waiters (place + 1) others

/-- Goes on with waiting activities, given in the order of their times: the
reports with their places. -/
def finishAll (session : Session) : List Waiter → Session × List (Nat × Report)
  | [] => (session, [])
  | waiter :: others =>
      let session :=
        { session with client := session.client.advance waiter.due }
      let (session, report) := session.proceed waiter.continuation
      let (session, reports) := session.finishAll others
      (session, (waiter.place, report) :: reports)

/-- The reports on activities, counted on from a given place. -/
def collect (finished : List (Nat × Report)) (place : Nat) :
    List Begun → List Report
  | [] => []
  | .ended report :: others => report :: collect finished (place + 1) others
  | .waits _ _ :: others =>
      ((List.lookup place finished).getD .nothing) ::
        collect finished (place + 1) others

/-- Does activities at the same time. -/
def performAll (session : Session) (activities : List Activity) :
    Session × List Report :=
  let (session, begun) := session.beginAll activities
  let ordered :=
    (waiters 0 begun).mergeSort fun left right => left.due ≤ right.due
  let (session, finished) := session.finishAll ordered
  (session, collect finished 0 begun)

def perform (session : Session) (activity : Activity) : Session × Report :=
  let (session, reports) := session.performAll [activity]
  (session, reports.head?.getD .nothing)

/-- The state kept with the current entry of the history. -/
def currentState? (session : Session) : Option RouteState :=
  session.client.navigator.history.current.state

/-- Forgets what has been noted of events, requests and compiles. -/
def clearNotes (session : Session) : Session :=
  { session with
    requests := []
    client := { session.client with
      heard := []
      playground := Client.changePart (fun timed => { timed with sent := [] })
        session.client.playground } }

end Session

end LessonSite
