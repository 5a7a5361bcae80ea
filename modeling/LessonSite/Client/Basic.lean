import LessonSite.Client.BodyView
import LessonSite.Client.Bus
import LessonSite.Client.Navigator
import LessonSite.Contents.Highlight
import LessonSite.Contents.Reader
import LessonSite.Playground.Timed

/-!
# Clients

A page that is shown, with the components attached to it.  They are told over a
bus when another page is shown in its place or the theme changes, each in the
order in which it was attached.
-/

namespace LessonSite

/-- What is told of events. -/
inductive Component where
  /-- Notes all events. -/
  | recorder
  | contents
  | body
  | playground
  deriving DecidableEq, Repr

/-- A component with its subscriptions. -/
structure Attached (Part : Type) where
  part : Part
  subscriptions : List Nat

/-- A page with its components at a time. -/
structure Client where
  now : Nat
  navigator : Navigator
  bus : Bus Component
  /-- The events noted. -/
  heard : List Event
  contents : Option (Attached Contents)
  body : Option (Attached BodyView)
  playground : Option (Attached TimedPlayground)

namespace Client

/-- A page that has just been loaded; all events are noted. -/
def start (location : Url) : Client where
  now := 0
  navigator := .start location
  bus :=
    (Bus.empty.subscribe .routeChange .recorder).subscribe
      .themeChange .recorder
  heard := []
  contents := none
  body := none
  playground := none

def context (client : Client) : Context :=
  client.navigator.context

/-- Changes what the components share. -/
def changeContext (client : Client) (change : Context → Context) : Client :=
  { client with
    navigator := { client.navigator with context := change client.context } }

/-- The table of contents where the page is shown. -/
def readContents (client : Client) (markup : String) : Contents :=
  ((Contents.parse markup).highlight client.context.location).1

/-- Changes a component that is attached. -/
def changePart {Part : Type} (change : Part → Part)
    (attached : Option (Attached Part)) :
    Option (Attached Part) :=
  attached.map fun attached => { attached with part := change attached.part }

/-- Tells the table of contents, the body or the playground of another page. -/
def hearRoute (client : Client) (state : RouteState) : Component → Client
  | .recorder => client
  | .contents =>
      { client with
        contents :=
          changePart (fun _ => client.readContents state.toc) client.contents }
  | .body =>
      { client with body := changePart (fun _ => .ofState state) client.body }
  | .playground =>
      { client with
        playground :=
          changePart (·.act client.now (.lesson state.code)) client.playground }

/-- Tells a component of an event. -/
def hear (client : Client) (event : Event) (component : Component) : Client :=
  match component, event with
  | .recorder, event => { client with heard := client.heard ++ [event] }
  | component, .routeChange state => client.hearRoute state component
  | .playground, .themeChange theme =>
      { client with
        playground :=
          changePart (·.act client.now (.theme theme)) client.playground }
  | _, .themeChange _ => client

/-- Tells all components that have subscribed of an event. -/
def publish (client : Client) (event : Event) : Client :=
  (client.bus.receivers event.channel).foldl
    (fun client subscription => client.hear event subscription.handler) client

/-- Changes the theme and tells the components. -/
def setTheme (client : Client) (theme : Theme) : Client :=
  (client.changeContext fun context => { context with theme }).publish
    (.themeChange theme)

/-- Tells the components of the page that a call shows. -/
def settle (client : Client) (navigator : Navigator)
    (progress : Progress) : Client :=
  let client := { client with navigator }
  match progress with
  | .ends _ (some state) => client.publish (.routeChange state)
  | _ => client

def begin (client : Client) (call : Call) : Client × Progress :=
  let (navigator, progress) := client.navigator.begin call
  (client.settle navigator progress, progress)

/-- Gives a waiting call its answer. -/
def answer (client : Client) (call : Nat)
    (answer : Except NavigationError RouteState) :
    Client × Option Progress :=
  match client.navigator.step (.answer call answer) with
  | (navigator, some progress) =>
      (client.settle navigator progress, some progress)
  | (navigator, none) => ({ client with navigator }, none)

def abandon (client : Client) (call : Nat) : Client :=
  { client with navigator := (client.navigator.step (.abandon call)).1 }

/-- Lets time pass up to a moment. -/
def advance (client : Client) (moment : Nat) : Client :=
  { client with
    now := moment
    playground := changePart (·.advance moment) client.playground }

/-- Subscribes a component to channels: the numbers of its subscriptions. -/
def subscribe (client : Client) (component : Component) :
    List Channel → Client × List Nat
  | [] => (client, [])
  | channel :: channels =>
      let id := client.bus.nextId
      let (client, ids) :=
        subscribe { client with bus := client.bus.subscribe channel component }
          component channels
      (client, id :: ids)

/-- Ends the subscriptions of a component. -/
def release {Part : Type} (client : Client)
    (attached : Option (Attached Part)) : Client :=
  { client with
    bus :=
      ((attached.map (·.subscriptions)).getD []).foldl Bus.unsubscribe
        client.bus }

/-- Attaches a table of contents. -/
def attachContents (client : Client) (markup : String) : Client :=
  let (next, subscriptions) := client.subscribe .contents [.routeChange]
  { next.release client.contents with
    contents := some ⟨client.readContents markup, subscriptions⟩ }

def attachBody (client : Client) (state : RouteState) : Client :=
  let (next, subscriptions) := client.subscribe .body [.routeChange]
  { next.release client.body with body := some ⟨.ofState state, subscriptions⟩ }

/-- Attaches a playground with a program. -/
def attachPlayground (client : Client) (fileName : String) (debounce : Nat)
    (code : String)
    (compiles : List CompileScript) (runs : List RunScript) : Client :=
  let (next, subscriptions) :=
    client.subscribe .playground [.routeChange, .themeChange]
  let playground := Playground.start fileName debounce code client.context.theme
  { next.release client.playground with
    playground := some ⟨.start playground compiles runs, subscriptions⟩ }

/-- Takes the table of contents away. -/
def detachContents (client : Client) : Client :=
  { client.release client.contents with contents := none }

def detachBody (client : Client) : Client :=
  { client.release client.body with body := none }

def detachPlayground (client : Client) : Client :=
  { client.release client.playground with playground := none }

end Client

end LessonSite
