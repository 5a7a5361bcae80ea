import LessonSite.Client.Theme
import LessonSite.Page

/-!
# Event buses

The components of a page hear of each other's changes over two channels.  A
component subscribes to a channel and is told of every event on it until the
subscription is dropped.  Subscriptions are numbered and kept in the order in
which they were made.
-/

namespace LessonSite

/-- What is told to components. -/
inductive Channel where
  | routeChange
  | themeChange
  deriving DecidableEq, Repr

def Channel.name : Channel → String
  | .routeChange => "route-change"
  | .themeChange => "theme-change"

/-- The channel with a given name. -/
def Channel.ofName? (name : String) : Option Channel :=
  [Channel.routeChange, .themeChange].find? fun channel => channel.name = name

/-- Something that components are told. -/
inductive Event where
  | routeChange (state : RouteState)
  | themeChange (theme : Theme)
  deriving DecidableEq, Repr

def Event.channel : Event → Channel
  | .routeChange _ => .routeChange
  | .themeChange _ => .themeChange

/-- The text that stands for an event: the title of a page, or the theme of the
editor. -/
def Event.summary : Event → String
  | .routeChange state => state.title
  | .themeChange theme => theme.editorTheme

/-- A subscription of a handler to a channel. -/
structure Subscription (Handler : Type) where
  id : Nat
  channel : Channel
  handler : Handler
  deriving DecidableEq, Repr

/-- The live subscriptions, in the order in which they were made. -/
structure Bus (Handler : Type) where
  /-- A counter of 64 bits: fewer than `2 ^ 64` subscriptions are made. -/
  nextId : Nat
  live : List (Subscription Handler)
  deriving DecidableEq, Repr

namespace Bus

variable {Handler : Type}

/-- A bus nobody has subscribed to. -/
def empty : Bus Handler :=
  ⟨0, []⟩

/-- Subscribes a handler; the new subscription has the number that was next. -/
def subscribe (bus : Bus Handler) (channel : Channel) (handler : Handler) :
    Bus Handler where
  nextId := bus.nextId + 1
  live := bus.live ++ [⟨bus.nextId, channel, handler⟩]

/-- Ends a subscription.  Its handler owns no other subscription to the same
bus: one that does is freed while the registry is locked, and would wait for the
lock to end its own. -/
def unsubscribe (bus : Bus Handler) (id : Nat) : Bus Handler :=
  { bus with live := bus.live.filter fun subscription => subscription.id ≠ id }

/-- The subscriptions to a channel. -/
def receivers (bus : Bus Handler) (channel : Channel) :
    List (Subscription Handler) :=
  bus.live.filter fun subscription => subscription.channel = channel

/-- The number of subscriptions to a channel. -/
def count (bus : Bus Handler) (channel : Channel) : Nat :=
  (bus.receivers channel).length

/-- The line that describes a bus. -/
def description (bus : Bus Handler) : String :=
  "EventBus \x7b subscribers: " ++ toString bus.live.length ++ " \x7d"

end Bus

end LessonSite
