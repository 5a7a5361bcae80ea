import LessonSite.Client.Bus

/-!
# Traffic on a bus

An event is published to the subscriptions that are live at that moment, and
they are told of it one after the other.  A handler that is told of an event may
subscribe, drop subscriptions and publish in its turn; what it publishes is over
before the publication that told it goes on.
-/

namespace LessonSite

/-- An event that is being published, with the subscriptions that are still to
be told of it. -/
structure Publication (Handler : Type) where
  event : Event
  waiting : List (Subscription Handler)
  deriving DecidableEq, Repr

/-- A bus with the publications under way, the innermost first. -/
structure Traffic (Handler : Type) where
  bus : Bus Handler
  underWay : List (Publication Handler)
  deriving DecidableEq, Repr

namespace Traffic

variable {Handler : Type}

/-- Nobody has subscribed, and nothing is under way. -/
def idle : Traffic Handler :=
  ⟨.empty, []⟩

def subscribe (traffic : Traffic Handler) (channel : Channel)
    (handler : Handler) : Traffic Handler :=
  { traffic with bus := traffic.bus.subscribe channel handler }

/-- Ends a subscription, whose handler owns no other one to the same bus. -/
def drop (traffic : Traffic Handler) (id : Nat) : Traffic Handler :=
  { traffic with bus := traffic.bus.unsubscribe id }

/-- Begins to publish an event to the subscriptions that are live now. -/
def publish (traffic : Traffic Handler) (event : Event) : Traffic Handler :=
  { traffic with
    underWay :=
      ⟨event, traffic.bus.receivers event.channel⟩ :: traffic.underWay }

/-- The innermost publication tells the next one: the subscription, the event
and what is left. -/
def tell? (traffic : Traffic Handler) :
    Option (Subscription Handler × Event × Traffic Handler) :=
  match traffic.underWay with
  | ⟨event, subscription :: waiting⟩ :: outer =>
      some
        (subscription, event,
          { traffic with underWay := ⟨event, waiting⟩ :: outer })
  | _ => none

/-- The innermost publication is over, if nobody is still to be told. -/
def finish? (traffic : Traffic Handler) : Option (Traffic Handler) :=
  match traffic.underWay with
  | ⟨_, []⟩ :: outer => some { traffic with underWay := outer }
  | _ => none

/-- How often the publications under way can still tell somebody or end. -/
def load (traffic : Traffic Handler) : Nat :=
  traffic.underWay.foldr
    (fun publication total => publication.waiting.length + 1 + total) 0

theorem load_tell? {traffic next : Traffic Handler}
    {subscription : Subscription Handler} {event : Event}
    (tells : traffic.tell? = some (subscription, event, next)) :
    next.load < traffic.load := by
  unfold tell? at tells
  split at tells
  · next event subscription waiting outer underWay =>
      cases tells
      simp only [load, underWay, List.foldr_cons, List.length_cons]
      omega
  · cases tells

theorem load_finish? {traffic next : Traffic Handler}
    (finishes : traffic.finish? = some next) :
    next.load < traffic.load := by
  unfold finish? at finishes
  split at finishes
  · next event outer underWay =>
      cases finishes
      simp only [load, underWay, List.foldr_cons]
      omega
  · cases finishes

end Traffic

end LessonSite
