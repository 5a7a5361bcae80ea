import LessonSite.Client.Traffic

/-!
# Handlers with scripts

A handler follows a script: it acts a limited number of times, each time it is
told of an event, and what it does are actions on the bus.  Every action comes
to an end with all that it leads to.
-/

namespace LessonSite

/-- Something a handler does. -/
inductive Action where
  /-- Subscribes a handler and keeps the subscription under a name; an older one
  kept under that name is dropped. -/
  | subscribe (name : String) (channel : Channel) (raw : Bool) (times : Nat)
      (actions : List Action)
  | drop (name : String)
  | publish (event : Event)

/-- What a handler notes of an event: its name with the event or, if raw, with
the channel. -/
structure Listener where
  name : String
  raw : Bool
  deriving DecidableEq, Repr

def Listener.note (listener : Listener) (event : Event) : String :=
  listener.name ++ ":" ++
    if listener.raw then event.channel.name else event.summary

/-- What the handler of a subscription does when it is told of an event, and how
often still. -/
structure Response where
  id : Nat
  left : Nat
  actions : List Action

/-- The traffic between scripted handlers. -/
structure Dispatch extends Traffic Listener where
  /-- Names of subscriptions. -/
  kept : List (String × Nat)
  responses : List Response
  /-- What the handlers that are being told, the last one first, are still to
  do, and at the end what is to be done outside all of them. -/
  plans : List (List Action)
  notes : List String

mutual

/-- A bound on what an action can lead to, deliveries aside. -/
def Action.weight : Action → Nat
  | .subscribe _ _ _ times actions => 1 + times * (1 + weightAll actions)
  | .drop _ => 1
  | .publish _ => 1

/-- A bound on what a list of actions can lead to. -/
def weightAll : List Action → Nat
  | [] => 0
  | action :: actions => action.weight + weightAll actions

end

namespace Response

/-- A bound on what a response can lead to. -/
def weight (response : Response) : Nat :=
  response.left * (1 + weightAll response.actions)

/-- Takes one response of a subscription, if it has one left: its actions and
what is left. -/
def take? (id : Nat) : List Response → Option (List Action × List Response)
  | [] => none
  | response :: responses =>
      if response.id = id then
        match response.left with
        | 0 => none
        | left + 1 =>
            some (response.actions, { response with left } :: responses)
      else (take? id responses).map fun (actions, rest) =>
        (actions, response :: rest)

/-- A bound on what responses can lead to. -/
def totalWeight (responses : List Response) : Nat :=
  responses.foldr (fun response total => response.weight + total) 0

theorem totalWeight_take? {id : Nat} {responses : List Response}
    {actions : List Action}
    {rest : List Response} (taken : take? id responses = some (actions, rest)) :
    totalWeight rest + (1 + weightAll actions) = totalWeight responses := by
  induction responses generalizing rest with
  | nil => simp [take?] at taken
  | cons response responses hypothesis =>
      rw [take?] at taken
      split at taken
      · split at taken
        · simp at taken
        · next left equation =>
            simp only [Option.some.injEq, Prod.mk.injEq] at taken
            obtain ⟨rfl, rfl⟩ := taken
            simp only [totalWeight, List.foldr_cons, weight,
              equation, Nat.succ_mul]
            omega
      · simp only [Option.map_eq_some_iff, Prod.mk.injEq, Prod.exists] at taken
        obtain ⟨found, others, equation, rfl, rfl⟩ := taken
        have smaller := hypothesis equation
        simp only [totalWeight, List.foldr_cons] at smaller ⊢
        omega

end Response

namespace Dispatch

/-- Nobody has subscribed, and nothing is to be done. -/
def idle : Dispatch :=
  ⟨.idle, [], [], [], []⟩

/-- Drops the subscription kept under a name. -/
def dropKept (dispatch : Dispatch) (name : String) : Dispatch :=
  match List.lookup name dispatch.kept with
  | none => dispatch
  | some id =>
      { dispatch with
        toTraffic := dispatch.drop id
        kept := dispatch.kept.filter fun (other, _) => other ≠ name }

def perform (dispatch : Dispatch) : Action → Dispatch
  | .subscribe name channel raw times actions =>
      let id := dispatch.bus.nextId
      let dispatch :=
        { dispatch with toTraffic := dispatch.subscribe channel ⟨name, raw⟩ }
      let dispatch := dispatch.dropKept name
      { dispatch with
        kept := (name, id) :: dispatch.kept
        responses := ⟨id, times, actions⟩ :: dispatch.responses }
  | .drop name => dispatch.dropKept name
  | .publish event =>
      { dispatch with
        toTraffic := dispatch.publish event, plans := [] :: dispatch.plans }

/-- A handler has been told of an event: it makes a note and follows its script.
The plans of what went on around it are given. -/
def respond (dispatch : Dispatch) (outer : List (List Action))
    (subscription : Subscription Listener) (event : Event) : Dispatch :=
  let dispatch :=
    { dispatch with
      notes := dispatch.notes ++ [subscription.handler.note event] }
  match Response.take? subscription.id dispatch.responses with
  | none => { dispatch with plans := [] :: outer }
  | some (actions, responses) =>
      { dispatch with responses, plans := actions :: outer }

/-- Does the next thing: the next action, else the next telling, else the
innermost publication is over. -/
def step? (dispatch : Dispatch) : Option Dispatch :=
  match dispatch.plans with
  | [] => none
  | (action :: actions) :: outer =>
      some ({ dispatch with plans := actions :: outer }.perform action)
  | [] :: outer =>
      match dispatch.tell? with
      | some (subscription, event, traffic) =>
          some
            ({ dispatch with toTraffic := traffic }.respond outer
              subscription event)
      | none =>
          dispatch.finish?.map fun traffic =>
            { dispatch with toTraffic := traffic, plans := outer }

/-- A bound on what is still to be done, tellings aside. -/
def weight (dispatch : Dispatch) : Nat :=
  Response.totalWeight dispatch.responses +
    dispatch.plans.foldr (fun actions total => weightAll actions + total) 0

theorem weight_dropKept (dispatch : Dispatch) (name : String) :
    (dispatch.dropKept name).weight = dispatch.weight := by
  unfold dropKept
  split <;> rfl

theorem weight_perform (dispatch : Dispatch) (action : Action) :
    (dispatch.perform action).weight + 1 ≤ dispatch.weight + action.weight := by
  cases action with
  | subscribe name channel raw times actions =>
      have same :=
        weight_dropKept
          { dispatch with toTraffic := dispatch.subscribe channel ⟨name, raw⟩ }
          name
      simp only [perform, weight, Response.totalWeight, List.foldr_cons,
        Response.weight, Action.weight] at same ⊢
      omega
  | drop name =>
      simp only [perform, weight_dropKept, Action.weight]
      omega
  | publish event =>
      simp only [perform, weight, List.foldr_cons, weightAll,
        Action.weight]
      omega

theorem measure_step? {dispatch next : Dispatch}
    (equation : dispatch.step? = some next) :
    Prod.Lex (· < ·) (· < ·) (next.weight, next.load)
      (dispatch.weight, dispatch.load) := by
  unfold step? at equation
  split at equation
  · cases equation
  · next action actions outer plans =>
      cases equation
      apply Prod.Lex.left
      have bound :=
        weight_perform { dispatch with plans := actions :: outer } action
      simp only [weight, plans, List.foldr_cons,
        weightAll] at bound ⊢
      omega
  · next outer plans =>
      split at equation
      · next subscription event traffic tells =>
          cases equation
          unfold respond
          dsimp only
          split
          · have same : ({ dispatch with
                toTraffic := traffic
                notes := dispatch.notes ++ [subscription.handler.note event]
                plans := [] :: outer } : Dispatch).weight =
              dispatch.weight := by
              simp only [weight, plans]
            rw [same]
            exact Prod.Lex.right _ (Traffic.load_tell? tells)
          · next actions responses taken =>
              apply Prod.Lex.left
              have bound := Response.totalWeight_take? taken
              simp only [weight, plans, List.foldr_cons,
                weightAll] at bound ⊢
              omega
      · obtain ⟨traffic, finishes, rfl⟩ := Option.map_eq_some_iff.mp equation
        have same :
            ({ dispatch with
                toTraffic := traffic, plans := outer } : Dispatch).weight =
              dispatch.weight := by
          simp only [weight, plans, List.foldr_cons, weightAll,
            Nat.zero_add]
        rw [same]
        exact Prod.Lex.right _ (Traffic.load_finish? finishes)

/-- Does everything that is to be done. -/
def run (dispatch : Dispatch) : Dispatch :=
  match _equation : dispatch.step? with
  | none => dispatch
  | some next => run next
termination_by (dispatch.weight, dispatch.load)
decreasing_by exact measure_step? _equation

/-- Performs an action and everything it leads to, with fresh notes. -/
def actOn (dispatch : Dispatch) (action : Action) : Dispatch :=
  { dispatch with plans := [[action]], notes := [] }.run

end Dispatch

end LessonSite
