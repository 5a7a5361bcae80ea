import LessonSite.Proofs.Client.InStep
import LessonSite.Proofs.Client.Waiting
import LessonSite.Proofs.Playground.Moves

/-!
# Pages in use

Between calls and their answers time passes, components come and go and are
used, and the theme or the address is changed from outside.  Whatever is done,
the calls that wait stay tallied and each event is noted exactly once.
-/

namespace LessonSite

/-- Something that is done with a page. -/
inductive Deed where
  | call (call : Call)
  | answer (number : Nat) (answer : Except NavigationError RouteState)
  | abandon (number : Nat)
  /-- Time passes up to a moment. -/
  | wait (moment : Nat)
  | attach (state : RouteState) (attachment : Attachment)
  | detach (component : Component)
  | setTheme (theme : Theme)
  | toggleToc
  | moveTo (location : Url)
  | toggleChapter (position : Nat)
  | play (event : PlaygroundEvent)
  | publish (event : Event)

/-- The numbers of the subscriptions of what is attached, if anything is. -/
def subscriptionsOf {Part : Type} (attached : Option (Attached Part)) :
    List Nat :=
  (attached.map (·.subscriptions)).getD []

namespace Client

/-- Takes a component away; events go on being noted. -/
def detach (client : Client) : Component → Client
  | .recorder => client
  | .contents => client.detachContents
  | .body => client.detachBody
  | .playground => client.detachPlayground

/-- A page after something is done with it. -/
def use (client : Client) : Deed → Client
  | .call call => (client.begin call).1
  | .answer number answer => (client.answer number answer).1
  | .abandon number => client.abandon number
  | .wait moment => client.advance moment
  | .attach state attachment => client.attach state attachment
  | .detach component => client.detach component
  | .setTheme theme => client.setTheme theme
  | .toggleToc => client.changeContext Context.toggleToc
  | .moveTo location => client.changeContext (·.moveTo location)
  | .toggleChapter position =>
      { client with contents := changePart (·.toggle position) client.contents }
  | .play event =>
      { client with
        playground := changePart (·.act client.now event) client.playground }
  | .publish event => client.publish event

def useAll (client : Client) (deeds : List Deed) : Client :=
  deeds.foldl use client

variable {client : Client}

theorem tallied_changeContext (tallied : client.navigator.Tallied)
    {change : Context → Context}
    (busy : (change client.context).busy = client.context.busy) :
    (client.changeContext change).navigator.Tallied :=
  tallied.with tallied.settled busy rfl rfl rfl

theorem navigator_detach (component : Component) :
    (client.detach component).navigator = client.navigator := by
  cases component <;> rfl

/-- The navigation after a waiting call has been given its answer. -/
theorem navigator_answer (number : Nat)
    (answer : Except NavigationError RouteState) :
    (client.answer number answer).1.navigator =
      (client.navigator.step (.answer number answer)).1 := by
  unfold Client.answer
  split
  · next navigator progress stepped => rw [navigator_settle, stepped]
  · next navigator stepped => rw [stepped]

theorem tallied_use (tallied : client.navigator.Tallied) (deed : Deed) :
    (client.use deed).navigator.Tallied := by
  cases deed with
  | call call =>
      have begun :
          (client.begin call).1.navigator =
            (client.navigator.step (.call call)).1 :=
        navigator_settle _ _ _
      rw [use, begun]
      exact tallied.step (.call call)
  | answer number answer =>
      rw [use, navigator_answer]
      exact tallied.step (.answer number answer)
  | abandon number => exact tallied.step (.abandon number)
  | wait moment => exact tallied
  | attach state attachment =>
      rw [use, navigator_attach]
      exact tallied
  | detach component =>
      rw [use, navigator_detach]
      exact tallied
  | setTheme theme =>
      rw [use, setTheme, navigator_publish]
      exact tallied_changeContext tallied rfl
  | toggleToc => exact tallied_changeContext tallied rfl
  | moveTo location => exact tallied_changeContext tallied rfl
  | toggleChapter position => exact tallied
  | play event => exact tallied
  | publish event =>
      rw [use, navigator_publish]
      exact tallied

/-- The numbers of the subscriptions of a component that is attached. -/
def held (client : Client) : Component → List Nat
  | .recorder => []
  | .contents => subscriptionsOf client.contents
  | .body => subscriptionsOf client.body
  | .playground => subscriptionsOf client.playground

/-- All events are noted, before any component is told of them, and no component
that is attached holds the subscriptions that this takes. -/
structure Notes (client : Client) : Prop where
  live : ∃ others, client.bus.live =
    ⟨0, .routeChange, .recorder⟩ :: ⟨1, .themeChange, .recorder⟩ :: others ∧
    ∀ other ∈ others, other.handler ≠ .recorder
  next : 2 ≤ client.bus.nextId
  held : ∀ component, ∀ number ∈ client.held component, 2 ≤ number

theorem notes_start (location : Url) : (start location).Notes where
  live := ⟨[], rfl, nofun⟩
  next := Nat.le_refl 2
  held component := by cases component <;> nofun

/-- It matters only who has subscribed and what is held. -/
theorem Notes.with (notes : client.Notes) {next : Client}
    (bus : next.bus = client.bus)
    (held : ∀ component, ∀ number ∈ next.held component, 2 ≤ number) :
    next.Notes := by
  refine ⟨?_, ?_, held⟩
  · rw [bus]
    exact notes.live
  · rw [bus]
    exact notes.next

theorem subscriptionsOf_changePart {Part : Type} (change : Part → Part)
    (attached : Option (Attached Part)) :
    subscriptionsOf (changePart change attached) =
      subscriptionsOf attached := by
  cases attached <;> rfl

theorem held_hear (event : Event) (told component : Component) :
    (client.hear event told).held component = client.held component := by
  cases told <;> cases event <;> cases component <;>
    simp only [hear, hearRoute, Client.held, subscriptionsOf_changePart]

theorem held_publish (event : Event) (component : Component) :
    (client.publish event).held component = client.held component := by
  unfold publish
  induction client.bus.receivers event.channel generalizing client with
  | nil => rfl
  | cons subscription subscriptions induction =>
      rw [List.foldl_cons, induction, held_hear]

theorem Notes.changed (notes : client.Notes) {next : Client}
    (bus : next.bus = client.bus)
    (held : ∀ component, next.held component = client.held component) :
    next.Notes := by
  refine notes.with bus ?_
  intro component
  rw [held component]
  exact notes.held component

theorem Notes.publish (notes : client.Notes) (event : Event) :
    (client.publish event).Notes :=
  notes.changed (bus_publish event) (held_publish event)

private theorem heard_hearAll (event : Event)
    {others : List (Subscription Component)}
    (told : ∀ other ∈ others, other.handler ≠ .recorder) :
    (others.foldl (fun client other => client.hear event other.handler)
        client).heard =
      client.heard := by
  induction others generalizing client with
  | nil => rfl
  | cons other others induction =>
      obtain ⟨first, later⟩ := List.forall_mem_cons.mp told
      rw [List.foldl_cons, induction later]
      cases handler : other.handler with
      | recorder => exact absurd handler first
      | _ => cases event <;> rfl

theorem Notes.heard_publish (notes : client.Notes) (event : Event) :
    (client.publish event).heard = client.heard ++ [event] := by
  obtain ⟨others, live, told⟩ := notes.live
  have receivers : ∃ number, client.bus.receivers event.channel =
      ⟨number, event.channel, .recorder⟩ ::
        others.filter fun subscription =>
          subscription.channel = event.channel := by
    cases event with
    | routeChange state =>
        exact ⟨0, by simp [Bus.receivers, live, Event.channel]⟩
    | themeChange theme =>
        exact ⟨1, by simp [Bus.receivers, live, Event.channel]⟩
  obtain ⟨number, receivers⟩ := receivers
  rw [Client.publish, receivers, List.foldl_cons, heard_hearAll]
  · rfl
  · intro other member
    exact told other (List.mem_filter.mp member).1

theorem Notes.subscribe (notes : client.Notes) {component : Component}
    (told : component ≠ .recorder) (channels : List Channel) :
    (client.subscribe component channels).1.Notes ∧
      ∀ number ∈ (client.subscribe component channels).2, 2 ≤ number := by
  induction channels generalizing client with
  | nil => exact ⟨notes, nofun⟩
  | cons channel channels induction =>
      have first :
          ({ client with
            bus := client.bus.subscribe channel component } :
            Client).Notes := by
        obtain ⟨others, live, others_told⟩ := notes.live
        refine ⟨⟨others ++ [⟨client.bus.nextId, channel, component⟩], ?_, ?_⟩,
          ?_, notes.held⟩
        · simp [Bus.subscribe, live]
        · intro other member
          rcases List.mem_append.mp member with old | new
          · exact others_told other old
          · rw [List.mem_singleton.mp new]
            exact told
        · exact Nat.le_succ_of_le notes.next
      obtain ⟨later, numbers⟩ := induction first
      refine ⟨later, ?_⟩
      intro number member
      rcases List.mem_cons.mp member with rfl | member
      · exact notes.next
      · exact numbers number member

/-- Subscriptions that are held by components can be ended. -/
theorem Notes.unsubscribeAll (notes : client.Notes) {numbers : List Nat}
    (bound : ∀ number ∈ numbers, 2 ≤ number) :
    ({ client with
      bus := numbers.foldl Bus.unsubscribe client.bus } : Client).Notes := by
  induction numbers generalizing client with
  | nil => exact notes
  | cons number numbers induction =>
      obtain ⟨first, later⟩ := List.forall_mem_cons.mp bound
      have once :
          ({ client with
            bus := client.bus.unsubscribe number } : Client).Notes := by
        obtain ⟨others, live, told⟩ := notes.live
        refine ⟨⟨others.filter fun other => other.id ≠ number, ?_, ?_⟩,
          notes.next, notes.held⟩
        · have routes : (0 : Nat) ≠ number := by omega
          have themes : (1 : Nat) ≠ number := by omega
          simp [Bus.unsubscribe, live, routes, themes]
        · intro other member
          exact told other (List.mem_filter.mp member).1
      exact induction once later

private theorem Notes.replace (notes : client.Notes) (component : Component)
    (told : component ≠ .recorder) (channels : List Channel) {next : Client}
    (bus : next.bus = (client.held component).foldl Bus.unsubscribe
      (client.subscribe component channels).1.bus)
    (taken : next.held component = (client.subscribe component channels).2)
    (kept : ∀ other ≠ component, next.held other = client.held other) :
    next.Notes := by
  obtain ⟨subscribed, numbers⟩ := notes.subscribe told channels
  refine (subscribed.unsubscribeAll (notes.held component)).with bus ?_
  intro other
  by_cases same : other = component
  · subst same
    rw [taken]
    exact numbers
  · rw [kept other same]
    exact notes.held other

private theorem Notes.remove (notes : client.Notes) (component : Component)
    {next : Client}
    (bus : next.bus = (client.held component).foldl Bus.unsubscribe client.bus)
    (held : ∀ other,
      next.held other = client.held other ∨ next.held other = []) :
    next.Notes := by
  refine (notes.unsubscribeAll (notes.held component)).with bus ?_
  intro other
  rcases held other with same | none
  · rw [same]
    exact notes.held other
  · rw [none]
    nofun

theorem Notes.attach (notes : client.Notes) (state : RouteState)
    (attachment : Attachment) :
    (client.attach state attachment).Notes := by
  cases attachment with
  | contents =>
      refine notes.replace .contents (by decide) [.routeChange] rfl rfl ?_
      intro other different
      cases other <;> first | contradiction | rfl
  | body =>
      refine notes.replace .body (by decide) [.routeChange] rfl rfl ?_
      intro other different
      cases other <;> first | contradiction | rfl
  | playground fileName debounce code compiles runs =>
      refine notes.replace .playground (by decide)
        [.routeChange, .themeChange] rfl rfl ?_
      intro other different
      cases other <;> first | contradiction | rfl

theorem Notes.detach (notes : client.Notes) (component : Component) :
    (client.detach component).Notes := by
  cases component with
  | recorder => exact notes
  | contents =>
      refine notes.remove .contents rfl fun other => ?_
      cases other <;> first | exact .inl rfl | exact .inr rfl
  | body =>
      refine notes.remove .body rfl fun other => ?_
      cases other <;> first | exact .inl rfl | exact .inr rfl
  | playground =>
      refine notes.remove .playground rfl fun other => ?_
      cases other <;> first | exact .inl rfl | exact .inr rfl

theorem Notes.settle (notes : client.Notes) (navigator : Navigator)
    (progress : Progress) :
    (client.settle navigator progress).Notes := by
  have moved : ({ client with navigator } : Client).Notes :=
    notes.with rfl notes.held
  unfold Client.settle
  simp only
  split
  · exact moved.publish _
  · exact moved

theorem notes_use (notes : client.Notes) (deed : Deed) :
    (client.use deed).Notes := by
  cases deed with
  | call call => exact notes.settle _ _
  | answer number answer =>
      rw [use, Client.answer]
      split
      · exact notes.settle _ _
      · exact notes.with rfl notes.held
  | abandon number => exact notes.with rfl notes.held
  | wait moment =>
      refine notes.changed rfl fun component => ?_
      cases component <;>
        simp only [use, advance, Client.held, subscriptionsOf_changePart]
  | attach state attachment => exact notes.attach state attachment
  | detach component => exact notes.detach component
  | setTheme theme =>
      have changed :
          (client.changeContext fun context => { context with theme }).Notes :=
        notes.with rfl notes.held
      exact changed.publish (.themeChange theme)
  | toggleToc => exact notes.with rfl notes.held
  | moveTo location => exact notes.with rfl notes.held
  | toggleChapter position =>
      refine notes.changed rfl fun component => ?_
      cases component <;>
        simp only [use, Client.held, subscriptionsOf_changePart]
  | play event =>
      refine notes.changed rfl fun component => ?_
      cases component <;>
        simp only [use, Client.held, subscriptionsOf_changePart]
  | publish event => exact notes.publish event

/-- Something has been done with a page that was loaded, and this is what it has
come to. -/
def Reachable (client : Client) : Prop :=
  ∃ location deeds, client = (start location).useAll deeds

/-- What holds of a page whatever has been done with it. -/
structure InOrder (client : Client) : Prop where
  tallied : client.navigator.Tallied
  notes : client.Notes

theorem inOrder_start (location : Url) : (start location).InOrder :=
  ⟨Navigator.tallied_start location, notes_start location⟩

theorem InOrder.use (inOrder : client.InOrder) (deed : Deed) :
    (client.use deed).InOrder :=
  ⟨tallied_use inOrder.tallied deed, notes_use inOrder.notes deed⟩

theorem InOrder.useAll (inOrder : client.InOrder) (deeds : List Deed) :
    (client.useAll deeds).InOrder := by
  induction deeds generalizing client with
  | nil => exact inOrder
  | cons deed deeds induction => exact induction (inOrder.use deed)

theorem Reachable.inOrder (reachable : client.Reachable) : client.InOrder := by
  obtain ⟨location, deeds, rfl⟩ := reachable
  exact (inOrder_start location).useAll deeds

end Client

end LessonSite
