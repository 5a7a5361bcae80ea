import LessonSite.Proofs.Client.Calls
import LessonSite.Proofs.Client.Click

/-!
# Components in step

When calls are made one after the other, the history, what the components share,
the body and the table of contents change at different times, and after each
call they show the same page again.
-/

namespace LessonSite

def Progress.outcome? : Progress → Option Outcome
  | .ends outcome _ => some outcome
  | .waits _ _ => none

namespace Client

variable {client : Client} {state : RouteState}

/-- A component is attached; events are always noted. -/
def Has (client : Client) : Component → Prop
  | .recorder => True
  | .contents => client.contents.isSome
  | .body => client.body.isSome
  | .playground => client.playground.isSome

/-- A component is attached, and a body or a table of contents is that of a
route state. -/
def Displays (client : Client) (state : RouteState) : Component → Prop
  | .contents =>
      client.contents.map (·.part) = some (client.readContents state.toc)
  | .body => client.body.map (·.part) = some (.ofState state)
  | other => client.Has other

/-- A component is told of other pages. -/
def Hears (client : Client) (component : Component) : Prop :=
  ∃ subscription ∈ client.bus.receivers .routeChange,
    subscription.handler = component

/-- A component displays a page and is told of the next one. -/
def Follows (client : Client) (state : RouteState)
    (component : Component) : Prop :=
  client.Displays state component ∧ client.Hears component

theorem Displays.has {component : Component}
    (displays : client.Displays state component) :
    client.Has component := by
  cases component with
  | recorder => trivial
  | playground => exact displays
  | contents =>
      obtain ⟨attached, here, -⟩ := Option.map_eq_some_iff.mp displays
      simp [Has, here]
  | body =>
      obtain ⟨attached, here, -⟩ := Option.map_eq_some_iff.mp displays
      simp [Has, here]

theorem bus_hear (event : Event) (component : Component) :
    (client.hear event component).bus = client.bus := by
  cases component <;> cases event <;> rfl

theorem has_hear (event : Event) (told component : Component) :
    (client.hear event told).Has component ↔ client.Has component := by
  cases told <;> cases event <;> cases component <;>
    simp [hear, hearRoute, Has, changePart]

theorem displays_hear_self {component : Component}
    (has : client.Has component) :
    (client.hear (.routeChange state) component).Displays state component := by
  cases component with
  | recorder => trivial
  | playground => exact (has_hear _ _ _).mpr has
  | contents =>
      obtain ⟨attached, here⟩ := Option.isSome_iff_exists.mp has
      simp [hear, hearRoute, Displays, changePart, here, readContents, context]
  | body =>
      obtain ⟨attached, here⟩ := Option.isSome_iff_exists.mp has
      simp [hear, hearRoute, Displays, changePart, here]

theorem Displays.hear {component : Component}
    (displays : client.Displays state component)
    (told : Component) :
    (client.hear (.routeChange state) told).Displays state component := by
  by_cases same : told = component
  · subst same
    exact displays_hear_self displays.has
  · cases told <;> cases component <;> first | exact displays | contradiction

theorem bus_publish (event : Event) :
    (client.publish event).bus = client.bus := by
  unfold publish
  induction client.bus.receivers event.channel generalizing client with
  | nil => rfl
  | cons subscription subscriptions induction =>
      rw [List.foldl_cons, induction, bus_hear]

/-- A component goes on displaying a page that others are told of. -/
theorem Displays.hearAll {component : Component}
    (displays : client.Displays state component)
    (others : List (Subscription Component)) :
    (others.foldl
        (fun client other => client.hear (.routeChange state) other.handler)
        client).Displays
      state component := by
  induction others generalizing client with
  | nil => exact displays
  | cons other others induction => exact induction (displays.hear other.handler)

/-- Every component that is told of other pages displays the one that all are
told of. -/
theorem displays_publish {component : Component} (has : client.Has component)
    (hears : client.Hears component) :
    (client.publish (.routeChange state)).Displays state component := by
  unfold publish
  rw [show (Event.routeChange state).channel = .routeChange from rfl]
  obtain ⟨subscription, receives, rfl⟩ := hears
  generalize client.bus.receivers .routeChange = subscriptions at receives
  induction subscriptions generalizing client with
  | nil => cases receives
  | cons other others induction =>
      rcases List.mem_cons.mp receives with same | later
      · subst same
        exact (displays_hear_self has).hearAll others
      · apply induction
        · exact (has_hear _ _ _).mpr has
        · exact later

end Client

/-- A call with what it is answered if it has to wait, and when, if not at
once. -/
structure Visit where
  call : Call
  moment : Option Nat
  answer : Except NavigationError RouteState

/-- Something that is attached to a page. -/
inductive Attachment where
  | contents
  | body
  | playground (fileName : String) (debounce : Nat) (code : String)
      (compiles : List CompileScript) (runs : List RunScript)

def Attachment.component : Attachment → Component
  | .contents => .contents
  | .body => .body
  | .playground _ _ _ _ _ => .playground

namespace Client

/-- Waits for a moment, if there is one to wait for. -/
def await (client : Client) : Option Nat → Client
  | none => client
  | some moment => client.advance moment

/-- Makes a call and sees it through: how it has ended, and what was asked
for. -/
def visit (client : Client) (visit : Visit) :
    Client × Option Outcome × Option Url :=
  match client.begin visit.call with
  | (ended, .ends outcome _) => (ended, some outcome, none)
  | (begun, .waits number request) =>
      let (answered, progress) :=
        (begun.await visit.moment).answer number visit.answer
      (answered, progress.bind Progress.outcome?, some request)

/-- Makes calls one after the other. -/
def visitAll (client : Client) (visits : List Visit) : Client :=
  visits.foldl (fun client visit => (client.visit visit).1) client

/-- Attaches something to a page with a route state. -/
def attach (client : Client) (state : RouteState) : Attachment → Client
  | .contents => client.attachContents state.toc
  | .body => client.attachBody state
  | .playground fileName debounce code compiles runs =>
      client.attachPlayground fileName debounce code compiles runs

def attachAll (client : Client) (state : RouteState)
    (attachments : List Attachment) : Client :=
  attachments.foldl
    (fun client attachment => client.attach state attachment) client

/-- The page of the current entry is shown, and a body and a table of contents
show it too. -/
structure InStep (client : Client) (state : RouteState) : Prop where
  presents : client.navigator.Presents state
  body : client.Follows state .body
  contents : client.Follows state .contents

variable {client : Client} {state : RouteState}

/-- A call that does not have to wait is seen through at once. -/
theorem visit_of_ends {visit : Visit} {next : Navigator} {outcome : Outcome}
    {told : Option RouteState}
    (ends : client.navigator.begin visit.call = (next, .ends outcome told)) :
    client.visit visit =
      (client.settle next (.ends outcome told), some outcome, none) := by
  simp only [Client.visit, begin, ends]

/-- A call that has to wait is seen through when it is answered. -/
theorem visit_of_waits {visit : Visit} {begun next : Navigator} {number : Nat}
    {request : Url}
    {pending : Pending} {outcome : Outcome} {told : Option RouteState}
    (waits : client.navigator.begin visit.call = (begun, .waits number request))
    (found : List.lookup number begun.waiting = some pending)
    (ends : begun.answer number pending visit.answer =
      (next, .ends outcome told)) :
    client.visit visit =
      ((client.await visit.moment).settle next (.ends outcome told),
        some outcome, some request) := by
  have started : client.begin visit.call =
      ({ client with navigator := begun }, .waits number request) := by
    simp only [begin, waits, settle]
  have stepped :
      begun.step (.answer number visit.answer) =
        (next, some (.ends outcome told)) := by
    simp only [Navigator.step, found, ends]
  unfold Client.visit
  simp only [started]
  cases visit.moment with
  | none =>
      simp only [await, answer, stepped]
      rfl
  | some moment =>
      simp only [await, advance, answer, stepped]
      rfl

/-- A call that comes to an end is seen through; waiting for its answer changes
nothing but the playground. -/
theorem visit_eq {visit : Visit} {request : Option Url} {next : Navigator}
    {outcome : Outcome} {told : Option RouteState}
    (ends : client.navigator.Ends visit.call visit.answer request
      next outcome told) :
    ∃ now playground, client.visit visit =
        (({ client with now, playground } : Client).settle
            next (.ends outcome told), some outcome,
          request) ∧
      playground.isSome = client.playground.isSome := by
  cases ends with
  | atOnce begun =>
      exact ⟨client.now, client.playground, visit_of_ends begun, rfl⟩
  | answered waits found ends =>
      rw [visit_of_waits waits found ends]
      cases visit.moment with
      | none => exact ⟨client.now, client.playground, rfl, rfl⟩
      | some moment =>
          exact ⟨moment, changePart (·.advance moment) client.playground,
            rfl, by simp [changePart]⟩

/-- A component that follows displays the page that a call has led to. -/
theorem Follows.settle {component : Component}
    (follows : client.Follows state component)
    {next : Navigator} (told : Option RouteState)
    (same : told = none → next.context = client.navigator.context)
    (outcome : Outcome) :
    (client.settle next (.ends outcome told)).Follows (told.getD state)
      component := by
  obtain ⟨displays, hears⟩ := follows
  cases told with
  | none =>
      refine ⟨?_, hears⟩
      cases component with
      | recorder => trivial
      | playground => exact displays
      | body => exact displays
      | contents =>
          simpa only [Displays, readContents, context, Client.settle, same rfl,
              Option.getD_none] using displays
  | some later =>
      constructor
      · have has :
            ({ client with navigator := next } : Client).Has component := by
          cases component <;> exact displays.has
        exact displays_publish has hears
      · unfold Hears Client.settle
        rw [bus_publish]
        exact hears

/-- Components are in step again after a call, whatever it has come to. -/
theorem InStep.visit (inStep : client.InStep state) {visit : Visit}
    (other : visit.call ≠ .open) :
    ∃ outcome request later, (client.visit visit).2 = (some outcome, request) ∧
      (client.visit visit).1.InStep later ∧
      (visit.call = .back ∨ visit.call = .forward → request = none) := by
  obtain ⟨request, next, outcome, told, ends, presents, same, steps⟩ :
      client.navigator.EndsOnPage state visit.call visit.answer :=
      inStep.presents.ends other
  obtain ⟨now, playground, visited, -⟩ := visit_eq ends
  have body : ({ client with now, playground } : Client).Follows state .body :=
    inStep.body
  have contents :
      ({ client with now, playground } : Client).Follows state .contents :=
    inStep.contents
  rw [visited]
  refine ⟨outcome, request, told.getD state, rfl, ?_, steps⟩
  constructor
  · rw [navigator_settle]
    exact presents
  · exact body.settle told same outcome
  · exact contents.settle told same outcome

theorem InStep.visitAll (inStep : client.InStep state) {visits : List Visit}
    (others : ∀ visit ∈ visits, visit.call ≠ .open) :
    ∃ later, (client.visitAll visits).InStep later := by
  induction visits generalizing client state with
  | nil => exact ⟨state, inStep⟩
  | cons visit visits induction =>
      obtain ⟨other, others⟩ := List.forall_mem_cons.mp others
      obtain ⟨-, -, later, -, inStep, -⟩ := inStep.visit other
      exact induction inStep others

/-- Nothing has been attached yet, and only the page that was loaded is
known. -/
structure Bare (client : Client) : Prop where
  lacks : ∀ component ≠ .recorder, ¬ client.Has component
  rests : client.navigator.Rests
  first : client.navigator.history.position = 0

theorem bare_start (location : Url) : (start location).Bare where
  lacks := by
    intro component other has
    cases component with
    | recorder => exact other rfl
    | _ => cases has
  rests := Navigator.rests_start location
  first := rfl

theorem Bare.visit (bare : client.Bare) {visit : Visit}
    (opens : visit.call = .open) :
    (client.visit visit).1.Bare ∧
      ∀ state, (client.visit visit).2.1 = some (.shown state) →
        (client.visit visit).1.navigator.Presents state := by
  obtain ⟨request, next, outcome, ends, rests, first, presents⟩ :=
    bare.rests.ends_open bare.first visit.answer
  rw [← opens] at ends
  obtain ⟨now, playground, visited, same⟩ := visit_eq ends
  rw [visited]
  refine ⟨⟨?_, rests, first⟩, fun state shown =>
    presents state (Option.some.inj shown)⟩
  intro component other has
  apply bare.lacks component other
  cases component with
  | playground => exact same.symm.trans has
  | _ => exact has

theorem Bare.visitAll (bare : client.Bare) {visits : List Visit}
    (tried : ∀ visit ∈ visits, visit.call = .open) :
    (client.visitAll visits).Bare := by
  induction visits generalizing client with
  | nil => exact bare
  | cons visit visits induction =>
      obtain ⟨opens, others⟩ := List.forall_mem_cons.mp tried
      exact induction (bare.visit opens).1 others

/-- What is attached for the first time is told of other pages after all
others. -/
theorem receivers_attach {attachment : Attachment}
    (lacks : ¬ client.Has attachment.component) :
    (client.attach state attachment).bus.receivers .routeChange =
      client.bus.receivers .routeChange ++
        [⟨client.bus.nextId, .routeChange, attachment.component⟩] := by
  cases attachment with
  | contents =>
      have nothing : client.contents = none := by
        simpa [Attachment.component, Has] using lacks
      simp [attach, attachContents, subscribe, release, nothing, Bus.subscribe,
        Bus.receivers, Attachment.component]
  | body =>
      have nothing : client.body = none := by
        simpa [Attachment.component, Has] using lacks
      simp [attach, attachBody, subscribe, release, nothing, Bus.subscribe,
        Bus.receivers, Attachment.component]
  | playground fileName debounce code compiles runs =>
      have nothing : client.playground = none := by
        simpa [Attachment.component, Has] using lacks
      simp [attach, attachPlayground, subscribe, release, nothing,
        Bus.subscribe, Bus.receivers, Attachment.component]

theorem navigator_attach (attachment : Attachment) :
    (client.attach state attachment).navigator = client.navigator := by
  cases attachment <;> rfl

/-- What has been attached displays the page that it has been attached with. -/
theorem displays_attach_self (attachment : Attachment) :
    (client.attach state attachment).Displays state attachment.component := by
  cases attachment <;> rfl

theorem has_attach (attachment : Attachment) {component : Component}
    (other : component ≠ attachment.component) :
    (client.attach state attachment).Has component ↔ client.Has component := by
  cases attachment <;> cases component <;> first | contradiction | rfl

theorem follows_attach_self {attachment : Attachment}
    (lacks : ¬ client.Has attachment.component) :
    (client.attach state attachment).Follows state attachment.component := by
  refine ⟨displays_attach_self attachment, ⟨client.bus.nextId, .routeChange, _⟩,
    ?_, rfl⟩
  rw [receivers_attach lacks]
  exact List.mem_append_right _ List.mem_cons_self

theorem Follows.attach {component : Component}
    (follows : client.Follows state component)
    {attachment : Attachment} (lacks : ¬ client.Has attachment.component)
    (other : component ≠ attachment.component) :
    (client.attach state attachment).Follows state component := by
  obtain ⟨displays, subscription, receives, handles⟩ := follows
  constructor
  · cases attachment <;> cases component <;>
      first | contradiction | exact displays
  · refine ⟨subscription, ?_, handles⟩
    rw [receivers_attach lacks]
    exact List.mem_append_left _ receives

theorem navigator_attachAll (attachments : List Attachment) :
    (client.attachAll state attachments).navigator = client.navigator := by
  induction attachments generalizing client with
  | nil => rfl
  | cons attachment attachments induction =>
      exact induction.trans (navigator_attach attachment)

/-- Of different components that are attached, each follows afterwards, as do
those that did before. -/
theorem follows_attachAll {attachments : List Attachment}
    (different : (attachments.map Attachment.component).Nodup)
    (lacks : ∀ attachment ∈ attachments, ¬ client.Has attachment.component)
    {component : Component}
    (follows : component ∈ attachments.map Attachment.component ∨
      client.Follows state component) :
    (client.attachAll state attachments).Follows state component := by
  induction attachments generalizing client with
  | nil => exact follows.resolve_left List.not_mem_nil
  | cons attachment attachments induction =>
      obtain ⟨fresh, different⟩ := List.nodup_cons.mp different
      obtain ⟨lacksFirst, lacksOthers⟩ := List.forall_mem_cons.mp lacks
      have distinct :
          ∀ other ∈ attachments, other.component ≠ attachment.component :=
        fun other member same => fresh (same ▸ List.mem_map_of_mem member)
      apply induction different
      · intro other member
        rw [has_attach attachment (distinct other member)]
        exact lacksOthers other member
      · by_cases here : component = attachment.component
        · subst here
          exact .inr (follows_attach_self lacksFirst)
        · rcases follows with member | before
          · exact .inl ((List.mem_cons.mp member).resolve_left here)
          · exact .inr (before.attach lacksFirst here)

/-- What a page shows is all of one route state: that of the current entry. -/
structure Agrees (client : Client) (state : RouteState) : Prop where
  location : client.context.location = client.navigator.history.current.url
  state_eq : client.navigator.history.current.state = some state
  body : client.body.map (·.part) = some (.ofState state)
  contents : client.contents.map (·.part) =
    some ((Contents.parse state.toc).highlight client.context.location).1
  locale : client.context.locale =
    (Locale.ofLabel? state.locale).getD
      (Context.localeOf client.context.location)
  busy : client.context.busy = false

theorem InStep.agrees (inStep : client.InStep state) : client.Agrees state where
  location := inStep.presents.location
  state_eq := inStep.presents.state_eq
  body := inStep.body.1
  contents := inStep.contents.1
  locale := inStep.presents.locale
  busy := inStep.presents.busy

/-- A page that gets its route state at last, with what is attached to it then
and the calls that follow. -/
def usePage (location : Url) (tries : List Visit) (opening : Visit)
    (state : RouteState)
    (attachments : List Attachment) (visits : List Visit) : Client :=
  ((((start location).visitAll tries).visit opening).1.attachAll state
    attachments).visitAll visits

/-- When the page that was loaded has got its route state and a body and a table
of contents have been attached with it, a page shows all of one route state
after any number of calls, and then no step through the history asks for
anything. -/
theorem usePage_agrees {location : Url} {tries : List Visit} {opening : Visit}
    {state : RouteState} {attachments : List Attachment} {visits : List Visit}
    (tried : ∀ visit ∈ tries, visit.call = .open) (opens : opening.call = .open)
    (opened : (((start location).visitAll tries).visit opening).2.1 =
      some (.shown state))
    (different : (attachments.map Attachment.component).Nodup)
    (body : Attachment.body ∈ attachments)
    (contents : Attachment.contents ∈ attachments)
    (others : ∀ visit ∈ visits, visit.call ≠ .open) :
    ∃ shown,
      (usePage location tries opening state attachments visits).Agrees shown ∧
        ∀ visit : Visit, visit.call = .back ∨ visit.call = .forward →
          ((usePage location tries opening state attachments visits).visit
            visit).2.2 = none := by
  obtain ⟨bare, presents⟩ := ((bare_start location).visitAll tried).visit opens
  unfold usePage
  generalize
    ((start location).visitAll tries).visit opening =
      done at opened bare presents ⊢
  have lacks :
      ∀ attachment ∈ attachments, ¬ done.1.Has attachment.component := by
    intro attachment _
    apply bare.lacks
    cases attachment <;> nofun
  have attached : (done.1.attachAll state attachments).InStep state := by
    constructor
    · rw [navigator_attachAll]
      exact presents state opened
    · exact follows_attachAll different lacks (.inl (List.mem_map_of_mem body))
    · exact follows_attachAll different lacks
        (.inl (List.mem_map_of_mem contents))
  obtain ⟨shown, inStep⟩ := attached.visitAll others
  refine ⟨shown, inStep.agrees, ?_⟩
  intro visit step
  have other : visit.call ≠ .open := by
    intro opens
    simp [opens] at step
  obtain ⟨outcome, request, -, ended, -, nothing⟩ := inStep.visit other
  rw [ended]
  exact nothing step

def smallHome : Url :=
  ⟨"http", "", "", some (.domain "site.test"), none, .rooted ["index.html"],
    none, none⟩

def smallState (title : String) : RouteState :=
  { RouteState.empty with title, locale := Locale.zh.label }

/-- The route state comes at the second time; of the calls after that one
fails. -/
theorem usePage_small_agrees :
    ∃ shown, (usePage smallHome [⟨.open, none, .error (.refused smallHome 503)⟩]
        ⟨.open, some 3, .ok (smallState "Home")⟩ (smallState "Home")
        [.contents, .body]
        [⟨.click "a/", some 5, .ok (smallState "A")⟩,
          ⟨.click "b/", none, .error (.malformed smallHome)⟩,
          ⟨.back, none, .error (.malformed smallHome)⟩]).Agrees shown ∧
      ∀ visit : Visit, visit.call = .back ∨ visit.call = .forward →
        ((usePage smallHome [⟨.open, none, .error (.refused smallHome 503)⟩]
          ⟨.open, some 3, .ok (smallState "Home")⟩ (smallState "Home")
          [.contents, .body] [⟨.click "a/", some 5, .ok (smallState "A")⟩,
            ⟨.click "b/", none, .error (.malformed smallHome)⟩,
            ⟨.back, none, .error (.malformed smallHome)⟩]).visit visit).2.2 =
          none :=
  usePage_agrees (by simp) rfl (by decide +kernel) (by decide) (by simp)
    (by simp) (by simp)

end Client

namespace Session

/-- A navigation that is made on its own sees its call through. -/
theorem perform_navigate {session : Session} {source : Source}
    (known : session.source = some source) (call : Call) :
    ∃ moment answer, (session.perform (.navigate call none)).1.client =
      (session.client.visit ⟨call, moment, answer⟩).1 := by
  rcases begun : session.client.begin call with ⟨client, progress⟩
  cases progress with
  | ends outcome told =>
      have performed : session.begin (.navigate call none) =
          ({ session with client }, .ended (.outcome outcome)) := by
        simp only [Session.begin, known, begun]
      refine ⟨none, .error (.malformed client.context.location), ?_⟩
      rw [perform_of_ended performed]
      simp only [Client.visit, begun]
  | waits number request =>
      cases delay : source.delay? request with
      | none =>
          have performed : session.begin (.navigate call none) =
              ((Session.answer
                  ⟨client, some source, session.requests ++ [request]⟩
                  number request).1,
                .ended
                  (Session.answer
                    ⟨client, some source, session.requests ++ [request]⟩ number
                    request).2) := by
            simp only [Session.begin, known, begun, await, delay]
          refine ⟨none, (source.answer request).1, ?_⟩
          rw [perform_of_ended performed]
          simp only [Session.answer, Client.visit, begun, Client.await]
      | some wait =>
          have performed : session.begin (.navigate call none) =
              (⟨client, some source, session.requests ++ [request]⟩,
                .waits (client.now + wait) (.answer number request)) := by
            simp only [Session.begin, known, begun, await, delay]
          refine ⟨some (client.now + wait), (source.answer request).1, ?_⟩
          rw [perform_of_waits performed]
          simp only [proceed, Session.answer, Client.visit, begun, Client.await]

end Session

end LessonSite
