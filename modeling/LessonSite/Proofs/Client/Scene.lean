import LessonSite.Proofs.Client.Deeds
import LessonSite.Proofs.Client.Order
import LessonSite.Proofs.Playground.Moves

/-!
# Themes that are set while themes are set

When the theme of a page is set, whatever is told of it may set it again.  A
playground is then told last of the theme that was set last while it was still
to be told of none, and this need not be the theme of the page.
-/

namespace LessonSite

open Traffic (Note)

/-- The theme that an event is about. -/
def Event.theme? : Event → Option Theme
  | .routeChange _ => none
  | .themeChange theme => some theme

/-- The page becomes another one, but for its bus, its theme and its
playground. -/
def Client.rearrange (client other : Client) : Client where
  now := client.now
  navigator :=
    { other.navigator with
      context := { other.context with theme := client.context.theme } }
  bus := client.bus
  heard := other.heard
  contents := other.contents
  body := other.body
  playground := client.playground

/-- A page on which events are being published. -/
structure Scene where
  client : Client
  underWay : List (Publication Component)

namespace Scene

/-- Something that happens on a page.  What a component does when it is told of
an event, beside what makes it show the event, is a sequence of moves. -/
inductive Move where
  | act (move : Traffic.Move Component)
  | setTheme (theme : Theme)
  /-- Something happens to the playground. -/
  | play (event : PlaygroundEvent)
  /-- Time passes up to a moment. -/
  | wait (moment : Nat)
  /-- The rest of the page becomes that of another one: its address and history,
  the calls that wait, and the other components. -/
  | rearrange (other : Client)

/-- The traffic on the bus of the page. -/
def traffic (scene : Scene) : Traffic Component :=
  ⟨scene.client.bus, scene.underWay⟩

/-- The page with other traffic on its bus. -/
def resume (scene : Scene) (traffic : Traffic Component) : Scene :=
  ⟨{ scene.client with bus := traffic.bus }, traffic.underWay⟩

/-- A subscription tells a component that is there: one that holds it, or the
one that notes all events. -/
def Reaches (client : Client) (subscription : Subscription Component) : Prop :=
  subscription.handler = .recorder ∨
    subscription.id ∈ client.held subscription.handler

instance (client : Client) (subscription : Subscription Component) :
    Decidable (Reaches client subscription) :=
  inferInstanceAs (Decidable (_ ∨ _))

/-- A component is told of an event over a subscription. -/
def tell (scene : Scene) (subscription : Subscription Component)
    (event : Event) : Scene :=
  if Reaches scene.client subscription then
    { scene with client := scene.client.hear event subscription.handler }
  else scene

/-- The page after a move, if it can be made.  The subscriptions of a component
are dropped with it only, and a playground learns of a theme over its
subscription only. -/
def step? (scene : Scene) : Move → Option Scene
  | .act .tell => scene.traffic.tell?.map fun (subscription, event, traffic) =>
      (scene.resume traffic).tell subscription event
  | .act (.drop id) =>
      if ∃ component ∈ [Component.contents, .body, .playground],
        id ∈ scene.client.held component then none
      else (scene.traffic.step? (.drop id)).map scene.resume
  | .act move => (scene.traffic.step? move).map scene.resume
  | .setTheme theme =>
      let changed :=
        scene.client.changeContext fun context => { context with theme }
      let scene := { scene with client := changed }
      some (scene.resume (scene.traffic.publish (.themeChange theme)))
  | .play (.theme _) => none
  | .play event => some { scene with client := scene.client.use (.play event) }
  | .wait moment =>
      some { scene with client := scene.client.use (.wait moment) }
  | .rearrange other =>
      some { scene with client := scene.client.rearrange other }

/-- The page after one move after the other. -/
def run? (scene : Scene) (moves : List Move) : Option Scene :=
  moves.foldlM step? scene

/-- The theme that a move publishes. -/
def Move.theme? : Move → Option Theme
  | .setTheme theme => some theme
  | .act (.publish (.themeChange theme)) => some theme
  | _ => none

/-- The playground is still to be told of a theme. -/
def Waits (scene : Scene) : Prop :=
  ∃ publication ∈ scene.underWay, ∃ subscription ∈ publication.waiting,
    subscription.channel = .themeChange ∧
      subscription.id ∈ scene.client.held .playground

instance (scene : Scene) : Decidable scene.Waits :=
  inferInstanceAs
    (Decidable
      (∃ publication ∈ scene.underWay, ∃ subscription ∈ publication.waiting,
        subscription.channel = .themeChange ∧
          subscription.id ∈ scene.client.held .playground))

/-- The theme of the playground, if one is attached. -/
def playgroundTheme? (scene : Scene) : Option Theme :=
  scene.client.playground.map fun attached => attached.part.playground.theme

/-- The theme that is published last while the playground is to be told of none,
or else a given one. -/
def settledTheme (theme : Theme) (scene : Scene) : List Move → Theme
  | [] => theme
  | move :: moves =>
      match scene.step? move with
      | none => theme
      | some next =>
          next.settledTheme
            (if scene.Waits then theme else move.theme?.getD theme) moves

/-- A playground holds two subscriptions with successive numbers, to pages and
to themes, and they are live. -/
structure Plays (number : Nat) (scene : Scene) : Prop where
  sound : scene.traffic.Sound
  held : scene.client.held .playground = [number, number + 1]
  route : ⟨number, .routeChange, .playground⟩ ∈ scene.client.bus.live
  theme : ⟨number + 1, .themeChange, .playground⟩ ∈ scene.client.bus.live

/-- The themes that publications are still to tell a subscription. -/
def dueThemes (id : Nat) (underWay : List (Publication Component)) :
    List Theme :=
  underWay.filterMap fun publication =>
    if publication.Awaits id then publication.event.theme? else none

/-- The theme that a playground will have when it has been told of all themes
that are due. -/
def finalTheme? (number : Nat) (scene : Scene) : Option Theme :=
  (dueThemes (number + 1) scene.underWay).getLast?.or scene.playgroundTheme?

variable {scene next : Scene} {number : Nat}

section Tell

variable (scene : Scene) (subscription : Subscription Component) (event : Event)

theorem underWay_tell :
    (scene.tell subscription event).underWay = scene.underWay := by
  unfold tell
  split <;> rfl

theorem bus_tell :
    (scene.tell subscription event).client.bus = scene.client.bus := by
  unfold tell
  split
  · exact Client.bus_hear event subscription.handler
  · rfl

theorem traffic_tell :
    (scene.tell subscription event).traffic = scene.traffic := by
  rw [traffic, underWay_tell, bus_tell]
  rfl

theorem held_tell (component : Component) :
    (scene.tell subscription event).client.held component =
      scene.client.held component := by
  unfold tell
  split
  · exact Client.held_hear event subscription.handler component
  · rfl

end Tell

theorem playgroundTheme?_tell_theme
    (held : scene.client.held .playground = [number, number + 1])
    (theme : Theme) :
    (scene.tell ⟨number + 1, .themeChange, .playground⟩
        (.themeChange theme)).playgroundTheme? =
      some theme := by
  have reaches :
      Reaches scene.client ⟨number + 1, .themeChange, .playground⟩ := by
    simp [Reaches, held]
  cases attached : scene.client.playground with
  | none => simp [Client.held, subscriptionsOf, attached] at held
  | some attached =>
      rw [tell, if_pos reaches]
      simp only [playgroundTheme?, Client.hear, Client.changePart, attached,
        Option.map_some]
      rfl

/-- Whatever else is told leaves the theme of the playground as it is. -/
theorem playgroundTheme?_tell_other {subscription : Subscription Component}
    {event : Event}
    (other : subscription.handler = .playground →
      subscription.id ∈ scene.client.held .playground →
        event.theme? = none) :
    (scene.tell subscription event).playgroundTheme? =
      scene.playgroundTheme? := by
  unfold tell
  split
  · next reaches =>
      obtain ⟨id, channel, handler⟩ := subscription
      cases handler with
      | recorder => rfl
      | contents => cases event <;> rfl
      | body => cases event <;> rfl
      | playground =>
          cases event with
          | themeChange theme =>
              have held := reaches.resolve_left fun same => by cases same
              cases other rfl held
          | routeChange state =>
              cases attached : scene.client.playground with
              | none =>
                  simp [playgroundTheme?, Client.hear, Client.hearRoute,
                    Client.changePart, attached]
              | some attached =>
                  simp only [playgroundTheme?, Client.hear, Client.hearRoute,
                    Client.changePart, *, Option.map_some]
                  exact congrArg some
                    (TimedPlayground.theme_act _
                      _ fun theme same => by cases same)
  · rfl

theorem dueThemes_cons (id : Nat) (publication : Publication Component)
    (outer : List (Publication Component)) :
    dueThemes id (publication :: outer) =
      (if publication.Awaits id then
        publication.event.theme?
      else none).toList ++ dueThemes id outer := by
  cases here : if publication.Awaits id then
      publication.event.theme?
    else none <;>
    simp [dueThemes, here]

/-- What waits under the number of a live subscription is that subscription. -/
theorem channel_of_awaits (sound : scene.traffic.Sound)
    {subscription : Subscription Component}
    (live : subscription ∈ scene.client.bus.live)
    {publication : Publication Component}
    (underWay : publication ∈ scene.underWay)
    (awaits : publication.Awaits subscription.id) :
    publication.event.channel = subscription.channel := by
  obtain ⟨other, waits, equal⟩ := awaits
  rw [sound.same publication underWay other waits subscription live equal.symm]
  exact (sound.waiting publication underWay other waits).2.symm

/-- The playground is to be told of a theme just when one is due to its
subscription to themes. -/
theorem Plays.waits_iff (plays : Plays number scene) :
    scene.Waits ↔ dueThemes (number + 1) scene.underWay ≠ [] := by
  constructor
  · rintro ⟨publication, underWay, subscription, waits, channel, held⟩
    have here := (plays.sound.waiting publication underWay subscription waits).2
    rw [channel] at here
    obtain ⟨theme, event⟩ : ∃ theme,
      publication.event = .themeChange theme := by
      cases event : publication.event with
      | routeChange state => rw [event] at here; cases here
      | themeChange theme => exact ⟨theme, rfl⟩
    have awaits : publication.Awaits (number + 1) := by
      rw [plays.held] at held
      rcases List.mem_cons.mp held with first | second
      · have route : publication.event.channel = .routeChange :=
          channel_of_awaits plays.sound plays.route underWay
            ⟨subscription, waits, first⟩
        rw [← here] at route
        cases route
      · exact ⟨subscription, waits, List.mem_singleton.mp second⟩
    have member : theme ∈ dueThemes (number + 1) scene.underWay := by
      refine List.mem_filterMap.mpr ⟨publication, underWay, ?_⟩
      rw [if_pos awaits, event]
      rfl
    exact List.ne_nil_of_mem member
  · intro due
    obtain ⟨theme, member⟩ := List.exists_mem_of_ne_nil _ due
    obtain ⟨publication, underWay, listed⟩ := List.mem_filterMap.mp member
    split at listed
    · next awaits =>
        obtain ⟨subscription, waits, equal⟩ := awaits
        refine ⟨publication, underWay, subscription, waits, ?_, ?_⟩
        · rw [(plays.sound.waiting publication underWay subscription waits).2]
          exact channel_of_awaits plays.sound plays.theme underWay
            ⟨subscription, waits, equal⟩
        · rw [plays.held, equal]
          exact List.mem_cons_of_mem _ List.mem_cons_self
    · cases listed

/-- A theme is published: it stays in the end only if the playground is to be
told of no other. -/
theorem Plays.publish (plays : Plays number scene) (theme : Theme) :
    let next := scene.resume (scene.traffic.publish (.themeChange theme))
    Plays number next ∧
      next.finalTheme? number =
        if scene.Waits then scene.finalTheme? number else some theme := by
  refine ⟨⟨plays.sound.publish _, plays.held, plays.route, plays.theme⟩, ?_⟩
  have awaits :=
    (Publication.awaits_receivers_iff plays.sound plays.theme
      (.themeChange theme)).mpr rfl
  have due : dueThemes (number + 1)
      (scene.resume (scene.traffic.publish (.themeChange theme))).underWay =
        theme :: dueThemes (number + 1) scene.underWay := by
    rw [resume, Traffic.publish, dueThemes_cons, if_pos awaits]
    rfl
  rw [finalTheme?, due]
  by_cases waits : scene.Waits
  · obtain ⟨first, others, same⟩ :=
      List.exists_cons_of_ne_nil (plays.waits_iff.mp waits)
    rw [if_pos waits, finalTheme?, same]
    rfl
  · have nothing := not_not.mp (mt plays.waits_iff.mpr waits)
    rw [if_neg waits, nothing]
    rfl

/-- A telling brings the playground nearer to its final theme. -/
theorem Plays.tell (plays : Plays number scene)
    {subscription : Subscription Component} {event : Event}
    {traffic : Traffic Component}
    (tells : scene.traffic.tell? = some (subscription, event, traffic)) :
    let next := (scene.resume traffic).tell subscription event
    Plays number next ∧ next.finalTheme? number = scene.finalTheme? number := by
  have moved : Traffic.Step scene.traffic .tell traffic := by
    refine Traffic.step_of_step? ?_
    rw [Traffic.step?, tells]
    rfl
  have sound := plays.sound.step moved
  obtain ⟨waiting, outer, underWay, rfl⟩ := Traffic.of_tell? tells
  change scene.underWay = _ at underWay
  have innermost :
      (⟨event, subscription :: waiting⟩ : Publication Component) ∈
        scene.underWay :=
    underWay ▸ List.mem_cons_self
  have once := plays.sound.once _ innermost
  refine ⟨⟨?_, ?_, ?_, ?_⟩, ?_⟩
  · rw [traffic_tell]
    exact sound
  · rw [held_tell]
    exact plays.held
  · rw [bus_tell]
    exact plays.route
  · rw [bus_tell]
    exact plays.theme
  · have left :
        (scene.resume ⟨scene.traffic.bus, ⟨event, waiting⟩ :: outer⟩).underWay =
          ⟨event, waiting⟩ :: outer := rfl
    rw [finalTheme?, finalTheme?, underWay_tell, underWay, left, dueThemes_cons,
      dueThemes_cons]
    by_cases same : subscription.id = number + 1
    · have first :=
        plays.sound.same _ innermost _ List.mem_cons_self _
          plays.theme same.symm
      have channel := (plays.sound.waiting _ innermost _ List.mem_cons_self).2
      subst first
      cases event with
      | routeChange state => cases channel
      | themeChange theme =>
          have told :
              ((scene.resume
                  ⟨scene.traffic.bus,
                    ⟨.themeChange theme, waiting⟩ :: outer⟩).tell
                ⟨number + 1, .themeChange, .playground⟩
                (.themeChange theme)).playgroundTheme? = some theme := by
            refine playgroundTheme?_tell_theme ?_ theme
            exact plays.held
          rw [if_neg (Publication.not_awaits_of_once once),
            if_pos Publication.awaits_self, told]
          cases dueThemes (number + 1) outer <;> rfl
    · have untouched :
          ((scene.resume ⟨scene.traffic.bus, ⟨event, waiting⟩ :: outer⟩).tell
            subscription event).playgroundTheme? = scene.playgroundTheme? := by
        refine playgroundTheme?_tell_other fun playground held => ?_
        have route : subscription.id = number := by
          have either : subscription.id ∈ [number, number + 1] :=
            plays.held ▸ held
          simpa [same] using either
        have channel : event.channel = .routeChange :=
          channel_of_awaits plays.sound plays.route innermost
            ⟨subscription, List.mem_cons_self, route⟩
        cases event with
        | routeChange state => rfl
        | themeChange theme => cases channel
      rw [untouched]
      simp only [Publication.awaits_cons_iff same]

theorem of_step?_play {event : PlaygroundEvent}
    (steps : scene.step? (.play event) = some next) :
    (∀ theme, event ≠ .theme theme) ∧
      next = { scene with client := scene.client.use (.play event) } := by
  cases event with
  | theme theme => cases steps
  | _ =>
      cases steps
      exact ⟨nofun, rfl⟩

theorem Plays.with (plays : Plays number scene) (sound : next.traffic.Sound)
    (held : next.client.held .playground = scene.client.held .playground)
    (route : ⟨number, .routeChange, .playground⟩ ∈ next.client.bus.live)
    (theme : ⟨number + 1, .themeChange, .playground⟩ ∈ next.client.bus.live)
    (due : dueThemes (number + 1) next.underWay =
      dueThemes (number + 1) scene.underWay)
    (same : next.playgroundTheme? = scene.playgroundTheme?) :
    Plays number next ∧ next.finalTheme? number = scene.finalTheme? number :=
  ⟨⟨sound, held.trans plays.held, route,
    theme⟩, by rw [finalTheme?, finalTheme?, due, same]⟩

theorem Plays.act (plays : Plays number scene) {move : Traffic.Move Component}
    (steps : scene.step? (.act move) = some next)
    (themeless : (Move.act move).theme? = none) :
    Plays number next ∧ next.finalTheme? number = scene.finalTheme? number := by
  cases move with
  | subscribe channel handler =>
      cases steps
      exact plays.with (plays.sound.subscribe channel handler) rfl
        (List.mem_append_left _ plays.route)
        (List.mem_append_left _ plays.theme) rfl rfl
  | drop id =>
      rw [step?, Option.ite_none_left_eq_some] at steps
      obtain ⟨free, steps⟩ := steps
      obtain ⟨traffic, moved, rfl⟩ := Option.map_eq_some_iff.mp steps
      have apart : id ∉ scene.client.held .playground := fun held =>
        free ⟨.playground, by simp, held⟩
      rw [plays.held] at apart
      simp only [List.mem_cons, List.not_mem_nil, or_false, not_or] at apart
      obtain rfl : scene.traffic.drop id = traffic := by
        rw [Traffic.step?, Option.ite_none_right_eq_some] at moved
        exact Option.some.inj moved.2
      refine plays.with (plays.sound.drop id) rfl ?_ ?_ rfl rfl
      · exact List.mem_filter.mpr
          ⟨plays.route, decide_eq_true (Ne.symm apart.1)⟩
      · exact List.mem_filter.mpr
          ⟨plays.theme, decide_eq_true (Ne.symm apart.2)⟩
  | publish event =>
      cases event with
      | themeChange theme => cases themeless
      | routeChange state =>
          cases steps
          refine plays.with (plays.sound.publish _) rfl plays.route
            plays.theme ?_ rfl
          rw [resume, Traffic.publish, dueThemes_cons]
          split <;> rfl
  | tell =>
      obtain ⟨⟨subscription, event, traffic⟩, tells, rfl⟩ :=
        Option.map_eq_some_iff.mp steps
      exact plays.tell tells
  | finish =>
      obtain ⟨client, underWay⟩ := scene
      obtain ⟨traffic, moved, rfl⟩ := Option.map_eq_some_iff.mp steps
      have sound := plays.sound.step (Traffic.step_of_step? moved)
      cases Traffic.step_of_step? moved with
      | finish =>
          refine plays.with sound rfl plays.route plays.theme ?_ rfl
          rw [dueThemes_cons, if_neg (Publication.not_awaits_nil _ _)]
          rfl

theorem theme_changePart {change : TimedPlayground → TimedPlayground}
    (kept : ∀ timed, (change timed).playground.theme = timed.playground.theme)
    (attached : Option (Attached TimedPlayground)) :
    (Client.changePart change attached).map (·.part.playground.theme) =
      attached.map (·.part.playground.theme) := by
  cases attached with
  | none => rfl
  | some attached => exact congrArg some (kept attached.part)

/-- What happens to the playground leaves it attached, and its theme as it
is. -/
theorem Plays.changePlayground (plays : Plays number scene) (client : Client)
    {change : TimedPlayground → TimedPlayground}
    (bus : client.bus = scene.client.bus)
    (changed : client.playground =
      Client.changePart change scene.client.playground)
    (kept : ∀ timed, (change timed).playground.theme = timed.playground.theme) :
    Plays number { scene with client } ∧
      ({ scene with client } : Scene).finalTheme? number =
        scene.finalTheme? number := by
  refine plays.with ?_ ?_ (bus ▸ plays.route) (bus ▸ plays.theme) rfl ?_
  · rw [traffic, bus]
    exact plays.sound
  · rw [Client.held, Client.held, changed, Client.subscriptionsOf_changePart]
  · rw [playgroundTheme?, changed]
    exact theme_changePart kept scene.client.playground

/-- A move that publishes a theme while the playground is to be told of none
decides what theme it will have; no other move does. -/
theorem Plays.step (plays : Plays number scene) {move : Move}
    (steps : scene.step? move = some next) :
    Plays number next ∧ next.finalTheme? number =
      if scene.Waits then
        scene.finalTheme? number
      else move.theme?.or (scene.finalTheme? number) := by
  have unchanged : (if scene.Waits then scene.finalTheme? number
      else (none : Option Theme).or (scene.finalTheme? number)) =
    scene.finalTheme? number := by
    split <;> rfl
  cases move with
  | act move =>
      cases published : (Move.act move).theme? with
      | none =>
          rw [unchanged]
          exact plays.act steps published
      | some theme =>
          unfold Move.theme? at published
          split at published
          · next same => cases same
          · next same =>
              cases published
              cases same
              cases steps
              exact plays.publish theme
          · cases published
  | setTheme theme =>
      cases steps
      have changed : Plays number { scene with
          client :=
            scene.client.changeContext fun context =>
              { context with theme } } :=
        ⟨plays.sound, plays.held, plays.route, plays.theme⟩
      exact changed.publish theme
  | play event =>
      obtain ⟨other, rfl⟩ := of_step?_play steps
      have kept := fun timed : TimedPlayground =>
        timed.theme_act scene.client.now other
      rw [show (Move.play event).theme? = none from rfl, unchanged]
      exact plays.changePlayground (scene.client.use (.play event)) rfl rfl kept
  | wait moment =>
      cases steps
      rw [show (Move.wait moment).theme? = none from rfl, unchanged]
      exact plays.changePlayground (scene.client.use (.wait moment)) rfl
        rfl fun timed =>
        timed.theme_advance moment
  | rearrange other =>
      cases steps
      rw [show (Move.rearrange other).theme? = none from rfl, unchanged]
      exact plays.with plays.sound rfl plays.route plays.theme rfl rfl

/-- After a run the playground will have the theme that was published last while
it was to be told of none. -/
theorem Plays.run {moves : List Move} (plays : Plays number scene)
    {theme : Theme}
    (final : scene.finalTheme? number = some theme)
    (runs : scene.run? moves = some next) :
    Plays number next ∧
      next.finalTheme? number = some (scene.settledTheme theme moves) := by
  induction moves generalizing scene theme with
  | nil =>
      cases runs
      exact ⟨plays, final⟩
  | cons move moves induction =>
      obtain ⟨between, steps, later⟩ := Option.bind_eq_some_iff.mp runs
      obtain ⟨plays, decided⟩ := plays.step steps
      rw [final] at decided
      have settled : between.finalTheme? number =
          some (if scene.Waits then theme else move.theme?.getD theme) := by
        rw [decided]
        split
        · rfl
        · cases move.theme? <;> rfl
      have result := induction plays settled later
      rwa [settledTheme, steps]

theorem context_tell (scene : Scene) (subscription : Subscription Component)
    (event : Event) :
    (scene.tell subscription event).client.context = scene.client.context := by
  unfold tell
  split
  · exact congrArg Navigator.context
      (Client.navigator_hear _ event subscription.handler)
  · rfl

/-- Only setting the theme changes the theme of the page. -/
theorem contextTheme_step? {move : Move} (steps : scene.step? move = some next)
    (other : ∀ theme, move ≠ .setTheme theme) :
    next.client.context.theme = scene.client.context.theme := by
  cases move with
  | setTheme theme => exact absurd rfl (other theme)
  | play event =>
      obtain ⟨-, rfl⟩ := of_step?_play steps
      rfl
  | wait moment =>
      cases steps
      rfl
  | rearrange other =>
      cases steps
      rfl
  | act move =>
      cases move with
      | tell =>
          obtain ⟨⟨subscription, event, traffic⟩, -, rfl⟩ :=
            Option.map_eq_some_iff.mp steps
          exact congrArg Context.theme (context_tell _ subscription event)
      | drop id =>
          rw [step?, Option.ite_none_left_eq_some] at steps
          obtain ⟨traffic, -, rfl⟩ := Option.map_eq_some_iff.mp steps.2
          rfl
      | finish =>
          obtain ⟨traffic, -, rfl⟩ := Option.map_eq_some_iff.mp steps
          rfl
      | _ =>
          cases steps
          rfl

/-- A run in which no theme is published changes no theme of the page, and
decides nothing. -/
theorem run?_of_themeless {moves : List Move}
    (themeless : ∀ move ∈ moves, move.theme? = none)
    (theme : Theme) (runs : scene.run? moves = some next) :
    next.client.context.theme = scene.client.context.theme ∧
      scene.settledTheme theme moves = theme := by
  induction moves generalizing scene with
  | nil =>
      cases runs
      exact ⟨rfl, rfl⟩
  | cons move moves induction =>
      obtain ⟨between, steps, later⟩ := Option.bind_eq_some_iff.mp runs
      obtain ⟨first, others⟩ := List.forall_mem_cons.mp themeless
      obtain ⟨page, settled⟩ := induction others later
      refine ⟨page.trans (contextTheme_step? steps ?_), ?_⟩
      · rintro theme rfl
        cases first
      · rw [settledTheme, steps, first]
        simpa using settled

theorem settledTheme_append {first rest : List Move} (theme : Theme)
    {middle : Scene} (runs : scene.run? first = some middle) :
    scene.settledTheme theme (first ++ rest) =
      middle.settledTheme (scene.settledTheme theme first) rest := by
  induction first generalizing scene theme with
  | nil =>
      cases runs
      rfl
  | cons move first induction =>
      obtain ⟨between, steps, later⟩ := Option.bind_eq_some_iff.mp runs
      rw [List.cons_append, settledTheme, settledTheme, steps]
      exact induction _ later

/-- When the theme is set while the playground is to be told of none, and no
theme is published later, the playground will have the theme of the page. -/
theorem settledTheme_of_setTheme {first rest : List Move} {theme : Theme}
    {middle last : Scene}
    (runs : scene.run? (first ++ .setTheme theme :: rest) = some last)
    (begun : scene.run? first = some middle) (ready : ¬ middle.Waits)
    (themeless : ∀ move ∈ rest, move.theme? = none) (before : Theme) :
    scene.settledTheme before (first ++ .setTheme theme :: rest) =
      last.client.context.theme := by
  have goes : middle.run? (.setTheme theme :: rest) = some last := by
    rw [run?, List.foldlM_append] at runs
    obtain ⟨between, same, later⟩ := Option.bind_eq_some_iff.mp runs
    rw [show between = middle from Option.some.inj (same.symm.trans begun)]
      at later
    exact later
  obtain ⟨changed, steps, set⟩ : ∃ changed,
    middle.step? (.setTheme theme) = some changed ∧
      changed.client.context.theme = theme := ⟨_, rfl, rfl⟩
  rw [run?, List.foldlM_cons, steps] at goes
  obtain ⟨page, settled⟩ := run?_of_themeless themeless theme goes
  rw [settledTheme_append before begun, settledTheme, steps, page, set,
    if_neg ready]
  exact settled

theorem sound_unsubscribeAll {bus : Bus Component}
    {underWay : List (Publication Component)}
    (sound : (⟨bus, underWay⟩ : Traffic Component).Sound) (ids : List Nat) :
    (⟨ids.foldl Bus.unsubscribe bus, underWay⟩ : Traffic Component).Sound := by
  induction ids generalizing bus with
  | nil => exact sound
  | cons id ids induction => exact induction (sound.drop id)

theorem mem_unsubscribeAll {bus : Bus Component}
    {subscription : Subscription Component}
    (live : subscription ∈ bus.live) {ids : List Nat}
    (kept : subscription.id ∉ ids) :
    subscription ∈ (ids.foldl Bus.unsubscribe bus).live := by
  induction ids generalizing bus with
  | nil => exact live
  | cons id ids induction =>
      rw [List.mem_cons, not_or] at kept
      obtain ⟨different, rest⟩ := kept
      exact induction (List.mem_filter.mpr ⟨live, decide_eq_true different⟩)
        rest

/-- Nothing is due to a subscription that has not been made. -/
theorem dueThemes_of_le {traffic : Traffic Component}
    (sound : traffic.Sound) {id : Nat}
    (new : traffic.bus.nextId ≤ id) : dueThemes id traffic.underWay = [] := by
  refine List.filterMap_eq_nil_iff.mpr fun publication member => if_neg ?_
  rintro ⟨other, waits, rfl⟩
  exact Nat.lt_irrefl _
    (Nat.lt_of_lt_of_le (sound.waiting publication member other waits).1 new)

/-- A playground that is attached holds the next two subscriptions, and has the
theme of the page. -/
theorem plays_attachPlayground {client : Client}
    {underWay : List (Publication Component)}
    (sound : (⟨client.bus, underWay⟩ : Traffic Component).Sound)
    (made : ∀ id ∈ client.held .playground, id < client.bus.nextId)
    (fileName : String) (debounce : Nat)
    (code : String) (compiles : List CompileScript) (runs : List RunScript) :
    Plays client.bus.nextId
      ⟨client.attachPlayground fileName debounce code compiles runs, underWay⟩ ∧
      finalTheme? client.bus.nextId
        ⟨client.attachPlayground fileName debounce code compiles runs,
          underWay⟩ =
          some client.context.theme := by
  have older : ∀ id, client.bus.nextId ≤ id → id ∉ client.held .playground :=
    fun id new held => Nat.lt_irrefl _ (Nat.lt_of_lt_of_le (made id held) new)
  have subscribed :=
    (sound.subscribe .routeChange .playground).subscribe
      .themeChange .playground
  refine ⟨⟨sound_unsubscribeAll subscribed (client.held .playground), rfl, ?_,
    ?_⟩, ?_⟩
  · refine mem_unsubscribeAll ?_ (older _ (Nat.le_refl _))
    simp [Bus.subscribe]
  · refine mem_unsubscribeAll ?_ (older _ (Nat.le_succ _))
    simp [Bus.subscribe]
  · have nothing : dueThemes (client.bus.nextId + 1) underWay = [] :=
      dueThemes_of_le sound (Nat.le_succ _)
    rw [finalTheme?, nothing]
    rfl

theorem reaches_hear {client : Client} {subscription : Subscription Component}
    (reaches : Reaches client subscription) (event : Event) (told : Component) :
    Reaches (client.hear event told) subscription := by
  rw [Reaches, Client.held_hear]
  exact reaches

/-- Where nobody does anything, a publication tells one component after the
other. -/
theorem run?_tells {client : Client} {event : Event}
    {waiting : List (Subscription Component)}
    (present : ∀ subscription ∈ waiting, Reaches client subscription)
    (underWay : List (Publication Component)) :
    (⟨client, ⟨event, waiting⟩ :: underWay⟩ : Scene).run?
        (List.replicate waiting.length (.act .tell) ++ [.act .finish]) =
      some
        ⟨waiting.foldl
            (fun client subscription => client.hear event subscription.handler)
            client,
          underWay⟩ := by
  induction waiting generalizing client with
  | nil => rfl
  | cons subscription waiting induction =>
      obtain ⟨first, others⟩ := List.forall_mem_cons.mp present
      have told :
          (⟨client, ⟨event, subscription :: waiting⟩ :: underWay⟩ : Scene).step?
              (.act .tell) =
            some
              ⟨client.hear event subscription.handler,
                ⟨event, waiting⟩ :: underWay⟩ :=
        congrArg some (if_pos first)
      rw [List.length_cons, List.replicate_succ, List.cons_append, run?,
        List.foldlM_cons, told]
      exact induction fun other member =>
        reaches_hear (others other member) event subscription.handler

/-- To set the theme is such a run, if the components that have subscribed are
there. -/
theorem run?_setTheme {client : Client}
    (present : ∀ subscription ∈ client.bus.receivers .themeChange,
      Reaches client subscription) (theme : Theme)
    (underWay : List (Publication Component)) :
    (⟨client, underWay⟩ : Scene).run?
        (.setTheme theme ::
          (List.replicate (client.bus.count .themeChange) (.act .tell) ++
            [.act .finish])) =
      some ⟨client.setTheme theme, underWay⟩ := by
  let changed := client.changeContext fun context => { context with theme }
  have still :
      ∀ subscription ∈ changed.bus.receivers .themeChange,
        Reaches changed subscription := present
  have told :
      (⟨changed,
          ⟨.themeChange theme, changed.bus.receivers .themeChange⟩ ::
            underWay⟩ : Scene).run?
        _ = _ := run?_tells still underWay
  exact told

end Scene

/-- However handlers publish while they are told of events, a subscription that
is not dropped is told in turn; and once a playground is to be told of no theme
any more, as when the outermost setting of the theme is over, it has the theme
that was published last while it was to be told of none, since it was attached.
If the theme was last published by setting it while the playground was to be
told of none, this is the theme of the page. -/
theorem publications_heard_in_turn :
    (∀ (Handler : Type) (moves : List
        (Traffic.Move Handler)) (chronicle : Chronicle Handler)
      (before after : List
        (Note Handler)) (subscription : Subscription Handler),
      Chronicle.start.run? moves = some chronicle →
      chronicle.notes = before ++ .joins subscription :: after →
      subscription.id ∉ left after →
        (∀ publication ∈ chronicle.traffic.underWay,
          ¬ publication.Awaits subscription.id) →
          HeardInTurn subscription after) ∧
    ∀ (earlier : List
        (Traffic.Move Component)) (client : Client) (underWay : List
          (Publication Component))
      (fileName : String) (debounce : Nat) (code : String) (compiles : List
        CompileScript)
      (runs : List RunScript) (moves : List Scene.Move) (last : Scene),
      Traffic.idle.run? earlier = some ⟨client.bus, underWay⟩ →
      (∀ id ∈ client.held .playground, id < client.bus.nextId) →
      let attached : Scene :=
        ⟨client.attachPlayground fileName debounce code compiles runs, underWay⟩
      attached.run? moves = some last → ¬ last.Waits →
        last.playgroundTheme? =
          some (attached.settledTheme client.context.theme moves) ∧
        ∀ first theme rest middle, moves = first ++ .setTheme theme :: rest →
          attached.run? first = some middle → ¬ middle.Waits →
          (∀ move ∈ rest, move.theme? = none) →
            last.playgroundTheme? = some last.client.context.theme := by
  refine ⟨?_, ?_⟩
  · intro Handler moves chronicle before after subscription runs
      split stays told
    exact Chronicle.heardInTurn runs split stays told
  · intro earlier client underWay fileName debounce code compiles runs moves
      last ran made attached goes told
    have sound : (⟨client.bus, underWay⟩ : Traffic Component).Sound :=
      Traffic.sound_idle.run ran
    obtain ⟨plays, final⟩ :=
      Scene.plays_attachPlayground sound made fileName debounce code
        compiles runs
    obtain ⟨played, settled⟩ := plays.run final goes
    have nothing := not_not.mp (mt played.waits_iff.mpr told)
    rw [Scene.finalTheme?, nothing] at settled
    refine ⟨settled, ?_⟩
    rintro first theme rest middle rfl begun ready themeless
    exact settled.trans
      (congrArg some
        (Scene.settledTheme_of_setTheme goes begun ready themeless _))

def pageAtPlay : Scene :=
  ⟨(Client.start Client.smallHome).attachPlayground "main.mbt" 300 "" [] [], []⟩

/-- The theme is set, and nobody does anything when told of it. -/
def calmMoves : List Scene.Move :=
  [.setTheme .dark, .act .tell, .act .tell, .act .finish]

/-- A subscription that meddles is told in turn, and after the theme has been
set the playground has it. -/
theorem publications_heard_in_turn_pageAtPlay :
    (∃ chronicle, Chronicle.start.run? meddlingMoves = some chronicle ∧
      HeardInTurn ⟨0, .themeChange, 7⟩ (chronicle.notes.drop 1)) ∧
    ∃ last,
      pageAtPlay.run? calmMoves = some last ∧
        last.client.context.theme = .dark ∧
          last.playgroundTheme? = some last.client.context.theme := by
  refine ⟨⟨_, rfl, ?_⟩, _, rfl, rfl, ?_⟩
  · exact publications_heard_in_turn.1 Nat meddlingMoves _ [] _
      ⟨0, .themeChange, 7⟩ rfl rfl (by decide) (by decide)
  · exact (publications_heard_in_turn.2
      [.subscribe .routeChange .recorder, .subscribe .themeChange .recorder]
        (Client.start Client.smallHome) []
      "main.mbt" 300 "" [] [] calmMoves _ rfl nofun rfl (by decide)).2 [] .dark
      _ _ rfl rfl (by decide) (by decide)

/-- Two subscriptions to the theme.  When the first is told of the light theme,
it is dropped and publishes the dark one. -/
def rivalMoves : List (Traffic.Move Nat) :=
  [.subscribe .themeChange 7, .subscribe .themeChange 8,
    .publish (.themeChange .light), .tell, .drop 0,
    .publish (.themeChange .dark), .tell, .finish, .tell, .finish]

/-- The light theme is set, and what is told of it before the playground sets
the dark one. -/
def rivalThemes : List Scene.Move :=
  [.setTheme .light, .act .tell, .setTheme .dark, .act .tell, .act .tell,
    .act .finish, .act .tell, .act .finish]

/-- The second subscription, which is not dropped, is told of the light theme
last though it was published first; and when the outermost setting of the theme
is over, the playground is light and the page dark. -/
theorem not_heard_in_order_of_publication :
    (∃ chronicle,
      Chronicle.start.run? rivalMoves = some chronicle ∧
        chronicle.traffic.underWay = [] ∧
          1 ∉ left chronicle.notes ∧
          published .themeChange chronicle.notes =
            [(0, .themeChange .light), (1, .themeChange .dark)] ∧
          heard 1 chronicle.notes =
            [(1, .themeChange .dark), (0, .themeChange .light)]) ∧
    ∃ last, pageAtPlay.run? rivalThemes = some last ∧ last.underWay = [] ∧
      last.client.context.theme = .dark ∧ last.playgroundTheme? = some .light :=
  ⟨⟨_, rfl, rfl, by decide, by decide, by decide⟩, _, rfl, rfl, rfl, rfl⟩

end LessonSite
