import LessonSite.Proofs.Client.Deeds
import LessonSite.Proofs.Client.Traversal

/-!
# Clicks that overlap

A click resolves its link when it begins and adds to the history when its page
comes, so any number of clicks can be under way, and their pages come in any
order, or not at all.  An account of the clicks is kept beside the page, and the
page agrees with it at all times.
-/

namespace LessonSite

/-- The route state that an event tells of. -/
def Event.state? : Event → Option RouteState
  | .routeChange state => some state
  | .themeChange _ => none

/-- What has become of clicks: the address that links are resolved against, the
pages that have been asked for under their numbers, and the pages that have
come, in the order in which they came. -/
structure Clicks where
  next : Nat
  location : Url
  asked : List (Nat × Url)
  shown : List (Url × RouteState)

namespace Clicks

/-- No click has been made on a page yet. -/
def before (client : Client) : Clicks :=
  ⟨client.navigator.nextCall, client.context.location, [], []⟩

/-- A link to a page of the same site asks for that page. -/
def click (clicks : Clicks) (href : String) : Clicks :=
  match clicks.location.join href with
  | .error _ => clicks
  | .ok target =>
      match target.sameSite clicks.location, target.routeData with
      | true, .ok _ =>
          { clicks with
            next := clicks.next + 1,
              asked := clicks.asked ++ [(clicks.next, target)] }
      | _, _ => clicks

def drop (clicks : Clicks) (number : Nat) : Clicks :=
  { clicks with asked := clicks.asked.filter fun (other, _) => other ≠ number }

/-- The page that has been asked for is shown. -/
def arrive (clicks : Clicks) (number : Nat) (state : RouteState) : Clicks :=
  match List.lookup number clicks.asked with
  | none => clicks
  | some target =>
      { clicks.drop number with
        location := target, shown := clicks.shown ++ [(target, state)] }

/-- The account after something has been done with the page. -/
def note (clicks : Clicks) : Deed → Clicks
  | .call (.click href) => clicks.click href
  | .answer number (.ok state) => clicks.arrive number state
  | .answer number (.error _) => clicks.drop number
  | .abandon number => clicks.drop number
  | _ => clicks

end Clicks

/-- Only clicks are made, and neither the address nor what is told of pages is
changed from outside. -/
def Deed.OnlyClicks : Deed → Prop
  | .call (.click _) => True
  | .call .clickElsewhere => True
  | .call _ => False
  | .moveTo _ => False
  | .publish _ => False
  | _ => True

namespace History

variable {history : History}

/-- Adds pages one after the other. -/
def pushAll (history : History) (pages : List (Url × RouteState)) : History :=
  pages.foldl (fun history (url, state) => history.push url state) history

theorem position_pushAll (pages : List (Url × RouteState)) :
    (history.pushAll pages).position = history.position + pages.length := by
  induction pages generalizing history with
  | nil => rfl
  | cons page pages induction =>
      rw [pushAll, List.foldl_cons, ← pushAll, induction, List.length_cons]
      simp only [push]
      omega

theorem Settled.size_push (settled : history.Settled) (url : Url)
    (state : RouteState) :
    (history.push url state).entries.length =
      (history.push url state).position + 1 := by
  have bound := settled.position_le
  simp [History.push, entries, bound]

/-- What comes after the current entry is given up for the first page, and
nothing for the others. -/
theorem Settled.entries_pushAll (settled : history.Settled)
    {pages : List (Url × RouteState)} (any : pages ≠ []) :
    (history.pushAll pages).entries =
      history.entries.take (history.position + 1) ++
        pages.map fun (url, state) => ⟨url, some state⟩ := by
  induction pages generalizing history with
  | nil => exact absurd rfl any
  | cons page pages induction =>
      have first :
          history.pushAll (page :: pages) =
            (history.push page.1 page.2).pushAll pages := rfl
      rw [first, List.map_cons]
      by_cases others : pages = []
      · subst others
        exact entries_push page.1 page.2
      · rw [induction (settled.push page.1 page.2) others, ← settled.size_push,
          List.take_length, entries_push, List.append_assoc,
          List.singleton_append]

theorem Settled.pushAll (settled : history.Settled)
    (pages : List (Url × RouteState)) :
    (history.pushAll pages).Settled := by
  induction pages generalizing history with
  | nil => exact settled
  | cons page pages induction => exact induction (settled.push page.1 page.2)

theorem Settled.current_pushAll (settled : history.Settled)
    {pages : List (Url × RouteState)}
    {page : Url × RouteState} (last : pages.getLast? = some page) :
    (history.pushAll pages).current = ⟨page.1, some page.2⟩ := by
  obtain ⟨earlier, rfl⟩ := List.getLast?_eq_some_iff.mp last
  have pushed :
      history.pushAll (earlier ++ [page]) =
        (history.pushAll earlier).push page.1 page.2 :=
    List.foldl_append
  rw [pushed]
  exact (settled.pushAll earlier).current_push page.1 page.2

end History

namespace Client

variable {before client : Client} {clicks : Clicks}

/-- The route states that have been told of. -/
def toldStates (client : Client) : List RouteState :=
  client.heard.filterMap Event.state?

/-- A page is as the account of the clicks on it says. -/
structure Keeps (client before : Client) (clicks : Clicks) : Prop where
  next : client.navigator.nextCall = clicks.next
  location : client.context.location = clicks.location
  last :
    clicks.location =
      (clicks.shown.getLast?.map Prod.fst).getD before.context.location
  waiting : client.navigator.waiting =
    clicks.asked.map fun (number, target) => (number, .following target)
  history :
    client.navigator.history = before.navigator.history.pushAll clicks.shown
  told : client.toldStates = before.toldStates ++ clicks.shown.map Prod.snd

theorem keeps_before (atRest : client.navigator.waiting = []) :
    client.Keeps client (.before client) where
  next := rfl
  location := rfl
  last := rfl
  waiting := atRest
  history := rfl
  told := (List.append_nil _).symm

/-- Only the calls, the address, the history and what has been told are
accounted for. -/
theorem Keeps.with (keeps : client.Keeps before clicks) {next : Client}
    (nextCall : next.navigator.nextCall = client.navigator.nextCall)
    (location : next.context.location = client.context.location)
    (waiting : next.navigator.waiting = client.navigator.waiting)
    (history : next.navigator.history = client.navigator.history)
    (told : next.toldStates = client.toldStates) :
    next.Keeps before clicks where
  next := nextCall.trans keeps.next
  location := location.trans keeps.location
  last := keeps.last
  waiting := waiting.trans keeps.waiting
  history := history.trans keeps.history
  told := told.trans keeps.told

theorem Keeps.lookup (keeps : client.Keeps before clicks) (number : Nat) :
    List.lookup number client.navigator.waiting =
      (List.lookup number clicks.asked).map Pending.following := by
  rw [keeps.waiting]
  induction clicks.asked with
  | nil => rfl
  | cons asked others induction =>
      rw [List.map_cons, List.lookup_cons, List.lookup_cons, induction]
      split <;> rfl

/-- The numbers of calls that wait are those of pages that have been asked
for. -/
theorem Keeps.land (keeps : client.Keeps before clicks) (number : Nat) :
    (client.navigator.land number).waiting =
      (clicks.drop number).asked.map fun (number, target) =>
        (number, .following target) := by
  unfold Navigator.land Clicks.drop
  simp only [keeps.waiting, List.filter_map]
  rfl

theorem toldStates_themeChange (notes : client.Notes) (theme : Theme) :
    (client.publish (.themeChange theme)).toldStates = client.toldStates := by
  rw [toldStates, notes.heard_publish, List.filterMap_append]
  exact List.append_nil _

theorem toldStates_routeChange (notes : client.Notes) (state : RouteState) :
    (client.publish (.routeChange state)).toldStates =
      client.toldStates ++ [state] := by
  rw [toldStates, notes.heard_publish, List.filterMap_append]
  rfl

private theorem Keeps.ends (keeps : client.Keeps before clicks) {call : Call}
    {outcome : Outcome}
    (ends : client.navigator.begin call =
      (client.navigator, .ends outcome none)) :
    (client.use (.call call)).Keeps before clicks := by
  have same : client.use (.call call) = client := by
    rw [use, Client.begin, ends]
    rfl
  rwa [same]

theorem Keeps.click (keeps : client.Keeps before clicks) (href : String) :
    (client.use (.call (.click href))).Keeps before (clicks.click href) := by
  have begun :
      client.navigator.begin (.click href) = client.navigator.follow href := rfl
  have location : client.navigator.context.location = clicks.location :=
    keeps.location
  unfold Navigator.follow at begun
  rw [location] at begun
  unfold Clicks.click
  cases joined : clicks.location.join href with
  | error fault =>
      rw [joined] at begun
      exact keeps.ends begun
  | ok target =>
      simp only [joined] at begun ⊢
      cases same : target.sameSite clicks.location with
      | false =>
          rw [same] at begun
          exact keeps.ends begun
      | true =>
          rw [same, if_pos rfl] at begun
          cases asked : target.routeData with
          | error error =>
              have pending :
                  (Pending.following target).target.routeData = .error error :=
                asked
              unfold Navigator.load at begun
              rw [pending] at begun
              exact keeps.ends begun
          | ok request =>
              rw [Navigator.load_following asked] at begun
              have used : client.use (.call (.click href)) =
                  { client with
                    navigator := client.navigator.following target } := by
                simp only [use, Client.begin, begun, settle]
              rw [used]
              exact {
                next := congrArg (· + 1) keeps.next
                location := keeps.location
                last := keeps.last
                waiting := by
                  simp [Navigator.following, keeps.waiting, keeps.next]
                history := keeps.history
                told := keeps.told }

/-- A click that is over without a page is not accounted for any more. -/
theorem Keeps.drop (keeps : client.Keeps before clicks) {number : Nat}
    {next : Client}
    (nextCall : next.navigator.nextCall = client.navigator.nextCall)
    (location : next.context.location = client.context.location)
    (waiting : next.navigator.waiting = (client.navigator.land number).waiting)
    (history : next.navigator.history = client.navigator.history)
    (told : next.toldStates = client.toldStates) :
    next.Keeps before (clicks.drop number) where
  next := nextCall.trans keeps.next
  location := location.trans keeps.location
  last := keeps.last
  waiting := waiting.trans (keeps.land number)
  history := history.trans keeps.history
  told := told.trans keeps.told

theorem Clicks.drop_eq_self {clicks : Clicks} {number : Nat}
    (absent : List.lookup number clicks.asked = none) :
    clicks.drop number = clicks := by
  have others :
      clicks.asked.filter (fun (other, _) => other ≠ number) =
        clicks.asked := by
    refine List.filter_eq_self.mpr fun asked member => decide_eq_true ?_
    have different := List.lookup_eq_none_iff.mp absent asked member
    exact Ne.symm (by simpa using different)
  rw [Clicks.drop, others]

theorem Keeps.answer_of_absent (keeps : client.Keeps before clicks)
    {number : Nat}
    (absent : List.lookup number clicks.asked = none)
    (answer : Except NavigationError RouteState) :
    (client.use (.answer number answer)).Keeps before clicks := by
  have nobody : List.lookup number client.navigator.waiting = none := by
    rw [keeps.lookup, absent]
    rfl
  have same : client.use (.answer number answer) = client := by
    simp only [use, Client.answer, Navigator.step, nobody]
  rwa [same]

theorem Keeps.arrive (keeps : client.Keeps before clicks) (notes : client.Notes)
    (number : Nat) (state : RouteState) :
    (client.use (.answer number (.ok state))).Keeps before
      (clicks.arrive number state) := by
  cases asked : List.lookup number clicks.asked with
  | none =>
      rw [Clicks.arrive, asked]
      exact keeps.answer_of_absent asked (.ok state)
  | some target =>
      have waits :
          List.lookup number client.navigator.waiting =
            some (.following target) := by
        rw [keeps.lookup, asked]
        rfl
      let moved : Navigator :=
        ({ client.navigator.land number with
          phase := .idle,
            history := client.navigator.history.push target state } :
            Navigator).display
          target state
      have used : client.use (.answer number (.ok state)) =
          ({ client with navigator := moved } : Client).publish
            (.routeChange state) := by
        simp only [use, Client.answer, Navigator.step, waits]
        rfl
      have noted : ({ client with navigator := moved } : Client).Notes :=
        notes.with rfl notes.held
      have navigator :
          (client.use (.answer number (.ok state))).navigator = moved := by
        rw [used, navigator_publish]
      rw [Clicks.arrive, asked]
      exact {
        next := by rw [navigator]; exact keeps.next
        location := by rw [context, navigator]; rfl
        last := by simp
        waiting := by rw [navigator]; exact keeps.land number
        history := by
          rw [navigator, History.pushAll, List.foldl_append]
          exact congrArg (·.push target state) keeps.history
        told := by
          rw [used, toldStates_routeChange noted, List.map_append,
            ← List.append_assoc]
          exact congrArg (· ++ [state]) keeps.told }

theorem Keeps.fail (keeps : client.Keeps before clicks) (number : Nat)
    (error : NavigationError) :
    (client.use (.answer number (.error error))).Keeps before
      (clicks.drop number) := by
  cases asked : List.lookup number clicks.asked with
  | none =>
      rw [Clicks.drop_eq_self asked]
      exact keeps.answer_of_absent asked (.error error)
  | some target =>
      have waits :
          List.lookup number client.navigator.waiting =
            some (.following target) := by
        rw [keeps.lookup, asked]
        rfl
      have used : client.use (.answer number (.error error)) =
          { client with
            navigator := { client.navigator.land number with
              phase := .failed target error.message } } := by
        simp only [use, Client.answer, Navigator.step, waits]
        rfl
      rw [used]
      exact keeps.drop rfl (client.navigator.location_land number) rfl rfl rfl

theorem Keeps.abandon (keeps : client.Keeps before clicks) (number : Nat) :
    (client.use (.abandon number)).Keeps before (clicks.drop number) := by
  cases waits : List.lookup number client.navigator.waiting with
  | none =>
      have asked : List.lookup number clicks.asked = none := by
        rw [keeps.lookup] at waits
        exact Option.map_eq_none_iff.mp waits
      have same : client.use (.abandon number) = client := by
        simp only [use, Client.abandon, Navigator.step, waits]
      rw [Clicks.drop_eq_self asked, same]
      exact keeps
  | some pending =>
      have used : client.use (.abandon number) =
          { client with navigator := client.navigator.land number } := by
        simp only [use, Client.abandon, Navigator.step, waits]
      rw [used]
      exact keeps.drop rfl (client.navigator.location_land number) rfl rfl rfl

theorem toldStates_attach (state : RouteState) (attachment : Attachment) :
    (client.attach state attachment).toldStates = client.toldStates := by
  cases attachment <;> rfl

theorem toldStates_detach (component : Component) :
    (client.detach component).toldStates = client.toldStates := by
  cases component <;> rfl

/-- Whatever is done, the page is as the account says. -/
theorem Keeps.use (keeps : client.Keeps before clicks) (notes : client.Notes)
    {deed : Deed}
    (only : deed.OnlyClicks) :
    (client.use deed).Keeps before (clicks.note deed) := by
  cases deed with
  | call call =>
      cases call with
      | click href => exact keeps.click href
      | clickElsewhere => exact keeps.ends rfl
      | _ => exact absurd only id
  | answer number answer =>
      cases answer with
      | ok state => exact keeps.arrive notes number state
      | error error => exact keeps.fail number error
  | abandon number => exact keeps.abandon number
  | attach state attachment =>
      have navigator :
          (client.attach state attachment).navigator = client.navigator :=
        navigator_attach attachment
      refine keeps.with ?_ ?_ ?_ ?_ (toldStates_attach state attachment) <;>
        simp only [Client.use, Client.context, navigator]
  | detach component =>
      have navigator : (client.detach component).navigator = client.navigator :=
        navigator_detach component
      refine keeps.with ?_ ?_ ?_ ?_ (toldStates_detach component) <;>
        simp only [Client.use, Client.context, navigator]
  | setTheme theme =>
      have changed :
          (client.changeContext fun context => { context with theme }).Notes :=
        notes.with rfl notes.held
      have navigator : (client.use (.setTheme theme)).navigator =
          { client.navigator with context := { client.context with theme } } :=
        navigator_publish _ _
      refine keeps.with ?_ ?_ ?_ ?_ (toldStates_themeChange changed theme) <;>
        simp only [Client.context, navigator]
  | moveTo location => exact absurd only id
  | publish event => exact absurd only id
  | _ => exact keeps.with rfl rfl rfl rfl rfl

theorem Keeps.useAll (keeps : client.Keeps before clicks)
    (inOrder : client.InOrder) {deeds : List Deed}
    (only : ∀ deed ∈ deeds, deed.OnlyClicks) :
    (client.useAll deeds).Keeps before (deeds.foldl Clicks.note clicks) := by
  induction deeds generalizing client clicks with
  | nil => exact keeps
  | cons deed deeds induction =>
      obtain ⟨first, later⟩ := List.forall_mem_cons.mp only
      exact induction (keeps.use inOrder.notes first) (inOrder.use deed) later

/-- The account of the clicks on a page. -/
def clicksOf (client : Client) (deeds : List Deed) : Clicks :=
  deeds.foldl Clicks.note (.before client)

/-- What clicks have made of a page. -/
structure ShowsClicks (after before : Client) (clicks : Clicks) : Prop where
  /-- Links are resolved against the address of the page. -/
  resolves : clicks.location = after.context.location
  waiting : after.navigator.waiting =
    clicks.asked.map fun (number, target) => (number, .following target)
  succeeds :
    ∀ number target state, List.lookup number clicks.asked = some target →
      (after.answer number (.ok state)).2 =
        some (.ends (.navigated target) (some state))
  unmoved :
    clicks.shown = [] → after.navigator.history = before.navigator.history
  entries : clicks.shown ≠ [] → after.navigator.history.entries =
    before.navigator.history.entries.take
        (before.navigator.history.position + 1) ++
      clicks.shown.map fun (url, state) => ⟨url, some state⟩
  position : after.navigator.history.position =
    before.navigator.history.position + clicks.shown.length
  current : ∀ page, clicks.shown.getLast? = some page →
    after.navigator.history.current = ⟨page.1, some page.2⟩
  told : after.toldStates = before.toldStates ++ clicks.shown.map Prod.snd
  location : after.context.location =
    (clicks.shown.getLast?.map Prod.fst).getD before.context.location

theorem Keeps.succeeds (keeps : client.Keeps before clicks) {number : Nat}
    {target : Url}
    (asked : List.lookup number clicks.asked = some target)
    (state : RouteState) :
    (client.answer number (.ok state)).2 =
      some (.ends (.navigated target) (some state)) := by
  have waits :
      List.lookup number client.navigator.waiting =
        some (.following target) := by
    rw [keeps.lookup, asked]
    rfl
  simp only [Client.answer, Navigator.step, waits]
  rfl

/-- Any number of clicks may overlap, and their pages come in any order, fail to
come or are given up.  The history goes on from where it was with the pages that
have come, in the order in which they came, each under the address that its link
was resolved to when the click was made; all components have been told of just
these, and the page is that of the last one. -/
theorem useAll_showsClicks (reachable : client.Reachable)
    (atRest : client.navigator.waiting = [])
    {deeds : List Deed} (only : ∀ deed ∈ deeds, deed.OnlyClicks) :
    (client.useAll deeds).ShowsClicks client (client.clicksOf deeds) := by
  have settled := reachable.inOrder.tallied.settled
  have keeps : (client.useAll deeds).Keeps client (client.clicksOf deeds) :=
    (keeps_before atRest).useAll reachable.inOrder only
  refine ⟨keeps.location.symm, keeps.waiting, fun number target state asked =>
      keeps.succeeds asked state,
    ?_, ?_, ?_, ?_, keeps.told, keeps.location.trans keeps.last⟩
  · intro none
    rw [keeps.history, none]
    rfl
  · intro any
    rw [keeps.history]
    exact settled.entries_pushAll any
  · rw [keeps.history]
    exact History.position_pushAll _
  · intro page last
    rw [keeps.history]
    exact settled.current_pushAll last

/-- Four clicks overlap; the second is the first to get its page, and the fourth
is made on that page.  One is given up and one fails. -/
def fourClicks : List Deed :=
  [.call (.click "a/"), .call (.click "b/"), .call (.click "c/"),
    .answer 1 (.ok (smallState "B")), .call (.click "d/"), .abandon 2,
    .answer 0 (.ok (smallState "A")),
    .answer 3 (.error (.refused smallHome 404))]

theorem useAll_showsClicks_four :
    ((start smallHome).useAll fourClicks).navigator.history.entries =
      [⟨smallHome, none⟩,
        ⟨{ smallHome with path := .rooted ["b", ""] }, some (smallState "B")⟩,
        ⟨{ smallHome with path := .rooted ["a", ""] },
          some (smallState "A")⟩] := by
  have reachable : (start smallHome).Reachable := ⟨smallHome, [], rfl⟩
  have only : ∀ deed ∈ fourClicks, deed.OnlyClicks := by
    simp [fourClicks, Deed.OnlyClicks]
  have shows := useAll_showsClicks reachable rfl only
  have shown : ((start smallHome).clicksOf fourClicks).shown =
      [({ smallHome with path := .rooted ["b", ""] }, smallState "B"),
        ({ smallHome with path := .rooted ["a", ""] }, smallState "A")] := by
    decide +kernel
  rw [shows.entries (by rw [shown]; exact List.cons_ne_nil _ _), shown]
  rfl

end Client

end LessonSite
