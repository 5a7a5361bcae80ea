import LessonSite.Proofs.Client.Deeds

/-!
# Calls that fail

A step through the history is made before its page is there.  When the page does
not come the step is taken back, and as for every other call nothing is left but
the phase, which tells what was asked for and why it did not come.  A call that
leads nowhere does not even change the phase.
-/

namespace LessonSite

namespace TimedPlayground

variable {timed : TimedPlayground}

theorem buffer_apply {event : PlaygroundEvent}
    (stays : event.dispossesses = false) :
    (timed.apply event).1.playground.buffer = timed.playground.buffer :=
  ((Playground.move_step timed.playground event).stays stays).buffer

theorem buffer_ring (now ticket : Nat) (due : Due) :
    (timed.ring now ticket due).playground.buffer =
      timed.playground.buffer := by
  cases due with
  | wake =>
      have woken :
          (timed.apply (.wake ticket)).1.playground.buffer =
            timed.playground.buffer :=
        buffer_apply rfl
      unfold ring
      dsimp only
      split
      · next compiles => rwa [compiles] at woken
      · next idles => rwa [idles] at woken
  | reply reply =>
      have compiled :
          (timed.apply (.compiled ticket reply)).1.playground.buffer =
            timed.playground.buffer := buffer_apply rfl
      unfold ring
      dsimp only
      split
      · next executes =>
          rw [executes] at compiled
          unfold execute
          dsimp only
          split <;> exact (buffer_apply rfl).trans compiled
      · next idles => rwa [idles] at compiled
  | output delay lines =>
      cases lines with
      | nil => exact buffer_apply rfl
      | cons line lines => exact buffer_apply rfl

theorem buffer_advance (moment : Nat) :
    (timed.advance moment).playground.buffer = timed.playground.buffer := by
  induction timed using advance.induct moment with
  | case1 timed none =>
      rw [advance]
      split
      · rfl
      · next some => rw [none] at some; cases some
  | case2 timed alarm alarms here due induction =>
      rw [advance]
      split
      · rfl
      · next here' =>
          rw [here] at here'
          obtain ⟨rfl, rfl⟩ := List.cons.inj here'
          rw [if_pos due]
          exact induction.trans (buffer_ring _ _ _)
  | case3 timed alarm alarms here later =>
      rw [advance]
      split
      · rfl
      · next here' =>
          rw [here] at here'
          obtain ⟨rfl, rfl⟩ := List.cons.inj here'
          rw [if_neg later]

end TimedPlayground

namespace Navigator

variable {navigator : Navigator}

/-- The address of the page that a call is to show. -/
def goal? (navigator : Navigator) : Call → Option Url
  | .open => some navigator.context.location
  | .click href => (navigator.context.location.join href).toOption
  | .clickElsewhere => none
  | .back =>
      match navigator.history.position with
      | 0 => none
      | position + 1 => navigator.history.entries[position]?.map (·.url)
  | .forward =>
      navigator.history.entries[navigator.history.position + 1]?.map (·.url)

/-- A call that has to wait asks for the route state of its page.  It may have
stepped through the history, and can take the step back. -/
structure HasAsked (navigator : Navigator) (call : Call) (request : Url)
    (history : History) (pending : Pending) : Prop where
  begun : navigator.begin call =
    (asking { navigator with history } pending,
      .waits navigator.nextCall request)
  goal : navigator.goal? call = some pending.target
  request_eq : pending.target.routeData = .ok request
  undo :
    ∀ phase nextCall,
      ({ navigator with history, phase, nextCall } : Navigator).undo pending =
        { navigator with phase, nextCall }

theorem load_eq_waits {pending : Pending} {begun : Navigator} {number : Nat}
    {request : Url}
    (waits : navigator.load pending = (begun, .waits number request)) :
    begun = navigator.asking pending ∧ number = navigator.nextCall ∧
      pending.target.routeData = .ok request := by
  unfold load at waits
  split at waits
  · cases waits
  · next asked =>
      cases waits
      exact ⟨rfl, rfl, asked⟩

private theorem hasAsked_load {call : Call} (pending : Pending)
    {begun : Navigator} {number : Nat}
    {request : Url} (step : navigator.begin call = navigator.load pending)
    (goal : navigator.goal? call = some pending.target)
    (unmoved : ∀ navigator : Navigator, navigator.undo pending = navigator)
    (waits : navigator.begin call = (begun, .waits number request)) :
    ∃ history pending, navigator.HasAsked call request history pending := by
  rw [step] at waits
  obtain ⟨rfl, rfl, asked⟩ := load_eq_waits waits
  exact ⟨navigator.history, pending, step.trans waits, goal, asked,
    fun _ _ => unmoved _⟩

theorem goal?_traverse (settled : navigator.history.Settled) {call : Call}
    {backwards : Bool}
    {history : History} (step : call = if backwards then .back else .forward)
    (moved : (if backwards then
        navigator.history.back?
      else navigator.history.forward?) = some history) :
    navigator.goal? call = some history.current.url := by
  subst step
  cases backwards with
  | true =>
      obtain ⟨position, here, rfl⟩ := History.back?_eq_some moved
      have found := (settled.back moved).current_eq
      simp only [goal?, if_true, here]
      exact congrArg (Option.map (·.url)) found
  | false =>
      have found := (settled.forward moved).current_eq
      obtain ⟨-, rfl⟩ := History.forward?_eq_some moved
      exact congrArg (Option.map (·.url)) found

private theorem hasAsked_traverse (settled : navigator.history.Settled)
    {call : Call}
    (backwards : Bool) {begun : Navigator} {number : Nat} {request : Url}
    (step : call = if backwards then .back else .forward)
    (waits : navigator.begin call = (begun, .waits number request)) :
    ∃ history pending, navigator.HasAsked call request history pending := by
  have same : navigator.begin call = navigator.traverse backwards := by
    cases backwards <;> subst step <;> rfl
  have waited := waits
  rw [same, traverse] at waited
  cases moved : (if backwards then
      navigator.history.back?
    else navigator.history.forward?) with
  | none => simp [moved] at waited
  | some history =>
      simp only [moved] at waited
      cases known : history.current.state with
      | some state => simp [known] at waited
      | none =>
          simp only [known] at waited
          obtain ⟨rfl, rfl, asked⟩ := load_eq_waits waited
          refine ⟨history, .returning history.current.url backwards, waits,
            goal?_traverse settled step moved, asked, fun phase nextCall => ?_⟩
          have same :
              ({ navigator with
                phase, nextCall } : Navigator).history.Settled := settled
          exact undo_traverse same moved _

theorem exists_hasAsked (settled : navigator.history.Settled) {call : Call}
    {begun : Navigator}
    {number : Nat} {request : Url}
    (waits : navigator.begin call = (begun, .waits number request)) :
    ∃ history pending, navigator.HasAsked call request history pending := by
  cases call with
  | «open» =>
      exact hasAsked_load (.opening navigator.context.location) rfl rfl
        (fun _ => rfl) waits
  | clickElsewhere => cases waits
  | back => exact hasAsked_traverse settled true rfl waits
  | forward => exact hasAsked_traverse settled false rfl waits
  | click href =>
      have step : navigator.begin (.click href) = navigator.follow href := rfl
      unfold follow at step
      split at step
      · cases step.symm.trans waits
      · next target joined =>
          split at step
          · refine hasAsked_load (.following target) step ?_
              (fun _ => rfl) waits
            rw [goal?, joined]
            rfl
          · cases step.symm.trans waits

/-- Nothing but the number of the next call tells that there has been a request,
even when others wait. -/
theorem land_asking (tallied : navigator.Tallied) (history : History)
    (pending : Pending) :
    (asking { navigator with history } pending).land navigator.nextCall =
      { navigator with
        history, phase := .loading pending.target,
          nextCall := navigator.nextCall + 1 } := by
  have others :
      navigator.waiting.filter (fun waiter => waiter.1 ≠ navigator.nextCall) =
        navigator.waiting := by
    refine List.filter_eq_self.mpr fun waiter member => decide_eq_true ?_
    exact Nat.ne_of_lt (tallied.fresh _ (List.mem_map_of_mem member))
  obtain ⟨⟨theme, tocVisible, locale, location, busy⟩, phase, _, inFlight,
    nextCall, waiting⟩ := navigator
  have counted : inFlight = waiting.length := tallied.inFlight
  have shown : busy = !waiting.isEmpty := tallied.busy
  subst counted shown
  simp only at others
  simp only [asking, land, List.filter_append, others]
  cases waiting <;> simp

/-- A request that fails leaves behind what was asked for and why it did not
come. -/
theorem HasAsked.fails (tallied : navigator.Tallied) {call : Call}
    {request : Url} {history : History}
    {pending : Pending}
    (asked : navigator.HasAsked call request history pending)
    (error : NavigationError) :
    List.lookup navigator.nextCall
        (asking { navigator with history } pending).waiting = some pending ∧
      (asking { navigator with history } pending).answer navigator.nextCall
          pending (.error error) =
        ({ navigator with
            phase := .failed pending.target error.message,
              nextCall := navigator.nextCall + 1 },
          .ends (.failed error) none) := by
  constructor
  · have fresh : List.lookup navigator.nextCall navigator.waiting = none := by
      refine List.lookup_eq_none_iff.mpr fun waiter member => ?_
      have older := tallied.fresh _ (List.mem_map_of_mem member)
      simpa using Nat.ne_of_gt older
    simp [asking, List.lookup_append, fresh]
  · rw [answer, land_asking tallied]
    exact congrArg (·, Progress.ends (.failed error) none) (asked.undo _ _)

/-- A call that leads nowhere, with what comes of it. -/
inductive LeadsNowhere (navigator : Navigator) : Call → Outcome → Prop where
  | elsewhere : LeadsNowhere navigator .clickElsewhere .ignored
  | otherSite {href : String} {target : Url}
      (joined : navigator.context.location.join href = .ok target)
      (other : target.sameSite navigator.context.location = false) :
      LeadsNowhere navigator (.click href) .ignored
  | unreadable {href : String} {fault : Url.Fault}
      (unjoined : navigator.context.location.join href = .error fault) :
      LeadsNowhere navigator (.click href)
        (.failed (.invalidHref ⟨href, fault⟩))
  | oldest (first : navigator.history.position = 0) :
      LeadsNowhere navigator .back .atEnd
  | newest (last : navigator.history.position + 1 = navigator.history.size) :
      LeadsNowhere navigator .forward .atEnd

theorem LeadsNowhere.begin_eq {call : Call} {outcome : Outcome}
    (nowhere : navigator.LeadsNowhere call outcome) :
    navigator.begin call = (navigator, .ends outcome none) := by
  cases nowhere with
  | elsewhere => rfl
  | otherSite joined other => simp [begin, follow, joined, other]
  | unreadable unjoined => simp [begin, follow, unjoined]
  | oldest first => simp [begin, traverse, History.back?, first]
  | newest last => simp [begin, traverse, History.forward?, last]

end Navigator

namespace Client

variable {client : Client} {visit : Visit}

/-- What a page shows and shares, where it has been and what has been heard are
as before, and so is the program in the playground. -/
structure Unmoved (before after : Client) : Prop where
  history : after.navigator.history = before.navigator.history
  context : after.context = before.context
  body : after.body = before.body
  contents : after.contents = before.contents
  program : after.playground.map (·.part.playground.buffer) =
    before.playground.map (·.part.playground.buffer)
  heard : after.heard = before.heard

theorem unmoved_await (client : Client) (moment : Option Nat) :
    client.Unmoved (client.await moment) := by
  cases moment with
  | none => exact ⟨rfl, rfl, rfl, rfl, rfl, rfl⟩
  | some moment =>
      refine ⟨rfl, rfl, rfl, rfl, ?_, rfl⟩
      cases here : client.playground with
      | none => simp [await, advance, changePart, here]
      | some playground =>
          simp [await, advance, changePart, here,
            TimedPlayground.buffer_advance]

/-- A request that is made and fails is the end of the call. -/
theorem InOrder.visit_fails (inOrder : client.InOrder) {request : Url}
    {error : NavigationError}
    (asked : (client.visit visit).2.2 = some request)
    (failed : visit.answer = .error error) :
    ∃ target,
      client.navigator.goal? visit.call = some target ∧
        target.routeData = .ok request ∧
          client.visit visit =
            ({ client.await visit.moment with
                navigator := { client.navigator with
                  phase := .failed target error.message,
                    nextCall := client.navigator.nextCall + 1 } },
              some (.failed error), some request) := by
  rcases begun_eq : client.navigator.begin visit.call with ⟨begun, progress⟩
  cases progress with
  | ends outcome told =>
      rw [visit_of_ends begun_eq] at asked
      cases asked
  | waits number requested =>
      obtain ⟨history, pending, has⟩ :=
        Navigator.exists_hasAsked inOrder.tallied.settled begun_eq
      obtain ⟨found, ends⟩ := has.fails inOrder.tallied error
      rw [← failed] at ends
      have seen := visit_of_waits has.begun found ends
      rw [seen] at asked
      cases asked
      exact ⟨pending.target, has.goal, has.request_eq, seen⟩

theorem request_of_waits {begun : Navigator} {number : Nat} {request : Url}
    (waits : client.navigator.begin visit.call =
      (begun, .waits number request)) :
    (client.visit visit).2.2 = some request := by
  simp only [Client.visit, begin, waits]

/-- A call that fails without having asked changes nothing at all. -/
theorem InOrder.visit_eq_self (inOrder : client.InOrder)
    {error : NavigationError}
    (failed : (client.visit visit).2 = (some (.failed error), none)) :
    (client.visit visit).1 = client := by
  have move := Navigator.move_step inOrder.tallied.settled (.call visit.call)
  simp only [Navigator.step] at move
  rcases begun_eq : client.navigator.begin visit.call with ⟨begun, progress⟩
  rw [begun_eq] at move
  cases move with
  | ends => rw [visit_of_ends begun_eq]; rfl
  | returns settled =>
      rw [visit_of_ends begun_eq] at failed
      cases failed
  | asks settled =>
      have asked := congrArg Prod.snd failed
      rw [request_of_waits begun_eq] at asked
      cases asked

/-- Whatever has been done with a page on which no call waits, a call whose
request fails ends with the error and leaves the page as it was; only the phase
tells what was asked for and why it did not come.  A call that leads nowhere
asks for nothing and leaves everything as it was, and so does each other call
that fails without a request. -/
theorem visit_unmoved (reachable : client.Reachable)
    (atRest : client.navigator.waiting = []) (visit : Visit) :
    (∀ request error,
      (client.visit visit).2.2 = some request → visit.answer = .error error →
        (client.visit visit).2.1 = some (.failed error) ∧
        client.Unmoved (client.visit visit).1 ∧
        (client.visit visit).1.context.busy = false ∧
        ∃ target,
          client.navigator.goal? visit.call = some target ∧
            target.routeData = .ok request ∧
              (client.visit visit).1.navigator.phase =
                .failed target error.message) ∧
    (∀ outcome, client.navigator.LeadsNowhere visit.call outcome →
      client.visit visit = (client, some outcome, none)) ∧
    ∀ error, (client.visit visit).2 = (some (.failed error), none) →
      (client.visit visit).1 = client := by
  have inOrder := reachable.inOrder
  refine ⟨?_, ?_, fun error failed => inOrder.visit_eq_self failed⟩
  · intro request error asked failed
    obtain ⟨target, goal, request_eq, seen⟩ := inOrder.visit_fails asked failed
    have idle : client.context.busy = false := by
      have busy := inOrder.tallied.busy
      rwa [atRest] at busy
    have waited := client.unmoved_await visit.moment
    rw [seen]
    refine ⟨rfl, ?_, idle, target, goal, request_eq, rfl⟩
    exact ⟨rfl, rfl, waited.body, waited.contents, waited.program, waited.heard⟩
  · intro outcome nowhere
    rw [visit_of_ends nowhere.begin_eq]
    rfl

/-- The route state of the page that was loaded does not come, and a link is
followed. -/
def lostHome : Client :=
  (start smallHome).useAll
    [.call .open, .answer 0 (.error (.refused smallHome 503)),
      .attach (smallState "Home") .body, .call (.click "a/"), .wait 5,
      .answer 1 (.ok (smallState "A"))]

/-- The way back to it asks once more, and in vain. -/
theorem visit_unmoved_lostHome :
    lostHome.Unmoved
        (lostHome.visit ⟨.back, some 9, .error (.refused smallHome 404)⟩).1 ∧
      (lostHome.visit
        ⟨.back, some 9,
          .error (.refused smallHome 404)⟩).1.navigator.history.position = 1 ∧
      (lostHome.visit
        ⟨.clickElsewhere, none, .error (.malformed smallHome)⟩).1 =
        lostHome := by
  have reachable : lostHome.Reachable := ⟨_, _, rfl⟩
  have atRest : lostHome.navigator.waiting = [] := by decide +kernel
  have asked :
      (lostHome.visit ⟨.back, some 9, .error (.refused smallHome 404)⟩).2.2 =
        some { smallHome with path := .rooted ["index.json"] } := by
    decide +kernel
  obtain ⟨fails, -⟩ :=
    visit_unmoved reachable atRest
      ⟨.back, some 9, .error (.refused smallHome 404)⟩
  obtain ⟨-, nowhere, -⟩ :=
    visit_unmoved reachable atRest
      ⟨.clickElsewhere, none, .error (.malformed smallHome)⟩
  obtain ⟨-, unmoved, -⟩ := fails _ _ asked rfl
  refine ⟨unmoved, ?_, congrArg Prod.fst (nowhere .ignored .elsewhere)⟩
  rw [unmoved.history]
  decide +kernel

end Client

end LessonSite
