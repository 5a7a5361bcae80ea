import LessonSite.Client.Navigator
import LessonSite.Proofs.Client.History

/-!
# Calls one after the other

Between two calls nothing waits, and the address is that of the current entry.
Once the page that was loaded has its route state, every entry of the history
has one, so that a step through the history asks for nothing.
-/

namespace LessonSite

namespace Navigator

/-- No call waits, and the address is that of the current entry. -/
structure Rests (navigator : Navigator) : Prop where
  settled : navigator.history.Settled
  location : navigator.context.location = navigator.history.current.url
  busy : navigator.context.busy = false
  inFlight : navigator.inFlight = 0
  waiting : navigator.waiting = []

/-- The page of the current entry is shown, and each page can be shown again as
it was. -/
structure Presents (navigator : Navigator) (state : RouteState) :
    Prop extends navigator.Rests where
  complete : navigator.history.Complete
  state_eq : navigator.history.current.state = some state
  locale : navigator.context.locale =
    (Locale.ofLabel? state.locale).getD
      (Context.localeOf navigator.context.location)

/-- A call ends at once or when it is answered, with what has been asked for,
and with the route state that all components are told of. -/
inductive Ends (navigator : Navigator) (call : Call)
    (answer : Except NavigationError RouteState) :
    Option Url → Navigator → Outcome → Option RouteState → Prop where
  | atOnce {next : Navigator} {outcome : Outcome} {told : Option RouteState}
      (begun : navigator.begin call = (next, .ends outcome told)) :
      Ends navigator call answer none next outcome told
  | answered {begun next : Navigator} {number : Nat} {request : Url}
      {pending : Pending} {outcome : Outcome} {told : Option RouteState}
      (waits : navigator.begin call = (begun, .waits number request))
      (found : List.lookup number begun.waiting = some pending)
      (ends : begun.answer number pending answer = (next, .ends outcome told)) :
      Ends navigator call answer (some request) next outcome told

variable {navigator : Navigator} {state : RouteState}

theorem rests_start (location : Url) : (start location).Rests where
  settled := History.settled_start location
  location := rfl
  busy := rfl
  inFlight := rfl
  waiting := rfl

/-- The navigation while the route state for a call is asked for. -/
def asking (navigator : Navigator) (pending : Pending) : Navigator :=
  { navigator with
    context := { navigator.context with busy := true }
    phase := .loading pending.target
    inFlight := navigator.inFlight + 1
    nextCall := navigator.nextCall + 1
    waiting := navigator.waiting ++ [(navigator.nextCall, pending)] }

theorem load_cases (navigator : Navigator) (pending : Pending) :
    (∃ error,
        navigator.load pending =
          (navigator.undo pending, .ends (.failed error) none)) ∨
      ∃ request,
        navigator.load pending =
          (navigator.asking pending, .waits navigator.nextCall request) := by
  unfold load
  split
  · exact .inl ⟨_, rfl⟩
  · exact .inr ⟨_, rfl⟩

/-- Nothing but the number of the next call tells that there has been a
request. -/
theorem Rests.land (rests : navigator.Rests) (pending : Pending) :
    (navigator.asking pending).land navigator.nextCall =
      { navigator with
        phase := .loading pending.target,
          nextCall := navigator.nextCall + 1 } := by
  obtain ⟨-, -, busy, inFlight, waiting⟩ := rests
  obtain ⟨⟨theme, tocVisible, locale, location, _⟩, phase, history, _, nextCall,
    _⟩ := navigator
  simp only at busy inFlight waiting
  subst busy inFlight waiting
  simp [asking, Navigator.land]

theorem Rests.lookup (rests : navigator.Rests) (pending : Pending) :
    List.lookup navigator.nextCall (navigator.asking pending).waiting =
      some pending := by
  simp [asking, rests.waiting]

theorem Rests.answer_ok (rests : navigator.Rests) (pending : Pending)
    (state : RouteState) :
    (navigator.asking pending).answer navigator.nextCall pending (.ok state) =
      ({ navigator with
          phase := .idle,
            nextCall := navigator.nextCall + 1 } : Navigator).proceed state
        pending := by
  rw [answer, rests.land]

theorem Rests.answer_error (rests : navigator.Rests) (pending : Pending)
    (error : NavigationError) :
    (navigator.asking pending).answer navigator.nextCall pending
        (.error error) =
      (undo { navigator with
          phase := .failed pending.target error.message,
            nextCall := navigator.nextCall + 1 } pending,
        .ends (.failed error) none) := by
  rw [answer, rests.land]

theorem Rests.retry (rests : navigator.Rests) (phase : Phase) (nextCall : Nat) :
    ({ navigator with phase, nextCall } : Navigator).Rests :=
  ⟨rests.settled, rests.location, rests.busy, rests.inFlight, rests.waiting⟩

theorem Presents.retry (presents : navigator.Presents state) (phase : Phase)
    (nextCall : Nat) :
    ({ navigator with phase, nextCall } : Navigator).Presents state :=
  ⟨presents.toRests.retry phase nextCall, presents.complete, presents.state_eq,
    presents.locale⟩

theorem Rests.presents_display (rests : navigator.Rests) {history : History}
    (complete : history.Complete)
    {location : Url} (current : history.current = ⟨location, some state⟩)
    (phase : Phase) (nextCall : Nat) :
    (display { navigator with history, phase, nextCall } location
      state).Presents state where
  settled := complete.toSettled
  location := by simp [display, Context.showPage, current]
  busy := rests.busy
  inFlight := rests.inFlight
  waiting := rests.waiting
  complete := complete
  state_eq := by simp [display, current]
  locale := rfl

/-- A call for the page that was loaded comes to an end, and when it shows the
page, the history is complete. -/
theorem Rests.ends_open (rests : navigator.Rests)
    (first : navigator.history.position = 0)
    (answer : Except NavigationError RouteState) :
    ∃ request next outcome,
      navigator.Ends .open answer request next outcome none ∧
        next.Rests ∧ next.history.position = 0 ∧
        ∀ state, outcome = .shown state → next.Presents state := by
  rcases navigator.load_cases (.opening navigator.context.location) with
    ⟨error, failed⟩ | ⟨request, asks⟩
  · refine ⟨none, navigator, .failed error, .atOnce failed, rests, first, ?_⟩
    intro state shown
    cases shown
  · cases answer with
    | error error =>
        refine ⟨_, _, _,
          .answered asks (rests.lookup _) (rests.answer_error _ error),
          rests.retry _ _, first, ?_⟩
        intro state shown
        cases shown
    | ok state =>
        have complete :=
          rests.settled.complete_replace first navigator.context.location state
        have presents := rests.presents_display complete
          (rests.settled.current_replace navigator.context.location state) .idle
          (navigator.nextCall + 1)
        refine ⟨_, _, _,
          .answered asks (rests.lookup _) (rests.answer_ok _ state),
          presents.toRests, ?_, ?_⟩
        · simp [display, History.replace, first]
        · intro other shown
          cases shown
          exact presents

/-- A call on a page comes to an end on a page.  A step through the history asks
for nothing, and when components are told nothing, nothing that they share has
changed. -/
def EndsOnPage (navigator : Navigator) (state : RouteState) (call : Call)
    (answer : Except NavigationError RouteState) : Prop :=
  ∃ request next outcome told,
    navigator.Ends call answer request next outcome told ∧
      next.Presents (told.getD state) ∧
      (told = none → next.context = navigator.context) ∧
        (call = .back ∨ call = .forward → request = none)

variable {call : Call} {answer : Except NavigationError RouteState}

theorem Presents.ends_of_stays (presents : navigator.Presents state)
    {outcome : Outcome}
    (begun : navigator.begin call = (navigator, .ends outcome none)) :
    navigator.EndsOnPage state call answer :=
  ⟨none, navigator, outcome, none, .atOnce begun, presents, fun _ => rfl,
    fun _ => rfl⟩

/-- A step to an entry displays its page, as each entry has a route state. -/
theorem Presents.ends_of_traverse (presents : navigator.Presents state)
    {backwards : Bool}
    (step : navigator.begin call = navigator.traverse backwards) :
    navigator.EndsOnPage state call answer := by
  unfold traverse at step
  split at step
  · exact presents.ends_of_stays step
  · next history moved =>
      have complete : history.Complete := by
        cases backwards with
        | true => exact presents.complete.back moved
        | false => exact presents.complete.forward moved
      obtain ⟨found, known⟩ := complete.exists_state
      simp only [known] at step
      refine ⟨none, _, _, _, .atOnce step, ?_, nofun, fun _ => rfl⟩
      exact presents.presents_display complete (by rw [← known]) navigator.phase
        navigator.nextCall

/-- A click on a link adds an entry when its page comes. -/
theorem Presents.ends_follow (presents : navigator.Presents state)
    (href : String) :
    navigator.EndsOnPage state (.click href) answer := by
  have begun : navigator.begin (.click href) = navigator.follow href := rfl
  unfold follow at begun
  split at begun
  · exact presents.ends_of_stays begun
  · next target joined =>
      split at begun
      · rcases navigator.load_cases (.following target) with
          ⟨error, failed⟩ | ⟨request, asks⟩
        · exact presents.ends_of_stays (begun.trans failed)
        · have waits := begun.trans asks
          cases answer with
          | error error =>
              exact ⟨_, _, _, none,
                .answered waits (presents.lookup _)
                  (presents.answer_error (.following target) error),
                presents.retry _ _, fun _ => rfl, by simp⟩
          | ok loaded =>
              refine ⟨_, _, _, some loaded,
                .answered waits (presents.lookup _)
                  (presents.answer_ok (.following target) loaded), ?_, nofun,
                by simp⟩
              exact presents.presents_display
                (presents.complete.push target loaded)
                (presents.settled.current_push target loaded) .idle
                (navigator.nextCall + 1)
      · exact presents.ends_of_stays begun

/-- Every call but that for the page that was loaded leads from page to page. -/
theorem Presents.ends (presents : navigator.Presents state)
    (other : call ≠ .open) :
    navigator.EndsOnPage state call answer := by
  cases call with
  | «open» => contradiction
  | click href => exact presents.ends_follow href
  | clickElsewhere => exact presents.ends_of_stays rfl
  | back => exact presents.ends_of_traverse rfl
  | forward => exact presents.ends_of_traverse rfl

end Navigator

end LessonSite
