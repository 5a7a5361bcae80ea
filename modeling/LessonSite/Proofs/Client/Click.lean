import LessonSite.Session.Basic

/-!
# A click on a page that has just been loaded

What comes of a click on a link is decided by the address that the link is
resolved to and by the answer of the source.  Being told of the page does not
take a client anywhere else.
-/

namespace LessonSite

namespace Client

variable (client : Client)

theorem navigator_hear (event : Event) (component : Component) :
    (client.hear event component).navigator = client.navigator := by
  cases component <;> cases event <;> rfl

theorem navigator_publish (event : Event) :
    (client.publish event).navigator = client.navigator := by
  unfold publish
  induction client.bus.receivers event.channel generalizing client with
  | nil => rfl
  | cons subscription subscriptions induction =>
      rw [List.foldl_cons, induction, navigator_hear]

theorem navigator_settle (navigator : Navigator) (progress : Progress) :
    (client.settle navigator progress).navigator = navigator := by
  unfold settle
  simp only
  split
  · exact navigator_publish _ _
  · rfl

end Client

namespace Navigator

variable {navigator : Navigator} {href : String} {target request : Url}

/-- The navigation while the route state of the target of a link is asked
for. -/
def following (navigator : Navigator) (target : Url) : Navigator :=
  { navigator with
    context := { navigator.context with busy := true }
    phase := .loading target
    inFlight := navigator.inFlight + 1
    nextCall := navigator.nextCall + 1
    waiting := navigator.waiting ++ [(navigator.nextCall, .following target)] }

theorem load_following (asked : target.routeData = .ok request) :
    navigator.load (.following target) =
      (navigator.following target, .waits navigator.nextCall request) := by
  have pending : (Pending.following target).target.routeData = .ok request :=
    asked
  unfold load
  rw [pending]
  rfl

theorem follow_eq_waits
    (joined : navigator.context.location.join href = .ok target)
    (same : target.sameSite navigator.context.location = true)
    (asked : target.routeData = .ok request) :
    navigator.follow href =
      (navigator.following target, .waits navigator.nextCall request) := by
  unfold follow
  rw [joined]
  simp only [same, if_true, load_following asked]

/-- A link leads to a page of the same site, or a click on it shows none. -/
theorem follow_cases (navigator : Navigator) (href : String) :
    (∃ outcome, (∀ target, outcome ≠ .navigated target) ∧
      (navigator.follow href).2 = .ends outcome none) ∨
    ∃ target request, navigator.context.location.join href = .ok target ∧
      target.sameSite navigator.context.location = true ∧
      target.routeData = .ok request := by
  unfold follow load
  split
  · exact .inl ⟨_, by simp, rfl⟩
  · next target joined =>
      split
      · next same =>
          split
          · exact .inl ⟨_, by simp, rfl⟩
          · next request asked =>
              exact .inr ⟨target, request, joined, same, asked⟩
      · exact .inl ⟨_, by simp, rfl⟩

end Navigator

namespace Session

variable {session next : Session} {activity : Activity}

theorem perform_of_ended {report : Report}
    (begun : session.begin activity = (next, .ended report)) :
    session.perform activity = (next, report) := by
  simp [perform, performAll, beginAll, begun, waiters, finishAll, collect]

/-- A single activity that waits is gone on with when its time has come. -/
theorem perform_of_waits {due : Nat} {continuation : Continuation}
    (begun : session.begin activity = (next, .waits due continuation)) :
    session.perform activity =
      ({ next with client := next.client.advance due } : Session).proceed
        continuation := by
  simp [perform, performAll, beginAll, begun, waiters, finishAll, collect]

variable {source : Source} {href : String} {location target request : Url}

theorem begin_of_ends {call : Call} {outcome : Outcome}
    {told : Option RouteState} (known : session.source = some source)
    (ends : (session.client.navigator.begin call).2 = .ends outcome told) :
    ∃ next,
      session.begin (.navigate call none) =
        (next, .ended (.outcome outcome)) := by
  have progress : (session.client.begin call).2 = .ends outcome told := ends
  refine ⟨{ session with client := (session.client.begin call).1 }, ?_⟩
  unfold Session.begin
  simp only [known]
  split
  · next ended broadcast same =>
      rw [progress] at same
      cases same
      rfl
  · next same =>
      rw [progress] at same
      cases same

/-- A call that asks for a file waits no longer than it takes to read it. -/
theorem begin_of_waits {tree : FileTree} {directory : String} {call : Call}
    {number : Nat} (known : session.source = some (.files tree directory))
    (waits : (session.client.navigator.begin call).2 = .waits number request) :
    ∃ requests due, session.begin (.navigate call none) =
      (⟨(session.client.begin call).1, some (.files tree directory), requests⟩,
        .waits due (.answer number request)) := by
  have progress : (session.client.begin call).2 = .waits number request := waits
  refine ⟨session.requests ++ [request], (session.client.begin call).1.now + 0,
    ?_⟩
  unfold Session.begin
  simp only [known]
  split
  · next same =>
      rw [progress] at same
      cases same
  · next same =>
      rw [progress] at same
      cases same
      rfl

/-- A file is read for a call, and then its page is shown. -/
theorem perform_of_waits_file {tree : FileTree} {directory : String}
    {call : Call} {number : Nat}
    {pending : Pending} (known : session.source = some (.files tree directory))
    (waits : (session.client.navigator.begin call).2 = .waits number request)
    (waiting : List.lookup number
      (session.client.navigator.begin call).1.waiting = some pending) :
    ∃ next, session.perform (.navigate call none) =
        (next,
          reportOf
            (some ((session.client.navigator.begin call).1.answer number pending
              (Source.readFile tree directory request)).2)) ∧
      next.client.navigator =
        ((session.client.navigator.begin call).1.answer number pending
          (Source.readFile tree directory request)).1 := by
  obtain ⟨requests, due, begun⟩ := begin_of_waits known waits
  have navigator : ((session.client.begin call).1.advance due).navigator =
      (session.client.navigator.begin call).1 := Client.navigator_settle _ _ _
  have told : ((session.client.begin call).1.advance due).answer number
      (Source.readFile tree directory request) =
      (((session.client.begin call).1.advance due).settle
        ((session.client.navigator.begin call).1.answer number pending
          (Source.readFile tree directory request)).1
        ((session.client.navigator.begin call).1.answer number pending
          (Source.readFile tree directory request)).2,
        some ((session.client.navigator.begin call).1.answer number pending
          (Source.readFile tree directory request)).2) := by
    rw [Client.answer, navigator, Navigator.step, waiting]
  generalize ((session.client.navigator.begin call).1.answer number pending
    (Source.readFile tree directory request)) = answered at told ⊢
  rw [perform_of_waits begun]
  simp only [proceed, Session.answer, Source.answer, told]
  exact ⟨_, rfl, Client.navigator_settle _ _ _⟩

/-- A click shows a page with a route state just if the link leads to a page of
the same site whose file holds this route state. -/
theorem perform_click_iff {tree : FileTree} {directory : String}
    {state : RouteState} :
    (∃ target session,
        (start location (some (.files tree directory))).perform
          (.navigate (.click href) none) =
            (session, .outcome (.navigated target)) ∧
          session.currentState? = some state) ↔
      ∃ target request,
        location.join href = .ok target ∧ target.sameSite location = true ∧
          target.routeData = .ok request ∧
          Source.readFile tree directory request = .ok state := by
  have loaded : ∀ {target request : Url}, location.join href = .ok target →
      target.sameSite location = true → target.routeData = .ok request →
      ∃ next,
        (start location (some (.files tree directory))).perform
              (.navigate (.click href) none) =
            (next,
              reportOf
                (some (((Navigator.start location).following target).answer 0
                  (.following target)
                  (Source.readFile tree directory request)).2)) ∧
          next.client.navigator =
            (((Navigator.start location).following target).answer 0
              (.following target)
              (Source.readFile tree directory request)).1 := by
    intro target request joined same asked
    have begun : (Navigator.start location).begin (.click href) =
        ((Navigator.start location).following target, .waits 0 request) :=
      Navigator.follow_eq_waits joined same asked
    have waits :
        ((start location (some (.files tree directory))).client.navigator.begin
          (.click href)).2 = .waits 0 request := congrArg Prod.snd begun
    have waiting :
        List.lookup 0
          ((start location
              (some (.files tree directory))).client.navigator.begin
            (.click href)).1.waiting = some (.following target) :=
      congrArg (fun begun => List.lookup 0 begun.1.waiting) begun
    obtain ⟨next, done, navigator⟩ := perform_of_waits_file rfl waits waiting
    have first :
        ((start location (some (.files tree directory))).client.navigator.begin
          (.click href)).1 = (Navigator.start location).following target :=
      congrArg Prod.fst begun
    rw [first] at done navigator
    exact ⟨next, done, navigator⟩
  constructor
  · rintro ⟨target, session, performed, shown⟩
    rcases (Navigator.start location).follow_cases href with
      ⟨outcome, other, ends⟩ | ⟨found, request, joined, same, asked⟩
    · have begun : ∃ next, (start location (some (.files tree directory))).begin
          (.navigate (.click href) none) = (next, .ended (.outcome outcome)) :=
        begin_of_ends rfl ends
      obtain ⟨next, begun⟩ := begun
      rw [perform_of_ended begun] at performed
      cases performed
      exact absurd rfl (other target)
    · obtain ⟨next, done, navigator⟩ := loaded joined same asked
      rw [performed] at done
      obtain ⟨rfl, report⟩ := Prod.mk.inj done
      refine ⟨found, request, joined, same, asked, ?_⟩
      cases read : Source.readFile tree directory request with
      | error fault =>
          rw [read] at report
          cases report
      | ok other =>
          rw [read] at navigator
          rw [currentState?, navigator] at shown
          have kept : some other = some state := shown
          rw [Option.some.inj kept]
  · rintro ⟨target, request, joined, same, asked, read⟩
    obtain ⟨next, done, navigator⟩ := loaded joined same asked
    rw [read] at done navigator
    refine ⟨target, next, done, ?_⟩
    rw [currentState?, navigator]
    rfl

end Session

end LessonSite
