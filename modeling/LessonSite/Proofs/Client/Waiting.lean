import LessonSite.Proofs.Client.Calls
import LessonSite.Proofs.Lists

/-!
# Calls that overlap

Any number of calls may wait at the same time, and what happens to a page comes
in any order.  This module says once what one happening does, and derives from
it what holds whatever has happened: only the first entry can be without a route
state, every waiting call is counted, and the page is busy just while one waits.
-/

namespace LessonSite.Navigator

variable {navigator : Navigator}

/-- The navigation after a number of happenings. -/
def run (navigator : Navigator) (happenings : List Happening) : Navigator :=
  happenings.foldl
    (fun navigator happening => (navigator.step happening).1) navigator

theorem run_append (navigator : Navigator) (earlier later : List Happening) :
    navigator.run (earlier ++ later) = (navigator.run earlier).run later :=
  List.foldl_append

/-- What one happening can do. -/
inductive Move (navigator : Navigator) :
    Happening → Navigator → Option Progress → Prop where
  /-- A call ends at once without a page. -/
  | ends {call : Call} {outcome : Outcome} :
      Move navigator (.call call) navigator (some (.ends outcome none))
  /-- There is no waiting call for an answer, or for giving it up. -/
  | misses {happening : Happening} {number : Nat}
      (absent : List.lookup number navigator.waiting = none)
      (meant : happening = .abandon number ∨
        ∃ answer, happening = .answer number answer) :
      Move navigator happening navigator none
  /-- A call asks for a route state; a step through the history has been made
  before. -/
  | asks {call : Call} {pending : Pending} {request : Url} {history : History}
      (settled : history.Settled) :
      Move navigator (.call call) (asking { navigator with history } pending)
        (some (.waits navigator.nextCall request))
  /-- A page that was shown before is shown again. -/
  | returns {call : Call} {state : RouteState} {history : History}
      (settled : history.Settled) :
      Move navigator (.call call)
        (display { navigator with history } history.current.url state)
        (some (.ends (.shown state) (some state)))
  /-- A waiting call gets its route state. -/
  | arrives {number : Nat} {pending : Pending} {state : RouteState}
      (waits : List.lookup number navigator.waiting = some pending) :
      Move navigator (.answer number (.ok state))
        (proceed { navigator.land number with phase := .idle } state pending).1
        (some
          (proceed { navigator.land number with phase := .idle }
            state pending).2)
  /-- A waiting call gets none. -/
  | fails {number : Nat} {pending : Pending} {error : NavigationError}
      (waits : List.lookup number navigator.waiting = some pending) :
      Move navigator (.answer number (.error error))
        (undo
          { navigator.land number with
            phase := .failed pending.target error.message } pending)
        (some (.ends (.failed error) none))
  /-- A waiting call is given up. -/
  | lapses {number : Nat} {pending : Pending}
      (waits : List.lookup number navigator.waiting = some pending) :
      Move navigator (.abandon number) (navigator.land number) none

/-- A step through the history that cannot be seen through has changed
nothing. -/
theorem undo_traverse {history : History} {backwards : Bool}
    (settled : navigator.history.Settled)
    (moved : (if backwards then
        navigator.history.back?
      else navigator.history.forward?) = some history)
    (target : Url) :
    ({ navigator with history } : Navigator).undo
      (.returning target backwards) = navigator := by
  have bound := settled.position_le
  cases backwards with
  | true =>
      obtain ⟨position, here, rfl⟩ := History.back?_eq_some moved
      have room :
          navigator.history.position <
            navigator.history.later.length + 1 := by omega
      simp [undo, travel, History.forward?, History.size, History.entries, room,
        ← here]
  | false =>
      obtain ⟨-, rfl⟩ := History.forward?_eq_some moved
      simp [undo, travel, History.back?]

private theorem move_traverse (settled : navigator.history.Settled)
    {call : Call} {backwards : Bool}
    (begun : navigator.begin call = navigator.traverse backwards) :
    navigator.Move (.call call) (navigator.begin call).1
      (some (navigator.begin call).2) := by
  rw [begun]
  unfold traverse
  cases moved : (if backwards then
      navigator.history.back?
    else navigator.history.forward?) with
  | none => exact .ends
  | some history =>
      have arrived : history.Settled := by
        cases backwards with
        | true => exact settled.back moved
        | false => exact settled.forward moved
      cases known : history.current.state with
      | some state =>
          simp only [known]
          exact .returns arrived
      | none =>
          simp only [known]
          rcases load_cases { navigator with history }
              (.returning history.current.url backwards) with
            ⟨error, failed⟩ | ⟨request, asks⟩
          · rw [failed, undo_traverse settled moved]
            exact .ends
          · rw [asks]
            exact .asks arrived

private theorem move_load (settled : navigator.history.Settled) {call : Call}
    (pending : Pending) (begun : navigator.begin call = navigator.load pending)
    (unmoved : navigator.undo pending = navigator) :
    navigator.Move (.call call) (navigator.begin call).1
      (some (navigator.begin call).2) := by
  rw [begun]
  rcases navigator.load_cases pending with ⟨error, failed⟩ | ⟨request, asks⟩
  · rw [failed, unmoved]
    exact .ends
  · rw [asks]
    exact .asks settled

private theorem move_begin (settled : navigator.history.Settled) (call : Call) :
    navigator.Move (.call call) (navigator.begin call).1
      (some (navigator.begin call).2) := by
  cases call with
  | «open» =>
      exact move_load settled (.opening navigator.context.location) rfl rfl
  | back => exact move_traverse settled rfl
  | forward => exact move_traverse settled rfl
  | clickElsewhere => exact .ends
  | click href =>
      have begun : navigator.begin (.click href) = navigator.follow href := rfl
      unfold follow at begun
      split at begun
      · rw [begun]
        exact .ends
      · next target _ =>
          split at begun
          · exact move_load settled (.following target) begun rfl
          · rw [begun]
            exact .ends

theorem move_step (settled : navigator.history.Settled)
    (happening : Happening) :
    navigator.Move happening (navigator.step happening).1
      (navigator.step happening).2 := by
  cases happening with
  | call call => exact move_begin settled call
  | answer number answer =>
      cases waits : List.lookup number navigator.waiting with
      | none =>
          simp only [step, waits]
          exact .misses waits (.inr ⟨answer, rfl⟩)
      | some pending =>
          simp only [step, waits]
          cases answer with
          | ok state => exact .arrives waits
          | error error => exact .fails waits
  | abandon number =>
      cases waits : List.lookup number navigator.waiting with
      | none =>
          simp only [step, waits]
          exact .misses waits (.inl rfl)
      | some pending =>
          simp only [step, waits]
          exact .lapses waits

/-- Every waiting call has a number of its own and is counted, and the page is
busy just while one waits. -/
structure Tallied (navigator : Navigator) : Prop where
  settled : navigator.history.Settled
  inFlight : navigator.inFlight = navigator.waiting.length
  busy : navigator.context.busy = !navigator.waiting.isEmpty
  fresh : ∀ number ∈ navigator.waiting.map Prod.fst, number < navigator.nextCall
  distinct : (navigator.waiting.map Prod.fst).Nodup

theorem tallied_start (location : Url) : (start location).Tallied where
  settled := History.settled_start location
  inFlight := rfl
  busy := rfl
  fresh := nofun
  distinct := List.nodup_nil

theorem Tallied.asking (tallied : navigator.Tallied) (pending : Pending) :
    (navigator.asking pending).Tallied where
  settled := tallied.settled
  inFlight := by simp [Navigator.asking, tallied.inFlight]
  busy := by simp [Navigator.asking]
  fresh := by
    intro number member
    simp only [Navigator.asking, List.map_append, List.map_cons, List.map_nil,
      List.mem_append, List.mem_singleton] at member ⊢
    rcases member with old | rfl
    · exact Nat.lt_succ_of_lt (tallied.fresh number old)
    · exact Nat.lt_succ_self _
  distinct := by
    simp only [Navigator.asking, List.map_append, List.map_cons, List.map_nil]
    refine List.nodup_append.mpr ⟨tallied.distinct, by simp, ?_⟩
    intro number old last new
    rw [List.mem_singleton.mp new]
    exact Nat.ne_of_lt (tallied.fresh number old)

private theorem length_filter_waiting {number : Nat}
    {waiting : List (Nat × Pending)}
    (distinct : (waiting.map Prod.fst).Nodup)
    (waits : number ∈ waiting.map Prod.fst) :
    (waiting.filter fun (other, _) => other ≠ number).length + 1 =
      waiting.length := by
  induction waiting with
  | nil => cases waits
  | cons waiter waiting induction =>
      obtain ⟨other, pending⟩ := waiter
      obtain ⟨fresh, distinct⟩ := List.nodup_cons.mp distinct
      by_cases same : other = number
      · subst same
        have others :
            (waiting.filter fun (other', _) => other' ≠ other) = waiting := by
          refine List.filter_eq_self.mpr fun waiter member => decide_eq_true ?_
          rintro same
          exact fresh (List.mem_map.mpr ⟨waiter, member, same⟩)
        rw [List.filter_cons_of_neg (by simp), others, List.length_cons]
      · have later := (List.mem_cons.mp waits).resolve_left (Ne.symm same)
        rw [List.filter_cons_of_pos (by simpa using same), List.length_cons,
          List.length_cons, induction distinct later]

theorem Tallied.land (tallied : navigator.Tallied) {number : Nat}
    {pending : Pending}
    (waits : List.lookup number navigator.waiting = some pending) :
    (navigator.land number).Tallied := by
  have member : number ∈ navigator.waiting.map Prod.fst :=
    List.mem_map_of_mem (mem_of_lookup waits)
  have count :
      (navigator.land number).waiting.length + 1 = navigator.waiting.length :=
    length_filter_waiting tallied.distinct member
  have remaining : ((navigator.land number).waiting.map Prod.fst).Sublist
      (navigator.waiting.map Prod.fst) := List.filter_sublist.map _
  refine ⟨tallied.settled, ?_, ?_, ?_, tallied.distinct.sublist remaining⟩
  · show navigator.inFlight - 1 = (navigator.land number).waiting.length
    rw [tallied.inFlight]
    omega
  · have busy : navigator.context.busy = true := by
      rw [tallied.busy, Bool.not_eq_true', List.isEmpty_eq_false_iff]
      exact List.ne_nil_of_mem (mem_of_lookup waits)
    by_cases last : navigator.inFlight = 1
    · have none : (navigator.land number).waiting = [] := by
        apply List.eq_nil_of_length_eq_zero
        rw [tallied.inFlight] at last
        omega
      rw [none, Navigator.land, if_pos last]
      rfl
    · have some : (navigator.land number).waiting ≠ [] := by
        intro none
        rw [none] at count
        exact last (tallied.inFlight.trans count.symm)
      rw [List.isEmpty_eq_false_iff.mpr some, Navigator.land, if_neg last]
      exact busy
  · intro other inside
    exact tallied.fresh other (remaining.subset inside)

/-- Neither the phase nor the history nor the address has to do with the calls
that wait. -/
theorem Tallied.with (tallied : navigator.Tallied) {next : Navigator}
    (settled : next.history.Settled)
    (busy : next.context.busy = navigator.context.busy)
    (inFlight : next.inFlight = navigator.inFlight)
    (nextCall : next.nextCall = navigator.nextCall)
    (waiting : next.waiting = navigator.waiting) :
    next.Tallied where
  settled := settled
  inFlight := by rw [inFlight, waiting, tallied.inFlight]
  busy := by rw [busy, waiting, tallied.busy]
  fresh := by
    rw [waiting, nextCall]
    exact tallied.fresh
  distinct := by
    rw [waiting]
    exact tallied.distinct

private theorem Tallied.proceed (tallied : navigator.Tallied)
    (state : RouteState) (pending : Pending) :
    (navigator.proceed state pending).1.Tallied := by
  cases pending with
  | opening location =>
      exact tallied.with (tallied.settled.replace location state)
        rfl rfl rfl rfl
  | following target =>
      exact tallied.with (tallied.settled.push target state) rfl rfl rfl rfl
  | returning target _ =>
      exact tallied.with (tallied.settled.replace target state) rfl rfl rfl rfl

private theorem Tallied.travel (tallied : navigator.Tallied)
    (backwards : Bool) :
    (navigator.travel backwards).Tallied := by
  refine tallied.with ?_ rfl rfl rfl rfl
  unfold Navigator.travel
  cases moved : (if backwards then
      navigator.history.back?
    else navigator.history.forward?) with
  | none => exact tallied.settled
  | some history =>
      cases backwards with
      | true => exact tallied.settled.back moved
      | false => exact tallied.settled.forward moved

private theorem Tallied.undo (tallied : navigator.Tallied) (pending : Pending) :
    (navigator.undo pending).Tallied := by
  cases pending with
  | opening location => exact tallied
  | following target => exact tallied
  | returning target backwards => exact tallied.travel (!backwards)

theorem Tallied.step (tallied : navigator.Tallied) (happening : Happening) :
    (navigator.step happening).1.Tallied := by
  have move := move_step tallied.settled happening
  generalize (navigator.step happening).1 = next at move
  generalize (navigator.step happening).2 = progress at move
  cases move with
  | ends => exact tallied
  | misses => exact tallied
  | @asks call pending request history settled =>
      have moved : ({ navigator with history } : Navigator).Tallied :=
        tallied.with settled rfl rfl rfl rfl
      exact moved.asking pending
  | returns settled => exact tallied.with settled rfl rfl rfl rfl
  | @arrives number pending state waits =>
      have landed := tallied.land waits
      have idle :
          ({ navigator.land number with phase := .idle } : Navigator).Tallied :=
        landed.with landed.settled rfl rfl rfl rfl
      exact idle.proceed state pending
  | @fails number pending error waits =>
      have landed := tallied.land waits
      have failed : ({ navigator.land number with
          phase := .failed pending.target error.message } :
          Navigator).Tallied :=
        landed.with landed.settled rfl rfl rfl rfl
      exact failed.undo pending
  | lapses waits => exact tallied.land waits

theorem Tallied.run (tallied : navigator.Tallied)
    (happenings : List Happening) :
    (navigator.run happenings).Tallied := by
  induction happenings generalizing navigator with
  | nil => exact tallied
  | cons happening happenings induction =>
      exact induction (tallied.step happening)

end LessonSite.Navigator
