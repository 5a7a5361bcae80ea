import LessonSite.Client.Navigator
import LessonSite.Proofs.Client.History
import LessonSite.Proofs.Lists

/-!
# Steps through the history and the page on screen

A step back to an entry without a route state is made before the state is there,
and taken back when it does not come.  The step that is taken back is the one
that the history would make now, and a call that is given up takes nothing back;
so when no call waits any more, the current entry is as far away from the page
on screen as these calls have led it astray.
-/

namespace LessonSite

namespace History

variable (history : History)

/-- The entry a number of steps before the current one. -/
def entryBefore? (steps : Int) : Option HistoryEntry :=
  if steps ≤ history.position then
    history.entries[(history.position - steps).toNat]?
  else none

private theorem Settled.entryBefore?_zero {history : History}
    (settled : history.Settled) :
    history.entryBefore? 0 = some history.current := by
  rw [entryBefore?, if_pos (Int.natCast_nonneg _), Int.sub_zero,
    Int.toNat_natCast]
  exact settled.current_eq

/-- The number of steps forward that are made when a waiting call fails. -/
def takenBack : Pending → Int
  | .returning _ _ => if history.position < history.later.length then 1 else 0
  | _ => 0

end History

/-- The steps back since a page was last shown that were made before there was a
route state. -/
structure Course where
  /-- The calls that still wait. -/
  calls : List Nat
  /-- How far the calls that have ended have moved the history, together with
  calls from before. -/
  strayed : Int

namespace Course

def straight : Course :=
  ⟨[], 0⟩

/-- A call ends without a page, and steps forward. -/
def close (course : Course) (call : Nat) (steps : Int) : Course :=
  if call ∈ course.calls then
    ⟨course.calls.erase call, course.strayed + steps - 1⟩
  else { course with strayed := course.strayed + steps }

/-- The course after one happening. -/
def next (course : Course) (navigator : Navigator)
    (happening : Navigator.Happening) : Course :=
  match happening, (navigator.step happening).2 with
  | _, some (.ends (.shown _) _) => straight
  | _, some (.ends (.navigated _) _) => straight
  | .call .back, some (.waits call _) =>
      { course with calls := call :: course.calls }
  | .answer call _, some (.ends (.failed _) _) =>
      match List.lookup call navigator.waiting with
      | some pending => course.close call (navigator.history.takenBack pending)
      | none => course
  | .abandon call, _ => course.close call 0
  | _, _ => course

end Course

namespace Navigator

/-- The navigation after a number of happenings, and the course it has taken. -/
def sail (navigator : Navigator) (course : Course) :
    List Happening → Navigator × Course
  | [] => (navigator, course)
  | happening :: happenings =>
      (navigator.step happening).1.sail
        (course.next navigator happening) happenings

/-- The page on screen is that of an entry as far from the current one as the
course says. -/
structure OnCourse (navigator : Navigator) (course : Course) : Prop where
  settled : navigator.history.Settled
  fresh : ∀ waiting ∈ navigator.waiting, waiting.1 < navigator.nextCall
  backwards : ∀ call target backwards,
    (call, Pending.returning target backwards) ∈ navigator.waiting →
    backwards = true
  calls_waiting : ∀ call ∈ course.calls, ∃ target,
    List.lookup call navigator.waiting = some (.returning target true)
  calls_nodup : course.calls.Nodup
  shown :
    ∃ place : Nat, ∃ entry, navigator.history.entries[place]? = some entry ∧
      entry.url = navigator.context.location ∧
      (navigator.history.position : Int) =
        place + course.strayed - course.calls.length

variable {navigator : Navigator} {course : Course}

theorem onCourse_start (location : Url) :
    (start location).OnCourse .straight where
  settled := History.settled_start location
  fresh := by simp [start]
  backwards := by simp [start]
  calls_waiting := by simp [Course.straight]
  calls_nodup := List.nodup_nil
  shown := ⟨0, ⟨location, none⟩, rfl, rfl, rfl⟩

private theorem onCourse_of_shown (settled : navigator.history.Settled)
    (fresh : ∀ waiting ∈ navigator.waiting, waiting.1 < navigator.nextCall)
    (backwards : ∀ call target backwards,
      (call, Pending.returning target backwards) ∈ navigator.waiting →
      backwards = true)
    (here : navigator.history.current.url = navigator.context.location) :
    navigator.OnCourse .straight where
  settled := settled
  fresh := fresh
  backwards := backwards
  calls_waiting := by simp [Course.straight]
  calls_nodup := List.nodup_nil
  shown :=
    ⟨navigator.history.position, _, settled.current_eq,
      here, by simp [Course.straight]⟩

private theorem OnCourse.proceed (onCourse : navigator.OnCourse course)
    (state : RouteState)
    (pending : Pending) :
    (navigator.proceed state pending).1.OnCourse .straight := by
  cases pending with
  | opening location =>
      refine onCourse_of_shown (onCourse.settled.replace location state)
        onCourse.fresh onCourse.backwards ?_
      exact congrArg HistoryEntry.url
        (onCourse.settled.current_replace location state)
  | following target =>
      refine onCourse_of_shown (onCourse.settled.push target state)
        onCourse.fresh onCourse.backwards ?_
      exact congrArg HistoryEntry.url
        (onCourse.settled.current_push target state)
  | returning target backwards =>
      refine onCourse_of_shown (onCourse.settled.replace target state)
        onCourse.fresh onCourse.backwards ?_
      exact congrArg HistoryEntry.url
        (onCourse.settled.current_replace target state)

private theorem lookup_filter_ne {call other : Nat} (different : other ≠ call)
    (waiting : List (Nat × Pending)) :
    List.lookup other (waiting.filter fun (number, _) => number ≠ call) =
      List.lookup other waiting := by
  induction waiting with
  | nil => rfl
  | cons entry waiting induction =>
      obtain ⟨number, pending⟩ := entry
      by_cases named : number = call
      · subst named
        simpa [List.lookup_cons, beq_false_of_ne different] using induction
      · simp only [List.filter_cons, named, List.lookup_cons, ne_eq,
          not_false_eq_true, decide_true, if_true]
        rw [← induction]

private theorem OnCourse.close (onCourse : navigator.OnCourse course)
    (call : Nat)
    {after : Navigator} {history : History} {steps : Int}
    (settled : history.Settled)
    (entries : history.entries = navigator.history.entries)
    (moved : (history.position : Int) = navigator.history.position + steps)
    (landed : after = { navigator.land call with
      context := after.context, phase := after.phase, history := history })
    (stays : after.context.location = navigator.context.location) :
    after.OnCourse (course.close call steps) := by
  obtain ⟨place, entry, found, same, distance⟩ := onCourse.shown
  have waiting :
      after.waiting =
        navigator.waiting.filter fun (other, _) => other ≠ call := by
    rw [landed]
    rfl
  have nextCall : after.nextCall = navigator.nextCall := by
    rw [landed]
    rfl
  have historyEq : after.history = history := by
    rw [landed]
  refine ⟨historyEq ▸ settled, ?_, ?_, ?_, ?_, place, entry, ?_,
    same.trans stays.symm, ?_⟩
  · intro waiter member
    rw [waiting] at member
    rw [nextCall]
    exact onCourse.fresh waiter (List.mem_filter.mp member).1
  · intro other target backwards member
    rw [waiting] at member
    exact onCourse.backwards other target backwards
      (List.mem_filter.mp member).1
  · intro other member
    rw [waiting]
    unfold Course.close at member
    split at member
    · next began =>
        obtain ⟨different, old⟩ :=
          (onCourse.calls_nodup.mem_erase_iff).mp member
        rw [lookup_filter_ne different]
        exact onCourse.calls_waiting other old
    · next before =>
        have different : other ≠ call := by
          rintro rfl
          exact before member
        rw [lookup_filter_ne different]
        exact onCourse.calls_waiting other member
  · unfold Course.close
    split
    · exact onCourse.calls_nodup.erase call
    · exact onCourse.calls_nodup
  · rw [historyEq, entries]
    exact found
  · rw [historyEq, moved, distance]
    unfold Course.close
    split
    · next began =>
        have positive := List.length_pos_of_mem began
        simp only [List.length_erase_of_mem began]
        omega
    · simp only
      omega

private theorem forward_eq (history : History) :
    (history.forward?.getD history).entries = history.entries ∧
      ((history.forward?.getD history).position : Int) =
        history.position +
          if history.position < history.later.length then 1 else 0 := by
  cases moved : history.forward? with
  | none =>
      rw [if_neg (Nat.not_lt.mpr (History.forward?_eq_none_iff.mp moved))]
      exact ⟨rfl, (Int.add_zero _).symm⟩
  | some next =>
      obtain ⟨room, rfl⟩ := History.forward?_eq_some moved
      rw [if_pos room]
      exact ⟨rfl, rfl⟩

private theorem OnCourse.undo_history (onCourse : navigator.OnCourse course)
    {call : Nat}
    {pending : Pending} (waits : (call, pending) ∈ navigator.waiting) :
    ∃ history : History,
      (∀ other : Navigator, other.history = navigator.history →
        other.undo pending = { other with history := history }) ∧
      history.Settled ∧ history.entries = navigator.history.entries ∧
      (history.position : Int) =
        navigator.history.position + navigator.history.takenBack pending := by
  cases pending with
  | opening location =>
      refine ⟨navigator.history, ?_, onCourse.settled, rfl,
        (Int.add_zero _).symm⟩
      intro other same
      rw [← same]
      rfl
  | following target =>
      refine ⟨navigator.history, ?_, onCourse.settled, rfl,
        (Int.add_zero _).symm⟩
      intro other same
      rw [← same]
      rfl
  | returning target backwards =>
      obtain rfl := onCourse.backwards call target backwards waits
      obtain ⟨entries, moved⟩ := forward_eq navigator.history
      refine ⟨navigator.history.forward?.getD navigator.history, ?_, ?_,
        entries, moved⟩
      · rintro other same
        simp only [undo, travel, same]
        rfl
      · cases forward : navigator.history.forward? with
        | none => exact onCourse.settled
        | some next => exact onCourse.settled.forward forward

private def withWaiting (navigator : Navigator) (pending : Pending) :
    Navigator where
  context := { navigator.context with busy := true }
  phase := .loading pending.target
  history := navigator.history
  inFlight := navigator.inFlight + 1
  nextCall := navigator.nextCall + 1
  waiting := navigator.waiting ++ [(navigator.nextCall, pending)]

private theorem load_eq (navigator : Navigator) (pending : Pending) :
    (∃ error, navigator.load pending =
        (navigator.undo pending, .ends (.failed (.invalidHref error)) none)) ∨
      ∃ request, navigator.load pending =
        (navigator.withWaiting pending, .waits navigator.nextCall request) := by
  unfold Navigator.load
  cases pending.target.routeData with
  | error error => exact .inl ⟨error, rfl⟩
  | ok request => exact .inr ⟨request, rfl⟩

private theorem OnCourse.lookup_nextCall
    (onCourse : navigator.OnCourse course) :
    List.lookup navigator.nextCall navigator.waiting = none := by
  refine List.lookup_eq_none_iff.mpr ?_
  intro waiter member
  exact bne_iff_ne.mpr (Nat.ne_of_gt (onCourse.fresh waiter member))

private theorem OnCourse.withWaiting (onCourse : navigator.OnCourse course)
    (pending : Pending)
    (backwards : ∀ target backwards,
      pending = .returning target backwards → backwards = true) :
    (navigator.withWaiting pending).OnCourse course := by
  refine ⟨onCourse.settled, ?_, ?_, ?_, onCourse.calls_nodup, onCourse.shown⟩
  · intro waiter member
    rcases List.mem_append.mp member with old | new
    · exact Nat.lt_succ_of_lt (onCourse.fresh waiter old)
    · cases List.mem_singleton.mp new
      exact Nat.lt_succ_self _
  · intro call target direction member
    rcases List.mem_append.mp member with old | new
    · exact onCourse.backwards call target direction old
    · exact backwards target direction
        (Prod.mk.inj (List.mem_singleton.mp new)).2.symm
  · intro call member
    obtain ⟨target, found⟩ := onCourse.calls_waiting call member
    exact ⟨target, by simp [Navigator.withWaiting, List.lookup_append, found]⟩

private theorem OnCourse.returning (onCourse : navigator.OnCourse course)
    {earlier : History}
    (moved : navigator.history.back? = some earlier) (target : Url) :
    (({ navigator with history := earlier }).withWaiting
        (.returning target true)).OnCourse
      { course with calls := navigator.nextCall :: course.calls } := by
  have waits := onCourse.withWaiting (.returning target true)
    fun _ _ same => (Pending.returning.inj same).2.symm
  obtain ⟨place, entry, found, same, distance⟩ := onCourse.shown
  have settled := onCourse.settled.back moved
  obtain ⟨position, here, rfl⟩ := History.back?_eq_some moved
  refine ⟨settled, waits.fresh, waits.backwards, ?_, ?_, place, entry, found,
    same, ?_⟩
  · intro call member
    rcases List.mem_cons.mp member with rfl | old
    · refine ⟨target, ?_⟩
      simp [Navigator.withWaiting, List.lookup_append, onCourse.lookup_nextCall]
    · exact waits.calls_waiting call old
  · refine List.nodup_cons.mpr ⟨?_, onCourse.calls_nodup⟩
    intro old
    obtain ⟨target, found⟩ := onCourse.calls_waiting _ old
    cases onCourse.lookup_nextCall.symm.trans found
  · rw [here] at distance
    simp only [Navigator.withWaiting, List.length_cons]
    omega

private theorem undo_back {earlier : History}
    (settled : navigator.history.Settled)
    (moved : navigator.history.back? = some earlier) (target : Url) :
    ({ navigator with history := earlier }).undo (.returning target true) =
      navigator := by
  have bound := settled.position_le
  obtain ⟨position, here, rfl⟩ := History.back?_eq_some moved
  have room :
      navigator.history.position <
        navigator.history.later.length + 1 := by omega
  simp [undo, travel, History.forward?, History.size, History.entries, room,
    ← here]

private theorem OnCourse.display (onCourse : navigator.OnCourse course)
    {history : History} (settled : history.Settled) (state : RouteState) :
    (({ navigator with history := history }).display history.current.url
        state).OnCourse
      .straight :=
  onCourse_of_shown settled onCourse.fresh onCourse.backwards rfl

private theorem OnCourse.back (onCourse : navigator.OnCourse course) :
    (navigator.traverse true).1.OnCourse
      (course.next navigator (.call .back)) := by
  unfold Course.next
  simp only [step, begin, traverse, if_true]
  cases moved : navigator.history.back? with
  | none => exact onCourse
  | some earlier =>
      cases known : earlier.current.state with
      | some state =>
          simp only [known]
          exact onCourse.display (onCourse.settled.back moved) state
      | none =>
          rcases load_eq { navigator with history := earlier }
            (.returning earlier.current.url true) with
            ⟨error, ends⟩ | ⟨request, waits⟩
          · simp only [known, ends]
            rw [undo_back onCourse.settled moved]
            exact onCourse
          · simp only [known, waits]
            exact onCourse.returning moved _

private theorem OnCourse.forward (onCourse : navigator.OnCourse course) :
    (navigator.traverse false).1.OnCourse
      (course.next navigator (.call .forward)) := by
  unfold Course.next
  simp only [step, begin, traverse, Bool.false_eq_true, if_false]
  cases moved : navigator.history.forward? with
  | none => exact onCourse
  | some next =>
      have settled := onCourse.settled.forward moved
      cases known : next.current.state with
      | some state =>
          simp only [known]
          exact onCourse.display settled state
      | none =>
          have here := settled.position_eq_zero known
          obtain ⟨room, rfl⟩ := History.forward?_eq_some moved
          cases here

private def Shows (progress : Progress) : Prop :=
  match progress with
  | .waits _ _ => False
  | .ends (.failed _) _ => False
  | .ends .ignored _ => False
  | .ends _ _ => True

private theorem next_call (call : Call) (other : call ≠ .back)
    (quiet : ¬Shows (navigator.begin call).2) :
    course.next navigator (.call call) = course := by
  unfold Course.next
  simp only [step]
  generalize (navigator.begin call).2 = progress at quiet
  cases progress with
  | waits number request => cases call <;> simp at other ⊢
  | ends outcome broadcast => cases outcome <;> simp [Shows] at quiet ⊢

private theorem OnCourse.load (onCourse : navigator.OnCourse course)
    (pending : Pending)
    (still : ∀ target backwards, pending ≠ .returning target backwards) :
    (navigator.load pending).1.OnCourse course ∧
      ¬Shows (navigator.load pending).2 := by
  rcases load_eq navigator pending with ⟨error, ends⟩ | ⟨request, waits⟩
  · rw [ends]
    refine ⟨?_, id⟩
    cases pending with
    | opening location => exact onCourse
    | following target => exact onCourse
    | returning target backwards => exact absurd rfl (still target backwards)
  · rw [waits]
    refine ⟨onCourse.withWaiting pending ?_, id⟩
    intro target backwards same
    exact absurd same (still target backwards)

private theorem OnCourse.follow (onCourse : navigator.OnCourse course)
    (href : String) :
    (navigator.follow href).1.OnCourse course ∧
      ¬Shows (navigator.follow href).2 := by
  unfold Navigator.follow
  cases navigator.context.location.join href with
  | error fault => exact ⟨onCourse, id⟩
  | ok target =>
      dsimp only
      split
      · exact onCourse.load (.following target) (fun _ _ same => by cases same)
      · exact ⟨onCourse, id⟩

private theorem OnCourse.begin (onCourse : navigator.OnCourse course)
    (call : Call) :
    (navigator.begin call).1.OnCourse (course.next navigator (.call call)) := by
  cases call with
  | «open» =>
      obtain ⟨loads, quiet⟩ :=
        onCourse.load (.opening navigator.context.location)
          (fun _ _ same => by cases same)
      rw [next_call .open (by simp) (by rwa [Navigator.begin]), Navigator.begin]
      exact loads
  | click href =>
      obtain ⟨follows, quiet⟩ := onCourse.follow href
      rw [next_call (.click href) (by simp) (by rwa [Navigator.begin]),
        Navigator.begin]
      exact follows
  | clickElsewhere => exact onCourse
  | back => exact onCourse.back
  | forward => exact onCourse.forward

theorem location_land (navigator : Navigator) (call : Nat) :
    (navigator.land call).context.location = navigator.context.location := by
  simp only [Navigator.land]
  split
  · rfl
  · rfl

private theorem OnCourse.land (onCourse : navigator.OnCourse course)
    (call : Nat) :
    (navigator.land call).OnCourse (course.close call 0) := by
  exact onCourse.close call onCourse.settled rfl (Int.add_zero _).symm rfl
    (navigator.location_land call)

private theorem next_answer_ok {call : Nat} {pending : Pending}
    (waits : List.lookup call navigator.waiting = some pending)
    (state : RouteState) :
    course.next navigator (.answer call (.ok state)) = .straight := by
  unfold Course.next
  simp only [step, waits, Navigator.answer]
  cases pending <;> rfl

private theorem next_answer_error {call : Nat} {pending : Pending}
    (waits : List.lookup call navigator.waiting = some pending)
    (error : NavigationError) :
    course.next navigator (.answer call (.error error)) =
      course.close call (navigator.history.takenBack pending) := by
  unfold Course.next
  simp only [step, waits, Navigator.answer]

private theorem OnCourse.answer (onCourse : navigator.OnCourse course)
    {call : Nat}
    {pending : Pending}
    (waits : List.lookup call navigator.waiting = some pending)
    (answer : Except NavigationError RouteState) :
    (navigator.answer call pending answer).1.OnCourse
      (course.next navigator (.answer call answer)) := by
  have landed := onCourse.land call
  cases answer with
  | ok state =>
      rw [next_answer_ok waits]
      have idle :
          ({ navigator.land call with phase := .idle }).OnCourse
            (course.close call 0) :=
        ⟨landed.settled, landed.fresh, landed.backwards, landed.calls_waiting,
          landed.calls_nodup, landed.shown⟩
      exact idle.proceed state pending
  | error error =>
      obtain ⟨history, undoes, settled, entries, moved⟩ :=
        onCourse.undo_history (mem_of_lookup waits)
      have undone := undoes { navigator.land call with
        phase := .failed pending.target error.message } rfl
      rw [next_answer_error waits, Navigator.answer]
      simp only [undone]
      exact onCourse.close call settled entries moved rfl
        (navigator.location_land call)

/-- Whatever happens, the page on screen stays that of the entry that the course
says. -/
theorem OnCourse.step (onCourse : navigator.OnCourse course)
    (happening : Happening) :
    (navigator.step happening).1.OnCourse
      (course.next navigator happening) := by
  cases happening with
  | call call => exact onCourse.begin call
  | answer call answer =>
      cases waits : List.lookup call navigator.waiting with
      | none => simpa [Navigator.step, Course.next, waits] using onCourse
      | some pending =>
          simp only [Navigator.step, waits]
          exact onCourse.answer waits answer
  | abandon call =>
      cases waits : List.lookup call navigator.waiting with
      | none =>
          have absent : call ∉ course.calls := by
            intro member
            obtain ⟨target, found⟩ := onCourse.calls_waiting call member
            cases waits.symm.trans found
          simpa [Navigator.step, Course.next, waits, Course.close,
            absent] using onCourse
      | some pending =>
          have landed := onCourse.land call
          simpa [Navigator.step, Course.next, waits] using landed

theorem OnCourse.sail (onCourse : navigator.OnCourse course)
    (happenings : List Happening) :
    (navigator.sail course happenings).1.OnCourse
      (navigator.sail course happenings).2 := by
  induction happenings generalizing navigator course with
  | nil => exact onCourse
  | cons happening happenings induction =>
      exact induction (onCourse.step happening)

/-- When no call waits, the entry of the page on screen is as far from the
current one as calls have led the history astray. -/
theorem OnCourse.entryBefore?_eq_some (onCourse : navigator.OnCourse course)
    (idle : navigator.waiting = []) :
    ∃ entry, navigator.history.entryBefore? course.strayed = some entry ∧
      entry.url = navigator.context.location := by
  obtain ⟨place, entry, found, same, distance⟩ := onCourse.shown
  have none : course.calls = [] := by
    refine List.eq_nil_iff_forall_not_mem.mpr ?_
    intro call member
    obtain ⟨target, found⟩ := onCourse.calls_waiting call member
    simp [idle] at found
  rw [none, List.length_nil] at distance
  refine ⟨entry, ?_, same⟩
  have bound : course.strayed ≤ navigator.history.position := by omega
  have here :
      (navigator.history.position - course.strayed).toNat = place := by omega
  rw [History.entryBefore?, if_pos bound, here, found]

/-- However clicks, steps through the history and loads overlap, and whether
their route states come, fail to come or are given up: when no call waits, the
address of the page on screen is that of the current entry just if no step back
has led the history astray, or it has led to an entry with the same address. -/
theorem location_eq_current_iff (location : Url) (happenings : List Happening)
    (idle : ((start location).sail .straight happenings).1.waiting = []) :
    let run := (start location).sail .straight happenings
    run.1.context.location = run.1.history.current.url ↔
      run.2.strayed = 0 ∨
        (run.1.history.entryBefore? run.2.strayed).map HistoryEntry.url =
          some run.1.history.current.url := by
  intro run
  have onCourse : run.1.OnCourse run.2 :=
    (onCourse_start location).sail happenings
  obtain ⟨entry, found, same⟩ := onCourse.entryBefore?_eq_some idle
  have described :
      (run.1.history.entryBefore? run.2.strayed).map HistoryEntry.url =
        some run.1.context.location := by
    rw [found, ← same]
    rfl
  constructor
  · intro here
    exact .inr (described.trans (congrArg some here))
  · rintro (straight | again)
    · rw [straight, onCourse.settled.entryBefore?_zero] at described
      exact (Option.some.inj described).symm
    · exact Option.some.inj (described.symm.trans again)

/-- A session with two clicks and three steps, in which the first page cannot be
loaded: the step back to it fails only when a step forward has shown another
page. -/
def lateFailure : Url × List Happening :=
  let home : Url :=
    ⟨"https", "", "", some (.domain "tour.test"), none, .rooted ["index.html"],
      none, none⟩
  (home,
    [.call (.click "/a/"), .answer 0 (.ok .empty), .call (.click "/b/"),
      .answer 1 (.ok .empty), .call .back, .call .back, .call .forward,
      .answer 2 (.error (.refused home 500))])

theorem location_eq_current_iff_lateFailure :
    ((start lateFailure.1).sail .straight lateFailure.2).1.waiting = [] ∧
      let run := (start lateFailure.1).sail .straight lateFailure.2
      run.1.context.location = run.1.history.current.url ↔
        run.2.strayed = 0 ∨
          (run.1.history.entryBefore? run.2.strayed).map HistoryEntry.url =
            some run.1.history.current.url := by
  have idle :
      ((start lateFailure.1).sail .straight lateFailure.2).1.waiting = [] := by
    decide +kernel
  exact ⟨idle, location_eq_current_iff lateFailure.1 lateFailure.2 idle⟩

/-- The page on screen need not be that of the current entry when no call
waits. -/
theorem location_ne_current_lateFailure :
    ¬∀ (location : Url) (happenings : List Happening),
      ((start location).sail .straight happenings).1.waiting = [] →
        ((start location).sail .straight happenings).1.context.location =
          ((start location).sail .straight
            happenings).1.history.current.url := by
  intro always
  have same := always lateFailure.1 lateFailure.2 (by decide +kernel)
  have different :
      ((start lateFailure.1).sail .straight lateFailure.2).1.context.location ≠
        ((start lateFailure.1).sail .straight
          lateFailure.2).1.history.current.url := by
    decide +kernel
  exact different same

/-- No step back that was made before a page was shown fails afterwards, and
none is given up before one is shown. -/
def KeepsCourse (navigator : Navigator) (course : Course) : Happening → Prop
  | .abandon call => call ∉ course.calls
  | .answer call (.error _) =>
      ∀ target backwards,
        (call, Pending.returning target backwards) ∈ navigator.waiting →
          call ∈ course.calls
  | _ => True

/-- All that happens keeps to the history. -/
def KeepsAllCourse (navigator : Navigator) (course : Course) :
    List Happening → Prop
  | [] => True
  | happening :: happenings =>
      navigator.KeepsCourse course happening ∧
        (navigator.step happening).1.KeepsAllCourse
          (course.next navigator happening) happenings

private theorem OnCourse.takenBack_eq_one (onCourse : navigator.OnCourse course)
    (straight : course.strayed = 0) {call : Nat} (began : call ∈ course.calls)
    (target : Url)
    (backwards : Bool) :
    navigator.history.takenBack (.returning target backwards) = 1 := by
  obtain ⟨place, entry, found, same, distance⟩ := onCourse.shown
  obtain ⟨inside, -⟩ := List.getElem?_eq_some_iff.mp found
  have positive := List.length_pos_of_mem began
  simp only [History.entries, List.length_cons] at inside
  rw [History.takenBack, if_pos (by omega)]

private theorem strayed_close {call : Nat} {steps : Int}
    (straight : course.strayed = 0)
    (balanced : steps = if call ∈ course.calls then 1 else 0) :
    (course.close call steps).strayed = 0 := by
  unfold Course.close
  split
  · next began =>
      rw [if_pos began] at balanced
      simp only
      omega
  · next before =>
      rw [if_neg before] at balanced
      simp only
      omega

private theorem strayed_next_call (straight : course.strayed = 0)
    (call : Call) :
    (course.next navigator (.call call)).strayed = 0 := by
  unfold Course.next
  simp only [step]
  split
  · rfl
  · rfl
  · exact straight
  · next impossible _ => cases impossible
  · next impossible _ _ => cases impossible
  · exact straight

private theorem OnCourse.takenBack_eq (onCourse : navigator.OnCourse course)
    (straight : course.strayed = 0) {call : Nat} {pending : Pending}
    (waits : List.lookup call navigator.waiting = some pending)
    (keeps : ∀ target backwards,
      (call, Pending.returning target backwards) ∈ navigator.waiting →
        call ∈ course.calls) :
    navigator.history.takenBack pending =
      if call ∈ course.calls then 1 else 0 := by
  by_cases began : call ∈ course.calls
  · obtain ⟨target, found⟩ := onCourse.calls_waiting call began
    cases waits.symm.trans found
    rw [if_pos began]
    exact onCourse.takenBack_eq_one straight began target true
  · rw [if_neg began]
    cases pending with
    | opening location => rfl
    | following target => rfl
    | returning target backwards =>
        exact absurd (keeps target backwards (mem_of_lookup waits)) began

theorem OnCourse.strayed_next (onCourse : navigator.OnCourse course)
    (straight : course.strayed = 0) {happening : Happening}
    (keeps : navigator.KeepsCourse course happening) :
    (course.next navigator happening).strayed = 0 := by
  cases happening with
  | call call => exact strayed_next_call straight call
  | abandon call =>
      have quiet : (navigator.step (.abandon call)).2 = none := by
        simp only [Navigator.step]
        split
        · rfl
        · rfl
      simp only [Course.next, quiet]
      exact strayed_close straight (if_neg keeps).symm
  | answer call answer =>
      cases waits : List.lookup call navigator.waiting with
      | none => simpa [Navigator.step, Course.next, waits] using straight
      | some pending =>
          cases answer with
          | ok state =>
              rw [next_answer_ok waits]
              rfl
          | error error =>
              rw [next_answer_error waits]
              exact strayed_close straight
                (onCourse.takenBack_eq straight waits keeps)

theorem OnCourse.strayed_sail (onCourse : navigator.OnCourse course)
    (straight : course.strayed = 0) {happenings : List Happening}
    (keeps : navigator.KeepsAllCourse course happenings) :
    (navigator.sail course happenings).2.strayed = 0 := by
  induction happenings generalizing navigator course with
  | nil => exact straight
  | cons happening happenings induction =>
      exact induction (onCourse.step happening)
        (onCourse.strayed_next straight keeps.1) keeps.2

/-- As long as no step back fails after another page has been shown, and none is
given up, the page on screen is that of the current entry whenever no call
waits. -/
theorem location_eq_current_of_keepsAllCourse (location : Url)
    {happenings : List Happening}
    (keeps : (start location).KeepsAllCourse .straight happenings)
    (idle : ((start location).sail .straight happenings).1.waiting = []) :
    ((start location).sail .straight happenings).1.context.location =
      ((start location).sail .straight happenings).1.history.current.url := by
  have onCourse := onCourse_start location
  obtain ⟨entry, found, same⟩ :=
    (onCourse.sail happenings).entryBefore?_eq_some idle
  rw [onCourse.strayed_sail rfl keeps,
    (onCourse.sail happenings).settled.entryBefore?_zero] at found
  rw [← same, ← Option.some.inj found]

end Navigator

end LessonSite
