import LessonSite.Playground.Timed
import LessonSite.Proofs.Playground.Requests

/-!
# When programs are compiled

An edit and a new lesson wait for the debounce time, a run does not wait.  While
a ticket waits, its request is what the playground still expects to send: the
alarm of the ticket is the only thing that sends it, and another ticket is the
only thing that makes it forgotten.  Whatever compilers and runners do in the
meantime changes neither.
-/

namespace LessonSite

theorem mem_setAlarm {alarm other : Alarm} {alarms : List Alarm} :
    other ∈ setAlarm alarm alarms ↔ other = alarm ∨ other ∈ alarms := by
  induction alarms with
  | nil => simp [setAlarm]
  | cons first alarms induction =>
      unfold setAlarm
      split
      · rw [List.mem_cons, induction, List.mem_cons, or_left_comm]
      · exact List.mem_cons

theorem pairwise_setAlarm {alarm : Alarm} {alarms : List Alarm}
    (inTurn : alarms.Pairwise (·.time ≤ ·.time)) :
    (setAlarm alarm alarms).Pairwise (·.time ≤ ·.time) := by
  induction alarms with
  | nil => exact List.pairwise_singleton _ _
  | cons first alarms induction =>
      obtain ⟨least, others⟩ := List.pairwise_cons.mp inTurn
      unfold setAlarm
      split
      · next earlier =>
          refine List.pairwise_cons.mpr ⟨?_, induction others⟩
          intro other member
          rcases mem_setAlarm.mp member with rfl | isOld
          · exact earlier
          · exact least other isOld
      · next later =>
          have before : alarm.time ≤ first.time := Nat.le_of_not_le later
          refine List.pairwise_cons.mpr ⟨?_, inTurn⟩
          intro other member
          rcases List.mem_cons.mp member with rfl | isOld
          · exact before
          · exact Nat.le_trans before (least other isOld)

namespace Playground

variable {playground next : Playground} {event : PlaygroundEvent}
  {order : Option Order} {task : Task} {delay : Option Nat}

private theorem ne_of_awaited (inOrder : playground.TasksInOrder)
    (member : task ∈ playground.tasks)
    (armed : task.stage = .armed delay) (unwoken : event ≠ .wake task.ticket)
    (other : Task)
    (isOther : other ∈ playground.tasks)
    (acts : event.ticket? = some other.ticket)
    (awaited : event.awaitedAt other.stage = true) :
    task.ticket ≠ other.ticket := by
  intro same
  obtain rfl := inOrder.sole task member other isOther same
  rw [armed] at awaited
  cases event with
  | wake ticket =>
      exact unwoken (congrArg PlaygroundEvent.wake (Option.some.inj acts))
  | _ => cases awaited

theorem Move.mem_of_armed (move : playground.Move event next order)
    (inOrder : playground.TasksInOrder)
    (stays : event.dispossesses = false) (member : task ∈ playground.tasks)
    (armed : task.stage = .armed delay) (unwoken : event ≠ .wake task.ticket) :
    task ∈ next.tasks := by
  have different := ne_of_awaited inOrder member armed unwoken
  cases move with
  | edited => cases stays
  | asked => cases stays
  | turned => cases stays
  | closed => cases stays
  | themed => exact member
  | missed => exact member
  | printed => exact member
  | lost isOther acts awaited =>
      exact mem_finish.mpr ⟨member, different _ isOther acts awaited⟩
  | begun isOther atStage =>
      exact mem_moveOn.mpr
        ⟨task, member, if_neg (different _ isOther rfl (atStage ▸ rfl))⟩
  | succeeded artifact isOther atStage =>
      exact mem_moveOn.mpr
        ⟨task, member, if_neg (different _ isOther rfl (atStage ▸ rfl))⟩
  | started isOther atStage =>
      exact mem_moveOn.mpr
        ⟨task, member, if_neg (different _ isOther rfl (atStage ▸ rfl))⟩
  | failed isOther fails =>
      exact mem_finish.mpr
        ⟨member, different _ isOther fails.awaited.1 fails.awaited.2⟩
  | ended isOther atStage =>
      exact mem_finish.mpr ⟨member, different _ isOther rfl (atStage ▸ rfl)⟩

theorem Move.debounce (move : playground.Move event next order) :
    next.debounce = playground.debounce := by
  cases move <;> rfl

theorem Fails.ne_wake {ticket : Nat} {stage : Stage}
    {diagnostics : List Diagnostic}
    (fails : Fails ticket event stage diagnostics) (other : Nat) :
    event ≠ .wake other := by
  cases fails <;> exact nofun

/-- The alarm of the ticket that owns the pane has its program compiled. -/
theorem order_wake (inOrder : playground.TasksInOrder)
    (member : task ∈ playground.tasks)
    (owns : playground.owner = some task.ticket)
    (armed : task.stage = .armed delay) :
    (playground.step (.wake task.ticket)).order =
      some (.compile task.ticket (playground.request task.debug)) := by
  have move := playground.move_step (.wake task.ticket)
  generalize (playground.step (.wake task.ticket)).order = order at move
  generalize (playground.step (.wake task.ticket)).playground = next at move
  generalize woken : PlaygroundEvent.wake task.ticket = event at move
  cases move with
  | missed acts unawaited =>
      subst woken
      cases acts
      have idle := unawaited task member rfl
      rw [armed] at idle
      cases idle
  | lost isOther acts awaited unowned =>
      subst woken
      exact absurd (owns.trans acts) unowned
  | begun isOther atStage =>
      obtain rfl :=
        inOrder.sole task member _ isOther (PlaygroundEvent.wake.inj woken)
      rfl
  | failed isOther fails => exact absurd woken.symm (fails.ne_wake _)
  | _ => cases woken

/-- What a playground still expects to send to the compiler, and when. -/
inductive Expects (playground : Playground) (alarms : List Alarm) :
    Option (Nat × CompileRequest) → Prop where
  | nothing
      (unarmed : ∀ task ∈ playground.tasks,
        playground.owner = some task.ticket →
          ∀ delay, task.stage ≠ .armed delay) : Expects playground alarms none
  | request {task : Task} {delay : Option Nat} {due : Nat}
      (member : task ∈ playground.tasks)
      (owns : playground.owner = some task.ticket)
      (armed : task.stage = .armed delay)
      (alarm : ⟨due, task.ticket, .wake⟩ ∈ alarms)
      (sole : ∀ other ∈ alarms,
        other.ticket = task.ticket → other.due = .wake → other.time = due) :
      Expects playground alarms (some (due, playground.request task.debug))

variable {alarms : List Alarm} {alarm : Alarm}
  {expected : Option (Nat × CompileRequest)}

namespace Expects

theorem withAlarm (expects : playground.Expects alarms expected)
    (quiet : alarm.due ≠ .wake) :
    playground.Expects (setAlarm alarm alarms) expected := by
  cases expects with
  | nothing unarmed => exact .nothing unarmed
  | request member owns armed set sole =>
      refine .request member owns armed (mem_setAlarm.mpr (.inr set)) ?_
      intro other isAlarm same wakes
      rcases mem_setAlarm.mp isAlarm with rfl | isOld
      · exact absurd wakes quiet
      · exact sole other isOld same wakes

/-- An alarm may go unless it is the one that sends what is expected. -/
theorem tail (expects : playground.Expects (alarm :: alarms) expected)
    (foreign : expected.isSome → alarm.due = .wake →
      playground.owner ≠ some alarm.ticket) :
    playground.Expects alarms expected := by
  cases expects with
  | nothing unarmed => exact .nothing unarmed
  | request member owns armed set sole =>
      refine .request member owns armed ?_ fun other isAlarm =>
        sole other (List.mem_cons_of_mem _ isAlarm)
      rcases List.mem_cons.mp set with rfl | later
      · exact absurd owns (foreign rfl rfl)
      · exact later

/-- What is expected is due when one of the alarms is. -/
theorem lt_due (expects : playground.Expects alarms expected) {moment : Nat}
    (later : ∀ alarm ∈ alarms, moment < alarm.time) :
    ∀ request ∈ expected, moment < request.1 := by
  rintro _ ⟨⟩
  cases expects with
  | request _ _ _ set => exact later _ set

section Foreign

variable (foreign : expected.isSome →
  ∀ ticket, playground.owner = some ticket → event ≠ .wake ticket)

include foreign

theorem step (expects : playground.Expects alarms expected)
    (inOrder : playground.TasksInOrder)
    (stays : event.dispossesses = false) :
    (playground.step event).playground.Expects alarms expected := by
  have move := playground.move_step event
  have unchanged := move.stays stays
  cases expects with
  | nothing unarmed =>
      refine .nothing ?_
      intro task member owns delay armed
      obtain ⟨old, isOld, ticket, -, waits⟩ := unchanged.tasks task member
      rw [unchanged.owner, ← ticket] at owns
      exact unarmed old isOld owns delay (waits delay armed)
  | @request task delay due member owns armed set sole =>
      have same : playground.request task.debug =
          (playground.step event).playground.request task.debug := by
        rw [Playground.request, Playground.request, move.fileName,
          unchanged.buffer]
      rw [same]
      exact .request
        (move.mem_of_armed inOrder stays member armed
          (foreign rfl task.ticket owns))
        (unchanged.owner.trans owns) armed set sole

theorem request?_step (expects : playground.Expects alarms expected) :
    playground.request? event = none := by
  cases sends : playground.request? event with
  | none => rfl
  | some sent =>
      obtain ⟨wakes, owns, ⟨task, member, same, ⟨delay, armed⟩, -⟩, -⟩ :=
        (playground.move_step event).sends sends
      cases expects with
      | nothing unarmed =>
          exact absurd armed (unarmed task member (same ▸ owns) delay)
      | request => exact absurd wakes (foreign rfl sent.1 owns)

end Foreign

/-- What is expected is sent by the alarm of the owner at its time, and nothing
is expected any more. -/
theorem wake {time due ticket : Nat} {request : CompileRequest}
    (expects : playground.Expects (⟨time, ticket, .wake⟩ :: alarms)
      (some (due, request)))
    (inOrder : playground.TasksInOrder)
    (owns : playground.owner = some ticket) :
    due = time ∧
      (playground.step (.wake ticket)).order = some (.compile ticket request) ∧
        (playground.step (.wake ticket)).playground.Expects alarms none := by
  cases expects with
  | @request task delay due member owned armed set sole =>
      obtain rfl : task.ticket = ticket :=
        Option.some.inj (owned.symm.trans owns)
      have sends := order_wake inOrder member owned armed
      refine ⟨(sole _ List.mem_cons_self rfl rfl).symm, sends, .nothing ?_⟩
      intro other isOther ownsOther delay waits
      have move := playground.move_step (.wake task.ticket)
      rw [sends] at move
      obtain ⟨-, -, -, compiling⟩ := move.sends rfl
      rw [(move.stays rfl).owner, owned] at ownsOther
      cases (compiling other isOther
        (Option.some.inj ownsOther.symm)).symm.trans waits

end Expects

end Playground

namespace TimedPlayground

/-- A playground with the given program and name of its file, which has sent
some requests and expects to send another one; its alarms are set for tickets
that were handed out. -/
structure Stands (fileName : String) (debounce : Nat) (program : String)
    (sent : List (Nat × CompileRequest))
    (expected : Option (Nat × CompileRequest))
    (timed : TimedPlayground) : Prop where
  fileName : timed.playground.fileName = fileName
  debounce : timed.playground.debounce = debounce
  program : timed.playground.buffer = program
  sent : timed.sent = sent
  inOrder : timed.playground.TasksInOrder
  inTurn : timed.alarms.Pairwise (·.time ≤ ·.time)
  known :
    ∀ alarm ∈ timed.alarms,
      alarm.due = .wake → alarm.ticket < timed.playground.nextTicket
  expects : timed.playground.Expects timed.alarms expected

variable {fileName program : String} {debounce : Nat}
  {sent : List (Nat × CompileRequest)}
  {expected : Option (Nat × CompileRequest)} {timed : TimedPlayground}

/-!
What rings is the alarm of a ticket, and it matters only whether a compile comes
of it.
-/

theorem ring_wake_of_compile (timed : TimedPlayground) {now ticket : Nat}
    {request : CompileRequest}
    (sends : (timed.playground.step (.wake ticket)).order =
      some (.compile ticket request)) :
    timed.ring now ticket .wake =
      (timed.apply (.wake ticket)).1.compile now ticket request := by
  have woken :
      (timed.apply (.wake ticket)).2 = some (.compile ticket request) := sends
  rw [ring]
  generalize timed.apply (.wake ticket) = result at woken
  obtain ⟨next, order⟩ := result
  obtain rfl : order = some (.compile ticket request) := woken
  rfl

theorem ring_wake_of_quiet (timed : TimedPlayground) {now ticket : Nat}
    (quiet : timed.playground.request? (.wake ticket) = none) :
    timed.ring now ticket .wake = (timed.apply (.wake ticket)).1 := by
  have woken : (timed.apply (.wake ticket)).2.bind Order.request? = none :=
    quiet
  rw [ring]
  generalize timed.apply (.wake ticket) = result at woken
  obtain ⟨next, order⟩ := result
  cases order with
  | none => rfl
  | some order =>
      cases order with
      | compile => cases woken
      | execute => rfl

namespace Stands

theorem start (fileName : String) (debounce : Nat) (program : String)
    (theme : Theme) (compiles : List CompileScript) (runs : List RunScript) :
    Stands fileName debounce program [] none
      (.start (.start fileName debounce program theme) compiles runs) where
  fileName := rfl
  debounce := rfl
  program := rfl
  sent := rfl
  inOrder := Playground.tasksInOrder_start fileName debounce program theme
  inTurn := List.Pairwise.nil
  known := by
    intro alarm member
    cases member
  expects := by
    refine .nothing ?_
    intro task member
    cases member

theorem withAlarm
    (stands : Stands fileName debounce program sent expected timed)
    {alarm : Alarm} (quiet : alarm.due ≠ .wake) :
    Stands fileName debounce program sent expected
      { timed with alarms := setAlarm alarm timed.alarms } :=
  { stands with
    inTurn := pairwise_setAlarm stands.inTurn
    known := by
      intro other member wakes
      rcases mem_setAlarm.mp member with rfl | isOld
      · exact absurd wakes quiet
      · exact stands.known other isOld wakes
    expects := stands.expects.withAlarm quiet }

theorem apply (stands : Stands fileName debounce program sent expected timed)
    {event : PlaygroundEvent} (stays : event.dispossesses = false)
    (foreign : expected.isSome →
      ∀ ticket, timed.playground.owner = some ticket → event ≠ .wake ticket) :
    Stands fileName debounce program sent expected (timed.apply event).1 := by
  have move := timed.playground.move_step event
  exact
    { fileName := move.fileName.trans stands.fileName
      debounce := move.debounce.trans stands.debounce
      program := (move.stays stays).buffer.trans stands.program
      sent := stands.sent
      inOrder := stands.inOrder.step event
      inTurn := stands.inTurn
      known := by
        intro alarm member wakes
        exact Nat.lt_of_lt_of_le (stands.known alarm member wakes)
          (Playground.nextTicket_le_step timed.playground event)
      expects := stands.expects.step foreign stands.inOrder stays }

/-- What the workers do changes nothing of what is expected. -/
theorem apply_answer
    (stands : Stands fileName debounce program sent expected timed)
    (event : PlaygroundEvent)
    (stays : event.dispossesses = false)
    (answers : ∀ ticket, event ≠ .wake ticket) :
    Stands fileName debounce program sent expected (timed.apply event).1 :=
  stands.apply stays fun _ ticket _ => answers ticket

theorem execute (stands : Stands fileName debounce program sent expected timed)
    (now ticket : Nat) (artifact : String) :
    Stands fileName debounce program sent expected
      (timed.execute now ticket artifact) := by
  have handed :
      Stands fileName debounce program sent expected
        { timed with runs := timed.runs.tail } :=
    { stands with }
  have started := fun fault =>
    handed.apply_answer (.started ticket fault) rfl nofun
  unfold TimedPlayground.execute
  dsimp only
  split
  · exact started _
  · exact (started _).withAlarm nofun

theorem compile (stands : Stands fileName debounce program sent expected timed)
    (now ticket : Nat) (request : CompileRequest) :
    Stands fileName debounce program (sent ++ [(now, request)]) expected
      (timed.compile now ticket request) := by
  have handed :
      Stands fileName debounce program (sent ++ [(now, request)]) expected
        { timed with
          sent := timed.sent ++ [(now, request)],
            compiles := timed.compiles.tail } :=
    { stands with sent := congrArg (· ++ [(now, request)]) stands.sent }
  unfold TimedPlayground.compile
  exact handed.withAlarm nofun

theorem tail {alarm : Alarm} {alarms : List Alarm}
    (stands : Stands fileName debounce program sent expected timed)
    (next : timed.alarms = alarm :: alarms)
    (foreign : expected.isSome → alarm.due = .wake →
      timed.playground.owner ≠ some alarm.ticket) :
    Stands fileName debounce program sent expected { timed with alarms } :=
  { stands with
    inTurn := (List.pairwise_cons.mp (next ▸ stands.inTurn)).2
    known := by
      intro other member
      exact stands.known other (next ▸ List.mem_cons_of_mem _ member)
    expects := Playground.Expects.tail (next ▸ stands.expects) foreign }

theorem ring_wake {alarms : List Alarm} {time ticket due : Nat}
    {request : CompileRequest}
    (stands : Stands fileName debounce program sent (some (due, request)) timed)
    (next : timed.alarms = ⟨time, ticket, .wake⟩ :: alarms)
    (owns : timed.playground.owner = some ticket) :
    due = time ∧
      Stands fileName debounce program (sent ++ [(due, request)]) none
        ({ timed with alarms }.ring time ticket .wake) := by
  obtain ⟨rfl, sends, nothing⟩ :=
    Playground.Expects.wake (next ▸ stands.expects) stands.inOrder owns
  have move := timed.playground.move_step (.wake ticket)
  have woken :
      Stands fileName debounce program sent none
        ({ timed with alarms }.apply (.wake ticket)).1 :=
    { fileName := move.fileName.trans stands.fileName
      debounce := move.debounce.trans stands.debounce
      program := (move.stays rfl).buffer.trans stands.program
      sent := stands.sent
      inOrder := stands.inOrder.step _
      inTurn := (List.pairwise_cons.mp (next ▸ stands.inTurn)).2
      known := by
        intro other member wakes
        exact Nat.lt_of_lt_of_le
          (stands.known other (next ▸ List.mem_cons_of_mem _ member) wakes)
          (Playground.nextTicket_le_step timed.playground _)
      expects := nothing }
  refine ⟨rfl, ?_⟩
  rw [ring_wake_of_compile { timed with alarms } sends]
  exact woken.compile due ticket request

theorem ring_foreign {alarm : Alarm} {alarms : List Alarm}
    (stands : Stands fileName debounce program sent expected timed)
    (next : timed.alarms = alarm :: alarms)
    (foreign : expected.isSome → alarm.due = .wake →
      timed.playground.owner ≠ some alarm.ticket) :
    Stands fileName debounce program sent expected
      ({ timed with alarms }.ring alarm.time alarm.ticket alarm.due) := by
  have rest := stands.tail next foreign
  cases due : alarm.due with
  | wake =>
      have unwoken :
          expected.isSome → ∀ ticket, timed.playground.owner = some ticket →
            PlaygroundEvent.wake alarm.ticket ≠ .wake ticket := by
        rintro some ticket owns ⟨⟩
        exact foreign some due owns
      rw [ring_wake_of_quiet { timed with alarms }
        (stands.expects.request?_step unwoken)]
      exact rest.apply rfl unwoken
  | reply reply =>
      have compiled :=
        rest.apply_answer (.compiled alarm.ticket reply) rfl nofun
      unfold ring
      dsimp only
      split
      · next executes =>
          rw [executes] at compiled
          exact compiled.execute _ _ _
      · next idles =>
          rw [idles] at compiled
          exact compiled
  | output delay lines =>
      cases lines with
      | nil => exact rest.apply_answer (.ended alarm.ticket) rfl nofun
      | cons line lines =>
          have printed := rest.apply_answer (.line alarm.ticket line) rfl nofun
          exact printed.withAlarm nofun

end Stands

private theorem Stands.idle
    (stands : Stands fileName debounce program sent expected timed)
    {moment : Nat} (later : ∀ alarm ∈ timed.alarms, moment < alarm.time) :
    Stands fileName debounce program
      (sent ++ (expected.filter (·.1 ≤ moment)).toList)
      (expected.filter (moment < ·.1)) timed := by
  have due := stands.expects.lt_due later
  cases expected with
  | none => simpa using stands
  | some request =>
      have after : moment < request.1 := due request rfl
      simpa [Option.filter_some, after, Nat.not_le_of_lt after] using stands

/-- As time passes, what is expected is sent when it is due. -/
theorem Stands.advance
    (stands : Stands fileName debounce program sent expected timed)
    (moment : Nat) :
    Stands fileName debounce program
      (sent ++ (expected.filter (·.1 ≤ moment)).toList)
      (expected.filter (moment < ·.1)) (timed.advance moment) := by
  induction timed using advance.induct moment generalizing sent expected with
  | case1 timed none_ =>
      rw [TimedPlayground.advance, none_]
      apply stands.idle
      rw [none_]
      intro alarm member
      cases member
  | case2 timed alarm rest next due induction =>
      rw [TimedPlayground.advance, next]
      simp only [if_pos due]
      by_cases foreign : expected.isSome → alarm.due = .wake →
        timed.playground.owner ≠ some alarm.ticket
      · exact induction (stands.ring_foreign next foreign)
      · simp only [Classical.not_imp, Decidable.not_not] at foreign
        obtain ⟨some, wakes, owns⟩ := foreign
        obtain ⟨request, rfl⟩ := Option.isSome_iff_exists.mp some
        obtain ⟨time, ticket, kind⟩ := alarm
        obtain rfl : kind = .wake := wakes
        obtain ⟨rfl, rung⟩ := stands.ring_wake next owns
        have now : request.1 ≤ moment := due
        simpa [Option.filter_some, now,
          Nat.not_lt_of_le now] using induction rung
  | case3 timed alarm rest next later =>
      rw [TimedPlayground.advance, next]
      simp only [if_neg later]
      apply stands.idle
      have inTurn := next ▸ stands.inTurn
      rw [next]
      intro other member
      rcases List.mem_cons.mp member with rfl | isLater
      · exact Nat.lt_of_not_le later
      · exact Nat.lt_of_lt_of_le (Nat.lt_of_not_le later)
          ((List.pairwise_cons.mp inTurn).1 other isLater)

end TimedPlayground

namespace PlaygroundEvent

/-- How long the ticket that the event takes waits before its program is
compiled. -/
def wait? (debounce : Nat) : PlaygroundEvent → Option Nat
  | .run _ => none
  | _ => some debounce

/-- The event is something that can come from outside at any time: not the alarm
of a ticket, and not that the playground is given up. -/
def isFree : PlaygroundEvent → Bool
  | .wake _ => false
  | .close => false
  | _ => true

end PlaygroundEvent

namespace TimedPlayground

variable {fileName program : String} {debounce : Nat}
  {sent : List (Nat × CompileRequest)}
  {expected : Option (Nat × CompileRequest)} {timed : TimedPlayground}
  {event : PlaygroundEvent}

theorem Stands.fresh_eq_nil
    (stands : Stands fileName debounce program sent expected timed) :
    timed.playground.tasks.filter
      (timed.playground.nextTicket ≤ ·.ticket) = [] := by
  rw [List.filter_eq_nil_iff]
  intro task member
  simpa using stands.inOrder.lt task member

theorem Stands.act_eq_of_arms
    (stands : Stands fileName debounce program sent expected timed)
    (arms : event.arms = true) (now : Nat) :
    timed.act now event =
      { (timed.apply event).1 with
        alarms :=
          setAlarm
            ⟨now + (event.wait? debounce).getD 0, timed.playground.nextTicket,
              .wake⟩
            timed.alarms } := by
  have tasks :
      (timed.apply event).1.playground.tasks = timed.playground.tasks ++
        [⟨timed.playground.nextTicket, event.debugs,
          .armed (event.wait? debounce)⟩] := by
    rw [← stands.debounce]
    cases event with
    | edit => rfl
    | run => rfl
    | lesson => rfl
    | _ => cases arms
  rw [act, tasks, List.filter_append, stands.fresh_eq_nil]
  simp [alarmFor, alarms_apply]

/-- A playground in which a ticket has been taken expects to send the request of
this ticket and no other one. -/
theorem Stands.act_of_arms
    (stands : Stands fileName debounce program sent expected timed)
    (arms : event.arms = true) (now : Nat) :
    Stands fileName debounce (event.program program) sent
      (some (now + (event.wait? debounce).getD 0,
        ⟨[(fileName, event.program program)], event.debugs⟩))
      (timed.act now event) := by
  have takes := timed.playground.takes_step arms
  have move := timed.playground.move_step event
  obtain ⟨delay, tasks⟩ := takes.tasks
  have request : (timed.playground.step event).playground.request event.debugs =
      ⟨[(fileName, event.program program)], event.debugs⟩ := by
    rw [Playground.request, move.fileName, takes.buffer, stands.fileName,
      stands.program]
  rw [stands.act_eq_of_arms arms now, ← request]
  exact
    { fileName := move.fileName.trans stands.fileName
      debounce := move.debounce.trans stands.debounce
      program := takes.buffer.trans (congrArg event.program stands.program)
      sent := stands.sent
      inOrder := stands.inOrder.step event
      inTurn := pairwise_setAlarm stands.inTurn
      known := by
        intro alarm member wakes
        rcases mem_setAlarm.mp member with rfl | isOld
        · exact takes.nextTicket ▸ Nat.lt_succ_self _
        · exact takes.nextTicket ▸
            Nat.lt_succ_of_lt (stands.known alarm isOld wakes)
      expects := by
        have armed : ⟨timed.playground.nextTicket, event.debugs, .armed delay⟩ ∈
            (timed.playground.step event).playground.tasks :=
          tasks ▸ List.mem_append_right _ List.mem_cons_self
        refine .request armed takes.owner rfl (mem_setAlarm.mpr (.inl rfl)) ?_
        intro other member same wakes
        rcases mem_setAlarm.mp member with rfl | isOld
        · rfl
        · exact absurd same (Nat.ne_of_lt (stands.known other isOld wakes)) }

/-- Any other event that comes from outside leaves what is expected as it is. -/
theorem Stands.act_of_unarmed
    (stands : Stands fileName debounce program sent expected timed)
    (free : event.isFree = true) (unarmed : event.arms = false) (now : Nat) :
    Stands fileName debounce program sent expected (timed.act now event) := by
  have stays : event.dispossesses = false := by
    cases event with
    | close => cases free
    | _ => exact unarmed
  have answers : ∀ ticket, event ≠ .wake ticket := by
    rintro ticket rfl
    cases free
  have applied := stands.apply_answer event stays answers
  have none_ : (timed.apply event).1.playground.tasks.filter
      (timed.playground.nextTicket ≤ ·.ticket) = [] := by
    have same :
        (timed.apply event).1.playground.nextTicket =
          timed.playground.nextTicket :=
      ((timed.playground.move_step event).stays stays).nextTicket
    rw [← same]
    exact applied.fresh_eq_nil
  rw [act, none_]
  exact applied

end TimedPlayground

/-- Something that is done to a playground at a moment. -/
structure TimedEvent where
  moment : Nat
  event : PlaygroundEvent

/-- The time when the program of the ticket that is taken is due to be
compiled. -/
def TimedEvent.due (debounce : Nat) (timed : TimedEvent) : Nat :=
  timed.moment + (timed.event.wait? debounce).getD 0

/-- The request for the program that the event leaves when it finds the given
one. -/
def TimedEvent.request (fileName program : String) (timed : TimedEvent) :
    CompileRequest :=
  ⟨[(fileName, timed.event.program program)], timed.event.debugs⟩

/-- No ticket is taken by events up to the moment. -/
def Undisturbed (moment : Nat) (events : List TimedEvent) : Prop :=
  ∀ other ∈ events, other.event.arms = true → moment < other.moment

instance (moment : Nat) (events : List TimedEvent) :
    Decidable (Undisturbed moment events) :=
  inferInstanceAs
    (Decidable
      (∀ other ∈ events, other.event.arms = true → moment < other.moment))

/-- The requests that are due after events, each with its time: those of the
operations whose next one comes later than that, if it comes at all. -/
def dueRequests (fileName : String) (debounce : Nat) (program : String) :
    List TimedEvent → List (Nat × CompileRequest)
  | [] => []
  | timed :: later =>
      let others :=
        dueRequests fileName debounce (timed.event.program program) later
      if timed.event.arms = true ∧ Undisturbed (timed.due debounce) later then
        (timed.due debounce, timed.request fileName program) :: others
      else others

section

variable {next : TimedEvent} {later : List TimedEvent} {due : Nat}

theorem undisturbed_cons_of_arms (arms : next.event.arms = true)
    (inTurn : ∀ other ∈ later, next.moment ≤ other.moment)
    (apart : next.moment ≠ due) :
    Undisturbed due (next :: later) ↔ due ≤ next.moment := by
  constructor
  · intro undisturbed
    exact Nat.le_of_lt (undisturbed next List.mem_cons_self arms)
  · intro past other member _
    have before : due < next.moment := Nat.lt_of_le_of_ne past apart.symm
    rcases List.mem_cons.mp member with rfl | isLater
    · exact before
    · exact Nat.lt_of_lt_of_le before (inTurn other isLater)

theorem undisturbed_cons_of_unarmed (unarmed : next.event.arms = false) :
    Undisturbed due (next :: later) ↔ Undisturbed due later := by
  simp [Undisturbed, unarmed]

/-- What is due before any of the events is not disturbed by them. -/
theorem undisturbed_of_le {moment : Nat} (past : due ≤ moment)
    (inTurn : ∀ other ∈ later, moment ≤ other.moment)
    (apart : ∀ other ∈ later, other.event.arms = true → other.moment ≠ due) :
    Undisturbed due later := by
  intro other member arms
  exact Nat.lt_of_le_of_ne (Nat.le_trans past (inTurn other member))
    (apart other member arms).symm

section Expected

variable {moment : Nat} {expected : Option (Nat × CompileRequest)}

/-- What is expected when a ticket is taken has been sent by then or is never
sent. -/
theorem filter_undisturbed_cons_of_arms (arms : next.event.arms = true)
    (inTurn : ∀ other ∈ later, next.moment ≤ other.moment)
    (past : next.moment ≤ moment)
    (apart : ∀ request ∈ expected, next.moment ≠ request.1) :
    (expected.filter (Undisturbed ·.1 (next :: later))).toList.filter
        (·.1 ≤ moment) =
      (expected.filter (·.1 ≤ next.moment)).toList := by
  cases expected with
  | none => rfl
  | some request =>
      have undisturbed :
          Undisturbed request.1 (next :: later) ↔ request.1 ≤ next.moment :=
        undisturbed_cons_of_arms arms inTurn (apart request rfl)
      by_cases due : request.1 ≤ next.moment
      · simp [Option.filter_some, undisturbed, due, Nat.le_trans due past]
      · simp [Option.filter_some, undisturbed, due]

/-- What is expected at any other event has been sent by then, or it is still
expected. -/
theorem filter_undisturbed_cons_of_unarmed (unarmed : next.event.arms = false)
    (inTurn : ∀ other ∈ later, next.moment ≤ other.moment)
    (past : next.moment ≤ moment)
    (apart : ∀ request ∈ expected,
      ∀ other ∈ later, other.event.arms = true → other.moment ≠ request.1) :
    (expected.filter (Undisturbed ·.1 (next :: later))).toList.filter
        (·.1 ≤ moment) =
      (expected.filter (·.1 ≤ next.moment)).toList ++
        ((expected.filter (next.moment < ·.1)).filter
            (Undisturbed ·.1 later)).toList.filter
          (·.1 ≤ moment) := by
  cases expected with
  | none => rfl
  | some request =>
      by_cases due : request.1 ≤ next.moment
      · have undisturbed : Undisturbed request.1 later :=
          undisturbed_of_le due inTurn (apart request rfl)
        simp [Option.filter_some, undisturbed_cons_of_unarmed unarmed,
          undisturbed, due, Nat.le_trans due past, Nat.not_lt_of_le due]
      · simp [Option.filter_some, undisturbed_cons_of_unarmed unarmed, due,
          Nat.lt_of_not_le due]

end Expected

variable (fileName program : String) (debounce : Nat)

theorem dueRequests_cons_of_arms (arms : next.event.arms = true) :
    dueRequests fileName debounce program (next :: later) =
      ((some (next.due debounce, next.request fileName program)).filter
          (Undisturbed ·.1 later)).toList ++
        dueRequests fileName debounce (next.event.program program) later := by
  by_cases undisturbed : Undisturbed (next.due debounce) later <;>
    simp [dueRequests, arms, undisturbed, Option.filter_some]

theorem dueRequests_cons_of_unarmed (unarmed : next.event.arms = false) :
    dueRequests fileName debounce program (next :: later) =
      dueRequests fileName debounce program later := by
  have same : next.event.program program = program := by
    cases event : next.event with
    | edit => rw [event] at unarmed; cases unarmed
    | lesson => rw [event] at unarmed; cases unarmed
    | _ => rfl
  simp [dueRequests, unarmed, same]

end

namespace TimedPlayground

/-- Lets events happen, each at its moment. -/
def play (timed : TimedPlayground) : List TimedEvent → TimedPlayground
  | [] => timed
  | next :: later =>
      ((timed.advance next.moment).act next.moment next.event).play later

variable {fileName program : String} {debounce : Nat}
  {sent : List (Nat × CompileRequest)}
  {expected : Option (Nat × CompileRequest)} {timed : TimedPlayground}
  {events : List TimedEvent}

/-- What is expected is sent unless it is disturbed, and so is what is due after
the events. -/
theorem Stands.sent_play
    (stands : Stands fileName debounce program sent expected timed)
    (inTurn : events.Pairwise (·.moment ≤ ·.moment))
    (free : ∀ next ∈ events, next.event.isFree = true)
    (apart : events.Pairwise fun earlier later =>
      earlier.event.arms = true → later.event.arms = true →
      later.moment ≠ earlier.due debounce)
    (separate : ∀ request ∈ expected,
      ∀ next ∈ events, next.event.arms = true → next.moment ≠ request.1)
    {moment : Nat} (past : ∀ next ∈ events, next.moment ≤ moment) :
    ((timed.play events).advance moment).sent =
      sent ++ ((expected.filter (Undisturbed ·.1 events)).toList ++
        dueRequests fileName debounce program events).filter
        (·.1 ≤ moment) := by
  induction events generalizing timed sent expected program with
  | nil =>
      rw [play, (stands.advance moment).sent]
      cases expected with
      | none => rfl
      | some request =>
          by_cases due : request.1 ≤ moment <;>
            simp [Option.filter_some, Undisturbed, dueRequests, due]
  | cons next later induction =>
      obtain ⟨first, inTurn⟩ := List.pairwise_cons.mp inTurn
      obtain ⟨firstApart, apart⟩ := List.pairwise_cons.mp apart
      obtain ⟨freeNow, free⟩ := List.forall_mem_cons.mp free
      obtain ⟨pastNow, past⟩ := List.forall_mem_cons.mp past
      have waited := stands.advance next.moment
      cases arms : next.event.arms with
      | true =>
          have acted := waited.act_of_arms arms next.moment
          have alone :
              ∀ request ∈ some
                (next.due debounce, next.request fileName program),
                ∀ other ∈ later,
                  other.event.arms = true → other.moment ≠ request.1 := by
            rintro _ ⟨⟩ other member
            exact firstApart other member arms
          have rest := induction acted inTurn free apart alone past
          have settled :=
            filter_undisturbed_cons_of_arms arms
              first pastNow fun request member =>
              separate request member next List.mem_cons_self arms
          rw [play, rest, dueRequests_cons_of_arms _ _ _ arms,
            List.append_assoc, List.filter_append, List.filter_append,
            List.filter_append, settled]
          rfl
      | false =>
          have acted := waited.act_of_unarmed freeNow arms next.moment
          have alone :
              ∀ request ∈ expected.filter (next.moment < ·.1), ∀ other ∈ later,
                other.event.arms = true → other.moment ≠ request.1 := by
            intro request member other isLater
            exact separate request (Option.mem_filter_iff.mp member).1 other
              (List.mem_cons_of_mem _ isLater)
          have rest := induction acted inTurn free apart alone past
          have settled :=
            filter_undisturbed_cons_of_unarmed arms
              first pastNow fun request member other isLater =>
              separate request member other (List.mem_cons_of_mem _ isLater)
          rw [play, rest, dueRequests_cons_of_unarmed _ _ _ arms,
            List.filter_append, List.filter_append, settled, List.append_assoc,
            List.append_assoc]

/-- Whatever the compilers and runners do, and how long they take for it: the
requests that have been sent at a moment are those of the operations whose next
one comes later than they are due, or does not come at all, each of them sent at
the time when it is due. -/
theorem sent_play_eq_dueRequests (fileName : String) (debounce : Nat)
    (program : String) (theme : Theme)
    (compiles : List CompileScript) (runs : List RunScript)
    (events : List TimedEvent)
    (inTurn : events.Pairwise (·.moment ≤ ·.moment))
    (free : ∀ next ∈ events, next.event.isFree = true)
    (apart : events.Pairwise fun earlier later =>
      earlier.event.arms = true → later.event.arms = true →
      later.moment ≠ earlier.due debounce)
    (moment : Nat) (past : ∀ next ∈ events, next.moment ≤ moment) :
    (((start (.start fileName debounce program theme) compiles runs).play
        events).advance moment).sent =
      (dueRequests fileName debounce program events).filter (·.1 ≤ moment) := by
  have stands := Stands.start fileName debounce program theme compiles runs
  exact stands.sent_play inTurn free apart nofun past

/-- Edits and runs while a slow compiler is at work, and an answer that nobody
has asked for. -/
def overlappingEvents : List TimedEvent :=
  [⟨0, .edit "a"⟩, ⟨30, .run true⟩, ⟨50, .lesson "b"⟩,
    ⟨60, .compiled 2 (.ok (.success "a"))⟩, ⟨149, .edit "c"⟩, ⟨400, .run false⟩,
    ⟨450, .edit "d"⟩]

theorem sent_play_overlappingEvents :
    overlappingEvents.Pairwise (·.moment ≤ ·.moment) ∧
      (((start (.start "main.mbt" 100 "" .light) [⟨500, none⟩] []).play
          overlappingEvents).advance 1000).sent =
        [(30, ⟨[("main.mbt", "a")], true⟩), (249, ⟨[("main.mbt", "c")], false⟩),
          (400, ⟨[("main.mbt", "c")], false⟩),
          (550, ⟨[("main.mbt", "d")], false⟩)] := by
  have inTurn : overlappingEvents.Pairwise (·.moment ≤ ·.moment) := by decide
  have sent :=
    sent_play_eq_dueRequests "main.mbt" 100 "" .light [⟨500, none⟩] []
      overlappingEvents inTurn (by decide) (by decide) 1000 (by decide)
  exact ⟨inTurn, sent.trans (by decide)⟩

end TimedPlayground

end LessonSite
