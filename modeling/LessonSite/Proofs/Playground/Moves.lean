import LessonSite.Playground.Timed
import LessonSite.Proofs.Playground.Ownership

/-!
# Moves of a playground

A step of a playground is one of a few moves.  Either something is asked from
outside, or the task of a ticket goes on, and then it matters whether the ticket
still owns the pane.
-/

namespace LessonSite

namespace PlaygroundEvent

/-- The program in the buffer after an event. -/
def program (buffer : String) : PlaygroundEvent → String
  | .edit text => text
  | .lesson code => code
  | _ => buffer

/-- The program of the ticket that the event takes is compiled for debugging. -/
def debugs : PlaygroundEvent → Bool
  | .run debug => debug
  | _ => false

/-- A task at the stage waits for the event. -/
def awaitedAt : PlaygroundEvent → Stage → Bool
  | .wake _, .armed _ => true
  | .compiled _ _, .compiling => true
  | .started _ _, .starting => true
  | .line _ _, .streaming => true
  | .ended _, .streaming => true
  | _, _ => false

/-- Every event takes a ticket, gives the playground up or leaves the pane to
its owner. -/
theorem arms_or_close_or_stays (event : PlaygroundEvent) :
    event.arms = true ∨ event = .close ∨ event.dispossesses = false := by
  cases event with
  | edit text => exact .inl rfl
  | run debug => exact .inl rfl
  | lesson code => exact .inl rfl
  | close => exact .inr (.inl rfl)
  | _ => exact .inr (.inr rfl)

end PlaygroundEvent

namespace Playground

/-- The task of a ticket fails at a stage, and the pane shows why. -/
inductive Fails (ticket : Nat) :
    PlaygroundEvent → Stage → List Diagnostic → Prop where
  | refused (diagnostics : List Diagnostic) :
      Fails ticket (.compiled ticket (.ok (.error diagnostics)))
        .compiling diagnostics
  | uncompiled (fault : WorkerFault) :
      Fails ticket (.compiled ticket (.error fault)) .compiling
        [.error fault.message]
  | unstarted (fault : WorkerFault) :
      Fails ticket (.started ticket (some fault)) .starting
        [.error fault.message]

/-- What an event makes of a playground, and what is asked of a worker. -/
inductive Move (playground : Playground) :
    PlaygroundEvent → Playground → Option Order → Prop where
  | edited (text : String) :
      Move playground (.edit text) (playground.exchange text) none
  | asked (debug : Bool) :
      Move playground (.run debug) (playground.arm none debug) none
  | turned (code : String) :
      Move playground (.lesson code) (playground.exchange code) none
  | themed (theme : Theme) :
      Move playground (.theme theme) { playground with theme } none
  | closed : Move playground .close { playground with owner := none } none
  /-- Nothing waits for the event. -/
  | missed {event : PlaygroundEvent} {ticket : Nat}
      (acts : event.ticket? = some ticket)
      (unawaited : ∀ task ∈ playground.tasks, task.ticket = ticket →
        event.awaitedAt task.stage = false) :
      Move playground event playground none
  /-- The task goes on in vain. -/
  | lost {event : PlaygroundEvent} {task : Task}
      (member : task ∈ playground.tasks)
      (acts : event.ticket? = some task.ticket)
      (awaited : event.awaitedAt task.stage = true)
      (unowned : playground.owner ≠ some task.ticket) :
      Move playground event (playground.finish task.ticket) none
  | begun {task : Task} {delay : Option Nat} (member : task ∈ playground.tasks)
      (atStage : task.stage = .armed delay)
      (owns : playground.owner = some task.ticket) :
      Move playground (.wake task.ticket)
        ({ playground with
          compilesStarted := playground.compilesStarted + 1
          pane := ⟨.compiling, playground.pane.lines, task.ticket⟩ }.moveOn
          task.ticket .compiling)
        (some (.compile task.ticket (playground.request task.debug)))
  | succeeded {task : Task} (artifact : String)
      (member : task ∈ playground.tasks)
      (atStage : task.stage = .compiling)
      (owns : playground.owner = some task.ticket) :
      Move playground (.compiled task.ticket (.ok (.success artifact)))
        ({ playground with pane := ⟨.running, [], task.ticket⟩ }.moveOn
          task.ticket .starting)
        (some (.execute task.ticket artifact))
  | failed {event : PlaygroundEvent} {task : Task}
      {diagnostics : List Diagnostic}
      (member : task ∈ playground.tasks)
      (fails : Fails task.ticket event task.stage diagnostics)
      (owns : playground.owner = some task.ticket) :
      Move playground event
        ({ playground with
          pane := ⟨.failed diagnostics, [], task.ticket⟩ }.finish task.ticket)
        none
  /-- The runner starts, for whichever ticket. -/
  | started {task : Task} (member : task ∈ playground.tasks)
      (atStage : task.stage = .starting) :
      Move playground (.started task.ticket none)
        (playground.moveOn task.ticket .streaming) none
  | printed {task : Task} (line : String) (member : task ∈ playground.tasks)
      (atStage : task.stage = .streaming)
      (owns : playground.owner = some task.ticket) :
      Move playground (.line task.ticket line)
        { playground with
          pane :=
            ⟨playground.pane.status, playground.pane.lines ++ [line],
              task.ticket⟩ } none
  | ended {task : Task} (member : task ∈ playground.tasks)
      (atStage : task.stage = .streaming)
      (owns : playground.owner = some task.ticket) :
      Move playground (.ended task.ticket)
        ({ playground with
            pane := ⟨.finished, playground.pane.lines, task.ticket⟩ }.finish
          task.ticket) none

variable {playground : Playground}

theorem of_taskAt? {ticket : Nat} {atStage : Stage → Bool} {task : Task}
    (found : playground.taskAt? ticket atStage = some task) :
    task ∈ playground.tasks ∧ task.ticket = ticket ∧
      atStage task.stage = true := by
  refine ⟨List.mem_of_find?_eq_some found, ?_⟩
  simpa using List.find?_some found

private theorem move_missed {event : PlaygroundEvent} {ticket : Nat}
    {atStage : Stage → Bool}
    (nobody : playground.taskAt? ticket atStage = none)
    (acts : event.ticket? = some ticket)
    (same : ∀ stage, event.awaitedAt stage = atStage stage) :
    playground.Move event playground none := by
  refine .missed acts ?_
  intro task member ticket_eq
  have unfit := List.find?_eq_none.mp nobody task member
  simp only [decide_eq_true_eq, not_and, Bool.not_eq_true] at unfit
  exact (same _).trans (unfit ticket_eq)

section UpdateThen

variable {ticket : Nat} {change : Pane → Pane} {next : Playground → Playground}
  {order : Option Order}

theorem updateThen_of_owns (owns : playground.owner = some ticket) :
    playground.updateThen ticket change next order =
      ⟨next { playground with pane := change { playground.pane with ticket } },
        some (change { playground.pane with ticket }), order⟩ := by
  rw [updateThen, update, if_pos owns]

theorem updateThen_of_unowned (unowned : playground.owner ≠ some ticket) :
    playground.updateThen ticket change next order =
      (playground.finish ticket).quietly := by
  rw [updateThen, update, if_neg unowned]

end UpdateThen

theorem Fails.awaited {ticket : Nat} {event : PlaygroundEvent} {stage : Stage}
    {diagnostics : List Diagnostic}
    (fails : Fails ticket event stage diagnostics) :
    event.ticket? = some ticket ∧ event.awaitedAt stage = true := by
  cases fails with
  | refused => exact ⟨rfl, rfl⟩
  | uncompiled => exact ⟨rfl, rfl⟩
  | unstarted => exact ⟨rfl, rfl⟩

private theorem move_fail {event : PlaygroundEvent} {task : Task}
    {diagnostics : List Diagnostic}
    (member : task ∈ playground.tasks)
    (fails : Fails task.ticket event task.stage diagnostics) :
    playground.Move event (playground.fail task.ticket diagnostics).playground
      (playground.fail task.ticket diagnostics).order := by
  by_cases owns : playground.owner = some task.ticket
  · rw [fail, updateThen_of_owns owns]
    exact .failed member fails owns
  · rw [fail, updateThen_of_unowned owns]
    exact .lost member fails.awaited.1 fails.awaited.2 owns

private theorem move_compile {task : Task} {delay : Option Nat}
    (member : task ∈ playground.tasks) (atStage : task.stage = .armed delay) :
    playground.Move (.wake task.ticket) (playground.compile task).playground
      (playground.compile task).order := by
  by_cases owns : playground.owner = some task.ticket
  · rw [compile, if_pos owns]
    dsimp only [update]
    rw [if_pos owns]
    exact .begun member atStage owns
  · rw [compile, if_neg owns]
    exact .lost member rfl (atStage ▸ rfl) owns

private theorem move_take {task : Task}
    (reply : Except WorkerFault CompileResult)
    (member : task ∈ playground.tasks) (atStage : task.stage = .compiling) :
    playground.Move (.compiled task.ticket reply)
      (playground.take task.ticket reply).playground
      (playground.take task.ticket reply).order := by
  cases reply with
  | error fault => exact move_fail member (atStage ▸ .uncompiled fault)
  | ok result =>
      cases result with
      | error diagnostics =>
          exact move_fail member (atStage ▸ .refused diagnostics)
      | success artifact =>
          by_cases owns : playground.owner = some task.ticket
          · rw [take, updateThen_of_owns owns]
            exact .succeeded artifact member atStage owns
          · rw [take, updateThen_of_unowned owns]
            exact .lost member rfl (atStage ▸ rfl) owns

theorem move_step (playground : Playground) (event : PlaygroundEvent) :
    playground.Move event (playground.step event).playground
      (playground.step event).order := by
  cases event with
  | edit text => exact .edited text
  | run debug => exact .asked debug
  | lesson code => exact .turned code
  | theme theme => exact .themed theme
  | close => exact .closed
  | wake ticket =>
      simp only [step]
      split
      · next nobody =>
          exact move_missed nobody rfl fun stage => by cases stage <;> rfl
      · next task found =>
          obtain ⟨member, rfl, waits⟩ := of_taskAt? found
          split at waits
          · next delay atStage => exact move_compile member atStage
          · cases waits
  | compiled ticket reply =>
      simp only [step]
      split
      · next nobody =>
          exact move_missed nobody rfl fun stage => by cases stage <;> rfl
      · next task found =>
          obtain ⟨member, rfl, waits⟩ := of_taskAt? found
          exact move_take reply member (of_decide_eq_true waits)
  | started ticket fault =>
      simp only [step]
      split
      · next nobody =>
          exact move_missed nobody rfl fun stage => by cases stage <;> rfl
      · next task found =>
          obtain ⟨member, rfl, waits⟩ := of_taskAt? found
          exact .started member (of_decide_eq_true waits)
      · next task fault found =>
          obtain ⟨member, rfl, waits⟩ := of_taskAt? found
          exact move_fail member (of_decide_eq_true waits ▸ .unstarted fault)
  | line ticket line =>
      simp only [step]
      split
      · next nobody =>
          exact move_missed nobody rfl fun stage => by cases stage <;> rfl
      · next task found =>
          obtain ⟨member, rfl, waits⟩ := of_taskAt? found
          by_cases owns : playground.owner = some task.ticket
          · rw [updateThen_of_owns owns]
            exact .printed line member (of_decide_eq_true waits) owns
          · rw [updateThen_of_unowned owns]
            exact .lost member rfl (of_decide_eq_true waits ▸ rfl) owns
  | ended ticket =>
      simp only [step]
      split
      · next nobody =>
          exact move_missed nobody rfl fun stage => by cases stage <;> rfl
      · next task found =>
          obtain ⟨member, rfl, waits⟩ := of_taskAt? found
          by_cases owns : playground.owner = some task.ticket
          · rw [updateThen_of_owns owns]
            exact .ended member (of_decide_eq_true waits) owns
          · rw [updateThen_of_unowned owns]
            exact .lost member rfl (of_decide_eq_true waits ▸ rfl) owns

variable {next : Playground} {event : PlaygroundEvent} {order : Option Order}
  {task : Task}

theorem mem_finish {ticket : Nat} :
    task ∈ (playground.finish ticket).tasks ↔
      task ∈ playground.tasks ∧ task.ticket ≠ ticket := by
  simp [finish]

theorem mem_moveOn {ticket : Nat} {stage : Stage} :
    task ∈ (playground.moveOn ticket stage).tasks ↔
      ∃ old ∈ playground.tasks,
        (if old.ticket = ticket then { old with stage } else old) = task := by
  simp [moveOn]

/-- A task that has been moved on, or another one that stands where it stood. -/
theorem of_mem_moveOn {ticket : Nat} {stage : Stage}
    (member : task ∈ (playground.moveOn ticket stage).tasks) :
    (task.ticket = ticket ∧ task.stage = stage) ∨
      (task ∈ playground.tasks ∧ task.ticket ≠ ticket) := by
  obtain ⟨old, isOld, rfl⟩ := mem_moveOn.mp member
  by_cases same : old.ticket = ticket
  · rw [if_pos same]
    exact .inl ⟨same, rfl⟩
  · rw [if_neg same]
    exact .inr ⟨isOld, same⟩

/-- Tasks that come from others, though they may have moved on. -/
def TasksFrom (before after : List Task) : Prop :=
  ∀ task ∈ after,
    ∃ old ∈ before, old.ticket = task.ticket ∧ old.debug = task.debug ∧
      ∀ delay, task.stage = .armed delay → old.stage = .armed delay

theorem tasksFrom_refl (tasks : List Task) : TasksFrom tasks tasks :=
  fun task member => ⟨task, member, rfl, rfl, fun _ => id⟩

theorem tasksFrom_finish (playground : Playground) (ticket : Nat) :
    TasksFrom playground.tasks (playground.finish ticket).tasks :=
  fun task member => ⟨task, (mem_finish.mp member).1, rfl, rfl, fun _ => id⟩

theorem tasksFrom_moveOn (playground : Playground) {ticket : Nat}
    {stage : Stage} (goesOn : ∀ delay, stage ≠ .armed delay) :
    TasksFrom playground.tasks (playground.moveOn ticket stage).tasks := by
  intro task member
  obtain ⟨old, isOld, rfl⟩ := mem_moveOn.mp member
  refine ⟨old, isOld, ?_⟩
  split
  · refine ⟨rfl, rfl, ?_⟩
    intro delay armed
    exact absurd armed (goesOn delay)
  · exact ⟨rfl, rfl, fun _ => id⟩

/-- As long as the pane is not taken from its owner, the program in the buffer
is the same. -/
structure Stays (before after : Playground) : Prop where
  owner : after.owner = before.owner
  nextTicket : after.nextTicket = before.nextTicket
  buffer : after.buffer = before.buffer
  tasks : TasksFrom before.tasks after.tasks

theorem Move.stays (move : playground.Move event next order)
    (stays : event.dispossesses = false) :
    Stays playground next := by
  cases move with
  | edited => cases stays
  | asked => cases stays
  | turned => cases stays
  | closed => cases stays
  | themed => exact ⟨rfl, rfl, rfl, tasksFrom_refl _⟩
  | missed => exact ⟨rfl, rfl, rfl, tasksFrom_refl _⟩
  | lost => exact ⟨rfl, rfl, rfl, tasksFrom_finish _ _⟩
  | begun => exact ⟨rfl, rfl, rfl, tasksFrom_moveOn playground (by simp)⟩
  | succeeded => exact ⟨rfl, rfl, rfl, tasksFrom_moveOn playground (by simp)⟩
  | failed => exact ⟨rfl, rfl, rfl, tasksFrom_finish playground _⟩
  | started => exact ⟨rfl, rfl, rfl, tasksFrom_moveOn _ (by simp)⟩
  | printed => exact ⟨rfl, rfl, rfl, tasksFrom_refl _⟩
  | ended => exact ⟨rfl, rfl, rfl, tasksFrom_finish playground _⟩

/-- A ticket has been taken for the program in the buffer. -/
structure Takes (before : Playground) (event : PlaygroundEvent)
    (after : Playground) : Prop where
  owner : after.owner = some before.nextTicket
  nextTicket : after.nextTicket = before.nextTicket + 1
  buffer : after.buffer = event.program before.buffer
  pane : after.pane = before.pane
  tasks :
    ∃ delay,
      after.tasks =
        before.tasks ++ [⟨before.nextTicket, event.debugs, .armed delay⟩]

theorem takes_step (playground : Playground) (arms : event.arms = true) :
    Takes playground event (playground.step event).playground := by
  cases event with
  | edit text => exact ⟨rfl, rfl, rfl, rfl, _, rfl⟩
  | run debug => exact ⟨rfl, rfl, rfl, rfl, _, rfl⟩
  | lesson code => exact ⟨rfl, rfl, rfl, rfl, _, rfl⟩
  | _ => cases arms

theorem nextTicket_le_step (playground : Playground) (event : PlaygroundEvent) :
    playground.nextTicket ≤ (playground.step event).playground.nextTicket := by
  rcases event.arms_or_close_or_stays with arms | rfl | stays
  · rw [(playground.takes_step arms).nextTicket]
    exact Nat.le_succ _
  · exact Nat.le_refl _
  · exact Nat.le_of_eq
      ((playground.move_step event).stays stays).nextTicket.symm

/-- A task of a playground in which a ticket has been taken. -/
theorem Takes.of_mem {after : Playground} (takes : Takes playground event after)
    (member : task ∈ after.tasks) :
    task ∈ playground.tasks ∨
      (task.ticket = playground.nextTicket ∧ task.debug = event.debugs ∧
        ∃ delay, task.stage = .armed delay) := by
  obtain ⟨delay, tasks⟩ := takes.tasks
  rw [tasks, List.mem_append, List.mem_singleton] at member
  rcases member with isOld | rfl
  · exact .inl isOld
  · exact .inr ⟨rfl, rfl, delay, rfl⟩

/-- The tasks have tickets that were handed out, each its own. -/
structure TasksInOrder (playground : Playground) : Prop where
  lt : ∀ task ∈ playground.tasks, task.ticket < playground.nextTicket
  sole :
    ∀ task ∈ playground.tasks,
      ∀ other ∈ playground.tasks, task.ticket = other.ticket → task = other

theorem tasksInOrder_start (fileName : String) (debounce : Nat) (code : String)
    (theme : Theme) :
    (start fileName debounce code theme).TasksInOrder where
  lt := by
    intro task member
    cases member
  sole := by
    intro task member
    cases member

theorem TasksInOrder.finish (inOrder : playground.TasksInOrder) (ticket : Nat) :
    (playground.finish ticket).TasksInOrder where
  lt := by
    intro task member
    exact inOrder.lt task (mem_finish.mp member).1
  sole := by
    intro task member other isOther
    exact inOrder.sole task (mem_finish.mp member).1 other
      (mem_finish.mp isOther).1

theorem TasksInOrder.moveOn (inOrder : playground.TasksInOrder) (ticket : Nat)
    (stage : Stage) :
    (playground.moveOn ticket stage).TasksInOrder where
  lt := by
    intro task member
    obtain ⟨old, isOld, rfl⟩ := mem_moveOn.mp member
    have handedOut := inOrder.lt old isOld
    split
    · exact handedOut
    · exact handedOut
  sole := by
    intro task member other isOther same
    obtain ⟨old, isOld, rfl⟩ := mem_moveOn.mp member
    obtain ⟨oldOther, isOldOther, rfl⟩ := mem_moveOn.mp isOther
    have sameTicket : old.ticket = oldOther.ticket := by
      split at same
      · split at same
        · exact same
        · exact same
      · split at same
        · exact same
        · exact same
    rw [inOrder.sole old isOld oldOther isOldOther sameTicket]

theorem TasksInOrder.takes {after : Playground}
    (inOrder : playground.TasksInOrder)
    (takes : Takes playground event after) : after.TasksInOrder where
  lt := by
    intro task member
    rw [takes.nextTicket]
    rcases takes.of_mem member with isOld | ⟨ticket, -⟩
    · exact Nat.lt_succ_of_lt (inOrder.lt task isOld)
    · exact ticket ▸ Nat.lt_succ_self _
  sole := by
    intro task member other isOther same
    obtain ⟨delay, tasks⟩ := takes.tasks
    rw [tasks, List.mem_append, List.mem_singleton] at member isOther
    rcases member with isOld | rfl
    · rcases isOther with isOldOther | rfl
      · exact inOrder.sole task isOld other isOldOther same
      · exact absurd same (Nat.ne_of_lt (inOrder.lt task isOld))
    · rcases isOther with isOldOther | rfl
      · exact absurd same.symm (Nat.ne_of_lt (inOrder.lt other isOldOther))
      · rfl

theorem TasksInOrder.step (inOrder : playground.TasksInOrder)
    (event : PlaygroundEvent) :
    (playground.step event).playground.TasksInOrder := by
  have move := playground.move_step event
  generalize (playground.step event).order = order at move
  rcases event.arms_or_close_or_stays with arms | rfl | stays
  · exact inOrder.takes (playground.takes_step arms)
  · exact ⟨inOrder.lt, inOrder.sole⟩
  · generalize (playground.step event).playground = next at move
    have same : ∀ {other : Playground}, other.tasks = playground.tasks →
        other.nextTicket = playground.nextTicket → other.TasksInOrder := by
      intro other tasks nextTicket
      exact ⟨tasks ▸ nextTicket ▸ inOrder.lt, tasks ▸ inOrder.sole⟩
    cases move with
    | edited => cases stays
    | asked => cases stays
    | turned => cases stays
    | closed => cases stays
    | themed => exact same rfl rfl
    | missed => exact inOrder
    | lost => exact inOrder.finish _
    | begun =>
        apply TasksInOrder.moveOn
        exact same rfl rfl
    | succeeded =>
        apply TasksInOrder.moveOn
        exact same rfl rfl
    | failed =>
        apply TasksInOrder.finish
        exact same rfl rfl
    | started => exact inOrder.moveOn _ _
    | printed => exact same rfl rfl
    | ended =>
        apply TasksInOrder.finish
        exact same rfl rfl

end Playground

theorem Playground.Move.theme {playground next : Playground}
    {event : PlaygroundEvent}
    {order : Option Order} (move : playground.Move event next order)
    (other : ∀ theme, event ≠ .theme theme) :
    next.theme = playground.theme := by
  cases move with
  | themed theme => exact absurd rfl (other theme)
  | _ => rfl

namespace TimedPlayground

theorem theme_apply (timed : TimedPlayground) {event : PlaygroundEvent}
    (other : ∀ theme, event ≠ .theme theme) :
    (timed.apply event).1.playground.theme = timed.playground.theme :=
  (timed.playground.move_step event).theme other

theorem theme_execute (timed : TimedPlayground) (now ticket : Nat)
    (artifact : String) :
    (timed.execute now ticket artifact).playground.theme =
      timed.playground.theme := by
  unfold execute
  dsimp only
  split <;> exact theme_apply _ nofun

theorem theme_ring (timed : TimedPlayground) (now ticket : Nat) (due : Due) :
    (timed.ring now ticket due).playground.theme = timed.playground.theme := by
  cases due with
  | wake =>
      have kept : (timed.apply (.wake ticket)).1.playground.theme = _ :=
        theme_apply timed nofun
      unfold ring
      dsimp only
      split <;> next same => rw [same] at kept; exact kept
  | reply reply =>
      have kept :
          (timed.apply (.compiled ticket reply)).1.playground.theme = _ :=
        theme_apply timed nofun
      unfold ring
      dsimp only
      split
      · next same =>
          rw [same] at kept
          exact (theme_execute _ _ _ _).trans kept
      · next same =>
          rw [same] at kept
          exact kept
  | output delay lines =>
      cases lines with
      | nil => exact theme_apply _ nofun
      | cons line lines => exact theme_apply timed nofun

theorem theme_advance (timed : TimedPlayground) (moment : Nat) :
    (timed.advance moment).playground.theme = timed.playground.theme := by
  induction timed using advance.induct moment with
  | case1 timed alarms => rw [advance, alarms]
  | case2 timed alarm rest alarms due induction =>
      rw [advance, alarms]
      simp only [if_pos due]
      exact induction.trans (theme_ring _ _ _ _)
  | case3 timed alarm rest alarms later =>
      rw [advance, alarms]
      simp only [if_neg later]

theorem theme_act (timed : TimedPlayground) (now : Nat)
    {event : PlaygroundEvent} (other : ∀ theme, event ≠ .theme theme) :
    (timed.act now event).playground.theme = timed.playground.theme :=
  theme_apply timed other

end TimedPlayground

end LessonSite
