import LessonSite.Playground.Basic
import LessonSite.Text.Parts

/-!
# Playgrounds in time

A playground together with alarms: each tells when the next event of a ticket is
due.  The workers follow scripts that say what they answer and how long they
take.
-/

namespace LessonSite

/-- How a compiler answers one request. -/
structure CompileScript where
  delay : Nat
  /-- Without a reply the artifact is the program itself. -/
  reply : Option (Except WorkerFault CompileResult)
  deriving Inhabited

/-- How a runner treats one artifact. -/
structure RunScript where
  fault : Option WorkerFault
  /-- The time before each line. -/
  lineDelay : Nat
  deriving Inhabited

/-- What is due for a ticket. -/
inductive Due where
  | wake
  | reply (reply : Except WorkerFault CompileResult)
  | output (delay : Nat) (lines : List String)

/-- Something due for a ticket at a time. -/
structure Alarm where
  time : Nat
  ticket : Nat
  due : Due

/-- A playground with what is due, and the scripts of its workers. -/
structure TimedPlayground where
  playground : Playground
  /-- What is due, the earliest first. -/
  alarms : List Alarm
  compiles : List CompileScript
  runs : List RunScript
  /-- The requests that have been sent, each with its time. -/
  sent : List (Nat × CompileRequest)

/-- Sets an alarm after those due earlier or at the same time. -/
def setAlarm (alarm : Alarm) : List Alarm → List Alarm
  | [] => [alarm]
  | first :: alarms =>
      if first.time ≤ alarm.time then
        first :: setAlarm alarm alarms
      else alarm :: first :: alarms

namespace Due

/-- The compiles that may still be asked for. -/
def wakes : Due → Nat
  | .wake => 1
  | _ => 0

/-- The compiles that are still to be answered. -/
def replies : Due → Nat
  | .reply _ => 1
  | _ => 0

/-- The times at which a line or the end of the output is still to come. -/
def outputs : Due → Nat
  | .output _ lines => lines.length + 1
  | _ => 0

end Due

/-- A count over everything that is due. -/
def countDue (count : Due → Nat) (alarms : List Alarm) : Nat :=
  alarms.foldr (fun alarm total => count alarm.due + total) 0

theorem countDue_setAlarm (count : Due → Nat) (alarm : Alarm)
    (alarms : List Alarm) :
    countDue count (setAlarm alarm alarms) =
      count alarm.due + countDue count alarms := by
  induction alarms with
  | nil => simp [setAlarm, countDue]
  | cons first alarms hypothesis =>
      unfold setAlarm
      split
      · simp only [countDue, List.foldr_cons] at hypothesis ⊢
        omega
      · simp [countDue]

namespace TimedPlayground

/-- A playground in which nothing is due. -/
def start (playground : Playground) (compiles : List CompileScript)
    (runs : List RunScript) :
    TimedPlayground :=
  ⟨playground, [], compiles, runs, []⟩

def apply (timed : TimedPlayground) (event : PlaygroundEvent) :
    TimedPlayground × Option Order :=
  let effect := timed.playground.step event
  ({ timed with playground := effect.playground }, effect.order)

/-- The alarm for a task that has just been armed. -/
def alarmFor (now : Nat) (task : Task) : Option Alarm :=
  match task.stage with
  | .armed delay => some ⟨now + delay.getD 0, task.ticket, .wake⟩
  | _ => none

/-- Lets something be done to the playground from outside, and sets the alarm of
the ticket it takes. -/
def act (timed : TimedPlayground) (now : Nat) (event : PlaygroundEvent) :
    TimedPlayground :=
  let before := timed.playground.nextTicket
  let timed := (timed.apply event).1
  let fresh := timed.playground.tasks.filter fun task => before ≤ task.ticket
  { timed with
    alarms :=
      (fresh.filterMap (alarmFor now)).foldl
        (fun alarms alarm => setAlarm alarm alarms) timed.alarms }

/-- Hands a request to the compiler. -/
def compile (timed : TimedPlayground) (now ticket : Nat)
    (request : CompileRequest) :
    TimedPlayground :=
  let script := timed.compiles.head?.getD ⟨0, none⟩
  let source := (request.files.head?.map Prod.snd).getD ""
  { timed with
    sent := timed.sent ++ [(now, request)]
    compiles := timed.compiles.tail
    alarms := setAlarm
      ⟨now + script.delay, ticket,
        .reply (script.reply.getD (.ok (.success source)))⟩
      timed.alarms }

/-- Hands an artifact to the runner. -/
def execute (timed : TimedPlayground) (now ticket : Nat) (artifact : String) :
    TimedPlayground :=
  let script := timed.runs.head?.getD ⟨none, 0⟩
  let timed :=
    ({ timed with runs := timed.runs.tail }.apply (.started ticket
      script.fault)).1
  match script.fault with
  | some _ => timed
  | none =>
      let lines := Text.lines artifact
      let first := if lines.isEmpty then now else now + script.lineDelay
      { timed with
        alarms :=
          setAlarm ⟨first, ticket, .output script.lineDelay lines⟩
            timed.alarms }

def ring (timed : TimedPlayground) (now ticket : Nat) : Due → TimedPlayground
  | .wake =>
      match timed.apply (.wake ticket) with
      | (timed, some (.compile ticket request)) =>
          timed.compile now ticket request
      | (timed, _) => timed
  | .reply reply =>
      match timed.apply (.compiled ticket reply) with
      | (timed, some (.execute ticket artifact)) =>
          timed.execute now ticket artifact
      | (timed, _) => timed
  | .output _ [] => (timed.apply (.ended ticket)).1
  | .output delay (line :: lines) =>
      let timed := (timed.apply (.line ticket line)).1
      let next := if lines.isEmpty then now else now + delay
      { timed with
        alarms := setAlarm ⟨next, ticket, .output delay lines⟩ timed.alarms }

/-- A bound on what is still to be done. -/
def rank (timed : TimedPlayground) : Nat × Nat × Nat :=
  (countDue Due.wakes timed.alarms, countDue Due.replies timed.alarms,
    countDue Due.outputs timed.alarms)

theorem alarms_apply (timed : TimedPlayground) (event : PlaygroundEvent) :
    (timed.apply event).1.alarms = timed.alarms := rfl

theorem countDue_cons (count : Due → Nat) (alarm : Alarm)
    (alarms : List Alarm) :
    countDue count (alarm :: alarms) =
      count alarm.due + countDue count alarms := by
  simp [countDue]

theorem wakes_execute (timed : TimedPlayground) (now ticket : Nat)
    (artifact : String) :
    countDue Due.wakes (timed.execute now ticket artifact).alarms =
        countDue Due.wakes timed.alarms ∧
      countDue Due.replies (timed.execute now ticket artifact).alarms =
        countDue Due.replies timed.alarms := by
  unfold execute
  dsimp only
  split <;> simp [alarms_apply, countDue_setAlarm, Due.wakes, Due.replies]

/-- Doing what is due makes what is still to be done less. -/
theorem rank_ring (timed : TimedPlayground) (now ticket : Nat) (due : Due) :
    Prod.Lex (· < ·) (Prod.Lex (· < ·) (· < ·)) (timed.ring now ticket due).rank
      (due.wakes + countDue Due.wakes timed.alarms,
        due.replies + countDue Due.replies timed.alarms,
        due.outputs + countDue Due.outputs timed.alarms) := by
  cases due with
  | wake =>
      apply Prod.Lex.left
      unfold ring
      dsimp only
      split
      · next changed other request equation =>
          have same := alarms_apply timed (.wake ticket)
          rw [equation] at same
          simp_all [compile, countDue_setAlarm, Due.wakes]
      · next changed order _ equation =>
          have same := alarms_apply timed (.wake ticket)
          simp_all [Due.wakes]
  | reply reply =>
      unfold ring
      dsimp only
      split
      · next changed other artifact equation =>
          have same := alarms_apply timed (.compiled ticket reply)
          have counts := wakes_execute changed now other artifact
          simp only [equation] at same
          simp only [rank, counts, same, Due.wakes, Due.replies, Nat.zero_add]
          exact Prod.Lex.right _ (Prod.Lex.left _ _ (by omega))
      · next changed order _ equation =>
          have same := alarms_apply timed (.compiled ticket reply)
          simp only [equation] at same
          simp only [rank, same, Due.wakes, Due.replies, Nat.zero_add]
          exact Prod.Lex.right _ (Prod.Lex.left _ _ (by omega))
  | output delay lines =>
      cases lines with
      | nil =>
          simp only [ring, rank, alarms_apply, Due.wakes, Due.replies,
            Due.outputs, Nat.zero_add]
          exact Prod.Lex.right _ (Prod.Lex.right _ (by simp))
      | cons line lines =>
          simp only [ring, rank, alarms_apply, countDue_setAlarm, Due.wakes,
            Due.replies, Due.outputs, Nat.zero_add]
          exact Prod.Lex.right _ (Prod.Lex.right _ (by simp))

/-- Lets time pass up to a moment. -/
def advance (timed : TimedPlayground) (moment : Nat) : TimedPlayground :=
  match _equation : timed.alarms with
  | [] => timed
  | alarm :: alarms =>
      if alarm.time ≤ moment then
        ({ timed with alarms }.ring alarm.time alarm.ticket alarm.due).advance
          moment
      else timed
termination_by timed.rank
decreasing_by
  have smaller :=
    rank_ring { timed with alarms } alarm.time alarm.ticket alarm.due
  simpa [rank, _equation, countDue_cons] using smaller

end TimedPlayground

end LessonSite
