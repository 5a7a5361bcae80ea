import LessonSite.Proofs.Playground.Moves

/-!
# Playgrounds with their workers

For each ticket the compiler answers at most once, and the runner writes lines
that wait until the task of the ticket takes them, in the order in which they
were written.  When the runner has closed its output and no line waits any more,
the task learns that the output has ended.
-/

namespace LessonSite

/-- What the workers have done for a ticket. -/
structure Service where
  /-- What the compiler has answered. -/
  reply : Option (Except WorkerFault CompileResult)
  /-- The artifact that the runner was given. -/
  artifact : Option String
  /-- Why the runner could not start. -/
  fault : Option WorkerFault
  /-- The lines that the task has taken. -/
  taken : List String
  /-- The lines that the runner has written since. -/
  waiting : List String
  /-- The runner writes no more. -/
  closed : Bool

namespace Service

/-- Nothing has been done for the ticket. -/
def idle : Service :=
  ⟨none, none, none, [], [], false⟩

/-- The lines that the runner has written. -/
def produced (service : Service) : List String :=
  service.taken ++ service.waiting

/-- The runner writes a line, if it has been given an artifact and has not
closed its output. -/
def write (service : Service) (line : String) : Service :=
  if service.artifact.isSome ∧ service.closed = false then
    { service with waiting := service.waiting ++ [line] }
  else service

/-- The runner closes its output, if it has been given an artifact. -/
def close (service : Service) : Service :=
  if service.artifact.isSome then { service with closed := true } else service

/-- What a step of the task shows of its workers, and what it asks of them. -/
def note (service : Service) (event : PlaygroundEvent)
    (order : Option Order) : Service :=
  match event, order with
  | .compiled _ reply, some (.execute _ artifact) =>
      { service with reply := some reply, artifact := some artifact }
  | .compiled _ reply, _ => { service with reply := some reply }
  | .started _ fault, _ => { service with fault }
  | .line _ line, _ =>
      { service with
        taken := service.taken ++ [line], waiting := service.waiting.tail }
  | _, _ => service

end Service

/-- A playground and what its workers have done for each ticket. -/
structure Bench where
  playground : Playground
  services : Nat → Service

/-- Something that happens to a playground or in a runner. -/
inductive BenchEvent where
  | happens (event : PlaygroundEvent)
  | writes (ticket : Nat) (line : String)
  | closes (ticket : Nat)

/-- A task waits for the event, if it is one of a task. -/
def Playground.awaits (playground : Playground)
    (event : PlaygroundEvent) : Bool :=
  match event.ticket? with
  | none => true
  | some ticket =>
      playground.tasks.any fun task =>
        task.ticket = ticket && event.awaitedAt task.stage

namespace Bench

/-- A playground for which nothing has been done. -/
def start (playground : Playground) : Bench :=
  ⟨playground, fun _ => .idle⟩

/-- The event can happen now: lines are taken in turn, and an output ends after
its last line. -/
def admits (bench : Bench) : PlaygroundEvent → Bool
  | .line ticket line => (bench.services ticket).waiting.head? = some line
  | .ended ticket =>
      (bench.services ticket).closed && (bench.services ticket).waiting.isEmpty
  | _ => true

/-- Changes what was done for a ticket. -/
def serve (bench : Bench) (ticket : Nat) (change : Service → Service) : Bench :=
  { bench with
    services := fun other =>
      if other = ticket then
        change (bench.services ticket)
      else bench.services other }

/-- Lets an event change the playground, and notes what it shows of the
workers. -/
def follow (bench : Bench) (event : PlaygroundEvent) (next : Playground)
    (order : Option Order) :
    Bench :=
  let moved : Bench := { bench with playground := next }
  match event.ticket? with
  | some ticket => moved.serve ticket (·.note event order)
  | none => moved

/-- Lets something happen, if it is awaited and can happen now. -/
def step (bench : Bench) : BenchEvent → Bench
  | .happens event =>
      if bench.playground.awaits event && bench.admits event then
        let effect := bench.playground.step event
        bench.follow event effect.playground effect.order
      else bench
  | .writes ticket line => bench.serve ticket (·.write line)
  | .closes ticket => bench.serve ticket (·.close)

/-- Lets events happen one after the other. -/
def run (bench : Bench) (events : List BenchEvent) : Bench :=
  events.foldl step bench

end Bench

namespace Playground

variable {playground : Playground} {event : PlaygroundEvent}

theorem exists_of_awaits {ticket : Nat}
    (awaits : playground.awaits event = true)
    (acts : event.ticket? = some ticket) :
    ∃ task ∈ playground.tasks,
      task.ticket = ticket ∧ event.awaitedAt task.stage = true := by
  rw [Playground.awaits, acts] at awaits
  obtain ⟨task, member, fits⟩ := List.any_eq_true.mp awaits
  simp only [Bool.and_eq_true, decide_eq_true_eq] at fits
  exact ⟨task, member, fits⟩

/-- Nothing is lost when an event is left out that no task waits for. -/
theorem step_eq_quietly (unawaited : playground.awaits event = false) :
    playground.step event = playground.quietly := by
  have nobody :
      ∀ {actor : Nat} {atStage : Stage → Bool}, event.ticket? = some actor →
        (∀ stage, atStage stage = event.awaitedAt stage) →
        playground.taskAt? actor atStage = none := by
    intro actor atStage acts same
    rw [awaits, acts] at unawaited
    refine List.find?_eq_none.mpr fun task member fits => ?_
    have unfit := List.any_eq_false.mp unawaited task member
    rw [← same] at unfit
    exact unfit (by simpa using fits)
  cases event with
  | wake actor =>
      simp only [step]
      rw [nobody rfl fun stage => by cases stage <;> rfl]
  | compiled actor reply =>
      simp only [step]
      rw [nobody rfl fun stage => by cases stage <;> rfl]
  | started actor fault =>
      simp only [step]
      rw [nobody rfl fun stage => by cases stage <;> rfl]
  | line actor line =>
      simp only [step]
      rw [nobody rfl fun stage => by cases stage <;> rfl]
  | ended actor =>
      simp only [step]
      rw [nobody rfl fun stage => by cases stage <;> rfl]
  | _ => cases unawaited

end Playground

/-- The compiler has made an artifact, and the runner was given it. -/
def Service.HasArtifact (service : Service) : Prop :=
  ∃ artifact,
    service.reply = some (.ok (.success artifact)) ∧
      service.artifact = some artifact

/-- The compiler has returned the diagnostics, or they come from the fault of a
worker. -/
def Service.Explains (service : Service)
    (diagnostics : List Diagnostic) : Prop :=
  service.reply = some (.ok (.error diagnostics)) ∨
    ∃ fault : WorkerFault, diagnostics = [.error fault.message] ∧
      (service.reply = some (.error fault) ∨ service.fault = some fault)

/-- The pane shows what the workers have done for its ticket. -/
def Pane.IsTrue (pane : Pane) (service : Service) : Prop :=
  match pane.status with
  | .running => pane.lines <+: service.produced ∧ service.HasArtifact
  | .finished =>
      pane.lines = service.produced ∧ service.closed = true ∧
        service.HasArtifact
  | .failed diagnostics => pane.lines = [] ∧ service.Explains diagnostics
  | _ => True

/-- The program in the pane has come to its end. -/
def PaneStatus.IsFinal : PaneStatus → Prop
  | .finished => True
  | .failed _ => True
  | _ => False

/-- What has been done for a task at a stage. -/
def Stage.IsServed (service : Service) : Stage → Prop
  | .armed _ => service = .idle
  | .compiling => service = .idle
  | .starting => service.taken = [] ∧ service.HasArtifact
  | .streaming => service.HasArtifact

/-- How the pane shows a task at a stage, if it shows the ticket of the task. -/
def Stage.IsShown (status : PaneStatus) : Stage → Prop
  | .armed _ => False
  | .compiling => status = .compiling
  | .starting => status = .running
  | .streaming => status = .running

/-- Tickets are handed out upwards, and nothing has been done for those that
were not. -/
structure Bench.InOrder (bench : Bench) : Prop where
  tickets : bench.playground.TicketsInOrder
  tasks : bench.playground.TasksInOrder
  fresh :
    ∀ ticket,
      bench.playground.nextTicket ≤ ticket → bench.services ticket = .idle

/-- The pane, the tasks and the workers agree with each other. -/
structure Bench.IsSound (bench : Bench) : Prop where
  served :
    ∀ task ∈ bench.playground.tasks,
      task.stage.IsServed (bench.services task.ticket)
  shown :
    ∀ task ∈ bench.playground.tasks,
      task.ticket = bench.playground.pane.ticket →
        task.stage.IsShown bench.playground.pane.status
  begun :
    ∀ task ∈ bench.playground.tasks, bench.playground.owner = some task.ticket →
      (∃ delay, task.stage = .armed delay) ∨
        bench.playground.pane.ticket = task.ticket
  ended : ∀ ticket, bench.playground.owner = some ticket →
    (∀ task ∈ bench.playground.tasks, task.ticket ≠ ticket) →
      bench.playground.pane.ticket = ticket ∧
        bench.playground.pane.status.IsFinal
  /-- The owner of the pane shows all that it has taken. -/
  whole : bench.playground.owner = some bench.playground.pane.ticket →
    bench.playground.pane.status = .running →
      bench.playground.pane.lines =
        (bench.services bench.playground.pane.ticket).taken
  isTrue :
    bench.playground.pane.IsTrue (bench.services bench.playground.pane.ticket)

/-- More has been written, or the output has been closed. -/
structure Service.Grows (before after : Service) : Prop where
  idle : before = .idle → after = .idle
  reply : after.reply = before.reply
  artifact : after.artifact = before.artifact
  fault : after.fault = before.fault
  taken : after.taken = before.taken
  produced : before.produced <+: after.produced
  closed :
    before.closed = true →
    after.closed = true ∧ after.produced = before.produced

namespace Service

theorem grows_refl (service : Service) : service.Grows service :=
  ⟨id, rfl, rfl, rfl, rfl, List.prefix_refl _, fun closed => ⟨closed, rfl⟩⟩

theorem grows_write (service : Service) (line : String) :
    service.Grows (service.write line) := by
  unfold write
  split
  · next possible =>
      refine ⟨?_, rfl, rfl, rfl, rfl, ?_, ?_⟩
      · rintro rfl
        cases possible.1
      · rw [produced, produced, ← List.append_assoc]
        exact List.prefix_append _ _
      · intro closed
        cases closed.symm.trans possible.2
  · exact service.grows_refl

theorem grows_close (service : Service) : service.Grows service.close := by
  unfold close
  split
  · next given =>
      refine ⟨?_, rfl, rfl, rfl, rfl, List.prefix_refl _, fun _ => ⟨rfl, rfl⟩⟩
      rintro rfl
      cases given
  · exact service.grows_refl

variable {before after : Service}

theorem Grows.hasArtifact (grows : before.Grows after)
    (has : before.HasArtifact) :
    after.HasArtifact := by
  obtain ⟨artifact, reply, given⟩ := has
  exact ⟨artifact, grows.reply.trans reply, grows.artifact.trans given⟩

theorem Grows.explains (grows : before.Grows after)
    {diagnostics : List Diagnostic}
    (explains : before.Explains diagnostics) : after.Explains diagnostics := by
  unfold Explains
  rwa [grows.reply, grows.fault]

theorem Grows.isServed (grows : before.Grows after) {stage : Stage}
    (served : stage.IsServed before) :
    stage.IsServed after := by
  cases stage with
  | armed => exact grows.idle served
  | compiling => exact grows.idle served
  | starting => exact ⟨grows.taken.trans served.1, grows.hasArtifact served.2⟩
  | streaming => exact grows.hasArtifact served

theorem Grows.isTrue (grows : before.Grows after) {pane : Pane}
    (isTrue : pane.IsTrue before) :
    pane.IsTrue after := by
  unfold Pane.IsTrue at isTrue ⊢
  split
  · next running =>
      rw [running] at isTrue
      exact ⟨isTrue.1.trans grows.produced, grows.hasArtifact isTrue.2⟩
  · next finished =>
      rw [finished] at isTrue
      obtain ⟨closed, same⟩ := grows.closed isTrue.2.1
      exact ⟨isTrue.1.trans same.symm, closed, grows.hasArtifact isTrue.2.2⟩
  · next failed =>
      rw [failed] at isTrue
      exact ⟨isTrue.1, grows.explains isTrue.2⟩
  · trivial

end Service

theorem Service.produced_note_line {service : Service} {ticket : Nat}
    {line : String}
    {order : Option Order} (head : service.waiting.head? = some line) :
    (service.note (.line ticket line) order).produced = service.produced := by
  obtain ⟨rest, waiting⟩ := List.head?_eq_some_iff.mp head
  change (service.taken ++ [line]) ++ service.waiting.tail =
    service.taken ++ service.waiting
  rw [waiting, List.append_assoc]
  rfl

theorem Playground.Fails.explains {ticket : Nat} {event : PlaygroundEvent}
    {stage : Stage}
    {diagnostics : List Diagnostic}
    (fails : Fails ticket event stage diagnostics) (service : Service) :
    (service.note event none).Explains diagnostics := by
  cases fails with
  | refused => exact .inl rfl
  | uncompiled fault => exact .inr ⟨fault, rfl, .inl rfl⟩
  | unstarted fault => exact .inr ⟨fault, rfl, .inr rfl⟩

namespace Bench

variable {bench : Bench}

@[simp] theorem services_serve_self (ticket : Nat)
    (change : Service → Service) :
    (bench.serve ticket change).services ticket =
      change (bench.services ticket) :=
  if_pos rfl

theorem services_serve_of_ne {ticket other : Nat} (different : other ≠ ticket)
    (change : Service → Service) :
    (bench.serve ticket change).services other = bench.services other :=
  if_neg different

theorem grows_serve {ticket : Nat} {change : Service → Service}
    (grows : ∀ service : Service, service.Grows (change service))
    (other : Nat) :
    (bench.services other).Grows
      ((bench.serve ticket change).services other) := by
  by_cases same : other = ticket
  · subst same
    rw [services_serve_self]
    exact grows _
  · rw [services_serve_of_ne same]
    exact Service.grows_refl _

theorem InOrder.serve (inOrder : bench.InOrder) {ticket : Nat}
    {change : Service → Service}
    (grows : ∀ service : Service, service.Grows (change service)) :
    (bench.serve ticket change).InOrder where
  tickets := inOrder.tickets
  tasks := inOrder.tasks
  fresh := by
    intro other unused
    exact (grows_serve grows other).idle (inOrder.fresh other unused)

/-- What happens in a runner does not reach the playground at once. -/
theorem IsSound.serve (sound : bench.IsSound) {ticket : Nat}
    {change : Service → Service}
    (grows : ∀ service : Service, service.Grows (change service)) :
    (bench.serve ticket change).IsSound where
  served := by
    intro task member
    exact (grows_serve grows _).isServed (sound.served task member)
  shown := sound.shown
  begun := sound.begun
  ended := sound.ended
  whole := by
    intro owns running
    exact (sound.whole owns running).trans (grows_serve grows _).taken.symm
  isTrue := (grows_serve grows _).isTrue sound.isTrue

end Bench

end LessonSite
