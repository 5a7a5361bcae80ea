import LessonSite.Proofs.Playground.Moves

/-!
# Requests to the compiler

The buffer is read when the time of a ticket is over, not when the ticket is
taken.  Whoever changes the buffer takes the pane, though, and only the ticket
that owns the pane has its program compiled, so what is compiled is the program
that the ticket was taken for.
-/

namespace LessonSite

/-- A request to the compiler with the ticket for which it is sent. -/
def Order.request? : Order → Option (Nat × CompileRequest)
  | .compile ticket request => some (ticket, request)
  | .execute _ _ => none

namespace Playground

/-- The request that a step sends to the compiler. -/
def request? (playground : Playground) (event : PlaygroundEvent) :
    Option (Nat × CompileRequest) :=
  (playground.step event).order.bind Order.request?

/-- The requests that events send to the compiler. -/
def requests (playground : Playground) :
    List PlaygroundEvent → List (Nat × CompileRequest)
  | [] => []
  | event :: events =>
      (playground.request? event).toList ++
        (playground.step event).playground.requests events

/-- The playground after some events. -/
def after (playground : Playground)
    (events : List PlaygroundEvent) : Playground :=
  (playground.watch events).1

variable {playground next : Playground} {event : PlaygroundEvent}
  {order : Option Order}

theorem after_append (earlier later : List PlaygroundEvent) :
    playground.after (earlier ++ later) =
      (playground.after earlier).after later := by
  induction earlier generalizing playground with
  | nil => rfl
  | cons event earlier induction => exact induction

theorem after_concat (events : List PlaygroundEvent) (event : PlaygroundEvent) :
    playground.after (events ++ [event]) =
      ((playground.after events).step event).playground :=
  after_append events [event]

theorem requests_append (earlier later : List PlaygroundEvent) :
    playground.requests (earlier ++ later) =
      playground.requests earlier ++
        (playground.after earlier).requests later := by
  induction earlier generalizing playground with
  | nil => rfl
  | cons event earlier induction =>
      rw [List.cons_append, requests, requests, induction, List.append_assoc]
      rfl

theorem exists_of_mem_requests {events : List PlaygroundEvent}
    {sent : Nat × CompileRequest} (member : sent ∈ playground.requests events) :
    ∃ earlier event later, events = earlier ++ event :: later ∧
      (playground.after earlier).request? event = some sent := by
  induction events generalizing playground with
  | nil => cases member
  | cons event events induction =>
      rcases List.mem_append.mp member with now | later
      · exact ⟨[], event, events, rfl, Option.mem_toList.mp now⟩
      · obtain ⟨earlier, other, rest, rfl, sends⟩ := induction later
        exact ⟨event :: earlier, other, rest, rfl, sends⟩

theorem Move.fileName (move : playground.Move event next order) :
    next.fileName = playground.fileName := by
  cases move <;> rfl

theorem Move.compilesStarted (move : playground.Move event next order) :
    next.compilesStarted =
      playground.compilesStarted +
        (order.bind Order.request?).toList.length := by
  cases move <;> rfl

/-- A request is sent for a task that owns the pane, with the program in the
buffer; the task does not wait any more. -/
theorem Move.sends {ticket : Nat} {request : CompileRequest}
    (move : playground.Move event next order)
    (sends : order.bind Order.request? = some (ticket, request)) :
    event = .wake ticket ∧ playground.owner = some ticket ∧
      (∃ task ∈ playground.tasks,
        task.ticket = ticket ∧ (∃ delay, task.stage = .armed delay) ∧
          request = playground.request task.debug) ∧
      ∀ task ∈ next.tasks, task.ticket = ticket → task.stage = .compiling := by
  cases move with
  | @begun task delay member atStage owns =>
      cases sends
      refine ⟨rfl, owns, ⟨task, member, rfl, ⟨delay, atStage⟩, rfl⟩, ?_⟩
      intro moved isMoved same
      obtain ⟨old, -, rfl⟩ := List.mem_map.mp isMoved
      split at same
      · next isOld => rw [if_pos isOld]
      · next other => exact absurd same other
  | _ => cases sends

/-- The ticket was handed out, and no task with this ticket waits for its
time. -/
structure IsSpent (playground : Playground) (ticket : Nat) : Prop where
  lt : ticket < playground.nextTicket
  unarmed :
    ∀ task ∈ playground.tasks,
      task.ticket = ticket → ∀ delay, task.stage ≠ .armed delay

theorem IsSpent.step {ticket : Nat} (spent : playground.IsSpent ticket)
    (event : PlaygroundEvent) :
    (playground.step event).playground.IsSpent ticket := by
  have handedOut := spent.lt
  rcases event.arms_or_close_or_stays with arms | rfl | stays
  · have takes := playground.takes_step arms
    constructor
    · rw [takes.nextTicket]
      exact Nat.lt_succ_of_lt handedOut
    · intro task member same
      rcases takes.of_mem member with isOld | ⟨ticket, -⟩
      · exact spent.unarmed task isOld same
      · omega
  · exact ⟨spent.lt, spent.unarmed⟩
  · have unchanged := (playground.move_step event).stays stays
    refine ⟨unchanged.nextTicket ▸ handedOut, ?_⟩
    intro task member same delay armed
    obtain ⟨old, isOld, ticket_eq, -, waits⟩ := unchanged.tasks task member
    exact spent.unarmed old isOld (ticket_eq.trans same) delay
      (waits delay armed)

/-- A ticket that is spent is not sent to the compiler any more. -/
theorem IsSpent.not_mem_requests {ticket : Nat}
    (spent : playground.IsSpent ticket)
    {request : CompileRequest} {events : List PlaygroundEvent} :
    (ticket, request) ∉ playground.requests events := by
  intro member
  induction events generalizing playground with
  | nil => cases member
  | cons event events induction =>
      rcases List.mem_append.mp member with now | later
      · obtain ⟨-, -, ⟨task, isTask, same, ⟨delay, armed⟩, -⟩, -⟩ :=
          (playground.move_step event).sends (Option.mem_toList.mp now)
        exact spent.unarmed task isTask same delay armed
      · exact induction (spent.step event) later

/-- While the pane is only owned by tickets from the bound on, no other ticket
is sent. -/
theorem OwnedSince.bound_le_of_mem_requests {bound : Nat}
    (since : playground.OwnedSince bound)
    {ticket : Nat} {request : CompileRequest} {events : List PlaygroundEvent}
    (member : (ticket, request) ∈ playground.requests events) :
    bound ≤ ticket := by
  induction events generalizing playground with
  | nil => cases member
  | cons event events induction =>
      rcases List.mem_append.mp member with now | later
      · exact since.owner_ge _
          ((playground.move_step event).sends (Option.mem_toList.mp now)).2.1
      · exact induction (since.step event) later

theorem TasksInOrder.nodup_requests (inOrder : playground.TasksInOrder)
    (events : List PlaygroundEvent) :
    ((playground.requests events).map Prod.fst).Nodup := by
  induction events generalizing playground with
  | nil => exact List.nodup_nil
  | cons event events induction =>
      have later := induction (inOrder.step event)
      rw [requests]
      cases sends : playground.request? event with
      | none => exact later
      | some sent =>
          refine List.nodup_cons.mpr ⟨?_, later⟩
          obtain ⟨rfl, -, ⟨task, isTask, same, -⟩, compiling⟩ :=
            (playground.move_step event).sends sends
          have spent :
              (playground.step (.wake sent.1)).playground.IsSpent sent.1 := by
            constructor
            · rw [((playground.move_step _).stays rfl).nextTicket, ← same]
              exact inOrder.lt task isTask
            · intro task isTask same delay armed
              cases (compiling task isTask same).symm.trans armed
          intro again
          obtain ⟨⟨_, request⟩, member, rfl⟩ := List.mem_map.mp again
          exact spent.not_mem_requests member

/-- Among the events one takes the ticket for a program, and the pane has not
been taken from the ticket since. -/
def TakenFor (first : Playground) (events : List PlaygroundEvent) (ticket : Nat)
    (program : String) (debug : Bool) : Prop :=
  ∃ earlier taker later,
    events = earlier ++ taker :: later ∧ taker.arms = true ∧
      (first.after earlier).nextTicket = ticket ∧
      taker.program (first.after earlier).buffer = program ∧
      taker.debugs = debug ∧
        ∀ other ∈ later, other.dispossesses = false

/-- The program in the buffer is the one that the owner of the pane was taken
for. -/
structure Kept (first : Playground) (events : List PlaygroundEvent) : Prop where
  inOrder : (first.after events).TasksInOrder
  owner :
    ∀ task ∈ (first.after events).tasks,
      (first.after events).owner = some task.ticket →
        first.TakenFor events task.ticket (first.after events).buffer task.debug

variable {first : Playground} {done : List PlaygroundEvent}

theorem TakenFor.concat {ticket : Nat} {program : String} {debug : Bool}
    (taken : first.TakenFor done ticket program debug)
    (stays : event.dispossesses = false) :
    first.TakenFor (done ++ [event]) ticket program debug := by
  obtain ⟨earlier, taker, later, rfl, arms, same, buffer, debugs, calm⟩ := taken
  refine ⟨earlier, taker, later ++ [event], by simp, arms, same, buffer, debugs,
    ?_⟩
  intro other member
  rcases List.mem_append.mp member with before | last
  · exact calm other before
  · exact List.mem_singleton.mp last ▸ stays

theorem Kept.concat (kept : Kept first done) (event : PlaygroundEvent) :
    Kept first (done ++ [event]) := by
  have inOrder := kept.inOrder.step event
  rcases event.arms_or_close_or_stays with arms | rfl | stays
  · have takes := (first.after done).takes_step arms
    rw [← after_concat] at inOrder takes
    refine ⟨inOrder, ?_⟩
    intro task member owns
    have ticket := Option.some.inj (takes.owner.symm.trans owns)
    rcases takes.of_mem member with isOld | ⟨-, debug, -⟩
    · have old := kept.inOrder.lt task isOld
      omega
    · exact ⟨done, event, [], rfl, arms, ticket, takes.buffer.symm,
        debug.symm, by simp⟩
  · rw [← after_concat] at inOrder
    refine ⟨inOrder, ?_⟩
    intro task member owns
    rw [after_concat] at owns
    cases owns
  · have unchanged := ((first.after done).move_step event).stays stays
    rw [← after_concat] at inOrder unchanged
    refine ⟨inOrder, ?_⟩
    intro task member owns
    obtain ⟨old, isOld, same, debug, -⟩ := unchanged.tasks task member
    rw [unchanged.owner, ← same] at owns
    rw [unchanged.buffer, ← same, ← debug]
    exact (kept.owner old isOld owns).concat stays

theorem Kept.append (kept : Kept first done) (events : List PlaygroundEvent) :
    Kept first (done ++ events) := by
  induction events generalizing done with
  | nil => rwa [List.append_nil]
  | cons event events induction =>
      have later := induction (kept.concat event)
      rwa [List.append_assoc] at later

theorem kept_start (fileName : String) (debounce : Nat) (code : String)
    (theme : Theme) :
    Kept (start fileName debounce code theme) [] where
  inOrder := tasksInOrder_start fileName debounce code theme
  owner := by
    intro task member
    cases member

theorem nextTicket_le_after (events : List PlaygroundEvent) :
    playground.nextTicket ≤ (playground.after events).nextTicket := by
  induction events generalizing playground with
  | nil => exact Nat.le_refl _
  | cons event events induction =>
      exact Nat.le_trans (playground.nextTicket_le_step event) induction

theorem fileName_after (events : List PlaygroundEvent) :
    (playground.after events).fileName = playground.fileName := by
  induction events generalizing playground with
  | nil => rfl
  | cons event events induction =>
      exact induction.trans (playground.move_step event).fileName

theorem compilesStarted_after (events : List PlaygroundEvent) :
    (playground.after events).compilesStarted =
      playground.compilesStarted + (playground.requests events).length := by
  induction events generalizing playground with
  | nil => rfl
  | cons event events induction =>
      rw [requests, List.length_append, ← Nat.add_assoc]
      exact induction.trans
        (congrArg (· + _) (playground.move_step event).compilesStarted)

/-- Every request holds the program for which its ticket was taken. -/
theorem Kept.exists_taker (kept : Kept first []) {events : List PlaygroundEvent}
    {ticket : Nat}
    {request : CompileRequest}
    (member : (ticket, request) ∈ first.requests events) :
    ∃ earlier taker meanwhile later,
      events = earlier ++ taker :: (meanwhile ++ .wake ticket :: later) ∧
        taker.arms = true ∧ (first.after earlier).nextTicket = ticket ∧
        request =
          ⟨[(first.fileName, taker.program (first.after earlier).buffer)],
            taker.debugs⟩ ∧
        ∀ other ∈ meanwhile, other.dispossesses = false := by
  obtain ⟨before, event, later, rfl, sends⟩ := exists_of_mem_requests member
  obtain ⟨rfl, owns, ⟨task, isTask, rfl, -, same⟩, -⟩ :=
    (move_step _ event).sends sends
  obtain ⟨earlier, taker, meanwhile, rfl, arms, ticket, program, debugs,
      calm⟩ :=
    (kept.append before).owner task isTask owns
  refine ⟨earlier, taker, meanwhile, later, by simp, arms, ticket, ?_, calm⟩
  rw [same, Playground.request, fileName_after, program, debugs]
  rfl

/-- A ticket that has lost the pane before it was sent is not sent at all. -/
theorem not_mem_requests_of_dispossesses
    {earlier meanwhile later : List PlaygroundEvent}
    {taker thief : PlaygroundEvent} (arms : taker.arms = true)
    (dispossesses : thief.dispossesses = true)
    (unsent : (first.after earlier).nextTicket ∉
      (first.requests (earlier ++ taker :: meanwhile)).map Prod.fst) :
    (first.after earlier).nextTicket ∉
      (first.requests (earlier ++ taker :: (meanwhile ++ thief :: later))).map
        Prod.fst := by
  have handedOut : (first.after earlier).nextTicket <
      (first.after (earlier ++ taker :: meanwhile)).nextTicket := by
    rw [after_append]
    refine Nat.lt_of_lt_of_le ?_ (nextTicket_le_after meanwhile)
    rw [(takes_step _ arms).nextTicket]
    exact Nat.lt_succ_self _
  intro sent
  obtain ⟨⟨_, request⟩, member, rfl⟩ := List.mem_map.mp sent
  rw [← List.cons_append, ← List.append_assoc, requests_append] at member
  rcases List.mem_append.mp member with before | member
  · exact unsent (List.mem_map_of_mem before)
  · rcases List.mem_append.mp member with now | after
    · obtain ⟨rfl, -⟩ := (move_step _ thief).sends (Option.mem_toList.mp now)
      cases dispossesses
    · have late :=
        (ownedSince_of_dispossesses dispossesses).bound_le_of_mem_requests after
      omega

/-- Whatever happens, every request that is sent to the compiler holds one file:
the program for which its ticket was taken, compiled in the way that was asked
for then.  It is sent when the time of the ticket is over, and only if no other
ticket has been taken and the playground has not been given up since.  No ticket
is sent twice, none that loses the pane before it is sent is sent at all, and
the number of compiles is the number of requests. -/
theorem requests_of_tickets (fileName : String) (debounce : Nat) (code : String)
    (theme : Theme) (events : List PlaygroundEvent) :
    let first := start fileName debounce code theme
    (∀ ticket request, (ticket, request) ∈ first.requests events →
        ∃ earlier taker meanwhile later,
          events = earlier ++ taker :: (meanwhile ++ .wake ticket :: later) ∧
            taker.arms = true ∧ (first.after earlier).nextTicket = ticket ∧
            request =
              ⟨[(fileName, taker.program (first.after earlier).buffer)],
                taker.debugs⟩ ∧
            ∀ other ∈ meanwhile, other.dispossesses = false) ∧
      ((first.requests events).map Prod.fst).Nodup ∧
      (∀ earlier taker meanwhile thief later,
        events = earlier ++ taker :: (meanwhile ++ thief :: later) →
          taker.arms = true → thief.dispossesses = true →
            (first.after earlier).nextTicket ∉
                (first.requests (earlier ++ taker :: meanwhile)).map Prod.fst →
              (first.after earlier).nextTicket ∉
                (first.requests events).map Prod.fst) ∧
      (first.after events).compilesStarted =
        (first.requests events).length := by
  intro first
  have kept : Kept first [] := kept_start fileName debounce code theme
  refine ⟨?_, kept.inOrder.nodup_requests events, ?_, ?_⟩
  · intro ticket request member
    exact kept.exists_taker member
  · intro earlier taker meanwhile thief later same arms dispossesses unsent
    rw [same]
    exact not_mem_requests_of_dispossesses arms dispossesses unsent
  · exact (compilesStarted_after events).trans (Nat.zero_add _)

example :
    (start "main.mbt" 100 "" .light).requests
        [.edit "a", .edit "b", .wake 1, .wake 2] =
      [(2, ⟨[("main.mbt", "b")], false⟩)] := by
  decide

end Playground

end LessonSite
