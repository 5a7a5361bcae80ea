import LessonSite.Playground.Basic

/-!
# Who writes the pane

Any number of tasks may be waiting for a timer, a compiler or a runner at once,
and their events come in any order.  A write of the pane is made in the name of
the ticket that owns the pane at that moment, and tickets are only handed out
upwards; so a ticket that has lost the pane never writes it again, and the
ticket shown in the pane never goes back.
-/

namespace LessonSite

namespace PlaygroundEvent

/-- The ticket whose task makes the event happen. -/
def ticket? : PlaygroundEvent → Option Nat
  | .wake ticket => some ticket
  | .compiled ticket _ => some ticket
  | .started ticket _ => some ticket
  | .line ticket _ => some ticket
  | .ended ticket => some ticket
  | _ => none

/-- The event takes a new ticket. -/
def arms : PlaygroundEvent → Bool
  | .edit _ => true
  | .run _ => true
  | .lesson _ => true
  | _ => false

/-- The event takes the pane from the ticket that owns it. -/
def dispossesses : PlaygroundEvent → Bool
  | .close => true
  | event => event.arms

end PlaygroundEvent

namespace Effect

/-- A step leaves the pane alone, or writes it in the name of a ticket that owns
it. -/
structure Writes (before : Playground) (actor : Option Nat)
    (effect : Effect) : Prop where
  kept : effect.written = none → effect.playground.pane = before.pane
  owned : ∀ pane, effect.written = some pane →
    effect.playground.pane = pane ∧ before.owner = some pane.ticket ∧
      actor = some pane.ticket

theorem Writes.of_quiet {before : Playground} {actor : Option Nat}
    {effect : Effect}
    (quiet : effect.written = none)
    (same : effect.playground.pane = before.pane) :
    effect.Writes before actor where
  kept := fun _ => same
  owned := by
    intro pane written
    rw [quiet] at written
    cases written

theorem Writes.of_owner {before : Playground} {ticket : Nat} {effect : Effect}
    (written : effect.written = some effect.playground.pane)
    (named : effect.playground.pane.ticket = ticket)
    (owns : before.owner = some ticket) :
    effect.Writes before (some ticket) where
  kept := by
    intro nothing
    rw [nothing] at written
    cases written
  owned := by
    intro pane equation
    have same : effect.playground.pane = pane :=
      Option.some.inj (written.symm.trans equation)
    subst named
    subst same
    exact ⟨rfl, owns, rfl⟩

end Effect

namespace Playground

variable (playground : Playground)

private theorem writes_updateThen {ticket : Nat} {change : Pane → Pane}
    {next : Playground → Playground} {order : Option Order}
    (changeKeeps : ∀ pane, (change pane).ticket = pane.ticket)
    (nextKeeps : ∀ updated, (next updated).pane = updated.pane) :
    (playground.updateThen ticket change next order).Writes playground
      (some ticket) := by
  unfold updateThen update
  by_cases owns : playground.owner = some ticket
  · simp only [owns, if_true]
    refine Effect.Writes.of_owner ?_ ?_ owns
    · dsimp only
      rw [nextKeeps]
    · dsimp only
      rw [nextKeeps]
      exact changeKeeps _
  · simp only [owns, if_false]
    exact .of_quiet rfl rfl

private theorem writes_fail (ticket : Nat) (diagnostics : List Diagnostic) :
    (playground.fail ticket diagnostics).Writes playground (some ticket) :=
  writes_updateThen playground (fun _ => rfl) (fun _ => rfl)

private theorem writes_compile (task : Task) :
    (playground.compile task).Writes playground (some task.ticket) := by
  unfold compile update
  by_cases owns : playground.owner = some task.ticket
  · simp only [owns, if_true]
    exact .of_owner rfl rfl owns
  · simp only [owns, if_false]
    exact .of_quiet rfl rfl

private theorem writes_take (ticket : Nat)
    (reply : Except WorkerFault CompileResult) :
    (playground.take ticket reply).Writes playground (some ticket) := by
  cases reply with
  | error fault => exact writes_fail playground ticket _
  | ok result =>
      cases result with
      | success artifact =>
          exact writes_updateThen playground (fun _ => rfl) (fun _ => rfl)
      | error diagnostics => exact writes_fail playground ticket _

theorem ticket_taskAt? {ticket : Nat} {atStage : Stage → Bool} {task : Task}
    (found : playground.taskAt? ticket atStage = some task) :
    task.ticket = ticket := by
  have holds := List.find?_some found
  simp only [decide_eq_true_eq] at holds
  exact holds.1

/-- Every write of the pane is made by the ticket that owns it at that
moment. -/
theorem writes_step (event : PlaygroundEvent) :
    (playground.step event).Writes playground event.ticket? := by
  cases event with
  | edit text => exact .of_quiet rfl rfl
  | run debug => exact .of_quiet rfl rfl
  | lesson code => exact .of_quiet rfl rfl
  | theme theme => exact .of_quiet rfl rfl
  | close => exact .of_quiet rfl rfl
  | wake ticket =>
      simp only [step]
      split
      · exact .of_quiet rfl rfl
      · next task found =>
          obtain rfl := playground.ticket_taskAt? found
          exact writes_compile playground task
  | compiled ticket reply =>
      simp only [step]
      split
      · exact .of_quiet rfl rfl
      · exact writes_take playground ticket reply
  | started ticket fault =>
      simp only [step]
      split
      · exact .of_quiet rfl rfl
      · exact .of_quiet rfl rfl
      · exact writes_fail playground ticket _
  | line ticket line =>
      simp only [step]
      split
      · exact .of_quiet rfl rfl
      · exact writes_updateThen playground (fun _ => rfl) (fun _ => rfl)
  | ended ticket =>
      simp only [step]
      split
      · exact .of_quiet rfl rfl
      · exact writes_updateThen playground (fun _ => rfl) (fun _ => rfl)

/-- Who owns the pane, and which ticket comes next. -/
def slot : Option Nat × Nat :=
  (playground.owner, playground.nextTicket)

private theorem slot_updateThen {ticket : Nat} {change : Pane → Pane}
    {next : Playground → Playground} {order : Option Order}
    (nextKeeps : ∀ updated, (next updated).slot = updated.slot) :
    (playground.updateThen ticket change next order).playground.slot =
      playground.slot := by
  unfold updateThen update
  by_cases owns : playground.owner = some ticket
  · simp only [owns, if_true]
    rw [nextKeeps, slot, slot, owns]
  · simp only [owns, if_false]
    rfl

private theorem slot_fail (ticket : Nat) (diagnostics : List Diagnostic) :
    (playground.fail ticket diagnostics).playground.slot = playground.slot :=
  slot_updateThen playground (fun _ => rfl)

private theorem slot_compile (task : Task) :
    (playground.compile task).playground.slot = playground.slot := by
  unfold compile update
  by_cases owns : playground.owner = some task.ticket
  · simp only [owns, if_true, slot, moveOn]
  · simp only [owns, if_false]
    rfl

private theorem slot_take (ticket : Nat)
    (reply : Except WorkerFault CompileResult) :
    (playground.take ticket reply).playground.slot = playground.slot := by
  cases reply with
  | error fault => exact slot_fail playground ticket _
  | ok result =>
      cases result with
      | success artifact => exact slot_updateThen playground (fun _ => rfl)
      | error diagnostics => exact slot_fail playground ticket _

private theorem slot_step_of_ticket {event : PlaygroundEvent} {ticket : Nat}
    (acts : event.ticket? = some ticket) :
    (playground.step event).playground.slot = playground.slot := by
  cases event with
  | edit text => cases acts
  | run debug => cases acts
  | lesson code => cases acts
  | theme theme => cases acts
  | close => cases acts
  | wake ticket =>
      simp only [step]
      split
      · rfl
      · exact slot_compile playground _
  | compiled ticket reply =>
      simp only [step]
      split
      · rfl
      · exact slot_take playground ticket reply
  | started ticket fault =>
      simp only [step]
      split
      · rfl
      · rfl
      · exact slot_fail playground ticket _
  | line ticket line =>
      simp only [step]
      split
      · rfl
      · exact slot_updateThen playground (fun _ => rfl)
  | ended ticket =>
      simp only [step]
      split
      · rfl
      · exact slot_updateThen playground (fun _ => rfl)

/-- A ticket is taken by an edit, a run or a new lesson only; it owns the pane
until the next one is taken or the playground is given up. -/
theorem slot_step (event : PlaygroundEvent) :
    (event.arms = true ∧
        (playground.step event).playground.slot =
          (some playground.nextTicket, playground.nextTicket + 1)) ∨
      (event.arms = false ∧
        ((playground.step event).playground.slot = playground.slot ∨
          (playground.step event).playground.slot =
            (none, playground.nextTicket))) := by
  cases event with
  | edit text => exact .inl ⟨rfl, rfl⟩
  | run debug => exact .inl ⟨rfl, rfl⟩
  | lesson code => exact .inl ⟨rfl, rfl⟩
  | theme theme => exact .inr ⟨rfl, .inl rfl⟩
  | close => exact .inr ⟨rfl, .inr rfl⟩
  | wake ticket => exact .inr ⟨rfl, .inl (playground.slot_step_of_ticket rfl)⟩
  | compiled ticket reply =>
      exact .inr ⟨rfl, .inl (playground.slot_step_of_ticket rfl)⟩
  | started ticket fault =>
      exact .inr ⟨rfl, .inl (playground.slot_step_of_ticket rfl)⟩
  | line ticket line =>
      exact .inr ⟨rfl, .inl (playground.slot_step_of_ticket rfl)⟩
  | ended ticket => exact .inr ⟨rfl, .inl (playground.slot_step_of_ticket rfl)⟩

/-- The pane is owned by a ticket from the bound on or by none, and no older one
will be handed out. -/
structure OwnedSince (bound : Nat) : Prop where
  bound_le : bound ≤ playground.nextTicket
  owner_ge : ∀ ticket, playground.owner = some ticket → bound ≤ ticket

/-- The tickets of the pane and of its owner have been handed out, that of the
pane not after that of the owner. -/
structure TicketsInOrder : Prop where
  pane_lt : playground.pane.ticket < playground.nextTicket
  owner_lt :
    ∀ ticket, playground.owner = some ticket → ticket < playground.nextTicket
  pane_le :
    ∀ ticket, playground.owner = some ticket → playground.pane.ticket ≤ ticket

theorem ticketsInOrder_start (fileName : String) (debounce : Nat)
    (code : String) (theme : Theme) :
    (start fileName debounce code theme).TicketsInOrder where
  pane_lt := Nat.zero_lt_one
  owner_lt := by simp [start]
  pane_le := by simp [start]

variable {playground}

theorem OwnedSince.step {bound : Nat} (since : playground.OwnedSince bound)
    (event : PlaygroundEvent) :
    (playground.step event).playground.OwnedSince bound := by
  have enough := since.bound_le
  rcases playground.slot_step event with ⟨-, slots⟩ | ⟨-, slots | slots⟩ <;>
    obtain ⟨owner, next⟩ := Prod.mk.inj slots
  · refine ⟨by omega, ?_⟩
    intro ticket owns
    cases owner.symm.trans owns
    exact enough
  · refine ⟨by omega, ?_⟩
    intro ticket owns
    exact since.owner_ge ticket (owner.symm.trans owns)
  · refine ⟨by omega, ?_⟩
    intro ticket owns
    cases owner.symm.trans owns

/-- A new ticket, or giving the playground up, takes the pane from all tickets
handed out before. -/
theorem ownedSince_of_dispossesses {event : PlaygroundEvent}
    (dispossesses : event.dispossesses = true) :
    (playground.step event).playground.OwnedSince playground.nextTicket := by
  cases event with
  | edit text => exact ⟨Nat.le_succ _, by simp [step, quietly, exchange, arm]⟩
  | run debug => exact ⟨Nat.le_succ _, by simp [step, quietly, arm]⟩
  | lesson code => exact ⟨Nat.le_succ _, by simp [step, quietly, exchange, arm]⟩
  | close => exact ⟨Nat.le_refl _, by simp [step, quietly]⟩
  | _ => cases dispossesses

/-- A step writes the pane in the name of a ticket from the bound on. -/
theorem OwnedSince.bound_le_written {bound : Nat}
    (since : playground.OwnedSince bound)
    {event : PlaygroundEvent} {pane : Pane}
    (written : (playground.step event).written = some pane) :
    bound ≤ pane.ticket :=
  since.owner_ge _ ((playground.writes_step event).owned pane written).2.1

/-- While the pane is only owned by tickets from the bound on, all that is
written is theirs. -/
theorem OwnedSince.bound_le_watch {bound : Nat}
    (since : playground.OwnedSince bound) (events : List PlaygroundEvent) :
    ∀ pane ∈ (playground.watch events).2, bound ≤ pane.ticket := by
  induction events generalizing playground with
  | nil => simp [watch]
  | cons event events induction =>
      intro pane member
      simp only [watch, List.mem_append, Option.mem_toList] at member
      rcases member with now | later
      · exact since.bound_le_written now
      · exact induction (since.step event) pane later

theorem TicketsInOrder.ownedSince (order : playground.TicketsInOrder) :
    playground.OwnedSince playground.pane.ticket where
  bound_le := Nat.le_of_lt order.pane_lt
  owner_ge := order.pane_le

private theorem ticket_step (event : PlaygroundEvent) :
    (playground.step event).playground.pane.ticket = playground.pane.ticket ∨
      (playground.owner = some (playground.step event).playground.pane.ticket ∧
        (playground.step event).playground.slot = playground.slot) := by
  have writes := playground.writes_step event
  cases written : (playground.step event).written with
  | none => exact .inl (congrArg Pane.ticket (writes.kept written))
  | some pane =>
      obtain ⟨same, owns, acts⟩ := writes.owned pane written
      rw [same]
      exact .inr ⟨owns, playground.slot_step_of_ticket acts⟩

theorem TicketsInOrder.pane_le_step (order : playground.TicketsInOrder)
    (event : PlaygroundEvent) :
    playground.pane.ticket ≤
      (playground.step event).playground.pane.ticket := by
  rcases ticket_step event with same | ⟨owns, -⟩
  · exact Nat.le_of_eq same.symm
  · exact order.pane_le _ owns

theorem TicketsInOrder.step (order : playground.TicketsInOrder)
    (event : PlaygroundEvent) :
    (playground.step event).playground.TicketsInOrder := by
  rcases ticket_step event with same | ⟨owns, slots⟩
  · have since := order.ownedSince.step event
    rw [← same] at since
    have before := order.pane_lt
    rcases playground.slot_step event with ⟨-, slots⟩ | ⟨-, slots | slots⟩ <;>
      obtain ⟨owner, next⟩ := Prod.mk.inj slots
    · refine ⟨by omega, ?_, since.owner_ge⟩
      intro ticket owns
      cases owner.symm.trans owns
      omega
    · refine ⟨by omega, ?_, since.owner_ge⟩
      intro ticket owns
      have earlier := order.owner_lt ticket (owner.symm.trans owns)
      omega
    · refine ⟨by omega, ?_, since.owner_ge⟩
      intro ticket owns
      cases owner.symm.trans owns
  · obtain ⟨owner, next⟩ := Prod.mk.inj slots
    have ownerLt := order.owner_lt _ owns
    have sole :
        ∀ ticket, (playground.step event).playground.owner = some ticket →
          ticket = (playground.step event).playground.pane.ticket := by
      intro ticket owned
      exact Option.some.inj ((owner.symm.trans owned).symm.trans owns)
    refine ⟨by omega, ?_, ?_⟩
    · intro ticket owned
      rw [sole ticket owned]
      omega
    · intro ticket owned
      exact Nat.le_of_eq (sole ticket owned).symm

theorem TicketsInOrder.watch (order : playground.TicketsInOrder)
    (events : List PlaygroundEvent) :
    (playground.watch events).1.TicketsInOrder := by
  induction events generalizing playground with
  | nil => exact order
  | cons event events induction => exact induction (order.step event)

theorem TicketsInOrder.pane_le_watch (order : playground.TicketsInOrder)
    (events : List PlaygroundEvent) :
    playground.pane.ticket ≤ (playground.watch events).1.pane.ticket := by
  induction events generalizing playground with
  | nil => exact Nat.le_refl _
  | cons event events induction =>
      exact Nat.le_trans (order.pane_le_step event)
        (induction (order.step event))

/-- Once nobody owns the pane it is not written until a new ticket is taken. -/
theorem watch_eq_nil_of_unowned (unowned : playground.owner = none)
    {events : List PlaygroundEvent}
    (unarmed : ∀ event ∈ events, event.arms = false) :
    (playground.watch events).2 = [] := by
  induction events generalizing playground with
  | nil => rfl
  | cons event events induction =>
      have silent : (playground.step event).written = none := by
        cases written : (playground.step event).written with
        | none => rfl
        | some pane =>
            have owns := ((playground.writes_step event).owned pane written).2.1
            cases unowned.symm.trans owns
      have stillUnowned : (playground.step event).playground.owner = none := by
        rcases playground.slot_step event with ⟨arms, -⟩ | ⟨-, slots | slots⟩
        · cases (unarmed event List.mem_cons_self).symm.trans arms
        · exact (congrArg Prod.fst slots).trans unowned
        · exact congrArg Prod.fst slots
      have later := induction stillUnowned fun other member =>
        unarmed other (List.mem_cons_of_mem _ member)
      simp only [watch, silent, later, Option.toList_none, List.append_nil]

/-- Whatever has happened before, a pane is only ever written by the task of the
ticket that owns it at that moment.  When a new ticket has been taken or the
playground has been given up, all that is still written comes from tickets that
had not been handed out before, and nothing at all if none is taken any more.
The ticket in the pane never goes back. -/
theorem pane_written_by_owner (fileName : String) (debounce : Nat)
    (code : String) (theme : Theme)
    (before : List PlaygroundEvent) (event : PlaygroundEvent)
    (after : List PlaygroundEvent) :
    let now := ((start fileName debounce code theme).watch before).1
    let effect := now.step event
    let rest := effect.playground.watch after
    (∀ pane, effect.written = some pane →
        effect.playground.pane = pane ∧ now.owner = some pane.ticket ∧
          event.ticket? = some pane.ticket) ∧
      (effect.written = none → effect.playground.pane = now.pane) ∧
      (event.dispossesses = true →
        ∀ pane ∈ rest.2, now.nextTicket ≤ pane.ticket) ∧
      (event = .close → (∀ other ∈ after, other.arms = false) → rest.2 = []) ∧
      now.pane.ticket ≤ effect.playground.pane.ticket ∧
      effect.playground.pane.ticket ≤ rest.1.pane.ticket := by
  intro now effect rest
  have order : now.TicketsInOrder :=
    (ticketsInOrder_start fileName debounce code theme).watch before
  have writes : effect.Writes now event.ticket? := now.writes_step event
  refine ⟨writes.owned, writes.kept, ?_, ?_, order.pane_le_step event,
    (order.step event).pane_le_watch after⟩
  · intro dispossesses
    exact (ownedSince_of_dispossesses dispossesses).bound_le_watch after
  · intro closes unarmed
    have unowned : effect.playground.owner = none := by
      simp only [effect, closes]
      rfl
    exact watch_eq_nil_of_unowned unowned unarmed

end Playground

end LessonSite
