import LessonSite.Proofs.Playground.Bench

/-!
# What the pane tells

The pane, the tasks and what the workers have done agree with each other in
every state that a playground comes to.  So the pane tells the truth about its
ticket, and no ticket is lost on the way.
-/

namespace LessonSite

namespace Bench

variable {bench : Bench}

section Follow

variable {event : PlaygroundEvent} {next : Playground} {order : Option Order}

theorem follow_of_ticket {ticket : Nat} (acts : event.ticket? = some ticket) :
    bench.follow event next order =
      ({ bench with playground := next } : Bench).serve ticket
        (·.note event order) := by
  rw [follow, acts]

theorem follow_of_asked (asked : event.ticket? = none) :
    bench.follow event next order = { bench with playground := next } := by
  rw [follow, asked]

@[simp] theorem playground_follow :
    (bench.follow event next order).playground = next := by
  unfold follow
  split <;> rfl

theorem services_follow_self {ticket : Nat}
    (acts : event.ticket? = some ticket) :
    (bench.follow event next order).services ticket =
      (bench.services ticket).note event order := by
  rw [follow_of_ticket acts, services_serve_self]

theorem services_follow_of_ne {ticket other : Nat}
    (acts : event.ticket? = some ticket) (different : other ≠ ticket) :
    (bench.follow event next order).services other = bench.services other := by
  rw [follow_of_ticket acts, services_serve_of_ne different]

theorem InOrder.follow (inOrder : bench.InOrder)
    (awaits : bench.playground.awaits event = true) :
    (bench.follow event (bench.playground.step event).playground
      order).InOrder where
  tickets := by
    rw [playground_follow]
    exact inOrder.tickets.step event
  tasks := by
    rw [playground_follow]
    exact inOrder.tasks.step event
  fresh := by
    intro ticket unused
    rw [playground_follow] at unused
    have handedOut :=
      Nat.le_trans (bench.playground.nextTicket_le_step event) unused
    have fresh := inOrder.fresh ticket handedOut
    cases acts : event.ticket? with
    | none =>
        rw [follow_of_asked acts]
        exact fresh
    | some actor =>
        obtain ⟨task, member, rfl, -⟩ := Playground.exists_of_awaits awaits acts
        have lt := inOrder.tasks.lt task member
        rw [services_follow_of_ne acts (by omega)]
        exact fresh

theorem IsSound.takes (sound : bench.IsSound) (inOrder : bench.InOrder)
    (takes : Playground.Takes bench.playground event next) :
    ({ bench with playground := next } : Bench).IsSound where
  served := by
    intro task member
    rcases takes.of_mem member with isOld | ⟨ticket, -, delay, armed⟩
    · exact sound.served task isOld
    · rw [armed, ticket]
      exact inOrder.fresh _ (Nat.le_refl _)
  shown := by
    intro task member
    rw [takes.pane]
    rcases takes.of_mem member with isOld | ⟨ticket, -⟩
    · exact sound.shown task isOld
    · intro same
      exact absurd (ticket.symm.trans same).symm
        (Nat.ne_of_lt inOrder.tickets.pane_lt)
  begun := by
    intro task member owns
    rcases takes.of_mem member with isOld | ⟨-, -, armed⟩
    · have lt := inOrder.tasks.lt task isOld
      exact absurd (Option.some.inj (takes.owner.symm.trans owns)).symm
        (Nat.ne_of_lt lt)
    · exact .inl armed
  ended := by
    intro ticket owns none_
    cases takes.owner.symm.trans owns
    obtain ⟨delay, tasks⟩ := takes.tasks
    refine absurd rfl
      (none_ ⟨bench.playground.nextTicket, event.debugs, .armed delay⟩ ?_)
    rw [tasks]
    exact List.mem_append_right _ List.mem_cons_self
  whole := by
    intro owns
    have ticket := Option.some.inj (takes.owner.symm.trans owns)
    rw [takes.pane] at ticket
    exact absurd ticket.symm (Nat.ne_of_lt inOrder.tickets.pane_lt)
  isTrue := by
    dsimp only
    rw [takes.pane]
    exact sound.isTrue

variable {task : Task}

theorem IsSound.served_of_ne (sound : bench.IsSound)
    (acts : event.ticket? = some task.ticket)
    {other : Task} (member : other ∈ bench.playground.tasks)
    (different : other.ticket ≠ task.ticket) :
    other.stage.IsServed
      ((bench.follow event next order).services other.ticket) := by
  rw [services_follow_of_ne acts different]
  exact sound.served other member

/-- What a task learns of its workers does not make the pane false that shows
its ticket. -/
theorem isTrue_note {pane : Pane} (acts : event.ticket? = some task.ticket)
    (awaited : event.awaitedAt task.stage = true)
    (admits : bench.admits event = true)
    (shown : task.stage.IsShown pane.status)
    (isTrue : pane.IsTrue (bench.services task.ticket)) :
    pane.IsTrue ((bench.services task.ticket).note event order) := by
  unfold Pane.IsTrue at isTrue ⊢
  cases atStage : task.stage with
  | armed =>
      rw [atStage] at shown
      cases shown
  | compiling =>
      rw [atStage] at shown
      rw [show pane.status = .compiling from shown]
      trivial
  | starting =>
      rw [atStage] at shown awaited
      rw [show pane.status = .running from shown] at isTrue ⊢
      cases event with
      | started => exact isTrue
      | _ => cases awaited
  | streaming =>
      rw [atStage] at shown awaited
      rw [show pane.status = .running from shown] at isTrue ⊢
      cases event with
      | line ticket line =>
          cases acts
          refine ⟨?_, isTrue.2⟩
          rw [Service.produced_note_line (of_decide_eq_true admits)]
          exact isTrue.1
      | ended => exact isTrue
      | _ => cases awaited

theorem IsSound.isTrue_follow (sound : bench.IsSound)
    (member : task ∈ bench.playground.tasks)
    (acts : event.ticket? = some task.ticket)
    (awaited : event.awaitedAt task.stage = true)
    (admits : bench.admits event = true) :
    bench.playground.pane.IsTrue
      ((bench.follow event next order).services
        bench.playground.pane.ticket) := by
  have isTrue := sound.isTrue
  by_cases isActor : bench.playground.pane.ticket = task.ticket
  · have shown := sound.shown task member isActor.symm
    rw [isActor] at isTrue ⊢
    rw [services_follow_self acts]
    exact isTrue_note acts awaited admits shown isTrue
  · rw [services_follow_of_ne acts isActor]
    exact isTrue

/-- A task that has begun for the owner of the pane is shown in the pane. -/
theorem IsSound.pane_of_owner (sound : bench.IsSound)
    (member : task ∈ bench.playground.tasks)
    (owns : bench.playground.owner = some task.ticket)
    (begun : ∀ delay, task.stage ≠ .armed delay) :
    bench.playground.pane.ticket = task.ticket ∧
      task.stage.IsShown bench.playground.pane.status := by
  rcases sound.begun task member owns with ⟨delay, armed⟩ | shows
  · exact absurd armed (begun delay)
  · exact ⟨shows, sound.shown task member shows.symm⟩

/-- The pane of an owner that streams shows all lines that were taken. -/
theorem IsSound.streaming (sound : bench.IsSound)
    (member : task ∈ bench.playground.tasks)
    (atStage : task.stage = .streaming)
    (owns : bench.playground.owner = some task.ticket) :
    bench.playground.pane.ticket = task.ticket ∧
      bench.playground.pane.status = .running ∧
        bench.playground.pane.lines = (bench.services task.ticket).taken ∧
        (bench.services task.ticket).HasArtifact := by
  obtain ⟨named, shown⟩ := sound.pane_of_owner member owns (by simp [atStage])
  have has := sound.served task member
  have whole := sound.whole
  rw [atStage] at shown has
  rw [named] at whole
  exact ⟨named, shown, whole owns shown, has⟩

/-- A ticket that does not own the pane may go on with what is not shown any
more. -/
theorem IsSound.lost (sound : bench.IsSound)
    (member : task ∈ bench.playground.tasks)
    (acts : event.ticket? = some task.ticket)
    (awaited : event.awaitedAt task.stage = true)
    (unowned : bench.playground.owner ≠ some task.ticket)
    (admits : bench.admits event = true) :
    (bench.follow event (bench.playground.finish task.ticket)
      order).IsSound where
  served := by
    intro other isOther
    rw [playground_follow, Playground.mem_finish] at isOther
    exact sound.served_of_ne acts isOther.1 isOther.2
  shown := by
    intro other isOther
    rw [playground_follow] at isOther ⊢
    exact sound.shown other (Playground.mem_finish.mp isOther).1
  begun := by
    intro other isOther
    rw [playground_follow] at isOther ⊢
    exact sound.begun other (Playground.mem_finish.mp isOther).1
  ended := by
    intro ticket owns none_
    rw [playground_follow] at owns none_ ⊢
    refine sound.ended ticket owns fun other isOther same => ?_
    refine none_ other (Playground.mem_finish.mpr ⟨isOther, ?_⟩) same
    rintro isActor
    exact unowned (owns.trans (congrArg some (same.symm.trans isActor)))
  whole := by
    rw [playground_follow]
    intro owns running
    rw [services_follow_of_ne acts fun isActor =>
      unowned (owns.trans (congrArg some isActor))]
    exact sound.whole owns running
  isTrue := by
    rw [playground_follow]
    exact sound.isTrue_follow member acts awaited admits

/-- The task of the owner moves on, and the pane shows it. -/
theorem IsSound.advances (sound : bench.IsSound)
    (member : task ∈ bench.playground.tasks)
    (acts : event.ticket? = some task.ticket)
    (owns : bench.playground.owner = some task.ticket)
    {stage : Stage} {pane : Pane} {count : Nat}
    (named : pane.ticket = task.ticket) (shown : stage.IsShown pane.status)
    (served : stage.IsServed ((bench.services task.ticket).note event order))
    (whole : pane.status = .running →
      pane.lines = ((bench.services task.ticket).note event order).taken)
    (isTrue : pane.IsTrue ((bench.services task.ticket).note event order)) :
    (bench.follow event
      ({ bench.playground with compilesStarted := count, pane }.moveOn
        task.ticket stage)
      order).IsSound where
  served := by
    intro other isOther
    rw [playground_follow] at isOther
    rcases Playground.of_mem_moveOn isOther with
      ⟨same, atStage⟩ | ⟨isOld, different⟩
    · rw [atStage, same, services_follow_self acts]
      exact served
    · exact sound.served_of_ne acts isOld different
  shown := by
    intro other isOther same
    rw [playground_follow] at isOther same ⊢
    rcases Playground.of_mem_moveOn isOther with ⟨-, atStage⟩ | ⟨-, different⟩
    · rw [atStage]
      exact shown
    · exact absurd (same.trans named) different
  begun := by
    intro other isOther owned
    rw [playground_follow] at owned ⊢
    exact .inr (named.trans (Option.some.inj (owns.symm.trans owned)))
  ended := by
    intro ticket owned none_
    rw [playground_follow] at owned none_
    cases owns.symm.trans owned
    exact absurd rfl
      (none_ { task with stage }
        (Playground.mem_moveOn.mpr ⟨task, member, if_pos rfl⟩))
  whole := by
    intro _ running
    rw [playground_follow] at running ⊢
    change pane.lines = ((bench.follow _ _ _).services pane.ticket).taken
    rw [named, services_follow_self acts]
    exact whole running
  isTrue := by
    rw [playground_follow]
    change pane.IsTrue ((bench.follow _ _ _).services pane.ticket)
    rw [named, services_follow_self acts]
    exact isTrue

/-- The task of the owner ends, and the pane shows how. -/
theorem IsSound.ends (sound : bench.IsSound)
    (acts : event.ticket? = some task.ticket)
    (owns : bench.playground.owner = some task.ticket) {pane : Pane}
    (named : pane.ticket = task.ticket) (isFinal : pane.status.IsFinal)
    (isTrue : pane.IsTrue ((bench.services task.ticket).note event order)) :
    (bench.follow event ({ bench.playground with pane }.finish task.ticket)
      order).IsSound where
  served := by
    intro other isOther
    rw [playground_follow] at isOther
    obtain ⟨isOld, different⟩ := Playground.mem_finish.mp isOther
    exact sound.served_of_ne acts isOld different
  shown := by
    intro other isOther same
    rw [playground_follow] at isOther same
    exact absurd (same.trans named) (Playground.mem_finish.mp isOther).2
  begun := by
    intro other isOther owned
    rw [playground_follow] at isOther owned
    exact absurd (Option.some.inj (owned.symm.trans owns))
      (Playground.mem_finish.mp isOther).2
  ended := by
    intro ticket owned _
    rw [playground_follow] at owned ⊢
    exact ⟨named.trans (Option.some.inj (owns.symm.trans owned)), isFinal⟩
  whole := by
    intro _ running
    rw [playground_follow] at running
    change pane.status = .running at running
    rw [running] at isFinal
    cases isFinal
  isTrue := by
    rw [playground_follow]
    change pane.IsTrue ((bench.follow _ _ _).services pane.ticket)
    rw [named, services_follow_self acts]
    exact isTrue

/-- The runner has started for a ticket, whether or not the ticket owns the
pane. -/
theorem IsSound.starts (sound : bench.IsSound)
    (member : task ∈ bench.playground.tasks)
    (atStage : task.stage = .starting) :
    (bench.follow (.started task.ticket none)
      (bench.playground.moveOn task.ticket .streaming) order).IsSound where
  served := by
    intro other isOther
    rw [playground_follow] at isOther
    rcases Playground.of_mem_moveOn isOther with
      ⟨same, stage⟩ | ⟨isOld, different⟩
    · have served := sound.served task member
      rw [atStage] at served
      rw [stage, same, services_follow_self rfl]
      exact served.2
    · exact sound.served_of_ne rfl isOld different
  shown := by
    intro other isOther same
    rw [playground_follow] at isOther same ⊢
    rcases Playground.of_mem_moveOn isOther with ⟨ticket, stage⟩ | ⟨isOld, -⟩
    · have shown := sound.shown task member (ticket.symm.trans same)
      rw [atStage] at shown
      rw [stage]
      exact shown
    · exact sound.shown other isOld same
  begun := by
    intro other isOther owned
    rw [playground_follow] at isOther owned ⊢
    rcases Playground.of_mem_moveOn isOther with ⟨ticket, -⟩ | ⟨isOld, -⟩
    · rcases sound.begun task member (ticket ▸ owned) with
        ⟨delay, armed⟩ | shows
      · cases atStage.symm.trans armed
      · exact .inr (shows.trans ticket.symm)
    · exact sound.begun other isOld owned
  ended := by
    intro ticket owned none_
    rw [playground_follow] at owned none_ ⊢
    refine sound.ended ticket owned fun other isOther => ?_
    have moved := none_ _ (Playground.mem_moveOn.mpr ⟨other, isOther, rfl⟩)
    split at moved
    · exact moved
    · exact moved
  whole := by
    intro owned running
    rw [playground_follow] at owned running ⊢
    refine (sound.whole owned running).trans ?_
    change _ =
      ((bench.follow _ _ _).services bench.playground.pane.ticket).taken
    by_cases isActor : bench.playground.pane.ticket = task.ticket
    · rw [isActor, services_follow_self rfl]
      rfl
    · rw [services_follow_of_ne rfl isActor]
  isTrue := by
    rw [playground_follow]
    exact sound.isTrue_follow member rfl (atStage ▸ rfl) rfl

theorem IsSound.prints (sound : bench.IsSound) (inOrder : bench.InOrder)
    (member : task ∈ bench.playground.tasks) (atStage : task.stage = .streaming)
    (owns : bench.playground.owner = some task.ticket) {line : String}
    (admits : bench.admits (.line task.ticket line) = true) :
    (bench.follow (.line task.ticket line)
      { bench.playground with
        pane :=
          ⟨bench.playground.pane.status, bench.playground.pane.lines ++ [line],
            task.ticket⟩ }
      order).IsSound where
  served := by
    intro other isOther
    rw [playground_follow] at isOther
    by_cases same : other.ticket = task.ticket
    · obtain rfl := inOrder.tasks.sole other isOther task member same
      have has := sound.served other member
      rw [atStage] at has ⊢
      rw [services_follow_self rfl]
      exact has
    · exact sound.served_of_ne rfl isOther same
  shown := by
    intro other isOther
    rw [playground_follow] at isOther ⊢
    rw [← (sound.streaming member atStage owns).1]
    exact sound.shown other isOther
  begun := by
    intro other isOther
    rw [playground_follow] at isOther ⊢
    rw [← (sound.streaming member atStage owns).1]
    exact sound.begun other isOther
  ended := by
    intro ticket owned none_
    rw [playground_follow] at owned none_
    exact absurd (Option.some.inj (owns.symm.trans owned)) (none_ task member)
  whole := by
    intro _ _
    rw [playground_follow]
    change _ = ((bench.follow _ _ _).services task.ticket).taken
    rw [services_follow_self rfl]
    exact congrArg (· ++ [line]) (sound.streaming member atStage owns).2.2.1
  isTrue := by
    obtain ⟨-, running, lines, has⟩ := sound.streaming member atStage owns
    rw [playground_follow]
    change Pane.IsTrue _ ((bench.follow _ _ _).services task.ticket)
    rw [services_follow_self rfl, running, lines]
    exact ⟨List.prefix_append _ _, has⟩

theorem IsSound.follow (sound : bench.IsSound) (inOrder : bench.InOrder)
    (move : bench.playground.Move event next order)
    (awaits : bench.playground.awaits event = true)
    (admits : bench.admits event = true) :
    (bench.follow event next order).IsSound := by
  cases move with
  | edited text =>
      exact sound.takes inOrder
        (@Playground.takes_step (.edit text) bench.playground rfl)
  | asked debug =>
      exact sound.takes inOrder
        (@Playground.takes_step (.run debug) bench.playground rfl)
  | turned code =>
      exact sound.takes inOrder
        (@Playground.takes_step (.lesson code) bench.playground rfl)
  | themed =>
      exact ⟨sound.served, sound.shown, sound.begun, sound.ended, sound.whole,
        sound.isTrue⟩
  | closed =>
      refine ⟨sound.served, sound.shown, ?_, ?_, ?_, sound.isTrue⟩
      · intro task member owns
        cases owns
      · intro ticket owns
        cases owns
      · intro owns
        cases owns
  | missed acts unawaited =>
      obtain ⟨task, member, same, awaited⟩ :=
        Playground.exists_of_awaits awaits acts
      cases (unawaited task member same).symm.trans awaited
  | lost member acts awaited unowned =>
      exact sound.lost member acts awaited unowned admits
  | @begun task delay member atStage owns =>
      have idle := sound.served task member
      rw [atStage] at idle
      apply sound.advances member rfl owns rfl
      · rfl
      · exact idle
      · intro running
        cases running
      · trivial
  | @succeeded task artifact member atStage owns =>
      have idle := sound.served task member
      rw [atStage] at idle
      have has :
          ((bench.services task.ticket).note
            (.compiled task.ticket (.ok (.success artifact)))
            (some (.execute task.ticket artifact))).HasArtifact :=
        ⟨artifact, rfl, rfl⟩
      have nothing : (bench.services task.ticket).taken = [] := by
        rw [show bench.services task.ticket = .idle from idle]
        rfl
      apply sound.advances member rfl owns rfl
      · rfl
      · exact ⟨nothing, has⟩
      · intro _
        exact nothing.symm
      · exact ⟨List.nil_prefix, has⟩
  | @failed task diagnostics event member fails owns =>
      apply sound.ends fails.awaited.1 owns rfl
      · trivial
      · exact ⟨rfl, fails.explains _⟩
  | started member atStage => exact sound.starts member atStage
  | printed line member atStage owns =>
      exact sound.prints inOrder member atStage owns admits
  | @ended task member atStage owns =>
      apply sound.ends rfl owns rfl
      · trivial
      · obtain ⟨-, -, lines, has⟩ := sound.streaming member atStage owns
        have ended : (bench.services task.ticket).closed = true ∧
            (bench.services task.ticket).waiting = [] := by
          simpa [Bench.admits] using admits
        refine ⟨?_, ended.1, has⟩
        change bench.playground.pane.lines =
          (bench.services task.ticket).taken ++
            (bench.services task.ticket).waiting
        rw [lines, ended.2, List.append_nil]

end Follow

theorem step_happens (bench : Bench) (event : PlaygroundEvent) :
    bench.step (.happens event) = bench ∨
      (bench.playground.awaits event = true ∧ bench.admits event = true ∧
        bench.step (.happens event) =
          bench.follow event (bench.playground.step event).playground
            (bench.playground.step event).order) := by
  by_cases possible : (bench.playground.awaits event && bench.admits event) =
    true
  · obtain ⟨awaits, admits⟩ := (Bool.and_eq_true _ _).mp possible
    exact .inr ⟨awaits, admits, if_pos possible⟩
  · exact .inl (if_neg possible)

theorem IsSound.step (sound : bench.IsSound) (inOrder : bench.InOrder)
    (event : BenchEvent) :
    (bench.step event).InOrder ∧ (bench.step event).IsSound := by
  cases event with
  | writes ticket line =>
      change (bench.serve ticket (·.write line)).InOrder ∧
        (bench.serve ticket (·.write line)).IsSound
      have grows := fun service : Service => service.grows_write line
      exact ⟨inOrder.serve grows, sound.serve grows⟩
  | closes ticket =>
      change (bench.serve ticket (·.close)).InOrder ∧
        (bench.serve ticket (·.close)).IsSound
      exact ⟨inOrder.serve Service.grows_close, sound.serve Service.grows_close⟩
  | happens event =>
      rcases bench.step_happens event with same | ⟨awaits, admits, same⟩
      · rw [same]
        exact ⟨inOrder, sound⟩
      · rw [same]
        exact ⟨inOrder.follow awaits,
          sound.follow inOrder (bench.playground.move_step event) awaits admits⟩

theorem IsSound.run (sound : bench.IsSound) (inOrder : bench.InOrder)
    (events : List BenchEvent) :
    (bench.run events).InOrder ∧ (bench.run events).IsSound := by
  induction events generalizing bench with
  | nil => exact ⟨inOrder, sound⟩
  | cons event events induction =>
      obtain ⟨laterInOrder, laterSound⟩ := sound.step inOrder event
      exact induction laterSound laterInOrder

theorem inOrder_start (fileName : String) (debounce : Nat) (code : String)
    (theme : Theme) :
    (start (.start fileName debounce code theme)).InOrder where
  tickets := Playground.ticketsInOrder_start fileName debounce code theme
  tasks := Playground.tasksInOrder_start fileName debounce code theme
  fresh := fun _ _ => rfl

theorem isSound_start (fileName : String) (debounce : Nat) (code : String)
    (theme : Theme) :
    (start (.start fileName debounce code theme)).IsSound where
  served := by
    intro task member
    cases member
  shown := by
    intro task member
    cases member
  begun := by
    intro task member
    cases member
  ended := by
    intro ticket owns
    cases owns
  whole := by
    intro owns
    cases owns
  isTrue := trivial

end Bench

/-- The event takes a new ticket. -/
def BenchEvent.arms : BenchEvent → Bool
  | .happens event => event.arms
  | _ => false

namespace Bench

variable {bench : Bench}

theorem run_append (earlier later : List BenchEvent) :
    bench.run (earlier ++ later) = (bench.run earlier).run later :=
  List.foldl_append

theorem step_of_arms {event : PlaygroundEvent} (arms : event.arms = true) :
    (bench.step (.happens event)).playground =
      (bench.playground.step event).playground := by
  have possible :
      (bench.playground.awaits event && bench.admits event) = true := by
    cases event with
    | edit => rfl
    | run => rfl
    | lesson => rfl
    | _ => cases arms
  rw [step, if_pos possible]
  exact playground_follow

/-- The owner of the pane stays until another ticket is taken or the playground
is given up. -/
theorem owner_step {event : BenchEvent} (unarmed : event.arms = false)
    (open_ : event ≠ .happens .close) :
    (bench.step event).playground.owner = bench.playground.owner := by
  cases event with
  | writes => rfl
  | closes => rfl
  | happens event =>
      have stays : event.dispossesses = false := by
        rcases event.arms_or_close_or_stays with arms | rfl | stays
        · cases unarmed.symm.trans arms
        · exact absurd rfl open_
        · exact stays
      rcases bench.step_happens event with same | ⟨-, -, same⟩
      · rw [same]
      · rw [same, playground_follow]
        exact ((bench.playground.move_step event).stays stays).owner

theorem owner_run {events : List BenchEvent}
    (unarmed : ∀ event ∈ events, event.arms = false)
    (open_ : .happens .close ∉ events) :
    (bench.run events).playground.owner = bench.playground.owner := by
  induction events generalizing bench with
  | nil => rfl
  | cons event events induction =>
      refine (induction ?_ ?_).trans
        (owner_step (unarmed event List.mem_cons_self) ?_)
      · intro other member
        exact unarmed other (List.mem_cons_of_mem _ member)
      · intro member
        exact open_ (List.mem_cons_of_mem _ member)
      · rintro rfl
        exact open_ List.mem_cons_self

theorem exists_last_taker {events : List BenchEvent}
    (armed : ∃ event ∈ events, event.arms = true) :
    ∃ earlier taker later,
      events = earlier ++ .happens taker :: later ∧ taker.arms = true ∧
        ∀ other ∈ later, other.arms = false := by
  induction events with
  | nil =>
      obtain ⟨event, member, -⟩ := armed
      cases member
  | cons event events induction =>
      by_cases later : ∃ event ∈ events, event.arms = true
      · obtain ⟨earlier, taker, rest, rfl, arms, unarmed⟩ := induction later
        exact ⟨event :: earlier, taker, rest, rfl, arms, unarmed⟩
      · have unarmed : ∀ other ∈ events, other.arms = false := by
          simpa using later
        obtain ⟨other, member, arms⟩ := armed
        rcases List.mem_cons.mp member with rfl | member
        · cases other with
          | happens taker => exact ⟨[], taker, events, rfl, arms, unarmed⟩
          | _ => cases arms
        · cases (unarmed other member).symm.trans arms

/-- Whatever happens, the pane tells the truth about its ticket: what it shows
of a program that runs is the beginning of what the runner has written, what it
shows of one that has finished is all of it, and of one that has failed it shows
nothing but what the compiler has found or the fault of a worker.  When nothing
goes on any more, the pane shows how the program of the last ticket has
ended. -/
theorem pane_isTrue (fileName : String) (debounce : Nat) (code : String)
    (theme : Theme) (events : List BenchEvent) :
    let first := start (.start fileName debounce code theme)
    let last := first.run events
    let pane := last.playground.pane
    let service := last.services pane.ticket
    (pane.status = .running →
        pane.lines <+: service.produced ∧ service.HasArtifact) ∧
      (pane.status = .finished →
        pane.lines = service.produced ∧ service.closed = true ∧
          service.HasArtifact) ∧
      (∀ diagnostics, pane.status = .failed diagnostics →
        pane.lines = [] ∧ service.Explains diagnostics) ∧
      ((∃ event ∈ events, event.arms = true) → .happens .close ∉ events →
        last.playground.tasks = [] →
          pane.status.IsFinal ∧
            ∃ earlier taker later, events = earlier ++ .happens taker :: later ∧
              taker.arms = true ∧ (∀ other ∈ later, other.arms = false) ∧
              pane.ticket = (first.run earlier).playground.nextTicket) := by
  intro first last pane service
  obtain ⟨inOrder, sound⟩ := (isSound_start fileName debounce code theme).run
    (inOrder_start fileName debounce code theme) events
  have isTrue : pane.IsTrue service := sound.isTrue
  unfold Pane.IsTrue at isTrue
  refine ⟨?_, ?_, ?_, ?_⟩
  · intro running
    rwa [running] at isTrue
  · intro finished
    rwa [finished] at isTrue
  · intro diagnostics failed
    rwa [failed] at isTrue
  · intro armed open_ still
    obtain ⟨earlier, taker, later, rfl, arms, unarmed⟩ :=
      exists_last_taker armed
    have owns :
        last.playground.owner =
          some (first.run earlier).playground.nextTicket := by
      have calm : BenchEvent.happens .close ∉ later :=
        fun member =>
          open_ (List.mem_append_right _ (List.mem_cons_of_mem _ member))
      have taken := ((first.run earlier).playground.takes_step arms).owner
      rw [← step_of_arms arms, ← owner_run unarmed calm] at taken
      rw [← taken]
      exact congrArg (·.playground.owner)
        (run_append earlier (.happens taker :: later))
    have ended := sound.ended _ owns fun task member => by
      rw [show (first.run
        (earlier ++ .happens taker :: later)).playground.tasks = [] from still]
        at member
      cases member
    exact ⟨ended.2, earlier, taker, later, rfl, arms, unarmed, ended.1⟩

example :
    let last := (start (.start "main.mbt" 100 "" .light)).run
      [.happens (.edit "a"), .happens (.wake 1),
        .happens (.compiled 1 (.ok (.success "b"))), .happens (.started 1 none),
        .writes 1 "c", .closes 1, .happens (.line 1 "c"), .happens (.ended 1)]
    last.playground.pane = ⟨.finished, ["c"], 1⟩ ∧
      last.playground.tasks = [] := by
  decide

end Bench

end LessonSite
