import LessonSite.CommandLine.Basic
import LessonSite.Proofs.Playground.Truth

/-!
# Following a program that is run once

While one ticket has a playground to itself, its pane only gains lines, and it
is not written any more when the program has come to its end.  Someone who looks
at the pane now and then misses panes but no lines: what is printed is what the
program has printed, every line once and in order.
-/

namespace LessonSite

theorem PaneStatus.isFinal_iff {status : PaneStatus} :
    status.isFinal = true ↔ status.IsFinal := by
  cases status <;> simp [isFinal, IsFinal]

/-- The other pane can be written while the first one is shown: its program
still goes on, and no line is lost. -/
structure Pane.LeadsTo (earlier later : Pane) : Prop where
  unfinished : earlier.status.isFinal = false
  grows : earlier.lines <+: later.lines

theorem Pane.LeadsTo.trans {first second third : Pane}
    (before : first.LeadsTo second)
    (after : second.LeadsTo third) : first.LeadsTo third :=
  ⟨before.unfinished, before.grows.trans after.grows⟩

/-- Someone looks at a pane that is written again and again.  Every look comes
after one write at least and shows the last one only; all that has been written
before the last look has been seen or missed. -/
inductive Glimpses : List Pane → List Pane → Prop where
  | nothing : Glimpses [] []
  | look (missed : List Pane) (pane : Pane) {writes seen : List Pane}
      (later : Glimpses writes seen) :
      Glimpses (missed ++ pane :: writes) (pane :: seen)

namespace Follower

variable {follower : Follower} {pane : Pane}

/-- All lines of the pane have been printed, and the pane has been kept if it
shows the end of a program. -/
structure IsUpTo (follower : Follower) (pane : Pane) : Prop where
  printed : follower.printed = pane.lines
  count : follower.count = pane.lines.length
  ended : follower.ended = if pane.status.isFinal then some pane else none

theorem isUpTo_start : start.IsUpTo .empty :=
  ⟨rfl, rfl, rfl⟩

theorem IsUpTo.look {later : Pane} (upTo : follower.IsUpTo pane)
    (leads : pane.LeadsTo later) :
    (follower.look later).IsUpTo later := by
  have open_ : follower.ended = none := by
    rw [upTo.ended, leads.unfinished, if_neg (by decide)]
  obtain ⟨added, lines⟩ := leads.grows
  unfold Follower.look
  rw [open_]
  refine ⟨?_, rfl, rfl⟩
  dsimp only
  rw [upTo.printed, upTo.count, ← lines, List.drop_left]

theorem IsUpTo.lookAll {writes seen : List Pane}
    (glimpses : Glimpses writes seen)
    (upTo : follower.IsUpTo pane)
    (stream : (pane :: writes).Pairwise Pane.LeadsTo) :
    (follower.lookAll seen).IsUpTo (writes.getLast?.getD pane) := by
  induction glimpses generalizing follower pane with
  | nothing => exact upTo
  | @look missed next writes seen later induction =>
      obtain ⟨leads, rest⟩ := List.pairwise_cons.mp stream
      have onwards :=
        induction (upTo.look (leads next (by simp)))
          (List.pairwise_append.mp rest).2.1
      simpa [Follower.lookAll, List.getLast?_append,
        List.getLast?_cons] using onwards

end Follower

namespace Playground

/-- How far the only ticket has come, by its task and by the pane. -/
inductive Progress (ticket : Nat) : List Task → Pane → Prop where
  | waits (debug : Bool) (delay : Option Nat) :
      Progress ticket [⟨ticket, debug, .armed delay⟩] .empty
  | compiles (debug : Bool) :
      Progress ticket [⟨ticket, debug, .compiling⟩] ⟨.compiling, [], ticket⟩
  | starts (debug : Bool) :
      Progress ticket [⟨ticket, debug, .starting⟩] ⟨.running, [], ticket⟩
  | streams (debug : Bool) (lines : List String) :
      Progress ticket [⟨ticket, debug, .streaming⟩] ⟨.running, lines, ticket⟩
  | finished (lines : List String) :
      Progress ticket [] ⟨.finished, lines, ticket⟩
  | failed (diagnostics : List Diagnostic) :
      Progress ticket [] ⟨.failed diagnostics, [], ticket⟩

/-- The ticket owns the pane, and there has been no other. -/
structure IsAlone (playground : Playground) (ticket : Nat) : Prop where
  owns : playground.owner = some ticket
  progress : Progress ticket playground.tasks playground.pane

end Playground

/-- A step goes on with the only ticket, and the pane that it writes, if any,
comes after the one that was shown. -/
structure Effect.Advances (before : Playground) (ticket : Nat)
    (effect : Effect) : Prop where
  alone : effect.playground.IsAlone ticket
  kept : effect.written = none → effect.playground.pane = before.pane
  leads :
    ∀ pane,
      effect.written = some pane →
      effect.playground.pane = pane ∧ before.pane.LeadsTo pane

namespace Playground

variable {playground : Playground} {ticket : Nat} {event : PlaygroundEvent}

theorem isAlone_run (fileName : String) (debounce : Nat) (code : String)
    (theme : Theme) (debug : Bool) :
    ((start fileName debounce code theme).step (.run debug)).playground.IsAlone
      1 :=
  ⟨rfl, .waits debug none⟩

theorem advances_quietly (alone : playground.IsAlone ticket) :
    playground.quietly.Advances playground ticket :=
  ⟨alone, fun _ => rfl, nofun⟩

/-- A write of the pane goes on with the ticket if it adds to the lines and
shows where the task has come to. -/
theorem advances_updateThen (alone : playground.IsAlone ticket)
    {change : Pane → Pane}
    {next : Playground → Playground} {order : Option Order}
    (unfinished : playground.pane.status.isFinal = false)
    (grows : playground.pane.lines <+:
      (change { playground.pane with ticket }).lines)
    (ownerKept : ∀ updated, (next updated).owner = updated.owner)
    (paneKept : ∀ updated, (next updated).pane = updated.pane)
    (progress : Progress ticket
      (next { playground with
        pane := change { playground.pane with ticket } }).tasks
      (change { playground.pane with ticket })) :
    (playground.updateThen ticket change next order).Advances playground
      ticket := by
  rw [updateThen_of_owns alone.owns]
  refine ⟨⟨(ownerKept _).trans alone.owns, ?_⟩, nofun, ?_⟩
  · rw [paneKept]
    exact progress
  · rintro pane ⟨⟩
    exact ⟨paneKept _, unfinished, grows⟩

section Tasks

variable {debug : Bool} {stage : Stage}
  (tasks : playground.tasks = [⟨ticket, debug, stage⟩])

include tasks

theorem advances_fail (alone : playground.IsAlone ticket)
    (unfinished : playground.pane.status.isFinal = false)
    (blank : playground.pane.lines = []) (diagnostics : List Diagnostic) :
    (playground.fail ticket diagnostics).Advances playground ticket := by
  refine advances_updateThen alone unfinished ?_ (fun _ => rfl)
    (fun _ => rfl) ?_
  · exact blank ▸ List.nil_prefix
  · simpa [finish, tasks] using Progress.failed diagnostics

theorem advances_compile (alone : playground.IsAlone ticket)
    (idle : playground.pane = .empty) :
    (playground.compile ⟨ticket, debug, stage⟩).Advances playground ticket := by
  rw [compile, if_pos alone.owns]
  dsimp only [update]
  rw [if_pos alone.owns]
  refine ⟨⟨alone.owns, ?_⟩, ?_, ?_⟩
  · simpa [moveOn, tasks, idle, Pane.empty] using Progress.compiles debug
  · intro unwritten
    cases unwritten
  · rintro pane ⟨⟩
    exact ⟨rfl, by rw [idle]; rfl, List.prefix_rfl⟩

theorem advances_take (alone : playground.IsAlone ticket)
    (compiling : playground.pane = ⟨.compiling, [], ticket⟩)
    (reply : Except WorkerFault CompileResult) :
    (playground.take ticket reply).Advances playground ticket := by
  have unfinished : playground.pane.status.isFinal = false := by
    rw [compiling]; rfl
  have blank : playground.pane.lines = [] := by rw [compiling]
  cases reply with
  | error fault => exact advances_fail tasks alone unfinished blank _
  | ok result =>
      cases result with
      | error diagnostics => exact advances_fail tasks alone unfinished blank _
      | success artifact =>
          refine advances_updateThen alone unfinished ?_ (fun _ => rfl)
            (fun _ => rfl) ?_
          · exact blank ▸ List.nil_prefix
          · simpa [moveOn, tasks] using Progress.starts debug

theorem advances_start (alone : playground.IsAlone ticket)
    (started : playground.pane = ⟨.running, [], ticket⟩) :
    (playground.moveOn ticket .streaming).quietly.Advances playground
      ticket := by
  refine ⟨⟨alone.owns, ?_⟩, fun _ => rfl, nofun⟩
  simpa [quietly, moveOn, tasks, started] using Progress.streams debug []

theorem advances_line {lines : List String} (alone : playground.IsAlone ticket)
    (streaming : playground.pane = ⟨.running, lines, ticket⟩)
    (working : stage = .streaming) (line : String) :
    (playground.step (.line ticket line)).Advances playground ticket := by
  subst working
  simp only [Playground.step, taskAt?, tasks, List.find?_cons, decide_true,
    and_self]
  refine advances_updateThen alone (by rw [streaming]; rfl) ?_ (fun _ => rfl)
    (fun _ => rfl) ?_
  · exact List.prefix_append _ _
  · simpa [tasks, streaming] using Progress.streams debug (lines ++ [line])

theorem advances_ended {lines : List String} (alone : playground.IsAlone ticket)
    (streaming : playground.pane = ⟨.running, lines, ticket⟩)
    (working : stage = .streaming) :
    (playground.step (.ended ticket)).Advances playground ticket := by
  subst working
  simp only [Playground.step, taskAt?, tasks, List.find?_cons, decide_true,
    and_self]
  refine advances_updateThen alone (by rw [streaming]; rfl) ?_ (fun _ => rfl)
    (fun _ => rfl) ?_
  · exact List.prefix_rfl
  · simpa [finish, tasks, streaming] using Progress.finished lines

end Tasks

/-- Unless the pane is taken from it, the ticket goes on. -/
theorem IsAlone.step (alone : playground.IsAlone ticket)
    (stays : event.dispossesses = false) :
    (playground.step event).Advances playground ticket := by
  by_cases awaits : playground.awaits event = true
  case neg =>
    rw [step_eq_quietly (Bool.not_eq_true _ ▸ awaits)]
    exact advances_quietly alone
  cases acts : event.ticket? with
  | none =>
      cases event with
      | theme theme => exact ⟨⟨alone.owns, alone.progress⟩, fun _ => rfl, nofun⟩
      | edit => cases stays
      | run => cases stays
      | lesson => cases stays
      | close => cases stays
      | _ => cases acts
  | some actor =>
      obtain ⟨task, member, named, awaited⟩ := exists_of_awaits awaits acts
      have progress := alone.progress
      generalize shown : playground.pane = pane at progress
      generalize working : playground.tasks = tasks at progress member
      cases progress with
      | finished => cases member
      | failed => cases member
      | waits debug delay =>
          cases List.mem_singleton.mp member
          cases event with
          | wake other =>
              cases acts
              cases named
              simpa [Playground.step, taskAt?, working] using advances_compile
                working alone shown
          | _ => cases awaited
      | compiles debug =>
          cases List.mem_singleton.mp member
          cases event with
          | compiled other reply =>
              cases acts
              cases named
              simpa [Playground.step, taskAt?, working] using advances_take
                working alone shown reply
          | _ => cases awaited
      | starts debug =>
          cases List.mem_singleton.mp member
          cases event with
          | started other fault =>
              cases acts
              cases named
              cases fault with
              | none =>
                  simpa [Playground.step, taskAt?, working] using advances_start
                    working alone shown
              | some fault =>
                  have fails :=
                    advances_fail working alone (by rw [shown]; rfl)
                      (by rw [shown])
                  simpa [Playground.step, taskAt?, working] using fails _
          | _ => cases awaited
      | streams debug lines =>
          cases List.mem_singleton.mp member
          cases event with
          | line other line =>
              cases acts
              cases named
              exact advances_line working alone shown rfl line
          | ended other =>
              cases acts
              cases named
              exact advances_ended working alone shown rfl
          | _ => cases awaited

/-- In a run with a single ticket each pane that is written leads to the later
ones, and the pane that was written last is shown. -/
theorem IsAlone.watch (alone : playground.IsAlone ticket)
    {events : List PlaygroundEvent}
    (stays : ∀ event ∈ events, event.dispossesses = false) :
    (playground.watch events).1.IsAlone ticket ∧
      (playground.pane :: (playground.watch events).2).Pairwise Pane.LeadsTo ∧
      (playground.watch events).1.pane =
        (playground.watch events).2.getLast?.getD playground.pane := by
  induction events generalizing playground with
  | nil => exact ⟨alone, List.pairwise_singleton _ _, rfl⟩
  | cons event events induction =>
      have advances := alone.step (stays event List.mem_cons_self)
      obtain ⟨later, stream, last⟩ :=
        induction advances.alone fun other member =>
          stays other (List.mem_cons_of_mem _ member)
      simp only [Playground.watch]
      cases written : (playground.step event).written with
      | none =>
          rw [advances.kept written] at stream last
          exact ⟨later, stream, last⟩
      | some pane =>
          obtain ⟨same, leads⟩ := advances.leads pane written
          rw [same] at stream last
          refine ⟨later, List.pairwise_cons.mpr ⟨?_, stream⟩, ?_⟩
          · intro other member
            rcases List.mem_cons.mp member with rfl | isLater
            · exact leads
            · exact leads.trans (List.rel_of_pairwise_cons stream isLater)
          · rw [last, Option.toList_some, List.singleton_append,
              List.getLast?_cons, Option.getD_some]

end Playground

theorem Glimpses.all (writes : List Pane) : Glimpses writes writes := by
  induction writes with
  | nil => exact .nothing
  | cons pane writes induction => exact .look [] pane induction

/-- The pane in which a program ends: it shows the lines that were printed, or
what was wrong. -/
def Pane.ofOutcome (ticket : Nat) :
    Except (List Diagnostic) (List String) → Pane
  | .ok lines => ⟨.finished, lines, ticket⟩
  | .error diagnostics => ⟨.failed diagnostics, [], ticket⟩

namespace Playground

section

variable (playground : Playground) (debug : Bool)
  (compile : CompileRequest → Except WorkerFault CompileResult)
  (execute : String → Except WorkerFault (List String))

/-- What becomes of the program in the editor: the lines that it prints, or what
is wrong with it. -/
def outcome : Except (List Diagnostic) (List String) :=
  match compile (playground.request debug) with
  | .ok (.success artifact) =>
      (execute artifact).mapError fun fault => [.error fault.message]
  | .ok (.error diagnostics) => .error diagnostics
  | .error fault => .error [.error fault.message]

/-- What happens until the program has come to its end. -/
def onceEvents : List PlaygroundEvent :=
  let reply := compile (playground.request debug)
  [.run debug, .wake playground.nextTicket] ++
    [.compiled playground.nextTicket reply] ++
    match reply with
    | .ok (.success artifact) =>
        outputEvents playground.nextTicket (execute artifact)
    | _ => []

end

theorem watch_append (playground : Playground)
    (earlier later : List PlaygroundEvent) :
    playground.watch (earlier ++ later) =
      (((playground.watch earlier).1.watch later).1,
        (playground.watch earlier).2 ++
          ((playground.watch earlier).1.watch later).2) := by
  induction earlier generalizing playground with
  | nil => rfl
  | cons event earlier induction =>
      simp only [List.cons_append, Playground.watch, induction,
        List.append_assoc]

/-- The lines of an output come to stand in the pane, and then it is closed. -/
theorem pane_watch_lines {playground : Playground} {ticket : Nat} {debug : Bool}
    {shown : List String}
    (owns : playground.owner = some ticket)
    (tasks : playground.tasks = [⟨ticket, debug, .streaming⟩])
    (pane : playground.pane = ⟨.running, shown, ticket⟩) (lines : List String) :
    (playground.watch
        (lines.map (PlaygroundEvent.line ticket) ++ [.ended ticket])).1.pane =
      ⟨.finished, shown ++ lines, ticket⟩ := by
  induction lines generalizing playground shown with
  | nil =>
      simp [Playground.watch, Playground.step, taskAt?, tasks,
        updateThen_of_owns owns, finish, pane]
  | cons line lines induction =>
      rw [List.map_cons, List.cons_append, Playground.watch]
      have step : (playground.step (.line ticket line)).playground =
          { playground with pane := ⟨.running, shown ++ [line], ticket⟩ } := by
        simp [Playground.step, taskAt?, tasks, updateThen_of_owns owns, pane]
      rw [step]
      rw [@induction { playground with
          pane := ⟨.running, shown ++ [line], ticket⟩ } (shown ++ [line]) owns
        tasks rfl, List.append_assoc, List.singleton_append]

section Once

variable (fileName : String) (debounce : Nat) (code : String) (theme : Theme)
  (debug : Bool) (compile : CompileRequest → Except WorkerFault CompileResult)
  (execute : String → Except WorkerFault (List String))

theorem runOnce_eq :
    let playground := start fileName debounce code theme
    playground.runOnce debug compile execute =
      (playground.watch (playground.onceEvents debug compile execute)).2 := by
  intro playground
  have request :
      (playground.watch [.run debug, .wake playground.nextTicket]).1.request
          debug =
        playground.request debug := rfl
  simp only [runOnce, onceEvents, watch_append, request]
  cases compile (playground.request debug) with
  | error fault => rfl
  | ok result => cases result <;> rfl

theorem stays_onceEvents (playground : Playground) :
    ∀ event ∈ (playground.onceEvents debug compile execute).tail,
      event.dispossesses = false := by
  have output :
      ∀ result,
        ∀ event ∈ outputEvents playground.nextTicket result,
          event.dispossesses = false := by
    intro result event member
    cases result with
    | error fault => cases List.mem_singleton.mp member; rfl
    | ok lines =>
        simp only [outputEvents, List.cons_append, List.mem_cons,
          List.mem_append, List.mem_map, List.not_mem_nil, or_false] at member
        rcases member with rfl | ⟨line, -, rfl⟩ | rfl <;> rfl
  intro event member
  simp only [onceEvents, List.cons_append, List.nil_append, List.tail_cons,
    List.mem_cons] at member
  rcases member with rfl | rfl | member
  · rfl
  · rfl
  · split at member
    · exact output _ _ member
    · cases member

/-- The pane that is written last shows what has become of the program. -/
theorem pane_watch_onceEvents :
    let playground := start fileName debounce code theme
    (playground.watch (playground.onceEvents debug compile execute)).1.pane =
      .ofOutcome 1 (playground.outcome debug compile execute) := by
  intro playground
  unfold onceEvents outcome
  cases reply : compile (playground.request debug) with
  | error fault => rfl
  | ok result =>
      cases result with
      | error diagnostics => rfl
      | success artifact =>
          cases output : execute artifact with
          | error fault =>
              simp only [output]
              rfl
          | ok lines =>
              simp only [output, outputEvents]
              rw [watch_append, List.cons_append, Playground.watch]
              exact @pane_watch_lines _ 1 debug [] rfl rfl rfl lines

/-- Whoever sees all panes of a program that is run once has printed its lines
in the end. -/
theorem isUpTo_lookAll_runOnce :
    let playground := start fileName debounce code theme
    (Follower.start.lookAll (playground.runOnce debug compile execute)).IsUpTo
      (.ofOutcome 1 (playground.outcome debug compile execute)) := by
  intro playground
  obtain ⟨-, stream, last⟩ :=
    (isAlone_run fileName debounce code theme debug).watch
      (stays_onceEvents debug compile execute playground)
  have shown :
      (playground.watch (playground.onceEvents debug compile execute)).1.pane =
        (playground.watch
          (playground.onceEvents debug compile execute)).2.getLast?.getD
          .empty := last
  rw [← pane_watch_onceEvents, runOnce_eq, shown]
  exact Follower.isUpTo_start.lookAll (Glimpses.all _) stream

end Once

end Playground

/-- The command line prints the lines that the program of a lesson prints, and
fails with what is wrong with it. -/
theorem CommandLine.run_runProgram {config : Config}
    (compiler : config.playground.compiler ≠ [])
    (runner : config.playground.runner ≠ []) (code : String) (debug : Bool)
    (console : Console) :
    (runProgram config code debug).run.run console =
      match (Playground.start config.mainFileName config.playground.debounce
          code .light).outcome debug
        (Worker.compile config.playground.compiler)
        (Worker.execute config.playground.runner) with
      | .ok lines =>
          (.ok (), { console with printed := console.printed ++ lines })
      | .error diagnostics =>
          (.error (.program (diagnostics.map Diagnostic.shown)), console) := by
  have upTo :=
    Playground.isUpTo_lookAll_runOnce config.mainFileName
      config.playground.debounce code .light debug
      (Worker.compile config.playground.compiler)
      (Worker.execute config.playground.runner)
  unfold runProgram
  rw [if_neg compiler, if_neg runner]
  dsimp only
  rw [upTo.printed, upTo.ended]
  cases (Playground.start config.mainFileName config.playground.debounce code
      .light).outcome debug
    (Worker.compile config.playground.compiler)
    (Worker.execute config.playground.runner) with
  | ok lines => rfl
  | error diagnostics =>
      change (_, { console with printed := console.printed ++ [] }) = _
      rw [List.append_nil]
      rfl

namespace Bench

/-- What the playground is told in a run: whatever is awaited and can happen
when it does. -/
def told (bench : Bench) : List BenchEvent → List PlaygroundEvent
  | [] => []
  | event :: events =>
      let rest := (bench.step event).told events
      match event with
      | .happens event =>
          if bench.playground.awaits event && bench.admits event then
            event :: rest
          else rest
      | _ => rest

/-- The panes that are written in a run, one after the other. -/
def panes (bench : Bench) (events : List BenchEvent) : List Pane :=
  (bench.playground.watch (bench.told events)).2

theorem playground_run (bench : Bench) (events : List BenchEvent) :
    (bench.run events).playground =
      (bench.playground.watch (bench.told events)).1 := by
  induction events generalizing bench with
  | nil => rfl
  | cons event events induction =>
      change ((bench.step event).run events).playground = _
      rw [induction]
      cases event with
      | writes => rfl
      | closes => rfl
      | happens event =>
          by_cases possible : (bench.playground.awaits event &&
            bench.admits event) = true
          · simp only [told, step, possible, if_true, Playground.watch,
              playground_follow]
          · simp only [told, step, possible]
            rfl

theorem mem_of_mem_told {bench : Bench} {events : List BenchEvent}
    {event : PlaygroundEvent}
    (member : event ∈ bench.told events) : .happens event ∈ events := by
  induction events generalizing bench with
  | nil => cases member
  | cons first events induction =>
      cases first with
      | writes => exact List.mem_cons_of_mem _ (induction member)
      | closes => exact List.mem_cons_of_mem _ (induction member)
      | happens first =>
          simp only [told] at member
          split at member
          · rcases List.mem_cons.mp member with rfl | later
            · exact List.mem_cons_self
            · exact List.mem_cons_of_mem _ (induction later)
          · exact List.mem_cons_of_mem _ (induction member)

/-- What is known of a playground after a single request to run its program: how
far it has come, and how the panes that were written follow each other. -/
structure RunsOnce (bench : Bench) (ticket : Nat)
    (panes : List Pane) : Prop where
  alone : bench.playground.IsAlone ticket
  sound : bench.IsSound
  stream : (Pane.empty :: panes).Pairwise Pane.LeadsTo
  last : bench.playground.pane = panes.getLast?.getD .empty

theorem runsOnce_run (fileName : String) (debounce : Nat) (code : String)
    (theme : Theme) (debug : Bool)
    {events : List BenchEvent} (unarmed : ∀ event ∈ events, event.arms = false)
    (open_ : .happens .close ∉ events) :
    let first := start (.start fileName debounce code theme)
    (first.run (.happens (.run debug) :: events)).RunsOnce 1
      (first.panes (.happens (.run debug) :: events)) := by
  intro first
  have stays :
      ∀ event ∈ (first.step (.happens (.run debug))).told events,
        event.dispossesses = false := by
    intro event member
    have inside := mem_of_mem_told member
    rcases event.arms_or_close_or_stays with arms | rfl | stays
    · exact absurd arms (Bool.not_eq_true _ ▸ unarmed _ inside)
    · exact absurd inside open_
    · exact stays
  obtain ⟨alone, stream, last⟩ :=
    (Playground.isAlone_run fileName debounce code theme debug).watch stays
  refine ⟨?_, ?_, stream, ?_⟩
  · rw [playground_run]
    exact alone
  · exact ((isSound_start fileName debounce code theme).run
      (inOrder_start fileName debounce code theme) _).2
  · rw [playground_run]
    exact last

namespace RunsOnce

variable {bench : Bench} {ticket : Nat} {panes : List Pane}

/-- The pane of a program that has come to its end was written last, and no
other one shows an end. -/
theorem exists_before (once : bench.RunsOnce ticket panes)
    (isFinal : bench.playground.pane.status.IsFinal) :
    ∃ before,
      panes = before ++ [bench.playground.pane] ∧
        ∀ other ∈ before, ¬other.status.IsFinal := by
  have last := once.last
  have stream := (List.pairwise_cons.mp once.stream).2
  rcases List.eq_nil_or_concat panes with rfl | ⟨before, pane, rfl⟩
  · rw [last] at isFinal
    cases isFinal
  · rw [List.concat_eq_append] at last stream ⊢
    rw [List.getLast?_concat, Option.getD_some] at last
    refine ⟨before, by rw [last], fun other member isFinal => ?_⟩
    have leads :=
      (List.pairwise_append.mp stream).2.2 other member pane List.mem_cons_self
    rw [← PaneStatus.isFinal_iff, leads.unfinished] at isFinal
    cases isFinal

/-- As long as the program goes on, its task is at work, and the pane shows the
beginning of its output. -/
theorem goes_on (once : bench.RunsOnce ticket panes)
    (unfinished : ¬bench.playground.pane.status.IsFinal) :
    bench.playground.pane.lines <+: (bench.services ticket).produced ∧
      bench.playground.tasks ≠ [] := by
  have isTrue := once.sound.isTrue
  have progress := once.alone.progress
  generalize bench.playground.pane = pane at isTrue progress unfinished
  generalize bench.playground.tasks = tasks at progress
  cases progress with
  | waits => exact ⟨List.nil_prefix, List.cons_ne_nil _ _⟩
  | compiles => exact ⟨List.nil_prefix, List.cons_ne_nil _ _⟩
  | starts => exact ⟨List.nil_prefix, List.cons_ne_nil _ _⟩
  | streams debug lines => exact ⟨isTrue.1, List.cons_ne_nil _ _⟩
  | finished => exact absurd trivial unfinished
  | failed => exact absurd trivial unfinished

theorem ticket_eq (once : bench.RunsOnce ticket panes)
    (isFinal : bench.playground.pane.status.IsFinal) :
    bench.playground.pane.ticket = ticket := by
  have progress := once.alone.progress
  generalize bench.playground.pane = pane at progress isFinal
  generalize bench.playground.tasks = tasks at progress
  cases progress with
  | waits => cases isFinal
  | _ => rfl

end RunsOnce

/-- A program is compiled and run in a fresh playground, nothing else is asked
of it and it is not given up, while someone looks at the pane now and then.  If
the pane in the end is that of a program that has finished, all that the runner
has written has been printed, every line once and in order; if it is that of a
program that has failed, nothing has been printed.  Either way this pane was
written last, no other one showed the end of the program, and it is what the
follower comes back with.  As long as the program goes on, the beginning of its
output has been printed; and it goes on only while its task is at work. -/
theorem follower_prints (fileName : String) (debounce : Nat) (code : String)
    (theme : Theme) (debug : Bool)
    {events : List BenchEvent} (unarmed : ∀ event ∈ events, event.arms = false)
    (open_ : .happens .close ∉ events) {seen : List Pane}
    (glimpses : Glimpses
      ((start (.start fileName debounce code theme)).panes
        (.happens (.run debug) :: events)) seen) :
    let first := start (.start fileName debounce code theme)
    let written := first.panes (.happens (.run debug) :: events)
    let last := first.run (.happens (.run debug) :: events)
    let pane := last.playground.pane
    let service := last.services 1
    let follower := Follower.start.lookAll seen
    (pane.status = .finished →
        follower.printed = service.produced ∧ service.closed = true) ∧
      (∀ diagnostics, pane.status = .failed diagnostics →
        follower.printed = [] ∧ service.Explains diagnostics) ∧
      (pane.status.IsFinal → follower.ended = some pane ∧
        ∃ before,
          written = before ++ [pane] ∧
            ∀ other ∈ before, ¬other.status.IsFinal) ∧
      (¬pane.status.IsFinal →
        follower.ended = none ∧ follower.printed <+: service.produced ∧
          last.playground.tasks ≠ []) := by
  intro first written last pane service follower
  have once : last.RunsOnce 1 written :=
    runsOnce_run fileName debounce code theme debug unarmed open_
  have upTo : follower.IsUpTo pane := by
    have seenAll := Follower.isUpTo_start.lookAll glimpses once.stream
    rwa [← once.last] at seenAll
  have isTrue : pane.IsTrue (last.services pane.ticket) := once.sound.isTrue
  unfold Pane.IsTrue at isTrue
  refine ⟨?_, ?_, ?_, ?_⟩
  · intro finished
    rw [once.ticket_eq (by rw [finished]; trivial), finished] at isTrue
    exact ⟨upTo.printed.trans isTrue.1, isTrue.2.1⟩
  · intro diagnostics failed
    rw [once.ticket_eq (by rw [failed]; trivial), failed] at isTrue
    exact ⟨upTo.printed.trans isTrue.1, isTrue.2⟩
  · intro isFinal
    refine ⟨?_, once.exists_before isFinal⟩
    rw [upTo.ended, if_pos (PaneStatus.isFinal_iff.mpr isFinal)]
  · intro unfinished
    obtain ⟨begins, busy⟩ := once.goes_on unfinished
    refine ⟨?_, upTo.printed ▸ begins, busy⟩
    rw [upTo.ended, if_neg (mt PaneStatus.isFinal_iff.mp unfinished)]

/-- A program that prints three lines, two of them before the first one is
shown. -/
def threeLines : List BenchEvent :=
  [.happens (.wake 1), .happens (.compiled 1 (.ok (.success "artifact"))),
    .happens (.started 1 none), .writes 1 "a", .writes 1 "b",
    .happens (.line 1 "a"), .writes 1 "c", .closes 1, .happens (.line 1 "b"),
    .happens (.line 1 "c"), .happens (.ended 1)]

/-- Someone who looks after the first line and at the end. -/
def threeLinesSeen : List Pane :=
  [⟨.running, ["a"], 1⟩, ⟨.finished, ["a", "b", "c"], 1⟩]

theorem follower_prints_threeLines :
    (∀ event ∈ threeLines, event.arms = false) ∧ .happens .close ∉ threeLines ∧
      Glimpses
        ((start (.start "main.mbt" 100 "" .light)).panes
          (.happens (.run false) :: threeLines))
        threeLinesSeen ∧
      (Follower.start.lookAll threeLinesSeen).printed = ["a", "b", "c"] ∧
      (Follower.start.lookAll threeLinesSeen).ended =
        some ⟨.finished, ["a", "b", "c"], 1⟩ := by
  have unarmed : ∀ event ∈ threeLines, event.arms = false := by decide
  have open_ : .happens .close ∉ threeLines := by simp [threeLines]
  have written :
      (start (.start "main.mbt" 100 "" .light)).panes
          (.happens (.run false) :: threeLines) =
        [⟨.compiling, [], 1⟩, ⟨.running, [], 1⟩] ++ ⟨.running, ["a"], 1⟩ ::
          ([⟨.running, ["a", "b"], 1⟩, ⟨.running, ["a", "b", "c"], 1⟩] ++
            [⟨.finished, ["a", "b", "c"], 1⟩]) := by decide
  have glimpses : Glimpses
      ((start (.start "main.mbt" 100 "" .light)).panes
        (.happens (.run false) :: threeLines))
      threeLinesSeen := by
    rw [written]
    exact .look _ _ (.look _ _ .nothing)
  have finished : ((start (.start "main.mbt" 100 "" .light)).run
      (.happens (.run false) :: threeLines)).playground.pane =
    ⟨.finished, ["a", "b", "c"], 1⟩ := by decide
  have produced : (((start (.start "main.mbt" 100 "" .light)).run
      (.happens (.run false) :: threeLines)).services 1).produced =
    ["a", "b", "c"] := by decide
  obtain ⟨whenFinished, -, whenFinal, -⟩ :=
    follower_prints "main.mbt" 100 "" .light false unarmed open_ glimpses
  rw [finished] at whenFinished whenFinal
  exact ⟨unarmed, open_, glimpses, (whenFinished rfl).1.trans produced,
    (whenFinal trivial).1⟩

end Bench

end LessonSite
