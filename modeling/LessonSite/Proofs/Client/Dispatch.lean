import LessonSite.Client.Dispatch
import LessonSite.Proofs.Client.Traffic

/-!
# Scripts as traffic

What scripted handlers do is traffic like any other, every note they make is a
telling, and when an action has been performed with all that it leads to, no
publication is under way.
-/

namespace LessonSite

open Traffic (Move Note)

/-- The text that a note of a telling is. -/
@[simp] def Traffic.Note.text? : Note Listener → Option String
  | .tells _ subscription event => some (subscription.handler.note event)
  | _ => none

/-- The texts of what has been told. -/
def textsOf (notes : List (Note Listener)) : List String :=
  notes.filterMap Note.text?

@[simp] theorem textsOf_concat (notes : List (Note Listener))
    (note : Note Listener) :
    textsOf (notes ++ [note]) = textsOf notes ++ note.text?.toList :=
  filterMap_concat _ _ _

namespace Chronicle

variable {Handler : Type} {first between last : Chronicle Handler}

/-- Some moves lead from one chronicle to another. -/
def LeadsTo (first last : Chronicle Handler) : Prop :=
  ∃ moves, first.run? moves = some last

theorem LeadsTo.refl : first.LeadsTo first :=
  ⟨[], rfl⟩

theorem LeadsTo.trans (early : first.LeadsTo between)
    (late : between.LeadsTo last) :
    first.LeadsTo last := by
  obtain ⟨moves, runs⟩ := early
  obtain ⟨others, goes⟩ := late
  refine ⟨moves ++ others, ?_⟩
  rw [run?, List.foldlM_append]
  exact Option.bind_eq_some_iff.mpr ⟨between, runs, goes⟩

theorem leadsTo_of_step? {move : Move Handler}
    (steps : first.step? move = some last) :
    first.LeadsTo last :=
  ⟨[move], Option.bind_eq_some_iff.mpr ⟨last, steps, rfl⟩⟩

end Chronicle

namespace Dispatch

/-- A chronicle has the traffic of a dispatch, and its tellings are what was
logged before and what has been noted since. -/
structure Follows (chronicle : Chronicle Listener) (log : List String)
    (dispatch : Dispatch) : Prop where
  traffic : chronicle.traffic = dispatch.toTraffic
  numbered : chronicle.numbers.length = dispatch.underWay.length
  texts : textsOf chronicle.notes = log ++ dispatch.notes
  kept : ∀ entry ∈ dispatch.kept, entry.2 < dispatch.bus.nextId

variable {chronicle : Chronicle Listener} {log : List String}
  {dispatch next : Dispatch}

/-- It matters only what is live, under way, kept and noted. -/
theorem Follows.with (follows : Follows chronicle log dispatch)
    (traffic : next.toTraffic = dispatch.toTraffic)
    (notes : next.notes = dispatch.notes)
    (kept : ∀ entry ∈ next.kept, entry.2 < next.bus.nextId) :
    Follows chronicle log next := by
  refine ⟨follows.traffic.trans traffic.symm, ?_, ?_, kept⟩
  · rw [traffic]
    exact follows.numbered
  · rw [notes]
    exact follows.texts

/-- A move that is not a telling is noted, and nothing is logged. -/
theorem Follows.move (follows : Follows chronicle log dispatch)
    {move : Move Listener}
    {traffic : Traffic Listener}
    (moved : dispatch.toTraffic.step? move = some traffic)
    (silent : move ≠ .tell) :
    ∃ noted,
      chronicle.LeadsTo noted ∧
        Follows noted log { dispatch with toTraffic := traffic } := by
  obtain ⟨same, numbered, texts, kept⟩ := follows
  rw [← same] at moved numbered
  obtain ⟨noted, steps, rfl, longer⟩ := Chronicle.exists_step? numbered moved
  obtain ⟨note, rfl, step⟩ := Chronicle.step_of_step? steps
  refine ⟨noted, Chronicle.leadsTo_of_step? steps, rfl, longer, ?_, ?_⟩
  · have textless : note.text? = none := by
      cases note <;> first | rfl | exact absurd rfl silent
    rw [step.notes, textsOf_concat, textless, texts]
    simp
  · intro entry member
    have before := kept entry member
    rw [← same] at before
    exact Nat.lt_of_lt_of_le before step.traffic.nextId_le

/-- A telling is noted, and what the listener notes is logged. -/
theorem Follows.tell (follows : Follows chronicle log dispatch)
    {subscription : Subscription Listener}
    {event : Event} {traffic : Traffic Listener}
    (tells : dispatch.tell? = some (subscription, event, traffic)) :
    ∃ noted, chronicle.LeadsTo noted ∧
      Follows noted log
        { dispatch with
          toTraffic := traffic
          notes := dispatch.notes ++ [subscription.handler.note event] } := by
  obtain ⟨same, numbered, texts, kept⟩ := follows
  have moved : chronicle.traffic.step? .tell = some traffic := by
    rw [same, Traffic.step?, tells]
    rfl
  rw [← same] at numbered tells
  obtain ⟨noted, steps, rfl, longer⟩ := Chronicle.exists_step? numbered moved
  obtain ⟨note, noting, step⟩ := Chronicle.step_of_step? steps
  refine ⟨noted, Chronicle.leadsTo_of_step? steps, rfl, longer, ?_, ?_⟩
  · cases step <;> cases noting
    cases tells
    rw [textsOf_concat, texts]
    simp
  · intro entry member
    have before := kept entry member
    rw [← same] at before
    exact Nat.lt_of_lt_of_le before step.traffic.nextId_le

theorem Follows.dropKept (follows : Follows chronicle log dispatch)
    (name : String) :
    ∃ noted,
      chronicle.LeadsTo noted ∧ Follows noted log (dispatch.dropKept name) := by
  unfold Dispatch.dropKept
  split
  · exact ⟨chronicle, .refl, follows⟩
  · next id found =>
      have made : id < dispatch.bus.nextId :=
        follows.kept _ (mem_of_lookup found)
      have moved :
          dispatch.toTraffic.step? (.drop id) = some (dispatch.drop id) :=
        if_pos made
      obtain ⟨noted, leads, dropped⟩ := follows.move moved nofun
      refine ⟨noted, leads, dropped.with rfl rfl ?_⟩
      intro entry member
      exact dropped.kept entry (List.mem_of_mem_filter member)

theorem nextId_dropKept (dispatch : Dispatch) (name : String) :
    (dispatch.dropKept name).bus.nextId = dispatch.bus.nextId := by
  unfold Dispatch.dropKept
  split <;> rfl

theorem Follows.perform (follows : Follows chronicle log dispatch)
    (action : Action) :
    ∃ noted,
      chronicle.LeadsTo noted ∧
        Follows noted log (dispatch.perform action) := by
  cases action with
  | subscribe name channel raw times actions =>
      obtain ⟨joined, first, subscribed⟩ :=
        follows.move
          (Eq.refl (dispatch.toTraffic.step? (.subscribe channel ⟨name, raw⟩)))
          nofun
      obtain ⟨noted, second, dropped⟩ := subscribed.dropKept name
      refine ⟨noted, first.trans second, dropped.with rfl rfl ?_⟩
      intro entry member
      rcases List.mem_cons.mp member with rfl | old
      · have grown := nextId_dropKept
          { dispatch with toTraffic := dispatch.subscribe channel ⟨name, raw⟩ }
          name
        exact Nat.lt_of_lt_of_eq
          (Nat.lt_succ_self dispatch.bus.nextId) grown.symm
      · exact dropped.kept entry old
  | drop name => exact follows.dropKept name
  | publish event =>
      obtain ⟨noted, leads, published⟩ :=
        follows.move (Eq.refl (dispatch.toTraffic.step? (.publish event))) nofun
      exact ⟨noted, leads, published.with rfl rfl published.kept⟩

theorem Follows.respond (follows : Follows chronicle log dispatch)
    (outer : List (List Action))
    {subscription : Subscription Listener} {event : Event}
    {traffic : Traffic Listener}
    (tells : dispatch.tell? = some (subscription, event, traffic)) :
    ∃ noted, chronicle.LeadsTo noted ∧
      Follows noted log
        ({ dispatch with toTraffic := traffic }.respond outer subscription
          event) := by
  obtain ⟨noted, leads, told⟩ := follows.tell tells
  refine ⟨noted, leads, ?_⟩
  unfold Dispatch.respond
  dsimp only
  split <;> exact told.with rfl rfl told.kept

theorem Follows.step (follows : Follows chronicle log dispatch)
    (steps : dispatch.step? = some next) :
    ∃ noted, chronicle.LeadsTo noted ∧ Follows noted log next := by
  unfold Dispatch.step? at steps
  split at steps
  · cases steps
  · next action actions outer plans =>
      cases steps
      have begun :
          Follows chronicle log { dispatch with plans := actions :: outer } :=
        follows.with rfl rfl follows.kept
      exact begun.perform action
  · next outer plans =>
      split at steps
      · next subscription event traffic tells =>
          cases steps
          exact follows.respond outer tells
      · obtain ⟨traffic, finishes, rfl⟩ := Option.map_eq_some_iff.mp steps
        have moved : dispatch.toTraffic.step? .finish = some traffic := finishes
        obtain ⟨noted, leads, finished⟩ := follows.move moved nofun
        exact ⟨noted, leads, finished.with rfl rfl finished.kept⟩

/-- There is a plan for every publication under way, and one for what is to be
done outside them. -/
def Planned (dispatch : Dispatch) : Prop :=
  dispatch.plans.length = dispatch.underWay.length + 1

theorem planned_dropKept (planned : dispatch.Planned) (name : String) :
    (dispatch.dropKept name).Planned := by
  unfold Dispatch.dropKept
  split <;> exact planned

theorem planned_perform (planned : dispatch.Planned) (action : Action) :
    (dispatch.perform action).Planned := by
  cases action with
  | subscribe name channel raw times actions =>
      have subscribed : ({ dispatch with
          toTraffic := dispatch.subscribe channel ⟨name, raw⟩ } :
        Dispatch).Planned := planned
      exact planned_dropKept subscribed name
  | drop name => exact planned_dropKept planned name
  | publish event => exact congrArg (· + 1) planned

theorem planned_step? (planned : dispatch.Planned)
    (steps : dispatch.step? = some next) : next.Planned := by
  unfold Dispatch.step? at steps
  split at steps
  · cases steps
  · next action actions outer plans =>
      cases steps
      have begun :
          ({ dispatch with plans := actions :: outer } : Dispatch).Planned := by
        simpa [Planned, plans] using planned
      exact planned_perform begun action
  · next outer plans =>
      rw [Planned, plans, List.length_cons] at planned
      split at steps
      · next subscription event traffic tells =>
          cases steps
          obtain ⟨waiting, others, underWay, rfl⟩ := Traffic.of_tell? tells
          have same :
              (⟨event, waiting⟩ :: others).length =
                dispatch.underWay.length := by
            simp [underWay]
          unfold Dispatch.respond
          dsimp only
          split <;> simpa [Planned, same] using planned
      · obtain ⟨traffic, finishes, rfl⟩ := Option.map_eq_some_iff.mp steps
        unfold Traffic.finish? at finishes
        split at finishes
        · next underWay =>
            cases finishes
            simpa [Planned, underWay] using planned
        · cases finishes

theorem underWay_of_step?_eq_none (planned : dispatch.Planned)
    (still : dispatch.step? = none) :
    dispatch.underWay = [] := by
  unfold Dispatch.step? at still
  split at still
  · next plans => simp [Planned, plans] at planned
  · cases still
  · next outer plans =>
      split at still
      · cases still
      · next silent =>
          have lasting := Option.map_eq_none_iff.mp still
          cases underWay : dispatch.underWay with
          | nil => rfl
          | cons publication rest =>
              obtain ⟨event, waiting⟩ := publication
              cases waiting with
              | nil => simp [Traffic.finish?, underWay] at lasting
              | cons subscription waiting =>
                  simp [Traffic.tell?, underWay] at silent

theorem Follows.run (follows : Follows chronicle log dispatch)
    (planned : dispatch.Planned) :
    dispatch.run.underWay = [] ∧
      ∃ noted, chronicle.LeadsTo noted ∧ Follows noted log dispatch.run := by
  induction dispatch using Dispatch.run.induct generalizing chronicle with
  | case1 dispatch still =>
      rw [Dispatch.run, still]
      exact ⟨underWay_of_step?_eq_none planned still, chronicle, .refl, follows⟩
  | case2 dispatch next steps induction =>
      rw [Dispatch.run, steps]
      obtain ⟨between, early, follows⟩ := follows.step steps
      obtain ⟨closed, noted, late, follows⟩ :=
        induction follows (planned_step? planned steps)
      exact ⟨closed, noted, early.trans late, follows⟩

/-- Scripted handlers after one action after the other, and all that has been
noted. -/
def actOnAll (dispatch : Dispatch) : List Action → Dispatch × List String
  | [] => (dispatch, [])
  | action :: actions =>
      let acted := dispatch.actOn action
      let (last, log) := acted.actOnAll actions
      (last, acted.notes ++ log)

theorem Follows.actOn (follows : Follows chronicle log dispatch)
    (closed : dispatch.underWay = []) (action : Action) :
    (dispatch.actOn action).underWay = [] ∧
      ∃ noted,
        chronicle.LeadsTo noted ∧
          Follows noted (log ++ dispatch.notes) (dispatch.actOn action) := by
  have begun : Follows chronicle (log ++ dispatch.notes)
      { dispatch with plans := [[action]], notes := [] } :=
    ⟨follows.traffic, follows.numbered, by simpa using follows.texts,
      follows.kept⟩
  have planned :
      ({ dispatch with
        plans := [[action]], notes := [] } : Dispatch).Planned := by
    simp [Planned, closed]
  exact begun.run planned

theorem Follows.actOnAll (follows : Follows chronicle log dispatch)
    (closed : dispatch.underWay = []) (actions : List Action) :
    (dispatch.actOnAll actions).1.underWay = [] ∧
      ∃ noted,
        chronicle.LeadsTo noted ∧
          noted.traffic = (dispatch.actOnAll actions).1.toTraffic ∧
            textsOf noted.notes =
              log ++ dispatch.notes ++ (dispatch.actOnAll actions).2 := by
  induction actions generalizing chronicle log dispatch with
  | nil =>
      exact ⟨closed, chronicle, .refl,
        follows.traffic, by simpa [Dispatch.actOnAll] using follows.texts⟩
  | cons action actions induction =>
      obtain ⟨acted, between, early, follows⟩ := follows.actOn closed action
      obtain ⟨ended, noted, late, same, texts⟩ := induction follows acted
      refine ⟨ended, noted, early.trans late, same, ?_⟩
      rw [texts, List.append_assoc (log ++ dispatch.notes)]
      rfl

/-- Whatever scripted handlers do is a run of the bus; they note what they are
told, and in the end no publication is under way. -/
theorem exists_chronicle (actions : List Action) :
    ∃ moves chronicle, Chronicle.start.run? moves = some chronicle ∧
      chronicle.traffic = (idle.actOnAll actions).1.toTraffic ∧
      chronicle.traffic.underWay = [] ∧
        textsOf chronicle.notes = (idle.actOnAll actions).2 := by
  have started : Follows .start [] idle := ⟨rfl, rfl, rfl, nofun⟩
  obtain ⟨closed, chronicle, ⟨moves, runs⟩, same, texts⟩ :=
    started.actOnAll rfl actions
  exact ⟨moves, chronicle, runs, same, same ▸ closed, texts⟩

end Dispatch

end LessonSite
