import LessonSite.Proofs.Client.Traffic

/-!
# The order in which a subscription is told

A subscription is told of every event of its channel, but an event that is
published while it is still to be told of an earlier one comes first.  What it
has been told and what it is still to be told of, the innermost publication
first, make up a schedule; a telling leaves the schedule as it is, and an event
that is published comes in where what has been told ends.
-/

namespace LessonSite

variable {Handler : Type}

open Traffic (Move Note)

namespace Publication

/-- A publication is still to tell a subscription. -/
def Awaits (publication : Publication Handler) (id : Nat) : Prop :=
  ∃ subscription ∈ publication.waiting, subscription.id = id

instance (publication : Publication Handler) (id : Nat) :
    Decidable (publication.Awaits id) :=
  inferInstanceAs
    (Decidable (∃ subscription ∈ publication.waiting, subscription.id = id))

variable {event : Event} {told : Subscription Handler}
  {waiting : List (Subscription Handler)}

theorem not_awaits_nil (event : Event) (id : Nat) :
    ¬ (⟨event, []⟩ : Publication Handler).Awaits id := by
  rintro ⟨other, waits, -⟩
  cases waits

theorem awaits_self :
    (⟨event, told :: waiting⟩ : Publication Handler).Awaits told.id :=
  ⟨told, List.mem_cons_self, rfl⟩

theorem not_awaits_of_once (once : ((told :: waiting).map (·.id)).Nodup) :
    ¬ (⟨event, waiting⟩ : Publication Handler).Awaits told.id := by
  rintro ⟨other, waits, same⟩
  exact (List.nodup_cons.mp once).1 (List.mem_map.mpr ⟨other, waits, same⟩)

theorem awaits_cons_iff {id : Nat} (different : told.id ≠ id) :
    (⟨event, told :: waiting⟩ : Publication Handler).Awaits id ↔
      (⟨event, waiting⟩ : Publication Handler).Awaits id := by
  simp [Awaits, different]

/-- A live subscription is to be told of what is published now on its channel,
and of nothing else. -/
theorem awaits_receivers_iff {traffic : Traffic Handler} (sound : traffic.Sound)
    {subscription : Subscription Handler}
    (live : subscription ∈ traffic.bus.live) (event : Event) :
    (⟨event, traffic.bus.receivers event.channel⟩ : Publication Handler).Awaits
        subscription.id ↔
      event.channel = subscription.channel := by
  constructor
  · rintro ⟨other, receives, same⟩
    obtain ⟨alive, channel⟩ := List.mem_filter.mp receives
    rw [sound.eq_of_id live alive same] at channel
    exact (of_decide_eq_true channel).symm
  · intro here
    exact ⟨subscription, List.mem_filter.mpr ⟨live, decide_eq_true here.symm⟩,
      rfl⟩

end Publication

/-- What a subscription is told, with the number of the publication. -/
@[simp] def Traffic.Note.heard? (id : Nat) : Note Handler → Option (Nat × Event)
  | .tells number subscription event =>
      if subscription.id = id then some (number, event) else none
  | _ => none

/-- What a subscription has been told. -/
def heard (id : Nat) (notes : List (Note Handler)) : List (Nat × Event) :=
  notes.filterMap (Note.heard? id)

/-- The events of a channel that have been published. -/
def published (channel : Channel) (notes : List (Note Handler)) :
    List (Nat × Event) :=
  (begun notes).filter fun (_, event) => event.channel = channel

/-- A subscription has been told of all events of its channel that have been
published. -/
def UpToDate (subscription : Subscription Handler)
    (notes : List (Note Handler)) : Prop :=
  published subscription.channel notes ⊆ heard subscription.id notes

/-- What publications are still to tell a subscription. -/
def dueTo (id : Nat) (publications : List (Nat × Publication Handler)) :
    List (Nat × Event) :=
  publications.filterMap fun (number, publication) =>
    if publication.Awaits id then some (number, publication.event) else none

theorem dueTo_cons_of_awaits {id : Nat} {publication : Publication Handler}
    (awaits : publication.Awaits id) (number : Nat)
    (outer : List (Nat × Publication Handler)) :
    dueTo id ((number, publication) :: outer) =
      (number, publication.event) :: dueTo id outer := by
  simp [dueTo, awaits]

theorem dueTo_cons_of_not_awaits {id : Nat} {publication : Publication Handler}
    (passes : ¬ publication.Awaits id) (number : Nat)
    (outer : List (Nat × Publication Handler)) :
    dueTo id ((number, publication) :: outer) = dueTo id outer := by
  simp [dueTo, passes]

@[simp] theorem heard_concat (id : Nat) (notes : List (Note Handler))
    (note : Note Handler) :
    heard id (notes ++ [note]) = heard id notes ++ (note.heard? id).toList :=
  filterMap_concat _ _ _

theorem published_begins (channel : Channel) (notes : List (Note Handler))
    {number : Nat} {event : Event} (here : event.channel = channel) :
    published channel (notes ++ [.begins number event]) =
      published channel notes ++ [(number, event)] := by
  simp [published, here]

theorem published_append (channel : Channel)
    (first later : List (Note Handler)) :
    published channel (first ++ later) =
      published channel first ++ published channel later := by
  rw [published, begun, List.filterMap_append, List.filter_append]
  rfl

theorem begins_mem_of_mem_published {channel : Channel}
    {notes : List (Note Handler)} {number : Nat}
    {event : Event} (member : (number, event) ∈ published channel notes) :
    .begins number event ∈ notes := by
  obtain ⟨note, listed, begins⟩ :=
    List.mem_filterMap.mp (List.mem_of_mem_filter member)
  cases note <;> cases begins
  exact listed

theorem mem_published_begins {channel : Channel} {number : Nat} {event : Event}
    (here : event.channel = channel) (first rest : List (Note Handler)) :
    (number, event) ∈
      published channel (first ++ .begins number event :: rest) := by
  rw [published_append]
  exact List.mem_append_right _
    (List.mem_filter.mpr
      ⟨List.mem_filterMap.mpr ⟨_, List.mem_cons_self, rfl⟩,
        decide_eq_true here⟩)

/-- A note that is about another channel or about no publication. -/
theorem published_concat (channel : Channel) (notes : List (Note Handler))
    {note : Note Handler}
    (elsewhere : ∀ number event,
      note = .begins number event → event.channel ≠ channel) :
    published channel (notes ++ [note]) = published channel notes := by
  cases note with
  | begins number event => simp [published, elsewhere number event rfl]
  | _ => simp [published]

namespace Chronicle

variable {chronicle next : Chronicle Handler}
  {subscription : Subscription Handler} {after : List (Note Handler)}

/-- What a subscription is still to be told of, the innermost publication
first. -/
def outstanding (id : Nat) (chronicle : Chronicle Handler) :
    List (Nat × Event) :=
  dueTo id (chronicle.numbers.zip chronicle.traffic.underWay)

/-- A step publishes an event of the channel of a live subscription, which is
then to be told of it first, or else what it has been told and is to be told of
stays the same. -/
theorem Step.outstanding {note : Note Handler} (step : Step chronicle note next)
    (sound : chronicle.traffic.Sound)
    (live : subscription ∈ chronicle.traffic.bus.live) :
    (∃ event, note = .begins (begun chronicle.notes).length event ∧
      event.channel = subscription.channel ∧ next.outstanding subscription.id =
        ((begun chronicle.notes).length, event) ::
          chronicle.outstanding subscription.id) ∨
    (∀ number event,
        note = .begins number event → event.channel ≠ subscription.channel) ∧
      (note.heard? subscription.id).toList ++ next.outstanding subscription.id =
        chronicle.outstanding subscription.id := by
  cases step with
  | joins channel handler => exact .inr ⟨nofun, rfl⟩
  | leaves made => exact .inr ⟨nofun, rfl⟩
  | @begins bus underWay numbers notes event =>
      have awaits := Publication.awaits_receivers_iff sound live event
      by_cases here : event.channel = subscription.channel
      · exact .inl
          ⟨event, rfl, here, dueTo_cons_of_awaits (awaits.mpr here) _ _⟩
      · refine .inr ⟨?_, dueTo_cons_of_not_awaits (mt awaits.mp here) _ _⟩
        rintro number other ⟨⟩
        exact here
  | @tells bus outer event told waiting number numbers notes =>
      refine .inr ⟨nofun, ?_⟩
      have once := sound.once _ List.mem_cons_self
      rw [Chronicle.outstanding, Chronicle.outstanding, List.zip_cons_cons,
        List.zip_cons_cons, Note.heard?]
      by_cases same : told.id = subscription.id
      · rw [← same, dueTo_cons_of_awaits Publication.awaits_self,
          dueTo_cons_of_not_awaits (Publication.not_awaits_of_once once),
          if_pos rfl]
        rfl
      · have still :
            (⟨event, told :: waiting⟩ : Publication Handler).Awaits
                subscription.id ↔
              (⟨event, waiting⟩ : Publication Handler).Awaits subscription.id :=
          Publication.awaits_cons_iff same
        rw [if_neg same]
        by_cases awaits : (⟨event, waiting⟩ : Publication Handler).Awaits
          subscription.id
        · rw [dueTo_cons_of_awaits awaits,
            dueTo_cons_of_awaits (still.mpr awaits)]
          rfl
        · rw [dueTo_cons_of_not_awaits awaits,
            dueTo_cons_of_not_awaits (mt still.mp awaits)]
          rfl
  | @ends bus outer event number numbers notes =>
      exact .inr
        ⟨nofun,
          (dueTo_cons_of_not_awaits (Publication.not_awaits_nil _ _) _ _).symm⟩

end Chronicle

/-- What a subscription has been told since some moment, and then what it is
still to be told of. -/
def schedule (subscription : Subscription Handler) (after : List (Note Handler))
    (due : List (Nat × Event)) : List (Nat × Event) :=
  heard subscription.id after ++ due

/-- A schedule has the events that have been published, each once; an event
comes in behind what had been told when it was published; the last one is the
last that was published when nothing was due; and if this is so of all of them,
they are in the order in which they were published. -/
structure Scheduled (subscription : Subscription Handler)
    (after : List (Note Handler)) (due : List (Nat × Event)) : Prop where
  distinct : (published subscription.channel after).Nodup
  all :
    (schedule subscription after due).Perm
      (published subscription.channel after)
  order :
    ∀ first number event rest, after = first ++ .begins number event :: rest →
      event.channel = subscription.channel →
      ∀ earlier ∈ published subscription.channel first,
        [earlier, (number, event)].Sublist (schedule subscription after due) ↔
          earlier ∈ heard subscription.id first
  last :
    ∀ first number event rest, after = first ++ .begins number event :: rest →
      event.channel = subscription.channel → UpToDate subscription first →
        (∀ nearer other later further,
          rest = nearer ++ .begins other later :: further →
            later.channel = subscription.channel →
              ¬ UpToDate subscription
                (first ++ .begins number event :: nearer)) →
        (schedule subscription after due).getLast? = some (number, event)
  straight :
    (∀ first number event rest, after = first ++ .begins number event :: rest →
      event.channel = subscription.channel → UpToDate subscription first) →
        schedule subscription after due = published subscription.channel after

namespace Scheduled

variable {subscription : Subscription Handler} {after : List (Note Handler)}
  {due : List (Nat × Event)}

theorem none (subscription : Subscription Handler) :
    Scheduled subscription [] [] where
  distinct := List.nodup_nil
  all := .refl _
  order first number event rest split := by simp at split
  last first number event rest split := by simp at split
  straight _ := rfl

/-- A subscription is up to date just when nothing is due. -/
theorem upToDate_iff (scheduled : Scheduled subscription after due) :
    UpToDate subscription after ↔ due = [] := by
  have distinct : (schedule subscription after due).Nodup :=
    scheduled.all.nodup_iff.mpr scheduled.distinct
  constructor
  · intro upToDate
    refine List.eq_nil_iff_forall_not_mem.mpr fun entry member => ?_
    have listed := scheduled.all.subset (List.mem_append_right _ member)
    exact (List.disjoint_of_nodup_append distinct) (upToDate listed) member
  · rintro rfl entry member
    have listed := scheduled.all.symm.subset member
    rwa [schedule, List.append_nil] at listed

/-- The subscription is told of what is due first, or nothing happens to it. -/
theorem concat (scheduled : Scheduled subscription after due)
    {note : Note Handler} {left : List (Nat × Event)}
    (elsewhere : ∀ number event,
      note = .begins number event → event.channel ≠ subscription.channel)
    (same : (note.heard? subscription.id).toList ++ left = due) :
    Scheduled subscription (after ++ [note]) left := by
  have unchanged :
      schedule subscription (after ++ [note]) left =
        schedule subscription after due := by
    rw [schedule, schedule, heard_concat, List.append_assoc, same]
  have known := published_concat subscription.channel after elsewhere
  have before :
      ∀ {first number event rest},
        after ++ [note] = first ++ .begins number event :: rest →
          event.channel = subscription.channel →
            ∃ others,
              rest = others ++ [note] ∧
                after = first ++ .begins number event :: others := by
    intro first number event rest split here
    rcases split_concat split with ⟨-, begins, -⟩ | earlier
    · exact absurd here (elsewhere number event begins)
    · exact earlier
  refine ⟨?_, ?_, ?_, ?_, ?_⟩
  · rw [known]
    exact scheduled.distinct
  · rw [known, unchanged]
    exact scheduled.all
  · intro first number event rest split here
    obtain ⟨others, rfl, earlier⟩ := before split here
    rw [unchanged]
    exact scheduled.order first number event others earlier here
  · intro first number event rest split here upToDate late
    obtain ⟨others, rfl, earlier⟩ := before split here
    rw [unchanged]
    refine scheduled.last first number event others earlier here upToDate ?_
    rintro nearer other later further rfl there
    exact late nearer other later (further ++ [note]) (by simp) there
  · intro prompt
    rw [known, unchanged]
    refine scheduled.straight fun first number event rest split here => ?_
    exact prompt first number event (rest ++ [note]) (by simp [split]) here

theorem begins (scheduled : Scheduled subscription after due) {number : Nat}
    {event : Event}
    (fresh : ∀ other, (number, other) ∉ published subscription.channel after)
    (here : event.channel = subscription.channel) :
    Scheduled subscription (after ++ [.begins number event])
      ((number, event) :: due) := by
  have known :
      published subscription.channel (after ++ [.begins number event]) =
        published subscription.channel after ++ [(number, event)] :=
    published_begins _ _ here
  have put :
      schedule subscription (after ++ [.begins number event])
          ((number, event) :: due) =
        heard subscription.id after ++ (number, event) :: due := by
    rw [schedule, heard_concat]
    simp
  have absent :
      ∀ {entry},
        entry ∈ published subscription.channel after →
        entry ≠ (number, event) := by
    rintro entry member rfl
    exact fresh event member
  refine ⟨?_, ?_, ?_, ?_, ?_⟩
  · rw [known]
    exact scheduled.distinct.append (List.nodup_singleton _)
      (by simpa using fresh event)
  · rw [known, put]
    exact List.perm_middle.trans
      ((scheduled.all.cons _).trans (List.perm_append_singleton _ _).symm)
  · intro first other later rest split there earlier member
    rw [put]
    rcases split_concat split with ⟨rfl, ⟨rfl, rfl⟩, rfl⟩ | ⟨others, rfl, older⟩
    · refine pair_sublist_concat_iff (fun old => ?_) (fun old => ?_)
      · exact absent (scheduled.all.subset (List.mem_append_left _ old)) rfl
      · exact absent (scheduled.all.subset (List.mem_append_right _ old)) rfl
    · have before : earlier ∈ published subscription.channel after := by
        rw [older, published_append]
        exact List.mem_append_left _ member
      have behind : (other, later) ∈ published subscription.channel after :=
        older ▸ mem_published_begins there first others
      rw [pair_sublist_insert (absent before) (absent behind)]
      exact scheduled.order first other later others older there earlier member
  · intro first other later rest split there upToDate late
    rw [put]
    rcases split_concat split with ⟨rfl, ⟨rfl, rfl⟩, rfl⟩ | ⟨others, rfl, older⟩
    · rw [scheduled.upToDate_iff.mp upToDate]
      exact List.getLast?_concat
    · have waits : due ≠ [] := by
        intro nothing
        refine late others number event [] rfl here ?_
        rw [← older]
        exact scheduled.upToDate_iff.mpr nothing
      have stays :=
        scheduled.last first other later others older there upToDate ?_
      · obtain ⟨entry, more, rfl⟩ := List.exists_cons_of_ne_nil waits
        rw [schedule] at stays
        simpa [List.getLast?_append] using stays
      · rintro nearer another latest further rfl same
        exact late nearer another latest (further ++ [.begins number event])
          (by simp) same
  · intro prompt
    have nothing : due = [] :=
      scheduled.upToDate_iff.mp (prompt after number event [] rfl here)
    have inOrder := scheduled.straight fun first other later rest split there =>
      prompt first other later (rest ++ [.begins number event])
        (by simp [split]) there
    rw [schedule, nothing, List.append_nil] at inOrder
    rw [known, put, nothing, inOrder]

end Scheduled

namespace Chronicle

variable {chronicle next : Chronicle Handler}
  {subscription : Subscription Handler}

theorem Step.live {note : Note Handler} (step : Step chronicle note next)
    (live : subscription ∈ chronicle.traffic.bus.live)
    (stays : note ≠ .leaves subscription.id) :
    subscription ∈ next.traffic.bus.live := by
  cases step with
  | joins channel handler => exact List.mem_append_left _ live
  | leaves made =>
      refine List.mem_filter.mpr ⟨live, decide_eq_true fun same => stays ?_⟩
      rw [same]
  | begins event => exact live
  | tells => exact live
  | ends => exact live

/-- Nothing is to be told to a subscription that has not been made. -/
theorem outstanding_of_le (sound : chronicle.traffic.Sound) {id : Nat}
    (new : chronicle.traffic.bus.nextId ≤ id) :
    chronicle.outstanding id = [] := by
  refine List.filterMap_eq_nil_iff.mpr fun entry member => ?_
  have passes : ¬ entry.2.Awaits id := by
    rintro ⟨other, waits, rfl⟩
    have old := (sound.waiting entry.2 (List.of_mem_zip member).2 other waits).1
    exact Nat.lt_irrefl _ (Nat.lt_of_lt_of_le old new)
  exact if_neg passes

/-- Every subscription that has not been dropped is live and has its
schedule. -/
def Schedules (chronicle : Chronicle Handler) : Prop :=
  ∀ before subscription after,
    chronicle.notes = before ++ .joins subscription :: after →
      subscription.id ∉ left after → subscription ∈ chronicle.traffic.bus.live ∧
        Scheduled subscription after (chronicle.outstanding subscription.id)

theorem schedules_start : (start : Chronicle Handler).Schedules := by
  intro before subscription after split
  have none := congrArg List.length split
  simp [start] at none

theorem Schedules.step {note : Note Handler} (schedules : chronicle.Schedules)
    (sound : chronicle.traffic.Sound) (numbered : chronicle.Numbered)
    (step : Step chronicle note next) : next.Schedules := by
  intro before subscription after split stays
  rw [step.notes] at split
  rcases split_concat split with ⟨-, rfl, rfl⟩ | ⟨rest, rfl, earlier⟩
  · cases step with
    | joins channel handler =>
        refine ⟨List.mem_append_right _ List.mem_cons_self, ?_⟩
        have nothing := outstanding_of_le sound (Nat.le_refl _)
        exact nothing ▸ Scheduled.none _
  · have stayed : subscription.id ∉ left rest := by
      intro gone
      refine stays ?_
      rw [left_concat]
      exact List.mem_append_left _ gone
    have remains : note ≠ .leaves subscription.id := by
      rintro rfl
      simp at stays
    obtain ⟨live, scheduled⟩ :=
      schedules before subscription rest earlier stayed
    refine ⟨step.live live remains, ?_⟩
    rcases step.outstanding sound live with
      ⟨event, rfl, here, due⟩ | ⟨elsewhere, due⟩
    · rw [due]
      refine scheduled.begins (fun other member => ?_) here
      have inside : ∀ note ∈ rest, note ∈ chronicle.notes := by
        intro note member
        rw [earlier]
        exact List.mem_append_right _ (List.mem_cons_of_mem _ member)
      exact Nat.lt_irrefl _
        (numbered.begun_lt (inside _ (begins_mem_of_mem_published member)))
    · exact scheduled.concat elsewhere due

/-- What the schedules rest on, and the schedules. -/
structure Orderly (chronicle : Chronicle Handler) : Prop where
  sound : chronicle.traffic.Sound
  numbered : chronicle.Numbered
  schedules : chronicle.Schedules

theorem orderly_run? {moves : List (Move Handler)}
    (runs : start.run? moves = some chronicle) :
    chronicle.Orderly := by
  refine run?_induction
    ⟨Traffic.sound_idle, numbered_start, schedules_start⟩ ?_ runs
  intro chronicle note next orderly step
  exact ⟨orderly.sound.step step.traffic, orderly.numbered.step step,
    orderly.schedules.step orderly.sound orderly.numbered step⟩

/-- Nothing is due to a subscription for which no publication waits. -/
theorem outstanding_of_not_awaits {id : Nat}
    (settled : ∀ publication ∈ chronicle.traffic.underWay,
      ¬ publication.Awaits id) :
    chronicle.outstanding id = [] :=
  List.filterMap_eq_nil_iff.mpr fun entry member =>
    if_neg (settled entry.2 (List.of_mem_zip member).2)

end Chronicle

/-- How a subscription has been told of what has been published since it was
made: of every event of its channel exactly once.  Of two events the one that
was published first comes first just when the subscription had been told of it
before the other was published; so they come in the order in which they were
published just when the subscription was up to date each time, and the last one
is the last that was published while it was up to date. -/
structure HeardInTurn (subscription : Subscription Handler)
    (after : List (Note Handler)) : Prop where
  once :
    (heard subscription.id after).Perm (published subscription.channel after)
  first_iff :
    ∀ first number event rest, after = first ++ .begins number event :: rest →
      event.channel = subscription.channel →
      ∀ earlier ∈ published subscription.channel first,
        [earlier, (number, event)].Sublist (heard subscription.id after) ↔
          earlier ∈ heard subscription.id first
  inOrder_iff :
    heard subscription.id after = published subscription.channel after ↔
      ∀ first number event rest, after = first ++ .begins number event :: rest →
        event.channel = subscription.channel → UpToDate subscription first
  last :
    ∀ first number event rest, after = first ++ .begins number event :: rest →
      event.channel = subscription.channel → UpToDate subscription first →
        (∀ nearer other later further,
          rest = nearer ++ .begins other later :: further →
            later.channel = subscription.channel →
              ¬ UpToDate subscription
                (first ++ .begins number event :: nearer)) →
        (heard subscription.id after).getLast? = some (number, event)

/-- A subscription that is not dropped, and that no publication waits to tell,
has been told in turn. -/
theorem Chronicle.heardInTurn {chronicle : Chronicle Handler}
    {moves : List (Move Handler)}
    (runs : start.run? moves = some chronicle)
    {before after : List (Note Handler)}
    {subscription : Subscription Handler}
    (split : chronicle.notes = before ++ .joins subscription :: after)
    (stays : subscription.id ∉ left after)
    (told : ∀ publication ∈ chronicle.traffic.underWay,
      ¬ publication.Awaits subscription.id) :
    HeardInTurn subscription after := by
  obtain ⟨-, scheduled⟩ :=
    (orderly_run? runs).schedules before subscription after split stays
  rw [outstanding_of_not_awaits told] at scheduled
  obtain ⟨-, all, order, last, straight⟩ := scheduled
  simp only [schedule, List.append_nil] at all order last straight
  refine ⟨all, order, ⟨?_, straight⟩, last⟩
  intro inOrder first number event rest here there earlier member
  rw [← order first number event rest here there earlier member, inOrder, here,
    published_append]
  have behind :
      (number, event) ∈
        published subscription.channel (.begins number event :: rest) :=
    mem_published_begins there [] rest
  exact (List.singleton_sublist.mpr member).append
    (List.singleton_sublist.mpr behind)

end LessonSite
