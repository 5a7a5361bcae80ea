import LessonSite.Client.Traffic
import LessonSite.Proofs.Lists
import Mathlib.Data.List.Nodup
import Mathlib.Data.List.Range
import Mathlib.Tactic.Common

/-!
# What is told of an event

What handlers do is not known: between two tellings a handler may subscribe,
drop subscriptions and publish in any order.  Whatever is done, every
publication tells the subscriptions that were live when it began, and no others.
-/

namespace LessonSite

variable {Handler : Type}

namespace Traffic

/-- Something that happens on a bus.  What a handler does is a sequence of
moves, up to the next telling or the end of the publication that has told it. -/
inductive Move (Handler : Type) where
  | subscribe (channel : Channel) (handler : Handler)
  | drop (id : Nat)
  | publish (event : Event)
  /-- The innermost publication tells the next subscription. -/
  | tell
  /-- The innermost publication is over. -/
  | finish
  deriving DecidableEq, Repr

/-- The traffic after a move, if it can be made.  Only a subscription that has
been made can be dropped. -/
def step? (traffic : Traffic Handler) : Move Handler → Option (Traffic Handler)
  | .subscribe channel handler => some (traffic.subscribe channel handler)
  | .drop id => if id < traffic.bus.nextId then some (traffic.drop id) else none
  | .publish event => some (traffic.publish event)
  | .tell => traffic.tell?.map fun (_, _, next) => next
  | .finish => traffic.finish?

/-- The traffic after one move after the other. -/
def run? (traffic : Traffic Handler) (moves : List (Move Handler)) :
    Option (Traffic Handler) :=
  moves.foldlM step? traffic

theorem of_tell? {traffic next : Traffic Handler}
    {subscription : Subscription Handler} {event : Event}
    (tells : traffic.tell? = some (subscription, event, next)) :
    ∃ waiting outer,
      traffic.underWay = ⟨event, subscription :: waiting⟩ :: outer ∧
        next = ⟨traffic.bus, ⟨event, waiting⟩ :: outer⟩ := by
  obtain ⟨bus, underWay⟩ := traffic
  cases underWay with
  | nil => cases tells
  | cons publication outer =>
      obtain ⟨other, waiting⟩ := publication
      cases waiting with
      | nil => cases tells
      | cons first waiting =>
          cases tells
          exact ⟨waiting, outer, rfl, rfl⟩

/-- What a move can do. -/
inductive Step : Traffic Handler → Move Handler → Traffic Handler → Prop where
  | subscribe {bus : Bus Handler} {underWay : List (Publication Handler)}
      (channel : Channel) (handler : Handler) :
      Step ⟨bus, underWay⟩ (.subscribe channel handler)
        ⟨bus.subscribe channel handler, underWay⟩
  | drop {bus : Bus Handler} {underWay : List (Publication Handler)} {id : Nat}
      (made : id < bus.nextId) :
      Step ⟨bus, underWay⟩ (.drop id) ⟨bus.unsubscribe id, underWay⟩
  | publish {bus : Bus Handler} {underWay : List (Publication Handler)}
      (event : Event) :
      Step ⟨bus, underWay⟩ (.publish event)
        ⟨bus, ⟨event, bus.receivers event.channel⟩ :: underWay⟩
  | tell {bus : Bus Handler} {outer : List (Publication Handler)}
      {event : Event}
      {subscription : Subscription Handler}
      {waiting : List (Subscription Handler)} :
      Step ⟨bus, ⟨event, subscription :: waiting⟩ :: outer⟩ .tell
        ⟨bus, ⟨event, waiting⟩ :: outer⟩
  | finish {bus : Bus Handler} {outer : List (Publication Handler)}
      {event : Event} :
      Step ⟨bus, ⟨event, []⟩ :: outer⟩ .finish ⟨bus, outer⟩

theorem step_of_step? {traffic next : Traffic Handler} {move : Move Handler}
    (steps : traffic.step? move = some next) : Step traffic move next := by
  obtain ⟨bus, underWay⟩ := traffic
  cases move with
  | subscribe channel handler =>
      cases steps
      exact .subscribe channel handler
  | drop id =>
      simp only [step?, Option.ite_none_right_eq_some,
        Option.some.injEq] at steps
      obtain ⟨made, rfl⟩ := steps
      exact .drop made
  | publish event =>
      cases steps
      exact .publish event
  | tell =>
      simp only [step?, tell?] at steps
      split at steps
      · cases steps
        exact .tell
      · cases steps
  | finish =>
      simp only [step?, finish?] at steps
      split at steps
      · cases steps
        exact .finish
      · cases steps

theorem Step.nextId_le {traffic next : Traffic Handler} {move : Move Handler}
    (step : Step traffic move next) : traffic.bus.nextId ≤ next.bus.nextId := by
  cases step with
  | subscribe channel handler => exact Nat.le_succ _
  | drop made => exact Nat.le_refl _
  | publish event => exact Nat.le_refl _
  | tell => exact Nat.le_refl _
  | finish => exact Nat.le_refl _

/-- Subscriptions have been given numbers of their own, and a publication is to
tell subscriptions to its channel, each once; those that are still live are the
same ones. -/
structure Sound (traffic : Traffic Handler) : Prop where
  distinct : (traffic.bus.live.map (·.id)).Nodup
  made : ∀ subscription ∈ traffic.bus.live, subscription.id < traffic.bus.nextId
  once :
    ∀ publication ∈ traffic.underWay, (publication.waiting.map (·.id)).Nodup
  waiting :
    ∀ publication ∈ traffic.underWay, ∀ subscription ∈ publication.waiting,
      subscription.id < traffic.bus.nextId ∧
        subscription.channel = publication.event.channel
  same : ∀ publication ∈ traffic.underWay, ∀ subscription ∈ publication.waiting,
    ∀ other ∈ traffic.bus.live,
      other.id = subscription.id → other = subscription

theorem sound_idle : (idle : Traffic Handler).Sound :=
  ⟨List.nodup_nil, nofun, nofun, nofun, nofun⟩

/-- A subscription that is live is the only one with its number. -/
theorem Sound.eq_of_id {traffic : Traffic Handler} (sound : traffic.Sound)
    {subscription other : Subscription Handler}
    (live : subscription ∈ traffic.bus.live)
    (alive : other ∈ traffic.bus.live) (same : other.id = subscription.id) :
    other = subscription :=
  List.inj_on_of_nodup_map sound.distinct alive live same

theorem Sound.subscribe {traffic : Traffic Handler} (sound : traffic.Sound)
    (channel : Channel)
    (handler : Handler) : (traffic.subscribe channel handler).Sound := by
  obtain ⟨distinct, made, once, waiting, same⟩ := sound
  refine ⟨?_, ?_, once, ?_, ?_⟩
  · rw [Traffic.subscribe, Bus.subscribe, List.map_append, List.nodup_append]
    refine ⟨distinct, List.nodup_singleton _, ?_⟩
    intro id old other new same
    obtain ⟨subscription, member, rfl⟩ := List.mem_map.mp old
    rw [List.mem_singleton.mp new] at same
    exact (made subscription member).ne same
  · intro subscription member
    rcases List.mem_append.mp member with old | new
    · exact Nat.lt_succ_of_lt (made subscription old)
    · rw [List.mem_singleton.mp new]
      exact Nat.lt_succ_self _
  · intro publication member subscription waits
    obtain ⟨old, channel⟩ := waiting publication member subscription waits
    exact ⟨Nat.lt_succ_of_lt old, channel⟩
  · intro publication member subscription waits other live equal
    rcases List.mem_append.mp live with old | new
    · exact same publication member subscription waits other old equal
    · rw [List.mem_singleton.mp new] at equal
      exact absurd equal.symm
        (waiting publication member subscription waits).1.ne

theorem Sound.drop {traffic : Traffic Handler} (sound : traffic.Sound)
    (id : Nat) :
    (traffic.drop id).Sound := by
  obtain ⟨distinct, made, once, waiting, same⟩ := sound
  refine ⟨distinct.sublist (List.filter_sublist.map _), ?_, once, waiting, ?_⟩
  · intro subscription member
    exact made subscription (List.mem_of_mem_filter member)
  · intro publication member subscription waits other live
    exact same publication member subscription waits other
      (List.mem_of_mem_filter live)

theorem Sound.publish {traffic : Traffic Handler} (sound : traffic.Sound)
    (event : Event) :
    (traffic.publish event).Sound := by
  obtain ⟨distinct, made, once, waiting, same⟩ := sound
  refine ⟨distinct, made, ?_, ?_, ?_⟩
  · rintro publication (_ | ⟨_, member⟩)
    · exact distinct.sublist (List.filter_sublist.map _)
    · exact once publication member
  · rintro publication (_ | ⟨_, member⟩) subscription waits
    · obtain ⟨live, channel⟩ := List.mem_filter.mp waits
      exact ⟨made subscription live, of_decide_eq_true channel⟩
    · exact waiting publication member subscription waits
  · rintro publication (_ | ⟨_, member⟩) subscription waits other live equal
    · exact List.inj_on_of_nodup_map distinct live
        (List.mem_of_mem_filter waits) equal
    · exact same publication member subscription waits other live equal

theorem Sound.of_waiting {traffic next : Traffic Handler}
    (sound : traffic.Sound) (bus : next.bus = traffic.bus)
    (less : ∀ publication ∈ next.underWay, ∃ before ∈ traffic.underWay,
      publication.event = before.event ∧
        publication.waiting.Sublist before.waiting) : next.Sound := by
  obtain ⟨distinct, made, once, waiting, same⟩ := sound
  refine ⟨bus ▸ distinct, bus ▸ made, ?_, ?_, ?_⟩
  · intro publication member
    obtain ⟨before, older, -, among⟩ := less publication member
    exact (once before older).sublist (among.map _)
  · intro publication member subscription waits
    obtain ⟨before, older, event, among⟩ := less publication member
    rw [bus, event]
    exact waiting before older subscription (among.subset waits)
  · intro publication member subscription waits other live
    obtain ⟨before, older, -, among⟩ := less publication member
    exact same before older subscription (among.subset waits) other (bus ▸ live)

theorem Sound.step {traffic next : Traffic Handler} {move : Move Handler}
    (sound : traffic.Sound) (step : Step traffic move next) : next.Sound := by
  cases step with
  | subscribe channel handler => exact sound.subscribe channel handler
  | drop made => exact sound.drop _
  | publish event => exact sound.publish event
  | tell =>
      refine sound.of_waiting rfl ?_
      rintro publication (_ | ⟨_, member⟩)
      · exact ⟨_, List.mem_cons_self, rfl, List.sublist_cons_self _ _⟩
      · exact ⟨publication, List.mem_cons_of_mem _ member, rfl, .refl _⟩
  | finish =>
      refine sound.of_waiting rfl ?_
      intro publication member
      exact ⟨publication, List.mem_cons_of_mem _ member, rfl, .refl _⟩

theorem Sound.run {traffic next : Traffic Handler} {moves : List (Move Handler)}
    (sound : traffic.Sound)
    (runs : traffic.run? moves = some next) : next.Sound := by
  induction moves generalizing traffic with
  | nil =>
      cases runs
      exact sound
  | cons move moves induction =>
      obtain ⟨between, steps, later⟩ := Option.bind_eq_some_iff.mp runs
      exact induction (sound.step (step_of_step? steps)) later

/-- What is noted of a move.  Publications are numbered in the order in which
they begin. -/
inductive Note (Handler : Type) where
  | joins (subscription : Subscription Handler)
  | leaves (id : Nat)
  | begins (number : Nat) (event : Event)
  | tells (number : Nat) (subscription : Subscription Handler) (event : Event)
  | ends (number : Nat)
  deriving DecidableEq, Repr

/-- The move that a note is about. -/
def Note.move : Note Handler → Move Handler
  | .joins subscription => .subscribe subscription.channel subscription.handler
  | .leaves id => .drop id
  | .begins _ event => .publish event
  | .tells _ _ _ => .tell
  | .ends _ => .finish

/-- The subscription that is made. -/
@[simp] def Note.joined? : Note Handler → Option (Subscription Handler)
  | .joins subscription => some subscription
  | _ => none

/-- The subscription that is dropped. -/
@[simp] def Note.left? : Note Handler → Option Nat
  | .leaves id => some id
  | _ => none

@[simp] def Note.begun? : Note Handler → Option (Nat × Event)
  | .begins number event => some (number, event)
  | _ => none

/-- What a publication tells, and of which event. -/
@[simp] def Note.told? (number : Nat) :
    Note Handler → Option (Subscription Handler × Event)
  | .tells other subscription event =>
      if other = number then some (subscription, event) else none
  | _ => none

end Traffic

open Traffic (Move Note)

/-- The subscriptions that have been made. -/
def joined (notes : List (Note Handler)) : List (Subscription Handler) :=
  notes.filterMap Note.joined?

/-- The subscriptions that have been dropped. -/
def left (notes : List (Note Handler)) : List Nat :=
  notes.filterMap Note.left?

/-- The subscriptions that have been made and not dropped, in the order in which
they were made. -/
def registered (notes : List (Note Handler)) : List (Subscription Handler) :=
  (joined notes).filter fun subscription => subscription.id ∉ left notes

/-- The events that have been published, with the numbers of their
publications. -/
def begun (notes : List (Note Handler)) : List (Nat × Event) :=
  notes.filterMap Note.begun?

/-- What a publication has told, and of which event. -/
def told (number : Nat) (notes : List (Note Handler)) :
    List (Subscription Handler × Event) :=
  notes.filterMap (Note.told? number)

/-- What is to be told of an event that is published after some notes. -/
def addressees (notes : List (Note Handler)) (event : Event) :
    List (Subscription Handler × Event) :=
  ((registered notes).filter fun subscription =>
    subscription.channel = event.channel).map (·, event)

section Readings

variable {notes : List (Note Handler)}

variable (note : Note Handler)

@[simp] theorem joined_concat :
    joined (notes ++ [note]) = joined notes ++ note.joined?.toList :=
  filterMap_concat _ _ _

@[simp] theorem left_concat :
    left (notes ++ [note]) = left notes ++ note.left?.toList :=
  filterMap_concat _ _ _

@[simp] theorem begun_concat :
    begun (notes ++ [note]) = begun notes ++ note.begun?.toList :=
  filterMap_concat _ _ _

@[simp] theorem told_concat (number : Nat) :
    told number (notes ++ [note]) =
      told number notes ++ (note.told? number).toList :=
  filterMap_concat _ _ _

omit note

theorem registered_joins {subscription : Subscription Handler}
    (new : subscription.id ∉ left notes) :
    registered (notes ++ [.joins subscription]) =
      registered notes ++ [subscription] := by
  simpa [registered] using new

theorem registered_leaves (notes : List (Note Handler)) (id : Nat) :
    registered (notes ++ [.leaves id]) =
      (registered notes).filter fun subscription => subscription.id ≠ id := by
  simp [registered, List.filter_filter, not_or, and_comm]

end Readings

/-- The notes on traffic, with the numbers of the publications under way. -/
structure Chronicle (Handler : Type) where
  traffic : Traffic Handler
  numbers : List Nat
  notes : List (Note Handler)
  deriving DecidableEq, Repr

namespace Chronicle

def start : Chronicle Handler :=
  ⟨.idle, [], []⟩

def note? (chronicle : Chronicle Handler) : Move Handler → Option (Note Handler)
  | .subscribe channel handler =>
      some (.joins ⟨chronicle.traffic.bus.nextId, channel, handler⟩)
  | .drop id => some (.leaves id)
  | .publish event => some (.begins (begun chronicle.notes).length event)
  | .tell =>
      match chronicle.numbers, chronicle.traffic.tell? with
      | number :: _, some (subscription, event, _) =>
          some (.tells number subscription event)
      | _, _ => none
  | .finish => chronicle.numbers.head?.map .ends

/-- The numbers of the publications under way after something has been noted. -/
def numbersAfter (chronicle : Chronicle Handler) : Note Handler → List Nat
  | .begins number _ => number :: chronicle.numbers
  | .ends _ => chronicle.numbers.tail
  | _ => chronicle.numbers

/-- The notes after a move, if it can be made. -/
def step? (chronicle : Chronicle Handler) (move : Move Handler) :
    Option (Chronicle Handler) :=
  match chronicle.traffic.step? move, chronicle.note? move with
  | some traffic, some note =>
      some ⟨traffic, chronicle.numbersAfter note, chronicle.notes ++ [note]⟩
  | _, _ => none

/-- The notes after one move after the other. -/
def run? (chronicle : Chronicle Handler) (moves : List (Move Handler)) :
    Option (Chronicle Handler) :=
  moves.foldlM step? chronicle

/-- What a step can be. -/
inductive Step :
    Chronicle Handler → Note Handler → Chronicle Handler → Prop where
  | joins {bus : Bus Handler} {underWay : List (Publication Handler)}
      {numbers : List Nat}
      {notes : List (Note Handler)} (channel : Channel) (handler : Handler) :
      Step ⟨⟨bus, underWay⟩, numbers, notes⟩
        (.joins ⟨bus.nextId, channel, handler⟩)
        ⟨⟨bus.subscribe channel handler, underWay⟩, numbers,
          notes ++ [.joins ⟨bus.nextId, channel, handler⟩]⟩
  | leaves {bus : Bus Handler} {underWay : List (Publication Handler)}
      {numbers : List Nat}
      {notes : List (Note Handler)} {id : Nat} (made : id < bus.nextId) :
      Step ⟨⟨bus, underWay⟩, numbers, notes⟩ (.leaves id)
        ⟨⟨bus.unsubscribe id, underWay⟩, numbers, notes ++ [.leaves id]⟩
  | begins {bus : Bus Handler} {underWay : List (Publication Handler)}
      {numbers : List Nat} {notes : List (Note Handler)} (event : Event) :
      Step ⟨⟨bus, underWay⟩, numbers, notes⟩
        (.begins (begun notes).length event)
        ⟨⟨bus, ⟨event, bus.receivers event.channel⟩ :: underWay⟩,
          (begun notes).length :: numbers,
          notes ++ [.begins (begun notes).length event]⟩
  | tells {bus : Bus Handler} {outer : List (Publication Handler)}
      {event : Event}
      {subscription : Subscription Handler}
      {waiting : List (Subscription Handler)} {number : Nat}
      {numbers : List Nat} {notes : List (Note Handler)} :
      Step
        ⟨⟨bus, ⟨event, subscription :: waiting⟩ :: outer⟩, number :: numbers,
          notes⟩
        (.tells number subscription event)
        ⟨⟨bus, ⟨event, waiting⟩ :: outer⟩, number :: numbers,
          notes ++ [.tells number subscription event]⟩
  | ends {bus : Bus Handler} {outer : List (Publication Handler)}
      {event : Event} {number : Nat}
      {numbers : List Nat} {notes : List (Note Handler)} :
      Step ⟨⟨bus, ⟨event, []⟩ :: outer⟩, number :: numbers, notes⟩
        (.ends number) ⟨⟨bus, outer⟩, numbers, notes ++ [.ends number]⟩

variable {chronicle next : Chronicle Handler} {move : Move Handler}

theorem step_of_step? (steps : chronicle.step? move = some next) :
    ∃ note, note.move = move ∧ Step chronicle note next := by
  obtain ⟨traffic, numbers, notes⟩ := chronicle
  unfold step? at steps
  split at steps
  · next between note moved noted =>
      cases steps
      cases Traffic.step_of_step? moved with
      | subscribe channel handler =>
          cases noted
          exact ⟨_, rfl, .joins channel handler⟩
      | drop made =>
          cases noted
          exact ⟨_, rfl, .leaves made⟩
      | publish event =>
          cases noted
          exact ⟨_, rfl, .begins event⟩
      | tell =>
          cases numbers with
          | nil => cases noted
          | cons number numbers =>
              cases noted
              exact ⟨_, rfl, .tells⟩
      | finish =>
          cases numbers with
          | nil => cases noted
          | cons number numbers =>
              cases noted
              exact ⟨_, rfl, .ends⟩
  · cases steps

theorem Step.traffic {note : Note Handler} (step : Step chronicle note next) :
    Traffic.Step chronicle.traffic note.move next.traffic := by
  cases step with
  | joins channel handler => exact .subscribe channel handler
  | leaves made => exact .drop made
  | begins event => exact .publish event
  | tells => exact .tell
  | ends => exact .finish

theorem Step.notes {note : Note Handler} (step : Step chronicle note next) :
    next.notes = chronicle.notes ++ [note] := by
  cases step <;> rfl

/-- What holds at first and is kept by every step holds after every run. -/
theorem run?_induction {holds : Chronicle Handler → Prop}
    {moves : List (Move Handler)} (first : holds chronicle)
    (kept : ∀ {chronicle note next},
      holds chronicle → Step chronicle note next → holds next)
    (runs : chronicle.run? moves = some next) : holds next := by
  induction moves generalizing chronicle with
  | nil =>
      cases runs
      exact first
  | cons move moves induction =>
      obtain ⟨between, steps, later⟩ := Option.bind_eq_some_iff.mp runs
      obtain ⟨note, -, step⟩ := step_of_step? steps
      exact induction (kept first step) later

theorem moves_run? {moves : List (Move Handler)}
    (runs : chronicle.run? moves = some next) :
    next.notes.map Note.move = chronicle.notes.map Note.move ++ moves := by
  induction moves generalizing chronicle with
  | nil =>
      cases runs
      rw [List.append_nil]
  | cons move moves induction =>
      obtain ⟨between, steps, later⟩ := Option.bind_eq_some_iff.mp runs
      obtain ⟨note, rfl, step⟩ := step_of_step? steps
      rw [induction later, step.notes, List.map_append, List.append_assoc]
      rfl

/-- The live subscriptions are those that have been made and not dropped, and
they were numbered in the order in which they were made. -/
structure Registers (chronicle : Chronicle Handler) : Prop where
  live : chronicle.traffic.bus.live = registered chronicle.notes
  made :
    (joined chronicle.notes).map (·.id) =
      List.range chronicle.traffic.bus.nextId
  dropped : ∀ id ∈ left chronicle.notes, id < chronicle.traffic.bus.nextId

theorem registers_start : (start : Chronicle Handler).Registers :=
  ⟨rfl, rfl, nofun⟩

/-- It matters only which subscriptions have been made and dropped. -/
theorem Registers.with (registers : chronicle.Registers)
    (bus : next.traffic.bus = chronicle.traffic.bus)
    (made : joined next.notes = joined chronicle.notes)
    (dropped : left next.notes = left chronicle.notes) : next.Registers := by
  refine ⟨?_, ?_, ?_⟩
  · rw [bus, registers.live, registered, registered, made, dropped]
  · rw [bus, made]
    exact registers.made
  · rw [bus, dropped]
    exact registers.dropped

theorem Registers.step {note : Note Handler} (registers : chronicle.Registers)
    (step : Step chronicle note next) : next.Registers := by
  cases step with
  | @joins bus underWay numbers notes channel handler =>
      obtain ⟨live, made, dropped⟩ := registers
      have new : bus.nextId ∉ left notes := fun old =>
        Nat.lt_irrefl _ (dropped _ old)
      refine ⟨?_, ?_, ?_⟩
      · rw [registered_joins new, ← live]
        rfl
      · rw [joined_concat, List.map_append, made, Bus.subscribe,
          List.range_succ]
        rfl
      · intro id old
        exact Nat.lt_succ_of_lt (dropped id (by simpa using old))
  | @leaves bus underWay numbers notes id old =>
      obtain ⟨live, made, dropped⟩ := registers
      refine ⟨?_, ?_, ?_⟩
      · rw [registered_leaves, ← live]
        rfl
      · rw [joined_concat, Note.joined?, Option.toList_none, List.append_nil]
        · exact made
        · nofun
      · intro other member
        rw [left_concat] at member
        rcases List.mem_append.mp member with before | now
        · exact dropped other before
        · rw [List.mem_singleton.mp now]
          exact old
  | begins event => exact registers.with rfl (by simp) (by simp)
  | tells => exact registers.with rfl (by simp) (by simp)
  | ends => exact registers.with rfl (by simp) (by simp)

/-- What is still to be told by the publication with a number, if it is under
way. -/
def awaiting (number : Nat) (underWay : List (Nat × Publication Handler)) :
    List (Subscription Handler × Event) :=
  ((List.lookup number underWay).map fun publication =>
    publication.waiting.map (·, publication.event)).getD []

theorem awaiting_self (number : Nat) (publication : Publication Handler)
    (outer : List (Nat × Publication Handler)) :
    awaiting number ((number, publication) :: outer) =
      publication.waiting.map (·, publication.event) := by
  simp [awaiting]

theorem awaiting_of_ne {number other : Nat} (different : number ≠ other)
    (publication : Publication Handler)
    (outer : List (Nat × Publication Handler)) :
    awaiting number ((other, publication) :: outer) =
      awaiting number outer := by
  rw [awaiting, List.lookup_cons, beq_false_of_ne different]
  rfl

theorem awaiting_of_not_mem {number : Nat} {numbers : List Nat}
    (closed : number ∉ numbers)
    (publications : List (Publication Handler)) :
    awaiting number (numbers.zip publications) = [] := by
  have absent : List.lookup number (numbers.zip publications) = none := by
    rw [List.lookup_eq_none_iff]
    intro pair member
    have listed := (List.of_mem_zip member).1
    simpa using fun same : number = pair.1 => closed (same ▸ listed)
  rw [awaiting, absent]
  rfl

/-- Publications are numbered in the order in which they begin, and those that
are under way and those that have told somebody are among them. -/
structure Numbered (chronicle : Chronicle Handler) : Prop where
  begun :
    (begun chronicle.notes).map (·.1) =
      List.range (begun chronicle.notes).length
  distinct : chronicle.numbers.Nodup
  underWay :
    ∀ number ∈ chronicle.numbers,
      number < (LessonSite.begun chronicle.notes).length
  told :
    ∀ number,
      told number chronicle.notes ≠ [] →
      number < (LessonSite.begun chronicle.notes).length

theorem numbered_start : (start : Chronicle Handler).Numbered :=
  ⟨rfl, List.nodup_nil, nofun, fun _ none => absurd rfl none⟩

theorem Numbered.begun_lt (numbered : chronicle.Numbered) {number : Nat}
    {event : Event} (member : .begins number event ∈ chronicle.notes) :
    number < (LessonSite.begun chronicle.notes).length := by
  have listed : number ∈ (LessonSite.begun chronicle.notes).map (·.1) :=
    List.mem_map.mpr
      ⟨(number, event), List.mem_filterMap.mpr ⟨_, member, rfl⟩, rfl⟩
  rw [numbered.begun] at listed
  exact List.mem_range.mp listed

theorem Numbered.with (numbered : chronicle.Numbered)
    (among : next.numbers.Sublist chronicle.numbers)
    (begun : LessonSite.begun next.notes = LessonSite.begun chronicle.notes)
    (told : ∀ number, LessonSite.told number next.notes ≠ [] →
      LessonSite.told number chronicle.notes ≠ [] ∨
        number ∈ chronicle.numbers) : next.Numbered := by
  refine ⟨?_, numbered.distinct.sublist among, ?_, ?_⟩
  · rw [begun]
    exact numbered.begun
  · intro number member
    rw [begun]
    exact numbered.underWay number (among.subset member)
  · intro number tells
    rw [begun]
    rcases told number tells with before | now
    · exact numbered.told number before
    · exact numbered.underWay number now

theorem Numbered.step {note : Note Handler} (numbered : chronicle.Numbered)
    (step : Step chronicle note next) : next.Numbered := by
  cases step with
  | joins channel handler =>
      exact numbered.with (.refl _) (by simp) fun number tells =>
        .inl (by simpa using tells)
  | leaves old =>
      exact numbered.with (.refl _) (by simp) fun number tells =>
        .inl (by simpa using tells)
  | @begins bus underWay numbers notes event =>
      obtain ⟨begun, distinct, opened, told⟩ := numbered
      refine ⟨?_, ?_, ?_, ?_⟩
      · simp [begun, List.range_succ]
      · exact List.nodup_cons.mpr
          ⟨fun old => Nat.lt_irrefl _ (opened _ old), distinct⟩
      · intro number member
        rcases List.mem_cons.mp member with rfl | old
        · simp
        · simpa using Nat.lt_succ_of_lt (opened number old)
      · intro number tells
        simpa using Nat.lt_succ_of_lt (told number (by simpa using tells))
  | @tells bus outer event subscription waiting number numbers notes =>
      refine numbered.with (.refl _) (by simp) fun other tells => ?_
      by_cases same : number = other
      · exact .inr (same ▸ List.mem_cons_self)
      · exact .inl (by simpa [same] using tells)
  | ends =>
      exact numbered.with (List.sublist_cons_self _ _)
        (by simp) fun number tells => .inl (by simpa using tells)

/-- What each publication has told, and what it is still to tell, are the
subscriptions that were registered when it began. -/
def Accounts (chronicle : Chronicle Handler) : Prop :=
  ∀ before number event after,
    chronicle.notes = before ++ .begins number event :: after →
      told number before = [] ∧
        told number after ++
            awaiting number (chronicle.numbers.zip chronicle.traffic.underWay) =
          addressees before event ∧
        (.ends number ∈ after → number ∉ chronicle.numbers)

theorem accounts_start : (start : Chronicle Handler).Accounts := by
  intro before number event after split
  have none := congrArg List.length split
  simp [start] at none

theorem Accounts.step {note : Note Handler} (accounts : chronicle.Accounts)
    (registers : chronicle.Registers) (numbered : chronicle.Numbered)
    (step : Step chronicle note next) :
    next.Accounts := by
  intro before number event after split
  cases step with
  | joins channel handler =>
      rcases split_concat split with ⟨-, ⟨⟩, -⟩ | ⟨rest, rfl, earlier⟩
      obtain ⟨unheard, all, closed⟩ := accounts before number event rest earlier
      exact ⟨unheard, by simpa using all, by simpa using closed⟩
  | leaves old =>
      rcases split_concat split with ⟨-, ⟨⟩, -⟩ | ⟨rest, rfl, earlier⟩
      obtain ⟨unheard, all, closed⟩ := accounts before number event rest earlier
      exact ⟨unheard, by simpa using all, by simpa using closed⟩
  | @begins bus underWay numbers notes published =>
      rcases split_concat split with
        ⟨rfl, ⟨rfl, rfl⟩, rfl⟩ | ⟨rest, rfl, earlier⟩
      · refine ⟨?_, ?_, nofun⟩
        · by_contra heard
          exact Nat.lt_irrefl _ (numbered.told _ heard)
        · rw [List.zip_cons_cons, awaiting_self, addressees, ← registers.live]
          rfl
      · obtain ⟨unheard, all, closed⟩ :=
          accounts before number event rest earlier
        have older : Note.begins number event ∈ notes := by simp [earlier]
        have different : number ≠ (begun notes).length :=
          (numbered.begun_lt older).ne
        refine ⟨unheard, ?_, ?_⟩
        · rw [List.zip_cons_cons, awaiting_of_ne different]
          simpa using all
        · intro ended
          exact List.not_mem_cons_of_ne_of_not_mem different
            (closed (by simpa using ended))
  | @tells bus outer telling subscription waiting innermost numbers notes =>
      rcases split_concat split with ⟨-, ⟨⟩, -⟩ | ⟨rest, rfl, earlier⟩
      obtain ⟨unheard, all, closed⟩ := accounts before number event rest earlier
      refine ⟨unheard, ?_, by simpa using closed⟩
      by_cases same : number = innermost
      · subst same
        rw [List.zip_cons_cons, awaiting_self] at all ⊢
        rw [← all]
        simp
      · rw [List.zip_cons_cons, awaiting_of_ne same] at all ⊢
        simpa [Ne.symm same] using all
  | @ends bus outer telling innermost numbers notes =>
      rcases split_concat split with ⟨-, ⟨⟩, -⟩ | ⟨rest, rfl, earlier⟩
      obtain ⟨unheard, all, closed⟩ := accounts before number event rest earlier
      obtain ⟨once, distinct⟩ := List.nodup_cons.mp numbered.distinct
      by_cases same : number = innermost
      · subst same
        refine ⟨unheard, ?_, fun _ => once⟩
        rw [List.zip_cons_cons, awaiting_self] at all
        rw [awaiting_of_not_mem once]
        simpa using all
      · rw [List.zip_cons_cons, awaiting_of_ne same] at all
        refine ⟨unheard, by simpa using all, ?_⟩
        intro ended
        have earlier : Note.ends number ∈ rest := by simpa [same] using ended
        exact fun member => closed earlier (List.mem_cons_of_mem _ member)

/-- What holds of the notes after every run. -/
structure Faithful (chronicle : Chronicle Handler) : Prop where
  registers : chronicle.Registers
  numbered : chronicle.Numbered
  accounts : chronicle.Accounts

theorem faithful_run? {moves : List (Move Handler)}
    (runs : start.run? moves = some chronicle) :
    chronicle.Faithful := by
  refine run?_induction
    ⟨registers_start, numbered_start, accounts_start⟩ ?_ runs
  intro chronicle note next faithful step
  exact ⟨faithful.registers.step step, faithful.numbered.step step,
    faithful.accounts.step faithful.registers faithful.numbered step⟩

theorem Step.numbered {note : Note Handler} (step : Step chronicle note next)
    (numbered : chronicle.numbers.length = chronicle.traffic.underWay.length) :
    next.numbers.length = next.traffic.underWay.length := by
  cases step <;> simpa using numbered

/-- Every move that can be made can be noted, as long as all that is under way
is numbered. -/
theorem exists_step? {traffic : Traffic Handler}
    (numbered : chronicle.numbers.length = chronicle.traffic.underWay.length)
    (moved : chronicle.traffic.step? move = some traffic) :
    ∃ next, chronicle.step? move = some next ∧ next.traffic = traffic ∧
      next.numbers.length = next.traffic.underWay.length := by
  have noted : ∃ note, chronicle.note? move = some note := by
    obtain ⟨before, numbers, notes⟩ := chronicle
    cases Traffic.step_of_step? moved with
    | subscribe channel handler => exact ⟨_, rfl⟩
    | drop made => exact ⟨_, rfl⟩
    | publish event => exact ⟨_, rfl⟩
    | tell =>
        cases numbers with
        | nil => cases numbered
        | cons number numbers => exact ⟨_, rfl⟩
    | finish =>
        cases numbers with
        | nil => cases numbered
        | cons number numbers => exact ⟨_, rfl⟩
  obtain ⟨note, noted⟩ := noted
  have steps : chronicle.step? move =
      some
        ⟨traffic, chronicle.numbersAfter note, chronicle.notes ++ [note]⟩ := by
    simp only [step?, moved, noted]
  obtain ⟨_, -, step⟩ := step_of_step? steps
  exact ⟨_, steps, rfl, step.numbered numbered⟩

theorem exists_run? {traffic : Traffic Handler} {moves : List (Move Handler)}
    (numbered : chronicle.numbers.length = chronicle.traffic.underWay.length)
    (moved : chronicle.traffic.run? moves = some traffic) :
    ∃ next, chronicle.run? moves = some next ∧ next.traffic = traffic := by
  induction moves generalizing chronicle with
  | nil =>
      cases moved
      exact ⟨chronicle, rfl, rfl⟩
  | cons move moves induction =>
      obtain ⟨between, first, later⟩ := Option.bind_eq_some_iff.mp moved
      obtain ⟨noted, steps, rfl, longer⟩ := exists_step? numbered first
      obtain ⟨next, runs, same⟩ := induction longer later
      exact ⟨next, Option.bind_eq_some_iff.mpr ⟨noted, steps, runs⟩, same⟩

theorem Faithful.nodup_joined (faithful : chronicle.Faithful)
    {before after : List (Note Handler)}
    (split : chronicle.notes = before ++ after) :
    ((joined before).map (·.id)).Nodup := by
  have all : ((joined chronicle.notes).map (·.id)).Nodup := by
    rw [faithful.registers.made]
    exact List.nodup_range
  rw [split, joined, List.filterMap_append, List.map_append] at all
  exact all.of_append_left

/-- A subscription that is dropped is taken out, and no other. -/
theorem Faithful.registered_drop (faithful : chronicle.Faithful)
    {before after : List (Note Handler)}
    (split : chronicle.notes = before ++ after)
    {subscription : Subscription Handler}
    {first later : List (Subscription Handler)}
    (listed : registered before = first ++ subscription :: later) :
    registered (before ++ [.leaves subscription.id]) = first ++ later := by
  have distinct : ((registered before).map (·.id)).Nodup :=
    (faithful.nodup_joined split).sublist (List.filter_sublist.map _)
  rw [listed, List.map_append, List.map_cons, List.nodup_middle,
    List.nodup_cons, ← List.map_append] at distinct
  have others :
      (first ++ later).filter (fun other => other.id ≠ subscription.id) =
        first ++ later := by
    refine List.filter_eq_self.mpr fun other member =>
      decide_eq_true fun same => ?_
    exact distinct.1 (same ▸ List.mem_map_of_mem member)
  rw [registered_leaves, listed, List.filter_append,
    List.filter_cons_of_neg (by simp), ← List.filter_append, others]

theorem Faithful.nodup_addressees (faithful : chronicle.Faithful)
    {before after : List (Note Handler)}
    (split : chronicle.notes = before ++ after) (event : Event) :
    (addressees before event).Nodup := by
  refine List.Nodup.map (fun _ _ same => congrArg Prod.fst same) ?_
  exact ((List.Nodup.of_map _ (faithful.nodup_joined split)).filter _).filter _

end Chronicle

/-- Whatever handlers do, each publication tells the subscriptions to its
channel that were registered when it began and no others, each once, in the
order in which they were made and of its own event; and the live subscriptions
are at all times those that have been made and not dropped, so that to drop one
takes that one out and leaves the others in their order. -/
theorem Chronicle.tells_registered {moves : List (Move Handler)}
    {traffic : Traffic Handler}
    (runs : Traffic.idle.run? moves = some traffic) :
    ∃ chronicle,
      Chronicle.start.run? moves = some chronicle ∧
        chronicle.traffic = traffic ∧
          chronicle.notes.map Note.move = moves ∧
          (begun chronicle.notes).map (·.1) =
            List.range (begun chronicle.notes).length ∧
          (joined chronicle.notes).map (·.id) = List.range traffic.bus.nextId ∧
          traffic.bus.live = registered chronicle.notes ∧
          (∀ before id after, chronicle.notes = before ++ .leaves id :: after →
            ∀ first subscription later,
              registered before = first ++ subscription :: later →
                subscription.id = id →
                registered (before ++ [.leaves id]) = first ++ later) ∧
          ∀ before number event after,
            chronicle.notes = before ++ .begins number event :: after →
              told number before = [] ∧ (told number after).Nodup ∧
                told number after <+: addressees before event ∧
                (.ends number ∈ after →
                  told number after = addressees before event) := by
  obtain ⟨chronicle, noted, rfl⟩ :=
    exists_run? (Eq.refl (start : Chronicle Handler).numbers.length) runs
  have faithful := faithful_run? noted
  refine ⟨chronicle, noted, rfl, moves_run? noted, faithful.numbered.begun,
    faithful.registers.made, faithful.registers.live, ?_, ?_⟩
  · rintro before id after split first subscription later listed rfl
    exact faithful.registered_drop split listed
  · intro before number event after split
    obtain ⟨unheard, all, closed⟩ :=
      faithful.accounts before number event after split
    have among : told number after <+: addressees before event := ⟨_, all⟩
    refine ⟨unheard,
      (faithful.nodup_addressees split event).sublist among.sublist, among, ?_⟩
    intro ended
    rw [← all, awaiting_of_not_mem (closed ended), List.append_nil]

/-- Two subscriptions to the theme.  When the first is told of the light theme,
it drops the second, subscribes a third and publishes the dark theme. -/
def meddlingMoves : List (Move Nat) :=
  [.subscribe .themeChange 7, .subscribe .themeChange 8,
    .publish (.themeChange .light), .tell, .drop 1, .subscribe .themeChange 9,
    .publish (.themeChange .dark), .tell, .tell, .finish, .tell, .finish]

/-- The second subscription is still told of the light theme, and the third only
of the dark one. -/
theorem Chronicle.tells_registered_meddlingMoves :
    Traffic.idle.run? meddlingMoves =
        some ⟨⟨3, [⟨0, .themeChange, 7⟩, ⟨2, .themeChange, 9⟩]⟩, []⟩ ∧
      ∃ chronicle, Chronicle.start.run? meddlingMoves = some chronicle ∧
        told 0 (chronicle.notes.drop 3) =
          [(⟨0, .themeChange, 7⟩, .themeChange .light),
            (⟨1, .themeChange, 8⟩, .themeChange .light)] ∧
        told 1 (chronicle.notes.drop 7) =
          [(⟨0, .themeChange, 7⟩, .themeChange .dark),
            (⟨2, .themeChange, 9⟩, .themeChange .dark)] := by
  have runs : Traffic.idle.run? meddlingMoves =
      some ⟨⟨3, [⟨0, .themeChange, 7⟩, ⟨2, .themeChange, 9⟩]⟩, []⟩ := by decide
  obtain ⟨chronicle, noted, -, -, -, -, -, -, tells⟩ :=
    Chronicle.tells_registered runs
  refine ⟨runs, chronicle, noted, ?_⟩
  cases noted
  exact ⟨(tells (_ :: _ :: []) _ _ _ rfl).2.2.2 (by decide),
    (tells (_ :: _ :: _ :: _ :: _ :: _ :: []) _ _ _ rfl).2.2.2 (by decide)⟩

end LessonSite
