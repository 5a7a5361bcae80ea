import LessonSite.Client.History

/-!
# Histories in use

Only the entry that a session begins with can be without a route state, and the
current position is always that of an entry.  A history can be thought of as its
past, its present and its future: whatever is done to it, the position tells
them apart.
-/

namespace LessonSite.History

variable (history : History)

/-- All entries but the first have a route state, and the current position is
that of an entry. -/
structure Settled : Prop where
  position_le : history.position ≤ history.later.length
  state_isSome : ∀ entry ∈ history.later, entry.state.isSome

theorem settled_start (url : Url) : (start url).Settled where
  position_le := Nat.le_refl 0
  state_isSome := by simp [start]

variable {history}

theorem Settled.current_eq (settled : history.Settled) :
    history.entries[history.position]? = some history.current := by
  have bound : history.position < history.entries.length := by
    simpa [entries, Nat.lt_succ_iff] using settled.position_le
  rw [current, List.getD_eq_getElem?_getD, List.getElem?_eq_getElem bound]
  rfl

/-- Only at the first position an entry may be without a route state. -/
theorem Settled.position_eq_zero (settled : history.Settled)
    (unknown : history.current.state = none) :
    history.position = 0 := by
  have found := settled.current_eq
  cases place : history.position with
  | zero => rfl
  | succ position =>
      rw [place, entries, List.getElem?_cons_succ] at found
      have known := settled.state_isSome _ (List.mem_of_getElem? found)
      simp [unknown] at known

theorem Settled.replace (settled : history.Settled) (url : Url)
    (state : RouteState) :
    (history.replace url state).Settled := by
  have bound := settled.position_le
  cases place : history.position with
  | zero =>
      simp only [History.replace, place]
      exact ⟨Nat.zero_le _, settled.state_isSome⟩
  | succ position =>
      simp only [History.replace, place]
      refine ⟨by simpa [place] using bound, ?_⟩
      intro entry member
      rcases List.mem_or_eq_of_mem_set member with old | new
      · exact settled.state_isSome entry old
      · rw [new]
        rfl

theorem Settled.current_replace (settled : history.Settled) (url : Url)
    (state : RouteState) :
    (history.replace url state).current = ⟨url, some state⟩ := by
  have bound := settled.position_le
  cases place : history.position with
  | zero => simp [History.replace, current, entries, place]
  | succ position =>
      have inside : position < history.later.length := by omega
      simp [History.replace, current, entries, place,
        List.getElem?_set_self inside]

theorem Settled.push (settled : history.Settled) (url : Url)
    (state : RouteState) :
    (history.push url state).Settled where
  position_le := by simp [History.push, settled.position_le]
  state_isSome := by
    intro entry member
    rcases List.mem_append.mp member with old | new
    · exact settled.state_isSome entry (List.mem_of_mem_take old)
    · cases List.mem_singleton.mp new
      rfl

theorem Settled.current_push (settled : history.Settled) (url : Url)
    (state : RouteState) :
    (history.push url state).current = ⟨url, some state⟩ := by
  have bound := settled.position_le
  simp [History.push, current, entries, bound]

theorem back?_eq_some {earlier : History}
    (moved : history.back? = some earlier) :
    ∃ position,
      history.position = position + 1 ∧
        earlier = { history with position } := by
  cases place : history.position with
  | zero => simp [back?, place] at moved
  | succ position =>
      simp only [back?, place, Option.some.injEq] at moved
      exact ⟨position, rfl, moved.symm⟩

theorem forward?_eq_some {next : History}
    (moved : history.forward? = some next) :
    history.position < history.later.length ∧
      next = { history with position := history.position + 1 } := by
  unfold forward? at moved
  split at moved
  · next room =>
      simp only [size, entries, List.length_cons] at room
      exact ⟨by omega, (Option.some.inj moved).symm⟩
  · cases moved

theorem forward?_eq_none_iff :
    history.forward? = none ↔ history.later.length ≤ history.position := by
  simp [forward?, size, entries]

theorem Settled.back (settled : history.Settled) {earlier : History}
    (moved : history.back? = some earlier) : earlier.Settled := by
  obtain ⟨position, place, rfl⟩ := back?_eq_some moved
  have bound := settled.position_le
  exact ⟨by simp only; omega, settled.state_isSome⟩

theorem Settled.forward (settled : history.Settled) {next : History}
    (moved : history.forward? = some next) : next.Settled := by
  obtain ⟨room, rfl⟩ := forward?_eq_some moved
  exact ⟨room, settled.state_isSome⟩

/-- Every entry has a route state. -/
structure Complete (history : History) : Prop extends history.Settled where
  first_isSome : history.first.state.isSome

theorem Complete.push (complete : history.Complete) (url : Url)
    (state : RouteState) :
    (history.push url state).Complete where
  toSettled := complete.toSettled.push url state
  first_isSome := complete.first_isSome

theorem Complete.back (complete : history.Complete) {earlier : History}
    (moved : history.back? = some earlier) : earlier.Complete where
  toSettled := complete.toSettled.back moved
  first_isSome := by
    obtain ⟨position, -, rfl⟩ := back?_eq_some moved
    exact complete.first_isSome

theorem Complete.forward (complete : history.Complete) {next : History}
    (moved : history.forward? = some next) : next.Complete where
  toSettled := complete.toSettled.forward moved
  first_isSome := by
    obtain ⟨-, rfl⟩ := forward?_eq_some moved
    exact complete.first_isSome

/-- The page shown first gets its route state while it is the current one. -/
theorem Settled.complete_replace (settled : history.Settled)
    (first : history.position = 0) (url : Url)
    (state : RouteState) : (history.replace url state).Complete where
  toSettled := settled.replace url state
  first_isSome := by simp [History.replace, first]

theorem Complete.exists_state (complete : history.Complete) :
    ∃ state, history.current.state = some state := by
  cases known : history.current.state with
  | some state => exact ⟨state, rfl⟩
  | none =>
      have first : history.current = history.first := by
        simp [current, entries, complete.position_eq_zero known]
      have isSome := complete.first_isSome
      simp [← first, known] at isSome

/-- The entries before the current one, the latest first, the current one, and
those after it. -/
structure Zipper where
  past : List HistoryEntry
  present : HistoryEntry
  future : List HistoryEntry
deriving Repr, DecidableEq

/-- What can be done to a history. -/
inductive Change where
  | push (url : Url) (state : RouteState)
  | replace (url : Url) (state : RouteState)
  | back
  | forward
deriving Repr, DecidableEq

namespace Zipper

/-- There is nothing before and after the page that a session begins with. -/
def start (url : Url) : Zipper :=
  ⟨[], ⟨url, none⟩, []⟩

/-- The present one becomes the latest of the past, and no entry follows the new
one. -/
def push (zipper : Zipper) (entry : HistoryEntry) : Zipper :=
  ⟨zipper.present :: zipper.past, entry, []⟩

def replace (zipper : Zipper) (entry : HistoryEntry) : Zipper :=
  { zipper with present := entry }

/-- The latest entry of the past becomes the present one. -/
def back? : Zipper → Option Zipper
  | ⟨[], _, _⟩ => none
  | ⟨latest :: past, present, future⟩ => some ⟨past, latest, present :: future⟩

/-- The next entry of the future becomes the present one. -/
def forward? : Zipper → Option Zipper
  | ⟨_, _, []⟩ => none
  | ⟨past, present, next :: future⟩ => some ⟨present :: past, next, future⟩

/-- The zipper after a change, and the entry that a step has come to. -/
def change (zipper : Zipper) : Change → Zipper × Option HistoryEntry
  | .push url state => (zipper.push ⟨url, some state⟩, none)
  | .replace url state => (zipper.replace ⟨url, some state⟩, none)
  | .back =>
      match zipper.back? with
      | some earlier => (earlier, some earlier.present)
      | none => (zipper, none)
  | .forward =>
      match zipper.forward? with
      | some next => (next, some next.present)
      | none => (zipper, none)

/-- The zipper after some changes, and what each of them has come to. -/
def changeAll (zipper : Zipper) :
    List Change → Zipper × List (Option HistoryEntry)
  | [] => (zipper, [])
  | change :: changes =>
      let (after, reached) := zipper.change change
      let (last, others) := after.changeAll changes
      (last, reached :: others)

end Zipper

/-- The history after a change, and the entry that a step has come to; a step
that is not possible leaves the history as it is. -/
def change (history : History) : Change → History × Option HistoryEntry
  | .push url state => (history.push url state, none)
  | .replace url state => (history.replace url state, none)
  | .back =>
      match history.back? with
      | some earlier => (earlier, some earlier.current)
      | none => (history, none)
  | .forward =>
      match history.forward? with
      | some next => (next, some next.current)
      | none => (history, none)

/-- The history after some changes, and what each of them has come to. -/
def changeAll (history : History) :
    List Change → History × List (Option HistoryEntry)
  | [] => (history, [])
  | change :: changes =>
      let (after, reached) := history.change change
      let (last, others) := after.changeAll changes
      (last, reached :: others)

theorem entries_push (url : Url) (state : RouteState) :
    (history.push url state).entries =
      history.entries.take (history.position + 1) ++ [⟨url, some state⟩] := rfl

theorem entries_replace (history : History) (url : Url) (state : RouteState) :
    (history.replace url state).entries =
      history.entries.set history.position ⟨url, some state⟩ := by
  cases place : history.position with
  | zero => simp only [replace, place, entries, List.set_cons_zero]
  | succ position => simp only [replace, place, entries, List.set_cons_succ]

/-- The history has the entries of the zipper, and its position is that of the
present one. -/
structure Shows (history : History) (zipper : Zipper) : Prop where
  entries :
    history.entries = zipper.past.reverse ++ zipper.present :: zipper.future
  position : history.position = zipper.past.length

namespace Shows

variable {zipper : Zipper}

theorem size_eq (shows : history.Shows zipper) :
    history.size = zipper.past.length + 1 + zipper.future.length := by
  rw [size, shows.entries, List.length_append, List.length_reverse,
    List.length_cons]
  omega

theorem current_eq (shows : history.Shows zipper) :
    history.current = zipper.present := by
  have here :
      (zipper.past.reverse ++
          zipper.present :: zipper.future)[zipper.past.length]? =
        some zipper.present := by
    rw [List.getElem?_append_right (by simp), List.length_reverse, Nat.sub_self]
    rfl
  rw [current, shows.entries, shows.position, List.getD_eq_getElem?_getD, here]
  rfl

theorem position_lt_size (shows : history.Shows zipper) :
    history.position < history.size := by
  rw [shows.position, shows.size_eq]
  omega

theorem push (shows : history.Shows zipper) (url : Url) (state : RouteState) :
    (history.push url state).Shows (zipper.push ⟨url, some state⟩) where
  entries := by
    have kept : history.entries.take (history.position + 1) =
        zipper.past.reverse ++ [zipper.present] := by
      rw [shows.entries, shows.position, List.append_cons]
      exact List.take_left' (by simp)
    rw [entries_push, kept, Zipper.push, List.reverse_cons]
  position := congrArg (· + 1) shows.position

theorem replace (shows : history.Shows zipper) (url : Url)
    (state : RouteState) :
    (history.replace url state).Shows (zipper.replace ⟨url, some state⟩) where
  entries := by
    have whole := entries_replace history url state
    rw [shows.entries, shows.position] at whole
    rw [whole, List.set_append_right _ _ (by simp), List.length_reverse,
      Nat.sub_self]
    rfl
  position := by
    have stays : (history.replace url state).position = history.position := by
      unfold History.replace
      split <;> rfl
    rw [stays, shows.position]
    rfl

theorem back? (shows : history.Shows zipper) :
    Option.Rel Shows history.back? zipper.back? := by
  obtain ⟨past, present, future⟩ := zipper
  have place := shows.position
  cases past with
  | nil =>
      simp only [History.back?, place, List.length_nil, Zipper.back?]
      exact .none
  | cons latest past =>
      simp only [History.back?, place, List.length_cons, Zipper.back?]
      exact .some ⟨by simpa [History.entries] using shows.entries, rfl⟩

theorem forward? (shows : history.Shows zipper) :
    Option.Rel Shows history.forward? zipper.forward? := by
  obtain ⟨past, present, future⟩ := zipper
  have place := shows.position
  have size := shows.size_eq
  cases future with
  | nil =>
      simp only [List.length_nil] at place size
      rw [History.forward?, if_neg (by omega)]
      exact .none
  | cons next future =>
      simp only [List.length_cons] at place size
      rw [History.forward?, if_pos (by omega)]
      exact .some
        ⟨by simpa [History.entries] using shows.entries, by simp [place]⟩

/-- A change comes to the same entry in both, and they still go together. -/
theorem change (shows : history.Shows zipper) (change : Change) :
    (history.change change).2 = (zipper.change change).2 ∧
      (history.change change).1.Shows (zipper.change change).1 := by
  cases change with
  | push url state => exact ⟨rfl, shows.push url state⟩
  | replace url state => exact ⟨rfl, shows.replace url state⟩
  | back =>
      have steps := shows.back?
      simp only [History.change, Zipper.change]
      generalize history.back? = mine at steps ⊢
      generalize zipper.back? = its at steps ⊢
      cases steps with
      | none => exact ⟨rfl, shows⟩
      | some earlier => exact ⟨congrArg some earlier.current_eq, earlier⟩
  | forward =>
      have steps := shows.forward?
      simp only [History.change, Zipper.change]
      generalize history.forward? = mine at steps ⊢
      generalize zipper.forward? = its at steps ⊢
      cases steps with
      | none => exact ⟨rfl, shows⟩
      | some next => exact ⟨congrArg some next.current_eq, next⟩

theorem changeAll (shows : history.Shows zipper) (changes : List Change) :
    (history.changeAll changes).2 = (zipper.changeAll changes).2 ∧
      (history.changeAll changes).1.Shows (zipper.changeAll changes).1 := by
  induction changes generalizing history zipper with
  | nil => exact ⟨rfl, shows⟩
  | cons change changes induction =>
      obtain ⟨reached, after⟩ := shows.change change
      obtain ⟨others, last⟩ := induction after
      simp only [History.changeAll, Zipper.changeAll]
      exact ⟨by rw [reached, others], last⟩

end Shows

theorem forward?_of_back? (inside : history.position < history.size)
    {earlier : History}
    (moved : history.back? = some earlier) :
    earlier.forward? = some history := by
  obtain ⟨position, place, rfl⟩ := back?_eq_some moved
  have room : position + 1 < history.size := place ▸ inside
  have forward :
      forward? { history with position } =
        some { history with position := position + 1 } :=
    if_pos room
  rw [forward, ← place]

theorem back?_of_forward? {next : History}
    (moved : history.forward? = some next) :
    next.back? = some history := by
  obtain ⟨-, rfl⟩ := forward?_eq_some moved
  rfl

/-- A history is changed as a zipper is: every step comes to the same entry or
leads nowhere in both.  So its position is always that of an entry, and a step
forward and a step back undo each other. -/
theorem changeAll_shows_zipper (url : Url) (changes : List Change) :
    let history := ((start url).changeAll changes).1
    let zipper := ((Zipper.start url).changeAll changes).1
    ((start url).changeAll changes).2 =
        ((Zipper.start url).changeAll changes).2 ∧
      history.entries = zipper.past.reverse ++ zipper.present :: zipper.future ∧
      history.position = zipper.past.length ∧ history.current = zipper.present ∧
      history.size = zipper.past.length + 1 + zipper.future.length ∧
      history.entries ≠ [] ∧ history.position < history.size ∧
      (∀ earlier,
        history.back? = some earlier → earlier.forward? = some history) ∧
      ∀ next, history.forward? = some next → next.back? = some history := by
  have together : (start url).Shows (Zipper.start url) := ⟨rfl, rfl⟩
  obtain ⟨reached, shows⟩ := together.changeAll changes
  have inside := shows.position_lt_size
  refine ⟨reached, shows.entries, shows.position, shows.current_eq,
    shows.size_eq, List.cons_ne_nil _ _, inside, ?_, ?_⟩
  · exact fun earlier moved => forward?_of_back? inside moved
  · exact fun next moved => back?_of_forward? moved

end LessonSite.History
