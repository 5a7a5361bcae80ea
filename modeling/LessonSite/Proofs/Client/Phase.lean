import LessonSite.Proofs.Client.Waiting

/-!
# The phase of a navigation

A call that asks for a route state sets the phase to loading, and its answer
sets it to idle or failed.  A call that is given up leaves the phase as it is.
So the phase can be loading when no call waits any more, and this module says
when.
-/

namespace LessonSite.Navigator

variable {navigator : Navigator} {happenings : List Happening}

/-- The phase is that of a request. -/
def IsLoading (navigator : Navigator) : Prop :=
  ∃ href, navigator.phase = .loading href

/-- A call asks for a route state and waits under a number. -/
def Asks (navigator : Navigator) (call : Call) (number : Nat) : Prop :=
  ∃ request, (navigator.begin call).2 = .waits number request

def Answers (navigator : Navigator) : Happening → Prop
  | .answer number _ => (List.lookup number navigator.waiting).isSome
  | _ => False

def AnswersNone (navigator : Navigator) : List Happening → Prop
  | [] => True
  | happening :: happenings =>
      ¬ navigator.Answers happening ∧
        (navigator.step happening).1.AnswersNone happenings

private theorem not_asks_of_ends {call : Call} {outcome : Outcome}
    {told : Option RouteState}
    (ends : (navigator.step (.call call)).2 = some (.ends outcome told))
    (number : Nat) :
    ¬ navigator.Asks call number := by
  rintro ⟨request, asks⟩
  cases asks.symm.trans (Option.some.inj ends)

private theorem phase_proceed (state : RouteState) (pending : Pending) :
    (navigator.proceed state pending).1.phase = navigator.phase := by
  cases pending <;> rfl

private theorem phase_undo (pending : Pending) :
    (navigator.undo pending).phase = navigator.phase := by
  cases pending <;> rfl

/-- The phase is loading after a call has asked, and as long as no waiting call
is answered. -/
theorem isLoading_step_iff (settled : navigator.history.Settled)
    (happening : Happening) :
    (navigator.step happening).1.IsLoading ↔
      (∃ call number, happening = .call call ∧ navigator.Asks call number) ∨
        (navigator.IsLoading ∧ ¬ navigator.Answers happening) := by
  have move := move_step settled happening
  generalize next_eq : (navigator.step happening).1 = next at move ⊢
  generalize progress_eq : (navigator.step happening).2 = progress at move
  cases move with
  | ends =>
      refine ⟨fun loading => .inr ⟨loading, id⟩, ?_⟩
      rintro (⟨call, number, same, asks⟩ | ⟨loading, -⟩)
      · cases same
        exact absurd asks (not_asks_of_ends progress_eq number)
      · exact loading
  | misses absent meant =>
      have silent : ¬ navigator.Answers happening := by
        rcases meant with rfl | ⟨answer, rfl⟩
        · exact id
        · simp [Answers, absent]
      refine ⟨fun loading => .inr ⟨loading, silent⟩, ?_⟩
      rintro (⟨call, number, rfl, -⟩ | ⟨loading, -⟩)
      · rcases meant with same | ⟨answer, same⟩ <;> cases same
      · exact loading
  | @asks call pending request history settled =>
      exact ⟨fun _ => .inl ⟨call, _, rfl, request, Option.some.inj progress_eq⟩,
        fun _ => ⟨_, rfl⟩⟩
  | returns settled =>
      refine ⟨fun loading => .inr ⟨loading, id⟩, ?_⟩
      rintro (⟨call, number, same, asks⟩ | ⟨loading, -⟩)
      · cases same
        exact absurd asks (not_asks_of_ends progress_eq number)
      · exact loading
  | @arrives number pending state waits =>
      constructor
      · rintro ⟨href, loading⟩
        rw [phase_proceed] at loading
        cases loading
      · rintro (⟨call, number, same, -⟩ | ⟨-, silent⟩)
        · cases same
        · exact absurd (Option.isSome_of_eq_some waits) silent
  | @fails number pending error waits =>
      constructor
      · rintro ⟨href, loading⟩
        rw [phase_undo] at loading
        cases loading
      · rintro (⟨call, number, same, -⟩ | ⟨-, silent⟩)
        · cases same
        · exact absurd (Option.isSome_of_eq_some waits) silent
  | lapses waits =>
      refine ⟨fun loading => .inr ⟨loading, id⟩, ?_⟩
      rintro (⟨call, number, same, -⟩ | ⟨loading, -⟩)
      · cases same
      · exact loading

private theorem waits_step (settled : navigator.history.Settled)
    {happening : Happening}
    (silent : ¬ navigator.Answers happening) {number : Nat}
    (waits : number ∈ navigator.waiting.map Prod.fst)
    (kept : happening ≠ .abandon number) :
    number ∈ (navigator.step happening).1.waiting.map Prod.fst := by
  have move := move_step settled happening
  generalize (navigator.step happening).1 = next at move ⊢
  generalize (navigator.step happening).2 = progress at move
  cases move with
  | ends => exact waits
  | misses => exact waits
  | asks =>
      simp only [asking, List.map_append, List.mem_append]
      exact .inl waits
  | returns => exact waits
  | arrives found => exact absurd (Option.isSome_of_eq_some found) silent
  | fails found => exact absurd (Option.isSome_of_eq_some found) silent
  | @lapses other pending found =>
      obtain ⟨waiter, member, same⟩ := List.mem_map.mp waits
      refine List.mem_map.mpr
        ⟨waiter, List.mem_filter.mpr ⟨member, decide_eq_true ?_⟩, same⟩
      rintro gone
      rw [← gone, same] at kept
      exact kept rfl

/-- The phase is loading just if a call has asked since which no waiting call
has been answered. -/
theorem Tallied.isLoading_run_iff (tallied : navigator.Tallied) :
    (navigator.run happenings).IsLoading ↔
      (navigator.IsLoading ∧ navigator.AnswersNone happenings) ∨
        ∃ earlier call number later,
          happenings = earlier ++ .call call :: later ∧
            (navigator.run earlier).Asks call number ∧
            (navigator.run (earlier ++ [.call call])).AnswersNone later := by
  induction happenings generalizing navigator with
  | nil =>
      have unchanged : navigator.run [] = navigator := rfl
      simp [unchanged, AnswersNone]
  | cons happening happenings induction =>
      have first : navigator.run (happening :: happenings) =
        (navigator.step happening).1.run happenings := rfl
      rw [first, induction (tallied.step happening),
        isLoading_step_iff tallied.settled]
      constructor
      · rintro (⟨⟨call, number, rfl, asks⟩ | ⟨loading, silent⟩, none⟩ |
          ⟨earlier, call, number, later, rfl, asks, none⟩)
        · exact .inr ⟨[], call, number, happenings, rfl, asks, none⟩
        · exact .inl ⟨loading, silent, none⟩
        · exact .inr
            ⟨happening :: earlier, call, number, later, rfl, asks, none⟩
      · rintro (⟨loading, silent, none⟩ | ⟨earlier, call, number, later, same,
          asks, none⟩)
        · exact .inl ⟨.inr ⟨loading, silent⟩, none⟩
        · cases earlier with
          | nil =>
              cases same
              exact .inl ⟨.inl ⟨call, number, rfl, asks⟩, none⟩
          | cons other earlier =>
              cases same
              exact .inr ⟨earlier, call, number, later, rfl, asks, none⟩

/-- A call that waits no more, although no call has been answered, has been
given up. -/
theorem Tallied.abandon_mem (tallied : navigator.Tallied)
    (none : navigator.AnswersNone happenings)
    {number : Nat} (waits : number ∈ navigator.waiting.map Prod.fst)
    (ended : number ∉ (navigator.run happenings).waiting.map Prod.fst) :
    Happening.abandon number ∈ happenings := by
  induction happenings generalizing navigator with
  | nil => exact absurd waits ended
  | cons happening happenings induction =>
      obtain ⟨silent, none⟩ := none
      by_cases here : happening = .abandon number
      · rw [here]
        exact List.mem_cons_self
      · have waits := waits_step tallied.settled silent waits here
        exact List.mem_cons_of_mem _
          (induction (tallied.step happening) none waits ended)

private theorem Asks.waits (settled : navigator.history.Settled) {call : Call}
    {number : Nat} (asks : navigator.Asks call number) :
    number ∈ (navigator.step (.call call)).1.waiting.map Prod.fst := by
  obtain ⟨request, begun⟩ := asks
  have progress :
      (navigator.step (.call call)).2 = some (.waits number request) :=
    congrArg some begun
  have move := move_step settled (.call call)
  generalize (navigator.step (.call call)).1 = next at move ⊢
  rw [progress] at move
  cases move with
  | asks => simp [asking]

/-- When no call waits and the phase is loading, the calls that have ended since
one of them asked have all been given up. -/
theorem exists_abandon_of_isLoading {location : Url}
    (atRest : ((start location).run happenings).waiting = [])
    (loading : ((start location).run happenings).IsLoading) :
    ∃ earlier call number later, happenings = earlier ++ .call call :: later ∧
      ((start location).run earlier).Asks call number ∧
      ((start location).run (earlier ++ [.call call])).AnswersNone later ∧
      .abandon number ∈ later := by
  have tallied := tallied_start location
  rcases tallied.isLoading_run_iff.mp loading with
    ⟨⟨href, idle⟩, -⟩ | ⟨earlier, call, number, later, rfl, asks, none⟩
  · cases idle
  · refine ⟨earlier, call, number, later, rfl, asks, none, ?_⟩
    have before := tallied.run earlier
    have waits :
        number ∈
          ((start location).run (earlier ++ [.call call])).waiting.map
            Prod.fst := by
      rw [run_append]
      exact asks.waits before.settled
    refine (tallied.run (earlier ++ [.call call])).abandon_mem none waits ?_
    rw [← run_append, List.append_assoc, List.singleton_append, atRest]
    exact List.not_mem_nil

/-- As long as no call is given up, the phase is not loading when no call
waits. -/
theorem not_isLoading_of_kept {location : Url}
    (kept : ∀ number, .abandon number ∉ happenings)
    (atRest : ((start location).run happenings).waiting = []) :
    ¬ ((start location).run happenings).IsLoading := by
  intro loading
  obtain ⟨earlier, call, number, later, rfl, -, -, given⟩ :=
    exists_abandon_of_isLoading atRest loading
  exact kept number (List.mem_append_right _ (List.mem_cons_of_mem _ given))

/-- However loads, clicks and steps through the history overlap, and whether
their route states come, fail to come or are given up: when no call waits, the
phase is loading just if a call has asked since which none has been answered,
and that call has been given up. -/
theorem isLoading_at_rest_iff (location : Url) (happenings : List Happening)
    (atRest : ((start location).run happenings).waiting = []) :
    ((start location).run happenings).IsLoading ↔
      ∃ earlier call number later, happenings = earlier ++ .call call :: later ∧
        ((start location).run earlier).Asks call number ∧
        ((start location).run (earlier ++ [.call call])).AnswersNone later ∧
        .abandon number ∈ later := by
  constructor
  · exact exists_abandon_of_isLoading atRest
  · rintro ⟨earlier, call, number, later, same, asks, none, -⟩
    exact (tallied_start location).isLoading_run_iff.mpr
      (.inr ⟨earlier, call, number, later, same, asks, none⟩)

/-- A click on a link that is given up before its route state comes. -/
def abandonedClick : Url × List Happening :=
  (⟨"https", "", "", some (.domain "tour.test"), none, .rooted ["index.html"],
      none, none⟩,
    [.call (.click "/a/index.html"), .abandon 0])

theorem isLoading_at_rest_iff_abandonedClick :
    ((start abandonedClick.1).run abandonedClick.2).waiting = [] ∧
      (((start abandonedClick.1).run abandonedClick.2).IsLoading ↔
        ∃ earlier call number later,
          abandonedClick.2 = earlier ++ .call call :: later ∧
            ((start abandonedClick.1).run earlier).Asks call number ∧
            ((start abandonedClick.1).run (earlier ++ [.call call])).AnswersNone
              later ∧
            .abandon number ∈ later) := by
  have atRest :
      ((start abandonedClick.1).run abandonedClick.2).waiting = [] := by
    decide +kernel
  exact ⟨atRest, isLoading_at_rest_iff abandonedClick.1 abandonedClick.2 atRest⟩

/-- The phase can be loading when no call waits. -/
theorem isLoading_abandonedClick :
    ¬ ∀ (location : Url) (happenings : List Happening),
      ((start location).run happenings).waiting = [] →
      ¬ ((start location).run happenings).IsLoading := by
  intro never
  have loading : ((start abandonedClick.1).run abandonedClick.2).phase =
      .loading
        { abandonedClick.1 with path := .rooted ["a", "index.html"] } := by
    decide +kernel
  exact never abandonedClick.1 abandonedClick.2 (by decide +kernel) ⟨_, loading⟩

end LessonSite.Navigator
