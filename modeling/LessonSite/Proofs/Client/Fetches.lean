import LessonSite.Proofs.Client.Deeds

/-!
# Fetches that are out

A call that asks for a route state begins a fetch.  The fetch ends when it is
answered, with a route state or without one, or when the call is given up.  An
account of the fetches is kept beside whatever is done with a page, from what
calls come to and from how they end alone; the counter of the navigation and the
busy mark of the page agree with it.
-/

namespace LessonSite

/-- The fetches that are out after something has happened and come to
something. -/
def Navigator.noteFetch (out : List Nat) :
    Navigator.Happening → Option Progress → List Nat
  | .call _, some (.waits number _) => out ++ [number]
  | .answer number _, _ => out.erase number
  | .abandon number, _ => out.erase number
  | _, _ => out

/-- What a deed means for the calls of the page. -/
def Deed.happening? : Deed → Option Navigator.Happening
  | .call made => some (.call made)
  | .answer number given => some (.answer number given)
  | .abandon number => some (.abandon number)
  | _ => none

/-- The deed ends the fetch with a number, if it is out: an answer comes, or its
call is given up. -/
def Deed.Ends (number : Nat) : Deed → Prop
  | .answer other _ => other = number
  | .abandon other => other = number
  | _ => False

namespace Client

/-- The fetches that are out after a deed. -/
def noteFetch (client : Client) (out : List Nat) (deed : Deed) : List Nat :=
  match deed.happening? with
  | none => out
  | some happening =>
      Navigator.noteFetch out happening (client.navigator.step happening).2

/-- The fetches that are out after some deeds. -/
def fetchesOut (client : Client) (out : List Nat) : List Deed → List Nat
  | [] => out
  | deed :: deeds =>
      (client.use deed).fetchesOut (client.noteFetch out deed) deeds

end Client

namespace Navigator

variable {navigator : Navigator}

/-- The numbers of the calls that wait. -/
def numbers (navigator : Navigator) : List Nat :=
  navigator.waiting.map Prod.fst

private theorem map_fst_filter_ne {waiting : List (Nat × Pending)}
    (distinct : (waiting.map Prod.fst).Nodup) (number : Nat) :
    (waiting.filter fun (other, _) => other ≠ number).map Prod.fst =
      (waiting.map Prod.fst).erase number := by
  rw [distinct.erase_eq_filter, List.filter_map]
  refine congrArg (List.map Prod.fst) (List.filter_congr ?_)
  intro waiter _
  simp [bne, Bool.beq_eq_decide_eq]

theorem numbers_land (tallied : navigator.Tallied) (number : Nat) :
    (navigator.land number).numbers = navigator.numbers.erase number :=
  map_fst_filter_ne tallied.distinct number

private theorem numbers_proceed (state : RouteState) (pending : Pending) :
    (navigator.proceed state pending).1.numbers = navigator.numbers := by
  cases pending <;> rfl

private theorem numbers_undo (pending : Pending) :
    (navigator.undo pending).numbers = navigator.numbers := by
  cases pending <;> rfl

private theorem erase_numbers_of_absent {number : Nat}
    (absent : List.lookup number navigator.waiting = none) :
    navigator.numbers.erase number = navigator.numbers := by
  apply List.erase_of_not_mem
  intro member
  obtain ⟨waiter, waits, rfl⟩ := List.mem_map.mp member
  simpa using List.lookup_eq_none_iff.mp absent waiter waits

/-- The calls that wait are those whose fetches are out. -/
theorem numbers_step (tallied : navigator.Tallied) (happening : Happening) :
    (navigator.step happening).1.numbers =
      noteFetch navigator.numbers happening (navigator.step happening).2 := by
  have move := move_step tallied.settled happening
  generalize (navigator.step happening).1 = next at move ⊢
  generalize (navigator.step happening).2 = progress at move ⊢
  cases move with
  | ends => rfl
  | misses absent meant =>
      rcases meant with rfl | ⟨answer, rfl⟩
      · exact (erase_numbers_of_absent absent).symm
      · exact (erase_numbers_of_absent absent).symm
  | asks => simp [numbers, asking, noteFetch]
  | returns => rfl
  | @arrives number pending state waits =>
      rw [numbers_proceed]
      exact numbers_land tallied number
  | @fails number pending error waits =>
      rw [numbers_undo]
      exact numbers_land tallied number
  | @lapses number pending waits => exact numbers_land tallied number

end Navigator

namespace Client

variable {client : Client}

/-- A deed that means nothing for the calls leaves them alone. -/
theorem numbers_use (tallied : client.navigator.Tallied) (deed : Deed) :
    (client.use deed).navigator.numbers =
      client.noteFetch client.navigator.numbers deed := by
  cases deed with
  | call call =>
      have begun :
          (client.begin call).1.navigator =
            (client.navigator.step (.call call)).1 :=
        navigator_settle _ _ _
      rw [use, begun]
      exact Navigator.numbers_step tallied (.call call)
  | answer number answer =>
      rw [use, navigator_answer]
      exact Navigator.numbers_step tallied (.answer number answer)
  | abandon number => exact Navigator.numbers_step tallied (.abandon number)
  | wait moment => rfl
  | attach state attachment =>
      rw [use, navigator_attach]
      rfl
  | detach component =>
      rw [use, navigator_detach]
      rfl
  | setTheme theme =>
      rw [use, setTheme, navigator_publish]
      rfl
  | toggleToc => rfl
  | moveTo location => rfl
  | toggleChapter position => rfl
  | play event => rfl
  | publish event =>
      rw [use, navigator_publish]
      rfl

theorem fetchesOut_eq (tallied : client.navigator.Tallied) (deeds : List Deed) :
    client.fetchesOut client.navigator.numbers deeds =
      (client.useAll deeds).navigator.numbers := by
  induction deeds generalizing client with
  | nil => rfl
  | cons deed deeds induction =>
      rw [fetchesOut, ← numbers_use tallied deed]
      exact induction (tallied_use tallied deed)

/-- The counter and the busy mark tell the fetches that are out; a fetch that
ends, however it ends, is taken from the counter once. -/
structure CountsFetches (client : Client) (out : List Nat) : Prop where
  inFlight : client.navigator.inFlight = out.length
  busy : client.context.busy = true ↔ 0 < out.length
  ends : ∀ deed, ∀ number ∈ out, deed.Ends number →
    (client.use deed).navigator.inFlight + 1 = client.navigator.inFlight
  ended : ∀ deed number, number ∉ out → deed.Ends number →
    (client.use deed).navigator.inFlight = client.navigator.inFlight

private theorem inFlight_eq (tallied : client.navigator.Tallied) :
    client.navigator.inFlight = client.navigator.numbers.length := by
  rw [tallied.inFlight, Navigator.numbers, List.length_map]

private theorem inFlight_use_of_ends (tallied : client.navigator.Tallied)
    {deed : Deed} {number : Nat} (ends : deed.Ends number) :
    (client.use deed).navigator.inFlight =
      (client.navigator.numbers.erase number).length := by
  have noted :
      client.noteFetch client.navigator.numbers deed =
        client.navigator.numbers.erase number := by
    cases deed with
    | answer other answer =>
        cases ends
        rfl
    | abandon other =>
        cases ends
        rfl
    | _ => cases ends
  rw [inFlight_eq (tallied_use tallied deed), numbers_use tallied, noted]

/-- Whatever is done with a page, however its calls overlap and whether they are
answered or given up: the counter is the number of the fetches that are out,
each of them that ends makes it less by one, and the page is busy just while it
is positive. -/
theorem countsFetches (location : Url) (deeds : List Deed) :
    ((start location).useAll deeds).CountsFetches
      ((start location).fetchesOut [] deeds) := by
  have tallied := ((inOrder_start location).useAll deeds).tallied
  have out :
      (start location).fetchesOut [] deeds =
        ((start location).useAll deeds).navigator.numbers :=
    fetchesOut_eq (Navigator.tallied_start location) deeds
  rw [out]
  generalize (start location).useAll deeds = client at tallied
  refine ⟨inFlight_eq tallied, ?_, ?_, ?_⟩
  · have marked : client.context.busy = !client.navigator.waiting.isEmpty :=
      tallied.busy
    rw [marked, Navigator.numbers, List.length_map, List.length_pos_iff]
    simp
  · intro deed number member ends
    have positive := List.length_pos_of_mem member
    rw [inFlight_use_of_ends tallied ends, inFlight_eq tallied,
      List.length_erase_of_mem member]
    omega
  · intro deed number absent ends
    rw [inFlight_use_of_ends tallied ends, inFlight_eq tallied,
      List.erase_of_not_mem absent]

/-- Of three overlapping clicks the second fails and the first is given up; the
third is out. -/
example :
    (start
        ⟨"https", "", "", some (.domain "tour.test"), none, .rooted [""], none,
          none⟩).fetchesOut []
      [.call (.click "a/"), .call (.click "b/"), .call (.click "c/"),
        .answer 1 (.error (.invalidHref ⟨"b/", .emptyHost⟩)), .abandon 0] =
      [2] := by
  decide +kernel

end Client

end LessonSite
