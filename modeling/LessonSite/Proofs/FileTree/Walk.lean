import LessonSite.Proofs.FileTree.Follow

/-!
# Walking below a directory

Below a directory without links, names lead where their text says.  The places
they lead through are known without the tree, and whether the way is open
depends on what stands at these places.
-/

namespace LessonSite.FileTree

/-- One name on from a place below a directory.  There is no way out of the
directory. -/
def stepFrom? (place : List String) (name : String) : Option (List String) :=
  if staysAt name then some place
  else if name = ".." then if place = [] then none else some place.dropLast
  else some (place ++ [name])

/-- Where names lead from a place below a directory. -/
def walkFrom? (place : List String) : List String → Option (List String)
  | [] => some place
  | name :: names =>
      (stepFrom? place name).bind fun next => walkFrom? next names

/-- The places that names lead through, the first and the last one included. -/
def passed (place : List String) : List String → List (List String)
  | [] => [place]
  | name :: names =>
      place ::
        match stepFrom? place name with
        | none => []
        | some next => passed next names

theorem stepFrom?_stay {place : List String} {name : String}
    (stays : staysAt name) :
    stepFrom? place name = some place :=
  if_pos stays

theorem stepFrom?_up {place : List String} (inside : place ≠ []) :
    stepFrom? place ".." = some place.dropLast := by
  simp [stepFrom?, staysAt, inside]

theorem stepFrom?_name {place : List String} {name : String}
    (isName : IsName name) :
    stepFrom? place name = some (place ++ [name]) := by
  rw [stepFrom?, if_neg isName.not_stays, if_neg isName.ne_up]

theorem name_cases (name : String) :
    staysAt name ∨ name = ".." ∨ IsName name := by
  by_cases stays : staysAt name
  · exact .inl stays
  · by_cases up : name = ".."
    · exact .inr (.inl up)
    · exact .inr
        (.inr
          ⟨fun empty => stays (.inl empty), fun dot => stays (.inr dot), up⟩)

theorem walkFrom?_append (place names rest : List String) :
    walkFrom? place (names ++ rest) =
      (walkFrom? place names).bind fun middle => walkFrom? middle rest := by
  induction names generalizing place with
  | nil => rfl
  | cons name names induction =>
      simp only [List.cons_append, walkFrom?]
      cases stepFrom? place name with
      | none => rfl
      | some next => exact induction next

theorem walkFrom?_of_isName {names : List String}
    (plain : ∀ name ∈ names, IsName name)
    (place : List String) : walkFrom? place names = some (place ++ names) := by
  induction names generalizing place with
  | nil => simp [walkFrom?]
  | cons name names induction =>
      rw [walkFrom?, stepFrom?_name (plain name List.mem_cons_self),
        Option.bind_some,
        induction fun other member =>
          plain other (List.mem_cons_of_mem _ member), List.append_assoc]
      rfl

theorem self_mem_passed (place names : List String) :
    place ∈ passed place names := by
  cases names with
  | nil => exact List.mem_singleton_self place
  | cons name names => exact List.mem_cons_self

theorem walkFrom?_mem_passed {place names target : List String}
    (walks : walkFrom? place names = some target) :
    target ∈ passed place names := by
  induction names generalizing place with
  | nil =>
      cases walks
      exact List.mem_singleton_self _
  | cons name names induction =>
      obtain ⟨next, step, onwards⟩ := Option.bind_eq_some_iff.mp walks
      simp only [passed, step]
      exact List.mem_cons_of_mem _ (induction onwards)

theorem mem_passed_append {place names rest other : List String} :
    other ∈ passed place (names ++ rest) ↔
      other ∈ passed place names ∨
        ∃ middle,
          walkFrom? place names = some middle ∧ other ∈ passed middle rest := by
  induction names generalizing place with
  | nil =>
      simp only [List.nil_append, passed, List.mem_singleton, walkFrom?,
        Option.some.injEq, exists_eq_left']
      constructor
      · exact .inr
      · rintro (same | later)
        · rw [same]
          exact self_mem_passed place rest
        · exact later
  | cons name names induction =>
      simp only [List.cons_append, passed, walkFrom?, List.mem_cons]
      cases stepFrom? place name with
      | none => simp
      | some next => simp only [induction, or_assoc, Option.bind_some]

theorem mem_passed_concat {place names middle target other : List String}
    {name : String}
    (walks : walkFrom? place names = some middle)
    (step : stepFrom? middle name = some target) :
    other ∈ passed place (names ++ [name]) ↔
      other ∈ passed place names ∨ other = target := by
  have last : passed middle [name] = [middle, target] := by
    simp only [passed, step]
  rw [mem_passed_append]
  constructor
  · rintro (earlier | ⟨found, same, later⟩)
    · exact .inl earlier
    · cases walks.symm.trans same
      simp only [last, List.mem_cons, List.not_mem_nil, or_false] at later
      rcases later with rfl | rfl
      · exact .inl (walkFrom?_mem_passed walks)
      · exact .inr rfl
  · rintro (earlier | rfl)
    · exact .inl earlier
    · exact .inr ⟨middle, walks, by simp [last]⟩

/-- Every place that names lead through is where some first part of them
leads. -/
theorem exists_prefix_of_mem_passed {place names other : List String}
    (member : other ∈ passed place names) :
    ∃ first rest,
      names = first ++ rest ∧ walkFrom? place first = some other := by
  induction names generalizing place with
  | nil =>
      exact ⟨[], [], rfl, congrArg some (List.mem_singleton.mp member).symm⟩
  | cons name names induction =>
      rcases List.mem_cons.mp member with rfl | later
      · exact ⟨[], name :: names, rfl, rfl⟩
      · cases step : stepFrom? place name with
        | none => simp [step] at later
        | some next =>
            rw [step] at later
            obtain ⟨first, rest, rfl, walks⟩ := induction later
            exact ⟨name :: first, rest,
              rfl, by rw [walkFrom?, step, Option.bind_some, walks]⟩

/-- Below a place there are the given directories and files and nothing else,
and the other places are as they were. -/
structure Holds (before : FileTree) (top : List String)
    (directories : List (List String))
    (files : List (List String × List UInt8)) (tree : FileTree) : Prop where
  inside : ∀ place, tree.kind? (top ++ place) =
    if place = [] ∨ place ∈ directories then some .directory
    else (List.lookup place files).map .file
  outside : ∀ place, ¬top <+: place → tree.kind? place = before.kind? place
  counted : ∃ entries : FileTree, tree.at? top = some (.directory entries) ∧
    (filesIn "" entries).length = files.length

namespace Holds

variable {before tree : FileTree} {top : List String}
  {directories : List (List String)} {files : List (List String × List UInt8)}

theorem directory_iff (holds : Holds before top directories files tree)
    {place : List String} :
    tree.kind? (top ++ place) = some .directory ↔
      place = [] ∨ place ∈ directories := by
  rw [holds.inside]
  by_cases member : place = [] ∨ place ∈ directories
  · simp [member]
  · rw [if_neg member]
    cases List.lookup place files <;> simp [member]

theorem kind?_directory (holds : Holds before top directories files tree)
    {place : List String}
    (member : place = [] ∨ place ∈ directories) :
    tree.kind? (top ++ place) = some .directory := by
  rw [holds.inside, if_pos member]

theorem congr (holds : Holds before top directories files tree)
    {others : List (List String)}
    (same : ∀ place, place ≠ [] → (place ∈ directories ↔ place ∈ others)) :
    Holds before top others files tree where
  inside := by
    intro place
    rw [holds.inside]
    by_cases first : place = []
    · simp [first]
    · simp only [first, false_or, same place first]
  outside := holds.outside
  counted := holds.counted

theorem again (holds : Holds before top directories files tree)
    {place : List String} (there : place = [] ∨ place ∈ directories) :
    Holds before top (place :: directories) files tree := by
  refine holds.congr ?_
  intro other inner
  rw [List.mem_cons]
  constructor
  · exact .inr
  · rintro (rfl | member)
    · exact there.resolve_left inner
    · exact member

theorem pass (holds : Holds before top directories files tree)
    {names : List String}
    (through : ∀ other ∈ passed [] names, other = [] ∨ other ∈ directories) :
    Holds before top (passed [] names ++ directories) files tree := by
  refine holds.congr ?_
  intro other inner
  rw [List.mem_append]
  constructor
  · exact .inr
  · rintro (onTheWay | member)
    · exact (through other onTheWay).resolve_left inner
    · exact member

theorem passLast {names middle target : List String} {name : String}
    (walks : walkFrom? [] names = some middle)
    (step : stepFrom? middle name = some target)
    (holds : Holds before top (target :: (passed [] names ++ directories))
      files tree) :
    Holds before top (passed [] (names ++ [name]) ++ directories)
      files tree := by
  refine holds.congr ?_
  intro other inner
  rw [List.mem_cons, List.mem_append, List.mem_append,
    mem_passed_concat walks step, or_right_comm, or_comm]

theorem dropLast_directory (holds : Holds before top directories files tree)
    {place : List String}
    (inner : place ≠ []) (room : place = [] ∨ place ∈ directories) :
    place.dropLast = [] ∨ place.dropLast ∈ directories := by
  have whole :
      tree.kind? (top ++ place.dropLast ++ [place.getLast inner]) =
        some .directory := by
    rw [List.append_assoc, List.dropLast_concat_getLast inner]
    exact holds.kind?_directory room
  exact holds.directory_iff.mp (kind?_of_append (List.cons_ne_nil _ _) whole)

/-- Names that lead through directories only can be followed. -/
theorem leads (holds : Holds before top directories files tree)
    {place names target : List String}
    (walks : walkFrom? place names = some target)
    (short : ∀ name ∈ names, fits name)
    (through : ∀ other ∈ passed place names, other = [] ∨ other ∈ directories)
    (links : Nat) :
    Leads tree links (top ++ place) names links (top ++ target) := by
  induction names generalizing place with
  | nil =>
      cases walks
      exact .here _ _
  | cons name names induction =>
      obtain ⟨next, step, onwards⟩ := Option.bind_eq_some_iff.mp walks
      have room := holds.kind?_directory (through place (self_mem_passed _ _))
      have later :
          ∀ other ∈ passed next names, other = [] ∨ other ∈ directories := by
        intro other member
        refine through other ?_
        simp only [passed, step]
        exact List.mem_cons_of_mem _ member
      have rest :=
        induction onwards
          (fun other member => short other (List.mem_cons_of_mem _ member))
          later
      have there := holds.kind?_directory (later next (self_mem_passed _ _))
      rcases name_cases name with stays | rfl | isName
      · cases (stepFrom?_stay stays).symm.trans step
        exact .stay room stays rest
      · have inside : place ≠ [] := by
          rintro rfl
          simp [stepFrom?, staysAt] at step
        cases (stepFrom?_up inside).symm.trans step
        refine .up room ?_
        rwa [List.dropLast_append_of_ne_nil inside]
      · cases (stepFrom?_name isName).symm.trans step
        rw [← List.append_assoc] at rest there
        exact .down room isName (short name List.mem_cons_self) there
          (fun goal => by simp) rest

/-- Names that do not lead through files can be followed, or a directory on the
way is missing. -/
theorem follow_eq (holds : Holds before top directories files tree)
    {place names target : List String}
    (walks : walkFrom? place names = some target)
    (short : ∀ name ∈ names, fits name)
    (apart : ∀ other ∈ passed place names, List.lookup other files = none)
    (room : place = [] ∨ place ∈ directories) (links : Nat) :
    (∀ other ∈ passed place names, other = [] ∨ other ∈ directories) ∨
      tree.follow true links (top ++ place) names = .error .missing := by
  induction names generalizing place with
  | nil =>
      left
      intro other member
      cases List.mem_singleton.mp member
      exact room
  | cons name names induction =>
      obtain ⟨next, step, onwards⟩ := Option.bind_eq_some_iff.mp walks
      have here := holds.kind?_directory room
      have clear :
          ∀ other ∈ passed next names, List.lookup other files = none := by
        intro other member
        refine apart other ?_
        simp only [passed, step]
        exact List.mem_cons_of_mem _ member
      by_cases there : next = [] ∨ next ∈ directories
      · rcases induction onwards
          (fun other member => short other (List.mem_cons_of_mem _ member))
          clear there with through | missing
        · left
          intro other member
          simp only [passed, step] at member
          rcases List.mem_cons.mp member with rfl | later
          · exact room
          · exact through other later
        · right
          rcases name_cases name with stays | rfl | isName
          · cases (stepFrom?_stay stays).symm.trans step
            rw [follow_stay here stays, missing]
          · have inside : place ≠ [] := by
              rintro rfl
              simp [stepFrom?, staysAt] at step
            cases (stepFrom?_up inside).symm.trans step
            rw [follow_up here, List.dropLast_append_of_ne_nil inside, missing]
          · cases (stepFrom?_name isName).symm.trans step
            rw [follow_down here isName (short name List.mem_cons_self)
              (by rw [List.append_assoc]; exact holds.kind?_directory there)
              (fun goal => by simp),
              List.append_assoc, missing]
      · right
        rcases name_cases name with stays | rfl | isName
        · cases (stepFrom?_stay stays).symm.trans step
          exact absurd room there
        · have inside : place ≠ [] := by
            rintro rfl
            simp [stepFrom?, staysAt] at step
          cases (stepFrom?_up inside).symm.trans step
          exact absurd (holds.dropLast_directory inside room) there
        · cases (stepFrom?_name isName).symm.trans step
          have absent : tree.kind? (top ++ place ++ [name]) = none := by
            rw [List.append_assoc, holds.inside, if_neg there,
              clear _ (self_mem_passed _ _)]
            rfl
          exact follow_missing here isName (short name List.mem_cons_self)
            absent names

end Holds

end LessonSite.FileTree
