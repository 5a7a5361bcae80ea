import LessonSite.Proofs.FileTree.Kind

/-!
# Following names

Where names lead depends on the kinds of node on the way only.  So a way stays
open while nothing on it changes, and a long way is followed part after part.
-/

namespace LessonSite.FileTree

variable {tree : FileTree} {followLast : Bool} {links : Nat}
  {place : List String}

/-- The name can stand in a directory for something else than a directory around
it. -/
structure IsName (name : String) : Prop where
  ne_empty : name ≠ ""
  ne_dot : name ≠ "."
  ne_up : name ≠ ".."

instance (name : String) : Decidable (IsName name) :=
  decidable_of_iff (name ≠ "" ∧ name ≠ "." ∧ name ≠ "..")
    ⟨fun ⟨some_, moves, down⟩ => ⟨some_, moves, down⟩,
      fun isName => ⟨isName.ne_empty, isName.ne_dot, isName.ne_up⟩⟩

/-- The name stands for the directory it is looked up in. -/
abbrev staysAt (name : String) : Prop :=
  name = "" ∨ name = "."

/-- The name is not too long for a directory. -/
def fits (name : String) : Prop :=
  (Utf8.encode name).length ≤ 255

theorem fits_up : fits ".." := by
  unfold fits
  decide

@[simp] theorem follow_nil :
    tree.follow followLast links place [] = .ok place := by
  cases links <;> rw [follow, followNames]

private theorem follow_cons {entries : FileTree}
    (found : tree.at? place = some (.directory entries))
    (name : String) (names : List String) :
    tree.follow followLast links place (name :: names) =
      if name = "" ∨ name = "." then tree.follow followLast links place names
      else if name = ".." then tree.follow followLast links place.dropLast names
      else if (Utf8.encode name).length > 255 then .error .nameTooLong
      else
        match List.lookup name entries, links with
        | none, _ => .error .missing
        | some (.link target), links =>
            if names.isEmpty ∧ !followLast then .ok (place ++ [name])
            else
              match links with
              | 0 => .error .tooManyLinks
              | left + 1 =>
                  if Text.startsWith "/" target then .error .missing
                  else tree.follow followLast left place
                    (pathNames target ++ names)
        | some _, links =>
            tree.follow followLast links (place ++ [name]) names := by
  cases links with
  | zero =>
      rw [follow, followNames, found]
      simp only
      cases List.lookup name entries with
      | none => rfl
      | some node => cases node <;> rfl
  | succ left =>
      rw [follow, followNames, found]
      simp only
      cases List.lookup name entries with
      | none => rfl
      | some node => cases node <;> rfl

theorem follow_stay {name : String} (here : tree.kind? place = some .directory)
    (stays : staysAt name) (names : List String) :
    tree.follow followLast links place (name :: names) =
      tree.follow followLast links place names := by
  obtain ⟨entries, found⟩ := kind?_eq_directory_iff.mp here
  rw [follow_cons found]
  exact if_pos stays

theorem follow_up (here : tree.kind? place = some .directory)
    (names : List String) :
    tree.follow followLast links place (".." :: names) =
      tree.follow followLast links place.dropLast names := by
  obtain ⟨entries, found⟩ := kind?_eq_directory_iff.mp here
  rw [follow_cons found]
  simp

theorem follow_blocked {name : String}
    (here : tree.kind? place ≠ some .directory) (names : List String) :
    tree.follow followLast links place (name :: names) =
      .error .notDirectory := by
  rw [Ne, kind?_eq_directory_iff] at here
  cases links with
  | zero =>
      rw [follow, followNames]
      split
      · next entries found => exact absurd ⟨entries, found⟩ here
      · rfl
  | succ left =>
      rw [follow, followNames]
      split
      · next entries found => exact absurd ⟨entries, found⟩ here
      · rfl

theorem IsName.not_stays {name : String} (isName : IsName name) :
    ¬staysAt name := by
  intro stays
  exact stays.elim isName.ne_empty isName.ne_dot

private theorem kind?_concat {entries : FileTree}
    (found : tree.at? place = some (.directory entries)) (name : String) :
    tree.kind? (place ++ [name]) =
      (List.lookup name entries).map FileNode.kind := by
  rw [kind?_append found, kind?, at?_cons]
  cases List.lookup name entries <;> rfl

theorem follow_long {name : String} (here : tree.kind? place = some .directory)
    (isName : IsName name) (long : ¬fits name) (names : List String) :
    tree.follow followLast links place (name :: names) =
      .error .nameTooLong := by
  obtain ⟨entries, found⟩ := kind?_eq_directory_iff.mp here
  have tooLong : (Utf8.encode name).length > 255 := Nat.not_le.mp long
  have notStays : ¬(name = "" ∨ name = ".") := isName.not_stays
  rw [follow_cons found]
  simp only [notStays, isName.ne_up, tooLong, if_true, if_false]

theorem follow_missing {name : String}
    (here : tree.kind? place = some .directory)
    (isName : IsName name) (short : fits name)
    (absent : tree.kind? (place ++ [name]) = none) (names : List String) :
    tree.follow followLast links place (name :: names) = .error .missing := by
  obtain ⟨entries, found⟩ := kind?_eq_directory_iff.mp here
  rw [kind?_concat found, Option.map_eq_none_iff] at absent
  have notLong : ¬(Utf8.encode name).length > 255 := Nat.not_lt.mpr short
  have notStays : ¬(name = "" ∨ name = ".") := isName.not_stays
  rw [follow_cons found]
  simp only [notStays, isName.ne_up, notLong, if_false, absent]

theorem follow_down {name : String} {kind : FileKind}
    (here : tree.kind? place = some .directory)
    (isName : IsName name) (short : fits name)
    (next : tree.kind? (place ++ [name]) = some kind)
    (plain : ∀ target, kind ≠ .link target) (names : List String) :
    tree.follow followLast links place (name :: names) =
      tree.follow followLast links (place ++ [name]) names := by
  obtain ⟨entries, found⟩ := kind?_eq_directory_iff.mp here
  rw [kind?_concat found, Option.map_eq_some_iff] at next
  obtain ⟨node, below, same⟩ := next
  have notLong : ¬(Utf8.encode name).length > 255 := Nat.not_lt.mpr short
  have notStays : ¬(name = "" ∨ name = ".") := isName.not_stays
  rw [follow_cons found]
  simp only [notStays, isName.ne_up, notLong, if_false, below]
  cases node with
  | link target => exact absurd same.symm (plain target)
  | file content => rfl
  | directory entries => rfl

/-- A link is followed from where it stands, unless too many have been
followed. -/
theorem follow_link {name target : String}
    (here : tree.kind? place = some .directory)
    (isName : IsName name) (short : fits name)
    (next : tree.kind? (place ++ [name]) = some (.link target))
    (names : List String) :
    tree.follow true links place (name :: names) =
      match links with
      | 0 => .error .tooManyLinks
      | left + 1 =>
          if Text.startsWith "/" target then .error .missing
          else tree.follow true left place (pathNames target ++ names) := by
  obtain ⟨entries, found⟩ := kind?_eq_directory_iff.mp here
  rw [kind?_concat found, Option.map_eq_some_iff] at next
  obtain ⟨node, below, same⟩ := next
  have notLong : ¬(Utf8.encode name).length > 255 := Nat.not_lt.mpr short
  have notStays : ¬(name = "" ∨ name = ".") := isName.not_stays
  rw [follow_cons found]
  simp only [notStays, isName.ne_up, notLong, if_false, below]
  cases node with
  | link other =>
      obtain rfl := FileKind.link.inj same
      cases links <;> simp
  | file content => cases same
  | directory entries => cases same

/-- All ways in which one name can be followed: it stays, leads up, leads down
to a node, or is a link to other names. -/
theorem follow_cons_eq_ok {name : String} {names target : List String}
    (ok : tree.follow true links place (name :: names) = .ok target) :
    tree.kind? place = some .directory ∧
      ((staysAt name ∧ tree.follow true links place names = .ok target) ∨
        (name = ".." ∧
          tree.follow true links place.dropLast names = .ok target) ∨
        (IsName name ∧ fits name ∧
          ∃ kind, tree.kind? (place ++ [name]) = some kind ∧
            (∀ goal, kind ≠ .link goal) ∧
              tree.follow true links (place ++ [name]) names = .ok target) ∨
        (IsName name ∧ fits name ∧
          ∃ goal left, tree.kind? (place ++ [name]) = some (.link goal) ∧
            links = left + 1 ∧ Text.startsWith "/" goal = false ∧
              tree.follow true left place (pathNames goal ++ names) =
                .ok target)) := by
  by_cases here : tree.kind? place = some .directory
  · refine ⟨here, ?_⟩
    by_cases stays : staysAt name
    · exact .inl ⟨stays, (follow_stay here stays names).symm.trans ok⟩
    by_cases up : name = ".."
    · subst up
      exact .inr (.inl ⟨rfl, (follow_up here names).symm.trans ok⟩)
    have isName : IsName name :=
      ⟨fun empty => stays (.inl empty), fun dot => stays (.inr dot), up⟩
    by_cases short : fits name
    · cases next : tree.kind? (place ++ [name]) with
      | none =>
          rw [follow_missing here isName short next] at ok
          cases ok
      | some kind =>
          by_cases plain : ∀ goal, kind ≠ .link goal
          · rw [follow_down here isName short next plain] at ok
            exact .inr (.inr (.inl ⟨isName, short, kind, rfl, plain, ok⟩))
          · obtain ⟨goal, isLink⟩ := Classical.not_forall.mp plain
            obtain rfl := Classical.not_not.mp isLink
            rw [follow_link here isName short next] at ok
            cases links with
            | zero => cases ok
            | succ left =>
                dsimp only at ok
                split at ok
                · cases ok
                · next relative =>
                    exact .inr (.inr (.inr
                      ⟨isName, short, goal, left, rfl,
                        rfl, by simpa using relative, ok⟩))
    · rw [follow_long here isName short] at ok
      cases ok
  · rw [follow_blocked here] at ok
    cases ok

/-- Names lead from a place to another one; from a number of links that may be
followed on the way, some are left. -/
inductive Leads (tree : FileTree) :
    Nat → List String → List String → Nat → List String → Prop where
  | here (links : Nat) (place : List String) :
      Leads tree links place [] links place
  | stay {links left : Nat} {place names target : List String} {name : String}
      (room : tree.kind? place = some .directory) (stays : staysAt name) :
      Leads tree links place names left target →
      Leads tree links place (name :: names) left target
  | up {links left : Nat} {place names target : List String}
      (room : tree.kind? place = some .directory) :
      Leads tree links place.dropLast names left target →
      Leads tree links place (".." :: names) left target
  | down {links left : Nat} {place names target : List String} {name : String}
      {kind : FileKind}
      (room : tree.kind? place = some .directory) (isName : IsName name)
      (short : fits name)
      (next : tree.kind? (place ++ [name]) = some kind)
      (plain : ∀ goal, kind ≠ .link goal) :
      Leads tree links (place ++ [name]) names left target →
      Leads tree links place (name :: names) left target
  | link {links left : Nat} {place names target : List String}
      {name goal : String}
      (room : tree.kind? place = some .directory) (isName : IsName name)
      (short : fits name)
      (next : tree.kind? (place ++ [name]) = some (.link goal))
      (relative : Text.startsWith "/" goal = false) :
      Leads tree links place (pathNames goal ++ names) left target →
      Leads tree (links + 1) place (name :: names) left target

theorem Leads.follow_append {left : Nat} {names target : List String}
    (leads : Leads tree links place names left target) (rest : List String) :
    tree.follow true links place (names ++ rest) =
      tree.follow true left target rest := by
  induction leads with
  | here => rfl
  | stay room stays _ induction =>
      rw [List.cons_append, follow_stay room stays, induction]
  | up room _ induction => rw [List.cons_append, follow_up room, induction]
  | down room isName short next plain _ induction =>
      rw [List.cons_append, follow_down room isName short next plain, induction]
  | link room isName short next relative _ induction =>
      rw [List.cons_append, follow_link room isName short next]
      simp only [relative, Bool.false_eq_true, if_false]
      rw [← List.append_assoc, induction]

theorem Leads.append {middle left : Nat}
    {names rest between target : List String}
    (first : Leads tree links place names middle between)
    (second : Leads tree middle between rest left target) :
    Leads tree links place (names ++ rest) left target := by
  induction first with
  | here => exact second
  | stay room stays _ induction => exact .stay room stays (induction second)
  | up room _ induction => exact .up room (induction second)
  | down room isName short next plain _ induction =>
      exact .down room isName short next plain (induction second)
  | link room isName short next relative _ induction =>
      have onwards := induction second
      rw [List.append_assoc] at onwards
      exact .link room isName short next relative onwards

theorem follow_eq_ok_iff {names target : List String} :
    tree.follow true links place names = .ok target ↔
      ∃ left, Leads tree links place names left target := by
  constructor
  · -- a link brings new names, so the induction is on the links that are left,
    -- then on the names
    induction links using Nat.strongRecOn generalizing place names with
    | ind links again =>
        induction names generalizing place with
        | nil =>
            intro ok
            rw [follow_nil] at ok
            cases ok
            exact ⟨_, .here _ _⟩
        | cons name names induction =>
            intro ok
            obtain ⟨room, ⟨stays, onwards⟩ | ⟨rfl, onwards⟩ |
              ⟨isName, short, kind, next, plain, onwards⟩ |
              ⟨isName, short, goal, left, next, rfl, relative, onwards⟩⟩ :=
              follow_cons_eq_ok ok
            · obtain ⟨left, leads⟩ := induction onwards
              exact ⟨left, .stay room stays leads⟩
            · obtain ⟨left, leads⟩ := induction onwards
              exact ⟨left, .up room leads⟩
            · obtain ⟨left, leads⟩ := induction onwards
              exact ⟨left, .down room isName short next plain leads⟩
            · obtain ⟨last, leads⟩ := again left (Nat.lt_succ_self left) onwards
              exact ⟨last, .link room isName short next relative leads⟩
  · rintro ⟨left, leads⟩
    have whole := leads.follow_append []
    rwa [List.append_nil, follow_nil] at whole

theorem resolve_eq_ok_iff {path : String} {place : List String} :
    tree.resolve path = .ok place ↔
      '\x00' ∉ path.toList ∧ path ≠ "" ∧ Text.startsWith "/" path = false ∧
        ∃ left, Leads tree linkLimit [] (pathNames path) left place := by
  rw [← follow_eq_ok_iff]
  unfold FileTree.resolve
  by_cases nul : path.toList.contains '\x00'
  · simp_all
  · by_cases empty : path = ""
    · simp_all
    · cases rooted : Text.startsWith "/" path <;> simp_all

/-- A way can be taken up to any point and on from there. -/
theorem Leads.split {left : Nat} {names rest target : List String}
    (leads : Leads tree links place (names ++ rest) left target) :
    ∃ middle between, Leads tree links place names middle between ∧
      Leads tree middle between rest left target := by
  generalize whole : names ++ rest = all at leads
  induction leads generalizing names with
  | here =>
      obtain ⟨rfl, rfl⟩ := List.append_eq_nil_iff.mp whole
      exact ⟨_, _, .here _ _, .here _ _⟩
  | stay room stays leads induction =>
      cases names with
      | nil =>
          subst whole
          exact ⟨_, _, .here _ _, .stay room stays leads⟩
      | cons name names =>
          obtain ⟨rfl, rfl⟩ := List.cons.inj whole
          obtain ⟨middle, between, first, second⟩ := induction rfl
          exact ⟨middle, between, .stay room stays first, second⟩
  | up room leads induction =>
      cases names with
      | nil =>
          subst whole
          exact ⟨_, _, .here _ _, .up room leads⟩
      | cons name names =>
          obtain ⟨rfl, rfl⟩ := List.cons.inj whole
          obtain ⟨middle, between, first, second⟩ := induction rfl
          exact ⟨middle, between, .up room first, second⟩
  | down room isName short next plain leads induction =>
      cases names with
      | nil =>
          subst whole
          exact ⟨_, _, .here _ _, .down room isName short next plain leads⟩
      | cons name names =>
          obtain ⟨rfl, rfl⟩ := List.cons.inj whole
          obtain ⟨middle, between, first, second⟩ := induction rfl
          exact ⟨middle, between, .down room isName short next plain first,
            second⟩
  | link room isName short next relative leads induction =>
      cases names with
      | nil =>
          subst whole
          exact ⟨_, _, .here _ _, .link room isName short next relative leads⟩
      | cons name names =>
          obtain ⟨rfl, rfl⟩ := List.cons.inj whole
          obtain ⟨middle, between, first, second⟩ :=
            induction (List.append_assoc _ _ _)
          exact ⟨middle, between, .link room isName short next relative first,
            second⟩

theorem Leads.room {names target : List String} {left : Nat}
    (leads : Leads tree links place names left target) (more : names ≠ []) :
    tree.kind? place = some .directory := by
  cases leads with
  | here => exact absurd rfl more
  | stay room => exact room
  | up room => exact room
  | down room => exact room
  | link room => exact room

/-- What is known of a single name that leads somewhere. -/
theorem Leads.single {target : List String} {left : Nat} {name : String}
    (leads : Leads tree links place [name] left target) :
    tree.kind? place = some .directory ∧
      ((staysAt name ∧ place = target) ∨
        (¬staysAt name ∧ fits name ∧
          (IsName name → tree.kind? (place ++ [name]) ≠ none))) := by
  cases leads with
  | stay room stays rest =>
      cases rest
      exact ⟨room, .inl ⟨stays, rfl⟩⟩
  | up room rest =>
      exact ⟨room,
        .inr ⟨by simp, fits_up, fun isName => absurd rfl isName.ne_up⟩⟩
  | down room isName short next plain rest =>
      exact ⟨room, .inr ⟨isName.not_stays, short, fun _ => by simp [next]⟩⟩
  | link room isName short next relative rest =>
      exact ⟨room, .inr ⟨isName.not_stays, short, fun _ => by simp [next]⟩⟩

private theorem Leads.stay_all {target names : List String} {left : Nat}
    (leads : Leads tree links place names left target)
    (stay : ∀ name ∈ names, staysAt name) :
    links = left ∧ place = target := by
  induction leads with
  | here => exact ⟨rfl, rfl⟩
  | stay room stays _ induction =>
      exact induction fun name member =>
        stay name (List.mem_cons_of_mem _ member)
  | up room => simpa [staysAt] using stay _ List.mem_cons_self
  | down room isName =>
      exact absurd (stay _ List.mem_cons_self) isName.not_stays
  | link room isName =>
      exact absurd (stay _ List.mem_cons_self) isName.not_stays

theorem Leads.trim {target names last : List String} {left : Nat}
    (leads : Leads tree links place (names ++ last) left target)
    (stay : ∀ name ∈ last, staysAt name) :
    Leads tree links place names left target := by
  obtain ⟨middle, between, first, second⟩ := leads.split
  obtain ⟨rfl, rfl⟩ := second.stay_all stay
  exact first

/-- A name that is kept when names that stay are left out. -/
def moves (name : String) : Bool :=
  name != "" && name != "."

theorem moves_iff {name : String} : moves name = true ↔ ¬staysAt name := by
  simp [moves, staysAt]

private theorem Leads.filter_rest {target all names rest : List String}
    {left : Nat}
    (leads : Leads tree links place all left target)
    (whole : all = names ++ rest) :
    Leads tree links place (names ++ rest.filter moves) left target := by
  induction leads generalizing names rest with
  | here =>
      obtain ⟨rfl, rfl⟩ := List.append_eq_nil_iff.mp whole.symm
      exact .here _ _
  | stay room stays leads induction =>
      cases names with
      | nil =>
          subst whole
          rw [List.filter_cons_of_neg fun moves => moves_iff.mp moves stays]
          exact @induction [] _ rfl
      | cons name names =>
          obtain ⟨rfl, rest⟩ := List.cons.inj whole
          exact .stay room stays (induction rest)
  | up room leads induction =>
      cases names with
      | nil =>
          subst whole
          rw [List.filter_cons_of_pos (by decide)]
          exact .up room (@induction [] _ rfl)
      | cons name names =>
          obtain ⟨rfl, rest⟩ := List.cons.inj whole
          exact .up room (induction rest)
  | down room isName short next plain leads induction =>
      cases names with
      | nil =>
          subst whole
          rw [List.filter_cons_of_pos (moves_iff.mpr isName.not_stays)]
          exact .down room isName short next plain (@induction [] _ rfl)
      | cons name names =>
          obtain ⟨rfl, rest⟩ := List.cons.inj whole
          exact .down room isName short next plain (induction rest)
  | @link links left place old target name goal room isName short next relative
    leads induction =>
      cases names with
      | nil =>
          subst whole
          rw [List.filter_cons_of_pos (moves_iff.mpr isName.not_stays)]
          exact .link room isName short next relative (induction rfl)
      | cons name names =>
          obtain ⟨rfl, rest⟩ := List.cons.inj whole
          have onwards :=
            induction (show pathNames goal ++ old =
              (pathNames goal ++ names) ++ _ by
              rw [rest, List.append_assoc]
              rfl)
          rw [List.append_assoc] at onwards
          exact .link room isName short next relative onwards

theorem Leads.filter_moves {target names : List String} {left : Nat}
    (leads : Leads tree links place names left target) :
    Leads tree links place (names.filter moves) left target :=
  @Leads.filter_rest _ _ _ _ _ [] _ _ leads rfl

/-- Plain names can be followed down to whatever is there. -/
theorem leads_down {names : List String}
    (plain : ∀ name ∈ names, IsName name ∧ fits name)
    {content : List UInt8}
    (there : tree.kind? (place ++ names) = some (.file content)) :
    Leads tree links place names links (place ++ names) := by
  induction names generalizing place with
  | nil =>
      rw [List.append_nil]
      exact .here _ _
  | cons name names induction =>
      obtain ⟨isName, short⟩ := plain name List.mem_cons_self
      have room := kind?_of_append (List.cons_ne_nil name names) there
      rw [← List.singleton_append, ← List.append_assoc] at there ⊢
      have rest :=
        induction (fun other member =>
          plain other (List.mem_cons_of_mem _ member)) there
      by_cases last : names = []
      · subst last
        rw [List.append_nil] at there
        exact .down room isName short there (fun goal => by simp) rest
      · exact .down room isName short (kind?_of_append last there)
          (fun goal => by simp) rest

/-- Everything stands in one tree as it does in the other, which may have
more. -/
def Extends (tree other : FileTree) : Prop :=
  ∀ place kind, tree.kind? place = some kind → other.kind? place = some kind

/-- Everything is still there, of the same kind; the content of files may be
another one. -/
def Keeps (tree other : FileTree) : Prop :=
  ∀ place kind, tree.kind? place = some kind →
    ∃ later, other.kind? place = some later ∧ later.shape = kind.shape

theorem Extends.keeps {other : FileTree} (grown : Extends tree other) :
    Keeps tree other :=
  fun place kind found => ⟨kind, grown place kind found, rfl⟩

theorem Keeps.directory {other : FileTree} (keeps : Keeps tree other)
    {place : List String}
    (room : tree.kind? place = some .directory) :
    other.kind? place = some .directory := by
  obtain ⟨later, there, same⟩ := keeps place _ room
  cases later with
  | directory => exact there
  | file content => cases same
  | link target => cases same

/-- A way is kept with the directories and links on it. -/
theorem Leads.keep {other : FileTree} {left : Nat} {names target : List String}
    (leads : Leads tree links place names left target)
    (keeps : Keeps tree other) :
    Leads other links place names left target := by
  induction leads with
  | here => exact .here _ _
  | stay room stays _ induction =>
      exact .stay (keeps.directory room) stays induction
  | up room _ induction => exact .up (keeps.directory room) induction
  | down room isName short next plain _ induction =>
      obtain ⟨later, there, same⟩ := keeps _ _ next
      refine .down (keeps.directory room) isName short there ?_ induction
      rintro goal rfl
      cases FileKind.eq_link_of_shape same.symm
      exact plain goal rfl
  | link room isName short next relative _ induction =>
      obtain ⟨later, there, same⟩ := keeps _ _ next
      cases FileKind.eq_link_of_shape same
      exact .link (keeps.directory room) isName short there relative induction

theorem Leads.mono {other : FileTree} {left : Nat} {names target : List String}
    (leads : Leads tree links place names left target)
    (grown : Extends tree other) :
    Leads other links place names left target :=
  leads.keep grown.keeps

end LessonSite.FileTree
