import LessonSite.Proofs.FileTree.Walk

/-!
# Making directories and writing files

In a directory that was empty, what has been made and written since is known.  A
way that leads through no file can always be made, and a file can be written
wherever there is a directory and no other one is in its place.
-/

namespace LessonSite.FileTree

variable {before tree : FileTree} {top : List String}
  {directories : List (List String)} {files : List (List String × List UInt8)}

theorem holds_start (empty : before.at? top = some (.directory [])) :
    Holds before top [] [] before where
  inside := by
    intro place
    rw [kind?_append empty]
    cases place with
    | nil => simp
    | cons name names => simp [kind?, at?_cons]
  outside := fun _ _ => rfl
  counted := ⟨[], empty, by simp [filesIn]⟩

namespace Holds

theorem extends_before (holds : Holds before top directories files tree)
    (empty : before.at? top = some (.directory [])) : Extends before tree := by
  intro place kind found
  by_cases below : top <+: place
  · obtain ⟨names, rfl⟩ := below
    rw [kind?_append empty] at found
    cases names with
    | nil =>
        rw [← found, holds.kind?_directory (.inl rfl)]
        simp
    | cons name names => simp [kind?, at?_cons] at found
  · rw [holds.outside place below, found]

private theorem ne_of_not_below {place other : List String} {name : String}
    (below : ¬top <+: place) : place ≠ top ++ other ++ [name] := by
  rintro rfl
  exact below ⟨other ++ [name], (List.append_assoc _ _ _).symm⟩

private theorem counted_putAt (holds : Holds before top directories files tree)
    (node : FileNode)
    (number : Nat) (counts : ∀ path, (filesOf path node).length = number)
    {place : List String}
    {name : String} (room : place = [] ∨ place ∈ directories)
    (absent : tree.kind? (top ++ place ++ [name]) = none) :
    ∃ entries : FileTree,
      (putAt node (top ++ place ++ [name]) tree).at? top =
          some (.directory entries) ∧
        (filesIn "" entries).length = files.length + number := by
  obtain ⟨entries, found, counted⟩ := holds.counted
  have inner := holds.kind?_directory room
  rw [kind?_append found] at inner
  rw [List.append_assoc, kind?_append found] at absent
  rw [List.append_assoc, at?_putAt_above (by simp) node found]
  exact ⟨_, rfl, by rw [length_filesIn_putAt counts inner absent, counted]⟩

theorem addDirectory (holds : Holds before top directories files tree)
    {place : List String}
    {name : String} (room : place = [] ∨ place ∈ directories)
    (absent : tree.kind? (top ++ place ++ [name]) = none) :
    Holds before top ((place ++ [name]) :: directories) files
      (putAt (.directory []) (top ++ place ++ [name]) tree) := by
  have change :=
    kind?_putAt .directory (holds.kind?_directory room) (by rw [absent]; simp)
  refine ⟨?_, ?_, ?_⟩
  · intro other
    rw [change]
    simp only [List.append_assoc, List.append_cancel_left_eq, holds.inside]
    by_cases new : other = place ++ [name]
    · simp [new, FileNode.kind]
    · simp [new]
  · intro other below
    rw [change, if_neg (ne_of_not_below below), holds.outside other below]
  · exact holds.counted_putAt (.directory []) 0
      (fun path => by simp [filesOf, filesIn]) room absent

theorem addFile (holds : Holds before top directories files tree)
    {place : List String}
    {name : String} (content : List UInt8)
    (room : place = [] ∨ place ∈ directories)
    (absent : tree.kind? (top ++ place ++ [name]) = none) :
    Holds before top directories ((place ++ [name], content) :: files)
      (putAt (.file content) (top ++ place ++ [name]) tree) := by
  have change :=
    kind?_putAt (.file content) (holds.kind?_directory room)
      (by rw [absent]; simp)
  have free : place ++ [name] ∉ directories := by
    intro member
    rw [List.append_assoc, holds.kind?_directory (.inr member)] at absent
    cases absent
  refine ⟨?_, ?_, ?_⟩
  · intro other
    rw [change]
    simp only [List.append_assoc, List.append_cancel_left_eq, holds.inside]
    by_cases new : other = place ++ [name]
    · subst new
      simp [free, FileNode.kind]
    · simp [new, List.lookup_cons, beq_false_of_ne new]
  · intro other below
    rw [change, if_neg (ne_of_not_below below), holds.outside other below]
  · exact holds.counted_putAt (.file content) 1
      (fun path => by simp [filesOf]) room absent

end Holds

theorem reachesDirectory_iff {names : List String} :
    tree.reachesDirectory names = true ↔
      ∃ left target, Leads tree linkLimit [] names left target ∧
        tree.kind? target = some .directory := by
  unfold reachesDirectory
  constructor
  · intro reaches
    split at reaches
    · next target ok =>
        split at reaches
        · next entries found =>
            obtain ⟨left, leads⟩ := follow_eq_ok_iff.mp ok
            exact ⟨left, target, leads,
              kind?_eq_directory_iff.mpr ⟨entries, found⟩⟩
        · cases reaches
    · cases reaches
  · rintro ⟨left, target, leads, room⟩
    obtain ⟨entries, found⟩ := kind?_eq_directory_iff.mp room
    simp only [follow_eq_ok_iff.mpr ⟨left, leads⟩, found]

/-- One directory is made in a directory, or there is something of this name
already. -/
theorem makeDirectory_eq {names place : List String} {left : Nat}
    {name : String}
    (leads : Leads tree linkLimit [] names left place)
    (room : tree.kind? place = some .directory)
    (moves : ¬staysAt name) (short : fits name) :
    (IsName name ∧ tree.kind? (place ++ [name]) = none ∧
        tree.makeDirectory names name =
          .ok (putAt (.directory []) (place ++ [name]) tree)) ∨
      ((IsName name → tree.kind? (place ++ [name]) ≠ none) ∧
        tree.makeDirectory names name = .error .exists) := by
  obtain ⟨entries, found⟩ := kind?_eq_directory_iff.mp room
  unfold makeDirectory
  rw [follow_eq_ok_iff.mpr ⟨left, leads⟩]
  simp only [found]
  rcases name_cases name with stays | rfl | isName
  · exact absurd stays moves
  · exact .inr ⟨fun isName => absurd rfl isName.ne_up, rfl⟩
  · have notLong : ¬(Utf8.encode name).length > 255 := Nat.not_lt.mpr short
    rw [if_neg isName.ne_up, if_neg notLong]
    cases present : List.lookup name entries with
    | none =>
        refine .inl ⟨isName, ?_, rfl⟩
        rw [kind?_append found, kind?, at?_cons, present]
        rfl
    | some node =>
        refine .inr ⟨fun _ => ?_, rfl⟩
        rw [kind?_append found, kind?, at?_cons, present]
        simp [FileNode.under?]

/-- A way that leads to a directory needs no new ones. -/
theorem makeDirectories_of_leads {names place : List String} {left : Nat}
    (leads : Leads tree linkLimit [] names.reverse left place)
    (room : tree.kind? place = some .directory) :
    tree.makeDirectories names = .ok tree := by
  induction names generalizing left place with
  | nil => rfl
  | cons name above induction =>
      have reaches := reachesDirectory_iff.mpr ⟨left, place, leads, room⟩
      rw [List.reverse_cons] at leads
      obtain ⟨middle, between, first, last⟩ := leads.split
      obtain ⟨here, ⟨stays, rfl⟩ | ⟨moves, short, present⟩⟩ := last.single
      · rw [makeDirectories, if_pos stays]
        exact induction first room
      · rw [makeDirectories, if_neg moves]
        rcases makeDirectory_eq first here moves short with
          ⟨isName, absent, -⟩ | ⟨-, exists_⟩
        · exact absurd absent (present isName)
        · simp only [exists_, reaches, if_true]

/-- A directory is got by making it, or because it is there already. -/
def Gets (tree : FileTree) (names : List String) (name : String)
    (grown : FileTree) : Prop :=
  tree.makeDirectory names name = .ok grown ∨
    tree.makeDirectory names name = .error .exists ∧
      tree.reachesDirectory (names ++ [name]) = true ∧ grown = tree

theorem makeDirectories_of_gets {above : List String} {name : String}
    {grown : FileTree}
    (moves : ¬staysAt name) (gets : tree.Gets above.reverse name grown) :
    tree.makeDirectories (name :: above) = .ok grown := by
  rw [makeDirectories, if_neg moves, List.reverse_cons]
  rcases gets with made | ⟨exists_, reaches, rfl⟩
  · rw [made]
  · simp only [exists_, reaches, if_true]

/-- When the directory above is missing, it is made first. -/
theorem makeDirectories_of_missing {above : List String} {name : String}
    {middle grown : FileTree}
    (moves : ¬staysAt name)
    (missing : tree.makeDirectory above.reverse name = .error .missing)
    (made : tree.makeDirectories above = .ok middle)
    (gets : middle.Gets above.reverse name grown) :
    tree.makeDirectories (name :: above) = .ok grown := by
  rw [makeDirectories, if_neg moves, List.reverse_cons, missing]
  simp only [made]
  rcases gets with last | ⟨exists_, reaches, rfl⟩
  · rw [last]
  · simp only [exists_, reaches, if_true]

namespace Holds

private theorem isThere_of_present
    (holds : Holds before top directories files tree)
    {middle target : List String} {name : String}
    (there : middle = [] ∨ middle ∈ directories)
    (step : stepFrom? middle name = some target) (moves : ¬staysAt name)
    (apart : List.lookup target files = none)
    (present : IsName name → tree.kind? (top ++ middle ++ [name]) ≠ none) :
    target = [] ∨ target ∈ directories := by
  rcases name_cases name with stays | rfl | isName
  · exact absurd stays moves
  · have inner : middle ≠ [] := by
      rintro rfl
      simp [stepFrom?, staysAt] at step
    cases (stepFrom?_up inner).symm.trans step
    exact holds.dropLast_directory inner there
  · cases (stepFrom?_name isName).symm.trans step
    have found := present isName
    rw [List.append_assoc, holds.inside, apart] at found
    by_cases member : middle ++ [name] = [] ∨ middle ++ [name] ∈ directories
    · exact member
    · rw [if_neg member] at found
      exact absurd rfl found

private theorem makeLast {base path middle target : List String} {left : Nat}
    {name : String}
    (holds : Holds before top (passed [] path ++ directories) files tree)
    (way : Leads tree linkLimit [] base left top)
    (walks : walkFrom? [] path = some middle)
    (step : stepFrom? middle name = some target)
    (short : ∀ other ∈ path, fits other)
    (lastShort : fits name) (moves : ¬staysAt name)
    (apart : List.lookup target files = none) :
    ∃ grown, tree.Gets (base ++ path) name grown ∧
      Holds before top (passed [] (path ++ [name]) ++ directories)
        files grown := by
  have through :
      ∀ other ∈ passed [] path,
        other = [] ∨ other ∈ passed [] path ++ directories :=
    fun other member => .inr (List.mem_append_left _ member)
  have there := through middle (walkFrom?_mem_passed walks)
  have leads := holds.leads walks short through left
  rw [List.append_nil] at leads
  have onwards := way.append leads
  rcases makeDirectory_eq onwards (holds.kind?_directory there) moves
      lastShort with
    ⟨isName, absent, made⟩ | ⟨present, exists_⟩
  · cases (stepFrom?_name isName).symm.trans step
    exact ⟨_, .inl made, passLast walks step (holds.addDirectory there absent)⟩
  · have isThere := holds.isThere_of_present there step moves apart present
    have one : walkFrom? middle [name] = some target := by
      rw [walkFrom?, step]
      rfl
    have passes :
        ∀ other ∈ passed middle [name],
          other = [] ∨ other ∈ passed [] path ++ directories := by
      intro other member
      simp only [passed, step, List.mem_cons, List.not_mem_nil,
        or_false] at member
      rcases member with rfl | rfl
      · exact there
      · exact isThere
    have last := holds.leads one (by simpa using lastShort) passes left
    have reaches := reachesDirectory_iff.mpr
      ⟨left, _, onwards.append last, holds.kind?_directory isThere⟩
    exact ⟨tree, .inr ⟨exists_, reaches, rfl⟩,
      passLast walks step (holds.again isThere)⟩

/-- A directory is made with those above it, where no file is in the way. -/
theorem makeDirectories (holds : Holds before top directories files tree)
    (empty : before.at? top = some (.directory [])) {base : List String}
    {left : Nat}
    (way : Leads before linkLimit [] base left top) {names target : List String}
    (walks : walkFrom? [] names.reverse = some target)
    (short : ∀ name ∈ names, fits name)
    (apart : ∀ other ∈ passed [] names.reverse,
      List.lookup other files = none) :
    ∃ grown, tree.makeDirectories (names ++ base.reverse) = .ok grown ∧
      Holds before top (passed [] names.reverse ++ directories)
        files grown := by
  have here := way.mono (holds.extends_before empty)
  induction names generalizing target with
  | nil =>
      have room := holds.kind?_directory (.inl rfl)
      rw [List.append_nil] at room
      exact ⟨tree, makeDirectories_of_leads (by simpa using here) room,
        holds.pass fun other member => .inl (List.mem_singleton.mp member)⟩
  | cons name above induction =>
      rw [List.reverse_cons] at walks apart ⊢
      rw [walkFrom?_append] at walks
      obtain ⟨middle, walksAbove, last⟩ := Option.bind_eq_some_iff.mp walks
      obtain ⟨next, step, ends⟩ := Option.bind_eq_some_iff.mp last
      cases ends
      have shortAbove : ∀ other ∈ above, fits other := fun other member =>
        short other (List.mem_cons_of_mem _ member)
      have apartAbove :
          ∀ other ∈ passed [] above.reverse, List.lookup other files = none :=
        fun other member =>
          apart other ((mem_passed_concat walksAbove step).mpr (.inl member))
      obtain ⟨middleTree, made, holdsAbove⟩ :=
        induction walksAbove shortAbove apartAbove
      by_cases stays : staysAt name
      · cases (stepFrom?_stay stays).symm.trans step
        refine ⟨middleTree, ?_, passLast walksAbove step (holdsAbove.again ?_)⟩
        · rw [List.cons_append, FileTree.makeDirectories, if_pos stays, made]
        · exact .inr (List.mem_append_left _ (walkFrom?_mem_passed walksAbove))
      · have path :
            (above ++ base.reverse).reverse = base ++ above.reverse := by simp
        have lastShort := short name List.mem_cons_self
        have apartLast :=
          apart target ((mem_passed_concat walksAbove step).mpr (.inr rfl))
        have shortPath : ∀ other ∈ above.reverse, fits other := by
          simpa using shortAbove
        rcases holds.follow_eq walksAbove shortPath apartAbove (.inl rfl)
          left with through | missing
        · obtain ⟨grown, gets, holdsGrown⟩ :=
            (holds.pass through).makeLast here walksAbove step
              shortPath lastShort stays apartLast
          rw [← path] at gets
          exact ⟨grown, makeDirectories_of_gets stays gets, holdsGrown⟩
        · have hereAbove := way.mono (holdsAbove.extends_before empty)
          obtain ⟨grown, gets, holdsGrown⟩ :=
            holdsAbove.makeLast hereAbove walksAbove step shortPath
              lastShort stays apartLast
          have stops :
              tree.makeDirectory (base ++ above.reverse) name =
                .error .missing := by
            unfold makeDirectory
            rw [here.follow_append]
            rw [List.append_nil] at missing
            rw [missing]
          rw [← path] at gets stops
          exact ⟨grown, makeDirectories_of_missing stays stops made gets,
            holdsGrown⟩

end Holds

/-- A path that leads to a directory needs no new ones. -/
theorem makePath_of_leads {path : String} {target : List String} {left : Nat}
    (plain : path.toList.contains '\x00' = false)
    (leads : Leads tree linkLimit [] (pathNames path) left target)
    (room : tree.kind? target = some .directory) :
    tree.makePath path = .ok tree := by
  unfold makePath
  rw [plain]
  simp only [Bool.false_eq_true, if_false]
  have parts :
      pathNames path = ((pathNames path).reverse.dropWhile (· = "")).reverse ++
        ((pathNames path).reverse.takeWhile (· = "")).reverse := by
    rw [← List.reverse_append, List.takeWhile_append_dropWhile,
      List.reverse_reverse]
  rw [parts] at leads
  have trimmed := leads.trim (by
    intro name member
    have empty :=
      List.all_eq_true.mp List.all_takeWhile name (List.mem_reverse.mp member)
    exact .inl (by simpa using empty))
  split
  · next names ends =>
      rw [ends, List.reverse_cons] at trimmed
      have shorter := trimmed.trim (by simp [staysAt])
      rw [follow_eq_ok_iff.mpr ⟨left, shorter⟩]
      simp only [reachesDirectory_iff.mpr ⟨left, target, shorter, room⟩,
        if_true]
  · exact makeDirectories_of_leads trimmed room

/-- The directory at a path is made with those above it, where no file is in the
way. -/
theorem Holds.makePath (holds : Holds before top directories files tree)
    (empty : before.at? top = some (.directory [])) {base : List String}
    {left : Nat}
    (way : Leads before linkLimit [] base left top) {names target : List String}
    {path : String}
    (plain : path.toList.contains '\x00' = false)
    (spelled : pathNames path = base ++ names)
    (ends : ∃ name, names.getLast? = some name ∧ ¬staysAt name)
    (walks : walkFrom? [] names = some target)
    (short : ∀ name ∈ names, fits name)
    (apart : ∀ other ∈ passed [] names, List.lookup other files = none) :
    ∃ grown, tree.makePath path = .ok grown ∧
      Holds before top (passed [] names ++ directories) files grown := by
  obtain ⟨name, last, moves⟩ := ends
  obtain ⟨above, rfl⟩ := List.getLast?_eq_some_iff.mp last
  have makes := holds.makeDirectories empty way
    (show walkFrom? [] (above ++ [name]).reverse.reverse =
      some target by rwa [List.reverse_reverse])
    (fun other member => short other (List.mem_reverse.mp member))
    (by rwa [List.reverse_reverse])
  have reversed :
      (pathNames path).reverse = name :: (above.reverse ++ base.reverse) := by
    simp [spelled]
  rw [List.reverse_reverse, List.reverse_concat, List.cons_append] at makes
  unfold FileTree.makePath
  rw [plain, reversed,
    List.dropWhile_cons_of_neg (by simpa using fun empty => moves (.inl empty))]
  simp only [Bool.false_eq_true, if_false]
  split
  · next names same =>
      obtain ⟨rfl, -⟩ := List.cons.inj same
      exact absurd (.inr rfl) moves
  · exact makes

/-- A directory that is missing is not made when its path ends with a `.`. -/
theorem Holds.makePath_dot (holds : Holds before top directories files tree)
    (empty : before.at? top = some (.directory [])) {base : List String}
    {left : Nat}
    (way : Leads before linkLimit [] base left top) {above place : List String}
    {name path : String}
    (plain : path.toList.contains '\x00' = false)
    (spelled : pathNames path = base ++ above ++ [name, "."])
    (isName : IsName name) (nameShort : fits name)
    (walks : walkFrom? [] above = some place)
    (short : ∀ other ∈ above, fits other)
    (apart : ∀ other ∈ passed [] (above ++ [name]),
      List.lookup other files = none)
    (aside : place ++ [name] ∉ passed [] above)
    (absent : place ++ [name] ∉ directories) :
    tree.makePath path = .error .missing := by
  have here := way.mono (holds.extends_before empty)
  have onwards : walkFrom? [] (above ++ [name]) = some (place ++ [name]) := by
    rw [walkFrom?_append, walks, Option.bind_some, walkFrom?,
      stepFrom?_name isName]
    rfl
  have missing :
      tree.follow true linkLimit [] (base ++ (above ++ [name])) =
        .error .missing := by
    rw [here.follow_append]
    rcases holds.follow_eq onwards
      (by simpa [or_imp, forall_and] using ⟨short, nameShort⟩) apart
      (.inl rfl) left with through | missing
    · rcases through _ (walkFrom?_mem_passed onwards) with atTop | present
      · simp at atTop
      · exact absurd present absent
    · simpa using missing
  have apartAbove : ∀ other ∈ passed [] above, List.lookup other files = none :=
    fun other member => apart other (mem_passed_append.mpr (.inl member))
  obtain ⟨grown, makes, holdsGrown⟩ := holds.makeDirectories empty way
    (show walkFrom? [] above.reverse.reverse =
      some place by rwa [List.reverse_reverse])
    (fun other member => short other (List.mem_reverse.mp member))
    (by rwa [List.reverse_reverse])
  rw [List.reverse_reverse] at holdsGrown
  have hereGrown := way.mono (holdsGrown.extends_before empty)
  have stillMissing :
      grown.follow true linkLimit [] (base ++ (above ++ [name])) =
        .error .missing := by
    have leads := holdsGrown.leads walks short
      (fun other member => .inr (List.mem_append_left _ member)) left
    rw [List.append_nil] at leads
    have room := holdsGrown.kind?_directory
      (.inr (List.mem_append_left _ (walkFrom?_mem_passed walks)))
    have free : grown.kind? (top ++ place ++ [name]) = none := by
      rw [List.append_assoc, holdsGrown.inside,
        if_neg (by simp [aside, absent]),
        apart _ (walkFrom?_mem_passed onwards)]
      rfl
    rw [← List.append_assoc, (hereGrown.append leads).follow_append,
      follow_missing room isName nameShort free]
  have notReached :
      grown.reachesDirectory (base ++ (above ++ [name])) = false := by
    unfold reachesDirectory
    rw [stillMissing]
  have reversed :
      (pathNames path).reverse =
        "." :: name :: (above.reverse ++ base.reverse) := by
    simp [spelled]
  have whole :
      (name :: (above.reverse ++ base.reverse)).reverse =
        base ++ (above ++ [name]) := by
    simp
  unfold FileTree.makePath
  rw [plain, reversed, List.dropWhile_cons_of_neg (by decide)]
  simp only [Bool.false_eq_true, if_false, whole, missing]
  rw [List.dropWhile_cons_of_neg (by simpa using isName.not_stays),
    List.tail_cons, makes]
  simp only [notReached, Bool.false_eq_true, if_false]

theorem splitLast_concat {path name : String} {names : List String}
    (spelled : pathNames path = names ++ [name]) (moves : ¬staysAt name) :
    splitLast path = (names, some name) := by
  unfold splitLast
  rw [spelled, List.reverse_concat,
    List.dropWhile_cons_of_neg (by simpa using moves), List.reverse_cons,
    List.reverse_reverse]
  simp only [List.dropLast_concat, List.getLast?_concat]

/-- A file is written into a directory where nothing is. -/
theorem Holds.write (holds : Holds before top directories files tree)
    (empty : before.at? top = some (.directory [])) {base : List String}
    {left : Nat}
    (way : Leads before linkLimit [] base left top) {names target : List String}
    {path name : String} (content : List UInt8)
    (plain : path.toList.contains '\x00' = false)
    (spelled : pathNames path = base ++ names ++ [name]) (isName : IsName name)
    (lastShort : fits name)
    (walks : walkFrom? [] names = some target)
    (short : ∀ other ∈ names, fits other)
    (through : ∀ other ∈ passed [] names, other = [] ∨ other ∈ directories)
    (absent : tree.kind? (top ++ target ++ [name]) = none) :
    ∃ grown, tree.write path content = .ok grown ∧
      Holds before top directories
        ((target ++ [name], content) :: files) grown := by
  have here := way.mono (holds.extends_before empty)
  have leads := holds.leads walks short through left
  rw [List.append_nil] at leads
  have room := through target (walkFrom?_mem_passed walks)
  obtain ⟨entries, found⟩ :=
    kind?_eq_directory_iff.mp (holds.kind?_directory room)
  have parts := splitLast_concat spelled isName.not_stays
  have nothing := kind?_eq_none_iff.mp absent
  have goal :
      tree.target (top ++ target) name linkLimit =
        .ok (top ++ target ++ [name]) := by
    rw [show linkLimit = 39 + 1 from rfl, FileTree.target, nothing]
  have notLong : ¬(Utf8.encode name).length > 255 := Nat.not_lt.mpr lastShort
  refine ⟨_, ?_, holds.addFile content room absent⟩
  unfold FileTree.write
  rw [plain]
  simp only [Bool.false_eq_true, if_false, parts,
    follow_eq_ok_iff.mpr ⟨left, here.append leads⟩, found, isName.ne_up,
    notLong, goal]

end LessonSite.FileTree
