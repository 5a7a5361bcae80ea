import Mathlib.Data.List.Pairwise
import LessonSite.Proofs.EntryName
import LessonSite.Proofs.Except
import LessonSite.Proofs.FileTree.Rearranged
import LessonSite.Tour.Numbered

/-!
# Listings by number

The subdirectories of a directory are listed just if each of them has an entry
name and no two share a number.  The listing then has each of them once, by
number, in whatever order the directory gives its entries.
-/

namespace LessonSite

namespace NumberedDirectory

open FileTree (joinPath samePath)

variable {tree : FileTree} {skipped : List String} {directory : String}

/-- The names in a directory; there are none where there is no directory. -/
def listedNames (tree : FileTree) (directory : String) : List String :=
  match tree.node directory with
  | .ok (.directory entries) => entries.map Prod.fst
  | _ => []

/-- The directory has a subdirectory of this name that is neither hidden nor
skipped. -/
structure IsSubdirectory (tree : FileTree) (skipped : List String)
    (directory name : String) : Prop where
  listed : name ∈ listedNames tree directory
  isDirectory : tree.isDirectory (joinPath directory name) = true
  visible : Text.startsWith "." name = false
  kept : ∀ path ∈ skipped, samePath path (joinPath directory name) = false

/-- The names in the directory are different, and each of them leads somewhere
else than back to the directory.  No link in it, hidden or not, leads
nowhere. -/
structure IsListable (tree : FileTree) (directory : String) : Prop where
  distinct : (listedNames tree directory).Nodup
  leads : ∀ name ∈ listedNames tree directory, ∃ place,
    tree.resolve (joinPath directory name) = .ok place ∧
      tree.resolve directory ≠ .ok place

/-- The subdirectories have entry names with different numbers. -/
structure IsNumbered (tree : FileTree) (skipped : List String)
    (directory : String) : Prop where
  named : ∀ name, IsSubdirectory tree skipped directory name →
    ∃ entry : EntryName, entry.Describes name
  apart : ∀ first second, IsSubdirectory tree skipped directory first →
    IsSubdirectory tree skipped directory second → ∀ entry other : EntryName,
      entry.Describes first → other.Describes second →
      entry.number = other.number →
        first = second

/-- All subdirectories, each once, by number. -/
structure Lists (tree : FileTree) (skipped : List String) (directory : String)
    (found : List NumberedDirectory) : Prop where
  complete : ∀ name, name ∈ found.map NumberedDirectory.name ↔
    IsSubdirectory tree skipped directory name
  once : (found.map NumberedDirectory.name).Nodup
  described :
    ∀ subdirectory ∈ found, subdirectory.entry.Describes subdirectory.name
  ascending :
    found.Pairwise fun first second => first.entry.number < second.entry.number

/-- The entry counts as a subdirectory, if it is there at all. -/
def counts (tree : FileTree) (skipped : List String)
    (directory name : String) : Bool :=
  tree.isDirectory (joinPath directory name) &&
    !isLeftOut skipped directory name

private theorem counts_eq_true_iff {name : String} :
    counts tree skipped directory name = true ↔
      tree.isDirectory (joinPath directory name) = true ∧
        Text.startsWith "." name = false ∧
          ∀ path ∈ skipped,
            samePath path (joinPath directory name) = false := by
  unfold counts isLeftOut
  simp

/-- The names of the subdirectories. -/
def subdirectories (tree : FileTree) (skipped : List String)
    (directory : String) : List String :=
  (listedNames tree directory).filter (counts tree skipped directory)

theorem mem_subdirectories_iff {name : String} :
    name ∈ subdirectories tree skipped directory ↔
      IsSubdirectory tree skipped directory name := by
  rw [subdirectories, List.mem_filter, counts_eq_true_iff]
  constructor
  · rintro ⟨listed, isDirectory, visible, kept⟩
    exact ⟨listed, isDirectory, visible, kept⟩
  · rintro ⟨listed, isDirectory, visible, kept⟩
    exact ⟨listed, isDirectory, visible, kept⟩

instance {holds : String → Prop} [DecidablePred holds] :
    Decidable
      (∀ name, IsSubdirectory tree skipped directory name → holds name) :=
  decidable_of_iff (∀ name ∈ subdirectories tree skipped directory, holds name)
    (forall_congr' fun _ => imp_congr_left mem_subdirectories_iff)

instance : Decidable (∃ name, IsSubdirectory tree skipped directory name) :=
  decidable_of_iff (∃ name ∈ subdirectories tree skipped directory, True)
    (exists_congr fun _ =>
      (iff_of_eq (and_true _)).trans mem_subdirectories_iff)

private theorem exists_of_mem_listedNames {name : String}
    (listed : name ∈ listedNames tree directory) :
    ∃ place entries, tree.resolve directory = .ok place ∧
      tree.at? place = some (.directory entries) := by
  unfold listedNames FileTree.node at listed
  cases resolved : tree.resolve directory with
  | error fault => simp [resolved] at listed
  | ok place =>
      cases there : tree.at? place with
      | none => simp [resolved, there] at listed
      | some node =>
          cases node with
          | directory entries => exact ⟨place, entries, rfl, there⟩
          | file content => simp [resolved, there] at listed
          | link target => simp [resolved, there] at listed

private theorem leadsToDirectory_eq (listable : IsListable tree directory)
    {name : String} (member : name ∈ listedNames tree directory) :
    leadsToDirectory tree directory name =
      .ok (tree.isDirectory (joinPath directory name)) := by
  obtain ⟨place, resolved, noLoop⟩ := listable.leads name member
  unfold leadsToDirectory FileTree.isDirectory FileTree.node
  simp only [resolved]
  cases tree.at? place with
  | none => rfl
  | some child =>
      cases child with
      | file content => rfl
      | link target => rfl
      | directory inner =>
          rw [if_neg]
          intro same
          exact noLoop (eq_ok_of_toOption same)

private theorem eq_isDirectory_of_leadsToDirectory {name : String}
    {result : Bool} (ok : leadsToDirectory tree directory name = .ok result) :
    result = tree.isDirectory (joinPath directory name) := by
  cases resolved : tree.resolve (joinPath directory name) with
  | error fault =>
      rw [leadsToDirectory, resolved] at ok
      cases ok
  | ok place =>
      rw [leadsToDirectory, resolved] at ok
      rw [FileTree.isDirectory, FileTree.node, resolved]
      dsimp only at ok ⊢
      cases there : tree.at? place with
      | none =>
          rw [there] at ok
          exact (Except.ok.inj ok).symm
      | some node =>
          rw [there] at ok
          cases node with
          | file content => exact (Except.ok.inj ok).symm
          | link target => exact (Except.ok.inj ok).symm
          | directory entries =>
              dsimp only at ok
              split at ok
              · cases ok
              · exact (Except.ok.inj ok).symm

private def numbered (directory name : String) :
    Except TourFault NumberedDirectory :=
  match EntryName.parse name with
  | .error reason => .error (.malformedName (joinPath directory name) reason)
  | .ok entry => .ok ⟨entry, name⟩

private theorem numbered_eq_ok_iff {name : String}
    {subdirectory : NumberedDirectory} :
    numbered directory name = .ok subdirectory ↔
      subdirectory.name = name ∧ subdirectory.entry.Describes name := by
  rw [← EntryName.parse_eq_ok_iff, numbered]
  obtain ⟨entry, own⟩ := subdirectory
  cases EntryName.parse name with
  | error reason => simp
  | ok other => simp [and_comm, eq_comm]

private theorem amongEntries_eq {names : List String}
    (leads : ∀ name ∈ names, leadsToDirectory tree directory name =
      .ok (tree.isDirectory (joinPath directory name))) :
    amongEntries tree skipped directory names =
      (names.filter (counts tree skipped directory)).mapM
        (numbered directory) := by
  induction names with
  | nil => rfl
  | cons name names induction =>
      obtain ⟨first, rest⟩ := List.forall_mem_cons.mp leads
      rw [amongEntries, first, List.filter_cons]
      change (if counts tree skipped directory name = true then _ else _) = _
      by_cases here : counts tree skipped directory name = true
      · rw [if_pos here, if_pos here, List.mapM_cons, induction rest, numbered]
        cases EntryName.parse name <;> rfl
      · rw [if_neg here, if_neg here, induction rest]

/-- What has been found among the entries of a directory before it is sorted. -/
private structure Finds (tree : FileTree) (skipped : List String)
    (directory : String) (found : List NumberedDirectory) : Prop where
  complete : ∀ name, name ∈ found.map NumberedDirectory.name ↔
    IsSubdirectory tree skipped directory name
  once : (found.map NumberedDirectory.name).Nodup
  described :
    ∀ subdirectory ∈ found, subdirectory.entry.Describes subdirectory.name

private theorem Finds.perm {found others : List NumberedDirectory}
    (perm : others.Perm found)
    (finds : Finds tree skipped directory found) :
    Finds tree skipped directory others := by
  constructor
  · intro name
    rw [(perm.map _).mem_iff, finds.complete]
  · exact (perm.map _).nodup_iff.mpr finds.once
  · intro subdirectory member
    exact finds.described subdirectory (perm.mem_iff.mp member)

private theorem finds_of_mapM {names : List String}
    {found : List NumberedDirectory}
    (subdirectories : ∀ name,
      name ∈ names ↔ IsSubdirectory tree skipped directory name)
    (distinct : names.Nodup)
    (ok : names.mapM (numbered directory) = .ok found) :
    Finds tree skipped directory found := by
  have same : found.map NumberedDirectory.name = names.map id :=
    map_eq_of_mapM_eq_ok (fun _ _ one => (numbered_eq_ok_iff.mp one).1) ok
  rw [List.map_id] at same
  constructor
  · intro name
    rw [same, subdirectories]
  · rw [same]
    exact distinct
  · intro subdirectory member
    obtain ⟨name, -, one⟩ := mem_of_mapM_eq_ok ok member
    obtain ⟨rfl, describes⟩ := numbered_eq_ok_iff.mp one
    exact describes

private theorem ascending_of_sharedNumber? {found : List NumberedDirectory}
    (sorted : found.Pairwise fun first second =>
      first.entry.number ≤ second.entry.number)
    (none_ : sharedNumber? found = none) :
    found.Pairwise fun first second =>
      first.entry.number < second.entry.number := by
  induction found using sharedNumber?.induct with
  | case1 first second rest same => simp [sharedNumber?, same] at none_
  | case2 first second rest differ induction =>
      rw [sharedNumber?, if_neg differ] at none_
      obtain ⟨after, rest_⟩ := List.pairwise_cons.mp sorted
      have ascending := induction rest_ none_
      have next :=
        UInt32.lt_of_le_of_ne (after second List.mem_cons_self) differ
      refine List.pairwise_cons.mpr ⟨?_, ascending⟩
      intro other member
      rcases List.mem_cons.mp member with rfl | later
      · exact next
      · exact UInt32.lt_trans
          next ((List.pairwise_cons.mp ascending).1 other later)
  | case3 found short =>
      cases found with
      | nil => exact List.Pairwise.nil
      | cons first rest =>
          cases rest with
          | nil => exact List.pairwise_singleton _ _
          | cons second rest => exact (short first second rest rfl).elim

private theorem sharedNumber?_of_pairwise {found : List NumberedDirectory}
    (differ : found.Pairwise fun first second =>
      first.entry.number ≠ second.entry.number) :
    sharedNumber? found = none := by
  induction found using sharedNumber?.induct with
  | case1 first second rest same =>
      exact absurd same
        ((List.pairwise_cons.mp differ).1 second List.mem_cons_self)
  | case2 first second rest apart induction =>
      rw [sharedNumber?, if_neg apart]
      exact induction (List.pairwise_cons.mp differ).2
  | case3 found short =>
      unfold sharedNumber?
      split
      · next first second rest => exact (short first second rest rfl).elim
      · rfl

private theorem sharedNumber?_of_apart {found : List NumberedDirectory}
    (numbered : IsNumbered tree skipped directory)
    (finds : Finds tree skipped directory found) :
    sharedNumber? found = none := by
  apply sharedNumber?_of_pairwise
  refine (List.pairwise_map.mp finds.once).imp_of_mem ?_
  intro first second isFirst isSecond differ same
  exact differ (numbered.apart first.name second.name
    ((finds.complete _).mp (List.mem_map_of_mem isFirst))
    ((finds.complete _).mp (List.mem_map_of_mem isSecond))
    first.entry second.entry (finds.described first isFirst)
    (finds.described second isSecond) same)

private def byNumber (found : List NumberedDirectory) :
    List NumberedDirectory :=
  found.mergeSort fun left right => left.entry.number ≤ right.entry.number

private theorem perm_byNumber (found : List NumberedDirectory) :
    (byNumber found).Perm found :=
  List.mergeSort_perm found _

private theorem pairwise_byNumber (found : List NumberedDirectory) :
    (byNumber found).Pairwise fun first second =>
      first.entry.number ≤ second.entry.number := by
  have sorted : (byNumber found).Pairwise fun first second =>
      decide (first.entry.number ≤ second.entry.number) = true := by
    apply List.pairwise_mergeSort
    · simpa using fun _ _ _ => UInt32.le_trans
    · simpa using fun _ _ => UInt32.le_total _ _
  exact sorted.imp of_decide_eq_true

private theorem list_eq {names : List String}
    (listable : IsListable tree directory)
    (read : entryNames tree directory = .ok names)
    (perm : names.Perm (listedNames tree directory)) :
    list tree skipped directory =
      ((names.filter (counts tree skipped directory)).mapM
        (numbered directory)).bind fun found =>
        match sharedNumber? (byNumber found) with
        | some number => .error (.duplicateNumber number directory)
        | none => .ok (byNumber found) := by
  unfold list
  rw [read, ← amongEntries_eq fun name member =>
    leadsToDirectory_eq listable (perm.mem_iff.mp member)]
  rfl

private theorem perm_of_entryNames {names : List String}
    (read : entryNames tree directory = .ok names) :
    names.Perm (listedNames tree directory) := by
  unfold entryNames at read
  unfold listedNames
  split at read
  · cases read
  · next entries node =>
      cases read
      rw [node]
      exact List.mergeSort_perm _ _
  · next node noDirectory here =>
      cases read
      rw [here]
      cases node with
      | directory entries => exact absurd rfl (noDirectory entries)
      | file content => exact .refl _
      | link target => exact .refl _

theorem entryNames_of_sorted {entries : FileTree}
    (node : tree.node directory = .ok (.directory entries))
    (sorted : (entries.map Prod.fst).Pairwise (· ≤ ·)) :
    entryNames tree directory = .ok (entries.map Prod.fst) := by
  unfold entryNames
  rw [node]
  simp only [List.mergeSort_of_pairwise (sorted.imp decide_eq_true)]

private theorem entryNames_of_mem {name : String}
    (listed : name ∈ listedNames tree directory) :
    ∃ names, entryNames tree directory = .ok names := by
  unfold listedNames at listed
  unfold entryNames
  split at listed
  · next entries node => exact ⟨_, by rw [node]⟩
  · cases listed

private theorem finds_of_filter {names : List String}
    {found : List NumberedDirectory}
    (listable : IsListable tree directory)
    (perm : names.Perm (listedNames tree directory))
    (ok : (names.filter (counts tree skipped directory)).mapM
      (numbered directory) = .ok found) :
    Finds tree skipped directory (byNumber found) := by
  have members := perm.filter (counts tree skipped directory)
  refine Finds.perm (perm_byNumber found) (finds_of_mapM ?_ ?_ ok)
  · intro name
    rw [members.mem_iff]
    exact mem_subdirectories_iff
  · exact members.nodup_iff.mpr (listable.distinct.filter _)

private theorem leadsToDirectory_of_amongEntries {names : List String}
    {found : List NumberedDirectory}
    (ok : amongEntries tree skipped directory names = .ok found) :
    ∀ name ∈ names,
      leadsToDirectory tree directory name =
        .ok (tree.isDirectory (joinPath directory name)) := by
  induction names generalizing found with
  | nil => nofun
  | cons name names induction =>
      rw [amongEntries, bind_eq_ok_iff] at ok
      obtain ⟨leads, isThere, ok⟩ := ok
      refine List.forall_mem_cons.mpr
        ⟨isThere.trans
          (congrArg _ (eq_isDirectory_of_leadsToDirectory isThere)), ?_⟩
      split at ok
      · cases parsed : EntryName.parse name with
        | error reason => simp [parsed] at ok
        | ok entry =>
            simp only [parsed] at ok
            obtain ⟨others, rest, -⟩ := bind_eq_ok_iff.mp ok
            exact induction rest
      · exact induction ok

private theorem exists_amongEntries_of_list {found : List NumberedDirectory}
    (ok : list tree skipped directory = .ok found) :
    ∃ names unsorted, entryNames tree directory = .ok names ∧
      amongEntries tree skipped directory names = .ok unsorted ∧
      found.Perm unsorted := by
  obtain ⟨names, read, ok⟩ := bind_eq_ok_iff.mp ok
  obtain ⟨unsorted, among, sorted⟩ := bind_eq_ok_iff.mp ok
  refine ⟨names, unsorted, read, among, ?_⟩
  dsimp only at sorted
  split at sorted
  · cases sorted
  · cases sorted
    exact perm_byNumber unsorted

theorem leadsToDirectory_of_list {found : List NumberedDirectory}
    (ok : list tree skipped directory = .ok found)
    {name : String} (listed : name ∈ listedNames tree directory) :
    leadsToDirectory tree directory name =
      .ok (tree.isDirectory (joinPath directory name)) := by
  obtain ⟨names, unsorted, read, among, -⟩ := exists_amongEntries_of_list ok
  exact leadsToDirectory_of_amongEntries among name
    ((perm_of_entryNames read).mem_iff.mpr listed)

/-- Only a directory without links that lead nowhere or back to it can be
listed. -/
theorem isListable_of_list (distinct : (listedNames tree directory).Nodup)
    {found : List NumberedDirectory}
    (ok : list tree skipped directory = .ok found) :
    IsListable tree directory := by
  refine ⟨distinct, ?_⟩
  intro name listed
  obtain ⟨top, entries, resolvedTop, room⟩ := exists_of_mem_listedNames listed
  have leads := leadsToDirectory_of_list ok listed
  unfold leadsToDirectory at leads
  cases resolved : tree.resolve (joinPath directory name) with
  | error fault => simp [resolved] at leads
  | ok place =>
      refine ⟨place, rfl, ?_⟩
      intro same
      obtain rfl := Except.ok.inj (resolvedTop.symm.trans same)
      simp [resolved, room, same, Except.toOption] at leads

/-- A listing that succeeds has the subdirectories and nothing else, even of a
directory that cannot be told to be listable. -/
theorem mem_names_of_list {found : List NumberedDirectory}
    (ok : list tree skipped directory = .ok found)
    {name : String} :
    name ∈ found.map NumberedDirectory.name ↔
      IsSubdirectory tree skipped directory name := by
  obtain ⟨names, unsorted, read, among, perm⟩ := exists_amongEntries_of_list ok
  rw [amongEntries_eq (leadsToDirectory_of_amongEntries among)] at among
  have same :
      unsorted.map NumberedDirectory.name =
        (names.filter (counts tree skipped directory)).map id :=
    map_eq_of_mapM_eq_ok (fun _ _ one => (numbered_eq_ok_iff.mp one).1) among
  rw [(perm.map _).mem_iff, same, List.map_id, ← mem_subdirectories_iff,
    subdirectories, ((perm_of_entryNames read).filter _).mem_iff]

/-- A listing that succeeds has what it is meant to have. -/
theorem lists_of_list (listable : IsListable tree directory)
    {found : List NumberedDirectory}
    (ok : list tree skipped directory = .ok found) :
    Lists tree skipped directory found := by
  obtain ⟨names, read, -⟩ := bind_eq_ok_iff.mp ok
  have perm := perm_of_entryNames read
  rw [list_eq listable read perm] at ok
  obtain ⟨unsorted, parsed, sorted⟩ := bind_eq_ok_iff.mp ok
  have finds := finds_of_filter listable perm parsed
  split at sorted
  · cases sorted
  · next none_ =>
      cases sorted
      constructor
      · exact finds.complete
      · exact finds.once
      · exact finds.described
      · exact ascending_of_sharedNumber? (pairwise_byNumber unsorted) none_

theorem Lists.isNumbered {found : List NumberedDirectory}
    (lists : Lists tree skipped directory found) :
    IsNumbered tree skipped directory := by
  have described : ∀ name, IsSubdirectory tree skipped directory name →
      ∃ subdirectory ∈ found,
        subdirectory.name = name ∧ subdirectory.entry.Describes name := by
    intro name isSubdirectory
    obtain ⟨subdirectory, member, rfl⟩ :=
      List.mem_map.mp ((lists.complete name).mpr isSubdirectory)
    exact ⟨subdirectory, member, rfl, lists.described subdirectory member⟩
  constructor
  · intro name isSubdirectory
    obtain ⟨subdirectory, -, -, describes⟩ := described name isSubdirectory
    exact ⟨subdirectory.entry, describes⟩
  · intro first second isFirst isSecond entry other describes
      otherDescribes same
    obtain ⟨left, isLeft, rfl, leftDescribes⟩ := described first isFirst
    obtain ⟨right, isRight, rfl, rightDescribes⟩ := described second isSecond
    cases describes.unique leftDescribes
    cases otherDescribes.unique rightDescribes
    by_contra differ
    have apart : left ≠ right := fun equal =>
      differ (congrArg NumberedDirectory.name equal)
    have numbers :
        found.Pairwise fun one another =>
          one.entry.number ≠ another.entry.number :=
      lists.ascending.imp UInt32.ne_of_lt
    have symmetric : Std.Symm fun one another : NumberedDirectory =>
        one.entry.number ≠ another.entry.number :=
      ⟨fun _ _ differs => differs.symm⟩
    exact numbers.forall isLeft isRight apart same

/-- The subdirectories are listed if they are numbered and the directory is
there. -/
theorem list_of_isNumbered (listable : IsListable tree directory)
    {name : String} (listed : name ∈ listedNames tree directory)
    (isNumbered : IsNumbered tree skipped directory) :
    ∃ found, list tree skipped directory = .ok found := by
  obtain ⟨names, read⟩ := entryNames_of_mem listed
  have perm := perm_of_entryNames read
  obtain ⟨unsorted, parsed⟩ : ∃ unsorted,
      (names.filter (counts tree skipped directory)).mapM (numbered directory) =
        .ok unsorted := by
    rw [exists_mapM_eq_ok_iff]
    intro name member
    have isSubdirectory := mem_subdirectories_iff.mp
      ((perm.filter (counts tree skipped directory)).mem_iff.mp member)
    obtain ⟨entry, describes⟩ := isNumbered.named name isSubdirectory
    exact ⟨⟨entry, name⟩, numbered_eq_ok_iff.mpr ⟨rfl, describes⟩⟩
  have none_ :=
    sharedNumber?_of_apart isNumbered (finds_of_filter listable perm parsed)
  refine ⟨byNumber unsorted, ?_⟩
  rw [list_eq listable read perm, parsed]
  simp only [Except.bind, none_]

theorem list_eq_of_sorted {entries : FileTree} {found : List NumberedDirectory}
    (node : tree.node directory = .ok (.directory entries))
    (sorted : (entries.map Prod.fst).Pairwise (· ≤ ·))
    (among : amongEntries tree skipped directory (entries.map Prod.fst) =
      .ok found)
    (ascending : found.Pairwise fun first second =>
      first.entry.number ≤ second.entry.number)
    (none_ : sharedNumber? found = none) :
    list tree skipped directory = .ok found := by
  unfold list
  rw [entryNames_of_sorted node sorted]
  simp only [among, bind, Except.bind,
    List.mergeSort_of_pairwise (ascending.imp decide_eq_true), none_]

theorem list_eq_singleton {entries : FileTree} {found : NumberedDirectory}
    (node : tree.node directory = .ok (.directory entries))
    (sorted : (entries.map Prod.fst).Pairwise (· ≤ ·))
    (among : amongEntries tree skipped directory (entries.map Prod.fst) =
      .ok [found]) :
    list tree skipped directory = .ok [found] :=
  list_eq_of_sorted node sorted among (List.pairwise_singleton _ _) rfl

private theorem isListable_iff :
    ((listedNames tree directory).Nodup ∧ ∀ name ∈ listedNames tree directory,
      (tree.resolve (joinPath directory name)).toOption.isSome = true ∧
        (tree.resolve directory).toOption ≠
          (tree.resolve (joinPath directory name)).toOption) ↔
      IsListable tree directory := by
  constructor
  · rintro ⟨distinct, leads⟩
    refine ⟨distinct, ?_⟩
    intro name member
    obtain ⟨found, noLoop⟩ := leads name member
    obtain ⟨place, resolved⟩ := Option.isSome_iff_exists.mp found
    refine ⟨place, eq_ok_of_toOption resolved, ?_⟩
    intro same
    rw [resolved, same] at noLoop
    exact noLoop rfl
  · rintro ⟨distinct, leads⟩
    refine ⟨distinct, ?_⟩
    intro name member
    obtain ⟨place, resolved, noLoop⟩ := leads name member
    rw [resolved]
    exact ⟨rfl, fun same => noLoop (eq_ok_of_toOption same)⟩

instance : Decidable (IsListable tree directory) :=
  decidable_of_iff _ isListable_iff

private def number? (name : String) : Option UInt32 :=
  (EntryName.parse name).toOption.map EntryName.number

private theorem number?_eq_some_iff {name : String} {number : UInt32} :
    number? name = some number ↔
      ∃ entry : EntryName, entry.Describes name ∧ entry.number = number := by
  unfold number?
  rw [Option.map_eq_some_iff]
  apply exists_congr
  intro entry
  rw [← EntryName.parse_eq_ok_iff]
  cases EntryName.parse name <;> simp [Except.toOption]

private theorem isNumbered_iff :
    (∀ name ∈ subdirectories tree skipped directory,
      (number? name).isSome = true ∧
        ∀ other ∈ subdirectories tree skipped directory,
          number? name = number? other →
            name = other) ↔ IsNumbered tree skipped directory := by
  simp only [mem_subdirectories_iff]
  constructor
  · intro all
    constructor
    · intro name isSubdirectory
      obtain ⟨number, some_⟩ :=
        Option.isSome_iff_exists.mp (all name isSubdirectory).1
      obtain ⟨entry, describes, -⟩ := number?_eq_some_iff.mp some_
      exact ⟨entry, describes⟩
    · intro first second isFirst isSecond entry other describes
        otherDescribes same
      apply (all first isFirst).2 second isSecond
      rw [number?_eq_some_iff.mpr ⟨entry, describes, same⟩,
        number?_eq_some_iff.mpr ⟨other, otherDescribes, rfl⟩]
  · rintro ⟨named, apart⟩ name isSubdirectory
    obtain ⟨entry, describes⟩ := named name isSubdirectory
    have here := number?_eq_some_iff.mpr ⟨entry, describes, rfl⟩
    refine ⟨by rw [here]; rfl, ?_⟩
    intro other isOther same
    obtain ⟨second, otherDescribes, sameNumber⟩ :=
      number?_eq_some_iff.mp (same.symm.trans here)
    exact apart name other isSubdirectory isOther entry second describes
      otherDescribes sameNumber.symm

instance : Decidable (IsNumbered tree skipped directory) :=
  decidable_of_iff _ isNumbered_iff

section Rearranged

variable {other : FileTree}

open FileTree (Rearranged)

private theorem leadsToDirectory_rearranged (rearranged : Rearranged tree other)
    (directory name : String) :
    leadsToDirectory other directory name =
      leadsToDirectory tree directory name := by
  unfold leadsToDirectory
  simp only [rearranged.resolve_eq]
  cases tree.resolve (joinPath directory name) with
  | error fault => rfl
  | ok place =>
      have kinds := rearranged.kinds place
      unfold FileTree.kind? at kinds
      simp only
      cases here : tree.at? place with
      | none =>
          rw [here, Option.map_none, Option.map_eq_none_iff] at kinds
          rw [kinds]
      | some node =>
          rw [here, Option.map_some] at kinds
          obtain ⟨child, there, same⟩ := Option.map_eq_some_iff.mp kinds
          rw [there]
          cases node <;> cases child <;> first | rfl | cases same

private theorem mergeSort_eq_of_perm {names others : List String}
    (perm : others.Perm names) :
    (others.mergeSort fun left right => left ≤ right) =
      names.mergeSort fun left right => left ≤ right := by
  have sorted (list : List String) :
      (list.mergeSort fun left right => left ≤ right).Pairwise (· ≤ ·) := by
    have ordered :
        (list.mergeSort fun left right => left ≤ right).Pairwise
          fun left right => decide (left ≤ right) = true := by
      apply List.pairwise_mergeSort
      · simpa using fun _ _ _ => String.le_trans
      · simpa using String.le_total
    exact ordered.imp of_decide_eq_true
  refine List.Perm.eq_of_pairwise ?_ (sorted others) (sorted names) ?_
  · intro left right _ _ before after
    exact String.le_antisymm before after
  · exact (List.mergeSort_perm others _).trans
      (perm.trans (List.mergeSort_perm names _).symm)

private theorem entryNames_rearranged (rearranged : Rearranged tree other)
    (directory : String) :
    entryNames other directory = entryNames tree directory := by
  unfold entryNames
  rcases rearranged.node_eq directory with
    ⟨fault, there, here⟩ | ⟨content, there, here⟩ |
      ⟨target, there, here⟩ | ⟨others, entries, there, here, perm⟩
  · rw [there, here]
  · rw [there, here]
  · rw [there, here]
  · rw [there, here]
    simp only [mergeSort_eq_of_perm perm]

private theorem amongEntries_rearranged (rearranged : Rearranged tree other)
    (skipped : List String) (directory : String) (names : List String) :
    amongEntries other skipped directory names =
      amongEntries tree skipped directory names := by
  induction names with
  | nil => rfl
  | cons name names induction =>
      rw [amongEntries, amongEntries, leadsToDirectory_rearranged rearranged,
        induction]

theorem list_rearranged (rearranged : Rearranged tree other)
    (skipped : List String)
    (directory : String) :
    list other skipped directory = list tree skipped directory := by
  unfold list
  rw [entryNames_rearranged rearranged]
  simp only [amongEntries_rearranged rearranged]

end Rearranged

end NumberedDirectory

end LessonSite
