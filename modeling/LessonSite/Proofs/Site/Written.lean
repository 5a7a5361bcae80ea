import LessonSite.Proofs.Site.Root

/-!
# Sites that can be written

Pages are told apart by their paths as texts, but a path can lead out of the
directory of the site, to the place of another page, or through one of its
files.  A site is written as it should be, in whatever order the parts of its
pages are made, just if none of this happens and no path ends with the directory
itself.
-/

namespace LessonSite

open FileTree

/-- Every page has a place of its own below the directory of the site, and no
way leads through a file. -/
structure Separate (pages : List Page) : Prop where
  inside : ∀ page ∈ pages, page.place?.isSome
  distinct : (pages.map Page.place?).Nodup
  apart : ∀ page ∈ pages, ∀ other ∈ pages, ∀ place ∈ passed [] page.names,
    place ∉ other.filePlaces
  ends : ∀ page ∈ pages, page.names.getLast? ≠ some "."

instance (pages : List Page) : Decidable (Separate pages) :=
  decidable_of_iff
    ((∀ page ∈ pages, page.place?.isSome) ∧ (pages.map Page.place?).Nodup ∧
      (∀ page ∈ pages,
        ∀ other ∈ pages,
          ∀ place ∈ passed [] page.names, place ∉ other.filePlaces) ∧
      ∀ page ∈ pages, page.names.getLast? ≠ some ".")
    ⟨fun ⟨inside, distinct, apart, ends⟩ => ⟨inside, distinct, apart, ends⟩,
      fun separate =>
        ⟨separate.inside, separate.distinct, separate.apart, separate.ends⟩⟩

/-- The parts of all pages in some order, where those of each page come one
after the other. -/
structure IsSchedule (pages : List Page)
    (schedule : List (Page × PagePart)) : Prop where
  all : schedule.Perm (pages.flatMap Page.parts)
  inOrder : ∀ page ∈ pages, page.parts.Sublist schedule

/-- The paths of the files of a page below the directory of the site. -/
def Page.filePaths (page : Page) : List String :=
  [page.htmlPath, page.jsonPath]

/-- A site stands in a directory: both files of every page hold what they
should, there is nothing else but directories, all files are different and stand
below the directory, and nothing has changed elsewhere. -/
structure Published (template : Template) (directory : String)
    (pages : List Page) (before after : FileTree) : Prop where
  html : ∀ page ∈ pages, after.read (joinPath directory page.htmlPath) =
    .ok (Utf8.encode (template.render page.placeholders))
  json : ∀ page ∈ pages, after.read (joinPath directory page.jsonPath) =
    .ok (Utf8.encode page.routeState.write)
  count : (after.filesBelow directory).length = 2 * pages.length
  distinct : ((pages.flatMap Page.filePaths).map fun path =>
    after.resolve (joinPath directory path)).Nodup
  inside :
    ∃ top,
      before.resolve directory = .ok top ∧ after.resolve directory = .ok top ∧
        (∀ path ∈ pages.flatMap Page.filePaths, ∃ inner, inner ≠ [] ∧
          after.resolve (joinPath directory path) = .ok (top ++ inner)) ∧
        (∀ inner target, after.kind? (top ++ inner) ≠ some (.link target)) ∧
        ∀ place, ¬top <+: place → after.kind? place = before.kind? place

variable {pages : List Page}

theorem Separate.exists_place (separate : Separate pages) {page : Page}
    (member : page ∈ pages) :
    ∃ place, page.place? = some place :=
  Option.isSome_iff_exists.mp (separate.inside page member)

theorem eq_of_mem_flatMap_nodup {α β : Type} {parts : α → List β}
    {elements : List α}
    (distinct : (elements.flatMap parts).Nodup) {first second : α}
    (isFirst : first ∈ elements)
    (isSecond : second ∈ elements) {part : β} (inFirst : part ∈ parts first)
    (inSecond : part ∈ parts second) : first = second := by
  induction elements with
  | nil => cases isFirst
  | cons element elements induction =>
      rw [List.flatMap_cons, List.nodup_append] at distinct
      obtain ⟨-, later, apart⟩ := distinct
      have clash :
          ∀ {other},
            other ∈ elements → part ∈ parts element → part ∈ parts other →
            False := by
        intro other member here there
        exact apart part here part
          (List.mem_flatMap.mpr ⟨other, member, there⟩) rfl
      rcases List.mem_cons.mp isFirst with rfl | firstLater
      · rcases List.mem_cons.mp isSecond with rfl | secondLater
        · rfl
        · exact (clash secondLater inFirst inSecond).elim
      · rcases List.mem_cons.mp isSecond with rfl | secondLater
        · exact (clash firstLater inSecond inFirst).elim
        · exact induction later firstLater secondLater

theorem eq_of_map_eq_of_nodup {α β : Type} {value : α → β} {elements : List α}
    (distinct : (elements.map value).Nodup) {first second : α}
    (isFirst : first ∈ elements)
    (isSecond : second ∈ elements) (same : value first = value second) :
    first = second := by
  rw [List.map_eq_flatMap] at distinct
  exact eq_of_mem_flatMap_nodup distinct isFirst isSecond
    (List.mem_singleton_self _) (List.mem_singleton.mpr same)

/-- The name of the file for a part of a page. -/
def PagePart.fileName? : PagePart → Option String
  | .directory => none
  | .html => some "index.html"
  | .json => some "index.json"

theorem mem_madeFiles {template : Template} {page : Page} {part : PagePart}
    {place : List String}
    {content : List UInt8}
    (member : (place, content) ∈ Page.madeFiles template (page, part)) :
    ∃ inner file,
      page.place? = some inner ∧ part.fileName? = some file ∧
        place = inner ++ [file] := by
  cases part with
  | directory => cases member
  | html =>
      obtain ⟨inner, found, same⟩ := List.mem_map.mp member
      cases same
      exact ⟨inner, _, Option.mem_toList.mp found, rfl, rfl⟩
  | json =>
      obtain ⟨inner, found, same⟩ := List.mem_map.mp member
      cases same
      exact ⟨inner, _, Option.mem_toList.mp found, rfl, rfl⟩

theorem madeFiles_html (template : Template) {page : Page} {place : List String}
    (here : page.place? = some place) :
    Page.madeFiles template (page, .html) =
      [(place ++ ["index.html"],
        Utf8.encode (template.render page.placeholders))] := by
  simp [Page.madeFiles, here]

theorem madeFiles_json (template : Template) {page : Page} {place : List String}
    (here : page.place? = some place) :
    Page.madeFiles template (page, .json) =
      [(place ++ ["index.json"], Utf8.encode page.routeState.write)] := by
  simp [Page.madeFiles, here]

theorem fileName?_injective {part other : PagePart} {file : String}
    (first : part.fileName? = some file)
    (second : other.fileName? = some file) : part = other := by
  have same := first.trans second.symm
  cases part <;> cases other <;> simp [PagePart.fileName?] at same ⊢

/-- Different parts of pages are written to different places. -/
theorem Separate.part_eq (separate : Separate pages) {template : Template}
    {task other : Page × PagePart} (member : task.1 ∈ pages)
    (isPage : other.1 ∈ pages) {place : List String} {content more : List UInt8}
    (first : (place, content) ∈ Page.madeFiles template task)
    (second : (place, more) ∈ Page.madeFiles template other) :
    task = other := by
  obtain ⟨inner, file, here, named, rfl⟩ := mem_madeFiles first
  obtain ⟨otherInner, otherFile, there, otherNamed, same⟩ :=
    mem_madeFiles second
  obtain ⟨rfl, sameFile⟩ := List.append_inj' same rfl
  obtain rfl := (List.cons.inj sameFile).1
  have samePage :=
    eq_of_map_eq_of_nodup separate.distinct member isPage
      (here.trans there.symm)
  exact Prod.ext samePage (fileName?_injective named otherNamed)

theorem mem_filePlaces_iff {page : Page} {place : List String} :
    place ∈ page.filePlaces ↔
      ∃ inner, page.place? = some inner ∧
        (place = inner ++ ["index.html"] ∨
          place = inner ++ ["index.json"]) := by
  unfold Page.filePlaces
  cases page.place? <;> simp

theorem ne_nil_of_mem_filePlaces {page : Page} {place : List String}
    (isFile : place ∈ page.filePlaces) : place ≠ [] := by
  rintro rfl
  obtain ⟨inner, -, same | same⟩ := mem_filePlaces_iff.mp isFile
  · simp at same
  · simp at same

theorem mem_filePlaces_of_madeFiles {template : Template} {page : Page}
    {part : PagePart} {place : List String} {content : List UInt8}
    (member : (place, content) ∈ Page.madeFiles template (page, part)) :
    place ∈ page.filePlaces := by
  obtain ⟨inner, file, here, named, rfl⟩ := mem_madeFiles member
  unfold Page.filePlaces
  rw [here]
  cases part with
  | directory => cases named
  | html =>
      cases named
      exact List.mem_cons_self
  | json =>
      cases named
      exact List.mem_cons_of_mem _ List.mem_cons_self

/-- What stands in a tree when some parts of pages have been made, the last one
first. -/
def Made (template : Template) (before : FileTree) (top : List String)
    (made : List (Page × PagePart)) (tree : FileTree) : Prop :=
  Holds before top (made.flatMap Page.madeDirectories)
    (made.flatMap (Page.madeFiles template)) tree

variable {template : Template} {before tree : FileTree} {directory : String}
  {top base : List String} {left : Nat} {made : List (Page × PagePart)}

/-- No file that has been written is in the way of a page. -/
theorem Separate.lookup_eq_none (separate : Separate pages)
    (ours : ∀ task ∈ made, task.1 ∈ pages)
    {page : Page} (member : page ∈ pages) {place : List String}
    (onTheWay : place ∈ passed [] page.names) :
    List.lookup place (made.flatMap (Page.madeFiles template)) = none := by
  refine List.lookup_eq_none_iff.mpr ?_
  rintro ⟨other, content⟩ written
  obtain ⟨⟨owner, part⟩, isMade, inside⟩ := List.mem_flatMap.mp written
  refine bne_iff_ne.mpr ?_
  rintro rfl
  exact separate.apart page member owner (ours _ isMade) place onTheWay
    (mem_filePlaces_of_madeFiles inside)

theorem Separate.not_directory (separate : Separate pages)
    (ours : ∀ task ∈ made, task.1 ∈ pages)
    {page : Page} (member : page ∈ pages) {place : List String}
    (isFile : place ∈ page.filePlaces) :
    ¬(place = [] ∨ place ∈ made.flatMap Page.madeDirectories) := by
  rintro (rfl | inside)
  · exact ne_nil_of_mem_filePlaces isFile rfl
  · obtain ⟨⟨owner, part⟩, isMade, onTheWay⟩ := List.mem_flatMap.mp inside
    cases part with
    | directory =>
        exact separate.apart owner (ours _ isMade) page member place
          onTheWay isFile
    | html => cases onTheWay
    | json => cases onTheWay

/-- The place of a file that has not been written is free. -/
theorem Separate.kind?_eq_none (separate : Separate pages)
    (ours : ∀ task ∈ made, task.1 ∈ pages)
    (holds : Made template before top made tree) {task : Page × PagePart}
    (member : task.1 ∈ pages)
    (new : task ∉ made) {place : List String} {content : List UInt8}
    (file : (place, content) ∈ Page.madeFiles template task) :
    tree.kind? (top ++ place) = none := by
  have notDirectory := separate.not_directory ours member
    (mem_filePlaces_of_madeFiles (show (place, content) ∈ _ from file))
  have notWritten :
      List.lookup place (made.flatMap (Page.madeFiles template)) = none := by
    refine List.lookup_eq_none_iff.mpr ?_
    rintro ⟨other, more⟩ written
    obtain ⟨owner, isMade, inside⟩ := List.mem_flatMap.mp written
    refine bne_iff_ne.mpr ?_
    rintro rfl
    exact new (separate.part_eq member (ours _ isMade) file inside ▸ isMade)
  rw [holds.inside, if_neg notDirectory, notWritten]
  rfl

theorem Made.step (placed : PagesPlaced pages) (separate : Separate pages)
    (root : SiteRoot before directory [] top base left)
    (holds : Made template before top made tree)
    (ours : ∀ task ∈ made, task.1 ∈ pages) {page : Page} (member : page ∈ pages)
    {part : PagePart}
    (new : (page, part) ∉ made)
    (ready : part ≠ .directory → (page, .directory) ∈ made) :
    ∃ grown, page.make template directory tree part = .ok grown ∧
      Made template before top ((page, part) :: made) grown := by
  have isPlaced := placed.isPlaced page member
  obtain ⟨place, here⟩ := separate.exists_place member
  have through : part ≠ .directory → ∀ other ∈ passed [] page.names,
      other = [] ∨ other ∈ made.flatMap Page.madeDirectories := by
    intro isFile other onTheWay
    exact .inr (List.mem_flatMap.mpr ⟨_, ready isFile, onTheWay⟩)
  cases part with
  | directory =>
      exact Page.make_directory root holds template isPlaced here
        (separate.ends page member)
        fun other onTheWay => separate.lookup_eq_none ours member onTheWay
  | html =>
      have file := madeFiles_html template here
      have free :=
        separate.kind?_eq_none ours holds member new (file ▸ List.mem_cons_self)
      obtain ⟨grown, ok, holdsGrown⟩ :=
        Page.writeText_file root holds isPlaced here
          isSegment_indexHtml isName_indexHtml
          (template.render page.placeholders) (through (by simp)) free
      refine ⟨grown, by rw [Page.make, isPlaced.htmlPath_eq, ok], ?_⟩
      unfold Made
      rw [List.flatMap_cons, List.flatMap_cons, file]
      exact holdsGrown
  | json =>
      have file := madeFiles_json template here
      have free :=
        separate.kind?_eq_none ours holds member new (file ▸ List.mem_cons_self)
      obtain ⟨grown, ok, holdsGrown⟩ :=
        Page.writeText_file root holds isPlaced here
          isSegment_indexJson isName_indexJson page.routeState.write
          (through (by simp)) free
      refine ⟨grown, by rw [Page.make, isPlaced.jsonPath_eq, ok], ?_⟩
      unfold Made
      rw [List.flatMap_cons, List.flatMap_cons, file]
      exact holdsGrown

theorem mem_parts_iff {page : Page} {task : Page × PagePart} :
    task ∈ page.parts ↔ task.1 = page := by
  obtain ⟨other, part⟩ := task
  cases part <;> simp [Page.parts, PagePart.all, eq_comm]

theorem nodup_parts (distinct : pages.Nodup) :
    (pages.flatMap Page.parts).Nodup := by
  induction pages with
  | nil => exact List.nodup_nil
  | cons page pages induction =>
      rw [List.nodup_cons] at distinct
      rw [List.flatMap_cons, List.nodup_append]
      refine ⟨by simp [Page.parts, PagePart.all], induction distinct.2, ?_⟩
      rintro task first other later rfl
      obtain ⟨owner, member, inside⟩ := List.mem_flatMap.mp later
      have same : page = owner :=
        (mem_parts_iff.mp first).symm.trans (mem_parts_iff.mp inside)
      exact distinct.1 (same ▸ member)

namespace IsSchedule

variable {schedule : List (Page × PagePart)}

theorem mem_iff (isSchedule : IsSchedule pages schedule)
    {task : Page × PagePart} :
    task ∈ schedule ↔ task.1 ∈ pages := by
  rw [isSchedule.all.mem_iff, List.mem_flatMap]
  constructor
  · rintro ⟨page, member, inside⟩
    rw [mem_parts_iff.mp inside]
    exact member
  · intro member
    exact ⟨task.1, member, mem_parts_iff.mpr rfl⟩

theorem nodup (isSchedule : IsSchedule pages schedule)
    (distinct : pages.Nodup) : schedule.Nodup :=
  isSchedule.all.nodup_iff.mpr (nodup_parts distinct)

end IsSchedule

/-- Of two elements in this order, the first one comes before any place of the
second. -/
theorem mem_of_sublist_of_nodup {α : Type} {first second : α}
    {before after : List α}
    (ordered : [first, second].Sublist (before ++ second :: after))
    (distinct : (before ++ second :: after).Nodup) : first ∈ before := by
  induction before with
  | nil =>
      have unique := (List.nodup_cons.mp distinct).1
      cases ordered with
      | cons _ later => exact absurd (later.subset (by simp)) unique
      | cons_cons _ later => exact absurd (later.subset (by simp)) unique
  | cons head before induction =>
      cases ordered with
      | cons _ later =>
          exact List.mem_cons_of_mem _
            (induction later (List.nodup_cons.mp distinct).2)
      | cons_cons _ later => exact List.mem_cons_self

theorem Made.run (placed : PagesPlaced pages) (separate : Separate pages)
    (root : SiteRoot before directory [] top base left)
    {schedule : List (Page × PagePart)}
    (isSchedule : IsSchedule pages schedule) {rest : List (Page × PagePart)}
    (holds : Made template before top made tree)
    (split : schedule = made.reverse ++ rest) :
    ∃ grown, makeParts template directory tree rest = .ok grown ∧
      Made template before top (rest.reverse ++ made) grown := by
  have distinct := isSchedule.nodup placed.nodup
  induction rest generalizing made tree with
  | nil => exact ⟨tree, rfl, holds⟩
  | cons task rest induction =>
      obtain ⟨page, part⟩ := task
      have ours : ∀ task ∈ made, task.1 ∈ pages := by
        intro task member
        refine isSchedule.mem_iff.mp ?_
        rw [split]
        exact List.mem_append_left _ (List.mem_reverse.mpr member)
      have scheduled : (page, part) ∈ schedule := by
        rw [split]
        exact List.mem_append_right _ List.mem_cons_self
      have member : page ∈ pages := isSchedule.mem_iff.mp scheduled
      have new : (page, part) ∉ made := by
        intro old
        rw [split, List.nodup_append] at distinct
        exact distinct.2.2 _ (List.mem_reverse.mpr old) _ List.mem_cons_self rfl
      have ready : part ≠ .directory → (page, .directory) ∈ made := by
        intro isFile
        have ordered := isSchedule.inOrder page member
        rw [split] at ordered distinct
        have pair :
            [(page, PagePart.directory), (page, part)].Sublist page.parts := by
          cases part with
          | directory => exact absurd rfl isFile
          | html => exact .cons_cons _ (.cons_cons _ (List.nil_sublist _))
          | json =>
              exact .cons_cons _ (.cons _ (.cons_cons _ (List.nil_sublist _)))
        exact List.mem_reverse.mp
          (mem_of_sublist_of_nodup (pair.trans ordered) distinct)
      obtain ⟨grown, ok, holdsGrown⟩ :=
        holds.step placed separate root ours member new ready
      obtain ⟨last, rest, holdsLast⟩ := induction holdsGrown (by simp [split])
      refine ⟨last, ?_, by simpa using holdsLast⟩
      rw [makeParts, List.foldlM_cons]
      simp only [ok]
      exact rest

theorem map_fst_madeFiles (template : Template) (page : Page) :
    (page.parts.flatMap (Page.madeFiles template)).map Prod.fst =
      page.filePlaces := by
  unfold Page.filePlaces
  cases here : page.place? <;>
    simp [Page.parts, PagePart.all, Page.madeFiles, here]

theorem place?_eq_of_mem_filePlaces {page other : Page} {place : List String}
    (first : place ∈ page.filePlaces) (second : place ∈ other.filePlaces) :
    page.place? = other.place? := by
  obtain ⟨inner, here, same⟩ := mem_filePlaces_iff.mp first
  obtain ⟨otherInner, there, otherSame⟩ := mem_filePlaces_iff.mp second
  have init : place.dropLast = inner := by rcases same with rfl | rfl <;> simp
  have otherInit : place.dropLast = otherInner := by
    rcases otherSame with rfl | rfl <;> simp
  rw [here, there, ← init, otherInit]

theorem nodup_filePlaces (distinct : (pages.map Page.place?).Nodup) :
    (pages.flatMap Page.filePlaces).Nodup := by
  induction pages with
  | nil => exact List.nodup_nil
  | cons page pages induction =>
      rw [List.map_cons, List.nodup_cons] at distinct
      rw [List.flatMap_cons, List.nodup_append]
      refine ⟨?_, induction distinct.2, ?_⟩
      · unfold Page.filePlaces
        cases page.place? <;> simp
      · rintro place first other later rfl
        obtain ⟨owner, member, inside⟩ := List.mem_flatMap.mp later
        have same := place?_eq_of_mem_filePlaces first inside
        exact distinct.1 (same ▸ List.mem_map_of_mem member)

theorem length_filePlaces (inside : ∀ page ∈ pages, page.place?.isSome) :
    (pages.flatMap Page.filePlaces).length = 2 * pages.length := by
  induction pages with
  | nil => rfl
  | cons page pages induction =>
      obtain ⟨place, here⟩ :=
        Option.isSome_iff_exists.mp (inside page List.mem_cons_self)
      have rest :=
        induction fun other member =>
          inside other (List.mem_cons_of_mem _ member)
      rw [List.flatMap_cons, List.length_append, rest, List.length_cons,
        Page.filePlaces, here]
      simp only [List.length_cons, List.length_nil]
      omega

theorem perm_filePlaces (template : Template) {tasks : List (Page × PagePart)}
    (all : tasks.Perm (pages.flatMap Page.parts)) :
    ((tasks.flatMap (Page.madeFiles template)).map Prod.fst).Perm
      (pages.flatMap Page.filePlaces) := by
  have pageByPage :
      ((pages.flatMap Page.parts).flatMap (Page.madeFiles template)).map
          Prod.fst =
        pages.flatMap Page.filePlaces := by
    rw [List.flatMap_assoc, List.map_flatMap]
    simp only [map_fst_madeFiles]
  exact pageByPage ▸ (all.flatMap_right (Page.madeFiles template)).map Prod.fst

/-- A file that has been written holds what it should. -/
theorem Made.kind?_eq_file (separate : Separate pages)
    (holds : Made template before top made tree)
    (all : made.Perm (pages.flatMap Page.parts)) {task : Page × PagePart}
    (member : task.1 ∈ pages) {place : List String} {content : List UInt8}
    (file : (place, content) ∈ Page.madeFiles template task) :
    tree.kind? (top ++ place) = some (.file content) := by
  have ours : ∀ task ∈ made, task.1 ∈ pages := by
    intro task isMade
    obtain ⟨page, isPage, inside⟩ := List.mem_flatMap.mp (all.mem_iff.mp isMade)
    rw [mem_parts_iff.mp inside]
    exact isPage
  have isMade : task ∈ made :=
    all.mem_iff.mpr
      (List.mem_flatMap.mpr ⟨task.1, member, mem_parts_iff.mpr rfl⟩)
  have distinct :=
    (perm_filePlaces template all).nodup_iff.mpr
      (nodup_filePlaces separate.distinct)
  rw [holds.inside,
    if_neg
      (separate.not_directory ours member (mem_filePlaces_of_madeFiles file)),
    lookup_of_mem_of_nodup distinct (List.mem_flatMap.mpr ⟨task, isMade, file⟩)]
  rfl

theorem SiteRoot.resolve_file
    (root : SiteRoot before directory [] top base left)
    {directories : List (List String)} {files : List (List String × List UInt8)}
    (holds : Holds before top directories files tree) {page : Page}
    (placed : page.IsPlaced)
    {place : List String} (here : page.place? = some place) {file : String}
    (isFile : IsSegment file) (isName : IsName file)
    (through : ∀ other ∈ passed [] page.names, other = [] ∨ other ∈ directories)
    {content : List UInt8}
    (written : tree.kind? (top ++ (place ++ [file])) = some (.file content)) :
    tree.resolve (joinPath directory (joinNames (page.names ++ [file]))) =
      .ok (top ++ (place ++ [file])) := by
  have segments := placed.isSegment_file isFile
  rw [root.resolve_joinPath (holds.extends_before root.found)
    (joinNames_noNul segments) (joinNames_relative segments),
    pathNames_joinNames (by simp) fun name member =>
      (segments name member).noSlash]
  have leads := holds.leads here placed.short through left
  rw [List.append_nil] at leads
  have room := holds.kind?_directory (through place (walkFrom?_mem_passed here))
  rw [leads.follow_append]
  rw [← List.append_assoc] at written ⊢
  rw [follow_down room isName isFile.short written (fun goal => by simp),
    follow_nil]

theorem kind?_of_read {path : String} {place : List String}
    {content : List UInt8}
    (resolved : tree.resolve path = .ok place)
    (holds : tree.read path = .ok content) :
    tree.kind? place = some (.file content) := by
  simp only [FileTree.read, FileTree.node, resolved] at holds
  cases found : tree.at? place with
  | none => simp [found] at holds
  | some node =>
      cases node with
      | file bytes =>
          simp only [found, Except.ok.injEq] at holds
          exact kind?_eq_file_iff.mpr (holds ▸ found)
      | directory entries => simp [found] at holds
      | link target => simp [found] at holds

theorem read_of_resolve {path : String} {place : List String}
    {content : List UInt8}
    (resolved : tree.resolve path = .ok place)
    (file : tree.kind? place = some (.file content)) :
    tree.read path = .ok content := by
  simp only [FileTree.read, FileTree.node, resolved, kind?_eq_file_iff.mp file]

section
variable (placed : PagesPlaced pages) (separate : Separate pages)
  (root : SiteRoot before directory [] top base left)
  (holds : Made template before top made tree)
  (all : made.Perm (pages.flatMap Page.parts))
include placed separate root holds all

private theorem Made.stands {task : Page × PagePart} (member : task.1 ∈ pages)
    {place : List String}
    (here : task.1.place? = some place) {file : String}
    (isFile : IsSegment file) (isName : IsName file)
    {content : List UInt8}
    (writes : (place ++ [file], content) ∈ Page.madeFiles template task) :
    tree.resolve (joinPath directory (joinNames (task.1.names ++ [file]))) =
        .ok (top ++ (place ++ [file])) ∧
      tree.kind? (top ++ (place ++ [file])) = some (.file content) := by
  have through : ∀ other ∈ passed [] task.1.names,
      other = [] ∨ other ∈ made.flatMap Page.madeDirectories := by
    intro other onTheWay
    have isMade : (task.1, PagePart.directory) ∈ made :=
      all.mem_iff.mpr
        (List.mem_flatMap.mpr ⟨task.1, member, mem_parts_iff.mpr rfl⟩)
    exact .inr (List.mem_flatMap.mpr ⟨_, isMade, onTheWay⟩)
  have written := holds.kind?_eq_file separate all member writes
  exact ⟨root.resolve_file holds (placed.isPlaced task.1 member) here isFile
      isName through written,
    written⟩

private theorem Made.htmlStands {page : Page} (member : page ∈ pages)
    {place : List String} (here : page.place? = some place) :
    tree.resolve (joinPath directory page.htmlPath) =
        .ok (top ++ (place ++ ["index.html"])) ∧
      tree.kind? (top ++ (place ++ ["index.html"])) =
        some (.file (Utf8.encode (template.render page.placeholders))) := by
  rw [(placed.isPlaced page member).htmlPath_eq]
  exact holds.stands placed separate root all
    (show (page, PagePart.html).1 ∈ pages from member) here
    isSegment_indexHtml isName_indexHtml
    (madeFiles_html template here ▸ List.mem_cons_self)

private theorem Made.jsonStands {page : Page} (member : page ∈ pages)
    {place : List String} (here : page.place? = some place) :
    tree.resolve (joinPath directory page.jsonPath) =
        .ok (top ++ (place ++ ["index.json"])) ∧
      tree.kind? (top ++ (place ++ ["index.json"])) =
        some (.file (Utf8.encode page.routeState.write)) := by
  rw [(placed.isPlaced page member).jsonPath_eq]
  exact holds.stands placed separate root all
    (show (page, PagePart.json).1 ∈ pages from member) here
    isSegment_indexJson isName_indexJson
    (madeFiles_json template here ▸ List.mem_cons_self)

private theorem Made.map_resolve_filePaths :
    (pages.flatMap Page.filePaths).map
        (fun path => tree.resolve (joinPath directory path)) =
      (pages.flatMap Page.filePlaces).map fun inner => .ok (top ++ inner) := by
  rw [List.map_flatMap, List.map_flatMap, List.flatMap_def, List.flatMap_def]
  refine congrArg List.flatten (List.map_congr_left ?_)
  intro page member
  obtain ⟨place, here⟩ := separate.exists_place member
  simp [Page.filePaths, Page.filePlaces, here,
    (holds.htmlStands placed separate root all member here).1,
    (holds.jsonStands placed separate root all member here).1]

/-- When all parts have been made, the site stands in its directory. -/
theorem Made.published : Published template directory pages before tree := by
  have resolvedTop : tree.resolve directory = .ok top := by
    obtain ⟨plain, nonempty, inside, left, leads⟩ :=
      resolve_eq_ok_iff.mp root.resolved
    exact resolve_eq_ok_iff.mpr
      ⟨plain, nonempty, inside, left,
        leads.mono (holds.extends_before root.found)⟩
  have places := holds.map_resolve_filePaths placed separate root all
  constructor
  case html =>
    intro page member
    obtain ⟨place, here⟩ := separate.exists_place member
    obtain ⟨resolved, file⟩ :=
      holds.htmlStands placed separate root all member here
    exact read_of_resolve resolved file
  case json =>
    intro page member
    obtain ⟨place, here⟩ := separate.exists_place member
    obtain ⟨resolved, file⟩ :=
      holds.jsonStands placed separate root all member here
    exact read_of_resolve resolved file
  case count =>
    obtain ⟨entries, found, counted⟩ := holds.counted
    have files := (perm_filePlaces template all).length_eq
    rw [List.length_map] at files
    have node : tree.node directory = .ok (.directory entries) := by
      simp only [FileTree.node, resolvedTop, found]
    simp only [filesBelow, node, List.length_mergeSort, counted, files]
    exact length_filePlaces separate.inside
  case distinct =>
    rw [places]
    refine List.pairwise_map.mpr ((nodup_filePlaces separate.distinct).imp ?_)
    intro first second different same
    exact different (List.append_cancel_left (Except.ok.inj same))
  case inside =>
    refine ⟨top, root.resolved, resolvedTop, ?_, ?_, holds.outside⟩
    · intro path member
      obtain ⟨inner, isPlace, resolved⟩ :=
        List.mem_map.mp (places ▸ List.mem_map_of_mem member)
      obtain ⟨page, -, isFile⟩ := List.mem_flatMap.mp isPlace
      exact ⟨inner, ne_nil_of_mem_filePlaces isFile, resolved.symm⟩
    · intro inner target
      rw [holds.inside]
      split
      · simp
      · cases List.lookup inner (made.flatMap (Page.madeFiles template)) <;>
          simp

end

end LessonSite
