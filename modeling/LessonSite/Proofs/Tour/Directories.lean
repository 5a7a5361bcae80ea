import LessonSite.Proofs.FileTree.Spelling
import LessonSite.Proofs.Tour.Layout
import LessonSite.Proofs.Tour.Names

/-!
# The directories of chapters and lessons

A part of a tour has the subdirectories of its directory for chapters and theirs
for lessons, each of them under its own name.  While no links are met, they are
where their names say.
-/

namespace LessonSite

open FileTree
open NumberedDirectory (IsSubdirectory listedNames)

variable {tree : FileTree} {extension root : String} {skipped : List String}
  {locale : Locale}

theorem Lesson.sourceDir_of_read {chapter directory : NumberedDirectory}
    {lesson : Lesson}
    (ok : Lesson.read tree extension locale root chapter directory =
      .ok lesson) :
    lesson.sourceDir = chapter.name ++ "/" ++ directory.name :=
  (Lesson.isOf_of_read ok).sourceDir_eq

theorem Chapter.sourceDirs_of_read {directory : NumberedDirectory}
    {chapter : Chapter}
    (ok : Chapter.read tree extension locale root directory = .ok chapter) :
    chapter.sourceDir = directory.name ∧
      ∃ found,
        NumberedDirectory.list tree [] (joinPath root directory.name) =
            .ok found ∧
          chapter.lessons.map Lesson.sourceDir =
            found.map fun lesson => directory.name ++ "/" ++ lesson.name := by
  unfold Chapter.read at ok
  obtain ⟨found, listed, ok⟩ := bind_eq_ok_iff.mp ok
  obtain ⟨lessons, read, ok⟩ := bind_eq_ok_iff.mp ok
  split at ok
  · cases ok
  · cases ok
    exact ⟨rfl, found, listed,
      map_eq_of_mapM_eq_ok (fun _ _ one => Lesson.sourceDir_of_read one) read⟩

namespace LocaleTour

variable {part : LocaleTour}

private theorem chapters_of_read
    (ok : LocaleTour.read tree locale extension root skipped = .ok part) :
    ∃ found chapters, NumberedDirectory.list tree skipped root = .ok found ∧
      found.mapM (Chapter.read tree extension locale root) = .ok chapters ∧
      part.chapters = Chapter.countAll chapters := by
  unfold LocaleTour.read at ok
  obtain ⟨⟨markdown, code⟩, -, ok⟩ := bind_eq_ok_iff.mp ok
  obtain ⟨found, listed, ok⟩ := bind_eq_ok_iff.mp ok
  obtain ⟨chapters, read, ok⟩ := bind_eq_ok_iff.mp ok
  split at ok
  · cases ok
  · cases ok
    exact ⟨found, chapters, listed, read, rfl⟩

theorem mem_chapterDirs_iff
    (ok : LocaleTour.read tree locale extension root skipped = .ok part)
    {directory : String} :
    directory ∈ part.chapters.map Chapter.sourceDir ↔
      IsSubdirectory tree skipped root directory := by
  obtain ⟨found, chapters, listed, read, same⟩ := chapters_of_read ok
  rw [← NumberedDirectory.mem_names_of_list listed, same, Chapter.countAll,
    Chapter.map_countFrom fun _ _ => rfl,
    map_eq_of_mapM_eq_ok
      (fun _ _ one => (Chapter.sourceDirs_of_read one).1) read]

theorem list_of_read
    (ok : LocaleTour.read tree locale extension root skipped = .ok part) :
    ∃ found, NumberedDirectory.list tree skipped root = .ok found := by
  obtain ⟨found, -, listed, -⟩ := chapters_of_read ok
  exact ⟨found, listed⟩

theorem list_of_isSubdirectory
    (ok : LocaleTour.read tree locale extension root skipped = .ok part)
    {chapter : String} (isChapter : IsSubdirectory tree skipped root chapter) :
    ∃ found,
      NumberedDirectory.list tree [] (joinPath root chapter) = .ok found := by
  obtain ⟨found, chapters, listed, read, -⟩ := chapters_of_read ok
  obtain ⟨directory, member, rfl⟩ :=
    List.mem_map.mp ((NumberedDirectory.mem_names_of_list listed).mpr isChapter)
  obtain ⟨_, -, one⟩ := exists_of_mapM_eq_ok read member
  obtain ⟨-, lessons, listed, -⟩ := Chapter.sourceDirs_of_read one
  exact ⟨lessons, listed⟩

/-- The lessons are the subdirectories of the subdirectories. -/
theorem mem_lessonDirs_iff
    (ok : LocaleTour.read tree locale extension root skipped = .ok part)
    {directory : String} :
    directory ∈ part.lessons.map Lesson.sourceDir ↔
      ∃ chapter lesson, IsSubdirectory tree skipped root chapter ∧
        IsSubdirectory tree [] (joinPath root chapter) lesson ∧
        directory = chapter ++ "/" ++ lesson := by
  obtain ⟨found, chapters, listed, read, same⟩ := chapters_of_read ok
  have uncounted : part.lessons.map Lesson.sourceDir =
      (chapters.flatMap Chapter.lessons).map Lesson.sourceDir := by
    rw [LocaleTour.lessons, same, Chapter.countAll,
      Chapter.flatMap_lessons_countFrom,
      Chapter.map_countLessons fun _ _ => rfl]
  rw [uncounted, List.map_flatMap, List.mem_flatMap]
  constructor
  · rintro ⟨chapter, member, isLesson⟩
    obtain ⟨source, isSource, one⟩ := mem_of_mapM_eq_ok read member
    obtain ⟨-, lessons, inner, names⟩ := Chapter.sourceDirs_of_read one
    rw [names] at isLesson
    obtain ⟨lesson, isListed, rfl⟩ := List.mem_map.mp isLesson
    exact ⟨source.name, lesson.name,
      (NumberedDirectory.mem_names_of_list listed).mp
        (List.mem_map_of_mem isSource),
      (NumberedDirectory.mem_names_of_list inner).mp
        (List.mem_map_of_mem isListed), rfl⟩
  · rintro ⟨chapterName, lessonName, isChapter, isLesson, rfl⟩
    obtain ⟨source, isSource, rfl⟩ :=
      List.mem_map.mp
        ((NumberedDirectory.mem_names_of_list listed).mpr isChapter)
    obtain ⟨chapter, member, one⟩ := exists_of_mapM_eq_ok read isSource
    obtain ⟨-, lessons, inner, names⟩ := Chapter.sourceDirs_of_read one
    obtain ⟨lesson, isListed, rfl⟩ :=
      List.mem_map.mp ((NumberedDirectory.mem_names_of_list inner).mpr isLesson)
    refine ⟨chapter, member, ?_⟩
    rw [names]
    exact List.mem_map_of_mem isListed

end LocaleTour

theorem Locale.mem_all (locale : Locale) : locale ∈ Locale.all := by
  cases locale <;> decide

theorem Locale.others_eq {locale other : Locale} (different : other ≠ locale) :
    Locale.all.filter (· ≠ locale) = [other] := by
  cases locale <;> cases other <;> first | rfl | exact absurd rfl different

/-- Each part of a tour has been read from its own directory without that of the
other locale. -/
theorem Tour.read_of_mem {source : String} {config : Config} {tour : Tour}
    (ok : Tour.read tree source config = .ok tour) {part : LocaleTour}
    (member : part ∈ tour.locales)
    {other : Locale} (different : other ≠ part.locale) :
    LocaleTour.read tree part.locale config.codeExtension
      ((config.locale part.locale).directory source)
      [(config.locale other).directory source] = .ok part := by
  unfold Tour.read at ok
  obtain ⟨parts, read, ok⟩ := bind_eq_ok_iff.mp ok
  cases ok
  obtain ⟨locale, -, one⟩ := mem_of_mapM_eq_ok read member
  obtain rfl := (LocaleTour.isCounted_of_read one).1
  rw [Locale.others_eq different] at one
  exact one

theorem Tour.exists_part_of_read {source : String} {config : Config}
    {tour : Tour}
    (ok : Tour.read tree source config = .ok tour) (locale : Locale) :
    ∃ part ∈ tour.locales, part.locale = locale := by
  have isPart : locale ∈ tour.locales.map LocaleTour.locale := by
    rw [(Tour.isCounted_of_read ok).1]
    exact Locale.mem_all locale
  exact List.mem_map.mp isPart

theorem Tour.exists_read_iff {source : String} {config : Config} :
    (∃ tour, Tour.read tree source config = .ok tour) ↔
      ∀ locale,
        ∃ part,
          LocaleTour.read tree locale config.codeExtension
            ((config.locale locale).directory source)
            ((Locale.all.filter (· ≠ locale)).map fun other =>
              (config.locale other).directory source) = .ok part := by
  unfold Tour.read
  rw [exists_bind_eq_ok_iff]
  have pure_ :
      ∀ parts,
        ∃ tour, (pure (Tour.mk parts) : Except TourFault Tour) = .ok tour :=
    fun parts => ⟨_, rfl⟩
  simp only [pure_, and_true]
  rw [exists_mapM_eq_ok_iff]
  exact ⟨fun each locale => each locale (Locale.mem_all locale),
    fun each locale _ => each locale⟩

/-- Below a place there are no links. -/
def FileTree.LinkFreeBelow (tree : FileTree) (top : List String) : Prop :=
  ∀ names target, tree.kind? (top ++ names) ≠ some (.link target)

namespace FileTree

variable {directory name : String} {top inner place : List String}

/-- Where names lead there are names of entries all the way. -/
theorem isName_of_resolve {path : String}
    (resolved : tree.resolve path = .ok place) :
    ∀ name ∈ place, IsName name := by
  have kept : ∀ {links left : Nat} {from_ names target : List String},
      Leads tree links from_ names left target → (∀ name ∈ from_, IsName name) →
      ∀ name ∈ target, IsName name := by
    intro links left from_ names target leads
    induction leads with
    | here => exact id
    | stay _ _ _ induction => exact induction
    | up _ _ induction =>
        exact fun all =>
          induction fun name member =>
            all name ((List.dropLast_sublist _).subset member)
    | down _ isName _ _ _ _ induction =>
        intro all
        refine induction fun name member => ?_
        rcases List.mem_append.mp member with above | last
        · exact all name above
        · exact List.mem_singleton.mp last ▸ isName
    | link _ _ _ _ _ _ induction => exact induction
  obtain ⟨-, -, -, left, leads⟩ := resolve_eq_ok_iff.mp resolved
  exact kept leads nofun

theorem isDirectory_of_kind? {path : String}
    (resolved : tree.resolve path = .ok place)
    (here : tree.kind? place = some .directory) :
    tree.isDirectory path = true := by
  obtain ⟨entries, found⟩ := kind?_eq_directory_iff.mp here
  rw [isDirectory, node, resolved]
  simp only [found]

/-- Without links a name leads to the entry of that name. -/
theorem place_of_resolve_joinPath (free : tree.LinkFreeBelow top)
    (resolved : tree.resolve directory = .ok (top ++ inner))
    (isName : IsName name) (noSlash : '/' ∉ name.toList)
    (there : tree.resolve (joinPath directory name) = .ok place) :
    place = top ++ (inner ++ [name]) := by
  obtain ⟨-, nonempty, -, _, way⟩ := resolve_eq_ok_iff.mp resolved
  obtain ⟨-, -, -, _, whole⟩ := resolve_eq_ok_iff.mp there
  obtain ⟨names, spelled, same⟩ := exists_pathNames_joinPath nonempty
  rw [spelled name (startsWith_slash_of_not_mem noSlash),
    pathNames_of_not_mem noSlash] at whole
  obtain ⟨_, between, first, last⟩ := whole.split
  have onWay : between = top ++ inner := by
    rcases same with same | same
    · exact first.unique (same ▸ way)
    · exact first.unique
        ((same ▸ way : Leads _ _ _ (names ++ [""]) _ _).trim
          (by simp [staysAt]))
  subst onWay
  cases last with
  | stay _ stays => exact absurd stays isName.not_stays
  | up => exact absurd rfl isName.ne_up
  | down _ _ _ _ _ rest =>
      cases rest
      rw [List.append_assoc]
  | link _ _ _ next =>
      rw [List.append_assoc] at next
      exact absurd next (free _ _)

end FileTree

namespace NumberedDirectory

variable {directory name : String} {place top inner : List String}
  {found : List NumberedDirectory}

theorem mem_listedNames_iff (resolved : tree.resolve directory = .ok place) :
    name ∈ listedNames tree directory ↔
      ∃ kind, tree.kind? (place ++ [name]) = some kind := by
  rw [listedNames, node, resolved]
  dsimp only
  have leaf :
      tree.kind? place ≠ some .directory →
      ¬∃ kind, tree.kind? (place ++ [name]) = some kind := by
    rintro leaf ⟨kind, there⟩
    exact leaf (kind?_of_append (by simp) there)
  cases here : tree.at? place with
  | none => exact iff_of_false (by simp) (leaf (by simp [kind?, here]))
  | some node =>
      cases node with
      | file content =>
          exact iff_of_false (by simp)
            (leaf (by simp [kind?, here, FileNode.kind]))
      | link target =>
          exact iff_of_false (by simp)
            (leaf (by simp [kind?, here, FileNode.kind]))
      | directory entries =>
          dsimp only
          rw [mem_map_fst_iff, kind?_append here, kind?, at?_cons]
          cases List.lookup name entries <;> simp [FileNode.under?]

theorem no_slash_of_listed (proper : (FileNode.directory tree).IsProper)
    (listed : name ∈ listedNames tree directory) :
    '/' ∉ name.toList := by
  unfold listedNames at listed
  split at listed
  · next entries node =>
      obtain ⟨entry, inside, rfl⟩ := List.mem_map.mp listed
      cases isProper_of_node proper node with
      | directory names _ => exact names entry inside
  · cases listed

theorem isName_of_isSubdirectory (ok : list tree skipped directory = .ok found)
    (isSubdirectory : IsSubdirectory tree skipped directory name) :
    IsName name := by
  obtain ⟨subdirectory, member, rfl⟩ :=
    List.mem_map.mp ((mem_names_of_list ok).mpr isSubdirectory)
  obtain ⟨_, -, among⟩ := foundAmong_of_list ok subdirectory member
  obtain ⟨digits, -, -, -, text⟩ :=
    (EntryName.parse_eq_ok_iff.mp among.parsed).spelled
  have visible := isSubdirectory.visible
  refine ⟨?_, ?_, ?_⟩
  · intro empty
    simp [empty] at text
  · rintro dot
    simp [dot, Text.startsWith, Text.afterStart?, Text.stripStart?] at visible
  · rintro up
    simp [up, Text.startsWith, Text.afterStart?, Text.stripStart?] at visible

variable (proper : (FileNode.directory tree).IsProper)
  (free : tree.LinkFreeBelow top)
  (resolved : tree.resolve directory = .ok (top ++ inner))
  (ok : list tree skipped directory = .ok found)

include proper free resolved ok

/-- What a directory lists is below it under its name. -/
theorem resolve_of_listed (isName : IsName name)
    (listed : name ∈ listedNames tree directory) :
    tree.resolve (joinPath directory name) =
      .ok (top ++ (inner ++ [name])) := by
  obtain ⟨place, there⟩ :=
    exists_resolve_of_leadsToDirectory (leadsToDirectory_of_list ok listed)
  rw [there,
    place_of_resolve_joinPath free resolved isName
      (no_slash_of_listed proper listed) there]

theorem resolve_of_isSubdirectory
    (isSubdirectory : IsSubdirectory tree skipped directory name) :
    tree.resolve (joinPath directory name) = .ok (top ++ (inner ++ [name])) :=
  resolve_of_listed proper free resolved ok
    (isName_of_isSubdirectory ok isSubdirectory) isSubdirectory.listed

/-- A directory below another one is a subdirectory unless it is hidden or
skipped. -/
theorem isSubdirectory_iff_of_kind? (isName : IsName name)
    (there : tree.kind? (top ++ (inner ++ [name])) = some .directory) :
    IsSubdirectory tree skipped directory name ↔
      Text.startsWith "." name = false ∧
        ∀ path ∈ skipped, samePath path (joinPath directory name) = false := by
  constructor
  · exact fun isSubdirectory => ⟨isSubdirectory.visible, isSubdirectory.kept⟩
  · rintro ⟨visible, kept⟩
    have listed : name ∈ listedNames tree directory := by
      rw [mem_listedNames_iff resolved, List.append_assoc]
      exact ⟨_, there⟩
    exact ⟨listed,
      isDirectory_of_kind?
        (resolve_of_listed proper free resolved ok isName listed) there,
      visible, kept⟩

end NumberedDirectory

theorem LocaleTour.kind?_of_read {part : LocaleTour}
    (ok : LocaleTour.read tree locale extension root skipped = .ok part)
    {place : List String}
    (resolved : tree.resolve root = .ok place) :
    tree.kind? place = some .directory := by
  have some_ := (LocaleTour.isCounted_of_read ok).2.nonempty
  obtain ⟨lesson, member⟩ := List.exists_mem_of_ne_nil _ some_
  obtain ⟨chapter, -, isChapter, -⟩ :=
    (mem_lessonDirs_iff ok).mp (List.mem_map_of_mem member)
  obtain ⟨kind, there⟩ :=
    (NumberedDirectory.mem_listedNames_iff resolved).mp isChapter.listed
  exact kind?_of_append (by simp) there

end LessonSite
