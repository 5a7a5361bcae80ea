import Mathlib.Data.List.Forall2
import LessonSite.Proofs.Tour.Counted
import LessonSite.Proofs.Tour.Listing

/-!
# The layout of a locale's directory

A locale is read just if its directory can be listed and is laid out as it
should be: its introduction is there, chapters and lessons have entry names with
different numbers, there are lessons in every chapter, and the text and the
program of each.  What has been read is then all of it, by number, and no order
in which the directories list their entries makes a difference.

A directory with a link that leads nowhere cannot be listed, even if the link is
hidden.
-/

namespace LessonSite

open FileTree (joinPath)
open NumberedDirectory (IsSubdirectory IsListable IsNumbered Lists listedNames)

variable {tree : FileTree} {extension root : String} {skipped : List String}
  {locale : Locale}

/-- The directory has a text and a program, both of them in UTF-8. -/
structure HoldsSources (tree : FileTree)
    (extension directory : String) : Prop where
  text :
    ∃ markdown, tree.readText (joinPath directory "index.md") = .ok markdown
  program :
    ∃ code,
      tree.readText (joinPath directory ("index." ++ extension)) = .ok code

private theorem holdsSources_iff {directory : String} :
    ((tree.readText (joinPath directory "index.md")).toOption.isSome = true ∧
      (tree.readText
        (joinPath directory ("index." ++ extension))).toOption.isSome = true) ↔
        HoldsSources tree extension directory := by
  have isSome_iff
    (path : String) : (tree.readText path).toOption.isSome = true ↔
      ∃ text, tree.readText path = .ok text := by
    cases tree.readText path <;> simp [Except.toOption]
  rw [isSome_iff, isSome_iff]
  exact ⟨fun both => ⟨both.1, both.2⟩, fun sources =>
    ⟨sources.text, sources.program⟩⟩

instance {directory : String} :
    Decidable (HoldsSources tree extension directory) :=
  decidable_of_iff _ holdsSources_iff

theorem Tour.readRequired_eq_ok_iff {path text : String} :
    readRequired tree path = .ok text ↔ tree.readText path = .ok text := by
  unfold readRequired FileTree.isFile FileTree.readText FileTree.read
  cases tree.node path with
  | error fault => simp
  | ok node =>
      cases node with
      | directory entries => simp
      | link target => simp
      | file content =>
          simp only [if_true]
          cases Utf8.decode? content <;> simp

theorem Tour.readSources_eq_ok_iff {directory markdown code : String} :
    readSources tree extension directory = .ok (markdown, code) ↔
      tree.readText (joinPath directory "index.md") = .ok markdown ∧
        tree.readText (joinPath directory ("index." ++ extension)) =
          .ok code := by
  unfold readSources
  rw [← readRequired_eq_ok_iff, ← readRequired_eq_ok_iff, bind_eq_ok_iff]
  constructor
  · rintro ⟨text, readText, ok⟩
    obtain ⟨program, readProgram, ok⟩ := bind_eq_ok_iff.mp ok
    cases ok
    exact ⟨readText, readProgram⟩
  · rintro ⟨readText, readProgram⟩
    refine ⟨markdown, readText, ?_⟩
    rw [readProgram]
    rfl

theorem exists_readSources_iff {directory : String} :
    (∃ sources, Tour.readSources tree extension directory = .ok sources) ↔
      HoldsSources tree extension directory := by
  constructor
  · rintro ⟨⟨markdown, code⟩, ok⟩
    obtain ⟨text, program⟩ := Tour.readSources_eq_ok_iff.mp ok
    exact ⟨⟨markdown, text⟩, code, program⟩
  · rintro ⟨⟨markdown, text⟩, code, program⟩
    exact ⟨(markdown, code), Tour.readSources_eq_ok_iff.mpr ⟨text, program⟩⟩

/-- The lesson is that of a directory of a chapter, its place among all lessons
aside. -/
structure Lesson.IsOf (tree : FileTree) (extension : String) (locale : Locale)
    (root : String)
    (chapter directory : NumberedDirectory) (lesson : Lesson) : Prop where
  chapter_eq : lesson.chapter = chapter.entry.displayTitle
  lesson_eq : lesson.lesson = directory.entry.displayTitle
  locale_eq : lesson.locale = locale
  sourceDir_eq : lesson.sourceDir = chapter.name ++ "/" ++ directory.name
  text : tree.readText
    (joinPath (joinPath (joinPath root chapter.name) directory.name)
      "index.md") =
      .ok lesson.markdown
  program : tree.readText
    (joinPath (joinPath (joinPath root chapter.name) directory.name)
      ("index." ++ extension)) =
      .ok lesson.code

/-- The chapter is that of a directory of a locale, with all its lessons by
number. -/
structure Chapter.IsOf (tree : FileTree) (extension : String) (locale : Locale)
    (root : String)
    (directory : NumberedDirectory) (chapter : Chapter) : Prop where
  name_eq : chapter.name = directory.entry.displayTitle
  number_eq : chapter.number = directory.entry.number
  sourceDir_eq : chapter.sourceDir = directory.name
  lessons : ∃ found, Lists tree [] (joinPath root directory.name) found ∧
    List.Forall₂ (Lesson.IsOf tree extension locale root directory) found
      chapter.lessons

/-- The part of a tour is that of a directory, with all chapters by number and
lessons counted. -/
structure LocaleTour.IsOf (tree : FileTree) (locale : Locale)
    (extension root : String)
    (skipped : List String) (part : LocaleTour) : Prop where
  locale_eq : part.locale = locale
  text : tree.readText (joinPath root "index.md") = .ok part.intro.markdown
  program :
    tree.readText (joinPath root ("index." ++ extension)) = .ok part.intro.code
  chapters : ∃ found, Lists tree skipped root found ∧
    List.Forall₂ (Chapter.IsOf tree extension locale root) found part.chapters
  counted : part.IsCounted

theorem Lesson.isOf_of_read {chapter directory : NumberedDirectory}
    {lesson : Lesson}
    (ok : Lesson.read tree extension locale root chapter directory =
      .ok lesson) :
    lesson.IsOf tree extension locale root chapter directory := by
  unfold Lesson.read at ok
  obtain ⟨⟨markdown, code⟩, sources, ok⟩ := bind_eq_ok_iff.mp ok
  cases ok
  obtain ⟨text, program⟩ := Tour.readSources_eq_ok_iff.mp sources
  exact ⟨rfl, rfl, rfl, rfl, text, program⟩

theorem Chapter.isOf_of_read {directory : NumberedDirectory} {chapter : Chapter}
    (listable : IsListable tree (joinPath root directory.name))
    (ok : Chapter.read tree extension locale root directory = .ok chapter) :
    chapter.IsOf tree extension locale root directory := by
  unfold Chapter.read at ok
  obtain ⟨found, listed, ok⟩ := bind_eq_ok_iff.mp ok
  obtain ⟨lessons, read, ok⟩ := bind_eq_ok_iff.mp ok
  split at ok
  · cases ok
  · cases ok
    refine ⟨rfl, rfl, rfl, found,
      NumberedDirectory.lists_of_list listable listed, ?_⟩
    exact forall₂_of_mapM_eq_ok (fun _ _ _ one => Lesson.isOf_of_read one) read

private theorem Chapter.IsOf.counted {total next : Nat}
    {directory : NumberedDirectory}
    {chapter : Chapter}
    (isOf : chapter.IsOf tree extension locale root directory) :
    Chapter.IsOf tree extension locale root directory
      { chapter with lessons := countLessons total next chapter.lessons } := by
  obtain ⟨name, number, sourceDir, found, lists, lessons⟩ := isOf
  refine ⟨name, number, sourceDir, found, lists, ?_⟩
  clear lists
  change List.Forall₂ _ found (countLessons total next chapter.lessons)
  generalize chapter.lessons = all at lessons
  induction lessons generalizing next with
  | nil => exact .nil
  | cons first _ induction =>
      rw [countLessons]
      refine .cons ?_ induction
      exact ⟨first.chapter_eq, first.lesson_eq, first.locale_eq,
        first.sourceDir_eq, first.text, first.program⟩

private theorem Chapter.forall₂_countFrom {total next : Nat}
    {found : List NumberedDirectory} {chapters : List Chapter}
    (all : List.Forall₂ (Chapter.IsOf tree extension locale root)
      found chapters) :
    List.Forall₂ (Chapter.IsOf tree extension locale root) found
      (countFrom total next chapters) := by
  induction all generalizing next with
  | nil => exact .nil
  | cons first _ induction =>
      rw [countFrom]
      exact .cons first.counted induction

/-- The directory and each of its chapters can be listed: no link in them,
hidden or not, leads nowhere or back to the directory it is in. -/
structure LocaleTour.IsListable (tree : FileTree) (root : String)
    (skipped : List String) : Prop where
  ofRoot : NumberedDirectory.IsListable tree root
  ofChapters : ∀ chapter, IsSubdirectory tree skipped root chapter →
    NumberedDirectory.IsListable tree (joinPath root chapter)

instance : Decidable (LocaleTour.IsListable tree root skipped) :=
  decidable_of_iff
    (NumberedDirectory.IsListable tree root ∧
      ∀ chapter, IsSubdirectory tree skipped root chapter →
        NumberedDirectory.IsListable tree (joinPath root chapter))
    ⟨fun ⟨ofRoot, ofChapters⟩ => ⟨ofRoot, ofChapters⟩,
      fun listable => ⟨listable.ofRoot, listable.ofChapters⟩⟩

theorem LocaleTour.isOf_of_read
    (listable : LocaleTour.IsListable tree root skipped)
    {part : LocaleTour}
    (ok : LocaleTour.read tree locale extension root skipped = .ok part) :
    part.IsOf tree locale extension root skipped := by
  have counted := LocaleTour.isCounted_of_read ok
  unfold LocaleTour.read at ok
  obtain ⟨⟨markdown, code⟩, sources, ok⟩ := bind_eq_ok_iff.mp ok
  obtain ⟨found, listed, ok⟩ := bind_eq_ok_iff.mp ok
  obtain ⟨chapters, read, ok⟩ := bind_eq_ok_iff.mp ok
  have lists := NumberedDirectory.lists_of_list listable.ofRoot listed
  obtain ⟨text, program⟩ := Tour.readSources_eq_ok_iff.mp sources
  split at ok
  · cases ok
  · cases ok
    refine ⟨rfl, text, program, ⟨found, lists, ?_⟩, counted.2⟩
    apply Chapter.forall₂_countFrom
    refine forall₂_of_mapM_eq_ok ?_ read
    intro directory chapter member one
    have isChapter :=
      (lists.complete directory.name).mp (List.mem_map_of_mem member)
    exact Chapter.isOf_of_read (listable.ofChapters _ isChapter) one

/-- The chapter has lessons, and they know its name. -/
structure Chapter.IsTitled (chapter : Chapter) : Prop where
  nonempty : chapter.lessons ≠ []
  titled : ∀ lesson ∈ chapter.lessons, lesson.chapter = chapter.name

namespace Chapter

theorem isTitled_of_read {directory : NumberedDirectory} {chapter : Chapter}
    (ok : Chapter.read tree extension locale root directory = .ok chapter) :
    chapter.IsTitled := by
  refine ⟨lessons_ne_nil_of_read ok, ?_⟩
  unfold Chapter.read at ok
  obtain ⟨found, -, ok⟩ := bind_eq_ok_iff.mp ok
  obtain ⟨lessons, read, ok⟩ := bind_eq_ok_iff.mp ok
  split at ok
  · cases ok
  · cases ok
    intro lesson member
    obtain ⟨source, -, one⟩ := mem_of_mapM_eq_ok read member
    exact (Lesson.isOf_of_read one).chapter_eq

theorem isTitled_countFrom {total next : Nat} {chapters : List Chapter}
    (each : ∀ chapter ∈ chapters, chapter.IsTitled) :
    ∀ chapter ∈ countFrom total next chapters, chapter.IsTitled := by
  induction chapters generalizing next with
  | nil => nofun
  | cons chapter chapters induction =>
      obtain ⟨⟨nonempty, titled⟩, others⟩ := List.forall_mem_cons.mp each
      refine List.forall_mem_cons.mpr ⟨⟨?_, ?_⟩, induction others⟩
      · intro empty
        have length := congrArg List.length empty
        rw [length_countLessons] at length
        exact nonempty (List.length_eq_zero_iff.mp length)
      · intro lesson member
        have name :
            lesson.chapter ∈
              (countLessons total next chapter.lessons).map Lesson.chapter :=
          List.mem_map_of_mem member
        rw [map_countLessons fun _ _ => rfl] at name
        obtain ⟨original, inside, same⟩ := List.mem_map.mp name
        rw [← same]
        exact titled original inside

end Chapter

theorem LocaleTour.isTitled_of_read {part : LocaleTour}
    (ok : LocaleTour.read tree locale extension root skipped = .ok part) :
    ∀ chapter ∈ part.chapters, chapter.IsTitled := by
  unfold LocaleTour.read at ok
  obtain ⟨⟨markdown, code⟩, -, ok⟩ := bind_eq_ok_iff.mp ok
  obtain ⟨found, -, ok⟩ := bind_eq_ok_iff.mp ok
  obtain ⟨chapters, read, ok⟩ := bind_eq_ok_iff.mp ok
  split at ok
  · cases ok
  · cases ok
    refine Chapter.isTitled_countFrom fun chapter member => ?_
    obtain ⟨source, -, one⟩ := mem_of_mapM_eq_ok read member
    exact Chapter.isTitled_of_read one

/-- Every chapter of a tour that has been read has lessons, which know its
name. -/
theorem Tour.isTitled_of_read {source : String} {config : Config} {tour : Tour}
    (ok : Tour.read tree source config = .ok tour) :
    ∀ part ∈ tour.locales, ∀ chapter ∈ part.chapters, chapter.IsTitled := by
  unfold Tour.read at ok
  obtain ⟨parts, read, ok⟩ := bind_eq_ok_iff.mp ok
  cases ok
  intro part member
  obtain ⟨locale, -, one⟩ := mem_of_mapM_eq_ok read member
  exact LocaleTour.isTitled_of_read one

/-- The directory has lessons, all of them with different numbers, a text and a
program. -/
structure Chapter.IsLaidOut (tree : FileTree)
    (extension directory : String) : Prop where
  numbered : IsNumbered tree [] directory
  nonempty : ∃ lesson, IsSubdirectory tree [] directory lesson
  sources : ∀ lesson, IsSubdirectory tree [] directory lesson →
    HoldsSources tree extension (joinPath directory lesson)

/-- The directory has a text, a program and chapters, all of them with different
numbers and lessons. -/
structure LocaleTour.IsLaidOut (tree : FileTree) (extension root : String)
    (skipped : List String) : Prop where
  sources : HoldsSources tree extension root
  numbered : IsNumbered tree skipped root
  nonempty : ∃ chapter, IsSubdirectory tree skipped root chapter
  chapters : ∀ chapter, IsSubdirectory tree skipped root chapter →
    Chapter.IsLaidOut tree extension (joinPath root chapter)

instance {directory : String} :
    Decidable (Chapter.IsLaidOut tree extension directory) :=
  decidable_of_iff
    (IsNumbered tree [] directory ∧
      (∃ lesson, IsSubdirectory tree [] directory lesson) ∧
        ∀ lesson, IsSubdirectory tree [] directory lesson →
          HoldsSources tree extension (joinPath directory lesson))
    ⟨fun ⟨numbered, nonempty, sources⟩ => ⟨numbered, nonempty, sources⟩,
      fun laidOut => ⟨laidOut.numbered, laidOut.nonempty, laidOut.sources⟩⟩

instance : Decidable (LocaleTour.IsLaidOut tree extension root skipped) :=
  decidable_of_iff
    (HoldsSources tree extension root ∧ IsNumbered tree skipped root ∧
      (∃ chapter, IsSubdirectory tree skipped root chapter) ∧
        ∀ chapter, IsSubdirectory tree skipped root chapter →
          Chapter.IsLaidOut tree extension (joinPath root chapter))
    ⟨fun ⟨sources, numbered, nonempty, chapters⟩ =>
        ⟨sources, numbered, nonempty, chapters⟩,
      fun laidOut =>
        ⟨laidOut.sources, laidOut.numbered, laidOut.nonempty, laidOut.chapters⟩⟩

theorem Lesson.exists_read_iff {chapter directory : NumberedDirectory} :
    (∃ lesson,
        Lesson.read tree extension locale root chapter directory = .ok lesson) ↔
      HoldsSources tree extension
        (joinPath (joinPath root chapter.name) directory.name) := by
  rw [← exists_readSources_iff]
  unfold Lesson.read
  constructor
  · rintro ⟨lesson, ok⟩
    obtain ⟨sources, read, -⟩ := bind_eq_ok_iff.mp ok
    exact ⟨sources, read⟩
  · rintro ⟨sources, read⟩
    exact ⟨_, bind_eq_ok_iff.mpr ⟨sources, read, rfl⟩⟩

private theorem Lists.exists_mapM_iff {α : Type} {directory : String}
    {found : List NumberedDirectory}
    {step : NumberedDirectory → Except TourFault α} {can : String → Prop}
    (lists : Lists tree skipped directory found)
    (each : ∀ subdirectory ∈ found, (∃ result, step subdirectory = .ok result) ↔
      can subdirectory.name) :
    (∃ results, found.mapM step = .ok results) ↔
      ∀ name, IsSubdirectory tree skipped directory name → can name := by
  rw [exists_mapM_eq_ok_iff]
  constructor
  · intro all name isSubdirectory
    obtain ⟨subdirectory, member, rfl⟩ :=
      List.mem_map.mp ((lists.complete name).mpr isSubdirectory)
    exact (each subdirectory member).mp (all subdirectory member)
  · intro all subdirectory member
    exact (each subdirectory member).mpr
      (all _ ((lists.complete _).mp (List.mem_map_of_mem member)))

private theorem Lists.nonempty_iff {directory : String}
    {found : List NumberedDirectory}
    (lists : Lists tree skipped directory found) :
    found ≠ [] ↔ ∃ name, IsSubdirectory tree skipped directory name := by
  constructor
  · intro nonempty
    obtain ⟨subdirectory, member⟩ := List.exists_mem_of_ne_nil found nonempty
    exact ⟨subdirectory.name,
      (lists.complete _).mp (List.mem_map_of_mem member)⟩
  · rintro ⟨name, isSubdirectory⟩ rfl
    cases (lists.complete name).mpr isSubdirectory

private theorem isEmpty_eq_false_of_mapM {α β : Type}
    {step : α → Except TourFault β}
    {sources : List α} {results : List β}
    (ok : sources.mapM step = .ok results) :
    results.isEmpty = false ↔ sources ≠ [] := by
  have related := forall₂_of_mapM_eq_ok (fun _ _ _ _ => trivial) ok
  have length := List.Forall₂.length_eq related
  cases sources <;> cases results <;> simp_all

theorem Chapter.exists_read_iff {directory : NumberedDirectory}
    (listable : NumberedDirectory.IsListable tree
      (joinPath root directory.name)) :
    (∃ chapter,
        Chapter.read tree extension locale root directory = .ok chapter) ↔
      Chapter.IsLaidOut tree extension (joinPath root directory.name) := by
  unfold Chapter.read
  simp only [exists_bind_eq_ok_iff]
  constructor
  · rintro ⟨found, listed, lessons, read, chapter, ok⟩
    have lists := NumberedDirectory.lists_of_list listable listed
    have some_ : lessons.isEmpty = false := by
      cases empty : lessons.isEmpty with
      | true => simp [empty] at ok
      | false => rfl
    refine ⟨lists.isNumbered,
      (Lists.nonempty_iff lists).mp ((isEmpty_eq_false_of_mapM read).mp some_),
      ?_⟩
    exact (Lists.exists_mapM_iff lists fun _ _ => Lesson.exists_read_iff).mp
      ⟨lessons, read⟩
  · rintro ⟨numbered, ⟨lesson, isLesson⟩, sources⟩
    obtain ⟨found, listed⟩ :=
      NumberedDirectory.list_of_isNumbered listable isLesson.listed numbered
    have lists := NumberedDirectory.lists_of_list listable listed
    obtain ⟨lessons, read⟩ : ∃ lessons,
        found.mapM (Lesson.read tree extension locale root directory) =
          .ok lessons :=
      (Lists.exists_mapM_iff lists fun _ _ => Lesson.exists_read_iff).mpr
        sources
    have some_ := (isEmpty_eq_false_of_mapM read).mpr
      ((Lists.nonempty_iff lists).mpr ⟨lesson, isLesson⟩)
    refine ⟨found, listed, lessons, read, ?_⟩
    rw [some_]
    exact ⟨_, rfl⟩

theorem LocaleTour.exists_read_iff
    (listable : LocaleTour.IsListable tree root skipped) :
    (∃ part, LocaleTour.read tree locale extension root skipped = .ok part) ↔
      LocaleTour.IsLaidOut tree extension root skipped := by
  have each : ∀ {found}, Lists tree skipped root found → ∀ directory ∈ found,
      (∃ chapter,
          Chapter.read tree extension locale root directory = .ok chapter) ↔
        Chapter.IsLaidOut tree extension (joinPath root directory.name) := by
    intro found lists directory member
    have isChapter :=
      (lists.complete directory.name).mp (List.mem_map_of_mem member)
    exact Chapter.exists_read_iff (listable.ofChapters _ isChapter)
  unfold LocaleTour.read
  simp only [exists_bind_eq_ok_iff]
  constructor
  · rintro ⟨sources, holds, found, listed, chapters, read, part, ok⟩
    have lists := NumberedDirectory.lists_of_list listable.ofRoot listed
    have some_ : chapters.isEmpty = false := by
      cases empty : chapters.isEmpty with
      | true => simp [empty] at ok
      | false => rfl
    constructor
    · exact exists_readSources_iff.mp ⟨sources, holds⟩
    · exact lists.isNumbered
    · exact (Lists.nonempty_iff lists).mp
        ((isEmpty_eq_false_of_mapM read).mp some_)
    · exact (Lists.exists_mapM_iff lists (each lists)).mp ⟨chapters, read⟩
  · rintro ⟨sources, numbered, ⟨chapter, isChapter⟩, laidOut⟩
    obtain ⟨⟨markdown, code⟩, holds⟩ := exists_readSources_iff.mpr sources
    obtain ⟨found, listed⟩ :=
      NumberedDirectory.list_of_isNumbered listable.ofRoot
        isChapter.listed numbered
    have lists := NumberedDirectory.lists_of_list listable.ofRoot listed
    obtain ⟨chapters, read⟩ :=
      (Lists.exists_mapM_iff lists (each lists)).mpr laidOut
    have some_ := (isEmpty_eq_false_of_mapM read).mpr
      ((Lists.nonempty_iff lists).mpr ⟨chapter, isChapter⟩)
    refine ⟨(markdown, code), holds, found, listed, chapters, read, ?_⟩
    rw [some_]
    exact ⟨_, rfl⟩

section Rearranged

variable {other : FileTree}

open FileTree (Rearranged)

private theorem Tour.readSources_rearranged (rearranged : Rearranged tree other)
    (extension directory : String) :
    readSources other extension directory =
      readSources tree extension directory := by
  unfold readSources readRequired
  simp only [rearranged.isFile_eq, rearranged.readText_eq]

private theorem Chapter.read_rearranged (rearranged : Rearranged tree other)
    (extension : String)
    (locale : Locale) (root : String) (directory : NumberedDirectory) :
    Chapter.read other extension locale root directory =
      Chapter.read tree extension locale root directory := by
  have lessons : Lesson.read other extension locale root directory =
      Lesson.read tree extension locale root directory := by
    funext lesson
    unfold Lesson.read
    simp only [Tour.readSources_rearranged rearranged]
  unfold Chapter.read
  simp only [NumberedDirectory.list_rearranged rearranged, lessons]

theorem LocaleTour.read_rearranged (rearranged : Rearranged tree other)
    (locale : Locale) (extension root : String) (skipped : List String) :
    LocaleTour.read other locale extension root skipped =
      LocaleTour.read tree locale extension root skipped := by
  have chapters : Chapter.read other extension locale root =
      Chapter.read tree extension locale root := by
    funext directory
    exact Chapter.read_rearranged rearranged extension locale root directory
  unfold LocaleTour.read
  simp only [Tour.readSources_rearranged rearranged,
    NumberedDirectory.list_rearranged rearranged, chapters]

end Rearranged

theorem LocaleTour.isListable_of_read (ofRoot : (listedNames tree root).Nodup)
    (ofChapters : ∀ chapter, IsSubdirectory tree skipped root chapter →
      (listedNames tree (joinPath root chapter)).Nodup)
    {part : LocaleTour}
    (ok : LocaleTour.read tree locale extension root skipped = .ok part) :
    LocaleTour.IsListable tree root skipped := by
  unfold LocaleTour.read at ok
  obtain ⟨sources, -, ok⟩ := bind_eq_ok_iff.mp ok
  obtain ⟨found, listed, ok⟩ := bind_eq_ok_iff.mp ok
  obtain ⟨chapters, read, -⟩ := bind_eq_ok_iff.mp ok
  refine ⟨NumberedDirectory.isListable_of_list ofRoot listed, ?_⟩
  intro chapter isChapter
  obtain ⟨directory, member, rfl⟩ :=
    List.mem_map.mp ((NumberedDirectory.mem_names_of_list listed).mpr isChapter)
  obtain ⟨result, -, one⟩ := exists_of_mapM_eq_ok read member
  unfold Chapter.read at one
  obtain ⟨lessons, listedLessons, -⟩ := bind_eq_ok_iff.mp one
  exact NumberedDirectory.isListable_of_list (ofChapters _ isChapter)
    listedLessons

/-- A locale is read just if its directory can be listed and is laid out as it
should be.  All of it is read then, whatever the order in which the directories
list their entries. -/
theorem LocaleTour.read_eq_ok_iff_isLaidOut
    (ofRoot : (listedNames tree root).Nodup)
    (ofChapters : ∀ chapter, IsSubdirectory tree skipped root chapter →
      (listedNames tree (joinPath root chapter)).Nodup) :
    ((∃ part, LocaleTour.read tree locale extension root skipped = .ok part) ↔
        LocaleTour.IsListable tree root skipped ∧
          LocaleTour.IsLaidOut tree extension root skipped) ∧
      (∀ part, LocaleTour.read tree locale extension root skipped = .ok part →
        part.IsOf tree locale extension root skipped) ∧
      ∀ other, FileTree.Rearranged tree other →
        LocaleTour.read other locale extension root skipped =
          LocaleTour.read tree locale extension root skipped := by
  refine ⟨⟨?_, ?_⟩, ?_, ?_⟩
  · rintro ⟨part, ok⟩
    have listable := isListable_of_read ofRoot ofChapters ok
    exact ⟨listable, (exists_read_iff listable).mp ⟨part, ok⟩⟩
  · rintro ⟨listable, laidOut⟩
    exact (exists_read_iff listable).mpr laidOut
  · intro part ok
    exact isOf_of_read (isListable_of_read ofRoot ofChapters ok) ok
  · intro other rearranged
    exact read_rearranged rearranged locale extension root skipped

/-- A directory with two chapters that are listed by number in another order
than by name. -/
def tenthChapterTree : FileTree :=
  let sources : FileTree := [("index.mbt", .file []), ("index.md", .file [])]
  ("10_late", .directory [("1_a", .directory sources)]) ::
    ("9_early",
      .directory [("2_b", .directory sources), ("10_c", .directory sources)]) ::
    sources

theorem LocaleTour.read_tenthChapterTree :
    (listedNames tenthChapterTree ".").Nodup ∧
      (∀ chapter, IsSubdirectory tenthChapterTree [] "." chapter →
        (listedNames tenthChapterTree (joinPath "." chapter)).Nodup) ∧
      ∃ part, LocaleTour.read tenthChapterTree .en "mbt" "." [] = .ok part ∧
        part.IsOf tenthChapterTree .en "mbt" "." [] ∧
        LocaleTour.read tenthChapterTree.reverse .en "mbt" "." [] =
          .ok part := by
  have ofRoot : (listedNames tenthChapterTree ".").Nodup := by decide +kernel
  have ofChapters : ∀ chapter, IsSubdirectory tenthChapterTree [] "." chapter →
      (listedNames tenthChapterTree (joinPath "." chapter)).Nodup := by
    decide +kernel
  have listable : LocaleTour.IsListable tenthChapterTree "." [] := by
    decide +kernel
  have laidOut : LocaleTour.IsLaidOut tenthChapterTree "mbt" "." [] := by
    decide +kernel
  have rearranged :
      FileTree.Rearranged tenthChapterTree tenthChapterTree.reverse :=
    .of_perm (List.reverse_perm _) (by decide)
  obtain ⟨accepted, described, ordered⟩ :=
    @LocaleTour.read_eq_ok_iff_isLaidOut tenthChapterTree "mbt" "." [] .en
      ofRoot ofChapters
  obtain ⟨part, ok⟩ := accepted.mpr ⟨listable, laidOut⟩
  refine ⟨ofRoot, ofChapters, part, ok, described part ok, ?_⟩
  rw [ordered _ rearranged, ok]

/-- The same directory with the lock that an editor has left in it: a hidden
link to nowhere. -/
def staleLockTree : FileTree :=
  (".#index.md", .link "nowhere") :: tenthChapterTree

/-- The directory is laid out as it should be, its names are different and no
link leads back to it, but it is not read, as the hidden link cannot be
followed. -/
theorem LocaleTour.read_staleLockTree :
    LocaleTour.IsLaidOut staleLockTree "mbt" "." [] ∧
      (listedNames staleLockTree ".").Nodup ∧
      (∀ name ∈ listedNames staleLockTree ".",
        staleLockTree.resolve (joinPath "." name) ≠ staleLockTree.resolve ".") ∧
      (∀ chapter, IsSubdirectory staleLockTree [] "." chapter →
        NumberedDirectory.IsListable staleLockTree (joinPath "." chapter)) ∧
      LocaleTour.read staleLockTree .en "mbt" "." [] =
        .error (.unlistable "." "./.#index.md" .missing) := by
  have sources : Tour.readSources staleLockTree "mbt" "." = .ok ("", "") :=
    eq_ok_of_toOption (by decide +kernel)
  have names : NumberedDirectory.entryNames staleLockTree "." =
      .ok (".#index.md" :: tenthChapterTree.map Prod.fst) := by
    have sorted : (staleLockTree.map Prod.fst).Pairwise (· ≤ ·) := by
      decide +kernel
    exact NumberedDirectory.entryNames_of_sorted rfl sorted
  have blocked :
      NumberedDirectory.leadsToDirectory staleLockTree "." ".#index.md" =
        .error (.unlistable "." "./.#index.md" .missing) := by
    decide +kernel
  have among : NumberedDirectory.amongEntries staleLockTree [] "."
      (".#index.md" :: tenthChapterTree.map Prod.fst) =
        .error (.unlistable "." "./.#index.md" .missing) := by
    rw [NumberedDirectory.amongEntries, blocked]
    rfl
  have unlisted : NumberedDirectory.list staleLockTree [] "." =
      .error (.unlistable "." "./.#index.md" .missing) := by
    unfold NumberedDirectory.list
    simp only [names, among, bind, Except.bind]
  refine ⟨?_, ?_, ?_, ?_, ?_⟩
  · decide +kernel
  · decide +kernel
  · decide +kernel
  · decide +kernel
  · unfold LocaleTour.read
    simp only [sources, unlisted, bind, Except.bind]

end LessonSite
