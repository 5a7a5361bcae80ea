import LessonSite.Config.Basic
import LessonSite.Lesson
import LessonSite.Tour.Numbered

/-!
# Reading a tour

A locale is a directory with an introduction and numbered chapters of numbered
lessons.  The introduction and each lesson are a text `index.md` and a program
beside it.  Lessons are counted through the whole locale.
-/

namespace LessonSite

namespace Tour

/-- The text of a file that has to be there. -/
def readRequired (tree : FileTree) (path : String) : Except TourFault String :=
  if tree.isFile path then (tree.readText path).mapError (.unreadable path)
  else .error (.missingFile path)

/-- Text and program of a directory. -/
def readSources (tree : FileTree) (extension directory : String) :
    Except TourFault (String × String) := do
  let markdown ← readRequired tree (FileTree.joinPath directory "index.md")
  let code
    ← readRequired tree (FileTree.joinPath directory ("index." ++ extension))
  return (markdown, code)

end Tour

namespace Lesson

/-- Reads a lesson of a chapter.  The lesson is not counted yet. -/
def read (tree : FileTree) (extension : String) (locale : Locale)
    (root : String)
    (chapter directory : NumberedDirectory) : Except TourFault Lesson := do
  let place :=
    FileTree.joinPath (FileTree.joinPath root chapter.name) directory.name
  let (markdown, code) ← Tour.readSources tree extension place
  return {
    chapter := chapter.entry.displayTitle
    lesson := directory.entry.displayTitle
    index := 0
    total := 0
    markdown
    code
    locale
    sourceDir := chapter.name ++ "/" ++ directory.name
  }

end Lesson

namespace Chapter

def read (tree : FileTree) (extension : String) (locale : Locale)
    (root : String)
    (directory : NumberedDirectory) : Except TourFault Chapter := do
  let place := FileTree.joinPath root directory.name
  let found ← NumberedDirectory.list tree [] place
  let lessons ← found.mapM (Lesson.read tree extension locale root directory)
  if lessons.isEmpty then .error (.emptyChapter place)
  else
    return {
      name := directory.entry.displayTitle
      number := directory.entry.number
      sourceDir := directory.name
      lessons
    }

/-- Counts lessons on from a given place. -/
def countLessons (total : Nat) (next : Nat) : List Lesson → List Lesson
  | [] => []
  | lesson :: lessons =>
      { lesson with index := next, total } ::
        countLessons total (next + 1) lessons

/-- Counts the lessons of chapters on from a given place. -/
def countFrom (total : Nat) (next : Nat) : List Chapter → List Chapter
  | [] => []
  | chapter :: chapters =>
      { chapter with lessons := countLessons total next chapter.lessons } ::
        countFrom total (next + chapter.lessons.length) chapters

/-- Gives every lesson its place among all lessons of the chapters. -/
def countAll (chapters : List Chapter) : List Chapter :=
  countFrom (chapters.flatMap Chapter.lessons).length 0 chapters

end Chapter

/-- Reads the part of a tour in one language.  The skipped directories are no
chapters. -/
def LocaleTour.read (tree : FileTree) (locale : Locale)
    (extension root : String)
    (skipped : List String) : Except TourFault LocaleTour := do
  let (markdown, code) ← Tour.readSources tree extension root
  let found ← NumberedDirectory.list tree skipped root
  let chapters ← found.mapM (Chapter.read tree extension locale root)
  if chapters.isEmpty then .error (.emptyTour root)
  else
  return {
    locale, intro := ⟨markdown, code⟩, chapters := Chapter.countAll chapters }

/-- Reads a tour.  The root of one locale is no chapter of the other. -/
def Tour.read (tree : FileTree) (source : String) (config : Config) :
    Except TourFault Tour := do
  let locales ← Locale.all.mapM fun locale =>
    LocaleTour.read tree locale config.codeExtension
      ((config.locale locale).directory source)
      ((Locale.all.filter (· ≠ locale)).map fun other =>
        (config.locale other).directory source)
  return ⟨locales⟩

end LessonSite
