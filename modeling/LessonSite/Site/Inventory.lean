import LessonSite.Site.Pages

/-!
# Inventories of a site

The lines that tell authors what was found in a tour and what was written.
Chapters, lessons and pages come with their numbers.
-/

namespace LessonSite.Inventory

def count (number : Nat) (thing : String) : String :=
  toString number ++ " " ++ thing ++ (if number = 1 then "" else "s")

/-- A position, written with three digits at least. -/
def position (index : Nat) : String :=
  Text.padNumber 3 index

/-- Space before a line that belongs to another. -/
def indent (depth : Nat) : String :=
  String.ofList (List.replicate (4 * depth) ' ')

def lessonLines (lesson : Lesson) : List String :=
  [indent 1 ++ position (lesson.index + 1) ++ " " ++ lesson.lesson,
    indent 2 ++ "Source: " ++ lesson.sourceDir ++ "/"]

/-- The lines for chapters, counted on from a given number. -/
def chapterLines (next : Nat) : List Chapter → List String
  | [] => []
  | chapter :: chapters =>
      (position next ++ " " ++ chapter.name) ::
        (indent 1 ++ "Source: " ++ chapter.sourceDir ++ "/") ::
        chapter.lessons.flatMap lessonLines ++ chapterLines (next + 1) chapters

def localeLines (tour : LocaleTour) : List String :=
  (tour.locale.label ++ " (" ++ count tour.lessons.length "lesson" ++ ")") ::
    (indent 1 ++ "Intro: " ++ tour.locale.prefixed "index.md") ::
    chapterLines 1 tour.chapters

/-- The files beside a tour that change how its site looks. -/
def settingFiles (tree : FileTree) (source : String) : List String :=
  ["config.toml", "template.html"].filter fun name =>
    tree.isFile (FileTree.joinPath source name)

def ofTour (tour : Tour) (settings : List String) : List String :=
  ([""].intercalate (tour.locales.map localeLines)) ++
    if settings.isEmpty then
      []
    else ["", "Config"] ++ settings.map (indent 1 ++ ·)

/-- The name of a page: the page a locale opens with is its home, a table of
contents has its title, and a lesson has its number and name. -/
def pageLabel (page : Page) : String :=
  if page.path = page.locale.prefixed "" then "Home"
  else
    let bare :=
      (Text.beforeEnd? (" - " ++ page.homePage) page.title).getD page.title
    if Text.endsWith contentsPageName page.path then bare
    else position page.index ++ " " ++ bare

def pageLine (page : Page) : String :=
  pageLabel page ++ " → " ++ page.htmlPath

/-- The lines for pages, with an empty line where the locale changes. -/
def pageLines : List Page → List String
  | first :: second :: pages =>
      pageLine first ::
        (if first.locale = second.locale then [] else [""]) ++
        pageLines (second :: pages)
  | [page] => [pageLine page]
  | [] => []

def ofPages (pages : List Page) : List String :=
  pageLines pages ++
    ["",
      "Generated " ++ count pages.length "page" ++ " (" ++
        toString (pages.length * 2) ++
        " files)"]

/-- What a check of a tour found. -/
def summary (tour : Tour) (pages : List Page) : String :=
  "OK: " ++ count tour.locales.length "locale" ++ ", " ++
    count tour.lessons.length "lesson" ++
    ", " ++ count pages.length "page"

end LessonSite.Inventory
