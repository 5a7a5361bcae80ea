import LessonSite.Config.Basic
import LessonSite.Contents.Basic
import LessonSite.Markdown.Render
import LessonSite.Markup.Escape
import LessonSite.Page

/-!
# Pages of a site

Each locale of a tour gives a page it opens with, a page for every lesson in
reading order and, if wanted, a page that lists all lessons.  Neighbouring pages
are linked, and no two pages of the site have the same path.
-/

namespace LessonSite

/-- Why no site can be made or written. -/
inductive SiteFault where
  | unwritable (path : String) (fault : FileFault)
  | sharedPath (path first second : String)
  | emptyLocale (locale : Locale)
  deriving Repr, DecidableEq

def SiteFault.message : SiteFault → String
  | .unwritable path fault => "cannot write " ++ path ++ ": " ++ fault.message
  | .sharedPath path first second =>
      "two pages share the path \"" ++ path ++ "\" (" ++ first ++ " and " ++
        second ++ ")"
  | .emptyLocale locale => "locale " ++ locale.code ++ " has no lessons"

/-- The directory of a page with the table of contents. -/
def contentsPageName : String := "table-of-contents"

/-- The address of a lesson's page. -/
def Lesson.href (lesson : Lesson) : String :=
  pageHref lesson.slug

/-- The text of a page with the table of contents: a heading, and below it a
list of links for each chapter. -/
def contentsMarkdown (heading : String) (chapters : List Chapter) : String :=
  "# " ++ heading ++ "\n" ++
    String.join (chapters.map fun chapter =>
      "\n## " ++ chapter.name ++ "\n\n" ++
        String.join (chapter.lessons.map fun lesson =>
          "- [" ++ lesson.lesson ++ "](" ++ lesson.href ++ ")\n"))

/-- What all pages of a locale have in common. -/
structure PageFrame where
  locale : Locale
  labels : LocaleConfig
  /-- The table of contents beside every page. -/
  toc : String

namespace PageFrame

/-- The path of the page that the locale opens with. -/
def homePath (frame : PageFrame) : String :=
  frame.locale.prefixed ""

/-- The address of the page that the locale opens with. -/
def homeHref (frame : PageFrame) : String :=
  pageHref frame.homePath

/-- A link that leads on, where there is a place to go to. -/
def nextLink (frame : PageFrame) : Option String → String
  | some href => Markup.link href frame.labels.next
  | none => Markup.disabledLink frame.labels.next

/-- A page of the locale with the given content and links. -/
def page (frame : PageFrame) (path title markdown code back next : String)
    (index total : Nat) :
    Page where
  path
  title
  toc := frame.toc
  markdownHtml := Markdown.render markdown
  code
  codeHtml := Markup.codeBlock code
  back
  next
  index
  total
  locale := frame.locale
  enHref := pageHref (Locale.en.prefixed (frame.locale.unprefixed path))
  zhHref := pageHref (Locale.zh.prefixed (frame.locale.unprefixed path))
  homePage := frame.labels.title
  homePageHref := frame.homeHref

/-- The page that the locale opens with; it leads on to the first lesson. -/
def homePage (frame : PageFrame) (intro : Intro) (first : Lesson) : Page :=
  frame.page frame.homePath frame.labels.title intro.markdown intro.code
    (Markup.disabledLink frame.labels.back)
    (frame.nextLink (some first.href)) 1 1

/-- The pages of lessons that follow the page with the given address. -/
def lessonPages (frame : PageFrame) (previous : String) :
    List Lesson → List Page
  | [] => []
  | lesson :: lessons =>
      frame.page lesson.slug (lesson.lesson ++ " - " ++ frame.labels.title)
          lesson.markdown lesson.code (Markup.link previous frame.labels.back)
          (frame.nextLink (lessons.head?.map Lesson.href)) (lesson.index + 1)
          lesson.total ::
        lessonPages frame lesson.href lessons

/-- The page with the table of contents; it leads nowhere by itself. -/
def contentsPage (frame : PageFrame) (chapters : List Chapter) : Page :=
  frame.page (frame.locale.prefixed contentsPageName)
    (frame.labels.tocTitle ++ " - " ++ frame.labels.title)
    (contentsMarkdown frame.labels.tocTitle chapters) ""
    (Markup.disabledLink frame.labels.back) (frame.nextLink none) 1 1

end PageFrame

/-- The frame of the pages of a locale. -/
def LocaleTour.frame (tour : LocaleTour) (config : Config) : PageFrame where
  locale := tour.locale
  labels := config.locale tour.locale
  toc := (Contents.ofChapters tour.chapters).markup

def LocaleTour.pages (tour : LocaleTour) (config : Config) :
    Except SiteFault (List Page) :=
  let frame := tour.frame config
  match tour.lessons with
  | [] => .error (.emptyLocale tour.locale)
  | first :: rest =>
      .ok (frame.homePage tour.intro first ::
        frame.lessonPages frame.homeHref (first :: rest) ++
        if config.tocPage then [frame.contentsPage tour.chapters] else [])

/-- The first page whose path an earlier page has, with that page.  The pages
before are given from the first to the last. -/
def sharedPath? (before : List Page) : List Page → Option (Page × Page)
  | [] => none
  | page :: pages =>
      match before.find? (·.path = page.path) with
      | some first => some (first, page)
      | none => sharedPath? (before ++ [page]) pages

/-- All pages of the site of a tour. -/
def Tour.pages (tour : Tour) (config : Config) :
    Except SiteFault (List Page) := do
  let pages := (← tour.locales.mapM fun part => part.pages config).flatten
  match sharedPath? [] pages with
  | some (first, second) =>
      .error (.sharedPath second.path first.title second.title)
  | none => .ok pages

end LessonSite
