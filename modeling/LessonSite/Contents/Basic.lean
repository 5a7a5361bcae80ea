import LessonSite.Html.Dom
import LessonSite.Lesson
import LessonSite.Markup.Escape
import LessonSite.Page

/-!
# Tables of contents

A table of contents lists the chapters of a tour with links to their lessons.
It is written as markup into every page, and read back from it where a page is
shown.
-/

namespace LessonSite

/-- A link to a lesson. -/
structure ContentsLink where
  label : String
  /-- The address as written, usually starting at the root of the site. -/
  href : String
  active : Bool
deriving Repr, DecidableEq, Inhabited

/-- A chapter with its links, which are shown when it is expanded. -/
structure ContentsChapter where
  title : String
  links : List ContentsLink
  expanded : Bool
deriving Repr, DecidableEq, Inhabited

/-- A table of contents. -/
structure Contents where
  chapters : List ContentsChapter
deriving Repr, DecidableEq, Inhabited

namespace Contents

/-- The table of contents of the given chapters, all of them expanded. -/
def ofChapters (chapters : List Chapter) : Contents where
  chapters := chapters.map fun chapter =>
    { title := chapter.name
      links := chapter.lessons.map fun lesson =>
        { label := lesson.lesson, href := pageHref lesson.slug,
          active := false }
      expanded := true }

/-- Expands or folds one chapter; other positions are ignored. -/
def toggle (contents : Contents) (position : Nat) : Contents where
  chapters := contents.chapters.modify position fun chapter =>
    { chapter with expanded := !chapter.expanded }

def links (contents : Contents) : List ContentsLink :=
  contents.chapters.flatMap ContentsChapter.links

/-- The link of the page that is shown. -/
def activeLink? (contents : Contents) : Option ContentsLink :=
  contents.links.find? ContentsLink.active

/-- The position of the chapter that holds an active link. -/
def openChapter? (contents : Contents) : Option Nat :=
  contents.chapters.findIdx? fun chapter =>
    chapter.links.any ContentsLink.active

end Contents

def ContentsLink.markup (link : ContentsLink) : String :=
  "<li><a class=\"toc-link" ++ (if link.active then " toc-active" else "") ++
    "\" href=\"" ++
    Markup.escape link.href ++ "\">" ++ Markup.escape link.label ++ "</a></li>"

def ContentsChapter.markup (chapter : ContentsChapter) : String :=
  "<li><div class=\"toc-chapter\"><button class=\"toc-chapter-title\" type=\"button\">" ++
    Markup.escape chapter.title ++ "</button><ul class=\"toc-sections" ++
    (if chapter.expanded then "" else " hidden") ++ "\">" ++
    String.join (chapter.links.map ContentsLink.markup) ++ "</ul></div></li>"

/-- The markup of a table of contents. -/
def Contents.markup (contents : Contents) : String :=
  "<ul class=\"toc\">" ++
    String.join (contents.chapters.map ContentsChapter.markup) ++ "</ul>"

end LessonSite
