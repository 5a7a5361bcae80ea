import LessonSite.FileTree.Write
import LessonSite.RouteState
import LessonSite.Site.Pages
import LessonSite.Template.Basic

/-!
# Files of a site

Each page is written twice into its own directory: filled into the template, and
as the route state that a client fetches.  Pages are independent of each other,
so what is made for one may come between what is made for others.
-/

namespace LessonSite

namespace FileTree

/-- Writes a text file of a site. -/
def writeText (tree : FileTree) (path text : String) :
    Except SiteFault FileTree :=
  (tree.write path (Utf8.encode text)).mapError (.unwritable path)

end FileTree

/-- What is made for a page. -/
inductive PagePart where
  | directory
  | html
  | json
  deriving DecidableEq, Repr

/-- All that is made for a page, in this order. -/
def PagePart.all : List PagePart := [.directory, .html, .json]

namespace Page

/-- Makes the directory of a page below another one, or writes one of its
files. -/
def make (template : Template) (directory : String) (tree : FileTree)
    (page : Page) :
    PagePart → Except SiteFault FileTree
  | .directory =>
      let place := FileTree.joinPath directory page.path
      (tree.makePath place).mapError (.unwritable place)
  | .html =>
      tree.writeText (FileTree.joinPath directory page.htmlPath)
        (template.render page.placeholders)
  | .json =>
      tree.writeText (FileTree.joinPath directory page.jsonPath)
        page.routeState.write

def parts (page : Page) : List (Page × PagePart) :=
  PagePart.all.map fun part => (page, part)

end Page

/-- Makes parts of pages below a directory, one after the other. -/
def makeParts (template : Template) (directory : String) (tree : FileTree)
    (parts : List (Page × PagePart)) : Except SiteFault FileTree :=
  parts.foldlM
    (fun tree (page, part) => page.make template directory tree part) tree

/-- Writes all pages below a directory. -/
def writeSite (template : Template) (directory : String) (tree : FileTree)
    (pages : List Page) :
    Except SiteFault FileTree :=
  makeParts template directory tree (pages.flatMap Page.parts)

end LessonSite
