import LessonSite.Lesson

/-!
# Pages and route states

A page is everything the site shows at one address.  A route state is the part
of a page that is sent to a client which swaps the page in place instead of
loading it.
-/

namespace LessonSite

/-- What a client needs to show a page in place. -/
structure RouteState where
  title : String
  markdownHtml : String
  code : String
  codeHtml : String
  back : String
  next : String
  index : Nat
  total : Nat
  locale : String
  enHref : String
  zhHref : String
  homePage : String
  homePageHref : String
  toc : String
  deriving DecidableEq, Repr

/-- The route state with nothing in it. -/
def RouteState.empty : RouteState :=
  ⟨"", "", "", "", "", "", 0, 0, "", "", "", "", "", ""⟩

/-- A page of the site; `path` is its directory below the root of the site. -/
structure Page where
  path : String
  title : String
  toc : String
  markdownHtml : String
  code : String
  codeHtml : String
  back : String
  next : String
  index : Nat
  total : Nat
  locale : Locale
  enHref : String
  zhHref : String
  homePage : String
  homePageHref : String
  deriving DecidableEq, Repr

/-- The path of a file in a directory of the site. -/
def fileIn (directory file : String) : String :=
  if directory = "" then file else directory ++ "/" ++ file

/-- The address, from the root of the site, of the page in a directory. -/
def pageHref (path : String) : String :=
  "/" ++ fileIn path "index.html"

namespace Page

/-- Where the page itself is written. -/
def htmlPath (page : Page) : String := fileIn page.path "index.html"

/-- Where the route state of the page is written. -/
def jsonPath (page : Page) : String := fileIn page.path "index.json"

def href (page : Page) : String := pageHref page.path

def routeState (page : Page) : RouteState where
  title := page.title
  markdownHtml := page.markdownHtml
  code := page.code
  codeHtml := page.codeHtml
  back := page.back
  next := page.next
  index := page.index
  total := page.total
  locale := page.locale.label
  enHref := page.enHref
  zhHref := page.zhHref
  homePage := page.homePage
  homePageHref := page.homePageHref
  toc := page.toc

end Page

end LessonSite
