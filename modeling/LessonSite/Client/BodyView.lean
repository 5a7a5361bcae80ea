import LessonSite.Page

/-!
# Page bodies

The texts of a page that change when another page is shown in its place.
-/

namespace LessonSite

/-- The changing texts of a page. -/
structure BodyView where
  title : String
  content : String
  navBack : String
  navNext : String
  lessonIndex : String
  lessonTotal : String
  localeText : String
  enHref : String
  zhHref : String
  homepageText : String
  homepageHref : String
  toc : String
  deriving DecidableEq, Repr

def BodyView.ofState (state : RouteState) : BodyView where
  title := state.title
  content := state.markdownHtml
  navBack := state.back
  navNext := state.next
  lessonIndex := toString state.index
  lessonTotal := toString state.total
  localeText := state.locale
  enHref := state.enHref
  zhHref := state.zhHref
  homepageText := state.homePage
  homepageHref := state.homePageHref
  toc := state.toc

end LessonSite
