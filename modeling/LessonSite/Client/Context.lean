import LessonSite.Client.Theme
import LessonSite.Page
import LessonSite.Url.Basic

/-!
# What the components of a page share

The look of the page, its address and language, and whether it waits for a route
state.
-/

namespace LessonSite

/-- What the components of a page share. -/
structure Context where
  theme : Theme
  tocVisible : Bool
  locale : Locale
  location : Url
  busy : Bool
  deriving DecidableEq, Repr

namespace Context

/-- The locale of a page, by the first directory of its address. -/
def localeOf (location : Url) : Locale :=
  match location.path with
  | .rooted (first :: _) =>
      (Locale.all.find? fun locale => locale.slugPrefix? = some first).getD .en
  | _ => .en

/-- The context of a page that has just been loaded. -/
def start (location : Url) : Context :=
  ⟨.light, false, localeOf location, location, false⟩

def moveTo (context : Context) (location : Url) : Context :=
  { context with locale := localeOf location, location }

/-- Moves to a page with a known route state; its label decides the locale. -/
def showPage (context : Context) (location : Url)
    (state : RouteState) : Context :=
  { context with
    locale := (Locale.ofLabel? state.locale).getD (localeOf location)
    location }

/-- Shows or hides the table of contents. -/
def toggleToc (context : Context) : Context :=
  { context with tocVisible := !context.tocVisible }

end Context

end LessonSite
