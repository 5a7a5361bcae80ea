import LessonSite.Json.Reader
import LessonSite.Json.Value
import LessonSite.Json.Writer
import LessonSite.Page

/-!
# Route states as JSON

The members of a route state in their fixed order, and the reading of them back.
-/

namespace LessonSite.RouteState

/-- The names of the members of a route state, in their order. -/
def memberNames : List String :=
  ["title", "markdownHtml", "code", "codeHtml", "back", "next", "index",
    "total", "locale", "enHref", "zhHref", "homePage", "homePageHref", "toc"]

/-- A route state as a JSON object. -/
def toJson (state : RouteState) : Json :=
  .object
    [("title", .string state.title),
      ("markdownHtml", .string state.markdownHtml),
      ("code", .string state.code), ("codeHtml", .string state.codeHtml),
      ("back", .string state.back), ("next", .string state.next),
      ("index", .integer state.index), ("total", .integer state.total),
      ("locale", .string state.locale), ("enHref", .string state.enHref),
      ("zhHref", .string state.zhHref), ("homePage", .string state.homePage),
      ("homePageHref", .string state.homePageHref), ("toc", .string state.toc)]

/-- The route state written by a JSON value. -/
def ofJson? (value : Json) : Option RouteState := do
  match ← Json.recordFields? memberNames value with
  | [title, markdownHtml, code, codeHtml, back, next, index, total, locale,
    enHref, zhHref,
      homePage, homePageHref, toc] => do
      pure {
        title := ← title.string?
        markdownHtml := ← markdownHtml.string?
        code := ← code.string?
        codeHtml := ← codeHtml.string?
        back := ← back.string?
        next := ← next.string?
        index := ← index.natBelow? UInt64.size
        total := ← total.natBelow? UInt64.size
        locale := ← locale.string?
        enHref := ← enHref.string?
        zhHref := ← zhHref.string?
        homePage := ← homePage.string?
        homePageHref := ← homePageHref.string?
        toc := ← toc.string?
      }
  | _ => none

def write (state : RouteState) : String :=
  state.toJson.write

/-- Reads a route state from its text. -/
def read? (text : String) : Option RouteState :=
  (Json.parse text).bind ofJson?

end LessonSite.RouteState
