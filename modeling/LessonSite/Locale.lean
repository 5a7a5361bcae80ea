import LessonSite.Text.Parts

/-!
# Locales

The two languages a tour is written in.  English pages stand at the top of the
site and Chinese pages below a directory of their own; `prefixed` and
`unprefixed` move between a path inside a locale and a path inside the site.
-/

namespace LessonSite

/-- A language of the tour. -/
inductive Locale where
  | en
  | zh
  deriving DecidableEq, Repr

namespace Locale

/-- Both locales, in the order in which they are scanned and written. -/
def all : List Locale := [.en, .zh]

/-- The short name used in configuration. -/
def code : Locale → String
  | .en => "en"
  | .zh => "zh"

def label : Locale → String
  | .en => "English"
  | .zh => "中文"

/-- The directory of the site that holds the pages of the locale, if it has
one. -/
def slugPrefix? : Locale → Option String
  | .en => none
  | .zh => some "zh"

/-- The path inside the site of a path inside the locale. -/
def prefixed (locale : Locale) (path : String) : String :=
  match locale.slugPrefix? with
  | none => path
  | some directory => if path = "" then directory else directory ++ "/" ++ path

/-- The path inside the locale of a path inside the site; other paths are
kept. -/
def unprefixed (locale : Locale) (path : String) : String :=
  match locale.slugPrefix? with
  | none => path
  | some directory =>
      if path = directory then ""
      else (Text.afterStart? (directory ++ "/") path).getD path

/-- The locale with a given label. -/
def ofLabel? (label : String) : Option Locale :=
  all.find? fun locale => locale.label = label

/-- The locale with a given short name. -/
def ofCode? (code : String) : Option Locale :=
  all.find? fun locale => locale.code = code

end Locale

end LessonSite
