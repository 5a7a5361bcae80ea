import LessonSite.FileTree.Basic
import LessonSite.Locale
import LessonSite.Text.Blank
import LessonSite.Text.Parts

/-!
# Settings of a site

The settings say where the locales of a tour lie, how pages are labelled and how
programs are run.  Every setting has a default.
-/

namespace LessonSite

/-- Root and labels of one locale. -/
structure LocaleConfig where
  /-- The directory of the locale, seen from that of the tour. -/
  root : String
  title : String
  back : String
  next : String
  tocTitle : String
deriving Repr, DecidableEq, Inhabited

/-- Settings of the playground. -/
structure PlaygroundConfig where
  /-- Milliseconds without an edit before a program is compiled. -/
  debounce : Nat
  compiler : List String
  runner : List String
deriving Repr, DecidableEq, Inhabited

/-- The settings of a site. -/
structure Config where
  /-- The part after the dot of the name of a lesson's program. -/
  codeExtension : String
  /-- Each locale gets a page with its table of contents. -/
  tocPage : Bool
  template : Option String
  en : LocaleConfig
  zh : LocaleConfig
  playground : PlaygroundConfig
deriving Repr, DecidableEq, Inhabited

namespace LocaleConfig

/-- The defaults of the English part. -/
def english : LocaleConfig :=
  ⟨"", "Language Tour", "Back", "Next", "Table of Contents"⟩

/-- The defaults of the Chinese part. -/
def chinese : LocaleConfig :=
  ⟨"zh", "语言导览", "上一节", "下一节", "目录"⟩

/-- A root without the slashes around it; `.` is the tour itself. -/
def bareRoot (root : String) : String :=
  let root := Text.trimMatches (· = '/') root
  if root = "." then "" else root

/-- The directory of the locale, for the directory of the tour. -/
def directory (config : LocaleConfig) (source : String) : String :=
  let root := bareRoot config.root
  if root = "" then source else FileTree.joinPath source root

end LocaleConfig

/-- The default settings of the playground. -/
def PlaygroundConfig.stock : PlaygroundConfig :=
  ⟨100, [], []⟩

namespace Config

def stock : Config where
  codeExtension := "mbt"
  tocPage := true
  template := none
  en := .english
  zh := .chinese
  playground := .stock

def locale (config : Config) : Locale → LocaleConfig
  | .en => config.en
  | .zh => config.zh

/-- The name under which the compiler gets the program. -/
def mainFileName (config : Config) : String :=
  "main." ++ config.codeExtension

/-- Settings that cannot be used. -/
inductive Fault where
  | extension
  | emptyTitle (locale : Locale)
  | sameRoot
  | noDebounce
deriving Repr, DecidableEq

/-- The rule that settings break. -/
def Fault.rule : Fault → String
  | .extension => "code_extension must be a bare extension like \"mbt\""
  | .emptyTitle locale =>
      "locales." ++ locale.code ++ ".title must not be empty"
  | .sameRoot => "locales.en.root and locales.zh.root must differ"
  | .noDebounce => "playground.debounce_ms must be positive"

def Fault.message (fault : Fault) : String :=
  "Config validation error: " ++ fault.rule

/-- The first fault of the settings. -/
def fault? (config : Config) : Option Fault :=
  if config.codeExtension = "" ∨ Text.startsWith "." config.codeExtension then
    some .extension
  else if Text.isBlankText config.en.title then some (.emptyTitle .en)
  else if Text.isBlankText config.zh.title then some (.emptyTitle .zh)
  else if LocaleConfig.bareRoot config.en.root =
      LocaleConfig.bareRoot config.zh.root then
    some .sameRoot
  else if config.playground.debounce = 0 then some .noDebounce
  else none

end Config

end LessonSite
