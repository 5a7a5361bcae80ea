/-!
# Themes

The two looks of a page, each with a look of the editor that goes with it.
-/

namespace LessonSite

/-- The look of a page. -/
inductive Theme where
  | light
  | dark
  deriving DecidableEq, Repr, Inhabited

namespace Theme

def name : Theme → String
  | .light => "light"
  | .dark => "dark"

def ofName? (name : String) : Option Theme :=
  [light, dark].find? fun theme => theme.name = name

/-- The editor theme that goes with a page theme. -/
def editorTheme : Theme → String
  | .light => "light-plus"
  | .dark => "dark-plus"

def toggled : Theme → Theme
  | .light => .dark
  | .dark => .light

end Theme

end LessonSite
