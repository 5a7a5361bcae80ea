import LessonSite.Config.Basic
import LessonSite.Toml.Document
import LessonSite.Toml.Value

/-!
# Reading settings

Settings are read from the value of a settings document.  A group of settings is
a table without unknown keys, or an array with the settings in their order; what
is missing takes its default.  There are two ways to a whole `Config`: reading a
document directly, and laying it over the default document first, so that a
partly given locale keeps the defaults of that locale.
-/

namespace LessonSite

namespace Toml.Value

/-- The values of the given keys, if the value is a group of settings.  When
`exact`, an array must not be longer than the list of keys. -/
def group? (exact : Bool) (keys : List String) :
    Value → Option (List (Option Value))
  | .table entries =>
      if entries.all fun entry => keys.contains entry.1 then
        some (keys.map (Entries.get? entries))
      else none
  | .array values =>
      if exact ∧ keys.length < values.length then none
      else some ((List.range keys.length).map fun position => values[position]?)
  | _ => none

def text? : Value → Option String
  | .string text => some text
  | _ => none

def boolean? : Value → Option Bool
  | .boolean flag => some flag
  | _ => none

/-- The number, if it is not negative. -/
def natural? : Value → Option Nat
  | .integer (.ofNat number) => some number
  | _ => none

/-- The texts of an array of strings. -/
def texts? : Value → Option (List String)
  | .array values => values.mapM text?
  | _ => none

end Toml.Value

/-- A setting that is not given takes its default. -/
def orDefault {Setting : Type} (fallback : Setting)
    (read : Toml.Value → Option Setting) :
    Option Toml.Value → Option Setting
  | none => some fallback
  | some value => read value

namespace LocaleConfig

/-- The keys of a locale's settings. -/
def keys : List String :=
  ["root", "title", "back", "next", "toc_title"]

/-- Reads a locale's settings; the defaults are those of the English part. -/
def ofToml? (exact : Bool) (value : Toml.Value) : Option LocaleConfig := do
  match ← value.group? exact keys with
  | [root, title, back, next, tocTitle] =>
      return {
        root := ← orDefault english.root (·.text?) root
        title := ← orDefault english.title (·.text?) title
        back := ← orDefault english.back (·.text?) back
        next := ← orDefault english.next (·.text?) next
        tocTitle := ← orDefault english.tocTitle (·.text?) tocTitle
      }
  | _ => none

/-- A locale's settings as a table. -/
def toToml (config : LocaleConfig) : Toml.Value :=
  .table [("root", .string config.root), ("title", .string config.title),
    ("back", .string config.back), ("next", .string config.next),
    ("toc_title", .string config.tocTitle)]

end LocaleConfig

namespace PlaygroundConfig

/-- The keys of the playground's settings. -/
def keys : List String :=
  ["debounce_ms", "compiler", "runner"]

/-- Reads the playground's settings. -/
def ofToml? (exact : Bool) (value : Toml.Value) : Option PlaygroundConfig := do
  match ← value.group? exact keys with
  | [debounce, compiler, runner] =>
      return {
        debounce := ← orDefault stock.debounce (·.natural?) debounce
        compiler := ← orDefault stock.compiler (·.texts?) compiler
        runner := ← orDefault stock.runner (·.texts?) runner
      }
  | _ => none

/-- The playground's settings as a table. -/
def toToml (config : PlaygroundConfig) : Toml.Value :=
  .table [("debounce_ms", .integer config.debounce),
    ("compiler", .array (config.compiler.map .string)),
    ("runner", .array (config.runner.map .string))]

end PlaygroundConfig

namespace Config

def keys : List String :=
  ["code_extension", "toc_page", "template", "locales", "playground"]

/-- Reads the settings of both locales; a locale that is not given keeps its own
defaults. -/
def localesOfToml? (exact : Bool) (value : Toml.Value) :
    Option (LocaleConfig × LocaleConfig) := do
  match ← value.group? exact ["en", "zh"] with
  | [en, zh] =>
      return (← orDefault stock.en (LocaleConfig.ofToml? exact) en,
        ← orDefault stock.zh (LocaleConfig.ofToml? exact) zh)
  | _ => none

def ofToml? (exact : Bool) (value : Toml.Value) : Option Config := do
  match ← value.group? exact keys with
  | [codeExtension, tocPage, template, locales, playground] => do
      let (en, zh)
        ← orDefault (stock.en, stock.zh) (localesOfToml? exact) locales
      return {
        codeExtension := ← orDefault stock.codeExtension (·.text?) codeExtension
        tocPage := ← orDefault stock.tocPage (·.boolean?) tocPage
        template :=
          ← orDefault stock.template
            (fun value => value.text?.map some) template
        en
        zh
        playground :=
          ← orDefault stock.playground
            (PlaygroundConfig.ofToml? exact) playground
      }
  | _ => none

def toToml (config : Config) : Toml.Value :=
  .table (("code_extension", .string config.codeExtension) ::
    ("toc_page", .boolean config.tocPage) ::
    ((config.template.map fun template =>
        ("template", Toml.Value.string template)).toList ++
      [("locales", .table [("en", config.en.toToml), ("zh", config.zh.toToml)]),
        ("playground", config.playground.toToml)]))

/-- Why settings cannot be had. -/
inductive Error where
  /-- The document cannot be read as settings. -/
  | malformed
  | invalid (fault : Fault)
deriving Repr, DecidableEq

def Error.message : Error → String
  | .malformed => "TOML parse error"
  | .invalid fault => fault.message

/-- The settings that a document gives when it is laid over the default
document. -/
def resolve (document : Option Toml.Entries) : Except Error Config :=
  let merged :=
    match document with
    | some entries => stock.toToml.merge (.table entries)
    | none => stock.toToml
  match ofToml? true merged with
  | none => .error .malformed
  | some config =>
      match config.fault? with
      | some fault => .error (.invalid fault)
      | none => .ok config

/-- Why the settings of a tour cannot be had. -/
inductive LoadError where
  | unreadable (fault : FileFault)
  | unusable (error : Error)
deriving Repr, DecidableEq

def LoadError.message : LoadError → String
  | .unreadable fault => "IO error: " ++ fault.message
  | .unusable error => error.message

/-- The settings of a tour: those in `config.toml` in its directory, or the
defaults without that file. -/
def load (tree : FileTree) (source : String) : Except LoadError Config :=
  let path := FileTree.joinPath source "config.toml"
  if tree.hasNode path then
    match tree.readText path with
    | .error fault => .error (.unreadable fault)
    | .ok text =>
        match Toml.parse? text with
        | none => .error (.unusable .malformed)
        | some entries => (resolve (some entries)).mapError .unusable
  else (resolve none).mapError .unusable

end Config

end LessonSite
