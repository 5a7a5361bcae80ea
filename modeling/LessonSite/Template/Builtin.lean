import LessonSite.Config.Basic
import LessonSite.Template.Basic

/-!
# The template of a tour

A tour brings its own template or uses the built-in one.
-/

namespace LessonSite.Template

/-- The text of the built-in template. -/
def builtinText : String :=
  "<!DOCTYPE html>\n" ++
  "<html>\n" ++
  "<head>\n" ++
  "  <meta charset=\"UTF-8\">\n" ++
  "  <meta name=\"viewport\" content=\"width=device-width, initial-scale=1.0\">\n" ++
  "  <title>%TITLE%</title>\n" ++
  "  <link rel=\"stylesheet\" href=\"/tour.css\">\n" ++
  "  <script type=\"module\" src=\"/tour.js\"></script>\n" ++
  "</head>\n" ++
  "<body class=\"flex h-screen flex-col\">\n" ++
  "  <header class=\"flex items-center justify-between border-b px-4 py-2\">\n" ++
  "    <div class=\"flex items-center gap-3\">\n" ++
  "      <button id=\"toc-button\" type=\"button\" aria-label=\"Table of contents\">&#9776;</button>\n" ++
  "      <a id=\"homepage\" href=\"%HOMEPAGE_HREF%\">%HOMEPAGE%</a>\n" ++
  "    </div>\n" ++
  "    <div class=\"locale-switcher\">\n" ++
  "      <span id=\"locale-text\">%LOCALE%</span>\n" ++
  "      <a id=\"en-href\" href=\"%EN_HREF%\">English</a>\n" ++
  "      <a id=\"zh-href\" href=\"%ZH_HREF%\">中文</a>\n" ++
  "    </div>\n" ++
  "  </header>\n" ++
  "  <nav id=\"toc\" class=\"hidden\">%TOC%</nav>\n" ++
  "  <main class=\"flex flex-1 overflow-hidden\">\n" ++
  "    <section class=\"flex w-1/2 flex-col overflow-auto p-6\">\n" ++
  "      <article id=\"tour-content\" class=\"markdown-body\">%MARKDOWN%</article>\n" ++
  "      <footer class=\"mt-auto flex items-center justify-between pt-4\">\n" ++
  "        <span id=\"nav-back\">%BACK%</span>\n" ++
  "        <span><span id=\"lesson-index\">%INDEX%</span> / <span id=\"lesson-total\">%TOTAL%</span></span>\n" ++
  "        <span id=\"nav-next\">%NEXT%</span>\n" ++
  "      </footer>\n" ++
  "    </section>\n" ++
  "    <section class=\"flex w-1/2 flex-col\">\n" ++
  "      <div id=\"editor\" class=\"flex-1 overflow-auto\">%CODE%</div>\n" ++
  "      <pre id=\"output\" class=\"h-1/3 overflow-auto border-t p-2\"></pre>\n" ++
  "    </section>\n" ++
  "  </main>\n" ++
  "</body>\n" ++
  "</html>\n"

def builtin : Except DuplicatePlaceholder Template :=
  parse builtinText

end LessonSite.Template

namespace LessonSite

/-- Why no template can be had. -/
inductive TemplateFault where
  | duplicate (error : DuplicatePlaceholder)
  | unreadable (path : String) (fault : FileFault)

def TemplateFault.message : TemplateFault → String
  | .duplicate error => error.message
  | .unreadable path fault =>
      "cannot read template " ++ path ++ ": " ++ fault.message

namespace Template

def readFile (tree : FileTree) (path : String) :
    Except TemplateFault Template := do
  let text ← (tree.readText path).mapError (.unreadable path)
  (parse text).mapError .duplicate

/-- The template of a tour: the file that its settings name, or else
`template.html`; without either the built-in one. -/
def load (tree : FileTree) (source : String) (config : Config) :
    Except TemplateFault Template :=
  match config.template with
  | some path => readFile tree (FileTree.joinPath source path)
  | none =>
      let path := FileTree.joinPath source "template.html"
      if tree.isFile path then
        readFile tree path
      else builtin.mapError .duplicate

end Template

end LessonSite
