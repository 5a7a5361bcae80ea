import LessonSite.Config.Reader

/-!
# The settings document with all defaults

A document that names every setting with its default and explains it.
-/

namespace LessonSite.Config

def stockLines : List String :=
  ["# Language Tour Configuration",
    "# ===========================",
    "# All settings are optional. Remove or comment out any you don't need.",
    "# Values shown below are the defaults. Unknown keys cause an error.",
    "",
    "# Extension of the lesson code file. Every lesson directory must contain",
    "# index.md and index.<code_extension>.",
    "code_extension = \"mbt\"",
    "",
    "# Emit a table-of-contents page per locale (table-of-contents/index.html).",
    "toc_page = true",
    "",
    "# Page template, relative to the content root. When omitted, template.html in",
    "# the content root is used if present, otherwise the built-in template.",
    "# template = \"template.html\"",
    "",
    "# ---------------------------------------------------------------------------",
    "# Locales",
    "# ---------------------------------------------------------------------------",
    "[locales.en]",
    "# Locale root relative to the content root (\"\" = the content root itself).",
    "root = \"\"",
    "title = \"Language Tour\"",
    "back = \"Back\"",
    "next = \"Next\"",
    "toc_title = \"Table of Contents\"",
    "",
    "[locales.zh]",
    "root = \"zh\"",
    "title = \"语言导览\"",
    "back = \"上一节\"",
    "next = \"下一节\"",
    "toc_title = \"目录\"",
    "",
    "# ---------------------------------------------------------------------------",
    "# Playground",
    "# ---------------------------------------------------------------------------",
    "[playground]",
    "# Milliseconds of editing quiescence before the code is recompiled.",
    "debounce_ms = 100",
    "",
    "# Compile worker: reads \x7b\"files\": [[path, content]], \"debug\": bool\x7d on stdin",
    "# and answers \x7b\"kind\": \"success\", \"artifact\": ...\x7d or",
    "# \x7b\"kind\": \"error\", \"diagnostics\": [...]\x7d on stdout.",
    "compiler = []",
    "",
    "# Runner: receives the artifact on stdin and prints program output.",
    "runner = []"]

def stockText : String :=
  String.join (stockLines.map fun line => line ++ "\n")

end LessonSite.Config
