/-!
# Escaping text for markup

The four characters that could end a text or a quoted attribute value are
written as references.
-/

namespace LessonSite.Markup

/-- A character as it stands in markup. -/
def escapeChar : Char → List Char
  | '&' => "&amp;".toList
  | '<' => "&lt;".toList
  | '>' => "&gt;".toList
  | '"' => "&quot;".toList
  | character => [character]

/-- A text as it stands in markup. -/
def escape (text : String) : String :=
  String.ofList (text.toList.flatMap escapeChar)

/-- The block that shows a program. -/
def codeBlock (code : String) : String :=
  "<pre class=\"shiki\"><code>" ++ escape code ++ "</code></pre>"

def link (href label : String) : String :=
  "<a href=\"" ++ escape href ++ "\">" ++ escape label ++ "</a>"

/-- The place of a link that leads nowhere. -/
def disabledLink (label : String) : String :=
  "<span class=\"text-zinc-500\">" ++ escape label ++ "</span>"

end LessonSite.Markup
