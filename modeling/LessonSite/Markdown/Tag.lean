import LessonSite.Markdown.Source

/-!
# HTML tags inside Markdown

Where a raw HTML tag, comment, instruction or declaration ends.  A tag inside a
paragraph may be broken over several lines, each of which starts with the marks
of the containers around it; the function given as `resume` passes over those
marks.  In a line of its own a tag may not be broken.
-/

namespace LessonSite.Markdown.Tag

/-- What happens at a line break inside a tag: no tag, or going on behind the
marks of the next line. -/
abbrev Resume := Option (Nat → Nat)

/-- Passes over blanks, at line breaks as `resume` says. -/
def skipBlank (source : Source) (resume : Resume) :
    (fuel position : Nat) → Option Nat
  | 0, _ => none
  | fuel + 1, position =>
      let position := source.skipSpace position
      match source[position]? with
      | none => none
      | some character =>
          if isLineBreak character then
            match resume, source.lineBreak? position with
            | some resume, some next =>
                skipBlank source (some resume) fuel (max next (resume next))
            | _, _ => none
          else some position

private def isNameStart (character : Char) : Bool :=
  isAsciiLetter character || character = '_' || character = ':'

private def isNamePart (character : Char) : Bool :=
  isAsciiAlphanumeric character || character = '_' || character = '.' ||
    character = ':' ||
    character = '-'

private def isBareValuePart (character : Char) : Bool :=
  !(['\'', '"', ' ', '=', '>', '<', '`', '\n', '\r'].contains character)

/-- Passes over a quoted value up to the closing quotation mark. -/
def quotedEnd? (source : Source) (resume : Resume) (mark : Char) :
    (fuel position : Nat) → Option Nat
  | 0, _ => none
  | fuel + 1, position =>
      match source[position]? with
      | none => none
      | some character =>
          if character = mark then some (position + 1)
          else if isLineBreak character then
            match resume, source.lineBreak? position with
            | some resume, some next =>
                quotedEnd? source (some resume) mark fuel
                  (max next (resume next))
            | _, _ => none
          else quotedEnd? source resume mark fuel (position + 1)

/-- Passes over the value of an attribute. -/
def valueEnd? (source : Source) (resume : Resume) (position : Nat) :
    Option Nat :=
  match source[position]? with
  | none => none
  | some '"' => quotedEnd? source resume '"' (source.size + 1) (position + 1)
  | some '\'' => quotedEnd? source resume '\'' (source.size + 1) (position + 1)
  | some character =>
      if isBareValuePart character then
        some (source.skipWhile isBareValuePart position)
      else none

/-- Passes over an attribute, its value included; blanks after it are left. -/
def attributeEnd? (source : Source) (resume : Resume) (position : Nat) :
    Option Nat := do
  let first ← source[position]?
  if !isNameStart first then none
  else
    let nameEnd := source.skipWhile isNamePart (position + 1)
    let fuel := source.size + 1
    let next ← skipBlank source resume fuel nameEnd
    if source.hasAt next '=' then
      let start ← skipBlank source resume fuel (next + 1)
      valueEnd? source resume start
    else pure nameEnd

/-- Passes over the attributes of an opening tag, up to its slash or closing
bracket. -/
def attributesEnd? (source : Source) (resume : Resume) :
    (fuel position : Nat) → Option Nat
  | 0, _ => none
  | fuel + 1, position => do
      let next ← skipBlank source resume (source.size + 1) position
      if source.hasAt next '/' || source.hasAt next '>' then pure next
      else if next = position then none
      else
      attributesEnd? source resume fuel (← attributeEnd? source resume next)

private def isTagNamePart (character : Char) : Bool :=
  isAsciiAlphanumeric character || character = '-'

/-- The position after an opening or closing tag that starts at a position. -/
def tagEnd? (source : Source) (resume : Resume) (position : Nat) : Option Nat :=
  let closing := source.hasAt (position + 1) '/'
  let nameStart := if closing then position + 2 else position + 1
  match source[nameStart]? with
  | none => none
  | some first =>
      if !isAsciiLetter first then none
      else
        let nameEnd := source.skipWhile isTagNamePart nameStart
        if closing then
          let stop := source.skipSpace nameEnd
          if source.hasAt stop '>' then some (stop + 1) else none
        else
          match attributesEnd? source resume (source.size + 1) nameEnd with
          | none => none
          | some next =>
              let stop := source.skipSpace next
              let stop := if source.hasAt stop '/' then stop + 1 else stop
              if source.hasAt stop '>' then some (stop + 1) else none

/-- The end of a comment, a section of raw characters or a declaration; the
position is that after `<!`. -/
def declarationEnd? (source : Source) (stop position : Nat) : Option Nat :=
  if source.hasTextAt position ['-', '-'] && position + 2 ≤ stop then
    if source.hasAt (position + 2) '>' && position + 3 ≤ stop then
      some (position + 3)
    else if source.hasTextAt (position + 2) ['-', '>'] &&
        position + 4 ≤ stop then
      some (position + 4)
    else (source.find? ['-', '-', '>'] (position + 2) stop).map (· + 3)
  else if source.hasTextAt position "[CDATA[".toList && position + 7 ≤ stop then
    match source.find? [']'] (position + 7) stop with
    | none => none
    | some bracket =>
        let next := source.skipRun ']' bracket
        if source.hasAt next '>' && next < stop then some (next + 1) else none
  else
    match source[position]? with
    | none => none
    | some first =>
        if isAsciiLetter first && position < stop then
          (source.find? ['>'] (position + 1) stop).map (· + 1)
        else none

/-- The end of raw HTML inside a paragraph; the position is that after `<`. -/
def inlineEnd? (source : Source) (resume : Nat → Nat) (stop position : Nat) :
    Option Nat :=
  match source[position]? with
  | some '!' => declarationEnd? source stop (position + 1)
  | some '?' => (source.find? ['?', '>'] (position + 1) stop).map (· + 2)
  | _ =>
      match tagEnd? source (some resume) (position - 1) with
      | some found => if found ≤ stop then some found else none
      | none => none

/-- The names of elements that start a block of HTML wherever their tag starts a
line. -/
def blockNames : List String :=
  ["address", "article", "aside", "base", "basefont", "blockquote", "body",
    "caption", "center", "col", "colgroup", "dd", "details", "dialog", "dir",
    "div", "dl", "dt", "fieldset", "figcaption", "figure", "footer", "form",
    "frame", "frameset", "h1", "h2", "h3", "h4", "h5", "h6", "head", "header",
    "hr", "html", "iframe", "legend", "li", "link", "main", "menu", "menuitem",
    "nav", "noframes", "ol", "optgroup", "option", "p", "param", "search",
    "section", "summary", "table", "tbody", "td", "tfoot", "th", "thead",
    "title", "tr", "track", "ul"]

/-- The elements whose content is raw text, each with the tag that ends it. -/
def rawNames : List (String × String) :=
  [("pre", "</pre>"), ("style", "</style>"), ("script", "</script>"),
    ("textarea", "</textarea>")]

/-- How a block of HTML ends. -/
inductive BlockEnd where
  /-- With the line that holds the given text. -/
  | atText (text : String)
  /-- Before the next blank line. -/
  | atBlank
  deriving DecidableEq, Repr

/-- The text that ends a block of raw text, a comment, an instruction or a
declaration; the position is that after `<`. -/
def endText? (source : Source) (position : Nat) : Option String :=
  let raw := rawNames.find? fun (name, _) =>
    source.hasWordAt position name.toList &&
      match source[position + name.length]? with
      | none => true
      | some next => isAsciiSpace next || next = '>'
  match raw with
  | some (_, closing) => some closing
  | none =>
      if source.hasTextAt position "!--".toList then some "-->"
      else if source.hasTextAt position ['?'] then some "?>"
      else if source.hasTextAt position "![CDATA[".toList then some "]]>"
      else if source.hasAt position '!' &&
        (source[position + 1]?.any isAsciiLetter) then some ">"
      else none

/-- The tag of a block element stands here; the position is that after `<`. -/
def startsBlockElement (source : Source) (position : Nat) : Bool :=
  let start := if source.hasAt position '/' then position + 1 else position
  let stop := source.skipWhile isAsciiAlphanumeric start
  blockNames.contains
      (String.ofList ((source.slice start stop).map Char.toLower)) &&
    match source[stop]? with
    | none => true
    | some next =>
        next = ' ' || next = '\t' || isLineBreak next || next = '>' ||
          (next = '/' && source.hasAt (stop + 1) '>')

/-- How the block of HTML ends that starts with the `<` at a position and may
interrupt a paragraph. -/
def interrupting? (source : Source) (position : Nat) : Option BlockEnd :=
  if !source.hasAt position '<' then none
  else
    match endText? source (position + 1) with
    | some text => some (.atText text)
    | none =>
        if startsBlockElement source (position + 1) then some .atBlank else none

/-- How the block of HTML ends that starts at a position, if one does. -/
def blockStart? (source : Source) (position : Nat) : Option BlockEnd :=
  match interrupting? source position with
  | some ending => some ending
  | none =>
      if !source.hasAt position '<' then none
      else
        match tagEnd? source none position with
        | some stop => if source.isBlankLine stop then some .atBlank else none
        | none => none

end LessonSite.Markdown.Tag
