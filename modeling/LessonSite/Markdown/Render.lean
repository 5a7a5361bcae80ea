import LessonSite.Markdown.Document
import LessonSite.Markdown.Inline
import LessonSite.Text.Utf8

/-!
# Markdown as HTML

The markup of the blocks of a text.  A block starts on a new line: the writer
keeps what it has written so far and adds a line break only where the last
character is not one.
-/

namespace LessonSite.Markdown

def escapeBody : Char → List Char
  | '&' => "&amp;".toList
  | '<' => "&lt;".toList
  | '>' => "&gt;".toList
  | character => [character]

def escapeAttribute : Char → List Char
  | '"' => "&quot;".toList
  | character => escapeBody character

def bodyText (text : String) : List Char :=
  text.toList.flatMap escapeBody

def attributeText (text : String) : List Char :=
  text.toList.flatMap escapeAttribute

/-- The character may stand as it is in an address. -/
def isAddressSafe (character : Char) : Bool :=
  character.isAlphanum || "!#$%()*+,-./:;=?@_~".toList.contains character

def upperHexDigit (value : Nat) : Char :=
  if value < 10 then
    Char.ofNat ('0'.toNat + value)
  else Char.ofNat ('A'.toNat + (value - 10))

def escapeAddressChar (character : Char) : List Char :=
  if isAddressSafe character then [character]
  else if character = '&' then "&amp;".toList
  else if character = '\'' then "&#x27;".toList
  else
    (Utf8.encodeChar character).flatMap fun byte =>
      ['%', upperHexDigit (byte.toNat / 16), upperHexDigit (byte.toNat % 16)]

def addressText (text : String) : List Char :=
  text.toList.flatMap escapeAddressChar

mutual

/-- Running text without any markup, as it stands in an attribute. -/
def plainText : Inline → List Char
  | .text text => attributeText text
  | .code text => attributeText text
  | .html text => attributeText text
  | .softBreak => [' ']
  | .hardBreak => [' ']
  | .emphasized _ children => plainTexts children
  | .link _ _ children => plainTexts children
  | .image _ _ children => plainTexts children
  | .delimiters mark count _ _ =>
      attributeText (String.ofList (List.replicate count mark))

def plainTexts : List Inline → List Char
  | [] => []
  | item :: items => plainText item ++ plainTexts items

end

def titleAttribute (title : String) : List Char :=
  if title = "" then [] else "\" title=\"".toList ++ attributeText title

/-- The name of the element for a kind of emphasis. -/
def Emphasis.element : Emphasis → String
  | .emphasis => "em"
  | .strong => "strong"
  | .strikethrough => "del"

mutual

def inlineMarkup : Inline → List Char
  | .text text => bodyText text
  | .code text => "<code>".toList ++ bodyText text ++ "</code>".toList
  | .html text => text.toList
  | .softBreak => ['\n']
  | .hardBreak => "<br />\n".toList
  | .emphasized kind children =>
      '<' :: (kind.element.toList ++ '>' :: (inlinesMarkup children ++
        "</".toList ++ kind.element.toList ++ ['>']))
  | .link destination title children =>
      "<a href=\"".toList ++ addressText destination ++ titleAttribute title ++
        "\">".toList ++
        inlinesMarkup children ++ "</a>".toList
  | .image destination title children =>
      "<img src=\"".toList ++ addressText destination ++ "\" alt=\"".toList ++
        plainTexts children ++ titleAttribute title ++ "\" />".toList
  | .delimiters mark count _ _ =>
      bodyText (String.ofList (List.replicate count mark))

def inlinesMarkup : List Inline → List Char
  | [] => []
  | item :: items => inlineMarkup item ++ inlinesMarkup items

end

/-- What has been written so far, latest character first. -/
abbrev Written := List Char

def Written.add (written : Written) (text : List Char) : Written :=
  text.reverse ++ written

def Written.addText (written : Written) (text : String) : Written :=
  written.add text.toList

/-- Starts a new line unless one has just been started. -/
def Written.freshLine (written : Written) : Written :=
  match written with
  | [] => written
  | '\n' :: _ => written
  | _ => '\n' :: written

def Alignment.style : Alignment → String
  | .unset => ""
  | .left => " style=\"text-align: left\""
  | .center => " style=\"text-align: center\""
  | .right => " style=\"text-align: right\""

def writeCells (render : Prose → List Char) (element : String) :
    List Alignment → List Prose → Written → Written
  | _, [], written => written
  | columns, cell :: cells, written =>
      let alignment := columns.head?.getD .unset
      writeCells render element columns.tail cells
        ((written.addText ("<" ++ element ++ alignment.style ++ ">")
          |>.add (render cell)).addText ("</" ++ element ++ ">"))

def writeRows (render : Prose → List Char) (columns : List Alignment) :
    List (List Prose) → Written → Written
  | [], written => written
  | row :: rows, written =>
      writeRows render columns rows
        ((writeCells render "td" columns row (written.addText "<tr>")).addText
          "</tr>\n")

/-- The first word of an info string names the language of the code. -/
def language (info : String) : List Char :=
  info.toList.takeWhile (· ≠ ' ')

mutual

/-- Writes a block; a paragraph of a tight list is written without its
element. -/
def writeBlock (render : Prose → List Char) (tight : Bool) (block : Block)
    (written : Written) : Written :=
  match block with
  | .paragraph prose =>
      if tight then written.add (render prose)
      else
      ((written.freshLine.addText "<p>").add (render prose)).addText "</p>\n"
  | .heading level prose =>
      let element := "h" ++ toString level
      ((written.freshLine.addText ("<" ++ element ++ ">")).add
          (render prose)).addText
        ("</" ++ element ++ ">\n")
  | .code info text =>
      let start :=
        match info.map language with
        | none => "<pre><code>".toList
        | some [] => "<pre><code>".toList
        | some name =>
            "<pre><code class=\"language-".toList ++
              attributeText (String.ofList name) ++
              "\">".toList
      ((written.freshLine.add start).add (bodyText text)).addText
        "</code></pre>\n"
  | .html text => written.addText text
  | .rule => written.freshLine.addText "<hr />\n"
  | .quote children =>
      (writeBlocks render false children
          (written.freshLine.addText "<blockquote>\n")).addText
        "</blockquote>\n"
  | .list number isTight items =>
      let start := match number with
        | none => "<ul>\n"
        | some 1 => "<ol>\n"
        | some number => "<ol start=\"" ++ toString number ++ "\">\n"
      let stop := if number.isSome then "</ol>\n" else "</ul>\n"
      (writeItems render isTight items
        (written.freshLine.addText start)).addText stop
  | .table columns head rows =>
      let written :=
        writeCells render "th" columns head
          (written.addText "<table><thead><tr>")
      (writeRows render columns rows
          (written.addText "</tr></thead><tbody>\n")).addText
        "</tbody></table>\n"

def writeBlocks (render : Prose → List Char) (tight : Bool) :
    (blocks : List Block) → Written → Written
  | [], written => written
  | block :: blocks, written =>
      writeBlocks render tight blocks (writeBlock render tight block written)

def writeItems (render : Prose → List Char) (tight : Bool) :
    (items : List (List Block)) → Written → Written
  | [], written => written
  | item :: items, written =>
      writeItems render tight items
        ((writeBlocks render tight item
          (written.freshLine.addText "<li>")).addText "</li>\n")

end

/-- The markup of a Markdown text. -/
def render (text : String) : String :=
  let source : Source := text.toList.toArray
  let (blocks, definitions) := readDocument source
  let renderProse (prose : Prose) : List Char :=
    inlinesMarkup (prose.resolve source definitions)
  String.ofList (writeBlocks renderProse false blocks []).reverse

end LessonSite.Markdown
