import LessonSite.Html.Dom

/-!
# Kinds of elements

The sets of element names on which the reading of a document depends: what an
element closes, what it is looked up within, and where foreign vocabularies give
way to the common one.
-/

namespace LessonSite.Html

namespace ElementName

/-- The common element of the given name. -/
def isHtml (element : ElementName) (name : String) : Bool :=
  element.vocabulary = .html && element.name == name

/-- A common element with one of the given names. -/
def isOneOf (names : List String) (element : ElementName) : Bool :=
  element.vocabulary = .html && names.contains element.name

/-- Foreign elements of mathematics that hold common text. -/
def holdsMathText (element : ElementName) : Bool :=
  element.vocabulary = .math &&
    ["mi", "mo", "mn", "ms", "mtext"].contains element.name

/-- Foreign elements of graphics that hold common elements. -/
def holdsCommon (element : ElementName) : Bool :=
  element.vocabulary = .svg &&
    ["foreignObject", "desc", "title"].contains element.name

/-- Where the search for an open element ends. -/
def endsScope (element : ElementName) : Bool :=
  element.isOneOf
    ["applet", "caption", "html", "table", "td", "th", "marquee", "object",
      "template"] || element.holdsMathText || element.holdsCommon

/-- Where the search for an open list item ends. -/
def endsListScope (element : ElementName) : Bool :=
  element.endsScope || element.isOneOf ["ol", "ul"]

/-- Where the search for an open paragraph ends. -/
def endsButtonScope (element : ElementName) : Bool :=
  element.endsScope || element.isHtml "button"

/-- Where the search for an open part of a table ends. -/
def endsTableScope (element : ElementName) : Bool :=
  element.isOneOf ["html", "table", "template"]

/-- Where the search for an open selection ends. -/
def endsSelectScope (element : ElementName) : Bool :=
  !element.isOneOf ["optgroup", "option"]

/-- Elements that hold the groups of rows of a table. -/
def holdsRows (element : ElementName) : Bool :=
  element.isOneOf ["tbody", "tfoot", "thead", "template", "html"]

/-- Elements that hold the cells of a table. -/
def holdsCells (element : ElementName) : Bool :=
  element.isOneOf ["tr", "template", "html"]

def isCell (element : ElementName) : Bool :=
  element.isOneOf ["td", "th"]

/-- Elements that close by themselves. -/
def closesItself (element : ElementName) : Bool :=
  element.isOneOf
    ["dd", "dt", "li", "option", "optgroup", "p", "rb", "rp", "rt", "rtc"]

/-- Elements that close by themselves at the end of a template. -/
def closesWithTemplate (element : ElementName) : Bool :=
  element.closesItself ||
    element.isOneOf ["caption", "colgroup", "tbody", "td", "tfoot", "th",
      "thead", "tr"]

def isHeading (element : ElementName) : Bool :=
  element.isOneOf ["h1", "h2", "h3", "h4", "h5", "h6"]

/-- Elements that text must not stand in directly. -/
def isTableFrame (element : ElementName) : Bool :=
  element.isOneOf ["table", "tbody", "tfoot", "thead", "tr"]

/-- Elements that a stray closing tag does not reach across. -/
def isSpecial (element : ElementName) : Bool :=
  element.isOneOf
    ["address", "applet", "area", "article", "aside", "base", "basefont",
      "bgsound", "blockquote", "body", "br", "button", "caption", "center",
      "col", "colgroup", "dd", "details", "dir", "div", "dl", "dt", "embed",
      "fieldset", "figcaption", "figure", "footer", "form", "frame", "frameset",
      "h1", "h2", "h3", "h4", "h5", "h6", "head", "header", "hgroup", "hr",
      "html", "iframe", "img", "input", "isindex", "li", "link", "listing",
      "main", "marquee", "menu", "meta", "nav", "noembed", "noframes",
      "noscript", "object", "ol", "p", "param", "plaintext", "pre", "script",
      "section", "select", "source", "style", "summary", "table", "tbody", "td",
      "template", "textarea", "tfoot", "th", "thead", "title", "tr", "track",
      "ul", "wbr", "xmp"]

end ElementName

/-- Tags that lead out of a foreign vocabulary. -/
def breaksOut (tag : Tag) : Bool :=
  ["b", "big", "blockquote", "body", "br", "center", "code", "dd", "div", "dl",
    "dt", "em", "embed", "h1", "h2", "h3", "h4", "h5", "h6", "head", "hr", "i",
    "img", "li", "listing", "menu", "meta", "nobr", "ol", "p", "pre", "ruby",
    "s", "small", "span", "strong", "strike", "sub", "sup", "table", "tt", "u",
    "ul", "var"].contains tag.name ||
  (tag.name == "font" && tag.attributes.any fun entry =>
    ["color", "face", "size"].contains entry.name)

/-- Element names of graphics whose case differs from that of the tag. -/
def graphicsNames : List String :=
  ["altGlyph", "altGlyphDef", "altGlyphItem", "animateColor", "animateMotion",
    "animateTransform", "clipPath", "feBlend", "feColorMatrix",
    "feComponentTransfer", "feComposite", "feConvolveMatrix",
    "feDiffuseLighting", "feDisplacementMap", "feDistantLight", "feDropShadow",
    "feFlood", "feFuncA", "feFuncB", "feFuncG", "feFuncR", "feGaussianBlur",
    "feImage", "feMerge", "feMergeNode", "feMorphology", "feOffset",
    "fePointLight", "feSpecularLighting", "feSpotLight", "feTile",
    "feTurbulence", "foreignObject", "glyphRef", "linearGradient",
    "radialGradient", "textPath"]

/-- The name of a graphics element that a tag opens. -/
def graphicsName (name : String) : String :=
  (graphicsNames.find? fun proper => Text.lowerAscii proper == name).getD name

/-- Attributes of foreign elements that are known by their local name. -/
def foreignAttributeName (name : String) : String :=
  ((["xlink:actuate", "xlink:arcrole", "xlink:href", "xlink:role", "xlink:show",
    "xlink:title", "xlink:type", "xml:lang", "xml:space", "xmlns:xlink"].find?
    (· == name)).map fun known =>
      String.ofList ((known.toList.dropWhile (· != ':')).drop 1)).getD name

/-- The attributes of a foreign element. -/
def foreignAttributes (attributes : List Attribute) : List Attribute :=
  attributes.map fun entry =>
    { entry with name := foreignAttributeName entry.name }

/-- An annotation of mathematics that holds common elements. -/
def holdsCommonInMath (element : ElementName)
    (attributes : List Attribute) : Bool :=
  element = ⟨.math, "annotation-xml"⟩ &&
    match Attribute.find? attributes "encoding" with
    | some encoding =>
        ["text/html", "application/xhtml+xml"].contains
          (Text.lowerAscii encoding)
    | none => false

end LessonSite.Html
