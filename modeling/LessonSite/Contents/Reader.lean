import LessonSite.Contents.Basic
import LessonSite.Html.Document

/-!
# Reading a table of contents

The outermost elements of the chapter class are the chapters.  Within one,
titles and links are told by their classes; nothing is looked for inside a title
or a link.
-/

namespace LessonSite

namespace Html.Node

/-- The value of an attribute of an element. -/
def attribute? (name : String) : Node → Option String
  | .element _ attributes _ => Attribute.find? attributes name
  | .text _ => none

def classWords (value : String) : List String :=
  (words [] value.toList).filter (· != "")
where
  /-- The texts between blanks, empty ones included. -/
  words (word : List Char) : List Char → List String
    | [] => [String.ofList word.reverse]
    | character :: rest =>
        if isGap character then String.ofList word.reverse :: words [] rest
        else words (character :: word) rest

/-- The node is an element of a class. -/
def hasClass (name : String) (node : Node) : Bool :=
  (node.attribute? "class").any fun value => (classWords value).contains name

mutual

def textContent : Node → String
  | .text content => content
  | .element _ _ children => allTextContent children

/-- The text within several nodes. -/
def allTextContent : List Node → String
  | [] => ""
  | node :: nodes => textContent node ++ allTextContent nodes

end

/-- The text within a node without the blanks around it. -/
def label (node : Node) : String :=
  Text.trim node.textContent

/-- The link that an element of the link class stands for. -/
def toLink (node : Node) : ContentsLink where
  label := node.label
  href := (node.attribute? "href").getD ""
  active := false

mutual

/-- Adds to a chapter what a node within it says. -/
def addTo (chapter : ContentsChapter) : Node → ContentsChapter
  | .text _ => chapter
  | .element name attributes children =>
      let node := Node.element name attributes children
      if node.hasClass "toc-chapter-title" then
        { chapter with title := node.label }
      else if node.hasClass "toc-link" then
        { chapter with links := chapter.links ++ [node.toLink] }
      else
        addAllTo
          (if node.hasClass "toc-sections" then
            { chapter with expanded := !node.hasClass "hidden" }
          else chapter)
          children

/-- Adds to a chapter what the nodes within it say. -/
def addAllTo (chapter : ContentsChapter) : List Node → ContentsChapter
  | [] => chapter
  | node :: nodes => addAllTo (addTo chapter node) nodes

end

mutual

def chapters : Node → List ContentsChapter
  | .text _ => []
  | .element name attributes children =>
      if (Node.element name attributes children).hasClass "toc-chapter" then
        [addAllTo { title := "", links := [], expanded := true } children]
      else allChapters children

/-- The chapters in several nodes. -/
def allChapters : List Node → List ContentsChapter
  | [] => []
  | node :: nodes => chapters node ++ allChapters nodes

end

end Html.Node

/-- The table of contents in a document. -/
def Contents.ofDocument (document : List Html.Node) : Contents where
  chapters := Html.Node.allChapters document

/-- The table of contents in a text with markup; what stands outside of chapters
is ignored. -/
def Contents.parse (text : String) : Contents :=
  Contents.ofDocument (Html.parse text)

end LessonSite
