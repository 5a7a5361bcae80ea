import LessonSite.Text.Parts

/-!
# Tokens of a marked-up text

A text with markup is a sequence of tokens: single characters, tags and the few
marks that shape the document without standing in it.  Which text follows a tag
literally depends on the element that the tag opened, so the kind of text is
part of the question "what is the next token".
-/

namespace LessonSite.Html

/-- A name in a tag together with its value; both are already decoded. -/
structure Attribute where
  name : String
  value : String
deriving Repr, DecidableEq, Inhabited

/-- An opening tag. -/
structure Tag where
  name : String
  attributes : List Attribute
  selfClosing : Bool
deriving Repr, DecidableEq, Inhabited

/-- One token. -/
inductive Token where
  | character (character : Char)
  | opening (tag : Tag)
  | closing (name : String)
  | comment
  | doctype (quirks : Bool)
  | finish
deriving Repr, DecidableEq, Inhabited

/-- How the characters up to the next token are read. -/
inductive TextKind where
  /-- Tags, comments and character references count. -/
  | markup
  /-- Character references and the closing tag of the element count. -/
  | referenced (name : String)
  /-- Only the closing tag of the element counts. -/
  | literal (name : String)
  /-- Only the closing tag counts, and not inside a commented-out inner
  script. -/
  | script
  /-- Nothing counts up to the end of the text. -/
  | plain
deriving Repr, DecidableEq, Inhabited

/-- The blanks that separate the parts of a tag. -/
def isSpace (character : Char) : Bool :=
  character == ' ' || character == '\t' || character == '\n' ||
    character == '\x0c'

/-- The blanks that a document may begin with. -/
def isGap (character : Char) : Bool :=
  isSpace character || character == '\r'

/-- A NUL in a name or a value is shown by the replacement character. -/
def replaceNul (character : Char) : Char :=
  if character = '\x00' then '\ufffd' else character

def isLetter (character : Char) : Bool :=
  ('a' ≤ character && character ≤ 'z') || ('A' ≤ character && character ≤ 'Z')

/-- A name as it is compared: small ASCII letters and no NUL. -/
def foldName (characters : List Char) : String :=
  String.ofList
    (characters.map fun character => Text.toLowerAscii (replaceNul character))

/-- The value of the first attribute of a name. -/
def Attribute.find? (attributes : List Attribute) (name : String) :
    Option String :=
  (attributes.find? fun entry => entry.name == name).map Attribute.value

/-- Of several attributes of one name only the first counts. -/
def Attribute.distinct : List Attribute → List Attribute
  | [] => []
  | first :: rest =>
      first ::
        (Attribute.distinct rest).filter fun entry => entry.name != first.name

end LessonSite.Html
