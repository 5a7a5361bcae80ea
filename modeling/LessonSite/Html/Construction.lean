import LessonSite.Html.Category

/-!
# The state of reading a document

Tokens are placed one after the other.  The state holds the store, the open
elements from the innermost outwards, the formatting elements that reopen by
themselves, and the mode that says which rules apply.  This module holds the
state and the moves that the rules are made of.
-/

namespace LessonSite.Html

/-- Which rules apply to the next token. -/
inductive Mode where
  | initial
  | beforeHtml
  | beforeHead
  | inHead
  | afterHead
  | inBody
  | inLiteral
  | inTable
  | inTableText
  | inCaption
  | inColumnGroup
  | inTableBody
  | inRow
  | inCell
  | inSelect
  | inTableSelect
  | inTemplate
  | afterBody
  | inFrameset
  | afterFrameset
  | afterDocument
  | afterFramesetDocument
deriving Repr, DecidableEq, Inhabited

/-- An entry of the list of formatting elements. -/
inductive Formatting where
  | marker
  | element (node : Nat) (tag : Tag)
deriving Repr, DecidableEq, Inhabited

/-- The state. -/
structure Construction where
  dom : Dom
  mode : Mode
  /-- The mode to return to after literal text or text in a table. -/
  returnMode : Mode
  /-- The open elements, the innermost first. -/
  opened : List Nat
  /-- The formatting elements, the newest first. -/
  formatting : List Formatting
  /-- The modes of the open templates, the innermost first. -/
  templateModes : List Mode
  head : Option Nat
  form : Option Nat
  framesetAllowed : Bool
  /-- Misplaced content of a table goes in front of it. -/
  fostering : Bool
  /-- A line feed right after the current tag is dropped. -/
  dropsLineFeed : Bool
  /-- A table does not close a paragraph. -/
  oldLayout : Bool
  /-- Text of a table that is not placed yet, the last character first. -/
  pending : List Char
  /-- All that follows is text. -/
  plain : Bool
deriving Inhabited

/-- A token is placed, or it is to be looked at again in the mode that has been
set. -/
inductive Outcome where
  | placed (state : Construction)
  | again (state : Construction)

namespace Construction

/-- Reading has not begun; position zero is the document. -/
def empty : Construction where
  dom := ⟨#[⟨.root, none, []⟩]⟩
  mode := .initial
  returnMode := .initial
  opened := []
  formatting := []
  templateModes := []
  head := none
  form := none
  framesetAllowed := true
  fostering := false
  dropsLineFeed := false
  oldLayout := false
  pending := []
  plain := false

variable (state : Construction)

def withMode (mode : Mode) : Construction :=
  { state with mode }

/-- A frameset may no longer replace the body. -/
def noFrameset : Construction :=
  { state with framesetAllowed := false }

def current : Nat :=
  state.opened.headD 0

/-- The name of a node; a node that is no element counts as a nameless
element. -/
def nameOf (node : Nat) : ElementName :=
  (state.dom.nameOf node).getD ⟨.html, ""⟩

/-- The name of the innermost open element. -/
def currentName : ElementName :=
  state.nameOf state.current

/-- The innermost open element is a common element of the given name. -/
def currentIs (name : String) : Bool :=
  state.currentName.isHtml name

/-- Some open element is a common element of the given name. -/
def hasOpen (name : String) : Bool :=
  state.opened.any fun node => (state.nameOf node).isHtml name

def outermost : Nat :=
  state.opened.getLastD 0

def body? : Option Nat :=
  match state.opened.reverse with
  | _ :: second :: _ =>
      if (state.nameOf second).isHtml "body" then some second else none
  | _ => none

/-- Closes the innermost element. -/
def pop : Construction :=
  { state with opened := state.opened.drop 1 }

/-- The open elements after all up to the first of a kind have been closed. -/
def openedAfter (isKind : ElementName → Bool) : Construction :=
  { state with
    opened :=
      (state.opened.dropWhile fun node => !isKind (state.nameOf node)).drop 1 }

/-- Closes elements until one of the given name has been closed. -/
def closeThrough (name : String) : Construction :=
  state.openedAfter fun element => element.isHtml name

/-- Closes elements until the innermost one is of a kind. -/
def closeUpTo (isKind : ElementName → Bool) : Construction :=
  { state with
    opened := state.opened.dropWhile fun node => !isKind (state.nameOf node) }

/-- Closes elements as long as they are of a kind. -/
def closeWhile (isKind : ElementName → Bool) : Construction :=
  { state with
    opened := state.opened.dropWhile fun node => isKind (state.nameOf node) }

/-- Closes the elements that close by themselves. -/
def closeImplied : Construction :=
  state.closeWhile ElementName.closesItself

/-- Closes the elements that close by themselves, except those of one name. -/
def closeImpliedExcept (name : String) : Construction :=
  state.closeWhile fun element => element.closesItself && !element.isHtml name

/-- Looks from the innermost element outwards for a wanted one, up to a
boundary. -/
def inScope (boundary : ElementName → Bool) (wanted : Nat → Bool) : Bool :=
  search state.opened
where
  /-- The search through the remaining elements. -/
  search : List Nat → Bool
    | [] => false
    | node :: rest =>
        if wanted node then true
        else if boundary (state.nameOf node) then false
        else search rest

/-- An element of the given name is open within a boundary. -/
def nameInScope (boundary : ElementName → Bool) (name : String) : Bool :=
  state.inScope boundary fun node => (state.nameOf node).isHtml name

/-- An element of a kind is open within a boundary. -/
def kindInScope (boundary isKind : ElementName → Bool) : Bool :=
  state.inScope boundary fun node => isKind (state.nameOf node)

/-- Closes the innermost paragraph. -/
def closeParagraph : Construction :=
  (state.closeImpliedExcept "p").closeThrough "p"

/-- Closes the innermost paragraph, if one is open here. -/
def closeOpenParagraph : Construction :=
  if state.nameInScope ElementName.endsButtonScope "p" then
    state.closeParagraph
  else state

/-- Takes an element off the open ones, wherever it is among them. -/
def removeOpen (node : Nat) : Construction :=
  { state with opened := state.opened.erase node }

/-- Where a node goes. -/
inductive Place where
  | lastIn (parent : Nat)
  | before (parent sibling : Nat)

/-- Where misplaced content of a table goes. -/
def fosterPlace : List Nat → Place
  | [] => .lastIn state.outermost
  | node :: rest =>
      if (state.nameOf node).isHtml "template" then
        .lastIn (state.dom.childHolder node)
      else if (state.nameOf node).isHtml "table" then
        match (state.dom.get node).parent with
        | some parent => .before parent node
        | none => .lastIn (rest.headD 0)
      else fosterPlace rest

/-- Where a child of an element goes. -/
def placeFor (target : Nat) : Place :=
  if state.fostering && (state.nameOf target).isTableFrame then
    state.fosterPlace state.opened
  else .lastIn (state.dom.childHolder target)

/-- Puts a parentless node where a child of an element goes. -/
def attach (target node : Nat) : Construction :=
  match state.placeFor target with
  | .lastIn parent => { state with dom := state.dom.append parent node }
  | .before parent sibling =>
      { state with dom := state.dom.insertBefore parent sibling node }

/-- Puts a character into the innermost element. -/
def attachCharacter (character : Char) : Construction :=
  match state.placeFor state.current with
  | .lastIn parent =>
      { state with dom := state.dom.appendCharacter parent character }
  | .before parent sibling =>
      { state with
        dom := state.dom.insertCharacterBefore parent sibling character }

/-- Adds an element to the innermost one without opening it. -/
def place (vocabulary : Vocabulary) (name : String)
    (attributes : List Attribute) :
    Nat × Construction :=
  let (node, dom) := state.dom.createElement ⟨vocabulary, name⟩ attributes
  (node, { state with dom }.attach state.current node)

/-- Adds an element to the innermost one and opens it. -/
def openForeign (vocabulary : Vocabulary) (name : String)
    (attributes : List Attribute) :
    Construction :=
  let (node, placed) := state.place vocabulary name attributes
  { placed with opened := node :: placed.opened }

/-- Opens the common element that a tag stands for. -/
def openTag (tag : Tag) : Construction :=
  state.openForeign .html tag.name tag.attributes

/-- Opens a common element for which no tag stands. -/
def openImplied (name : String) : Construction :=
  state.openForeign .html name []

/-- Adds an element that has no content. -/
def addEmpty (tag : Tag) : Construction :=
  (state.place .html tag.name tag.attributes).2

/-- Opens an element whose text is literal. -/
def openLiteral (tag : Tag) : Construction :=
  { state.openTag tag with mode := .inLiteral, returnMode := state.mode }

def openRoot (attributes : List Attribute) : Construction :=
  let (node, dom) := state.dom.createElement ⟨.html, "html"⟩ attributes
  { state with dom := dom.append 0 node, opened := [node] }

/-- How the text up to the next token is read. -/
def textKind : TextKind :=
  if state.plain then .plain
  else if state.mode = .inLiteral then
    let name := state.currentName.name
    if ["title", "textarea"].contains name then .referenced name
    else if name == "script" then .script
    else .literal name
  else .markup

/-- The innermost element belongs to a foreign vocabulary. -/
def inForeign : Bool :=
  state.opened.headD 0 != 0 && state.currentName.vocabulary ≠ .html

/-- The mode that fits the open elements. -/
def fittingMode : Mode :=
  search state.opened
where
  /-- The search from the innermost element outwards. -/
  search : List Nat → Mode
    | [] => .inBody
    | node :: rest =>
        let element := state.nameOf node
        let outermost := rest.isEmpty
        if element.vocabulary ≠ .html then search rest
        else if element.name == "select" then selectMode rest
        else if element.isCell && !outermost then .inCell
        else if element.name == "tr" then .inRow
        else if ["tbody", "thead", "tfoot"].contains element.name then
          .inTableBody
        else if element.name == "caption" then .inCaption
        else if element.name == "colgroup" then .inColumnGroup
        else if element.name == "table" then .inTable
        else if element.name == "template" then
          state.templateModes.headD .inBody
        else if element.name == "head" && !outermost then .inHead
        else if element.name == "body" then .inBody
        else if element.name == "frameset" then .inFrameset
        else if element.name == "html" then
          if state.head.isNone then .beforeHead else .afterHead
        else search rest
  /-- A selection in a table is read differently. -/
  selectMode : List Nat → Mode
    | [] => .inSelect
    | node :: rest =>
        if (state.nameOf node).isHtml "template" then .inSelect
        else if (state.nameOf node).isHtml "table" then .inTableSelect
        else selectMode rest

/-- Sets the mode that fits the open elements. -/
def refit : Construction :=
  state.withMode state.fittingMode

end Construction

end LessonSite.Html
