import LessonSite.Html.Token

/-!
# Documents under construction

While a document is read, elements are moved about, so its nodes are kept in a
store and refer to each other by their position in it.  A finished document is a
tree, `Node`, read off the store.
-/

namespace LessonSite.Html

/-- The vocabulary an element belongs to. -/
inductive Vocabulary where
  | html
  | svg
  | math
deriving Repr, DecidableEq, Inhabited

/-- The name of an element. -/
structure ElementName where
  vocabulary : Vocabulary
  name : String
deriving Repr, DecidableEq, Inhabited

/-- A finished node; comments leave none, and what a template holds does not
belong to the document. -/
inductive Node where
  | element (name : ElementName) (attributes : List Attribute)
      (children : List Node)
  | text (content : String)
deriving Repr, Inhabited

/-- What a node of the store is. -/
inductive NodeKind where
  /-- The document, or the contents of a template. -/
  | root
  | element (name : ElementName) (attributes : List Attribute)
      (contents : Option Nat)
  | text (content : String)
deriving Repr, DecidableEq, Inhabited

/-- A node of the store. -/
structure StoredNode where
  kind : NodeKind
  parent : Option Nat := none
  children : List Nat := []
deriving Repr, Inhabited

/-- The store. -/
structure Dom where
  nodes : Array StoredNode := #[]
deriving Repr, Inhabited

namespace Dom

/-- The node at a position; outside the store everything is an empty root. -/
def get (dom : Dom) (node : Nat) : StoredNode :=
  dom.nodes.getD node ⟨.root, none, []⟩

def modify (dom : Dom) (node : Nat) (change : StoredNode → StoredNode) : Dom :=
  ⟨dom.nodes.modify node change⟩

/-- Adds a node without a parent. -/
def create (dom : Dom) (kind : NodeKind) : Nat × Dom :=
  (dom.nodes.size, ⟨dom.nodes.push ⟨kind, none, []⟩⟩)

/-- The name of an element; other nodes have none. -/
def nameOf (dom : Dom) (node : Nat) : Option ElementName :=
  match (dom.get node).kind with
  | .element name _ _ => some name
  | _ => none

/-- The attributes of an element. -/
def attributesOf (dom : Dom) (node : Nat) : List Attribute :=
  match (dom.get node).kind with
  | .element _ attributes _ => attributes
  | _ => []

/-- Adds an element; a template also gets a root for its contents. -/
def createElement (dom : Dom) (name : ElementName)
    (attributes : List Attribute) : Nat × Dom :=
  if name = ⟨.html, "template"⟩ then
    let (contents, dom) := dom.create .root
    dom.create (.element name attributes (some contents))
  else dom.create (.element name attributes none)

/-- Where children given to an element go: into the contents of a template. -/
def childHolder (dom : Dom) (node : Nat) : Nat :=
  match (dom.get node).kind with
  | .element _ _ (some contents) => contents
  | _ => node

/-- Takes a node away from its parent. -/
def detach (dom : Dom) (node : Nat) : Dom :=
  match (dom.get node).parent with
  | none => dom
  | some parent =>
      (dom.modify parent fun stored =>
          { stored with children := stored.children.erase node }).modify
        node fun stored => { stored with parent := none }

/-- Makes a node the last child of another. -/
def append (dom : Dom) (parent node : Nat) : Dom :=
  (dom.modify parent fun stored =>
      { stored with children := stored.children ++ [node] }).modify
    node fun stored => { stored with parent := some parent }

/-- A list with an entry put before the first occurrence of another. -/
def insertBeforeEntry (sibling node : Nat) : List Nat → List Nat
  | [] => [node]
  | first :: rest =>
      if first = sibling then node :: first :: rest
      else first :: insertBeforeEntry sibling node rest

/-- Puts a node right before another one under the same parent. -/
def insertBefore (dom : Dom) (parent sibling node : Nat) : Dom :=
  (dom.modify parent fun stored =>
    { stored with
      children := insertBeforeEntry sibling node stored.children }).modify
      node fun stored => { stored with parent := some parent }

/-- Adds a character to a text node; `false` if the node is no text. -/
def extendText (dom : Dom) (node : Nat) (character : Char) : Dom :=
  dom.modify node fun stored =>
    match stored.kind with
    | .text content => { stored with kind := .text (content.push character) }
    | _ => stored

def isText (dom : Dom) (node : Nat) : Bool :=
  match (dom.get node).kind with
  | .text _ => true
  | _ => false

/-- Adds a character at the end of a node. -/
def appendCharacter (dom : Dom) (parent : Nat) (character : Char) : Dom :=
  match (dom.get parent).children.getLast? with
  | some last =>
      if dom.isText last then dom.extendText last character
      else
        let (node, dom) := dom.create (.text (String.singleton character))
        dom.append parent node
  | none =>
      let (node, dom) := dom.create (.text (String.singleton character))
      dom.append parent node

/-- The entry right before the first occurrence of another. -/
def entryBefore (sibling : Nat) : List Nat → Option Nat
  | first :: second :: rest =>
      if second = sibling then
        some first
      else entryBefore sibling (second :: rest)
  | _ => none

/-- Adds a character right before a node. -/
def insertCharacterBefore (dom : Dom) (parent sibling : Nat)
    (character : Char) : Dom :=
  match (entryBefore sibling (dom.get parent).children).filter dom.isText with
  | some previous => dom.extendText previous character
  | none =>
      let (node, dom) := dom.create (.text (String.singleton character))
      dom.insertBefore parent sibling node

/-- Moves all children of a node to the end of another. -/
def moveChildren (dom : Dom) (source target : Nat) : Dom :=
  (dom.get source).children.foldl
    (fun dom child => (dom.detach child).append target child) dom

/-- Adds those attributes that an element does not have yet. -/
def addAttributes (dom : Dom) (node : Nat) (added : List Attribute) : Dom :=
  dom.modify node fun stored =>
    match stored.kind with
    | .element name attributes contents =>
        let missing :=
          added.filter fun entry =>
            (Attribute.find? attributes entry.name).isNone
        { stored with kind := .element name (attributes ++ missing) contents }
    | _ => stored

/-- The trees below the children of a node, down to the given depth. -/
def treesOf (dom : Dom) : (depth node : Nat) → List Node
  | 0, _ => []
  | depth + 1, node =>
      (dom.get node).children.map fun child =>
        match (dom.get child).kind with
        | .root => .text ""
        | .element name attributes _ =>
            .element name attributes (dom.treesOf depth child)
        | .text content => .text content

/-- The finished trees below a node; no tree is deeper than the store is
large. -/
def toNodes (dom : Dom) (node : Nat) : List Node :=
  dom.treesOf dom.nodes.size node

end Dom

end LessonSite.Html
