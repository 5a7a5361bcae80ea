import LessonSite.Markdown.Piece

/-!
# Blocks

The blocks of a Markdown text.  Running text stays in pieces, since a link may
refer to a definition that stands further down; all other content is settled
here.
-/

namespace LessonSite.Markdown

/-- Running text in pieces, with what is needed to resolve them: where the block
ends, the containers around it, and whether it is a cell of a table. -/
structure Prose where
  pieces : List Piece
  stop : Nat
  containers : List Container
  inTable : Bool
  deriving Repr

/-- A block of a Markdown text. -/
inductive Block where
  | paragraph (prose : Prose)
  | heading (level : Nat) (prose : Prose)
  /-- Code as it stands, with the info string of its fence if it has one. -/
  | code (info : Option String) (text : String)
  | html (text : String)
  | rule
  | quote (children : List Block)
  /-- A list; a numbered one has the number of its first item. -/
  | list (number : Option Nat) (tight : Bool) (items : List (List Block))
  | table (columns : List Alignment) (head : List Prose)
      (rows : List (List Prose))
  deriving Repr, Inhabited

/-- A container that is still open, with its content so far, latest first. -/
inductive Frame where
  | quote (children : List Block)
  | list (tight : Bool) (mark : Char) (number : Nat) (items : List (List Block))
  | item (indent : Nat) (children : List Block)
  deriving Repr

/-- The state of the block reader: the open containers from the inside out, the
finished blocks outside them, and what the last lines were. -/
structure Outline where
  frames : List Frame
  finished : List Block
  definitions : List Definition
  /-- The innermost item has had nothing yet but blank lines. -/
  itemPending : Bool
  lastBlank : Bool
  deriving Repr

namespace Outline

/-- The state before the first line. -/
def empty : Outline := ⟨[], [], [], false, false⟩

/-- The open containers, outermost first. -/
def containers (outline : Outline) : List Container :=
  (outline.frames.filterMap fun frame => match frame with
    | .quote _ => some .quote
    | .list .. => none
    | .item indent _ => some (.item indent)).reverse

/-- Adds a block to the innermost container. -/
def add (outline : Outline) (block : Block) : Outline :=
  match outline.frames with
  | .quote children :: rest =>
      { outline with frames := .quote (block :: children) :: rest }
  | .item indent children :: rest =>
      { outline with frames := .item indent (block :: children) :: rest }
  | _ => { outline with finished := block :: outline.finished }

/-- Closes the innermost container. -/
def close (outline : Outline) : Outline :=
  match outline.frames with
  | [] => outline
  | .quote children :: rest =>
      { outline with frames := rest }.add (.quote children.reverse)
  | .list tight mark number items :: rest =>
      let number := if mark = '.' || mark = ')' then some number else none
      let closed :=
        { outline with frames := rest }.add (.list number tight items.reverse)
      if tight then { closed with itemPending := false } else closed
  | .item _ children :: .list tight mark number items :: rest =>
      { outline with
        frames := .list tight mark number (children.reverse :: items) :: rest }
  | .item _ children :: rest =>
      { outline with frames := rest }.add (.list none true [children.reverse])

/-- Closes containers until no more than the given number of quotes and items
are open. -/
def closeTo (entered : Nat) : (fuel : Nat) → Outline → Outline
  | 0, outline => outline
  | fuel + 1, outline =>
      if outline.containers.length ≤ entered then
        outline
      else closeTo entered fuel outline.close

/-- The innermost container is a list item. -/
def insideItem (outline : Outline) : Bool :=
  match outline.frames with
  | .item .. :: _ => true
  | _ => false

/-- Closes a list item that has had nothing but blank lines. -/
def finishEmptyItem (outline : Outline) : Outline :=
  let closed :=
    if outline.itemPending && outline.lastBlank && outline.insideItem then
      outline.close
    else outline
  { closed with itemPending := false }

/-- Closes a list in which no item is open, and marks the list around a block
that follows a blank line as loose. -/
def finishList (outline : Outline) : Outline :=
  let outline := outline.finishEmptyItem
  let outline := match outline.frames with
    | .list .. :: _ => { outline.close with itemPending := false }
    | _ => outline
  if outline.lastBlank then
    let frames := match outline.frames with
      | inner :: .list _ mark number items :: rest =>
          inner :: .list false mark number items :: rest
      | frames => frames
    { outline with frames, lastBlank := false }
  else outline

/-- Makes a list with the given mark the innermost container, the open one if
its mark is the same. -/
def continueList (outline : Outline) (mark : Char) (number : Nat) : Outline :=
  let outline := outline.finishEmptyItem
  let fresh (outline : Outline) : Outline :=
    { outline with
      frames := .list true mark number [] :: outline.frames,
        lastBlank := false }
  match outline.frames with
  | .list tight openMark openNumber items :: rest =>
      if openMark = mark then
        { outline with
          frames :=
            .list (tight && !outline.lastBlank) openMark openNumber
              items :: rest
          lastBlank := false }
      else fresh outline.finishList
  | [] => fresh outline
  | _ => fresh outline.finishList

/-- Takes note of a blank line.  An item that has had nothing but blank lines
takes no indented content any more. -/
def blankLine (outline : Outline) : Outline :=
  match outline.frames with
  | .quote _ :: _ => outline
  | .item _ children :: rest =>
      if outline.itemPending then
        { outline with frames := .item 0 children :: rest, lastBlank := true }
      else { outline with lastBlank := true }
  | _ => { outline with lastBlank := true }

/-- Closes the given number of containers. -/
def closeMany : (count : Nat) → Outline → Outline
  | 0, outline => outline
  | count + 1, outline => closeMany count outline.close

/-- Closes all containers and gives the blocks of the text. -/
def finish (outline : Outline) : List Block :=
  (closeMany outline.frames.length outline).finished.reverse

end Outline

end LessonSite.Markdown
