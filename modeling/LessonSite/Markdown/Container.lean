import LessonSite.Markdown.Source

/-!
# Containers and the start of a line

Block quotes and list items contain other blocks, and every line of a contained
block begins with the marks of its containers.  A `Cursor` walks over the start
of a line column by column: a tab that is only partly used up leaves columns
behind that count as spaces.
-/

namespace LessonSite.Markdown

/-- A block that contains blocks: a quote, or a list item with its width of
indentation. -/
inductive Container where
  | quote
  | item (indent : Nat)
  deriving DecidableEq, Repr

/-- A place at the start of a line. -/
structure Cursor where
  position : Nat
  tabStart : Nat
  pending : Nat
  deriving Repr

namespace Cursor

/-- The start of the line at a position. -/
def start (position : Nat) : Cursor :=
  { position, tabStart := position, pending := 0 }

/-- Walks over at most `columns` columns of space; also gives the columns it did
not find. -/
def takeColumns (source : Source) (cursor : Cursor) (columns : Nat) :
    Cursor × Nat :=
  let fromPending := min cursor.pending columns
  walk { cursor with pending := cursor.pending - fromPending }
    (columns - fromPending)
where
  walk (cursor : Cursor) (columns : Nat) : Cursor × Nat :=
    if columns = 0 then (cursor, 0)
    else if inside : cursor.position < source.size then
      match source[cursor.position] with
      | ' ' =>
          walk { cursor with position := cursor.position + 1 } (columns - 1)
      | '\t' =>
          let width := 4 - (cursor.position - cursor.tabStart) % 4
          let taken := min width columns
          walk
            { position := cursor.position + 1, tabStart := cursor.position + 1,
              pending := width - taken }
            (columns - taken)
      | _ => (cursor, columns)
    else (cursor, columns)
  termination_by source.size - cursor.position

/-- Walks over as many columns of space as there are, up to `columns`, and
counts them. -/
def takeUpTo (source : Source) (cursor : Cursor) (columns : Nat) :
    Cursor × Nat :=
  let (cursor, missing) := cursor.takeColumns source columns
  (cursor, columns - missing)

/-- Walks over `columns` columns of space and tells whether all were there. -/
def takeExactly (source : Source) (cursor : Cursor) (columns : Nat) :
    Cursor × Bool :=
  let (cursor, missing) := cursor.takeColumns source columns
  (cursor, missing = 0)

/-- Walks over all spaces and tabs. -/
def skipSpace (source : Source) (cursor : Cursor) : Cursor :=
  { cursor with
    pending := 0
    position :=
      source.skipWhile (fun character => character = ' ' || character = '\t')
        cursor.position }

def atLineEnd (source : Source) (cursor : Cursor) : Bool :=
  match source[cursor.position]? with
  | none => true
  | some character => isLineBreak character

/-- Walks over the mark of a quote and the space after it. -/
def quoteMark? (source : Source) (cursor : Cursor) : Option Cursor :=
  if source.hasAt cursor.position '>' then
    some
      ({ cursor with position := cursor.position + 1 }.takeExactly source 1).1
  else none

/-- Walks over the start that a line must have to belong to a container. -/
def enter? (source : Source) (cursor : Cursor) : Container → Option Cursor
  | .quote => (cursor.takeExactly source 3).1.quoteMark? source
  | .item indent =>
      let (entered, complete) := cursor.takeExactly source indent
      if complete || entered.atLineEnd source then some entered else none

/-- Walks over the marks of containers, outermost first, as far as they are
there; also gives the number of containers entered. -/
def enterAll (source : Source) (cursor : Cursor) : List Container → Cursor × Nat
  | [] => (cursor, 0)
  | container :: containers =>
      match cursor.enter? source container with
      | none => (cursor, 0)
      | some cursor =>
          let (cursor, entered) := cursor.enterAll source containers
          (cursor, entered + 1)

end Cursor

/-- The position after the marks of the containers at the start of a line, as
far as they are there. -/
def skipMarks (source : Source) (containers : List Container)
    (position : Nat) : Nat :=
  ((Cursor.start position).enterAll source containers).1.position

/-- The position after the marks of all containers, if all are there. -/
def insideAll? (source : Source) (containers : List Container)
    (position : Nat) : Option Cursor :=
  let (cursor, entered) := (Cursor.start position).enterAll source containers
  if entered = containers.length then some cursor else none

end LessonSite.Markdown
