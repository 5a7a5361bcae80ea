import LessonSite.Markdown.Leaf

/-!
# Reading blocks

The outline of a text, line by line: the containers a line continues, the
containers it opens, and the block that begins behind them.
-/

namespace LessonSite.Markdown

/-- What the start of a line has led to. -/
inductive Opened where
  /-- A list item whose first line is blank; the position is that of the next
  line. -/
  | emptyItem (outline : Outline) (next : Nat)
  /-- All containers are open and the rest of the line follows. -/
  | rest (outline : Outline) (cursor : Cursor)

/-- Opens the containers whose marks come next in a line. -/
def openContainers (source : Source) :
    (fuel : Nat) → Outline → Cursor → Opened
  | 0, outline, cursor => .rest outline cursor
  | fuel + 1, outline, cursor =>
      let (after, indent) := cursor.takeUpTo source 4
      if 4 ≤ indent then .rest outline cursor
      else
        match listItem? source after indent with
        | some (mark, number, width, inner) =>
            let outline := outline.continueList mark number
            let outline :=
              { outline with frames := .item width [] :: outline.frames }
            match source.blankLine? inner.position with
            | some next => .emptyItem { outline with itemPending := true } next
            | none => openContainers source fuel outline inner
        | none =>
            match after.quoteMark? source with
            | some inner =>
                let outline := outline.finishList
                openContainers source fuel
                  { outline with frames := .quote [] :: outline.frames } inner
            | none => .rest outline cursor

/-- Reads the block without containers that starts at a place in a line which is
not blank. -/
def readLeaf (source : Source) (outline : Outline) (cursor : Cursor) :
    Outline × Nat :=
  let containers := outline.containers
  let fuel := source.size + 1
  let (after, indent) := cursor.takeUpTo source 4
  let position := after.position
  if indent = 4 then
    let (text, next, lastBlank) :=
      indentedCode source containers fuel false [] [] after.pending position
    ({ outline.add (.code none (String.ofList text)) with lastBlank }, next)
  else
    match Tag.blockStart? source position with
    | some ending =>
        let (text, next) :=
          htmlBlock source containers ending fuel []
            (max cursor.pending indent) position
        (outline.add (.html (String.ofList text)), next)
    | none =>
        match rule? source position with
        | some next => (outline.add .rule, next)
        | none =>
            match headingLevel? source position with
            | some level =>
                let (prose, next) :=
                  numberSignHeading source containers level position
                (outline.add (.heading level prose), next)
            | none =>
                match definition? source containers position with
                | some (definition, stop) =>
                    ({ outline with
                        definitions := outline.definitions ++ [definition] },
                      (source.blankLine? stop).getD stop)
                | none =>
                    match fence? source position with
                    | some (mark, count) =>
                        let (info, next) := fenceInfo source (position + count)
                        let (text, next) :=
                          fencedCode source containers indent mark count
                            fuel [] next
                        (outline.add (.code (some info) (String.ofList text)),
                          next)
                    | none =>
                        let (block, next) :=
                          paragraph source containers position fuel [] position
                        (outline.add block, next)

/-- Reads the block that starts with the line at a position. -/
def readBlock (source : Source) (outline : Outline) (position : Nat) :
    Outline × Nat :=
  let (cursor, entered) :=
    (Cursor.start position).enterAll source outline.containers
  let outline := outline.closeTo entered (2 * outline.frames.length + 1)
  match openContainers source (source.size + 1) outline cursor with
  | .emptyItem outline next => (outline, next)
  | .rest outline cursor =>
      match source.blankLine? cursor.position with
      | some next => (outline.blankLine, next)
      | none => readLeaf source outline.finishList cursor

def readBlocks (source : Source) :
    (fuel : Nat) → Outline → (position : Nat) → Outline
  | 0, outline, _ => outline
  | fuel + 1, outline, position =>
      if source.size ≤ position then outline
      else
        let (outline, next) := readBlock source outline position
        readBlocks source fuel outline next

/-- The blocks of a text and its link definitions. -/
def readDocument (source : Source) : List Block × List Definition :=
  let outline := readBlocks source (source.size + 1) Outline.empty 0
  (outline.finish, outline.definitions)

end LessonSite.Markdown
