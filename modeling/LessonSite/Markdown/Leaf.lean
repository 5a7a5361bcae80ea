import LessonSite.Markdown.Block

/-!
# Blocks without containers in them

Code, raw HTML, headings, paragraphs and tables.  Each reader starts at the
first line of its block, behind the marks of the containers, and gives the
position where the next line starts.
-/

namespace LessonSite.Markdown

/-- A line of code or HTML, from `start` up to the line feed before `next`, with
the columns of space left over in front of it and without the carriage return
before its line feed. -/
def rawLine (source : Source) (pending start next : Nat) : List Char :=
  let line :=
    if 2 ≤ next && source.hasAt (next - 2) '\r' then
      source.slice start (next - 2) ++ source.slice (next - 1) next
    else source.slice start next
  List.replicate pending ' ' ++ line

/-- Reads indented code; also tells whether the last line read was blank.
`settled` holds the text up to the last line that is not blank, `open` the blank
lines after it. -/
def indentedCode (source : Source) (containers : List Container) :
    (fuel : Nat) → (lastBlank : Bool) → (settled unsettled : List Char) →
      (pending position : Nat) → List Char × Nat × Bool
  | 0, lastBlank, settled, _, _, position => (settled, position, lastBlank)
  | fuel + 1, lastBlank, settled, unsettled, pending, position =>
      let next := source.nextLine position
      let line := rawLine source pending position next
      let (settled, unsettled) :=
        if lastBlank then
          (settled, unsettled ++ line)
        else (settled ++ unsettled ++ line, [])
      match insideAll? source containers next with
      | none => (settled, next, lastBlank)
      | some cursor =>
          let (after, deep) := cursor.takeExactly source 4
          if !deep && !after.atLineEnd source then (settled, next, lastBlank)
          else if source.size ≤ after.position then (settled, next, lastBlank)
          else
            indentedCode source containers fuel
              (source.isBlankLine after.position) settled
              unsettled after.pending after.position

/-- Reads the lines of fenced code up to its closing fence. -/
def fencedCode (source : Source) (containers : List Container) (indent : Nat)
    (mark : Char)
    (count : Nat) :
    (fuel : Nat) → (text : List Char) → (position : Nat) → List Char × Nat
  | 0, text, position => (text, position)
  | fuel + 1, text, position =>
      match insideAll? source containers position with
      | none => (text, position)
      | some cursor =>
          let cursor := (cursor.takeExactly source indent).1
          let (close, deep) := cursor.takeExactly source (4 - indent)
          let closing :=
            if deep then
              none
            else closingFence? source mark count close.position
          match closing with
          | some stop => (text, (source.blankLine? stop).getD stop)
          | none =>
              if source.size ≤ cursor.position then (text, source.size)
              else
                let next := source.nextLine cursor.position
                fencedCode source containers indent mark count fuel
                  (text ++ rawLine source cursor.pending cursor.position next)
                  next

/-- The info string after an opening fence and the position of the next line. -/
def fenceInfo (source : Source) (position : Nat) : String × Nat :=
  let start := source.skipSpace position
  let next := source.nextLine start
  (unescape false
    (source.slice start (source.backWhile isAsciiSpace start next)), next)

def htmlBlock (source : Source) (containers : List Container)
    (ending : Tag.BlockEnd) :
    (fuel : Nat) → (text : List Char) → (pending position : Nat) →
    List Char × Nat
  | 0, text, _, position => (text, position)
  | fuel + 1, text, pending, position =>
      let next := source.nextLine position
      let text := text ++ rawLine source pending position next
      match insideAll? source containers next with
      | none => (text, next)
      | some cursor =>
          let ended := match ending with
            | .atText closing =>
                (source.find? closing.toList position next).isSome
            | .atBlank =>
                cursor.atLineEnd source || source.isBlankLine cursor.position
          if ended || source.size ≤ cursor.position then (text, next)
          else htmlBlock source containers ending fuel text cursor.pending
            cursor.position

/-- The piece of text that a backslash at the end of a block is. -/
def backslashText : LineEnd → List Piece
  | .broken { start, kind := .hardBreak true, .. } =>
      [{ start, stop := start + 1, kind := .text }]
  | _ => []

/-- The piece for a line break inside a block. -/
def breakPiece : LineEnd → List Piece
  | .broken piece => [piece]
  | _ => []

/-- Moves the end of the last piece. -/
def endAt (stop : Nat) : List Piece → List Piece
  | [] => []
  | [piece] => [{ piece with stop }]
  | piece :: pieces => piece :: endAt stop pieces

/-- Reads a heading that starts with number signs. -/
def numberSignHeading (source : Source) (containers : List Container)
    (level position : Nat) :
    Prose × Nat :=
  let after := position + level
  match source.lineBreak? after with
  | some next => (⟨[], next, containers, false⟩, next)
  | none =>
      let start := source.skipSpace after
      let cut := cutLine source containers .ordinary start
      let pieces := cut.pieces ++ backslashText cut.ending
      let limit :=
        source.backWhile
          (fun character => isLineBreak character || character = ' ')
          start cut.next
      let closer := source.backWhile (· = '#') start limit
      let limit :=
        if closer = start then start
        else
          let before := source.backWhile (· = ' ') start closer
          if before < closer then before else limit
      let pieces :=
        if limit = start then pieces.dropLast else endAt limit pieces
      (⟨pieces, cut.next, containers, false⟩, cut.next)

private def rowCells (source : Source) (containers : List Container) :
    (fuel : Nat) → (cells : List Prose) → (position : Nat) → List Prose × Nat
  | 0, cells, position => (cells.reverse, position)
  | fuel + 1, cells, position =>
      let position :=
        if source.hasAt position '|' then position + 1 else position
      let start := source.skipSpace position
      match source.lineBreak? start with
      | some next => (cells.reverse, next)
      | none =>
          let cut := cutLine source containers .cell start
          rowCells source containers fuel
            (⟨cut.pieces, cut.next, containers, true⟩ :: cells) cut.next

/-- Reads a row of a table with a fixed number of cells: surplus cells are
dropped and missing ones are empty. -/
def tableRow (source : Source) (containers : List Container)
    (columns position : Nat) :
    List Prose × Nat :=
  let (cells, next) := rowCells source containers (source.size + 1) [] position
  let missing :=
    List.replicate (columns - cells.length) ⟨[], next, containers, true⟩
  (cells.take columns ++ missing, next)

/-- Reads the rows of a table up to the start of another block. -/
def tableRows (source : Source) (containers : List Container) (columns : Nat) :
    (fuel : Nat) → (rows : List (List Prose)) → (position : Nat) →
    List (List Prose) × Nat
  | 0, rows, position => (rows.reverse, position)
  | fuel + 1, rows, position =>
      match insideAll? source containers position with
      | none => (rows.reverse, position)
      | some cursor =>
          let start := (cursor.skipSpace source).position
          if interruptsWithoutTable source true true start then
            (rows.reverse, position)
          else
            let (row, next) := tableRow source containers columns start
            tableRows source containers columns fuel (row :: rows) next

/-- Reads a table from its head row, given its columns and the position after
its delimiter row. -/
def table (source : Source) (containers : List Container)
    (columns : List Alignment) (head body : Nat) : Block × Nat :=
  let (headCells, _) := tableRow source containers columns.length head
  let (rows, next) :=
    tableRows source containers columns.length (source.size + 1) [] body
  (.table columns headCells rows, next)

/-- Reads the lines of a paragraph, which may turn out to be a heading or a
table. -/
def paragraph (source : Source) (containers : List Container) (start : Nat) :
    (fuel : Nat) → (pieces : List Piece) → (position : Nat) → Block × Nat
  | 0, pieces, position =>
      (.paragraph ⟨pieces, position, containers, false⟩, position)
  | fuel + 1, pieces, position =>
      let mode := if position = start then PipeMode.headCandidate else .ordinary
      let cut := cutLine source containers mode position
      match cut.ending with
      | .table columns => table source containers columns start cut.next
      | ending =>
          let pieces := pieces ++ cut.pieces
          let ended := (Block.paragraph
            ⟨pieces ++ backslashText ending, cut.next, containers, false⟩,
            cut.next)
          let (cursor, entered) :=
            (Cursor.start cut.next).enterAll source containers
          let inContainers : Bool := entered = containers.length
          let (after, deep) := cursor.takeExactly source 4
          let underline :=
            if !deep && inContainers then
              underline? source after.position
            else none
          match underline with
          | some (next, level) =>
              (.heading level
                ⟨pieces ++ backslashText ending, next, containers, false⟩, next)
          | none =>
              if !deep &&
                  interrupts source containers inContainers after.position then
                ended
              else
                let line := after.skipSpace source
                if line.atLineEnd source then ended
                else
                  paragraph source containers start fuel
                    (pieces ++ breakPiece ending) line.position

end LessonSite.Markdown
