import LessonSite.Number.Basic
import LessonSite.Markdown.Container
import LessonSite.Markdown.Tag

/-!
# How blocks begin

The tests by which the start of a line is told to begin a heading, a rule, a
fence, a list item or a table, and which of these may end a paragraph without a
blank line between.
-/

namespace LessonSite.Markdown

/-- The alignment of a column of a table. -/
inductive Alignment where
  | unset
  | left
  | center
  | right
  deriving DecidableEq, Repr

/-- Counts the marks of a rule on the rest of a line; gives the position after
the line. -/
def ruleRest? (source : Source) (mark : Char) (position marks : Nat) :
    Option Nat :=
  if inside : position < source.size then
    let character := source[position]
    if isLineBreak character then
      if 3 ≤ marks then source.lineBreak? position else none
    else if character = mark then
      ruleRest? source mark (position + 1) (marks + 1)
    else if character = ' ' || character = '\t' then
      ruleRest? source mark (position + 1) marks
    else none
  else if 3 ≤ marks then some position
  else none
termination_by source.size - position

/-- The position after a rule: a line of at least three equal marks. -/
def rule? (source : Source) (position : Nat) : Option Nat :=
  match source[position]? with
  | none => none
  | some mark =>
      if mark = '*' || mark = '-' || mark = '_' then
        ruleRest? source mark position 0
      else none

/-- The level of a heading that starts with number signs. -/
def headingLevel? (source : Source) (position : Nat) : Option Nat :=
  let stop := source.skipRun '#' position
  let level := stop - position
  if 1 ≤ level && level ≤ 6 && (source[stop]?.all isAsciiSpace) then
    some level
  else none

/-- The position after the underline of a heading, and its level. -/
def underline? (source : Source) (position : Nat) : Option (Nat × Nat) :=
  match source[position]? with
  | none => none
  | some mark =>
      if mark = '=' || mark = '-' then
        (source.blankLine? (source.skipRun mark position)).map fun next =>
          (next, if mark = '=' then 1 else 2)
      else none

/-- The mark of a fence and how many of it there are. -/
def fence? (source : Source) (position : Nat) : Option (Char × Nat) :=
  match source[position]? with
  | none => none
  | some mark =>
      if mark = '`' || mark = '~' then
        let stop := source.skipRun mark position
        let info := source.slice stop (source.nextLine stop)
        if stop - position < 3 || (mark = '`' && info.contains '`') then none
        else some (mark, stop - position)
      else none

/-- The position after the marks and spaces of a closing fence. -/
def closingFence? (source : Source) (mark : Char) (count position : Nat) :
    Option Nat :=
  if source.size ≤ position then some position
  else
    let stop := source.skipRun mark position
    if stop - position < count then none
    else
      let stop := source.skipRun ' ' stop
      if (source.lineBreak? stop).isSome then some stop else none

/-- The mark of a list item: its character, its number and the position after
it. -/
def listMark? (source : Source) (position : Nat) : Option (Char × Nat × Nat) :=
  match source[position]? with
  | none => none
  | some mark =>
      if mark = '-' || mark = '+' || mark = '*' then
        some (mark, 0, position + 1)
      else if mark.isDigit then
        let stop := source.skipWhile Char.isDigit position
        if 9 < stop - position then none
        else
          match source[stop]? with
          | some delimiter =>
              if delimiter = '.' || delimiter = ')' then
                some
                  (delimiter, decimalValue (source.slice position stop),
                    stop + 1)
              else none
          | none => none
      else none

/-- A list item that starts here: its character and number, the width of its
indentation and the place after its mark.  `indent` counts the columns in front
of the mark. -/
def listItem? (source : Source) (cursor : Cursor) (indent : Nat) :
    Option (Char × Nat × Nat × Cursor) :=
  match listMark? source cursor.position with
  | none => none
  | some (mark, number, stop) =>
      if (rule? source cursor.position).isSome then none
      else
        let (after, spaced) :=
          { cursor with position := stop }.takeExactly source 1
        if !spaced && !after.atLineEnd source then none
        else
          let width := indent + (stop - cursor.position) + 1
          if source.isBlankLine after.position then
            some (mark, number, width, after)
          else
            let (inner, extra) := after.takeUpTo source 4
            if extra < 4 then some (mark, number, width + extra, inner)
            else some (mark, number, width, after)

/-- Two blank lines follow: the rest of this line and the next one. -/
private def twoBlankLines (source : Source) (position : Nat) : Bool :=
  match source.blankLine? position with
  | some next => source.isBlankLine next
  | none => false

/-- A list item stands here that may end a paragraph.  Inside the paragraph's
own containers it must not be empty and, when numbered, must start with one;
elsewhere any list item will do. -/
def listInterrupts (source : Source) (inContainers inTable : Bool)
    (position : Nat) : Bool :=
  match listMark? source position with
  | none => false
  | some (mark, number, stop) =>
      let spaced := source.hasAt stop ' ' || source.hasAt stop '\t' ||
        (source.lineBreak? stop).isSome
      spaced &&
        (!inContainers || inTable ||
          (!twoBlankLines source stop &&
            (mark = '-' || mark = '+' || mark = '*' || number = 1)))

/-- A block other than a table starts here that ends a paragraph. -/
def interruptsWithoutTable (source : Source) (inContainers inTable : Bool)
    (position : Nat) :
    Bool :=
  (source.lineBreak? position).isSome || (rule? source position).isSome ||
    (headingLevel? source position).isSome || (fence? source position).isSome ||
    source.hasAt position '>' ||
    listInterrupts source inContainers inTable position ||
    (Tag.interrupting? source position).isSome

/-- What has been seen of a delimiter row. -/
private structure RowState where
  alignment : Alignment
  atColumnStart : Bool
  sawPipe : Bool
  sawHyphen : Bool
  hyphenInColumn : Bool
  columns : List Alignment

private def delimiterRest (source : Source) (state : RowState)
    (position : Nat) :
    Option (Nat × RowState) :=
  if inside : position < source.size then
    match source[position] with
    | '\n' => some (position + 1, state)
    | '\r' => (source.lineBreak? position).map fun next => (next, state)
    | ' ' => delimiterRest source state (position + 1)
    | ':' =>
        let alignment := match state.atColumnStart, state.alignment with
          | true, .unset => .left
          | false, .left => .center
          | false, .unset => .right
          | _, alignment => alignment
        delimiterRest source { state with alignment, atColumnStart := false }
          (position + 1)
    | '-' =>
        delimiterRest source
          { state with
            atColumnStart := false, sawHyphen := true, hyphenInColumn := true }
          (position + 1)
    | '|' =>
        if state.hyphenInColumn then
          delimiterRest source
            { state with
              atColumnStart := true, sawPipe := true, alignment := .unset,
                hyphenInColumn := false
              columns := state.columns ++ [state.alignment] }
            (position + 1)
        else none
    | _ => none
  else some (position, state)
termination_by source.size - position

/-- The row of hyphens under the head of a table: the position after it and the
alignments. -/
def delimiterRow? (source : Source) (position : Nat) :
    Option (Nat × List Alignment) :=
  let (cursor, indent) := (Cursor.start position).takeUpTo source 4
  if 3 < indent || source.size ≤ cursor.position then none
  else
    let leading := source.hasAt cursor.position '|'
    let first := if leading then cursor.position + 1 else cursor.position
    match delimiterRest source
      ⟨.unset, true, leading, false, false, []⟩ first with
    | none => none
    | some (next, state) =>
        let columns :=
          if state.atColumnStart then
            state.columns
          else state.columns ++ [state.alignment]
        if state.sawPipe && state.sawHyphen then some (next, columns) else none

/-- The number of cells of a row, from the number of its pipes. -/
def cellCount (source : Source) (pipes start lastPipe : Nat) : Nat :=
  let pipes :=
    if source.hasAt (source.skipSpace start) '|' then pipes - 1 else pipes
  if source.isBlankLine (lastPipe + 1) then pipes else pipes + 1

/-- Counts the pipes up to the end of the line that are not escaped: their
number, the place of the last one and the place of the line break. -/
private def countPipes (source : Source) (escaped : Bool)
    (position pipes lastPipe : Nat) :
    Option (Nat × Nat × Nat) :=
  if inside : position < source.size then
    match source[position] with
    | '\\' => countPipes source true (position + 1) pipes lastPipe
    | '|' =>
        if escaped then countPipes source false (position + 1) pipes lastPipe
        else countPipes source false (position + 1) (pipes + 1) position
    | '\n' => some (pipes, lastPipe, position)
    | '\r' => some (pipes, lastPipe, position)
    | _ => countPipes source false (position + 1) pipes lastPipe
  else none
termination_by source.size - position

/-- The alignments of a table whose head row has the given pipes and ends with
the line break at `lineEnd`, and the position after its delimiter row. -/
def tableAfterHead? (source : Source) (containers : List Container)
    (start pipes lastPipe lineEnd : Nat) : Option (Nat × List Alignment) :=
  match source.lineBreak? lineEnd with
  | none => none
  | some next =>
      match insideAll? source containers next with
      | none => none
      | some cursor =>
          match delimiterRow? source cursor.position with
          | none => none
          | some (stop, columns) =>
              if columns.length = cellCount source pipes start lastPipe then
                some (stop, columns)
              else none

/-- A table starts here that ends a paragraph. -/
def tableInterrupts (source : Source) (containers : List Container)
    (position : Nat) : Bool :=
  source.hasAt position '|' &&
    match countPipes source false position 0 position with
    | none => false
    | some (pipes, lastPipe, lineEnd) =>
        (tableAfterHead? source containers position pipes lastPipe
          lineEnd).isSome

/-- A block starts here that ends a paragraph. -/
def interrupts (source : Source) (containers : List Container)
    (inContainers : Bool) (position : Nat) : Bool :=
  interruptsWithoutTable source inContainers false position ||
    tableInterrupts source containers position

end LessonSite.Markdown
