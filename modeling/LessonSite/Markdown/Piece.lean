import LessonSite.Markdown.Reference
import LessonSite.Text.Blank

/-!
# Pieces of a line

A line of running text is cut into pieces: plain text, and the marks that may
turn out to be links, code, emphasis, HTML or line breaks once the whole block
is known.
-/

namespace LessonSite.Markdown

/-- What a piece of a line is. -/
inductive PieceKind where
  | text
  /-- Text that a character reference stands for. -/
  | replaced (text : String)
  /-- A run of emphasis marks. -/
  | delimiters (mark : Char) (count : Nat) (canOpen canClose : Bool)
  /-- A run of backticks, the first of them after a backslash or not. -/
  | backticks (count : Nat) (escaped : Bool)
  | angle
  | imageOpen
  | linkOpen
  /-- A closing bracket, which may still close a reference or not. -/
  | linkClose (mayRefer : Bool)
  | softBreak
  | hardBreak (backslash : Bool)
  deriving DecidableEq, Repr

/-- A piece and the positions where it starts and stops. -/
structure Piece where
  start : Nat
  stop : Nat
  kind : PieceKind
  deriving DecidableEq, Repr

/-- How pipes count while a line is cut up. -/
inductive PipeMode where
  | ordinary
  /-- The line may be the head of a table. -/
  | headCandidate
  /-- The line is a row of a table. -/
  | cell
  deriving DecidableEq, Repr

private def endsWithBarePipe (source : Source) (position : Nat) : Bool :=
  position ≠ 0 && source.hasAt (position - 1) '|' &&
    !(2 ≤ position && source.hasAt (position - 2) '\\')

/-- A run of emphasis marks of the given length may open a span. -/
def canOpen (source : Source) (mode : PipeMode) (mark : Char)
    (position length : Nat) : Bool :=
  match source[position + length]? with
  | none => false
  | some next =>
      if Text.isBlank next then false
      else if position = 0 then true
      else if mode = .cell && endsWithBarePipe source position then true
      else if mode = .cell && next = '|' then false
      else if (mark = '*' || (mark = '~' && 1 < length)) &&
          !Text.isPunctuation next then true
      else
        match source[position - 1]? with
        | none => true
        | some previous =>
            (mark = '~' && previous = '~' && !Text.isPunctuation next) ||
              Text.isBlank previous || Text.isPunctuation previous

/-- A run of emphasis marks of the given length may close a span. -/
def canClose (source : Source) (mode : PipeMode) (mark : Char)
    (position length : Nat) : Bool :=
  if position = 0 then false
  else
    match source[position - 1]? with
    | none => false
    | some previous =>
        if Text.isBlank previous then false
        else
          match source[position + length]? with
          | none => true
          | some next =>
              if mode = .cell && endsWithBarePipe source position then false
              else if mode = .cell && next = '|' then true
              else if (mark = '*' || (mark = '~' && 1 < length)) &&
                !Text.isPunctuation previous
              then true
              else if mark = '~' && previous = '~' then true
              else Text.isBlank next || Text.isPunctuation next

/-- How a line ends. -/
inductive LineEnd where
  /-- With a line break, which is itself a piece unless the block ends there. -/
  | broken (piece : Piece)
  /-- With the head of a table, whose columns are given. -/
  | table (columns : List Alignment)
  /-- With the end of the text or of a cell. -/
  | open
  deriving DecidableEq, Repr

/-- What is known while a line is cut up. -/
structure LineState where
  pieces : List Piece
  textStart : Nat
  pipes : Nat
  lastPipe : Nat

def LineState.withText (state : LineState) (stop : Nat) : LineState :=
  if state.textStart < stop then
    { state with
      pieces :=
        { start := state.textStart, stop, kind := .text } :: state.pieces }
  else state

def LineState.add (state : LineState) (start stop : Nat)
    (kind : PieceKind) : LineState :=
  { state.withText start with
    pieces := { start, stop, kind } :: (state.withText start).pieces,
      textStart := stop }

/-- The pieces of a line, the position after it, and how it ends. -/
structure CutLine where
  pieces : List Piece
  next : Nat
  ending : LineEnd
  deriving Repr

def finishOpen (source : Source) (state : LineState)
    (position : Nat) : CutLine :=
  let stop := source.backWhile isInlineSpace state.textStart position
  { pieces := (state.withText stop).pieces.reverse, next := position,
    ending := .open }

def finishBroken (source : Source) (state : LineState)
    (start position next : Nat) :
    CutLine :=
  let slashes := position - source.backWhile (· = '\\') start position
  if slashes % 2 = 1 && next < source.size then
    { pieces := (state.withText (position - 1)).pieces.reverse, next,
      ending := .broken ⟨position - 1, next, .hardBreak true⟩ }
  else
    let stop := source.backWhile isInlineSpace start position
    let pieces := (state.withText stop).pieces.reverse
    if 2 ≤ position - stop then
      { pieces, next, ending := .broken ⟨stop, next, .hardBreak false⟩ }
    else { pieces, next, ending := .broken ⟨position, next, .softBreak⟩ }

def cutFrom (source : Source) (containers : List Container) (mode : PipeMode)
    (start : Nat) : (fuel : Nat) → LineState → (position : Nat) → CutLine
  | 0, state, position => finishOpen source state position
  | fuel + 1, state, position =>
      match source[position]? with
      | none => finishOpen source state source.size
      | some character =>
          let resume := cutFrom source containers mode start fuel
          match character with
          | '\n' => atBreak state position
          | '\r' => atBreak state position
          | '\\' =>
              match source[position + 1]? with
              | none => resume state (position + 1)
              | some next =>
                  if !Text.isAsciiPunctuation next then
                    resume state (position + 1)
                  else
                    let state := state.withText position
                    if next = '`' then
                      let stop := source.skipRun '`' (position + 1)
                      resume
                        ({ state with textStart := position + 1 }.add
                          (position + 1) stop
                          (.backticks (stop - (position + 1)) true)) stop
                    else resume { state with textStart := position + 1 }
                      (position + 2)
          | '`' =>
              let stop := source.skipRun '`' position
              resume
                (state.add position stop (.backticks (stop - position) false))
                stop
          | '<' =>
              if source.hasAt (position + 1) '\\' then
                resume state (position + 1)
              else resume (state.add position (position + 1) .angle)
                (position + 1)
          | '!' =>
              if source.hasAt (position + 1) '[' then
                resume (state.add position (position + 2) .imageOpen)
                  (position + 2)
              else resume state (position + 1)
          | '[' =>
              resume (state.add position (position + 1) .linkOpen)
                (position + 1)
          | ']' =>
              resume (state.add position (position + 1) (.linkClose true))
                (position + 1)
          | '&' =>
              match characterReference? source position with
              | some (text, stop) =>
                  resume (state.add position stop (.replaced text)) stop
              | none => resume state (position + 1)
          | '|' =>
              if mode = .cell then finishOpen source state position
              else
                resume
                  { state with pipes := state.pipes + 1, lastPipe := position }
                  (position + 1)
          | _ =>
              if character = '*' || character = '_' || character = '~' then
                let stop := source.skipRun character position
                let length := stop - position
                let opens := canOpen source mode character position length
                let closes := canClose source mode character position length
                if (opens || closes) && (character ≠ '~' || length ≤ 2) then
                  resume
                    (state.add position stop
                      (.delimiters character length opens closes)) stop
                else resume state stop
              else resume state (position + 1)
where
  atBreak (state : LineState) (position : Nat) : CutLine :=
    let next := (source.lineBreak? position).getD (position + 1)
    let table :=
      if mode = .headCandidate && 0 < state.pipes then
        tableAfterHead? source containers start state.pipes
          state.lastPipe position
      else none
    match table with
    | some (stop, columns) =>
        { pieces := state.pieces.reverse, next := stop,
          ending := .table columns }
    | none =>
        if mode = .cell then finishOpen source state position
        else finishBroken source state start position next

/-- Cuts up the line that starts at a position. -/
def cutLine (source : Source) (containers : List Container) (mode : PipeMode)
    (start : Nat) :
    CutLine :=
  cutFrom source containers mode start (source.size + 1 - start)
    ⟨[], start, 0, start⟩ start

end LessonSite.Markdown
