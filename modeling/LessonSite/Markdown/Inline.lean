import LessonSite.Markdown.Block

/-!
# Running text

Pieces become running text in two passes.  The first finds code, raw HTML, links
and images, from left to right with a stack of open brackets; the second pairs
emphasis marks inside each of the stretches that the first has left.
-/

namespace LessonSite.Markdown

/-- How a span of running text is set apart. -/
inductive Emphasis where
  | emphasis
  | strong
  | strikethrough
  deriving DecidableEq, Repr

/-- Running text. -/
inductive Inline where
  | text (text : String)
  | code (text : String)
  | html (text : String)
  | softBreak
  | hardBreak
  | emphasized (kind : Emphasis) (children : List Inline)
  | link (destination title : String) (children : List Inline)
  | image (destination title : String) (children : List Inline)
  /-- A run of emphasis marks that has not been paired yet. -/
  | delimiters (mark : Char) (count : Nat) (canOpen canClose : Bool)
  deriving Repr, Inhabited

/-- A run of opening marks and the text that follows it, latest first. -/
structure Opener where
  mark : Char
  count : Nat
  length : Nat
  canClose : Bool
  content : List Inline

/-- The state of pairing: open runs from the top of the stack, the text below
them, and the height of the stack under which no strikethrough mark is looked
for any more. -/
structure Pairing where
  openers : List Opener
  bottom : List Inline
  strikeFloor : Nat

def Pairing.push (state : Pairing) (items : List Inline) : Pairing :=
  match state.openers with
  | [] => { state with bottom := items ++ state.bottom }
  | top :: rest =>
      { state with
        openers := { top with content := items ++ top.content } :: rest }

private def marksText (mark : Char) (count : Nat) : List Inline :=
  if count = 0 then [] else [.text (String.ofList (List.replicate count mark))]

/-- The text of runs that stay open, latest first. -/
def flatten : List Opener → List Inline
  | [] => []
  | opener :: openers =>
      opener.content ++ marksText opener.mark opener.count ++ flatten openers

/-- Two runs may belong together: they have the same mark, and when one of them
could both open and close, their lengths do not add up to a multiple of three
unless both are such. -/
private def Opener.fits (opener : Opener) (mark : Char) (length : Nat)
    (both : Bool) : Bool :=
  opener.mark = mark && (mark ≠ '~' || opener.length = length) &&
    ((!both && !opener.canClose) || (opener.length + length) % 3 ≠ 0 ||
      length % 3 = 0)

private def splitAtOpener (mark : Char) (length : Nat) (both : Bool)
    (floor : Nat) :
    (above openers : List Opener) → Option (List Opener × Opener × List Opener)
  | _, [] => none
  | above, opener :: below =>
      if below.length < floor then none
      else if opener.fits mark length both then
        some (above.reverse, opener, below)
      else splitAtOpener mark length both floor (opener :: above) below

/-- Wraps text in spans for the given number of paired marks, pairs of marks
innermost. -/
private def wrap (mark : Char) : (count : Nat) → List Inline → List Inline
  | 0, children => children
  | 1, children =>
      [.emphasized (if mark = '~' then .strikethrough else .emphasis) children]
  | count + 2, children =>
      wrap mark count
        [.emphasized (if mark = '~' then .strikethrough else .strong) children]

/-- Pairs the marks of a closing run with open runs; also gives the marks left
over. -/
private def closeRun (mark : Char) (length : Nat) (both : Bool) :
    (fuel count : Nat) → Pairing → Pairing × Nat
  | 0, count, state => (state, count)
  | fuel + 1, count, state =>
      let floor := if mark = '~' then state.strikeFloor else 0
      match splitAtOpener mark length both floor [] state.openers with
      | none =>
          (if mark = '~' then
            { state with strikeFloor := state.openers.length }
          else state, count)
      | some (above, opener, below) =>
          let inner := (flatten above ++ opener.content).reverse
          let paired := min count opener.count
          let span := wrap mark paired inner
          let state := { state with
            openers := below,
              strikeFloor := min state.strikeFloor below.length }
          let state :=
            if paired < opener.count then
              { state with
                openers :=
                  { opener with
                    count := opener.count - paired, content := span } :: below }
            else state.push span
          if count - paired = 0 then (state, 0)
          else closeRun mark length both fuel (count - paired) state

def pairStep (state : Pairing) : Inline → Pairing
  | .delimiters mark length opens closes =>
      let (state, count) :=
        if closes then
          closeRun mark length opens (length + 1) length state
        else (state, length)
      if count = 0 then state
      else if opens then
        { state with
          openers := ⟨mark, count, length, closes, []⟩ :: state.openers }
      else state.push (marksText mark count)
  | item => state.push [item]

/-- Pairs the emphasis marks of a stretch of running text. -/
def pairEmphasis (items : List Inline) : List Inline :=
  let state := items.foldl pairStep ⟨[], [], 0⟩
  (flatten state.openers ++ state.bottom).reverse

/-- Drops the pieces that end before a position and cuts off the start of the
next one. -/
def piecesFrom (position : Nat) : List Piece → List Piece
  | [] => []
  | piece :: pieces =>
      if piece.stop ≤ position then piecesFrom position pieces
      else { piece with start := max piece.start position } :: pieces

/-- Splits the pieces at the first run of backticks of the given length. -/
private def splitAtBackticks (count : Nat) :
    List Piece → Option (Piece × List Piece)
  | [] => none
  | piece :: pieces =>
      match piece.kind with
      | .backticks found _ =>
          if found = count then
            some (piece, pieces)
          else splitAtBackticks count pieces
      | _ => splitAtBackticks count pieces

/-- The raw characters of a code span: line breaks become spaces, the marks of
containers are passed over, and in a table an escaped pipe is a pipe. -/
private def codeChars (source : Source) (prose : Prose) (stop : Nat) :
    (fuel position : Nat) → List Char
  | 0, _ => []
  | fuel + 1, position =>
      if stop ≤ position then []
      else
        match source[position]? with
        | none => []
        | some character =>
            if isLineBreak character then
              let next := (source.lineBreak? position).getD (position + 1)
              ' ' ::
                codeChars source prose stop fuel
                  (skipMarks source prose.containers next)
            else if character = '\\' && prose.inTable &&
                source.hasAt (position + 1) '|' then
              '|' :: codeChars source prose stop fuel (position + 2)
            else character :: codeChars source prose stop fuel (position + 1)

/-- The text of a code span, without one space at each end when both have
one. -/
private def codeText (source : Source) (prose : Prose)
    (start stop : Nat) : String :=
  let text := codeChars source prose stop (source.size + 1) start
  if text.head? = some ' ' && text.getLast? = some ' ' &&
      !text.all (· = ' ') then
    String.ofList (text.drop 1).dropLast
  else String.ofList text

/-- The address of an automatic link after its opening bracket: it starts with a
scheme. -/
private def autoAddressEnd? (source : Source) (stop position : Nat) :
    Option Nat :=
  let isSchemePart (character : Char) : Bool :=
    isAsciiAlphanumeric character || character = '.' || character = '-' ||
      character = '+'
  let colon := source.skipWhile isSchemePart position
  if (source[position]?.any isAsciiLetter) && source.hasAt colon ':' &&
      2 ≤ colon - position &&
      colon - position ≤ 32 then
    let last := source.skipWhile
      (fun character => ' ' < character && character ≠ '<' && character ≠ '>')
      (colon + 1)
    if source.hasAt last '>' && last < stop then some last else none
  else none

private def hostEnd? (source : Source) : (fuel position : Nat) → Option Nat
  | 0, _ => none
  | fuel + 1, position =>
      let next := source.skipWhile
        (fun character => isAsciiAlphanumeric character || character = '-')
        position
      if next = position || 63 < next - position || source.hasAt position '-' ||
          source.hasAt (next - 1) '-' then none
      else if source.hasAt next '.' then hostEnd? source fuel (next + 1)
      else some next

/-- The mail address of an automatic link after its opening bracket. -/
private def autoMailEnd? (source : Source) (stop position : Nat) : Option Nat :=
  let isLocalPart (character : Char) : Bool :=
    isAsciiAlphanumeric character ||
      ".!#$%&'*+/=?^_`\x7b|\x7d~-".toList.contains character
  let at_ := source.skipWhile isLocalPart position
  if position < at_ && source.hasAt at_ '@' then
    match hostEnd? source (source.size + 1) (at_ + 1) with
    | some last =>
        if source.hasAt last '>' && last < stop then some last else none
    | none => none
  else none

/-- The title of an inline link after its opening mark.  At a line break the
title goes on where the next piece starts. -/
private def titleChars? (source : Source) (prose : Prose) (rest : List Piece)
    (opening closing : Char) : (fuel position : Nat) → Option (List Char × Nat)
  | 0, _ => none
  | fuel + 1, position =>
      if prose.stop ≤ position then none
      else
        let resume := titleChars? source prose rest opening closing fuel
        match source[position]? with
        | none => none
        | some character =>
            if character = closing then some ([], position + 1)
            else if character = opening then none
            else
              let jump :=
                if isLineBreak character then
                  match rest.find? (position + 1 < ·.stop) with
                  | some piece =>
                      if position < piece.start then some piece.start else none
                  | none => none
                else none
              match jump with
              | some next =>
                  (resume next).map fun (text, stop) => ('\n' :: text, stop)
              | none =>
                  match characterReference? source position with
                  | some (value, next) =>
                      (resume next).map fun (text, stop) =>
                        (value.toList ++ text, stop)
                  | none =>
                      let position :=
                        if prose.inTable &&
                            source.hasTextAt position ['\\', '\\', '|'] then
                          position + 2
                        else position
                      if source.hasAt position '\\' &&
                          source[position + 1]?.any Text.isAsciiPunctuation then
                        (resume (position + 2)).map fun (text, stop) =>
                          (source.slice (position + 1) (position + 2) ++ text,
                            stop)
                      else
                        (resume (position + 1)).map fun (text, stop) =>
                          (source.slice position (position + 1) ++ text, stop)

/-- Passes over blanks with at most one line break, and over the marks after
it. -/
def skipSeparator (source : Source) (prose : Prose) (position : Nat) : Nat :=
  let position := source.skipSpace position
  let position := match source.lineBreak? position with
    | some next => skipMarks source prose.containers next
    | none => position
  source.skipSpace position

/-- The destination and title in parentheses after a bracket, and the position
after them. -/
def inlineTarget? (source : Source) (prose : Prose) (rest : List Piece)
    (position : Nat) :
    Option (String × String × Nat) := do
  if !source.hasAt position '(' || prose.stop ≤ position then none
  else
    let start := skipSeparator source prose (position + 1)
    let (raw, next) ← destination? source prose.stop start
    let next := skipSeparator source prose next
    let title := do
      let opening ← source[next]?
      let closing ← titleClosing? opening
      titleChars? source prose rest opening closing (source.size + 1) (next + 1)
    let (title, next) := match title with
      | some (title, stop) =>
          (String.ofList title, skipSeparator source prose stop)
      | none => ("", next)
    if source.hasAt next ')' && next < prose.stop then
      pure (unescape prose.inTable raw, title, next + 1)
    else none

/-- The kind of an open bracket. -/
inductive BracketKind where
  | link
  | image
  /-- A bracket for a link around a link, which is not allowed. -/
  | disabled
  deriving DecidableEq

/-- An open bracket and the text that follows it, latest first. -/
structure Bracket where
  kind : BracketKind
  start : Nat
  /-- The position of the bracket itself. -/
  bracket : Nat
  content : List Inline

/-- The state of finding links: open brackets from the top of the stack, and the
text below. -/
structure Linking where
  brackets : List Bracket
  bottom : List Inline

def Linking.push (state : Linking) (items : List Inline) : Linking :=
  match state.brackets with
  | [] => { state with bottom := items ++ state.bottom }
  | top :: rest =>
      { state with
        brackets := { top with content := items ++ top.content } :: rest }

/-- The text of brackets that stay open, latest first. -/
def openText (source : Source) : List Bracket → List Inline
  | [] => []
  | top :: rest =>
      top.content ++
        Inline.text (source.sliceText top.start (top.bracket + 1)) ::
          openText source rest

private def Linking.dropTop (source : Source) (state : Linking) : Linking :=
  match state.brackets with
  | [] => state
  | top :: rest =>
      { state with brackets := rest }.push
        (top.content ++
          [Inline.text (source.sliceText top.start (top.bracket + 1))])

/-- Replaces the top bracket by a link or an image around what follows it. -/
def Linking.closeTop (state : Linking) (destination title : String) : Linking :=
  match state.brackets with
  | [] => state
  | top :: rest =>
      let children := pairEmphasis top.content.reverse
      match top.kind with
      | .image =>
          { state with brackets := rest }.push
            [.image destination title children]
      | _ =>
          let rest := rest.map fun bracket =>
            if bracket.kind = .link then
              { bracket with kind := .disabled }
            else bracket
          { state with brackets := rest }.push
            [.link destination title children]

/-- Marks the closing bracket at a position as one that closes no reference. -/
private def withoutReference (position : Nat) : List Piece → List Piece
  | [] => []
  | piece :: pieces =>
      if piece.stop ≤ position then piece :: withoutReference position pieces
      else { piece with kind := .linkClose false } :: pieces

/-- What a closing bracket that is followed by no parentheses refers to: the
label, and the pieces after the reference. -/
private inductive Referred where
  | label (label : String) (after marked : List Piece)
  | same (after : List Piece)
  | nothing

private def referred (source : Source) (prose : Prose) (mayRefer : Bool)
    (rest : List Piece) :
    Referred :=
  match rest with
  | [] => if mayRefer then .same [] else .nothing
  | piece :: pieces =>
      let start := piece.start
      if source.hasTextAt start ['[', ']'] && start + 2 ≤ prose.stop then
        if mayRefer then .same (pieces.drop 1) else .nothing
      else
        let resume := fun next => some (skipMarks source prose.containers next)
        let label :=
          if source.hasAt start '[' then
            label? source prose.inTable resume prose.stop (start + 1)
          else none
        match label with
        | some (label, stop) =>
            match piecesFrom (stop - 1) rest with
            | [] => .nothing
            | _ :: after =>
                .label label after (withoutReference (stop - 1) rest)
        | none => if mayRefer then .same rest else .nothing

/-- The label of the text between an open bracket and the closing one, if it is
a label. -/
private def ownLabel? (source : Source) (prose : Prose)
    (bracket closing : Nat) : Option String :=
  let resume := fun next => some (skipMarks source prose.containers next)
  match label? source prose.inTable resume closing (bracket + 1) with
  | some (label, stop) => if stop = closing then some label else none
  | none => none

/-- The characters of a tag without the marks of containers at the start of its
lines. -/
private def tagChars (source : Source) (prose : Prose) (stop : Nat) :
    (fuel position : Nat) → List Char
  | 0, _ => []
  | fuel + 1, position =>
      if stop ≤ position then []
      else
        match source[position]? with
        | none => []
        | some character =>
            if isLineBreak character then
              let next := (source.lineBreak? position).getD (position + 1)
              source.slice position next ++
                tagChars source prose stop fuel
                  (skipMarks source prose.containers next)
            else character :: tagChars source prose stop fuel (position + 1)

/-- The text of raw HTML from its opening bracket.  Only a tag loses the marks
of containers; comments and the like are kept as they stand. -/
private def rawHtml (source : Source) (prose : Prose)
    (stop position : Nat) : String :=
  match source[position + 1]? with
  | some '!' => source.sliceText position stop
  | some '?' => source.sliceText position stop
  | _ => String.ofList (tagChars source prose stop (stop + 1) position)

/-- Finds code, raw HTML, links and images. -/
def findLinks (source : Source) (definitions : List Definition)
    (prose : Prose) :
    (fuel : Nat) → Linking → List Piece → List Inline
  | 0, state, _ => (openText source state.brackets ++ state.bottom).reverse
  | _ + 1, state, [] => (openText source state.brackets ++ state.bottom).reverse
  | fuel + 1, state, piece :: rest =>
      let resume := findLinks source definitions prose fuel
      let asText := Inline.text (source.sliceText piece.start piece.stop)
      match piece.kind with
      | .text => resume (state.push [asText]) rest
      | .replaced text => resume (state.push [.text text]) rest
      | .softBreak => resume (state.push [.softBreak]) rest
      | .hardBreak _ => resume (state.push [.hardBreak]) rest
      | .delimiters mark count opens closes =>
          resume
            (state.push
              [.delimiters mark (min count (piece.stop - piece.start))
                opens closes])
            rest
      | .backticks count escaped =>
          let width := if escaped then count - 1 else count
          match if width = 0 then none else splitAtBackticks width rest with
          | none => resume (state.push [asText]) rest
          | some (closing, after) =>
              let code :=
                Inline.code (codeText source prose piece.stop closing.start)
              if escaped then resume (state.push [code, .text "`"]) after
              else resume (state.push [code]) after
      | .angle =>
          match rest with
          | [] => resume (state.push [asText]) rest
          | next :: _ =>
              let start := next.start
              let auto (last : Nat) (scheme : String) :=
                let address := source.sliceText start last
                resume
                  (state.push [.link (scheme ++ address) "" [.text address]])
                  (piecesFrom (last + 1) rest)
              match autoAddressEnd? source prose.stop start with
              | some last => auto last ""
              | none =>
                  match autoMailEnd? source prose.stop start with
                  | some last => auto last "mailto:"
                  | none =>
                      match Tag.inlineEnd? source
                        (skipMarks source prose.containers)
                          prose.stop start with
                      | some stop =>
                          resume
                            (state.push
                              [.html (rawHtml source prose stop piece.start)])
                            (piecesFrom stop rest)
                      | none => resume (state.push [asText]) rest
      | .linkOpen =>
          resume
            { state with
              brackets :=
                ⟨.link, piece.start, piece.start, []⟩ :: state.brackets } rest
      | .imageOpen =>
          resume
            { state with
              brackets :=
                ⟨.image, piece.start, piece.start + 1, []⟩ :: state.brackets }
            rest
      | .linkClose mayRefer =>
          match state.brackets with
          | [] => resume (state.push [asText]) rest
          | top :: _ =>
              let unlinked (rest : List Piece) :=
                resume ((state.dropTop source).push [asText]) rest
              if top.kind = .disabled then unlinked rest
              else
                match inlineTarget? source prose rest piece.stop with
                | some (destination, title, next) =>
                    resume (state.closeTop destination title)
                      (piecesFrom next rest)
                | none =>
                    let define (label : Option String)
                      (after unlinkedRest : List Piece) :=
                      match label.bind (lookupDefinition? definitions) with
                      | some definition =>
                          resume
                            (state.closeTop definition.destination
                              definition.title) after
                      | none => unlinked unlinkedRest
                    match referred source prose mayRefer rest with
                    | .label label after marked =>
                        define (some label) after marked
                    | .same after =>
                        define
                          (ownLabel? source prose top.bracket piece.stop) after
                          rest
                    | .nothing => unlinked rest

def Prose.resolve (source : Source) (definitions : List Definition)
    (prose : Prose) :
    List Inline :=
  pairEmphasis
    (findLinks source definitions prose (2 * prose.pieces.length + 1) ⟨[], []⟩
      prose.pieces)

end LessonSite.Markdown
