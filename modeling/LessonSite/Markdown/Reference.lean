import LessonSite.Markdown.Line
import LessonSite.Markup.Entity.Table
import LessonSite.Text.Fold

/-!
# Link targets and labels

The parts of links and link definitions: character references and backslash
escapes, destinations, titles and labels.  Inside a table two backslashes before
a pipe stand for one.
-/

namespace LessonSite.Markdown

/-- The value of a hexadecimal digit. -/
def hexDigitValue (digit : Char) : Nat :=
  if digit.isDigit then
    digit.toNat - '0'.toNat
  else digit.toLower.toNat - 'a'.toNat + 10

private def isHexDigit (character : Char) : Bool :=
  character.isDigit || ('a' ≤ character.toLower && character.toLower ≤ 'f')

/-- The character of a numeric reference; what is no character becomes
U+FFFD. -/
def numericCharacter (code : Nat) : Char :=
  if code ≠ 0 ∧ code.isValidChar then Char.ofNat code else '\uFFFD'

/-- The text of a character reference that starts at a position, and the
position after it. -/
def characterReference? (source : Source) (position : Nat) :
    Option (String × Nat) :=
  if !source.hasAt position '&' then none
  else if source.hasAt (position + 1) '#' then
    let hexadecimal :=
      source.hasAt (position + 2) 'x' || source.hasAt (position + 2) 'X'
    let start := if hexadecimal then position + 3 else position + 2
    let stop :=
      source.skipWhile (if hexadecimal then isHexDigit else Char.isDigit) start
    let length := stop - start
    if length = 0 || (if hexadecimal then 6 else 7) < length ||
        !source.hasAt stop ';' then none
    else
      let base := if hexadecimal then 16 else 10
      let code := (source.slice start stop).foldl (fun value digit =>
        value * base + hexDigitValue digit) 0
      some (String.singleton (numericCharacter code), stop + 1)
  else
    let stop := source.skipWhile isAsciiAlphanumeric (position + 1)
    if source.hasAt stop ';' then
      (Markup.Entity.lookup? (source.sliceText (position + 1) (stop + 1))).map
        fun text => (text, stop + 1)
    else none

/-- Resolves the backslash escapes and character references of a text. -/
def unescape (inTable : Bool) (text : List Char) : String :=
  let source := text.toArray
  String.ofList (go source (source.size + 1) 0)
where
  go (source : Source) : (fuel position : Nat) → List Char
    | 0, _ => []
    | fuel + 1, position =>
        match source[position]? with
        | none => []
        | some '\\' =>
            if inTable && source.hasTextAt (position + 1) ['\\', '|'] then
              '|' :: go source fuel (position + 3)
            else
              match source[position + 1]? with
              | some next =>
                  if Text.isAsciiPunctuation next then
                    next :: go source fuel (position + 2)
                  else '\\' :: go source fuel (position + 1)
              | none => ['\\']
        | some '&' =>
            match characterReference? source position with
            | some (text, next) => text.toList ++ go source fuel next
            | none => '&' :: go source fuel (position + 1)
        | some '\r' => go source fuel (position + 1)
        | some character => character :: go source fuel (position + 1)

/-- How many parentheses may be open in a destination before another one is
refused. -/
def parenthesesLimit : Nat := 5

/-- A destination in angle brackets; the position is that after the opening
one. -/
private def bracketedEnd? (source : Source) (stop : Nat) :
    (fuel position : Nat) → Option Nat
  | 0, _ => none
  | fuel + 1, position =>
      if stop ≤ position then none
      else
        match source[position]? with
        | none => none
        | some '>' => some position
        | some '<' => none
        | some '\n' => none
        | some '\r' => none
        | some '\\' =>
            let escaped :=
              position + 1 < stop &&
                source[position + 1]?.any Text.isAsciiPunctuation
            bracketedEnd? source stop fuel
              (if escaped then position + 2 else position + 1)
        | some _ => bracketedEnd? source stop fuel (position + 1)

/-- A destination without brackets, which ends at a blank or an unbalanced
parenthesis. -/
def bareEnd? (source : Source) (stop : Nat) :
    (fuel position nested : Nat) → Option Nat
  | 0, _, _ => none
  | fuel + 1, position, nested =>
      let ended := if nested = 0 then some position else none
      if stop ≤ position then ended
      else
        match source[position]? with
        | none => ended
        | some '(' =>
            if parenthesesLimit < nested then none
            else bareEnd? source stop fuel (position + 1) (nested + 1)
        | some ')' =>
            if nested = 0 then
              some position
            else bareEnd? source stop fuel (position + 1) (nested - 1)
        | some '\\' =>
            let escaped :=
              position + 1 < stop &&
                source[position + 1]?.any Text.isAsciiPunctuation
            bareEnd? source stop fuel
              (if escaped then position + 2 else position + 1) nested
        | some character =>
            if character.toNat ≤ 0x20 then ended
            else bareEnd? source stop fuel (position + 1) nested

/-- The raw destination that starts at a position, and the position after it. -/
def destination? (source : Source) (stop position : Nat) :
    Option (List Char × Nat) :=
  let fuel := source.size + 1
  if source.hasAt position '<' && position < stop then
    (bracketedEnd? source stop fuel (position + 1)).map fun bracket =>
      (source.slice (position + 1) bracket, bracket + 1)
  else
    (bareEnd? source stop fuel position 0).map fun next =>
      (source.slice position next, next)

/-- What a label does at a line break: give up, or go on at the position
given. -/
abbrev LabelResume := Nat → Option Nat

/-- The state of reading a label: what has been kept, and how long it is
already. -/
structure LabelState where
  kept : List Char
  length : Nat
  hasText : Bool

/-- Reads blanks inside a label; gives the place after them and whether they
count as a change. -/
def labelBlanks (source : Source) (resume : LabelResume) (stop : Nat) :
    (fuel position width breaks : Nat) → Option (Nat × Nat)
  | 0, _, _, _ => none
  | fuel + 1, position, width, breaks =>
      match source[position]? with
      | none => some (position, width)
      | some character =>
          if stop ≤ position || !isAsciiSpace character then
            some (position, width)
          else
            match source.lineBreak? position with
            | some next =>
                if breaks = 0 then
                  match resume next with
                  | some next =>
                      labelBlanks source resume stop fuel next (width + 2) 1
                  | none => none
                else none
            | none =>
                labelBlanks source resume stop fuel (position + 1)
                  (width + if character = ' ' then 1 else 2) breaks

def labelRest? (source : Source) (inTable : Bool) (resume : LabelResume)
    (stop : Nat) :
    (fuel position : Nat) → LabelState → Option (LabelState × Nat)
  | 0, _, _ => none
  | fuel + 1, position, state =>
      if 1000 ≤ state.length || stop ≤ position then none
      else
        match source[position]? with
        | none => none
        | some '[' => none
        | some ']' => some (state, position + 1)
        | some character =>
            if character = '\\' && inTable &&
                source.hasTextAt (position + 1) ['\\', '|'] then
              labelRest? source inTable resume stop fuel (position + 2)
                { state with length := state.length + 2 }
            else if character = '\\' &&
                source[position + 1]?.any Text.isAsciiPunctuation then
              labelRest? source inTable resume stop fuel (position + 2)
                { kept := state.kept ++ source.slice position (position + 2)
                  length := state.length + 2, hasText := true }
            else if isAsciiSpace character then
              match labelBlanks source resume stop (source.size + 1)
                position 0 0 with
              | none => none
              | some (next, width) =>
                  if 1 < width then
                    labelRest? source inTable resume stop fuel next
                      { state with
                        kept := state.kept ++ [' '],
                          length := state.length + (next - position) }
                  else
                    labelRest? source inTable resume stop fuel next
                      { state with
                        kept := state.kept ++ [character],
                          length := state.length + 1 }
            else
              labelRest? source inTable resume stop fuel (position + 1)
                { kept := state.kept ++ [character], length := state.length + 1,
                  hasText := true }

private def isLabelBlank (character : Char) : Bool :=
  character = ' ' || character = '\t' || isLineBreak character

/-- Reads a label after its opening bracket: its normal form, by which labels
are compared, and the position after the closing bracket. -/
def label? (source : Source) (inTable : Bool) (resume : LabelResume)
    (stop position : Nat) :
    Option (String × Nat) :=
  match labelRest? source inTable resume stop (source.size + 1) position
    ⟨[], 0, false⟩ with
  | none => none
  | some (state, next) =>
      if state.hasText then
        let trimmed :=
          ((state.kept.dropWhile isLabelBlank).reverse.dropWhile
            isLabelBlank).reverse
        some (Text.foldCase (String.ofList trimmed), next)
      else none

/-- A link definition: the label in its normal form, the destination and the
title. -/
structure Definition where
  label : String
  destination : String
  title : String
  deriving DecidableEq, Repr

/-- The link definition for a label; the first one counts. -/
def lookupDefinition? (definitions : List Definition) (label : String) :
    Option Definition :=
  definitions.find? fun definition => definition.label = label

/-- Where a line goes on after its marks, unless it starts a block or underlines
a heading. -/
def definitionResume (source : Source)
    (containers : List Container) : LabelResume :=
  fun position =>
    let (cursor, entered) := (Cursor.start position).enterAll source containers
    let inContainers : Bool := entered = containers.length
    if interrupts source containers inContainers cursor.position ||
        (inContainers && (underline? source cursor.position).isSome) then none
    else some cursor.position

/-- Passes over blanks with at most one line break; also counts the line
breaks. -/
private def definitionSpace? (source : Source) (containers : List Container) :
    (fuel position breaks : Nat) → Option (Nat × Nat)
  | 0, _, _ => none
  | fuel + 1, position, breaks =>
      let position := source.skipSpace position
      match source.lineBreak? position with
      | none => some (position, breaks)
      | some next =>
          if 1 ≤ breaks then none
          else
            let (cursor, entered) :=
              (Cursor.start next).enterAll source containers
            let inContainers : Bool := entered = containers.length
            let (after, deep) := cursor.takeExactly source 4
            if !deep &&
              (interrupts source containers inContainers after.position ||
                (underline? source after.position).isSome) then none
            else definitionSpace? source containers fuel after.position
              (breaks + 1)

private def definitionTitle? (source : Source) (resume : LabelResume)
    (closing : Char) :
    (fuel position : Nat) → Option (List Char × Nat)
  | 0, _ => none
  | fuel + 1, position =>
      match source[position]? with
      | none => none
      | some character =>
          if character = closing then some ([], position + 1)
          else if character = '(' && closing = ')' then none
          else if isLineBreak character then
            match source.lineBreak? position with
            | none => none
            | some next =>
                if source.isBlankLine next then none
                else
                  match resume next with
                  | none => none
                  | some next =>
                      if source.isBlankLine next then none
                      else
                        (definitionTitle? source resume closing fuel next).map
                          fun (rest, stop) => ('\n' :: rest, stop)
          else if character = '\\' &&
              source[position + 1]?.any Text.isAsciiPunctuation then
            (definitionTitle? source resume closing fuel (position + 2)).map
              fun (rest, stop) =>
                (source.slice position (position + 2) ++ rest, stop)
          else
            (definitionTitle? source resume closing fuel (position + 1)).map
              fun (rest, stop) => (character :: rest, stop)

/-- The mark that closes a title opened by a mark. -/
def titleClosing? : Char → Option Char
  | '"' => some '"'
  | '\'' => some '\''
  | '(' => some ')'
  | _ => none

/-- Reads a link definition that starts with the bracket at a position; also
gives the position after it. -/
def definition? (source : Source) (containers : List Container)
    (position : Nat) :
    Option (Definition × Nat) := do
  if !source.hasAt position '[' then none
  else
    let resume := definitionResume source containers
    let fuel := source.size + 1
    let (label, next) ← label? source false resume source.size (position + 1)
    if !source.hasAt next ':' then none
    else
      let (start, _) ← definitionSpace? source containers fuel (next + 1) 0
      let (raw, stop) ← destination? source source.size start
      if stop = start then none
      else
        let plain : Definition := ⟨label, unescape false raw, ""⟩
        match definitionSpace? source containers fuel stop 0 with
        | none => pure (plain, stop)
        | some (titleStart, breaks) =>
            let breaks := if stop = source.size then breaks + 1 else breaks
            if titleStart = stop && breaks = 0 then none
            else if 1 < breaks then pure (plain, stop)
            else
              let title := do
                let closing ← (source[titleStart]?).bind titleClosing?
                definitionTitle? source resume closing fuel (titleStart + 1)
              let fallback := if 0 < breaks then some (plain, stop) else none
              match title with
              | none => fallback
              | some (title, titleStop) =>
                  if source.isBlankLine titleStop then
                    pure
                      ({ plain with title := unescape false title }, titleStop)
                  else fallback

end LessonSite.Markdown
