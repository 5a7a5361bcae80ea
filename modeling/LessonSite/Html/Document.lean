import LessonSite.Html.Construction.Table
import LessonSite.Html.Token.Reader

/-!
# Reading a document

A text is read into a document: its tokens are placed by the rules of the mode
or, inside a foreign element, by the rules for foreign content.  Every text is a
document.
-/

namespace LessonSite.Html

namespace Construction

variable (state : Construction)

/-- The rules of the current mode. -/
def placeByMode (token : Token) : Outcome :=
  match state.mode with
  | .initial => state.initial token
  | .beforeHtml => state.beforeHtml token
  | .beforeHead => state.beforeHead token
  | .inHead => state.inHead token
  | .afterHead => state.afterHead token
  | .inBody => state.inBody token
  | .inLiteral => state.inLiteral token
  | .inTable => state.inTable token
  | .inTableText => state.inTableText token
  | .inCaption => state.inCaption token
  | .inColumnGroup => state.inColumnGroup token
  | .inTableBody => state.inTableBody token
  | .inRow => state.inRow token
  | .inCell => state.inCell token
  | .inSelect => state.inSelect token
  | .inTableSelect => state.inTableSelect token
  | .inTemplate => state.inTemplate token
  | .afterBody => state.afterBody token
  | .inFrameset => state.inFrameset token
  | .afterFrameset => state.afterFrameset token
  | .afterDocument => state.afterDocument token
  | .afterFramesetDocument => state.afterFramesetDocument token

/-- The token meets the rules for foreign content. -/
def isForeign (token : Token) : Bool :=
  let element := state.currentName
  let opensTag : (String → Bool) → Bool := fun allowed =>
    match token with
    | .opening tag => allowed tag.name
    | _ => false
  let isCharacter :=
    match token with
    | .character _ => true
    | _ => false
  if token = .finish || state.opened.isEmpty || element.vocabulary = .html then
    false
  else if element.holdsMathText &&
      (isCharacter ||
        opensTag fun name => name != "mglyph" && name != "malignmark") then
    false
  else if element.holdsCommon && (isCharacter || opensTag fun _ => true) then
    false
  else if element = ⟨.math, "annotation-xml"⟩ then
    if opensTag (· == "svg") then false
    else if isCharacter || opensTag fun _ => true then
      !holdsCommonInMath element (state.dom.attributesOf state.current)
    else true
  else true

/-- Leaves the foreign vocabulary. -/
def breakOut : Construction :=
  state.closeUpTo fun element =>
    element.vocabulary = .html || element.holdsMathText || element.holdsCommon

/-- Opens an element of the foreign vocabulary that the innermost element
belongs to. -/
def openInForeign (tag : Tag) : Construction :=
  let vocabulary := state.currentName.vocabulary
  let name := if vocabulary = .svg then graphicsName tag.name else tag.name
  state.openVocabulary vocabulary { tag with name }

/-- A closing tag in foreign content closes the innermost element of its name;
the rules of the mode take over when a common element is met first. -/
def closeInForeign (name : String) : Outcome :=
  search state.opened true
where
  /-- The search from the innermost element outwards. -/
  search : List Nat → Bool → Outcome
    | [], _ => .placed state
    | node :: rest, innermost =>
        let element := state.nameOf node
        if !innermost && element.vocabulary = .html then
          state.placeByMode (.closing name)
        else if Text.lowerAscii element.name == name then
          .placed { state with opened := rest }
        else search rest false

def placeForeign (token : Token) : Outcome :=
  match token with
  | .character character =>
      if character = '\x00' then .placed (state.attachCharacter '\ufffd')
      else .placed
        ((if isGap character then state else state.noFrameset).attachCharacter
          character)
  | .opening tag =>
      if breaksOut tag then state.breakOut.placeByMode token
      else .placed (state.openInForeign tag)
  | .closing name =>
      if name == "br" || name == "p" then state.breakOut.placeByMode token
      else state.closeInForeign name
  | _ => .placed state

/-- Places a token, looking at it again at most the given number of times. -/
def placeWithin (state : Construction) (token : Token) : Nat → Construction
  | 0 => state
  | count + 1 =>
      match if state.isForeign token then
          state.placeForeign token
        else state.placeByMode token with
      | .placed state => state
      | .again state => placeWithin state token count

/-- Places a token.  Each time it is looked at again the mode comes closer to
the running text or an element has been closed, so the bound is never met. -/
def placeToken (state : Construction) (token : Token) : Construction :=
  let dropped := state.dropsLineFeed && token = .character '\n'
  let state := { state with dropsLineFeed := false }
  if dropped then state
  else placeWithin state token
    (32 + 8 * state.opened.length + 8 * state.templateModes.length)

/-- Reads the tokens of a text and places them. -/
def read (state : Construction) (input : List Char) : Construction :=
  match input with
  | [] => state.placeToken .finish
  | first :: others =>
      let (tokens, rest) :=
        readTokens state.textKind state.inForeign (first :: others)
      let state := tokens.foldl placeToken state
      if _shorter : rest.length < (first :: others).length then state.read rest
      else state.placeToken .finish
termination_by input.length
decreasing_by exact _shorter

end Construction

/-- The document that a text describes. -/
def parse (text : String) : List Node :=
  (Construction.empty.read (normalizeInput text.toList)).dom.toNodes 0

end LessonSite.Html
