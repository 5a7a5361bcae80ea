import LessonSite.Html.Construction.Head

/-!
# Rules in the body

What an opening or a closing tag does to the open elements in running text.
-/

namespace LessonSite.Html.Construction

variable (state : Construction)

/-- Elements that close a paragraph and are then simply open. -/
def isBlockTag (name : String) : Bool :=
  ["address", "article", "aside", "blockquote", "center", "details", "dialog",
    "dir", "div", "dl", "fieldset", "figcaption", "figure", "footer", "header",
    "hgroup", "main", "menu", "nav", "ol", "p", "section", "summary",
    "ul"].contains name

/-- Elements whose closing tag closes what closes by itself within them. -/
def isClosedBlock (name : String) : Bool :=
  (isBlockTag name && name != "p") || ["button", "listing", "pre"].contains name

/-- Formatting elements, apart from links. -/
def isFormattingTag (name : String) : Bool :=
  ["b", "big", "code", "em", "font", "i", "s", "small", "strike", "strong",
    "tt", "u"].contains name

def isHeadingTag (name : String) : Bool :=
  ["h1", "h2", "h3", "h4", "h5", "h6"].contains name

/-- Parts of a table or a document, which mean nothing in running text. -/
def isStrayTag (name : String) : Bool :=
  ["caption", "col", "colgroup", "frame", "head", "tbody", "td", "tfoot", "th",
    "thead", "tr"].contains name

/-- A new list item closes an open one. -/
def closeOpenItem (names : List String) : Construction :=
  search state.opened
where
  /-- The search for an open item, from the innermost element outwards. -/
  search : List Nat → Construction
    | [] => state
    | node :: rest =>
        let element := state.nameOf node
        if element.isOneOf names then
          (state.closeImpliedExcept element.name).closeThrough element.name
        else if element.isSpecial &&
          !element.isOneOf ["address", "div", "p"] then state
        else search rest

def isHiddenInput (tag : Tag) : Bool :=
  (Attribute.find? tag.attributes "type").any fun kind =>
    Text.lowerAscii kind == "hidden"

/-- Opens the outermost element of a foreign vocabulary. -/
def openVocabulary (vocabulary : Vocabulary) (tag : Tag) : Construction :=
  let attributes := foreignAttributes tag.attributes
  if tag.selfClosing then (state.place vocabulary tag.name attributes).2
  else state.openForeign vocabulary tag.name attributes

/-- A frameset takes the place of a body without visible content. -/
def replaceBody (tag : Tag) : Construction :=
  match state.framesetAllowed, state.body? with
  | true, some body =>
      (({ state with
          dom := state.dom.detach body, opened := [state.outermost] }).openTag
        tag).withMode .inFrameset
  | _, _ => state

/-- A repeated body tag adds attributes. -/
def mergeBody (tag : Tag) : Construction :=
  match state.body?, state.hasOpen "template" with
  | some body, false =>
      { state.noFrameset with
        dom := state.dom.addAttributes body tag.attributes }
  | _, _ => state

/-- The mode that a selection begun here is read in. -/
def selectMode : Mode :=
  if [Mode.inTable, .inCaption, .inTableBody, .inRow, .inCell].contains
      state.mode then
    .inTableSelect
  else .inSelect

/-- Opens an element whose first line feed is dropped. -/
def openPreformatted (tag : Tag) : Construction :=
  { (state.closeOpenParagraph.openTag tag).noFrameset with
    dropsLineFeed := true }

/-- Opens a form, of which there is only one at a time. -/
def openForm (tag : Tag) : Construction :=
  let inTemplate := state.hasOpen "template"
  if state.form.isSome && !inTemplate then state
  else
    let state := state.closeOpenParagraph.openTag tag
    if inTemplate then state else { state with form := some state.current }

/-- An element without content in running text. -/
def addVoid (tag : Tag) : Construction :=
  let state := state.reopenFormatting.addEmpty tag
  if tag.name == "input" && isHiddenInput tag then state else state.noFrameset

/-- Opening tags in running text. -/
def openInBody (state : Construction) (given : Tag) : Construction :=
  let tag :=
    if given.name == "image" then { given with name := "img" } else given
  let name := tag.name
  if name == "html" then state.mergeOutermost tag
  else if isHeadTag name then state.openHeadTag tag
  else if name == "body" then state.mergeBody tag
  else if name == "frameset" then state.replaceBody tag
  else if isBlockTag name then state.closeOpenParagraph.openTag tag
  else if isHeadingTag name then
    let state := state.closeOpenParagraph
    (if state.currentName.isHeading then state.pop else state).openTag tag
  else if name == "pre" || name == "listing" then state.openPreformatted tag
  else if name == "form" then state.openForm tag
  else if name == "li" then
    (state.noFrameset.closeOpenItem ["li"]).closeOpenParagraph.openTag tag
  else if name == "dd" || name == "dt" then
    (state.noFrameset.closeOpenItem ["dd", "dt"]).closeOpenParagraph.openTag tag
  else if name == "plaintext" then
    { state.closeOpenParagraph.openTag tag with plain := true }
  else if name == "button" then
    let state :=
      if state.nameInScope ElementName.endsScope "button" then
        state.closeImplied.closeThrough "button"
      else state
    (state.reopenFormatting.openTag tag).noFrameset
  else if name == "a" then
    state.closeOuterLink.reopenFormatting.openFormatting tag
  else if isFormattingTag name then state.reopenFormatting.openFormatting tag
  else if name == "nobr" then
    let state := state.reopenFormatting
    let state :=
      if state.nameInScope ElementName.endsScope "nobr" then
        (state.closeFormatting "nobr").reopenFormatting
      else state
    state.openFormatting tag
  else if ["applet", "marquee", "object"].contains name then
    (state.reopenFormatting.openTag tag).addMarker.noFrameset
  else if name == "table" then
    ((if state.oldLayout then state else state.closeOpenParagraph).openTag
      tag).noFrameset.withMode .inTable
  else if ["area", "br", "embed", "img", "input", "keygen", "wbr"].contains
      name then
    state.addVoid tag
  else if ["param", "source", "track"].contains name then state.addEmpty tag
  else if name == "hr" then (state.closeOpenParagraph.addEmpty tag).noFrameset
  else if name == "textarea" then
    { state.noFrameset.openLiteral tag with dropsLineFeed := true }
  else if name == "xmp" then
    state.closeOpenParagraph.reopenFormatting.noFrameset.openLiteral tag
  else if name == "iframe" then state.noFrameset.openLiteral tag
  else if name == "noembed" || name == "noscript" then state.openLiteral tag
  else if name == "select" then
    (state.reopenFormatting.openTag tag).noFrameset.withMode state.selectMode
  else if name == "option" || name == "optgroup" then
    (if state.currentIs "option" then
      state.pop
    else state).reopenFormatting.openTag tag
  else if name == "rb" || name == "rtc" then
    (if state.nameInScope ElementName.endsScope "ruby" then
      state.closeImplied
    else state).openTag tag
  else if name == "rp" || name == "rt" then
    (if state.nameInScope ElementName.endsScope "ruby" then
      state.closeImpliedExcept "rtc"
      else state).openTag tag
  else if name == "math" then state.reopenFormatting.openVocabulary .math tag
  else if name == "svg" then state.reopenFormatting.openVocabulary .svg tag
  else if isStrayTag name then state
  else state.reopenFormatting.openTag tag

def closeForm : Construction :=
  if state.hasOpen "template" then
    if state.nameInScope ElementName.endsScope "form" then
      state.closeImplied.closeThrough "form"
    else state
  else
    match state.form with
    | none => state
    | some form =>
        let state := { state with form := none }
        if state.inScope ElementName.endsScope (· == form) then
          state.closeImplied.removeOpen form
        else state

/-- Closing tags in running text. -/
def closeInBody (name : String) : Construction :=
  if name == "template" then state.closeTemplate
  else if name == "body" || name == "html" then
    if state.nameInScope ElementName.endsScope "body" then
      state.withMode (if name == "body" then .afterBody else .afterDocument)
    else state
  else if isClosedBlock name then
    if state.nameInScope ElementName.endsScope name then
      state.closeImplied.closeThrough name
    else state
  else if name == "form" then state.closeForm
  else if name == "p" then
    (if state.nameInScope ElementName.endsButtonScope "p" then state
      else state.openImplied "p").closeParagraph
  else if name == "li" then
    if state.nameInScope ElementName.endsListScope name then
      (state.closeImpliedExcept name).closeThrough name
    else state
  else if name == "dd" || name == "dt" then
    if state.nameInScope ElementName.endsScope name then
      (state.closeImpliedExcept name).closeThrough name
    else state
  else if isHeadingTag name then
    if state.kindInScope ElementName.endsScope ElementName.isHeading then
      state.closeImplied.openedAfter ElementName.isHeading
    else state
  else if name == "a" || name == "nobr" || isFormattingTag name then
    state.closeFormatting name
  else if ["applet", "marquee", "object"].contains name then
    if state.nameInScope ElementName.endsScope name then
      (state.closeImplied.closeThrough name).dropToMarker
    else state
  else if name == "br" then state.openInBody ⟨"br", [], false⟩
  else state.closeOrdinary name

def placeCharacter (character : Char) : Construction :=
  if character = '\x00' then state
  else
    let state := state.reopenFormatting
    (if isGap character then state else state.noFrameset).attachCharacter
      character

def inBody : Token → Outcome
  | .character character => .placed (state.placeCharacter character)
  | .comment => .placed state
  | .doctype _ => .placed state
  | .opening tag => .placed (state.openInBody tag)
  | .closing name => .placed (state.closeInBody name)
  | .finish =>
      if state.templateModes.isEmpty then
        .placed state
      else state.finishTemplate

def afterBody (token : Token) : Outcome :=
  match token with
  | .character character =>
      if isGap character then .placed (state.placeCharacter character)
      else .again (state.withMode .inBody)
  | .opening tag =>
      if tag.name == "html" then .placed (state.mergeOutermost tag)
      else .again (state.withMode .inBody)
  | .closing name =>
      if name == "html" then .placed (state.withMode .afterDocument)
      else .again (state.withMode .inBody)
  | _ => .placed state

def afterDocument (token : Token) : Outcome :=
  match token with
  | .character character =>
      if isGap character then .placed (state.placeCharacter character)
      else .again (state.withMode .inBody)
  | .opening tag =>
      if tag.name == "html" then .placed (state.mergeOutermost tag)
      else .again (state.withMode .inBody)
  | .closing _ => .again (state.withMode .inBody)
  | _ => .placed state

def inFrameset : Token → Outcome
  | .character character =>
      .placed
        (if isGap character then state.attachCharacter character else state)
  | .opening tag =>
      .placed <|
        if tag.name == "html" then state.mergeOutermost tag
        else if tag.name == "frameset" then state.openTag tag
        else if tag.name == "frame" then state.addEmpty tag
        else if tag.name == "noframes" then state.openHeadTag tag
        else state
  | .closing name =>
      if name == "frameset" && state.opened.length ≠ 1 then
        let state := state.pop
        .placed
          (if state.currentIs "frameset" then
            state
          else state.withMode .afterFrameset)
      else .placed state
  | _ => .placed state

def afterFrameset : Token → Outcome
  | .character character =>
      .placed
        (if isGap character then state.attachCharacter character else state)
  | .opening tag =>
      .placed <|
        if tag.name == "html" then state.mergeOutermost tag
        else if tag.name == "noframes" then state.openHeadTag tag
        else state
  | .closing name =>
      .placed
        (if name == "html" then
          state.withMode .afterFramesetDocument
        else state)
  | _ => .placed state

/-- Rules after a document made of framesets. -/
def afterFramesetDocument : Token → Outcome
  | .character character =>
      .placed
        (if isGap character then state.placeCharacter character else state)
  | .opening tag =>
      .placed <|
        if tag.name == "html" then state.mergeOutermost tag
        else if tag.name == "noframes" then state.openHeadTag tag
        else state
  | _ => .placed state

end LessonSite.Html.Construction
