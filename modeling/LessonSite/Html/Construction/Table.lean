import LessonSite.Html.Construction.Body

/-!
# Rules in tables and selections

A table holds its parts only; other content is moved in front of it.  A
selection holds options only; other tags are ignored.
-/

namespace LessonSite.Html.Construction

variable (state : Construction)

/-- Places a token as in running text, with misplaced content going in front of
the table. -/
def fosterInBody (token : Token) : Outcome :=
  match { state with fostering := true }.inBody token with
  | .placed state => .placed { state with fostering := false }
  | .again state => .again { state with fostering := false }

/-- The tag names that begin another part of a table. -/
def isTablePart (name : String) : Bool :=
  ["caption", "col", "colgroup", "tbody", "td", "tfoot", "th", "thead",
    "tr"].contains name

/-- Characters in a table wait until the next tag shows where they go. -/
def inTableCharacter (token : Token) : Outcome :=
  if state.currentName.isTableFrame then
    .again { state with returnMode := state.mode, mode := .inTableText }
  else state.fosterInBody token

def inTable (token : Token) : Outcome :=
  match token with
  | .character _ => state.inTableCharacter token
  | .comment => .placed state
  | .doctype _ => .placed state
  | .finish => state.inBody token
  | .opening tag =>
      let name := tag.name
      let cleared := state.closeUpTo ElementName.endsTableScope
      if name == "caption" then
        .placed ((cleared.addMarker.openTag tag).withMode .inCaption)
      else if name == "colgroup" then
        .placed ((cleared.openTag tag).withMode .inColumnGroup)
      else if name == "col" then
        .again ((cleared.openImplied "colgroup").withMode .inColumnGroup)
      else if ["tbody", "tfoot", "thead"].contains name then
        .placed ((cleared.openTag tag).withMode .inTableBody)
      else if ["td", "th", "tr"].contains name then
        .again ((cleared.openImplied "tbody").withMode .inTableBody)
      else if name == "table" then
        if state.nameInScope ElementName.endsTableScope "table" then
          .again (state.closeThrough "table").refit
        else .placed state
      else if ["style", "script", "template"].contains name then
        .placed (state.openHeadTag tag)
      else if name == "input" && isHiddenInput tag then
        .placed (state.addEmpty tag)
      else if name == "form" then
        if state.hasOpen "template" || state.form.isSome then .placed state
        else
          let (node, state) := state.place .html "form" tag.attributes
          .placed { state with form := some node }
      else state.fosterInBody token
  | .closing name =>
      if name == "table" then
        if state.nameInScope ElementName.endsTableScope "table" then
          .placed (state.closeThrough "table").refit
        else .placed state
      else if isTablePart name || name == "body" || name == "html" then
        .placed state
      else if name == "template" then .placed state.closeTemplate
      else state.fosterInBody token

/-- Places the waiting characters: blanks stay in the table, other text goes in
front of it. -/
def placePending : Construction :=
  let waiting := state.pending.reverse
  let state := { state with pending := [] }
  if waiting.all isGap then
    waiting.foldl (fun state character => state.attachCharacter character) state
  else
    let state :=
      waiting.foldl (fun state character => state.placeCharacter character)
        { state with fostering := true }
    { state with fostering := false }

/-- Rules while characters of a table are waiting. -/
def inTableText : Token → Outcome
  | .character character =>
      .placed (if character = '\x00' then state
        else { state with pending := character :: state.pending })
  | _ => .again (state.placePending.withMode state.returnMode)

def closeCaption : Option Construction :=
  if state.nameInScope ElementName.endsTableScope "caption" then
    some
      ((state.closeImplied.closeThrough "caption").dropToMarker.withMode
        .inTable)
  else none

def inCaption (token : Token) : Outcome :=
  match token with
  | .opening tag =>
      if isTablePart tag.name then
        match state.closeCaption with
        | some state => .again state
        | none => .placed state
      else state.inBody token
  | .closing name =>
      if name == "caption" then .placed (state.closeCaption.getD state)
      else if name == "table" then
        match state.closeCaption with
        | some state => .again state
        | none => .placed state
      else if isTablePart name || name == "body" || name == "html" then
        .placed state
      else state.inBody token
  | _ => state.inBody token

def inColumnGroup (token : Token) : Outcome :=
  let left :=
    if state.currentIs "colgroup" then
      Outcome.again (state.pop.withMode .inTable)
    else .placed state
  match token with
  | .character character =>
      if isGap character then
        .placed (state.attachCharacter character)
      else left
  | .comment => .placed state
  | .doctype _ => .placed state
  | .finish => state.inBody token
  | .opening tag =>
      if tag.name == "html" then .placed (state.mergeOutermost tag)
      else if tag.name == "col" then .placed (state.addEmpty tag)
      else if tag.name == "template" then .placed (state.openHeadTag tag)
      else left
  | .closing name =>
      if name == "colgroup" then
        .placed
          (if state.currentIs "colgroup" then
            state.pop.withMode .inTable
          else state)
      else if name == "col" then .placed state
      else if name == "template" then .placed state.closeTemplate
      else left

/-- Closes the open group of rows. -/
def closeRows : Construction :=
  (state.closeUpTo ElementName.holdsRows).pop.withMode .inTable

def inTableBody (token : Token) : Outcome :=
  let left :=
    if state.kindInScope ElementName.endsTableScope
      (ElementName.isOneOf ["table", "tbody", "tfoot"])
    then Outcome.again state.closeRows
    else .placed state
  match token with
  | .opening tag =>
      let cleared := state.closeUpTo ElementName.holdsRows
      if tag.name == "tr" then .placed ((cleared.openTag tag).withMode .inRow)
      else if tag.name == "td" || tag.name == "th" then
        .again ((cleared.openImplied "tr").withMode .inRow)
      else if isTablePart tag.name then left
      else state.inTable token
  | .closing name =>
      if ["tbody", "tfoot", "thead"].contains name then
        .placed
          (if state.nameInScope ElementName.endsTableScope name then
            state.closeRows
            else state)
      else if name == "table" then left
      else if isTablePart name || name == "body" || name == "html" then
        .placed state
      else state.inTable token
  | _ => state.inTable token

def closeRow : Construction :=
  (state.closeUpTo ElementName.holdsCells).pop.withMode .inTableBody

def inRow (token : Token) : Outcome :=
  let rowIsOpen := state.nameInScope ElementName.endsTableScope "tr"
  let left := if rowIsOpen then Outcome.again state.closeRow else .placed state
  match token with
  | .opening tag =>
      if tag.name == "td" || tag.name == "th" then
        .placed
          (((state.closeUpTo ElementName.holdsCells).openTag
            tag).addMarker.withMode .inCell)
      else if isTablePart tag.name then left
      else state.inTable token
  | .closing name =>
      if name == "tr" then .placed (if rowIsOpen then state.closeRow else state)
      else if name == "table" then left
      else if ["tbody", "tfoot", "thead"].contains name then
        if state.nameInScope ElementName.endsTableScope name then
          left
        else .placed state
      else if isTablePart name || name == "body" || name == "html" then
        .placed state
      else state.inTable token
  | _ => state.inTable token

def closeCell : Construction :=
  (state.closeImplied.openedAfter ElementName.isCell).dropToMarker.withMode
    .inRow

def inCell (token : Token) : Outcome :=
  match token with
  | .opening tag =>
      if isTablePart tag.name then
        if state.kindInScope ElementName.endsTableScope ElementName.isCell then
          .again state.closeCell
        else .placed state
      else state.inBody token
  | .closing name =>
      if name == "td" || name == "th" then
        .placed <|
          if state.nameInScope ElementName.endsTableScope name then
            (state.closeImplied.closeThrough name).dropToMarker.withMode .inRow
          else state
      else if ["table", "tbody", "tfoot", "thead", "tr"].contains name then
        if state.nameInScope ElementName.endsTableScope name then
          .again state.closeCell
        else .placed state
      else if isTablePart name || name == "body" || name == "html" then
        .placed state
      else state.inBody token
  | _ => state.inBody token

def closeSelect : Construction :=
  (state.closeThrough "select").refit

/-- The open selection is within reach. -/
def selectInScope : Bool :=
  state.nameInScope ElementName.endsSelectScope "select"

def inSelect (token : Token) : Outcome :=
  let outsideOption := if state.currentIs "option" then state.pop else state
  match token with
  | .character character =>
      .placed
        (if character = '\x00' then state else state.attachCharacter character)
  | .comment => .placed state
  | .doctype _ => .placed state
  | .finish => state.inBody token
  | .opening tag =>
      let name := tag.name
      if name == "html" then .placed (state.mergeOutermost tag)
      else if name == "option" then .placed (outsideOption.openTag tag)
      else if name == "optgroup" then
        .placed ((if outsideOption.currentIs "optgroup" then outsideOption.pop
          else outsideOption).openTag tag)
      else if name == "select" then
        .placed (if state.selectInScope then state.closeSelect else state)
      else if ["input", "keygen", "textarea"].contains name then
        if state.selectInScope then .again state.closeSelect else .placed state
      else if name == "script" || name == "template" then
        .placed (state.openHeadTag tag)
      else .placed state
  | .closing name =>
      if name == "optgroup" then
        let state :=
          match state.opened with
          | _ :: second :: _ =>
              if state.currentIs "option" &&
                (state.nameOf second).isHtml "optgroup" then state.pop
              else state
          | _ => state
        .placed (if state.currentIs "optgroup" then state.pop else state)
      else if name == "option" then .placed outsideOption
      else if name == "select" then
        .placed (if state.selectInScope then state.closeSelect else state)
      else if name == "template" then .placed state.closeTemplate
      else .placed state

/-- Tags of a table that end a selection in it. -/
def endsTableSelect (name : String) : Bool :=
  ["caption", "table", "tbody", "tfoot", "thead", "tr", "td", "th"].contains
    name

/-- Rules in a selection in a table. -/
def inTableSelect (token : Token) : Outcome :=
  match token with
  | .opening tag =>
      if endsTableSelect tag.name then
        .again state.closeSelect
      else state.inSelect token
  | .closing name =>
      if endsTableSelect name then
        if state.nameInScope ElementName.endsTableScope name then
          .again state.closeSelect
        else .placed state
      else state.inSelect token
  | _ => state.inSelect token

def inTemplate (token : Token) : Outcome :=
  let switch := fun mode =>
    Outcome.again
      { state with mode, templateModes := mode :: state.templateModes.drop 1 }
  match token with
  | .character character =>
      if character = '\x00' then .placed state else state.inBody token
  | .comment => .placed state
  | .doctype _ => .placed state
  | .finish => state.finishTemplate
  | .opening tag =>
      if isHeadTag tag.name then .placed (state.openHeadTag tag)
      else if ["caption", "colgroup", "tbody", "tfoot", "thead"].contains
          tag.name then
        switch .inTable
      else if tag.name == "col" then switch .inColumnGroup
      else if tag.name == "tr" then switch .inTableBody
      else if tag.name == "td" || tag.name == "th" then switch .inRow
      else switch .inBody
  | .closing name =>
      .placed (if name == "template" then state.closeTemplate else state)

end LessonSite.Html.Construction
