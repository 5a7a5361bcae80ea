import LessonSite.Html.Construction.Formatting

/-!
# Rules up to the body

The rules for what stands before the body, in the head and in templates.  What a
document leaves out, its outermost element, its head and its body, is supplied.
-/

namespace LessonSite.Html.Construction

variable (state : Construction)

/-- Attributes of a repeated outermost tag are added to the outermost
element. -/
def mergeOutermost (tag : Tag) : Construction :=
  if state.hasOpen "template" then state
  else { state with
    dom := state.dom.addAttributes state.outermost tag.attributes }

/-- Tags of elements that belong into the head, wherever they stand. -/
def isHeadTag (name : String) : Bool :=
  ["base", "basefont", "bgsound", "link", "meta", "noframes", "script", "style",
    "template", "title"].contains name

/-- Opens an element that belongs into the head. -/
def openHeadTag (tag : Tag) : Construction :=
  if ["base", "basefont", "bgsound", "link", "meta"].contains tag.name then
    state.addEmpty tag
  else if tag.name == "template" then
    { (state.openTag tag).addMarker.noFrameset with
      mode := .inTemplate, templateModes := .inTemplate :: state.templateModes }
  else state.openLiteral tag

/-- Leaves the innermost template. -/
def leaveTemplate : Construction :=
  let state := (state.closeThrough "template").dropToMarker
  { state with templateModes := state.templateModes.drop 1 }.refit

/-- The closing tag of a template. -/
def closeTemplate : Construction :=
  if state.hasOpen "template" then
    (state.closeWhile ElementName.closesWithTemplate).leaveTemplate
  else state

/-- Closing tags that supply what is missing before them. -/
def suppliesMissing (name : String) : Bool :=
  ["body", "html", "br"].contains name

/-- Rules before anything but the document type. -/
def initial : Token → Outcome
  | .character character =>
      if isGap character then .placed state
      else .again { state with oldLayout := true, mode := .beforeHtml }
  | .comment => .placed state
  | .doctype quirks =>
      .placed { state with oldLayout := quirks, mode := .beforeHtml }
  | _ => .again { state with oldLayout := true, mode := .beforeHtml }

/-- Rules before the outermost element. -/
def beforeHtml (token : Token) : Outcome :=
  let supplied := Outcome.again ((state.openRoot []).withMode .beforeHead)
  match token with
  | .character character => if isGap character then .placed state else supplied
  | .comment => .placed state
  | .doctype _ => .placed state
  | .opening tag =>
      if tag.name == "html" then
        .placed ((state.openRoot tag.attributes).withMode .beforeHead)
      else supplied
  | .closing name =>
      if name == "head" || suppliesMissing name then supplied else .placed state
  | .finish => supplied

def openHead (tag : Tag) : Construction :=
  let state := state.openTag tag
  { state with head := some state.current, mode := .inHead }

/-- Rules between the outermost tag and the head. -/
def beforeHead (token : Token) : Outcome :=
  let supplied := Outcome.again (state.openHead ⟨"head", [], false⟩)
  match token with
  | .character character => if isGap character then .placed state else supplied
  | .comment => .placed state
  | .doctype _ => .placed state
  | .opening tag =>
      if tag.name == "html" then .placed (state.mergeOutermost tag)
      else if tag.name == "head" then .placed (state.openHead tag)
      else supplied
  | .closing name =>
      if name == "head" || suppliesMissing name then supplied else .placed state
  | .finish => supplied

def inHead (token : Token) : Outcome :=
  let left := Outcome.again (state.pop.withMode .afterHead)
  match token with
  | .character character =>
      if isGap character then
        .placed (state.attachCharacter character)
      else left
  | .comment => .placed state
  | .doctype _ => .placed state
  | .opening tag =>
      if tag.name == "html" then .placed (state.mergeOutermost tag)
      else if isHeadTag tag.name || tag.name == "noscript" then
        .placed (state.openHeadTag tag)
      else if tag.name == "head" then .placed state
      else left
  | .closing name =>
      if name == "head" then .placed (state.pop.withMode .afterHead)
      else if name == "template" then .placed state.closeTemplate
      else if suppliesMissing name then left
      else .placed state
  | .finish => left

/-- Rules between the head and the body. -/
def afterHead (token : Token) : Outcome :=
  let supplied := Outcome.again ((state.openImplied "body").withMode .inBody)
  match token with
  | .character character =>
      if isGap character then
        .placed (state.attachCharacter character)
      else supplied
  | .comment => .placed state
  | .doctype _ => .placed state
  | .opening tag =>
      if tag.name == "html" then .placed (state.mergeOutermost tag)
      else if tag.name == "body" then
        .placed ((state.openTag tag).noFrameset.withMode .inBody)
      else if tag.name == "frameset" then
        .placed ((state.openTag tag).withMode .inFrameset)
      else if isHeadTag tag.name then
        let head := state.head.getD 0
        .placed
          (({ state with opened := head :: state.opened }.openHeadTag
            tag).removeOpen head)
      else if tag.name == "head" then .placed state
      else supplied
  | .closing name =>
      if name == "template" then .placed state.closeTemplate
      else if suppliesMissing name then supplied
      else .placed state
  | .finish => supplied

/-- The end of the text in a template. -/
def finishTemplate : Outcome :=
  if state.hasOpen "template" then .again state.leaveTemplate else .placed state

/-- Rules for literal text, which ends with its closing tag. -/
def inLiteral : Token → Outcome
  | .character character => .placed (state.attachCharacter character)
  | .closing _ => .placed (state.pop.withMode state.returnMode)
  | .finish => .again (state.pop.withMode state.returnMode)
  | _ => .placed state

end LessonSite.Html.Construction
