import LessonSite.Html.Construction

/-!
# Formatting elements

Formatting elements that are closed by something other than their own closing
tag open again where the text goes on.  A closing tag that meets other open
elements on its way splits the formatting element, so that the tree stays a
tree.
-/

namespace LessonSite.Html

/-- The entry belongs to the given node. -/
def Formatting.isFor (node : Nat) : Formatting → Bool
  | .marker => false
  | .element entry _ => entry == node

namespace Construction

variable (state : Construction)

/-- Adds a marker, which hides the older formatting elements. -/
def addMarker : Construction :=
  { state with formatting := .marker :: state.formatting }

/-- Forgets the formatting elements up to the newest marker. -/
def dropToMarker : Construction :=
  { state with
    formatting := (state.formatting.dropWhile (· != .marker)).drop 1 }

/-- The formatting elements that no marker hides, the newest first. -/
def visibleFormatting : List (Nat × Tag) :=
  (state.formatting.takeWhile (· != .marker)).filterMap fun entry =>
    match entry with
    | .marker => none
    | .element node tag => some (node, tag)

/-- Forgets a formatting element. -/
def dropFormatting (node : Nat) : Construction :=
  { state with formatting := state.formatting.eraseP (Formatting.isFor node) }

/-- The entry need not be reopened. -/
def isSettled : Formatting → Bool
  | .marker => true
  | .element node _ => state.opened.contains node

/-- Opens the given formatting elements again, the oldest first, and returns
their entries with the newest first. -/
def reopenAll (state : Construction) (reopened : List Formatting) :
    List Formatting → Construction × List Formatting
  | [] => (state, reopened)
  | .marker :: rest => reopenAll state (.marker :: reopened) rest
  | .element _ tag :: rest =>
      let state := state.openTag tag
      reopenAll state (.element state.current tag :: reopened) rest

/-- Opens the formatting elements again that were closed by something else. -/
def reopenFormatting : Construction :=
  let waiting := state.formatting.takeWhile fun entry => !state.isSettled entry
  let settled := state.formatting.drop waiting.length
  let (state, reopened) := reopenAll state [] waiting.reverse
  { state with formatting := reopened ++ settled }

/-- The tags open the same element with the same attributes, in whatever
order. -/
def sameTag (left right : Tag) : Bool :=
  left.name == right.name &&
    left.attributes.length == right.attributes.length &&
    left.attributes.all right.attributes.contains

/-- Opens a formatting element.  Of four equal ones the oldest is forgotten. -/
def openFormatting (tag : Tag) : Construction :=
  let equal := state.visibleFormatting.filter fun entry => sameTag tag entry.2
  let state :=
    match equal.getLast? with
    | some (oldest, _) =>
        if equal.length ≥ 3 then state.dropFormatting oldest else state
    | none => state
  let state := state.openTag tag
  { state with formatting := .element state.current tag :: state.formatting }

/-- Closes the innermost element of a name, unless a special one is met before
it. -/
def closeOrdinary (name : String) : Construction :=
  search state.opened
where
  /-- The search from the innermost element outwards. -/
  search : List Nat → Construction
    | [] => state
    | node :: rest =>
        if (state.nameOf node).isHtml name then
          { state with opened := rest }
        else if (state.nameOf node).isSpecial then state
        else search rest

/-- Where the new entry of a split formatting element goes in the list. -/
inductive Bookmark where
  | instead (node : Nat)
  | newerThan (node : Nat)

/-- The list with an entry put at a bookmark, where `formatting` is the split
element. -/
def placeAtBookmark (formatting : Nat) (entry : Formatting)
    (entries : List Formatting) :
    Bookmark → List Formatting
  | .instead node =>
      entries.map fun old => if Formatting.isFor node old then entry else old
  | .newerThan node =>
      (entries.flatMap fun old =>
          if Formatting.isFor node old then [entry, old] else [old]).eraseP
        (Formatting.isFor formatting)

/-- The walk from the furthest block outwards to the formatting element.
`between` are the open elements between the two, the innermost first; `kept` are
those that stay open.  Only the three innermost ones are split, the others lose
their formatting. -/
def splitBetween (block : Nat) (count last : Nat) (bookmark : Bookmark)
    (kept : List Nat)
    (state : Construction) : List Nat → Construction × Nat × Bookmark × List Nat
  | [] => (state, last, bookmark, kept.reverse)
  | node :: rest =>
      if count ≥ 3 then splitBetween block (count + 1) last bookmark kept
        (state.dropFormatting node) rest
      else
        match state.formatting.find? (Formatting.isFor node) with
        | some (.element _ tag) =>
            let (copy, dom) :=
              state.dom.createElement ⟨.html, tag.name⟩ tag.attributes
            let dom := (dom.detach last).append copy last
            let formatting := state.formatting.map fun old =>
              if Formatting.isFor node old then .element copy tag else old
            let bookmark := if last = block then .newerThan copy else bookmark
            splitBetween block (count + 1) copy bookmark (copy :: kept)
              { state with dom, formatting } rest
        | _ => splitBetween block (count + 1) last bookmark kept state rest

/-- One round of splitting a formatting element, and whether there is another
one. -/
def splitOnce (name : String) : Bool × Construction :=
  match state.visibleFormatting.find? fun entry => entry.2.name == name with
  | none => (false, state.closeOrdinary name)
  | some (node, tag) =>
      if !state.opened.contains node then (false, state.dropFormatting node)
      else if !state.inScope ElementName.endsScope (· == node) then
        (false, state)
      else
        let inside := state.opened.takeWhile (· != node)
        let outside := (state.opened.drop inside.length).drop 1
        match inside.reverse.find? fun inner =>
          (state.nameOf inner).isSpecial with
        | none => (false, { state with opened := outside }.dropFormatting node)
        | some block =>
            let within := inside.takeWhile (· != block)
            let between := (inside.drop within.length).drop 1
            let ancestor := outside.headD 0
            let (state, last, bookmark, kept) :=
              splitBetween block 0 block (.instead node) [] state between
            let state := { state with dom := state.dom.detach last }
            let state :=
              { state with
                opened := within ++ block :: kept ++ node :: outside }
            let state := state.attach ancestor last
            let (copy, dom) :=
              state.dom.createElement ⟨.html, tag.name⟩ tag.attributes
            let dom := (dom.moveChildren block copy).append block copy
            let formatting :=
              placeAtBookmark node (.element copy tag) state.formatting bookmark
            let state := { state with
              dom, formatting,
                opened := within ++ copy :: block :: kept ++ outside }
            (true, state)

/-- Closes a formatting element by its closing tag. -/
def closeFormatting (name : String) : Construction :=
  if state.currentIs name &&
    !state.formatting.any (Formatting.isFor state.current) then state.pop
  else rounds 8 state
where
  /-- At most eight rounds are made. -/
  rounds : Nat → Construction → Construction
    | 0, state => state
    | count + 1, state =>
        match state.splitOnce name with
        | (true, state) => rounds count state
        | (false, state) => state

/-- A link inside a link closes the outer one. -/
def closeOuterLink : Construction :=
  match state.visibleFormatting.find? fun entry =>
    (state.nameOf entry.1).isHtml "a" with
  | none => state
  | some (node, _) =>
      ((state.closeFormatting "a").dropFormatting node).removeOpen node

end Construction

end LessonSite.Html
