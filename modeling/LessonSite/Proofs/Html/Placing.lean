import LessonSite.Html.Document
import LessonSite.Proofs.Html.Store

/-!
# Placing tokens in running text

Elements that are opened and closed in pairs, and only where nothing closes by
itself, are placed as they are written.  The state is described by the open
elements together with what has been finished in them: an opening tag adds an
element, its closing tag makes it a child of the next one, and a character goes
into the innermost one.
-/

namespace LessonSite.Html

namespace Construction

private theorem of_contains {names : List String} {holds : String → Bool}
    (every : names.all holds = true) {name : String}
    (member : names.contains name = true) :
    holds name = true :=
  List.all_eq_true.mp every name (List.contains_iff_mem.mp member)

def isCellTag (name : String) : Bool :=
  ["td", "th"].contains name

/-- Elements that open again where something else has closed them. -/
def isRememberedTag (name : String) : Bool :=
  name == "a" || isFormattingTag name

/-- Elements that nothing is special about. -/
def isPhraseTag (name : String) : Bool :=
  ["del", "span"].contains name

/-- The mode within elements of the given names, the innermost first. -/
def modeWithin : List String → Mode
  | [] => .inBody
  | name :: outer =>
      if isCellTag name then .inCell
      else if name = "tr" then .inRow
      else if ["tbody", "thead"].contains name then .inTableBody
      else if name = "table" then .inTable
      else if name = "body" then .inBody
      else modeWithin outer

/-- Running text may stand within elements of the given names. -/
def Flows (path : List String) : Prop :=
  modeWithin path = .inBody ∨ modeWithin path = .inCell

instance (path : List String) : Decidable (Flows path) :=
  inferInstanceAs (Decidable (_ ∨ _))

/-- Elements for whose tags nothing but the elements around them matters. -/
def isRunningTag (name : String) : Bool :=
  isBlockTag name || isHeadingTag name || isRememberedTag name ||
    isPhraseTag name ||
    ["li", "button", "pre"].contains name

/-- An element of the given name opens within elements of the given names, the
innermost first, and closes none of them. -/
inductive MayOpen (path : List String) : String → Prop where
  | block {name : String} (block : isBlockTag name = true) (other : name ≠ "p")
      (apart : "p" ∉ path) : MayOpen path name
  | paragraph (apart : "p" ∉ path) : MayOpen path "p"
  | heading {name : String} (heading : isHeadingTag name = true)
      (apart : "p" ∉ path)
      (separate : ∀ inner ∈ path.head?, isHeadingTag inner = false) :
      MayOpen path name
  | item {list : String} (parent : path.head? = some list)
      (isList : list = "ul" ∨ list = "ol")
      (apart : "p" ∉ path) : MayOpen path "li"
  | button (apart : "button" ∉ path) : MayOpen path "button"
  | link (apart : "a" ∉ path) : MayOpen path "a"
  | formatting {name : String} (formatting : isFormattingTag name = true) :
      MayOpen path name
  | phrase {name : String} (phrase : isPhraseTag name = true) :
      MayOpen path name

theorem MayOpen.isRunningTag {path : List String} {name : String}
    (may : MayOpen path name) :
    isRunningTag name = true := by
  cases may with
  | block block _ _ => simp [Construction.isRunningTag, block]
  | paragraph _ => decide
  | heading heading _ _ => simp [Construction.isRunningTag, heading]
  | item _ _ _ => decide
  | button _ => decide
  | link _ => decide
  | formatting formatting =>
      simp [Construction.isRunningTag, isRememberedTag, formatting]
  | phrase phrase => simp [Construction.isRunningTag, phrase]

theorem MayOpen.ne_pre {path : List String} {name : String}
    (may : MayOpen path name) :
    name ≠ "pre" := by
  cases may with
  | block block _ _ => exact ne_of_apply_ne isBlockTag (by rw [block]; decide)
  | paragraph _ => decide
  | heading heading _ _ =>
      exact ne_of_apply_ne isHeadingTag (by rw [heading]; decide)
  | item _ _ _ => decide
  | button _ => decide
  | link _ => decide
  | formatting formatting =>
      exact ne_of_apply_ne isFormattingTag (by rw [formatting]; decide)
  | phrase phrase => exact ne_of_apply_ne isPhraseTag (by rw [phrase]; decide)

theorem ne_of_isRunningTag {name other : String}
    (running : isRunningTag name = true)
    (not : isRunningTag other = false) : name ≠ other := by
  rintro rfl
  exact Bool.noConfusion (running.symm.trans not)

theorem not_beq_of_isRunningTag {name other : String}
    (running : isRunningTag name = true)
    (not : isRunningTag other = false) : ¬ (name == other) = true :=
  fun same => ne_of_isRunningTag running not (beq_iff_eq.mp same)

theorem not_contains_of_isRunningTag {name : String}
    (running : isRunningTag name = true)
    {others : List String}
    (not : ∀ other ∈ others, isRunningTag other = false) :
    others.contains name = false := by
  rw [Bool.eq_false_iff, ne_eq, List.contains_iff_mem]
  intro member
  exact ne_of_isRunningTag running (not name member) rfl

theorem isHeadTag_of_isRunningTag {name : String}
    (running : isRunningTag name = true) :
    isHeadTag name = false :=
  not_contains_of_isRunningTag running (by decide)

theorem isTablePart_of_isRunningTag {name : String}
    (running : isRunningTag name = true) :
    isTablePart name = false :=
  not_contains_of_isRunningTag running (by decide)

theorem isCellTag_of_isRunningTag {name : String}
    (running : isRunningTag name = true) :
    isCellTag name = false :=
  not_contains_of_isRunningTag running (by decide)

theorem isRememberedTag_eq_false {name : String}
    (other : isBlockTag name = true ∨ isHeadingTag name = true ∨
      isPhraseTag name = true) :
    isRememberedTag name = false := by
  have plain : (!isRememberedTag name) = true := by
    rcases other with block | heading | phrase
    · apply of_contains _ block
      decide
    · apply of_contains _ heading
      decide
    · apply of_contains _ phrase
      decide
  rwa [Bool.not_eq_true'] at plain

theorem modeWithin_of_isRunningTag {name : String}
    (running : isRunningTag name = true)
    (path : List String) : modeWithin (name :: path) = modeWithin path := by
  have noRows : ["tbody", "thead"].contains name = false :=
    not_contains_of_isRunningTag running (by decide)
  rw [modeWithin, isCellTag_of_isRunningTag running, noRows,
    if_neg Bool.false_ne_true, if_neg (ne_of_isRunningTag running (by decide)),
    if_neg Bool.false_ne_true, if_neg (ne_of_isRunningTag running (by decide)),
    if_neg (ne_of_isRunningTag running (by decide))]

theorem modeWithin_ne_inLiteral (path : List String) :
    modeWithin path ≠ .inLiteral := by
  induction path with
  | nil => decide
  | cons name outer induction =>
      rw [modeWithin]
      repeat' split
      all_goals first | decide | exact induction

theorem Flows.cons {path : List String} (flows : Flows path) {name : String}
    (running : isRunningTag name = true) : Flows (name :: path) := by
  rwa [Flows, modeWithin_of_isRunningTag running]

/-- The list of formatting elements within the given open elements.  An open
formatting element is in the list unless it has been forgotten, and a marker
stands for every open cell. -/
inductive Remembers : List Frame → List Formatting → Prop where
  | nil : Remembers [] []
  | other {frame : Frame} {outer : List Frame} {entries : List Formatting}
      (plain : isRememberedTag frame.name = false)
      (noCell : isCellTag frame.name = false)
      (others : Remembers outer entries) : Remembers (frame :: outer) entries
  | remembered {frame : Frame} {outer : List Frame} {entries : List Formatting}
      (formatting : isRememberedTag frame.name = true)
      (others : Remembers outer entries) :
      Remembers (frame :: outer)
        (.element (Frame.next outer)
          ⟨frame.name, frame.attributes, false⟩ :: entries)
  | forgotten {frame : Frame} {outer : List Frame} {entries : List Formatting}
      (formatting : isRememberedTag frame.name = true)
      (others : Remembers outer entries) :
      Remembers (frame :: outer) entries
  | cell {frame : Frame} {outer : List Frame} {entries : List Formatting}
      (isCell : isCellTag frame.name = true)
      (others : Remembers outer entries) :
      Remembers (frame :: outer) (.marker :: entries)

/-- Nothing changes how text is read, and no text waits. -/
def IsPlain (state : Construction) : Prop :=
  state.templateModes = [] ∧ state.fostering = false ∧
    state.dropsLineFeed = false ∧
      state.plain = false ∧ state.pending = []

/-- The given elements are open, the innermost first. -/
structure Within (frames : List Frame) (state : Construction) : Prop where
  dom : state.dom = Frame.dom frames
  opened : state.opened = Frame.positions frames
  formatting : Remembers frames state.formatting
  isPlain : state.IsPlain

/-- Text is read within the given open elements, the innermost first. -/
structure Reading (frames : List Frame) (state : Construction) : Prop
    extends Within frames state where
  mode : state.mode = modeWithin (frames.map Frame.name)

namespace Remembers

variable {frame inner : Frame} {outer frames : List Frame}
  {entries : List Formatting}

theorem addAll (remembers : Remembers (frame :: outer) entries)
    (children : List Node) :
    Remembers (⟨frame.name, frame.attributes, children⟩ :: outer) entries := by
  cases remembers with
  | other plain noCell others => exact .other plain noCell others
  | remembered formatting others =>
      exact @Remembers.remembered ⟨frame.name, frame.attributes, children⟩ outer
        _ formatting others
  | forgotten formatting others => exact .forgotten formatting others
  | cell isCell others => exact .cell isCell others

theorem of_other (remembers : Remembers (frame :: outer) entries)
    (plain : isRememberedTag frame.name = false)
    (noCell : isCellTag frame.name = false) :
    Remembers outer entries := by
  cases remembers with
  | other _ _ others => exact others
  | remembered formatting _ =>
      exact Bool.noConfusion (plain.symm.trans formatting)
  | forgotten formatting _ =>
      exact Bool.noConfusion (plain.symm.trans formatting)
  | cell isCell _ => exact Bool.noConfusion (noCell.symm.trans isCell)

theorem mem_positions (remembers : Remembers frames entries)
    {node : Nat} {tag : Tag}
    (member : .element node tag ∈ entries) : node ∈ Frame.positions frames := by
  induction remembers with
  | nil => cases member
  | other _ _ _ induction => exact List.mem_cons_of_mem _ (induction member)
  | remembered _ _ induction =>
      rcases List.mem_cons.mp member with same | member
      · cases same
        exact List.mem_cons_self
      · exact List.mem_cons_of_mem _ (induction member)
  | forgotten _ _ induction => exact List.mem_cons_of_mem _ (induction member)
  | cell _ _ induction =>
      rcases List.mem_cons.mp member with same | member
      · cases same
      · exact List.mem_cons_of_mem _ (induction member)

/-- An element that has just been opened is not remembered by those around
it. -/
theorem not_any_newest (remembers : Remembers frames entries) :
    entries.any (Formatting.isFor (Frame.next frames)) = false := by
  rw [List.any_eq_false]
  intro entry member
  cases entry with
  | marker => exact Bool.false_ne_true
  | element node tag =>
      have older := Frame.lt_next_of_mem (remembers.mem_positions member)
      rw [Formatting.isFor, beq_iff_eq]
      exact Nat.ne_of_lt older

theorem eraseP (remembers : Remembers frames entries) (node : Nat) :
    Remembers frames (entries.eraseP (Formatting.isFor node)) := by
  induction remembers with
  | nil => exact .nil
  | other plain noCell _ induction => exact .other plain noCell induction
  | @remembered frame outer entries formatting others induction =>
      rw [List.eraseP_cons]
      cases Formatting.isFor node
          (.element (Frame.next outer)
            ⟨frame.name, frame.attributes, false⟩) with
      | true => exact .forgotten formatting others
      | false => exact .remembered formatting induction
  | forgotten formatting _ induction => exact .forgotten formatting induction
  | cell isCell _ induction => exact .cell isCell induction

end Remembers

theorem attachCharacter_eq {frame : Frame} {outer : List Frame}
    {state : Construction} (dom : state.dom = Frame.dom (frame :: outer))
    (opened : state.opened = Frame.positions (frame :: outer))
    (fostering : state.fostering = false)
    (character : Char) : state.attachCharacter character =
      { state with
        dom := Frame.dom (frame.addCharacter character :: outer) } := by
  have current : state.current = Frame.innermost (frame :: outer) := by
    rw [Construction.current, opened]
    rfl
  have place :
      state.placeFor state.current =
        .lastIn (Frame.innermost (frame :: outer)) := by
    rw [placeFor, fostering, Bool.false_and, if_neg Bool.false_ne_true, current,
      dom, Frame.childHolder_innermost]
  rw [attachCharacter, place, ← Frame.appendCharacter_dom, ← dom]

namespace Within

variable {frame : Frame} {outer frames : List Frame} {state : Construction}

theorem fostering (within : Within frames state) : state.fostering = false :=
  within.isPlain.2.1

theorem current (within : Within (frame :: outer) state) :
    state.current = Frame.innermost (frame :: outer) := by
  rw [Construction.current, within.opened]
  rfl

theorem map_nameOf (within : Within frames state) :
    state.opened.map state.nameOf = frames.map Frame.elementName := by
  have names :=
    congrArg (List.map fun name => name.getD ⟨.html, ""⟩)
      (Frame.map_nameOf frames)
  rw [List.map_map, List.map_map, ← within.dom, ← within.opened] at names
  exact names

theorem nameOf_innermost (within : Within (frame :: outer) state) :
    state.nameOf (Frame.innermost (frame :: outer)) = frame.elementName := by
  have names := within.map_nameOf
  rw [within.opened, Frame.positions, List.map_cons, List.map_cons] at names
  exact (List.cons.inj names).1

theorem currentName (within : Within (frame :: outer) state) :
    state.currentName = frame.elementName := by
  rw [Construction.currentName, within.current, within.nameOf_innermost]

private theorem isHtml_innermost (within : Within (frame :: outer) state) :
    (state.nameOf (Frame.innermost (frame :: outer))).isHtml frame.name =
      true := by
  rw [within.nameOf_innermost, ElementName.isHtml, Frame.elementName,
    beq_self_eq_true]
  rfl

private theorem notOpen (within : Within frames state) {name : String}
    (apart : name ∉ frames.map Frame.name) :
    ∀ node ∈ state.opened, (state.nameOf node).isHtml name = false := by
  intro node member
  have named : state.nameOf node ∈ frames.map Frame.elementName :=
    within.map_nameOf ▸ List.mem_map_of_mem member
  obtain ⟨frame, inside, same⟩ := List.mem_map.mp named
  rw [← same, ElementName.isHtml, Frame.elementName, Bool.and_eq_false_imp]
  intro _
  rw [beq_eq_false_iff_ne]
  rintro rfl
  exact apart (List.mem_map_of_mem inside)

private theorem search_eq_false {boundary : ElementName → Bool}
    {wanted : Nat → Bool}
    (nodes : List Nat) (unwanted : ∀ node ∈ nodes, wanted node = false) :
    inScope.search state boundary wanted nodes = false := by
  induction nodes with
  | nil => rfl
  | cons node nodes induction =>
      obtain ⟨first, others⟩ := List.forall_mem_cons.mp unwanted
      rw [inScope.search, first, if_neg Bool.false_ne_true, induction others,
        ite_self]

theorem notInScope (within : Within frames state) {name : String}
    (apart : name ∉ frames.map Frame.name) (boundary : ElementName → Bool) :
    state.nameInScope boundary name = false :=
  search_eq_false state.opened (within.notOpen apart)

theorem currentInScope (within : Within (frame :: outer) state)
    (boundary : ElementName → Bool) :
    state.nameInScope boundary frame.name = true := by
  rw [nameInScope, inScope, within.opened, Frame.positions, inScope.search,
    if_pos]
  exact within.isHtml_innermost

theorem closeOpenParagraph (within : Within frames state)
    (apart : "p" ∉ frames.map Frame.name) :
    state.closeOpenParagraph = state := by
  rw [Construction.closeOpenParagraph, within.notInScope apart,
    if_neg Bool.false_ne_true]

theorem reopenFormatting (within : Within frames state) :
    state.reopenFormatting = state := by
  have settled :
      ∀ entry ∈ state.formatting, ¬ (!state.isSettled entry) = true := by
    intro entry member
    cases entry with
    | marker => exact Bool.false_ne_true
    | element node tag =>
        have inside := within.formatting.mem_positions member
        rw [isSettled, List.contains_iff_mem.mpr (within.opened ▸ inside)]
        decide
  have waiting :
      (state.formatting.takeWhile fun entry => !state.isSettled entry) =
        [] := by
    cases entries : state.formatting with
    | nil => rfl
    | cons first others =>
        exact List.takeWhile_cons_of_neg
          (settled first (entries ▸ List.mem_cons_self))
  rw [Construction.reopenFormatting, waiting]
  rfl

theorem dropFormatting (within : Within frames state) (node : Nat) :
    Within frames (state.dropFormatting node) :=
  { within with formatting := within.formatting.eraseP node }

private theorem mem_visibleFormatting {node : Nat} {tag : Tag}
    (member : (node, tag) ∈ state.visibleFormatting) :
    .element node tag ∈ state.formatting := by
  obtain ⟨entry, inside, same⟩ := List.mem_filterMap.mp member
  cases entry with
  | marker => cases same
  | element entry other =>
      cases same
      exact (List.takeWhile_sublist _).subset inside

private theorem closeOuterLink (within : Within frames state)
    (apart : "a" ∉ frames.map Frame.name) : state.closeOuterLink = state := by
  have none :
      (state.visibleFormatting.find? fun entry =>
          (state.nameOf entry.1).isHtml "a") =
        none := by
    rw [List.find?_eq_none]
    intro entry member
    have inside :=
      within.formatting.mem_positions (mem_visibleFormatting member)
    rw [within.notOpen apart entry.1 (within.opened ▸ inside)]
    exact Bool.false_ne_true
  rw [Construction.closeOuterLink, none]

theorem place (within : Within (frame :: outer) state) (tag : Tag)
    (ordinary : tag.name ≠ "template") :
    state.place .html tag.name tag.attributes =
      (Frame.next (frame :: outer), { state with
        dom :=
          Frame.dom (⟨tag.name, tag.attributes, []⟩ :: frame :: outer) }) := by
  have elementName : (⟨.html, tag.name⟩ : ElementName) ≠ ⟨.html, "template"⟩ :=
    fun same => ordinary (ElementName.mk.inj same).2
  rw [Construction.place, Dom.createElement, if_neg elementName, within.dom,
    Frame.create_dom]
  dsimp only
  rw [attach, placeFor, within.fostering, Bool.false_and,
    if_neg Bool.false_ne_true]
  dsimp only
  rw [within.current, Frame.childHolder_layout, Frame.append_element]

theorem openTag (within : Within (frame :: outer) state) (tag : Tag)
    (ordinary : tag.name ≠ "template") :
    state.openTag tag = { state with
      dom := Frame.dom (⟨tag.name, tag.attributes, []⟩ :: frame :: outer)
      opened :=
        Frame.positions
          (⟨tag.name, tag.attributes, []⟩ :: frame :: outer) } := by
  rw [Construction.openTag, openForeign, within.place tag ordinary]
  dsimp only
  rw [within.opened]
  rfl

/-- The innermost element is no foreign one, so the mode alone decides. -/
theorem placeToken_of_placed (within : Within (frame :: outer) state)
    {token : Token}
    {after : Construction} (placed : state.placeByMode token = .placed after) :
    state.placeToken token = after := by
  have common : state.isForeign token = false := by
    simp [isForeign, within.currentName, Frame.elementName]
  obtain ⟨-, -, dropsLineFeed, -⟩ := within.isPlain
  have unchanged : { state with dropsLineFeed := false } = state := by
    rw [← dropsLineFeed]
  rw [Construction.placeToken, dropsLineFeed, Bool.false_and,
    if_neg Bool.false_ne_true, unchanged, Nat.add_assoc, Nat.add_comm 32,
    placeWithin, common, if_neg Bool.false_ne_true, placed]

theorem afterOpening (within : Within (frame :: outer) state) (tag : Tag)
    (ordinary : tag.name ≠ "template")
    (plain : isRememberedTag tag.name = false)
    (noCell : isCellTag tag.name = false) :
    Within (⟨tag.name, tag.attributes, []⟩ :: frame :: outer)
      (state.openTag tag) := by
  rw [within.openTag tag ordinary]
  exact ⟨rfl, rfl, .other plain noCell within.formatting, within.isPlain⟩

/-- The innermost element becomes a child of the next one. -/
theorem afterPop {inner : Frame}
    (within : Within (inner :: frame :: outer) state)
    (plain : isRememberedTag inner.name = false)
    (noCell : isCellTag inner.name = false) :
    Within (frame.addAll [inner.node] :: outer) state.pop := by
  refine ⟨within.dom.trans (Frame.dom_close inner frame outer), ?_, ?_,
    within.isPlain⟩
  · rw [pop, within.opened]
    rfl
  · exact (within.formatting.of_other plain noCell).addAll _

theorem afterEmpty (within : Within (frame :: outer) state) (tag : Tag)
    (ordinary : tag.name ≠ "template") :
    Within
      (frame.addAll [.element ⟨.html, tag.name⟩ tag.attributes []] :: outer)
      (state.addEmpty tag) := by
  rw [Construction.addEmpty, within.place tag ordinary]
  exact ⟨Frame.dom_close ⟨tag.name, tag.attributes, []⟩ frame outer,
    within.opened, within.formatting.addAll _, within.isPlain⟩

theorem afterCharacter (within : Within (frame :: outer) state)
    (character : Char) :
    Within (frame.addCharacter character :: outer)
      (state.attachCharacter character) := by
  rw [attachCharacter_eq within.dom within.opened within.fostering]
  exact ⟨rfl, within.opened, within.formatting.addAll _, within.isPlain⟩

theorem withMode (within : Within frames state) (mode : Mode) :
    Within frames (state.withMode mode) :=
  { within with }

end Within

/-- Tokens that a cell reads as the body does. -/
def isRunningToken : Token → Bool
  | .opening tag => !isTablePart tag.name
  | .closing name =>
      !(isTablePart name || ["table", "body", "html"].contains name)
  | _ => true

theorem isRunningToken_opening {name : String}
    (running : isRunningTag name = true) (attributes : List Attribute) :
    isRunningToken (.opening ⟨name, attributes, false⟩) = true := by
  rw [isRunningToken, isTablePart_of_isRunningTag running]
  rfl

theorem isRunningToken_closing {name : String}
    (running : isRunningTag name = true) :
    isRunningToken (.closing name) = true := by
  have others : ["table", "body", "html"].contains name = false :=
    not_contains_of_isRunningTag running (by decide)
  rw [isRunningToken, isTablePart_of_isRunningTag running, others]
  rfl

private theorem inCell_eq_inBody (state : Construction) {token : Token}
    (running : isRunningToken token = true) :
    state.inCell token = state.inBody token := by
  cases token with
  | opening tag =>
      have noPart : isTablePart tag.name = false := by
        simpa [isRunningToken] using running
      rw [inCell, noPart, if_neg Bool.false_ne_true]
  | closing name =>
      have others :
          isTablePart name = false ∧
            ["table", "body", "html"].contains name = false := by
        simpa [isRunningToken] using running
      simp only [isTablePart, List.contains_cons, Bool.or_eq_false_iff,
        beq_eq_false_iff_ne] at others
      simp [inCell, isTablePart, others]
  | character character => rfl
  | comment => rfl
  | doctype quirks => rfl
  | finish => rfl

namespace Reading

variable {frame : Frame} {outer frames : List Frame} {state : Construction}

theorem placeByMode (reading : Reading frames state)
    (flows : Flows (frames.map Frame.name))
    {token : Token} (running : isRunningToken token = true) :
    state.placeByMode token = state.inBody token := by
  rcases flows with mode | mode
  · rw [Construction.placeByMode, reading.mode, mode]
  · rw [Construction.placeByMode, reading.mode, mode]
    exact inCell_eq_inBody state running

/-- In running text a token is placed by the rules of the body. -/
theorem placeToken (reading : Reading (frame :: outer) state)
    (flows : Flows ((frame :: outer).map Frame.name)) {token : Token}
    (running : isRunningToken token = true) {after : Construction}
    (placed : state.inBody token = .placed after) :
    state.placeToken token = after :=
  reading.placeToken_of_placed
    ((reading.placeByMode flows running).trans placed)

theorem reading_openTag (reading : Reading (frame :: outer) state)
    {name : String}
    (attributes : List Attribute) (running : isRunningTag name = true)
    (plain : isRememberedTag name = false) :
    Reading (⟨name, attributes, []⟩ :: frame :: outer)
      (state.openTag ⟨name, attributes, false⟩) := by
  have ordinary : name ≠ "template" := ne_of_isRunningTag running (by decide)
  refine ⟨reading.afterOpening ⟨name, attributes, false⟩ ordinary plain
    (isCellTag_of_isRunningTag running), ?_⟩
  rw [reading.openTag ⟨name, attributes, false⟩ ordinary]
  exact reading.mode.trans (modeWithin_of_isRunningTag running _).symm

private theorem openInBody_block {name : String} (attributes : List Attribute)
    (block : isBlockTag name = true) (running : isRunningTag name = true) :
    state.openInBody ⟨name, attributes, false⟩ =
      state.closeOpenParagraph.openTag ⟨name, attributes, false⟩ := by
  have differs :
      ∀ other, isRunningTag other = false → ¬ (name == other) = true :=
    fun _ => not_beq_of_isRunningTag running
  rw [Construction.openInBody]
  dsimp only
  rw [if_neg (differs "image" (by decide)), if_neg (differs "html" (by decide)),
    isHeadTag_of_isRunningTag running, if_neg Bool.false_ne_true,
    if_neg (differs "body" (by decide)),
    if_neg (differs "frameset" (by decide)), if_pos block]

private theorem opens_block (reading : Reading (frame :: outer) state)
    {name : String}
    (attributes : List Attribute) (block : isBlockTag name = true)
    (apart : "p" ∉ (frame :: outer).map Frame.name) :
    Reading (⟨name, attributes, []⟩ :: frame :: outer)
      (state.openInBody ⟨name, attributes, false⟩) := by
  have running : isRunningTag name = true := by simp [isRunningTag, block]
  rw [openInBody_block attributes block running,
    reading.closeOpenParagraph apart]
  exact reading.reading_openTag attributes running
    (isRememberedTag_eq_false (.inl block))

theorem noFrameset (reading : Reading frames state) :
    Reading frames state.noFrameset :=
  { reading with }

private theorem opens_heading (reading : Reading (frame :: outer) state)
    {name : String}
    (attributes : List Attribute) (heading : isHeadingTag name = true)
    (apart : "p" ∉ (frame :: outer).map Frame.name)
    (separate : isHeadingTag frame.name = false) :
    Reading (⟨name, attributes, []⟩ :: frame :: outer)
      (state.openInBody ⟨name, attributes, false⟩) := by
  have chosen : state.openInBody ⟨name, attributes, false⟩ =
      (if state.closeOpenParagraph.currentName.isHeading then
        state.closeOpenParagraph.pop
        else state.closeOpenParagraph).openTag ⟨name, attributes, false⟩ := by
    simp only [isHeadingTag, List.contains_iff_mem, List.mem_cons,
      List.not_mem_nil, or_false] at heading
    rcases heading with rfl | rfl | rfl | rfl | rfl | rfl <;> rfl
  have running : isRunningTag name = true := by simp [isRunningTag, heading]
  have noHeading : frame.elementName.isHeading = false := separate
  rw [chosen, reading.closeOpenParagraph apart, reading.currentName, noHeading,
    if_neg Bool.false_ne_true]
  exact reading.reading_openTag attributes running
    (isRememberedTag_eq_false (.inr (.inl heading)))

private theorem closeOpenItem (reading : Reading (frame :: outer) state)
    (isList : frame.name = "ul" ∨ frame.name = "ol") :
    state.closeOpenItem ["li"] = state := by
  have noItem : frame.elementName.isOneOf ["li"] = false := by
    rw [Frame.elementName]
    rcases isList with same | same <;> rw [same] <;> decide
  have boundary : (frame.elementName.isSpecial &&
      !frame.elementName.isOneOf ["address", "div", "p"]) = true := by
    rw [Frame.elementName]
    rcases isList with same | same <;> rw [same] <;> decide
  rw [Construction.closeOpenItem, reading.opened, Frame.positions,
    closeOpenItem.search, reading.nameOf_innermost, noItem,
    if_neg Bool.false_ne_true, if_pos boundary]

private theorem opens_item (reading : Reading (frame :: outer) state)
    (attributes : List Attribute)
    (isList : frame.name = "ul" ∨ frame.name = "ol")
    (apart : "p" ∉ (frame :: outer).map Frame.name) :
    Reading (⟨"li", attributes, []⟩ :: frame :: outer)
      (state.openInBody ⟨"li", attributes, false⟩) := by
  have chosen : state.openInBody ⟨"li", attributes, false⟩ =
      (state.noFrameset.closeOpenItem ["li"]).closeOpenParagraph.openTag
        ⟨"li", attributes, false⟩ := rfl
  rw [chosen, reading.noFrameset.closeOpenItem isList,
    reading.noFrameset.closeOpenParagraph apart]
  exact reading.noFrameset.reading_openTag attributes (by decide) (by decide)

private theorem opens_button (reading : Reading (frame :: outer) state)
    (attributes : List Attribute)
    (apart : "button" ∉ (frame :: outer).map Frame.name) :
    Reading (⟨"button", attributes, []⟩ :: frame :: outer)
      (state.openInBody ⟨"button", attributes, false⟩) := by
  have chosen : state.openInBody ⟨"button", attributes, false⟩ =
      ((if state.nameInScope ElementName.endsScope "button" then
        state.closeImplied.closeThrough "button"
      else state).reopenFormatting.openTag
        ⟨"button", attributes, false⟩).noFrameset := rfl
  rw [chosen, reading.notInScope apart, if_neg Bool.false_ne_true,
    reading.reopenFormatting]
  exact (reading.reading_openTag attributes (by decide) (by decide)).noFrameset

private theorem opens_formatting (reading : Reading (frame :: outer) state)
    {name : String}
    (attributes : List Attribute) (formatting : isRememberedTag name = true) :
    Reading (⟨name, attributes, []⟩ :: frame :: outer)
      (state.openFormatting ⟨name, attributes, false⟩) := by
  have running : isRunningTag name = true := by simp [isRunningTag, formatting]
  have opens : ∀ {settled : Construction}, Reading (frame :: outer) settled →
      Reading (⟨name, attributes, []⟩ :: frame :: outer)
        { settled.openTag ⟨name, attributes, false⟩ with
          formatting :=
            .element (settled.openTag ⟨name, attributes, false⟩).current
              ⟨name, attributes, false⟩ ::
              (settled.openTag ⟨name, attributes, false⟩).formatting } := by
    intro settled reading
    rw [reading.openTag ⟨name, attributes, false⟩
      (ne_of_isRunningTag running (by decide))]
    refine ⟨⟨rfl, rfl, ?_, reading.isPlain⟩, ?_⟩
    · exact @Remembers.remembered ⟨name, attributes, []⟩ _ _ formatting
        reading.formatting
    · exact reading.mode.trans (modeWithin_of_isRunningTag running _).symm
  rw [openFormatting]
  split
  · split
    · exact opens ⟨reading.dropFormatting _, reading.mode⟩
    · exact opens reading
  · exact opens reading

private theorem opens_phrase (reading : Reading (frame :: outer) state)
    {name : String}
    (attributes : List Attribute) (phrase : isPhraseTag name = true) :
    Reading (⟨name, attributes, []⟩ :: frame :: outer)
      (state.openInBody ⟨name, attributes, false⟩) := by
  have chosen : state.openInBody ⟨name, attributes, false⟩ =
      state.reopenFormatting.openTag ⟨name, attributes, false⟩ := by
    simp only [isPhraseTag, List.contains_iff_mem, List.mem_cons,
      List.not_mem_nil, or_false] at phrase
    rcases phrase with rfl | rfl <;> rfl
  have running : isRunningTag name = true := by simp [isRunningTag, phrase]
  rw [chosen, reading.reopenFormatting]
  exact reading.reading_openTag attributes running
    (isRememberedTag_eq_false (.inr (.inr phrase)))

theorem openInBody (reading : Reading (frame :: outer) state) {name : String}
    (attributes : List Attribute)
    (may : MayOpen ((frame :: outer).map Frame.name) name) :
    Reading (⟨name, attributes, []⟩ :: frame :: outer)
      (state.openInBody ⟨name, attributes, false⟩) := by
  cases may with
  | block block other apart => exact reading.opens_block attributes block apart
  | paragraph apart => exact reading.opens_block attributes (by decide) apart
  | heading heading apart separate =>
      exact reading.opens_heading attributes heading apart (separate _ rfl)
  | item parent isList apart =>
      cases parent
      exact reading.opens_item attributes isList apart
  | button apart => exact reading.opens_button attributes apart
  | link apart =>
      have chosen : state.openInBody ⟨"a", attributes, false⟩ =
          state.closeOuterLink.reopenFormatting.openFormatting
            ⟨"a", attributes, false⟩ := rfl
      rw [chosen, reading.closeOuterLink apart, reading.reopenFormatting]
      exact reading.opens_formatting attributes (by decide)
  | formatting formatting =>
      have chosen : state.openInBody ⟨name, attributes, false⟩ =
          state.reopenFormatting.openFormatting ⟨name, attributes, false⟩ := by
        simp only [isFormattingTag, List.contains_iff_mem, List.mem_cons,
          List.not_mem_nil, or_false] at formatting
        rcases formatting with
          rfl | rfl | rfl | rfl | rfl | rfl | rfl | rfl | rfl | rfl | rfl | rfl
          <;> rfl
      rw [chosen, reading.reopenFormatting]
      exact reading.opens_formatting attributes
        (by simp [isRememberedTag, formatting])
  | phrase phrase => exact reading.opens_phrase attributes phrase

/-- An opening tag opens an element in the innermost one. -/
theorem opens (reading : Reading (frame :: outer) state)
    (flows : Flows ((frame :: outer).map Frame.name)) {name : String}
    (attributes : List Attribute)
    (may : MayOpen ((frame :: outer).map Frame.name) name) :
    Reading (⟨name, attributes, []⟩ :: frame :: outer)
      (state.placeToken (.opening ⟨name, attributes, false⟩)) := by
  rw [reading.placeToken flows
    (isRunningToken_opening may.isRunningTag attributes) rfl]
  exact reading.openInBody attributes may

theorem reading_pop {inner : Frame}
    (reading : Reading (inner :: frame :: outer) state)
    (running : isRunningTag inner.name = true)
    (plain : isRememberedTag inner.name = false) :
    Reading (frame.addAll [inner.node] :: outer) state.pop :=
  ⟨reading.afterPop plain (isCellTag_of_isRunningTag running),
    reading.mode.trans (modeWithin_of_isRunningTag running _)⟩

theorem closeWhile (reading : Reading (frame :: outer) state)
    {isKind : ElementName → Bool}
    (stays : isKind frame.elementName = false) :
    state.closeWhile isKind = state := by
  have unchanged :
      (state.opened.dropWhile fun node => isKind (state.nameOf node)) =
        state.opened := by
    rw [reading.opened, Frame.positions, List.dropWhile_cons_of_neg]
    rw [reading.nameOf_innermost, stays]
    exact Bool.false_ne_true
  rw [Construction.closeWhile, unchanged]

private theorem openedAfter (reading : Reading (frame :: outer) state)
    {isKind : ElementName → Bool} (kind : isKind frame.elementName = true) :
    state.openedAfter isKind = state.pop := by
  have stops :
      (state.opened.dropWhile fun node => !isKind (state.nameOf node)) =
        state.opened := by
    rw [reading.opened, Frame.positions, List.dropWhile_cons_of_neg]
    rw [reading.nameOf_innermost, kind]
    decide
  rw [Construction.openedAfter, stops, pop]

theorem closeThrough (reading : Reading (frame :: outer) state) :
    state.closeThrough frame.name = state.pop :=
  reading.openedAfter (reading.nameOf_innermost ▸ reading.isHtml_innermost)

theorem closes_block {inner : Frame}
    (reading : Reading (inner :: frame :: outer) state)
    (block : isClosedBlock inner.name = true) :
    state.closeInBody inner.name = state.pop := by
  have differs : ∀ other, isClosedBlock other = false → inner.name ≠ other := by
    intro other not same
    exact Bool.noConfusion (block.symm.trans (same ▸ not))
  have stays : inner.elementName.closesItself = false := by
    have others :
        ∀ other ∈ ["dd", "dt", "li", "option", "optgroup", "p", "rb", "rp",
            "rt", "rtc"],
          isClosedBlock other = false := by decide
    rw [ElementName.closesItself, ElementName.isOneOf, Bool.and_eq_false_imp]
    intro _
    rw [Bool.eq_false_iff, ne_eq, List.contains_iff_mem]
    intro member
    exact differs _ (others _ member) rfl
  rw [Construction.closeInBody,
    if_neg (by simpa using differs "template" (by decide)),
    if_neg
      (by simpa using ⟨differs "body" (by decide), differs "html" (by decide)⟩),
    if_pos block, reading.currentInScope, if_pos rfl, closeImplied,
    reading.closeWhile stays, reading.closeThrough]

private theorem closes_paragraph {attributes : List Attribute}
    {children : List Node}
    (reading : Reading (⟨"p", attributes, children⟩ :: frame :: outer) state) :
    state.closeInBody "p" = state.pop := by
  have chosen : state.closeInBody "p" =
      (if state.nameInScope ElementName.endsButtonScope "p" then state
        else state.openImplied "p").closeParagraph := rfl
  have stays : state.closeImpliedExcept "p" = state :=
    reading.closeWhile (show (ElementName.closesItself ⟨.html, "p"⟩ &&
      !ElementName.isHtml ⟨.html, "p"⟩ "p") = false by decide)
  rw [chosen, reading.currentInScope, if_pos rfl, closeParagraph, stays,
    reading.closeThrough]

private theorem closes_heading {inner : Frame}
    (reading : Reading (inner :: frame :: outer) state)
    (heading : isHeadingTag inner.name = true) :
    state.closeInBody inner.name = state.pop := by
  have chosen : state.closeInBody inner.name =
      if state.kindInScope ElementName.endsScope ElementName.isHeading then
        state.closeImplied.openedAfter ElementName.isHeading
      else state := by
    obtain ⟨name, attributes, children⟩ := inner
    dsimp only at heading ⊢
    simp only [isHeadingTag, List.contains_iff_mem, List.mem_cons,
      List.not_mem_nil, or_false] at heading
    rcases heading with rfl | rfl | rfl | rfl | rfl | rfl <;> rfl
  have isHeading : inner.elementName.isHeading = true := heading
  have stays : (!inner.elementName.closesItself) = true :=
    @of_contains _ (fun name => !ElementName.closesItself ⟨.html, name⟩)
      (by decide) _ heading
  have found :
      state.kindInScope ElementName.endsScope ElementName.isHeading = true := by
    rw [kindInScope, inScope, reading.opened, Frame.positions, inScope.search,
      reading.nameOf_innermost, isHeading, if_pos rfl]
  rw [Bool.not_eq_true'] at stays
  rw [chosen, found, if_pos rfl, closeImplied, reading.closeWhile stays,
    reading.openedAfter isHeading]

private theorem closes_item {attributes : List Attribute} {children : List Node}
    (reading : Reading (⟨"li", attributes, children⟩ :: frame :: outer) state) :
    state.closeInBody "li" = state.pop := by
  have chosen : state.closeInBody "li" =
      if state.nameInScope ElementName.endsListScope "li" then
        (state.closeImpliedExcept "li").closeThrough "li"
      else state := rfl
  have stays : state.closeImpliedExcept "li" = state :=
    reading.closeWhile (show (ElementName.closesItself ⟨.html, "li"⟩ &&
      !ElementName.isHtml ⟨.html, "li"⟩ "li") = false by decide)
  rw [chosen, reading.currentInScope, if_pos rfl, stays, reading.closeThrough]

private theorem closes_phrase {inner : Frame}
    (reading : Reading (inner :: frame :: outer) state)
    (phrase : isPhraseTag inner.name = true) :
    state.closeInBody inner.name = state.pop := by
  have chosen :
      state.closeInBody inner.name = state.closeOrdinary inner.name := by
    obtain ⟨name, attributes, children⟩ := inner
    dsimp only at phrase ⊢
    simp only [isPhraseTag, List.contains_iff_mem, List.mem_cons,
      List.not_mem_nil, or_false] at phrase
    rcases phrase with rfl | rfl <;> rfl
  rw [chosen, closeOrdinary, reading.opened, Frame.positions,
    closeOrdinary.search, reading.isHtml_innermost, if_pos rfl, pop,
    reading.opened]
  rfl

private theorem splitOnce_innermost {inner : Frame} {entries : List Formatting}
    (reading : Reading (inner :: outer) state) (remembered : state.formatting =
      .element (Frame.next outer) ⟨inner.name, inner.attributes, false⟩ ::
        entries) :
    state.splitOnce inner.name =
      (false,
        { state with
          opened := Frame.positions outer, formatting := entries }) := by
  have opened : state.opened = Frame.next outer :: Frame.positions outer :=
    reading.opened
  have found :
      (state.visibleFormatting.find? fun entry => entry.2.name == inner.name) =
        some (Frame.next outer, ⟨inner.name, inner.attributes, false⟩) := by
    rw [visibleFormatting, remembered, List.takeWhile_cons_of_pos rfl,
      List.filterMap_cons]
    exact List.find?_cons_of_pos (beq_self_eq_true _)
  have isOpen : state.opened.contains (Frame.next outer) = true := by
    rw [opened, List.contains_cons, beq_self_eq_true, Bool.true_or]
  have scope :
      (state.inScope ElementName.endsScope fun node =>
          node == Frame.next outer) =
        true := by
    rw [inScope, opened, inScope.search, beq_self_eq_true, if_pos rfl]
  have inside :
      (state.opened.takeWhile fun node => node != Frame.next outer) = [] := by
    rw [opened]
    exact List.takeWhile_cons_of_neg (by simp)
  rw [splitOnce, found]
  dsimp only
  rw [isOpen, scope, Bool.not_true, if_neg Bool.false_ne_true,
    if_neg Bool.false_ne_true, inside, List.reverse_nil, List.find?_nil]
  dsimp only
  rw [Construction.dropFormatting, remembered, opened]
  simp [Formatting.isFor]

theorem closeFormatting {inner : Frame}
    (reading : Reading (inner :: frame :: outer) state)
    (formatting : isRememberedTag inner.name = true) :
    Reading (frame.addAll [inner.node] :: outer)
      (state.closeFormatting inner.name) := by
  have running : isRunningTag inner.name = true := by
    simp [isRunningTag, formatting]
  have closed : ∀ entries, Remembers (frame :: outer) entries → Reading
      (frame.addAll [inner.node] :: outer)
      { state with
        opened := Frame.positions (frame :: outer),
          formatting := entries } := by
    intro entries remembers
    refine ⟨⟨?_, rfl, remembers.addAll _, reading.isPlain⟩, ?_⟩
    · exact reading.dom.trans (Frame.dom_close inner frame outer)
    · exact reading.mode.trans (modeWithin_of_isRunningTag running _)
  have current : state.current = Frame.next (frame :: outer) := reading.current
  have named : state.currentIs inner.name = true := by
    rw [currentIs, reading.currentName, ElementName.isHtml, Frame.elementName,
      beq_self_eq_true]
    rfl
  generalize same : state.formatting = entries
  have remembers := same ▸ reading.formatting
  cases remembers with
  | other plain _ _ => exact Bool.noConfusion (plain.symm.trans formatting)
  | cell isCell _ =>
      exact Bool.noConfusion
        ((isCellTag_of_isRunningTag running).symm.trans isCell)
  | remembered _ others =>
      have known :
          state.formatting.any (Formatting.isFor state.current) = true := by
        rw [same, current]
        exact Bool.or_eq_true_iff.mpr (.inl (beq_self_eq_true _))
      rw [Construction.closeFormatting, known, Bool.not_true, Bool.and_false,
        if_neg Bool.false_ne_true, closeFormatting.rounds,
        reading.splitOnce_innermost same]
      exact closed _ others
  | forgotten _ others =>
      have unknown :
          state.formatting.any (Formatting.isFor state.current) = false := by
        rw [same, current]
        exact others.not_any_newest
      rw [Construction.closeFormatting, named, unknown, Bool.not_false,
        Bool.and_true, if_pos rfl]
      have popped : state.pop =
          { state with
            opened := Frame.positions (frame :: outer),
              formatting := entries } := by
        rw [pop, reading.opened, ← same]
        rfl
      rw [popped]
      exact closed _ others

theorem closeInBody {inner : Frame}
    (reading : Reading (inner :: frame :: outer) state)
    (may : MayOpen ((frame :: outer).map Frame.name) inner.name) :
    Reading (frame.addAll [inner.node] :: outer)
      (state.closeInBody inner.name) := by
  have popped : isRememberedTag inner.name = false →
      state.closeInBody inner.name = state.pop →
        Reading (frame.addAll [inner.node] :: outer)
          (state.closeInBody inner.name) := by
    intro plain same
    rw [same]
    exact reading.reading_pop may.isRunningTag plain
  obtain ⟨name, attributes, children⟩ := inner
  dsimp only at may popped ⊢
  cases may with
  | block block other apart =>
      have closed : isClosedBlock name = true := by
        rw [isClosedBlock, block, bne_iff_ne.mpr other]
        rfl
      exact popped (isRememberedTag_eq_false (.inl block))
        (reading.closes_block closed)
  | paragraph apart => exact popped (by decide) reading.closes_paragraph
  | heading heading apart separate =>
      exact popped (isRememberedTag_eq_false (.inr (.inl heading)))
        (reading.closes_heading heading)
  | item parent isList apart => exact popped (by decide) reading.closes_item
  | button apart =>
      exact popped (by decide)
        (reading.closes_block (show isClosedBlock "button" = true by decide))
  | link apart =>
      exact reading.closeFormatting (show isRememberedTag "a" = true by decide)
  | formatting formatting =>
      have chosen : state.closeInBody name = state.closeFormatting name := by
        simp only [isFormattingTag, List.contains_iff_mem, List.mem_cons,
          List.not_mem_nil, or_false] at formatting
        rcases formatting with
          rfl | rfl | rfl | rfl | rfl | rfl | rfl | rfl | rfl | rfl | rfl | rfl
          <;> rfl
      rw [chosen]
      exact reading.closeFormatting (by simp [isRememberedTag, formatting])
  | phrase phrase =>
      exact popped (isRememberedTag_eq_false (.inr (.inr phrase)))
        (reading.closes_phrase phrase)

theorem closes {inner : Frame}
    (reading : Reading (inner :: frame :: outer) state)
    (flows : Flows ((frame :: outer).map Frame.name))
    (may : MayOpen ((frame :: outer).map Frame.name) inner.name) :
    Reading (frame.addAll [inner.node] :: outer)
      (state.placeToken (.closing inner.name)) := by
  rw [reading.placeToken (flows.cons may.isRunningTag)
    (isRunningToken_closing may.isRunningTag) rfl]
  exact reading.closeInBody may

private theorem reading_attachCharacter
    (reading : Reading (frame :: outer) state)
    (character : Char) :
    Reading (frame.addCharacter character :: outer)
      (state.attachCharacter character) := by
  refine ⟨reading.afterCharacter character, ?_⟩
  rw [attachCharacter_eq reading.dom reading.opened reading.fostering]
  exact reading.mode

theorem continues (reading : Reading (frame :: outer) state)
    (flows : Flows ((frame :: outer).map Frame.name)) {character : Char}
    (noNul : character ≠ '\x00') :
    Reading (frame.addCharacter character :: outer)
      (state.placeToken (.character character)) := by
  rw [reading.placeToken flows rfl rfl, placeCharacter, if_neg noNul,
    reading.reopenFormatting]
  split
  · exact reading.reading_attachCharacter character
  · exact reading.noFrameset.reading_attachCharacter character

theorem skips (reading : Reading (frame :: outer) state)
    (flows : Flows ((frame :: outer).map Frame.name)) :
    state.placeToken (.character '\x00') = state :=
  reading.placeToken flows rfl rfl

theorem finishes (reading : Reading (frame :: outer) state)
    (flows : Flows ((frame :: outer).map Frame.name)) :
    state.placeToken .finish = state := by
  obtain ⟨templateModes, -⟩ := reading.isPlain
  apply reading.placeToken flows rfl
  rw [inBody, templateModes]
  rfl

end Reading

end Construction

end LessonSite.Html
