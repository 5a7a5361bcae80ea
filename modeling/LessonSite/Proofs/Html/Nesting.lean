import LessonSite.Proofs.Html.ReadBack

/-!
# Elements within elements

Besides the elements of running text, preformatted text and tables open within
elements of certain names and are closed by their own closing tags.  After some
texts the state waits for a tag: a line feed is not wanted right after the tag
of preformatted text, and blanks between the rows of a table are placed only
when the next tag is known.
-/

namespace LessonSite.Html.Construction

/-- Parts of a table that hold no text, and the table itself. -/
def isTableFrameTag (name : String) : Bool :=
  ["table", "tbody", "thead", "tr"].contains name

/-- Elements that have no content. -/
def isVoidTag (name : String) : Bool :=
  ["br", "hr", "img"].contains name

/-- The names of elements within a body, the innermost first, of which the mode
can be told. -/
def isInBody : List String → Bool
  | [] => false
  | name :: outer =>
      name == "body" ||
        ((isRunningTag name || isTableFrameTag name || isCellTag name) &&
          isInBody outer)

/-- An element of the given name opens within elements of the given names, the
innermost first, and is closed by its own closing tag. -/
inductive Opens (path : List String) : String → Prop where
  | running {name : String} (flows : Flows path) (may : MayOpen path name) :
      Opens path name
  | preformatted (flows : Flows path) (apart : "p" ∉ path) : Opens path "pre"
  | table (flows : Flows path) (apart : "p" ∉ path)
      (inBody : isInBody path = true) :
      Opens path "table"
  | rows {name : String} (parent : path.head? = some "table")
      (isRows : name = "tbody" ∨ name = "thead") : Opens path name
  | row {parent : String} (within : path.head? = some parent)
      (isRows : parent = "tbody" ∨ parent = "thead") : Opens path "tr"
  | cell {name : String} (parent : path.head? = some "tr")
      (isCell : name = "td" ∨ name = "th") :
      Opens path name

/-- The next tag is placed as in a state that reads text. -/
def AtTag (frames : List Frame) (state : Construction) : Prop :=
  ∃ settled,
    Reading frames settled ∧ state.textKind = .markup ∧
      state.inForeign = false ∧
        (∀ tag after, settled.placeByMode (.opening tag) = .placed after →
          state.placeToken (.opening tag) = after) ∧
        ∀ name after, settled.placeByMode (.closing name) = .placed after →
          state.placeToken (.closing name) = after

namespace Reading

variable {frame inner : Frame} {outer frames : List Frame}
  {state : Construction}

theorem atTag (reading : Reading (frame :: outer) state) :
    AtTag (frame :: outer) state :=
  ⟨state, reading, reading.textKind, reading.inForeign,
    fun _ _ => reading.placeToken_of_placed, fun _ _ =>
      reading.placeToken_of_placed⟩

private theorem closeUpTo (reading : Reading (frame :: outer) state)
    {isKind : ElementName → Bool} (kind : isKind frame.elementName = true) :
    state.closeUpTo isKind = state := by
  have stops :
      (state.opened.dropWhile fun node => !isKind (state.nameOf node)) =
        state.opened := by
    rw [reading.opened, Frame.positions, List.dropWhile_cons_of_neg]
    rw [reading.nameOf_innermost, kind]
    decide
  rw [Construction.closeUpTo, stops]

private theorem opens_withMode (reading : Reading (frame :: outer) state)
    {name : String}
    (attributes : List Attribute) (part : isTableFrameTag name = true)
    {mode : Mode}
    (same : mode = modeWithin (name :: (frame :: outer).map Frame.name)) :
    Reading (⟨name, attributes, []⟩ :: frame :: outer)
      ((state.openTag ⟨name, attributes, false⟩).withMode mode) := by
  have others :
      name ≠ "template" ∧ isRememberedTag name = false ∧
        isCellTag name = false := by
    simp only [isTableFrameTag, List.contains_iff_mem, List.mem_cons,
      List.not_mem_nil, or_false] at part
    rcases part with rfl | rfl | rfl | rfl <;> decide
  obtain ⟨ordinary, plain, noCell⟩ := others
  exact ⟨(reading.afterOpening ⟨name, attributes, false⟩ ordinary plain
    noCell).withMode mode, same⟩

private theorem opens_cell (reading : Reading (frame :: outer) state)
    {name : String}
    (attributes : List Attribute) (isCell : isCellTag name = true) :
    Reading (⟨name, attributes, []⟩ :: frame :: outer)
      ((state.openTag ⟨name, attributes, false⟩).addMarker.withMode
        .inCell) := by
  have ordinary : name ≠ "template" := by
    rintro rfl
    exact absurd isCell (by decide)
  have mode : modeWithin (name :: (frame :: outer).map Frame.name) = .inCell :=
    if_pos isCell
  rw [reading.openTag ⟨name, attributes, false⟩ ordinary]
  exact ⟨⟨rfl, rfl, .cell isCell reading.formatting, reading.isPlain⟩,
    mode.symm⟩

private theorem placeToken_dropping (state : Construction) {token : Token}
    (noBreak : token ≠ .character '\n') :
    { state with dropsLineFeed := true }.placeToken token =
      state.placeToken token := by
  simp [Construction.placeToken, noBreak]

private theorem atTag_dropping (reading : Reading (frame :: outer) state) :
    AtTag (frame :: outer) { state with dropsLineFeed := true } := by
  refine ⟨state, reading, reading.textKind, reading.inForeign,
    fun tag after placed => ?_, fun name after placed => ?_⟩
  · rw [placeToken_dropping state Token.noConfusion]
    exact reading.placeToken_of_placed placed
  · rw [placeToken_dropping state Token.noConfusion]
    exact reading.placeToken_of_placed placed

/-- After an opening tag its element is open; only in preformatted text a tag
has to follow. -/
theorem opensAny (reading : Reading (frame :: outer) state) {name : String}
    (attributes : List Attribute)
    (opens : Opens ((frame :: outer).map Frame.name) name) :
    ∃ after,
      state.placeByMode (.opening ⟨name, attributes, false⟩) = .placed after ∧
        AtTag (⟨name, attributes, []⟩ :: frame :: outer) after ∧
          (name ≠ "pre" →
            Reading (⟨name, attributes, []⟩ :: frame :: outer) after) := by
  cases opens with
  | running flows may =>
      have opened := reading.openInBody attributes may
      refine ⟨_, ?_, opened.atTag, fun _ => opened⟩
      rw [reading.placeByMode flows
        (isRunningToken_opening may.isRunningTag attributes)]
      rfl
  | preformatted flows apart =>
      have opened :=
        (reading.reading_openTag attributes
          (show isRunningTag "pre" = true by decide)
          (show isRememberedTag "pre" = false by decide)).noFrameset
      have chosen : state.openInBody ⟨"pre", attributes, false⟩ =
          { (state.closeOpenParagraph.openTag
              ⟨"pre", attributes, false⟩).noFrameset with
            dropsLineFeed := true } := rfl
      rw [reading.closeOpenParagraph apart] at chosen
      refine ⟨_, ?_, opened.atTag_dropping, fun other => absurd rfl other⟩
      rw [reading.placeByMode flows
        (isRunningToken_opening (by decide) attributes), inBody, chosen]
  | table flows apart inBody =>
      have chosen : state.openInBody ⟨"table", attributes, false⟩ =
          ((if state.oldLayout then state else state.closeOpenParagraph).openTag
            ⟨"table", attributes, false⟩).noFrameset.withMode .inTable := rfl
      rw [reading.closeOpenParagraph apart, ite_self] at chosen
      have opened := (reading.opens_withMode attributes
        (show isTableFrameTag "table" = true by decide) rfl).noFrameset
      refine ⟨_, ?_, opened.atTag, fun _ => opened⟩
      rw [reading.placeByMode flows
        (show isRunningToken (.opening ⟨"table", attributes, false⟩) =
          true by rfl), Construction.inBody, chosen]
      rfl
  | rows parent isRows =>
      have named : frame.name = "table" := Option.some.inj parent
      have mode : state.mode = .inTable := by
        rw [reading.mode, List.map_cons, named]
        rfl
      have cleared : state.closeUpTo ElementName.endsTableScope = state :=
        reading.closeUpTo (by rw [Frame.elementName, named]; decide)
      have part : isTableFrameTag name = true := by
        rcases isRows with rfl | rfl <;> decide
      have same :
          Mode.inTableBody =
            modeWithin (name :: (frame :: outer).map Frame.name) := by
        rcases isRows with rfl | rfl <;> rfl
      have placed : state.placeByMode (.opening ⟨name, attributes, false⟩) =
          .placed (((state.closeUpTo ElementName.endsTableScope).openTag
            ⟨name, attributes, false⟩).withMode .inTableBody) := by
        rw [Construction.placeByMode, mode]
        rcases isRows with rfl | rfl <;> rfl
      rw [cleared] at placed
      have opened := reading.opens_withMode attributes part same
      exact ⟨_, placed, opened.atTag, fun _ => opened⟩
  | @row parent within isRows =>
      have named : frame.name = parent := Option.some.inj within
      have mode : state.mode = .inTableBody := by
        rw [reading.mode, List.map_cons, named]
        rcases isRows with rfl | rfl <;> rfl
      have cleared : state.closeUpTo ElementName.holdsRows = state := by
        apply reading.closeUpTo
        rw [Frame.elementName, named]
        rcases isRows with rfl | rfl <;> decide
      have placed : state.placeByMode (.opening ⟨"tr", attributes, false⟩) =
          .placed (((state.closeUpTo ElementName.holdsRows).openTag
            ⟨"tr", attributes, false⟩).withMode .inRow) := by
        rw [Construction.placeByMode, mode]
        rfl
      rw [cleared] at placed
      have opened := reading.opens_withMode attributes
        (show isTableFrameTag "tr" = true by decide) rfl
      exact ⟨_, placed, opened.atTag, fun _ => opened⟩
  | cell parent isCell =>
      have named : frame.name = "tr" := Option.some.inj parent
      have mode : state.mode = .inRow := by
        rw [reading.mode, List.map_cons, named]
        rfl
      have cleared : state.closeUpTo ElementName.holdsCells = state :=
        reading.closeUpTo (by rw [Frame.elementName, named]; decide)
      have placed : state.placeByMode (.opening ⟨name, attributes, false⟩) =
          .placed (((state.closeUpTo ElementName.holdsCells).openTag
            ⟨name, attributes, false⟩).addMarker.withMode .inCell) := by
        rw [Construction.placeByMode, mode]
        rcases isCell with rfl | rfl <;> rfl
      rw [cleared] at placed
      have opened := reading.opens_cell attributes
        (show isCellTag name = true by rcases isCell with rfl | rfl <;> decide)
      exact ⟨_, placed, opened.atTag, fun _ => opened⟩

private theorem search_running {node : Nat} {opened : List Nat} {name : String}
    (running : isRunningTag name = true)
    (named : state.nameOf node = ⟨.html, name⟩) :
    fittingMode.search state (node :: opened) =
      fittingMode.search state opened := by
  have differs :
      ∀ other, isRunningTag other = false → ¬ (name == other) = true :=
    fun _ => not_beq_of_isRunningTag running
  have noCell : ElementName.isCell ⟨.html, name⟩ = false :=
    isCellTag_of_isRunningTag running
  have noRows : ["tbody", "thead", "tfoot"].contains name = false :=
    not_contains_of_isRunningTag running (by decide)
  rw [fittingMode.search, named]
  dsimp only
  rw [if_neg (fun other => other rfl), if_neg (differs "select" (by decide)),
    noCell, Bool.false_and, if_neg Bool.false_ne_true,
    if_neg (differs "tr" (by decide)), noRows, if_neg Bool.false_ne_true,
    if_neg (differs "caption" (by decide)),
    if_neg (differs "colgroup" (by decide)),
    if_neg (differs "table" (by decide)),
    if_neg (differs "template" (by decide))]
  have noHead : ¬ (name == "head" && !opened.isEmpty) = true :=
    fun both => differs "head" (by decide) (Bool.and_eq_true_iff.mp both).1
  rw [if_neg noHead, if_neg (differs "body" (by decide)),
    if_neg (differs "frameset" (by decide)),
    if_neg (differs "html" (by decide))]

private theorem search_eq_modeWithin {names : List String}
    (inBody : isInBody names = true) :
    ∀ opened : List Nat,
      opened.map state.nameOf = names.map (ElementName.mk .html) →
        fittingMode.search state opened = modeWithin names := by
  induction names with
  | nil => exact Bool.noConfusion inBody
  | cons name outer induction =>
      intro opened same
      obtain ⟨node, others, rfl, named, same⟩ := List.map_eq_cons_iff.mp same
      rw [isInBody, Bool.or_eq_true, Bool.and_eq_true, Bool.or_eq_true,
        Bool.or_eq_true, beq_iff_eq] at inBody
      rcases inBody with rfl | ⟨(running | part) | isCell, inBody⟩
      · rw [fittingMode.search, named]
        rfl
      · rw [search_running running named, induction inBody others same,
          modeWithin_of_isRunningTag running]
      · simp only [isTableFrameTag, List.contains_iff_mem, List.mem_cons,
          List.not_mem_nil, or_false] at part
        rw [fittingMode.search, named]
        rcases part with rfl | rfl | rfl | rfl <;> rfl
      · have within : others.isEmpty = false := by
          cases outer with
          | nil => exact Bool.noConfusion inBody
          | cons parent outer =>
              obtain ⟨second, rest, rfl, -, -⟩ := List.map_eq_cons_iff.mp same
              rfl
        simp only [isCellTag, List.contains_iff_mem, List.mem_cons,
          List.not_mem_nil, or_false] at isCell
        rw [fittingMode.search, named]
        dsimp only
        rw [within]
        rcases isCell with rfl | rfl <;> rfl

private theorem fittingMode_eq (names : state.opened.map state.nameOf =
      frames.map Frame.elementName)
    (inBody : isInBody (frames.map Frame.name) = true) :
    state.fittingMode = modeWithin (frames.map Frame.name) := by
  apply search_eq_modeWithin inBody
  rw [names, List.map_map]
  rfl

private theorem pop_withMode (reading : Reading (inner :: frame :: outer) state)
    (part : isTableFrameTag inner.name = true) {mode : Mode}
    (same : mode = modeWithin ((frame :: outer).map Frame.name)) :
    Reading (frame.addAll [inner.node] :: outer) (state.pop.withMode mode) := by
  have others :
      isRememberedTag inner.name = false ∧ isCellTag inner.name = false := by
    obtain ⟨name, attributes, children⟩ := inner
    dsimp only at part ⊢
    simp only [isTableFrameTag, List.contains_iff_mem, List.mem_cons,
      List.not_mem_nil, or_false] at part
    rcases part with rfl | rfl | rfl | rfl <;> decide
  exact ⟨(reading.afterPop others.1 others.2).withMode mode, same⟩

private theorem pop_cell (reading : Reading (inner :: frame :: outer) state)
    (isCell : isCellTag inner.name = true) {mode : Mode}
    (same : mode = modeWithin ((frame :: outer).map Frame.name)) :
    Reading (frame.addAll [inner.node] :: outer)
      (state.pop.dropToMarker.withMode mode) := by
  have unremembered : isRememberedTag inner.name = false := by
    obtain ⟨name, attributes, children⟩ := inner
    dsimp only at isCell ⊢
    simp only [isCellTag, List.contains_iff_mem, List.mem_cons,
      List.not_mem_nil, or_false] at isCell
    rcases isCell with rfl | rfl <;> decide
  have remembers :
      Remembers (frame :: outer) (state.pop.dropToMarker).formatting := by
    rw [dropToMarker, pop]
    generalize hidden : state.formatting = entries
    cases hidden ▸ reading.formatting with
    | other _ noCell _ => exact Bool.noConfusion (noCell.symm.trans isCell)
    | remembered formatting _ =>
        exact Bool.noConfusion (unremembered.symm.trans formatting)
    | forgotten formatting _ =>
        exact Bool.noConfusion (unremembered.symm.trans formatting)
    | cell _ others => exact others
  refine ⟨⟨reading.dom.trans (Frame.dom_close inner frame outer), ?_,
    remembers.addAll _, reading.isPlain⟩, same⟩
  rw [withMode, dropToMarker, pop, reading.opened]
  rfl

/-- After the closing tag of the innermost element text is read in the next
one. -/
theorem closesAny (reading : Reading (inner :: frame :: outer) state)
    (opens : Opens ((frame :: outer).map Frame.name) inner.name) :
    ∃ after, state.placeByMode (.closing inner.name) = .placed after ∧
      Reading (frame.addAll [inner.node] :: outer) after := by
  obtain ⟨name, attributes, children⟩ := inner
  dsimp only at opens ⊢
  cases opens with
  | running flows may =>
      refine ⟨_, ?_, reading.closeInBody may⟩
      rw [reading.placeByMode (flows.cons may.isRunningTag)
        (isRunningToken_closing may.isRunningTag)]
      rfl
  | preformatted flows apart =>
      have running : isRunningTag "pre" = true := by decide
      refine ⟨_, ?_,
        reading.reading_pop running
          (show isRememberedTag "pre" = false by decide)⟩
      rw [reading.placeByMode (flows.cons running)
        (isRunningToken_closing running), inBody]
      exact congrArg _
        (reading.closes_block (show isClosedBlock "pre" = true by decide))
  | table flows apart inBody =>
      have popped :
          Reading
            (frame.addAll [Frame.node ⟨"table", attributes, children⟩] :: outer)
            (state.pop.withMode
              (modeWithin ((frame :: outer).map Frame.name))) :=
        reading.pop_withMode (show isTableFrameTag "table" = true by decide) rfl
      have names : state.pop.opened.map state.pop.nameOf =
          (frame :: outer).map Frame.elementName := popped.map_nameOf
      have fits : state.pop.refit =
          state.pop.withMode
            (modeWithin ((frame :: outer).map Frame.name)) := by
        rw [refit, fittingMode_eq names inBody]
      have placed : state.placeByMode (.closing "table") =
          if state.nameInScope ElementName.endsTableScope "table" then
            .placed (state.closeThrough "table").refit
          else .placed state := by
        rw [Construction.placeByMode, reading.mode]
        rfl
      rw [reading.currentInScope, if_pos rfl, reading.closeThrough,
        fits] at placed
      exact ⟨_, placed, popped⟩
  | rows parent isRows =>
      have named : frame.name = "table" := Option.some.inj parent
      have cleared : state.closeUpTo ElementName.holdsRows = state := by
        apply reading.closeUpTo
        rcases isRows with rfl | rfl <;> rfl
      have placed : state.placeByMode (.closing name) =
          .placed (if state.nameInScope ElementName.endsTableScope name then
            (state.closeUpTo ElementName.holdsRows).pop.withMode .inTable
            else state) := by
        rw [Construction.placeByMode, reading.mode]
        rcases isRows with rfl | rfl <;> rfl
      rw [reading.currentInScope, if_pos rfl, cleared] at placed
      refine ⟨_, placed, reading.pop_withMode ?_ ?_⟩
      · rcases isRows with rfl | rfl <;> rfl
      · rw [List.map_cons, named]
        rfl
  | @row parent within isRows =>
      have named : frame.name = parent := Option.some.inj within
      have cleared : state.closeUpTo ElementName.holdsCells = state :=
        reading.closeUpTo rfl
      have placed : state.placeByMode (.closing "tr") =
          .placed (if state.nameInScope ElementName.endsTableScope "tr" then
            (state.closeUpTo ElementName.holdsCells).pop.withMode .inTableBody
            else state) := by
        rw [Construction.placeByMode, reading.mode]
        rfl
      rw [reading.currentInScope, if_pos rfl, cleared] at placed
      refine ⟨_, placed,
        reading.pop_withMode (show isTableFrameTag "tr" = true by decide) ?_⟩
      rw [List.map_cons, named]
      rcases isRows with rfl | rfl <;> rfl
  | cell parent isCell =>
      have named : frame.name = "tr" := Option.some.inj parent
      have placed : state.placeByMode (.closing name) =
          .placed (if state.nameInScope ElementName.endsTableScope name then
            (state.closeImplied.closeThrough name).dropToMarker.withMode .inRow
            else state) := by
        rw [Construction.placeByMode, reading.mode]
        rcases isCell with rfl | rfl <;> rfl
      have stays : state.closeImplied = state := by
        apply reading.closeWhile
        rcases isCell with rfl | rfl <;> rfl
      rw [reading.currentInScope, if_pos rfl, stays,
        reading.closeThrough] at placed
      refine ⟨_, placed, reading.pop_cell ?_ ?_⟩
      · rcases isCell with rfl | rfl <;> rfl
      · rw [List.map_cons, named]
        rfl

theorem addEmpty (reading : Reading (frame :: outer) state) (tag : Tag)
    (ordinary : tag.name ≠ "template") :
    Reading
      (frame.addAll [.element ⟨.html, tag.name⟩ tag.attributes []] :: outer)
      (state.addEmpty tag) := by
  refine ⟨reading.afterEmpty tag ordinary, ?_⟩
  rw [Construction.addEmpty, reading.place tag ordinary]
  exact reading.mode

/-- The tag of an element without content adds it to the innermost one. -/
theorem adds (reading : Reading (frame :: outer) state)
    (flows : Flows ((frame :: outer).map Frame.name)) (tag : Tag)
    (empty : isVoidTag tag.name = true)
    (apart : tag.name = "hr" → "p" ∉ (frame :: outer).map Frame.name) :
    ∃ after, state.placeByMode (.opening tag) = .placed after ∧
      Reading
        (frame.addAll [.element ⟨.html, tag.name⟩ tag.attributes []] :: outer)
        after := by
  obtain ⟨name, attributes, selfClosing⟩ := tag
  dsimp only at empty apart
  simp only [isVoidTag, List.contains_iff_mem, List.mem_cons, List.not_mem_nil,
    or_false] at empty
  have running :
      isRunningToken (.opening ⟨name, attributes, selfClosing⟩) = true := by
    rcases empty with rfl | rfl | rfl <;> rfl
  have ordinary : name ≠ "template" := by
    rcases empty with rfl | rfl | rfl <;> decide
  have added :=
    (reading.addEmpty ⟨name, attributes, selfClosing⟩ ordinary).noFrameset
  refine ⟨_, ?_, added⟩
  rw [reading.placeByMode flows running, inBody]
  rcases empty with rfl | rfl | rfl
  · have chosen : state.openInBody ⟨"br", attributes, selfClosing⟩ =
        (state.reopenFormatting.addEmpty
          ⟨"br", attributes, selfClosing⟩).noFrameset := rfl
    rw [chosen, reading.reopenFormatting]
  · have chosen : state.openInBody ⟨"hr", attributes, selfClosing⟩ =
        (state.closeOpenParagraph.addEmpty
          ⟨"hr", attributes, selfClosing⟩).noFrameset := rfl
    rw [chosen, reading.closeOpenParagraph (apart rfl)]
  · have chosen : state.openInBody ⟨"img", attributes, selfClosing⟩ =
        (state.reopenFormatting.addEmpty
          ⟨"img", attributes, selfClosing⟩).noFrameset := rfl
    rw [chosen, reading.reopenFormatting]

end Reading

/-- Text of the given characters may stand within elements of the given
names. -/
def Fits (path : List String) (text : List Char) : Prop :=
  Flows path ∨
    (path.head?.any isTableFrameTag = true ∧
      ∀ character ∈ text, isGap character = true)

theorem Opens.fits_nil {path : List String} {name : String}
    (opens : Opens path name) :
    Fits (name :: path) [] := by
  cases opens with
  | running flows may => exact .inl (flows.cons may.isRunningTag)
  | preformatted flows _ => exact .inl (flows.cons (by decide))
  | table _ _ _ => exact .inr ⟨rfl, List.forall_mem_nil _⟩
  | rows _ isRows =>
      exact .inr
        ⟨by rcases isRows with rfl | rfl <;> rfl, List.forall_mem_nil _⟩
  | row _ _ => exact .inr ⟨rfl, List.forall_mem_nil _⟩
  | cell _ isCell => exact .inl (.inr (by rcases isCell with rfl | rfl <;> rfl))

/-- A state in which characters of a table wait for the next tag. -/
private def waiting (state : Construction) (text : List Char) : Construction :=
  { state with
    returnMode := state.mode, mode := .inTableText, pending := text.reverse }

private theorem waiting_more (state : Construction) (text : List Char)
    {character : Char}
    (noNul : character ≠ '\x00') (common : state.currentName.vocabulary = .html)
    (ready : state.dropsLineFeed = false) :
    (waiting state text).placeToken (.character character) =
      waiting state (text ++ [character]) := by
  have foreign :
      (waiting state text).isForeign (.character character) = false := by
    have same : (waiting state text).currentName = state.currentName := rfl
    simp [isForeign, same, common]
  have unchanged :
      { waiting state text with dropsLineFeed := false } =
        waiting state text := by
    rw [← ready]
    rfl
  have placed : (waiting state text).placeByMode (.character character) =
      .placed (if character = '\x00' then waiting state text
        else { waiting state text with
          pending := character :: (waiting state text).pending }) :=
    rfl
  have drops : (waiting state text).dropsLineFeed = false := ready
  rw [placeToken, drops, Bool.false_and, if_neg Bool.false_ne_true, unchanged,
    Nat.add_assoc, Nat.add_comm 32, placeWithin, foreign,
    if_neg Bool.false_ne_true, placed, if_neg noNul]
  simp [waiting]

namespace Reading

variable {frame : Frame} {outer : List Frame} {state : Construction}

private theorem waiting_first (reading : Reading (frame :: outer) state)
    (holds : isTableFrameTag frame.name = true) {character : Char}
    (noNul : character ≠ '\x00') :
    state.placeToken (.character character) = waiting state [character] := by
  obtain ⟨-, -, dropsLineFeed, -, pending⟩ := reading.isPlain
  have isFrame : state.currentName.isTableFrame = true := by
    rw [reading.currentName, Frame.elementName]
    simp only [isTableFrameTag, List.contains_iff_mem, List.mem_cons,
      List.not_mem_nil, or_false] at holds
    rcases holds with same | same | same | same <;> rw [same] <;> decide
  have common : state.isForeign (.character character) = false := by
    simp [isForeign, reading.currentName, Frame.elementName]
  have unchanged : { state with dropsLineFeed := false } = state := by
    rw [← dropsLineFeed]
  have byMode : state.placeByMode (.character character) =
      state.inTableCharacter (.character character) := by
    rw [Construction.placeByMode, reading.mode, List.map_cons]
    simp only [isTableFrameTag, List.contains_iff_mem, List.mem_cons,
      List.not_mem_nil, or_false] at holds
    rcases holds with same | same | same | same <;> rw [same] <;> rfl
  have again :
      state.placeByMode (.character character) = .again (waiting state []) := by
    rw [byMode, inTableCharacter, if_pos isFrame, waiting, List.reverse_nil,
      ← pending]
  have next : (waiting state []).isForeign (.character character) = false := by
    have same : (waiting state []).currentName = state.currentName := rfl
    simp [isForeign, same, reading.currentName, Frame.elementName]
  have placed : (waiting state []).placeByMode (.character character) =
      .placed
        (if character = '\x00' then
          waiting state []
        else waiting state [character]) := rfl
  rw [Construction.placeToken, dropsLineFeed, Bool.false_and,
    if_neg Bool.false_ne_true, unchanged, Nat.add_assoc, Nat.add_comm 32,
    placeWithin_again _ common again, placeWithin, next,
    if_neg Bool.false_ne_true, placed, if_neg noNul]

private theorem foldl_waiting (reading : Reading (frame :: outer) state)
    (holds : isTableFrameTag frame.name = true) {text : List Char}
    (nonempty : text ≠ []) (noNul : '\x00' ∉ text) :
    (Html.characters text).foldl Construction.placeToken state =
      waiting state text := by
  have common : state.currentName.vocabulary = .html := by
    rw [reading.currentName]
    rfl
  have more : ∀ read rest : List Char, '\x00' ∉ rest →
      (Html.characters rest).foldl Construction.placeToken
          (waiting state read) =
        waiting state (read ++ rest) := by
    intro read rest noNul
    induction rest generalizing read with
    | nil => rw [List.append_nil]; rfl
    | cons character rest induction =>
        rw [List.mem_cons, not_or] at noNul
        rw [Html.characters, List.map_cons, List.foldl_cons,
          waiting_more state read (Ne.symm noNul.1) common
            reading.isPlain.2.2.1,
          List.append_cons read character rest]
        exact induction (read ++ [character]) noNul.2
  obtain ⟨first, rest, rfl⟩ := List.exists_cons_of_ne_nil nonempty
  rw [List.mem_cons, not_or] at noNul
  rw [Html.characters, List.map_cons, List.foldl_cons,
    reading.waiting_first holds (Ne.symm noNul.1)]
  exact more [first] rest noNul.2

private theorem foldl_attachCharacter
    (dom : state.dom = Frame.dom (frame :: outer))
    (opened : state.opened = Frame.positions (frame :: outer))
    (fostering : state.fostering = false) (text : List Char) :
    text.foldl (fun state character => state.attachCharacter character) state =
      { state with dom := Frame.dom (frame.addText text :: outer) } := by
  induction text generalizing frame state with
  | nil => rw [List.foldl_nil, Frame.addText, List.foldl_nil, ← dom]
  | cons character text induction =>
      rw [List.foldl_cons, attachCharacter_eq dom opened fostering]
      exact @induction (frame.addCharacter character) _ rfl opened fostering

private theorem atTag_waiting (reading : Reading (frame :: outer) state)
    {text : List Char} (gaps : ∀ character ∈ text, isGap character = true) :
    AtTag (frame.addText text :: outer) (waiting state text) := by
  obtain ⟨templateModes, fostering, dropsLineFeed, plain, -⟩ := reading.isPlain
  have formatting :
      Remembers (frame.addText text :: outer) state.formatting := by
    have addText :
        ∀ (text : List Char) (frame : Frame), Remembers (frame :: outer)
          state.formatting →
          Remembers (frame.addText text :: outer) state.formatting := by
      intro text
      induction text with
      | nil => exact fun _ remembers => remembers
      | cons character text induction =>
          exact fun frame remembers =>
            induction (frame.addCharacter character) (remembers.addAll _)
    exact addText text frame reading.formatting
  have names :
      (frame.addText text :: outer).map Frame.name =
        (frame :: outer).map Frame.name :=
    congrArg (· :: outer.map Frame.name) (frame.name_addText text)
  have settles : Reading (frame.addText text :: outer) { state with
      dom := Frame.dom (frame.addText text :: outer), returnMode := state.mode,
        pending := [] } :=
    ⟨⟨rfl, reading.opened, formatting, templateModes, fostering, dropsLineFeed,
        plain, rfl⟩,
      reading.mode.trans (congrArg modeWithin names.symm)⟩
  have placing :
      (waiting state text).placePending.withMode
          (waiting state text).returnMode =
        { state with
          dom := Frame.dom (frame.addText text :: outer),
            returnMode := state.mode, pending := [] } := by
    have all : text.all isGap = true := List.all_eq_true.mpr gaps
    have reversed : (waiting state text).pending.reverse = text :=
      List.reverse_reverse text
    have attached := @foldl_attachCharacter frame outer
      { waiting state text with pending := [] } reading.dom reading.opened
      fostering text
    rw [placePending, reversed]
    dsimp only
    rw [all, if_pos rfl, attached]
    rfl
  have common : ∀ token, (waiting state text).isForeign token = false := by
    intro token
    have same : (waiting state text).currentName = state.currentName := rfl
    simp [isForeign, same, reading.currentName, Frame.elementName]
  have unchanged :
      { waiting state text with dropsLineFeed := false } =
        waiting state text := by
    rw [← dropsLineFeed]
    rfl
  have drops : (waiting state text).dropsLineFeed = false := dropsLineFeed
  have places : ∀ token after, (waiting state text).placeByMode token =
      .again
        ((waiting state text).placePending.withMode
          (waiting state text).returnMode) →
        Construction.placeByMode { state with
          dom := Frame.dom (frame.addText text :: outer),
            returnMode := state.mode, pending := [] }
            token = .placed after →
        (waiting state text).placeToken token = after := by
    intro token after again placed
    have next := settles.placeToken_of_placed placed
    rw [placing] at again
    rw [Construction.placeToken, drops, Bool.false_and,
      if_neg Bool.false_ne_true, unchanged, Nat.add_assoc, Nat.add_comm 32,
      placeWithin_again _ (common token) again, placeWithin, placed]
    simp [isForeign, settles.currentName, Frame.elementName]
  refine ⟨_, settles, ?_, reading.inForeign, fun tag after =>
      places _ after rfl,
    fun name after => places _ after rfl⟩
  rw [Construction.textKind]
  have noPlain : (waiting state text).plain = false := plain
  rw [noPlain]
  rfl

/-- A text goes into the innermost element, at the latest when a tag follows. -/
theorem atTag_text (reading : Reading (frame :: outer) state) {text : List Char}
    (fits : Fits ((frame :: outer).map Frame.name) text) :
    AtTag (frame.addText (text.filter (· != '\x00')) :: outer)
      ((Html.characters text).foldl Construction.placeToken state) := by
  rcases fits with flows | ⟨holds, gaps⟩
  · exact (reading.characters flows text).atTag
  · have noNul : '\x00' ∉ text := fun member =>
      absurd (gaps _ member) (by decide)
    have kept : text.filter (· != '\x00') = text :=
      List.filter_eq_self.mpr fun _ member =>
        bne_iff_ne.mpr (ne_of_mem_of_not_mem member noNul)
    rw [kept]
    by_cases empty : text = []
    · rw [empty]
      exact reading.atTag
    · rw [reading.foldl_waiting holds empty noNul]
      exact reading.atTag_waiting gaps

end Reading

namespace AtTag

variable {frame inner : Frame} {outer : List Frame} {state : Construction}

theorem opens (atTag : AtTag (frame :: outer) state) {name : String}
    (attributes : List Attribute)
    (opens : Opens ((frame :: outer).map Frame.name) name) :
    AtTag (⟨name, attributes, []⟩ :: frame :: outer)
        (state.placeToken (.opening ⟨name, attributes, false⟩)) ∧
      (name ≠ "pre" → Reading (⟨name, attributes, []⟩ :: frame :: outer)
        (state.placeToken (.opening ⟨name, attributes, false⟩))) := by
  obtain ⟨settled, reading, -, -, opening, -⟩ := atTag
  obtain ⟨after, placed, opened⟩ := reading.opensAny attributes opens
  rw [opening _ _ placed]
  exact opened

theorem closes (atTag : AtTag (inner :: frame :: outer) state)
    (opens : Opens ((frame :: outer).map Frame.name) inner.name) :
    Reading (frame.addAll [inner.node] :: outer)
      (state.placeToken (.closing inner.name)) := by
  obtain ⟨settled, reading, -, -, -, closing⟩ := atTag
  obtain ⟨after, placed, closed⟩ := reading.closesAny opens
  rw [closing _ _ placed]
  exact closed

theorem adds (atTag : AtTag (frame :: outer) state)
    (flows : Flows ((frame :: outer).map Frame.name)) (tag : Tag)
    (isVoid : isVoidTag tag.name = true)
    (apart : tag.name = "hr" → "p" ∉ (frame :: outer).map Frame.name) :
    Reading
      (frame.addAll [.element ⟨.html, tag.name⟩ tag.attributes []] :: outer)
      (state.placeToken (.opening tag)) := by
  obtain ⟨settled, reading, -, -, opening, -⟩ := atTag
  obtain ⟨after, placed, added⟩ := reading.adds flows tag isVoid apart
  rw [opening _ _ placed]
  exact added

end AtTag

end LessonSite.Html.Construction
