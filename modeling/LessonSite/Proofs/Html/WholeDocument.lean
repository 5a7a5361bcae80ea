import LessonSite.Proofs.Html.Balanced

/-!
# Whole documents

A document that begins with its document type has a head and a body.  The head
holds elements without content, a title and scripts that are loaded from
elsewhere; the text of a title ends at the first closing tag of a title,
whatever stands before it.
-/

namespace LessonSite.Html

open Construction (AtTag Reading Within isCellTag isRememberedTag)

/-- The text is read as one with the closing tag of an element of the given name
in it. -/
def HoldsClosing (name : String) (text : List Char) : Prop :=
  (splitAtClosing name (normalizeInput.lines text)).2 ≠ []

instance (name : String) (text : List Char) :
    Decidable (HoldsClosing name text) :=
  inferInstanceAs (Decidable (_ ≠ _))

theorem not_holdsClosing (name : String) {text : List Char}
    (noMark : '<' ∉ text) :
    ¬ HoldsClosing name text := by
  have whole :
      ∀ text : List Char, '<' ∉ text → (splitAtClosing name text).2 = [] := by
    intro text noMark
    induction text with
    | nil => rfl
    | cons first text induction =>
        rw [List.mem_cons, not_or] at noMark
        have inside : atClosing name (first :: text) = false := by
          unfold atClosing
          split
          · next same =>
              cases same
              exact absurd rfl noMark.1
          · rfl
        rw [splitAtClosing, inside, if_neg Bool.false_ne_true]
        exact induction noMark.2
  exact fun holds => holds (whole _ (not_mem_lines noMark (by decide)))

def shownTitle (text : List Char) : String :=
  String.ofList
    (decodeReferences false ((normalizeInput.lines text).map replaceNul))

private theorem shownTitle_eq {text : List Char} (noNul : '\x00' ∉ text)
    (noReturn : '\r' ∉ text) :
    shownTitle text = String.ofList (decodeReferences false text) := by
  have kept : text.map replaceNul = text.map id :=
    List.map_congr_left fun _ member =>
      if_neg (ne_of_mem_of_not_mem member noNul)
  rw [shownTitle, lines_eq_self noReturn, kept, List.map_id]

/-- A title in which no reference can begin is seen as it is. -/
theorem shownTitle_eq_self {text : String}
    (plain : mayHoldReference text.toList = false)
    (clean : IsClean text) : shownTitle text.toList = text := by
  rw [shownTitle_eq clean.1 clean.2, decodeReferences_eq_self plain,
    String.ofList_toList]

theorem shownTitle_escape {text : String} (clean : IsClean text) :
    shownTitle (Markup.escape text).toList = text := by
  rw [Markup.escape, String.toList_ofList,
    shownTitle_eq (not_mem_escape clean.1 (by decide))
      (not_mem_escape clean.2 (by decide)), decodeReferences_escape,
    String.ofList_toList]

private theorem stripFolded?_append {start : String}
    (noMark : '<' ∉ start.toList) (text more : List Char) :
    stripFolded? start (text ++ '<' :: more) =
      (stripFolded? start text).map (· ++ '<' :: more) := by
  unfold stripFolded?
  by_cases long : start.length ≤ text.length
  · rw [List.take_append_of_le_length long, List.drop_append_of_le_length long]
    split <;> rfl
  · have mark :
        '<' ∈
          ((text ++ '<' :: more).take start.length).map Text.toLowerAscii := by
      obtain ⟨further, enough⟩ :=
        Nat.exists_eq_add_of_lt (Nat.lt_of_not_le long)
      rw [enough, Nat.add_assoc, List.take_length_add_append,
        List.take_succ_cons, List.map_append, List.map_cons]
      exact List.mem_append_right _ List.mem_cons_self
    have short :
        (text.take start.length).map Text.toLowerAscii ≠ start.toList := by
      intro same
      have lengths := congrArg List.length same
      rw [List.length_map, List.length_take, String.length_toList] at lengths
      omega
    have long :
        ((text ++ '<' :: more).take start.length).map Text.toLowerAscii ≠
          start.toList := by
      intro same
      exact noMark (same ▸ mark)
    rw [if_neg short, if_neg long]
    rfl

private theorem atClosing_append {first : Char} {text : List Char}
    (inside : atClosing "title" (first :: text) = false) (more : List Char) :
    atClosing "title" (first :: (text ++ '<' :: more)) = false := by
  cases text with
  | nil =>
      unfold atClosing
      split
      · next same => cases same
      · rfl
  | cons second text =>
      unfold atClosing
      split
      · next rest same =>
          cases same
          rw [atClosing] at inside
          have appended :=
            stripFolded?_append (show '<' ∉ "title".toList by decide) text more
          rw [List.append_eq, appended]
          cases stripped : stripFolded? "title" text with
          | none => rfl
          | some after =>
              cases after with
              | nil => rfl
              | cons next others =>
                  rw [stripped] at inside
                  exact inside
      · rfl

private theorem splitAtClosing_title {text : List Char}
    (whole : ¬ (splitAtClosing "title" text).2 ≠ []) (rest : List Char) :
    splitAtClosing "title" (text ++ (closingTag "title" ++ rest)) =
      (text, closingTag "title" ++ rest) := by
  induction text with
  | nil => rfl
  | cons first text induction =>
      rw [splitAtClosing] at whole
      cases inside : atClosing "title" (first :: text) with
      | true =>
          rw [inside, if_pos rfl] at whole
          exact absurd (List.cons_ne_nil _ _) whole
      | false =>
          rw [inside, if_neg Bool.false_ne_true] at whole
          have none :
              atClosing "title"
                (first :: (text ++ (closingTag "title" ++ rest))) = false :=
            atClosing_append inside _
          rw [List.cons_append, splitAtClosing, none, if_neg Bool.false_ne_true,
            induction whole]

private theorem readTokens_title {text : List Char}
    (whole : ¬ HoldsClosing "title" text) (rest : List Char) :
    readTokens (.referenced "title") false
        (normalizeInput.lines text ++ closingTag "title" ++ rest) =
      (characters
          (decodeReferences false
            ((normalizeInput.lines text).map replaceNul)) ++
        [.closing "title"], rest) := by
  have closing :=
    readClosing_closingTag (show isName "title" = true by decide) rest
  rw [List.append_assoc, readTokens, splitAtClosing_title whole]
  dsimp only
  rw [closing]

/-- Elements of the head that have no content. -/
def isHeadVoidTag (name : String) : Bool :=
  ["base", "link", "meta"].contains name

namespace Construction

/-- A part of the head is read next. -/
structure InHead (frames : List Frame) (state : Construction) : Prop
    extends Within frames state where
  mode : state.mode = .inHead

/-- A literal text of the head is read next. -/
structure InLiteral (frames : List Frame) (state : Construction) : Prop
    extends Within frames state where
  mode : state.mode = .inLiteral
  returnMode : state.returnMode = .inHead

variable {frame inner : Frame} {outer : List Frame} {state : Construction}

namespace Within

theorem read_raw (within : Within (frame :: outer) state)
    (noLiteral : state.mode ≠ .inLiteral)
    {tag : RawTag} (valid : tag.IsValid) (rest : List Char) :
    state.read (tag.markup ++ rest) =
      (state.placeToken (.opening tag.read)).read rest :=
  read_tokens (within.textKind noLiteral) within.inForeign
    (List.cons_ne_nil _ _) (readTokens_raw valid rest)

theorem read_closingTag (within : Within (frame :: outer) state)
    (noLiteral : state.mode ≠ .inLiteral) {name : String}
    (named : isName name = true) (rest : List Char) :
    state.read (closingTag name ++ rest) =
      (state.placeToken (.closing name)).read rest :=
  read_tokens (within.textKind noLiteral) within.inForeign
    (List.cons_ne_nil _ _) (readTokens_closingTag named rest)

end Within

namespace InLiteral

theorem textKind (literal : InLiteral (frame :: outer) state) :
    (frame.name = "title" → state.textKind = .referenced "title") ∧
      (frame.name = "script" → state.textKind = .script) := by
  obtain ⟨-, -, -, plain, -⟩ := literal.isPlain
  rw [Construction.textKind, plain, if_neg Bool.false_ne_true,
    if_pos literal.mode, literal.currentName, Frame.elementName]
  refine ⟨fun named => ?_, fun named => ?_⟩
  · rw [named]
    rfl
  · rw [named]
    rfl

theorem characters (literal : InLiteral (frame :: outer) state)
    (text : List Char) :
    InLiteral (frame.addText text :: outer)
      ((Html.characters text).foldl Construction.placeToken state) := by
  induction text generalizing frame state with
  | nil => exact literal
  | cons character text induction =>
      have placed : state.placeByMode (.character character) =
          .placed (state.attachCharacter character) := by
        rw [placeByMode, literal.mode]
        rfl
      rw [Html.characters, List.map_cons, List.foldl_cons,
        literal.placeToken_of_placed placed]
      have within := literal.afterCharacter character
      rw [attachCharacter_eq literal.dom literal.opened literal.fostering]
        at within ⊢
      exact induction ⟨within, literal.mode, literal.returnMode⟩

theorem closes (literal : InLiteral (inner :: frame :: outer) state)
    (plain : isRememberedTag inner.name = false)
    (noCell : isCellTag inner.name = false) (name : String) :
    InHead (frame.addAll [inner.node] :: outer)
      (state.placeToken (.closing name)) := by
  have placed : state.placeByMode (.closing name) =
      .placed (state.pop.withMode state.returnMode) := by
    rw [placeByMode, literal.mode]
    rfl
  rw [literal.placeToken_of_placed placed]
  exact ⟨(literal.afterPop plain noCell).withMode _, literal.returnMode⟩

end InLiteral

namespace InHead

theorem noLiteral (inHead : InHead (frame :: outer) state) :
    state.mode ≠ .inLiteral := by
  rw [inHead.mode]
  decide

theorem gaps (inHead : InHead (frame :: outer) state) {text : List Char}
    (areGaps : ∀ character ∈ text, isGap character = true) :
    InHead (frame.addText text :: outer)
      ((Html.characters text).foldl Construction.placeToken state) := by
  induction text generalizing frame state with
  | nil => exact inHead
  | cons character text induction =>
      obtain ⟨isGap, areGaps⟩ := List.forall_mem_cons.mp areGaps
      have placed : state.placeByMode (.character character) =
          .placed (state.attachCharacter character) := by
        rw [placeByMode, inHead.mode]
        exact if_pos isGap
      rw [Html.characters, List.map_cons, List.foldl_cons,
        inHead.placeToken_of_placed placed]
      have within := inHead.afterCharacter character
      rw [attachCharacter_eq inHead.dom inHead.opened inHead.fostering]
        at within ⊢
      exact induction ⟨within, inHead.mode⟩ areGaps

theorem adds (inHead : InHead (frame :: outer) state) (tag : Tag)
    (isVoid : isHeadVoidTag tag.name = true) :
    InHead
      (frame.addAll [.element ⟨.html, tag.name⟩ tag.attributes []] :: outer)
      (state.placeToken (.opening tag)) := by
  obtain ⟨name, attributes, selfClosing⟩ := tag
  dsimp only at isVoid
  simp only [isHeadVoidTag, List.contains_iff_mem, List.mem_cons,
    List.not_mem_nil, or_false] at isVoid
  have ordinary : name ≠ "template" := by
    rcases isVoid with rfl | rfl | rfl <;> decide
  have placed : state.placeByMode (.opening ⟨name, attributes, selfClosing⟩) =
      .placed (state.addEmpty ⟨name, attributes, selfClosing⟩) := by
    rw [placeByMode, inHead.mode]
    rcases isVoid with rfl | rfl | rfl <;> rfl
  have within := inHead.afterEmpty ⟨name, attributes, selfClosing⟩ ordinary
  rw [inHead.placeToken_of_placed placed]
  refine ⟨within, ?_⟩
  rw [addEmpty, inHead.place ⟨name, attributes, selfClosing⟩ ordinary]
  exact inHead.mode

theorem opensLiteral (inHead : InHead (frame :: outer) state) (tag : Tag)
    (isLiteral : tag.name = "title" ∨ tag.name = "script") :
    InLiteral (⟨tag.name, tag.attributes, []⟩ :: frame :: outer)
      (state.placeToken (.opening tag)) := by
  obtain ⟨name, attributes, selfClosing⟩ := tag
  dsimp only at isLiteral ⊢
  have placed : state.placeByMode (.opening ⟨name, attributes, selfClosing⟩) =
      .placed (state.openLiteral ⟨name, attributes, selfClosing⟩) := by
    rw [placeByMode, inHead.mode]
    rcases isLiteral with rfl | rfl <;> rfl
  obtain ⟨ordinary, plain, noCell⟩ :
      name ≠ "template" ∧ isRememberedTag name = false ∧
        isCellTag name = false := by
    rcases isLiteral with rfl | rfl <;> decide
  have opened :=
    inHead.afterOpening ⟨name, attributes, selfClosing⟩ ordinary plain noCell
  rw [inHead.placeToken_of_placed placed]
  exact ⟨{ opened with }, rfl, inHead.mode⟩

end InHead

end Construction

/-- Markup of a head and the trees that stand for it. -/
inductive StandsInHead : List Char → List Node → Prop where
  | gap {gap : List Char}
      (blank : ∀ character ∈ gap, isSpace character = true) :
      StandsInHead gap (Node.ofText (String.ofList gap))
  | empty {gap markup : List Char} {tag : RawTag} {nodes : List Node}
      (blank : ∀ character ∈ gap, isSpace character = true)
      (valid : tag.IsValid)
      (isVoid : isHeadVoidTag tag.name = true)
      (others : StandsInHead markup nodes) :
      StandsInHead (gap ++ (tag.markup ++ markup))
        (Node.ofText (String.ofList gap) ++ tag.node [] :: nodes)
  | title {gap text markup : List Char} {tag : RawTag} {nodes : List Node}
      (blank : ∀ character ∈ gap, isSpace character = true)
      (valid : tag.IsValid)
      (named : tag.name = "title") (whole : ¬ HoldsClosing "title" text)
      (others : StandsInHead markup nodes) :
      StandsInHead
        (gap ++ (tag.markup ++ (text ++ (closingTag "title" ++ markup))))
        (Node.ofText (String.ofList gap) ++
          tag.node (Node.ofText (shownTitle text)) :: nodes)
  | script {gap markup : List Char} {tag : RawTag} {nodes : List Node}
      (blank : ∀ character ∈ gap, isSpace character = true)
      (valid : tag.IsValid)
      (named : tag.name = "script") (others : StandsInHead markup nodes) :
      StandsInHead (gap ++ (tag.markup ++ (closingTag "script" ++ markup)))
        (Node.ofText (String.ofList gap) ++ tag.node [] :: nodes)

namespace Construction

variable {frame : Frame} {outer : List Frame} {state : Construction}

private theorem isGap_of_isSpace {character : Char}
    (blank : isSpace character = true) :
    isGap character = true := by
  rw [isGap, blank, Bool.true_or]

private theorem not_mem_of_blank {gap : List Char}
    (blank : ∀ character ∈ gap, isSpace character = true) {character : Char}
    (solid : isSpace character = false) : character ∉ gap :=
  fun member => Bool.noConfusion ((blank _ member).symm.trans solid)

namespace InHead

theorem read_gap (inHead : InHead (frame :: outer) state) {gap : List Char}
    (blank : ∀ character ∈ gap, isSpace character = true)
    (separate : Node.endsInText frame.children = false) {rest : List Char}
    (ends : ∀ mark ∈ rest.head?, mark = '<') :
    ∃ after,
      InHead (frame.addAll (Node.ofText (String.ofList gap)) :: outer) after ∧
        state.read (normalizeInput.lines (gap ++ rest)) =
          after.read (normalizeInput.lines rest) := by
  have placed :=
    inHead.gaps fun character member =>
      isGap_of_isSpace (blank character member)
  rw [Frame.addText_ofText separate] at placed
  refine ⟨_, placed, ?_⟩
  rw [lines_append_clean (not_mem_of_blank blank (by decide))]
  by_cases empty : gap = []
  · rw [empty]
    rfl
  · have plain : decodeReferences false gap = gap :=
      decodeReferences_eq_self
        (mayHoldReference_eq_false (not_mem_of_blank blank (by decide)))
    have ends : ∀ mark ∈ (normalizeInput.lines rest).head?, mark = '<' := by
      cases rest with
      | nil => exact fun _ none => nomatch none
      | cons mark rest =>
          cases ends mark rfl
          exact fun mark member => (Option.some.inj member).symm
    have next := readTokens_run empty (not_mem_of_blank blank (by decide)) ends
    rw [plain] at next
    exact read_tokens (inHead.textKind inHead.noLiteral)
      inHead.inForeign empty next

theorem read_title (inHead : InHead (frame :: outer) state) {tag : RawTag}
    (valid : tag.IsValid)
    (named : tag.name = "title") {text : List Char}
    (whole : ¬ HoldsClosing "title" text) (rest : List Char) :
    ∃ after,
      InHead
          (frame.addAll [tag.node (Node.ofText (shownTitle text))] :: outer)
          after ∧
        state.read
            (normalizeInput.lines
              (tag.markup ++ (text ++ (closingTag "title" ++ rest)))) =
          after.read (normalizeInput.lines rest) := by
  rw [RawTag.node, named]
  have readTag := inHead.read_raw inHead.noLiteral valid.lines
    (normalizeInput.lines (text ++ (closingTag "title" ++ rest)))
  have literal := inHead.opensLiteral tag.lines.read (.inl named)
  rw [tag.lines_read, named] at readTag literal
  have placed := literal.characters
    (decodeReferences false ((normalizeInput.lines text).map replaceNul))
  rw [Frame.addText_ofText rfl] at placed
  have closed := placed.closes rfl rfl "title"
  refine ⟨_, closed, ?_⟩
  have split : normalizeInput.lines (text ++ (closingTag "title" ++ rest)) =
      normalizeInput.lines text ++ closingTag "title" ++
        normalizeInput.lines rest := by
    have clean := not_mem_closingTag (show isName "title" = true by decide)
    rw [List.append_assoc, ← lines_append_clean clean]
    exact lines_append_mark text (by decide) _
  have nonempty : normalizeInput.lines text ++ closingTag "title" ≠ [] :=
    List.append_ne_nil_of_right_ne_nil _ (List.cons_ne_nil _ _)
  rw [lines_tag valid, readTag, split,
    read_tokens (literal.textKind.1 rfl) literal.inForeign
      nonempty (readTokens_title whole (normalizeInput.lines rest)),
    List.foldl_append]
  rfl

theorem read_script (inHead : InHead (frame :: outer) state) {tag : RawTag}
    (valid : tag.IsValid) (named : tag.name = "script") (rest : List Char) :
    ∃ after, InHead (frame.addAll [tag.node []] :: outer) after ∧
      state.read
          (normalizeInput.lines (tag.markup ++ (closingTag "script" ++ rest))) =
        after.read (normalizeInput.lines rest) := by
  rw [RawTag.node, named]
  have readTag := inHead.read_raw inHead.noLiteral valid.lines
    (normalizeInput.lines (closingTag "script" ++ rest))
  have literal := inHead.opensLiteral tag.lines.read (.inr named)
  rw [tag.lines_read, named] at readTag literal
  have closed := literal.closes rfl rfl "script"
  refine ⟨_, closed, ?_⟩
  have scriptName : isName "script" = true := by decide
  have next :
      readTokens .script false
          (closingTag "script" ++ normalizeInput.lines rest) =
        ([.closing "script"], normalizeInput.lines rest) := by
    have none :
        splitScript .outside
            (closingTag "script" ++ normalizeInput.lines rest) =
          ([], closingTag "script" ++ normalizeInput.lines rest) := rfl
    rw [readTokens, none]
    dsimp only
    rw [readClosing_closingTag scriptName]
    rfl
  rw [lines_tag valid, readTag,
    lines_append_clean (not_mem_closingTag scriptName)]
  exact read_tokens (literal.textKind.2 rfl) literal.inForeign
    (List.cons_ne_nil _ _) next

end InHead

end Construction

open Construction

/-- The trees that stand for the markup of a head become its children. -/
theorem StandsInHead.read {markup : List Char} {nodes : List Node}
    (stands : StandsInHead markup nodes) :
    ∀ {frame : Frame} {outer : List Frame} {state : Construction},
      InHead (frame :: outer) state → Node.endsInText frame.children = false →
        ∀ rest : List Char, (∀ mark ∈ rest.head?, mark = '<') →
          ∃ after, InHead (frame.addAll nodes :: outer) after ∧
            state.read (normalizeInput.lines (markup ++ rest)) =
              after.read (normalizeInput.lines rest) := by
  induction stands with
  | gap blank =>
      intro frame outer state inHead separate rest ends
      exact inHead.read_gap blank separate ends
  | @empty gap markup tag nodes blank valid isVoid others induction =>
      intro frame outer state inHead separate rest ends
      obtain ⟨passed, inHead, readGap⟩ := inHead.read_gap blank separate
        (show ∀ mark ∈ (tag.markup ++ (markup ++ rest)).head?, mark = '<' from
          fun mark member => (Option.some.inj member).symm)
      have readTag :=
        inHead.read_raw inHead.noLiteral valid.lines
          (normalizeInput.lines (markup ++ rest))
      have added := inHead.adds tag.lines.read isVoid
      rw [tag.lines_read] at readTag added
      obtain ⟨after, inHead, readAfter⟩ :=
        induction added (Node.endsInText_append _ _) rest ends
      refine ⟨after, ?_, ?_⟩
      · rwa [Frame.addAll_addAll, Frame.addAll_addAll] at inHead
      · rw [List.append_assoc, List.append_assoc, readGap, lines_tag valid,
          readTag, readAfter]
  | @title gap text markup tag nodes blank valid named whole others induction =>
      intro frame outer state inHead separate rest ends
      obtain ⟨passed, inHead, readGap⟩ := inHead.read_gap blank separate
        (show ∀ mark ∈ (tag.markup ++
            (text ++ (closingTag "title" ++ (markup ++ rest)))).head?,
          mark = '<' from fun mark member => (Option.some.inj member).symm)
      obtain ⟨titled, inHead, readTitle⟩ :=
        inHead.read_title valid named whole (markup ++ rest)
      obtain ⟨after, inHead, readAfter⟩ :=
        induction inHead (Node.endsInText_append _ _) rest ends
      refine ⟨after, ?_, ?_⟩
      · rwa [Frame.addAll_addAll, Frame.addAll_addAll] at inHead
      · simp only [List.append_assoc]
        rw [readGap, readTitle, readAfter]
  | @script gap markup tag nodes blank valid named others induction =>
      intro frame outer state inHead separate rest ends
      obtain ⟨passed, inHead, readGap⟩ := inHead.read_gap blank separate
        (show ∀ mark ∈ (tag.markup ++
            (closingTag "script" ++ (markup ++ rest))).head?,
          mark = '<' from fun mark member => (Option.some.inj member).symm)
      obtain ⟨loaded, inHead, readScript⟩ :=
        inHead.read_script valid named (markup ++ rest)
      obtain ⟨after, inHead, readAfter⟩ :=
        induction inHead (Node.endsInText_append _ _) rest ends
      refine ⟨after, ?_, ?_⟩
      · rwa [Frame.addAll_addAll, Frame.addAll_addAll] at inHead
      · simp only [List.append_assoc]
        rw [readGap, readScript, readAfter]

/-- Markup of a head stands for trees with the given titles, in which nothing
has an id. -/
def Titled (markup : List Char) (titles : List Node) : Prop :=
  ∃ nodes,
    StandsInHead markup nodes ∧ Node.allNamed nodes = [] ∧
      Node.allTitles nodes = titles

namespace Titled

variable {blanks markup : List Char} {titles : List Node} {tag : RawTag}

theorem gap (blank : ∀ character ∈ blanks, isSpace character = true) :
    Titled blanks [] :=
  ⟨_, .gap blank, Node.allNamed_ofText _, Node.allTitles_ofText _⟩

private theorem allNamed_after
    (unmarked : ∀ entry ∈ tag.attributes, entry.name ≠ "id")
    {children nodes : List Node} (within : Node.allNamed children = [])
    (others : Node.allNamed nodes = []) (text : String) :
    Node.allNamed (Node.ofText text ++ tag.node children :: nodes) = [] := by
  rw [Node.allNamed_append, Node.allNamed_ofText, Node.allNamed, RawTag.node,
    named_element unmarked, within, others]
  rfl

private theorem allTitles_after (other : tag.name ≠ "title") (text : String)
    (nodes : List Node) :
    Node.allTitles (Node.ofText text ++ tag.node [] :: nodes) =
      Node.allTitles nodes := by
  rw [Node.allTitles_append, Node.allTitles_ofText, Node.allTitles, RawTag.node,
    titles_element other]
  rfl

theorem empty (blank : ∀ character ∈ blanks, isSpace character = true)
    (valid : tag.IsValid)
    (unmarked : ∀ entry ∈ tag.attributes, entry.name ≠ "id")
    (isVoid : isHeadVoidTag tag.name = true) (others : Titled markup titles) :
    Titled (blanks ++ (tag.markup ++ markup)) titles := by
  obtain ⟨nodes, stands, named, titled⟩ := others
  have other : tag.name ≠ "title" := by
    intro same
    rw [same] at isVoid
    exact absurd isVoid (by decide)
  exact ⟨_, .empty blank valid isVoid stands,
    allNamed_after unmarked rfl named _,
    (allTitles_after other _ nodes).trans titled⟩

theorem title {text : List Char}
    (blank : ∀ character ∈ blanks, isSpace character = true)
    (valid : tag.IsValid)
    (unmarked : ∀ entry ∈ tag.attributes, entry.name ≠ "id")
    (isTitle : tag.name = "title") (whole : ¬ HoldsClosing "title" text)
    (others : Titled markup titles) :
    Titled (blanks ++ (tag.markup ++ (text ++ (closingTag "title" ++ markup))))
      (tag.node (Node.ofText (shownTitle text)) :: titles) := by
  obtain ⟨nodes, stands, named, titled⟩ := others
  refine ⟨_, .title blank valid isTitle whole stands,
    allNamed_after unmarked (Node.allNamed_ofText _) named _, ?_⟩
  rw [Node.allTitles_append, Node.allTitles_ofText, Node.allTitles, titled,
    RawTag.node, Node.titles, isTitle, if_pos rfl, Node.allTitles_ofText]
  rfl

theorem script (blank : ∀ character ∈ blanks, isSpace character = true)
    (valid : tag.IsValid)
    (unmarked : ∀ entry ∈ tag.attributes, entry.name ≠ "id")
    (isScript : tag.name = "script") (others : Titled markup titles) :
    Titled (blanks ++ (tag.markup ++ (closingTag "script" ++ markup)))
      titles := by
  obtain ⟨nodes, stands, named, titled⟩ := others
  have other : tag.name ≠ "title" := by
    rw [isScript]
    decide
  exact ⟨_, .script blank valid isScript stands,
    allNamed_after unmarked rfl named _,
    (allTitles_after other _ nodes).trans titled⟩

end Titled

/-- What comes before the parts of the head. -/
def documentStart : List Char :=
  "<!DOCTYPE html>\n<html>\n<head>".toList

/-- What comes after the parts of the body. -/
def documentEnd : List Char :=
  "</body>\n</html>\n".toList

namespace Construction

/-- The state before the outermost element of a document with a document
type. -/
private def beforeRoot : Construction :=
  { empty with mode := .beforeHtml }

private def withinRoot : Construction :=
  (beforeRoot.openRoot []).withMode .beforeHead

private def headStart : Construction :=
  withinRoot.openHead ⟨"head", [], false⟩

private theorem inHead_headStart :
    InHead [⟨"head", [], []⟩, ⟨"html", [], []⟩] headStart :=
  ⟨⟨rfl, rfl, .other rfl rfl (.other rfl rfl .nil), rfl, rfl, rfl, rfl, rfl⟩,
    rfl⟩

private theorem read_break {state : Construction}
    (marked : state.textKind = .markup)
    (common : state.inForeign = false) {rest : List Char}
    (ends : ∀ mark ∈ rest.head?, mark = '<') :
    state.read ('\n' :: rest) =
      (state.placeToken (.character '\n')).read rest := by
  have next := readTokens_run (List.cons_ne_nil '\n' []) (by decide) ends
  rw [decodeReferences_eq_self (show mayHoldReference ['\n'] = false by decide)]
    at next
  exact read_tokens marked common (List.cons_ne_nil _ _) next

private theorem read_documentStart (rest : List Char) :
    empty.read (documentStart ++ rest) = headStart.read rest := by
  have doctype : empty.read (documentStart ++ rest) =
      beforeRoot.read ('\n' :: ("<html>\n<head>".toList ++ rest)) :=
    read_tokens (show empty.textKind = .markup from rfl) rfl
      (show "<!DOCTYPE html>".toList ≠ [] from List.cons_ne_nil _ _) rfl
  have first : beforeRoot.read ('\n' :: ("<html>\n<head>".toList ++ rest)) =
      beforeRoot.read ("<html>\n<head>".toList ++ rest) :=
    read_break rfl rfl fun mark member => (Option.some.inj member).symm
  have root : beforeRoot.read ("<html>\n<head>".toList ++ rest) =
      withinRoot.read ('\n' :: ("<head>".toList ++ rest)) :=
    read_tokens (show beforeRoot.textKind = .markup from rfl) rfl
      (List.cons_ne_nil _ _)
      (readTokens_raw (show RawTag.IsValid ⟨"html", [], false⟩ by decide) _)
  have second : withinRoot.read ('\n' :: ("<head>".toList ++ rest)) =
      withinRoot.read ("<head>".toList ++ rest) :=
    read_break rfl rfl fun mark member => (Option.some.inj member).symm
  have head : withinRoot.read ("<head>".toList ++ rest) = headStart.read rest :=
    read_tokens (show withinRoot.textKind = .markup from rfl) rfl
      (List.cons_ne_nil _ _)
      (readTokens_raw (show RawTag.IsValid ⟨"head", [], false⟩ by decide) rest)
  rw [doctype, first, root, second, head]

variable {frame : Frame} {outer : List Frame} {state : Construction}

private theorem Within.read_break (within : Within (frame :: outer) state)
    (noLiteral : state.mode ≠ .inLiteral)
    (placed : state.placeByMode (.character '\n') =
      .placed (state.attachCharacter '\n'))
    {rest : List Char} (ends : ∀ mark ∈ rest.head?, mark = '<') :
    ∃ after,
      Within (frame.addCharacter '\n' :: outer) after ∧
        after.mode = state.mode ∧
          state.read ('\n' :: rest) = after.read rest := by
  refine ⟨_, within.afterCharacter '\n', ?_, ?_⟩
  · rw [attachCharacter_eq within.dom within.opened within.fostering]
  · rw [Construction.read_break (within.textKind noLiteral)
      within.inForeign ends,
      within.placeToken_of_placed placed]

private theorem InHead.read_body {children : List Node}
    (inHead : InHead (⟨"head", [], children⟩ :: frame :: outer) state)
    {tag : RawTag}
    (valid : tag.IsValid) (isBody : tag.name = "body") (rest : List Char) :
    ∃ after, Reading (⟨"body", tag.attributes.map RawAttribute.shown, []⟩ ::
        (frame.addAll [.element ⟨.html, "head"⟩ [] children]).addCharacter
          '\n' :: outer) after ∧
      state.read
          (normalizeInput.lines
            (closingTag "head" ++ '\n' :: (tag.markup ++ rest))) =
        after.read (normalizeInput.lines rest) := by
  have headName : isName "head" = true := by decide
  have split :
      normalizeInput.lines (closingTag "head" ++ '\n' :: (tag.markup ++ rest)) =
        closingTag "head" ++
          '\n' :: (tag.lines.markup ++ normalizeInput.lines rest) := by
    have newline :=
      lines_append_clean (show '\r' ∉ ['\n'] by decide) (tag.markup ++ rest)
    rw [lines_append_clean (not_mem_closingTag headName),
      ← List.singleton_append, newline, lines_tag valid]
    rfl
  have left :
      state.placeByMode (.closing "head") =
        .placed (state.pop.withMode .afterHead) := by
    rw [placeByMode, inHead.mode]
    rfl
  have readLeft := inHead.read_closingTag inHead.noLiteral headName
    ('\n' :: (tag.lines.markup ++ normalizeInput.lines rest))
  rw [inHead.placeToken_of_placed left] at readLeft
  obtain ⟨broken, within, mode, readBreak⟩ :=
    ((inHead.afterPop rfl rfl).withMode .afterHead).read_break
      (show Mode.afterHead ≠ .inLiteral by decide) rfl
      (show ∀ mark ∈ (tag.lines.markup ++ normalizeInput.lines rest).head?,
        mark = '<' from
        fun mark member => (Option.some.inj member).symm)
  have afterHead : broken.mode = .afterHead := mode
  have opened : broken.placeByMode (.opening tag.lines.read) =
      .placed
        ((broken.openTag tag.lines.read).noFrameset.withMode .inBody) := by
    rw [placeByMode, afterHead, tag.lines_read, isBody]
    rfl
  have readTag := within.read_raw (by rw [afterHead]; decide) valid.lines
    (normalizeInput.lines rest)
  rw [within.placeToken_of_placed opened] at readTag
  obtain ⟨ordinary, plain, noCell⟩ :
      tag.name ≠ "template" ∧ isRememberedTag tag.name = false ∧
        isCellTag tag.name = false := by
    rw [isBody]
    decide
  have body := within.afterOpening tag.lines.read ordinary plain noCell
  rw [tag.lines_read, isBody] at body readTag
  refine ⟨(broken.openTag ⟨"body", tag.attributes.map RawAttribute.shown,
    tag.selfClosing⟩).noFrameset.withMode .inBody, ⟨{ body with }, rfl⟩, ?_⟩
  rw [split, readLeft, readBreak, readTag]

private theorem Within.placeCharacter (within : Within (frame :: outer) state) :
    state.placeCharacter '\n' = state.attachCharacter '\n' := by
  rw [Construction.placeCharacter, within.reopenFormatting]
  rfl

private theorem read_documentEnd (atTag : AtTag (frame :: outer) state)
    (isBody : frame.name = "body") :
    (state.read documentEnd).dom =
      Frame.dom ((frame.addCharacter '\n').addCharacter '\n' :: outer) := by
  have readBody := atTag.read_closingTag (show isName "body" = true by decide)
    ('\n' :: (closingTag "html" ++ ['\n']))
  obtain ⟨settled, reading, -, -, -, closing⟩ := atTag
  have inBody : settled.mode = .inBody := by
    rw [reading.mode, List.map_cons, isBody]
    rfl
  have bodyClosed : settled.placeByMode (.closing "body") =
      .placed (settled.withMode .afterBody) := by
    have inScope := reading.currentInScope ElementName.endsScope
    rw [isBody] at inScope
    have chosen : settled.closeInBody "body" =
        if settled.nameInScope ElementName.endsScope "body" then
          settled.withMode .afterBody
        else settled := rfl
    rw [placeByMode, inBody, Construction.inBody, chosen, inScope, if_pos rfl]
  have afterBody := reading.withMode .afterBody
  rw [closing _ _ bodyClosed] at readBody
  obtain ⟨broken, within, mode, readBreak⟩ := afterBody.read_break
    (show Mode.afterBody ≠ .inLiteral by decide)
    (congrArg Outcome.placed afterBody.placeCharacter)
    (show ∀ mark ∈ (closingTag "html" ++ ['\n']).head?, mark = '<' from
      fun mark member => (Option.some.inj member).symm)
  have mode : broken.mode = .afterBody := mode
  have htmlClosed : broken.placeByMode (.closing "html") =
      .placed (broken.withMode .afterDocument) := by
    rw [placeByMode, mode]
    rfl
  have readRoot := within.read_closingTag (by rw [mode]; decide)
    (show isName "html" = true by decide) ['\n']
  rw [within.placeToken_of_placed htmlClosed] at readRoot
  have afterDocument := within.withMode .afterDocument
  obtain ⟨last, within, mode, readLast⟩ :=
    @Within.read_break _ _ _ afterDocument
      (show Mode.afterDocument ≠ .inLiteral by decide)
      (congrArg Outcome.placed afterDocument.placeCharacter) []
      (fun _ none => by cases none)
  have mode : last.mode = .afterDocument := mode
  have finished : last.placeByMode .finish = .placed last := by
    rw [placeByMode, mode]
    rfl
  have ended : last.read [] = last := by
    rw [Construction.read]
    exact within.placeToken_of_placed finished
  have whole :
      documentEnd =
        closingTag "body" ++ ('\n' :: (closingTag "html" ++ ['\n'])) := rfl
  rw [whole, readBody, readBreak, readRoot, readLast, ended, within.dom]

end Construction

/-- A whole document has the parts of its head and of its body, and the line
breaks after them. -/
theorem parse_document {head body : List Char} {headNodes bodyNodes : List Node}
    {tag : RawTag}
    (inHead : StandsInHead head headNodes) (valid : tag.IsValid)
    (isBody : tag.name = "body")
    (inBody : Stands ["body", "html"] [] body bodyNodes) :
    parse (String.ofList (documentStart ++ (head ++ (closingTag "head" ++
      '\n' :: (tag.markup ++ (body ++ documentEnd)))))) =
        [.element ⟨.html, "html"⟩ []
          [.element ⟨.html, "head"⟩ [] headNodes, .text "\n",
            .element ⟨.html, "body"⟩ (tag.attributes.map RawAttribute.shown)
              (Node.addCharacter '\n'
                (Node.addCharacter '\n' bodyNodes))]] := by
  obtain ⟨passed, atHead, readHead⟩ := inHead.read inHead_headStart rfl
    (closingTag "head" ++ '\n' :: (tag.markup ++ (body ++ documentEnd)))
    fun mark member => (Option.some.inj member).symm
  obtain ⟨started, reading, readStart⟩ :=
    atHead.read_body valid isBody (body ++ documentEnd)
  obtain ⟨after, atTag, readBody⟩ :=
    inBody.read_within reading rfl (.inl rfl) rfl
      (show ∀ mark ∈ documentEnd.head?, mark = '<' from
        fun mark member => (Option.some.inj member).symm)
  have ended := read_documentEnd atTag rfl
  have starts : normalizeInput (documentStart ++ (head ++ (closingTag "head" ++
      '\n' :: (tag.markup ++ (body ++ documentEnd))))) =
        documentStart ++ normalizeInput.lines (head ++ (closingTag "head" ++
          '\n' :: (tag.markup ++ (body ++ documentEnd)))) :=
    lines_append_clean (show '\r' ∉ documentStart by decide) _
  have stops : normalizeInput.lines (body ++ documentEnd) =
      normalizeInput.lines body ++ documentEnd :=
    lines_append_mark body (by decide) _
  rw [parse, String.toList_ofList, starts, read_documentStart, readHead,
    readStart, stops, readBody, ended, Frame.toNodes_dom]
  rfl

namespace Node

private theorem allNamed_addCharacter (character : Char) (nodes : List Node) :
    allNamed (addCharacter character nodes) = allNamed nodes := by
  induction nodes using addCharacter.induct with
  | case1 => rfl
  | case2 content => rfl
  | case3 node nodes apart induction =>
      rw [addCharacter, allNamed, induction, allNamed]
      exact apart

private theorem allTitles_addCharacter (character : Char) (nodes : List Node) :
    allTitles (addCharacter character nodes) = allTitles nodes := by
  induction nodes using addCharacter.induct with
  | case1 => rfl
  | case2 content => rfl
  | case3 node nodes apart induction =>
      rw [addCharacter, allTitles, induction, allTitles]
      exact apart

end Node

/-- What has an id in a whole document is in its body, and its titles are in its
head. -/
theorem named_parse_document {head body : List Char} {titles : List Node}
    {named : List (String × Node)} {tag : RawTag} (inHead : Titled head titles)
    (bare : tag.IsBare) (isBody : tag.name = "body")
    (inBody : Marked ["body", "html"] [] body named) {document : List Node}
    (read : parse
      (String.ofList (documentStart ++ (head ++ (closingTag "head" ++
        '\n' :: (tag.markup ++ (body ++ documentEnd)))))) = document) :
    Node.allNamed document = named ∧ Node.allTitles document = titles := by
  obtain ⟨headNodes, headStands, headNamed, headTitles⟩ := inHead
  obtain ⟨bodyNodes, bodyStands, bodyNamed, bodyTitles⟩ := inBody
  obtain ⟨valid, -, unmarked⟩ := bare
  have bodyNode := named_element unmarked
    (Node.addCharacter '\n' (Node.addCharacter '\n' bodyNodes))
  rw [isBody, Node.allNamed_addCharacter, Node.allNamed_addCharacter,
    bodyNamed] at bodyNode
  rw [← read, parse_document headStands valid isBody bodyStands]
  have plain :
      ∀ name children,
        Node.named (.element name [] children) = Node.allNamed children :=
    fun _ _ => rfl
  constructor
  · simp only [Node.allNamed, plain, headNamed, bodyNode, List.nil_append,
      List.append_nil]
    rfl
  · simp [Node.allTitles, Node.titles, headTitles, Node.allTitles_addCharacter,
      bodyTitles]

end LessonSite.Html
