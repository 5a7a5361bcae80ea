import LessonSite.Proofs.Html.Nesting

/-!
# Markup and its trees

Markup in which every element ends with its own closing tag is read element by
element.  Texts and values stand in it as they are, so what a reader sees of
them is what their references mean.
-/

namespace LessonSite.Html

open Construction (AtTag Fits Flows Opens Reading isVoidTag)

private theorem lines_cons {character : Char} (other : character ≠ '\r')
    (rest : List Char) :
    normalizeInput.lines (character :: rest) =
      character :: normalizeInput.lines rest := by
  rw [normalizeInput.lines]
  · exact fun _ same => absurd same other
  · exact fun same => absurd same other

private theorem lines_return {rest : List Char}
    (apart : ∀ others, rest ≠ '\n' :: others) :
    normalizeInput.lines ('\r' :: rest) =
      '\n' :: normalizeInput.lines rest := by
  rw [normalizeInput.lines]
  exact fun others same => apart others same

theorem lines_append_clean {part : List Char} (noReturn : '\r' ∉ part)
    (rest : List Char) :
    normalizeInput.lines (part ++ rest) =
      part ++ normalizeInput.lines rest := by
  induction part with
  | nil => rfl
  | cons character part induction =>
      rw [List.mem_cons, not_or] at noReturn
      rw [List.cons_append, lines_cons (Ne.symm noReturn.1),
        induction noReturn.2, List.cons_append]

theorem lines_append_mark (part : List Char) {mark : Char}
    (noBreak : mark ≠ '\n') (rest : List Char) :
    normalizeInput.lines (part ++ mark :: rest) =
      normalizeInput.lines part ++ normalizeInput.lines (mark :: rest) := by
  induction part using normalizeInput.lines.induct with
  | case1 => rfl
  | case2 others induction =>
      rw [List.cons_append, List.cons_append, normalizeInput.lines,
        normalizeInput.lines, induction, List.cons_append]
  | case3 others apart induction =>
      have after : ∀ more, others ++ mark :: rest ≠ '\n' :: more := by
        intro more same
        cases others with
        | nil => exact noBreak (List.cons.inj same).1
        | cons first others =>
            exact apart others (by rw [(List.cons.inj same).1])
      rw [List.cons_append, lines_return after, lines_return apart, induction,
        List.cons_append]
  | case4 character others noPair noReturn induction =>
      rw [List.cons_append, lines_cons noReturn, lines_cons noReturn, induction,
        List.cons_append]

theorem mem_lines {text : List Char} {character : Char}
    (member : character ∈ normalizeInput.lines text) :
    character = '\n' ∨ character ∈ text := by
  induction text using normalizeInput.lines.induct with
  | case1 => cases member
  | case2 others induction =>
      rw [normalizeInput.lines, List.mem_cons] at member
      rcases member with same | inside
      · exact .inl same
      · exact (induction inside).imp_right fun inside =>
          .tail _ (.tail _ inside)
  | case3 others apart induction =>
      rw [lines_return apart, List.mem_cons] at member
      rcases member with same | inside
      · exact .inl same
      · exact (induction inside).imp_right (.tail _)
  | case4 first others noPair noReturn induction =>
      rw [lines_cons noReturn, List.mem_cons] at member
      rcases member with same | inside
      · exact .inr (List.mem_cons.mpr (.inl same))
      · exact (induction inside).imp_right (.tail _)

theorem not_mem_lines {text : List Char} {character : Char}
    (absent : character ∉ text)
    (other : character ≠ '\n') : character ∉ normalizeInput.lines text :=
  fun member => (mem_lines member).elim other absent

/-- What is seen of a text between two tags. -/
def shownText (text : List Char) : String :=
  String.ofList
    ((decodeReferences false (normalizeInput.lines text)).filter (· != '\x00'))

/-- What is seen of a value between quotes. -/
def shownValue (value : List Char) : String :=
  decodeValue (normalizeInput.lines value)

/-- A value without references and line ends is seen as it is. -/
theorem shownValue_eq_self {value : String}
    (plain : mayHoldReference value.toList = false)
    (clean : IsClean value) : shownValue value.toList = value := by
  have noNul : value.toList.map replaceNul = value.toList.map id :=
    List.map_congr_left fun character member =>
      if_neg (ne_of_mem_of_not_mem member clean.1)
  rw [shownValue, decodeValue, lines_eq_self clean.2, noNul, List.map_id,
    decodeReferences_eq_self plain, String.ofList_toList]

/-- A text without references and line ends is seen as it is. -/
theorem shownText_eq_self {text : String}
    (plain : mayHoldReference text.toList = false)
    (clean : IsClean text) : shownText text.toList = text := by
  have kept : text.toList.filter (· != '\x00') = text.toList :=
    List.filter_eq_self.mpr fun _ member =>
      bne_iff_ne.mpr (ne_of_mem_of_not_mem member clean.1)
  rw [shownText, lines_eq_self clean.2, decodeReferences_eq_self plain, kept,
    String.ofList_toList]

theorem shownText_escape {text : String} (clean : IsClean text) :
    shownText (text.toList.flatMap Markup.escapeChar) = text := by
  have noReturn : '\r' ∉ text.toList.flatMap Markup.escapeChar :=
    not_mem_escape clean.2 (by decide)
  have kept : text.toList.filter (· != '\x00') = text.toList :=
    List.filter_eq_self.mpr fun _ member =>
      bne_iff_ne.mpr (ne_of_mem_of_not_mem member clean.1)
  rw [shownText, lines_eq_self noReturn, decodeReferences_escape, kept,
    String.ofList_toList]

theorem ofText_shownText_nil : Node.ofText (shownText []) = [] := by
  rw [shownText, normalizeInput.lines, decodeReferences]
  rfl

def RawAttribute.shown (entry : RawAttribute) : Attribute :=
  ⟨entry.name, shownValue entry.value⟩

/-- The element that the tag opens. -/
def RawTag.node (tag : RawTag) (children : List Node) : Node :=
  .element ⟨.html, tag.name⟩ (tag.attributes.map RawAttribute.shown) children

/-- A tag with its line ends as they are read. -/
def RawTag.lines (tag : RawTag) : RawTag :=
  { tag with attributes := tag.attributes.map fun entry =>
      ⟨entry.name, normalizeInput.lines entry.value⟩ }

theorem RawTag.lines_read (tag : RawTag) :
    tag.lines.read =
      ⟨tag.name, tag.attributes.map RawAttribute.shown, tag.selfClosing⟩ := by
  rw [RawTag.read, RawTag.lines, List.map_map]
  rfl

theorem RawTag.IsValid.lines {tag : RawTag} (valid : tag.IsValid) :
    tag.lines.IsValid := by
  refine ⟨valid.named, ?_, List.pairwise_map.mpr valid.differ⟩
  intro entry member
  obtain ⟨source, inside, rfl⟩ := List.mem_map.mp member
  obtain ⟨named, unquoted⟩ := valid.each source inside
  exact ⟨named, not_mem_lines unquoted (by decide)⟩

private theorem lines_attribute {entry : RawAttribute}
    (named : isName entry.name = true) (rest : List Char) :
    normalizeInput.lines (entry.markup ++ rest) =
      RawAttribute.markup ⟨entry.name, normalizeInput.lines entry.value⟩ ++
        normalizeInput.lines rest := by
  have clean : '\r' ∉ ' ' :: (entry.name.toList ++ ['=', '"']) := by
    have inName := not_mem_name named (show isNamePart '\r' = false by decide)
    simp [inName]
  have written : entry.markup ++ rest =
      ' ' :: (entry.name.toList ++ ['=', '"']) ++
        (entry.value ++ '"' :: rest) := by
    simp [RawAttribute.markup]
  rw [written, lines_append_clean clean, lines_append_mark _ (by decide),
    lines_cons (by decide)]
  simp [RawAttribute.markup]

theorem lines_tag {tag : RawTag} (valid : tag.IsValid) (rest : List Char) :
    normalizeInput.lines (tag.markup ++ rest) =
      tag.lines.markup ++ normalizeInput.lines rest := by
  obtain ⟨name, attributes, selfClosing⟩ := tag
  have ends : '\r' ∉ RawTag.ending ⟨name, attributes, selfClosing⟩ := by
    cases selfClosing <;> simp [RawTag.ending]
  have all : ∀ others : List RawAttribute, (∀ entry ∈ others, entry.IsValid) →
      ∀ rest,
        normalizeInput.lines (others.flatMap RawAttribute.markup ++ rest) =
          (others.map fun entry =>
              RawAttribute.mk entry.name
                (normalizeInput.lines entry.value)).flatMap
            RawAttribute.markup ++ normalizeInput.lines rest := by
    intro others valid rest
    induction others with
    | nil => rfl
    | cons entry others induction =>
        obtain ⟨first, valid⟩ := List.forall_mem_cons.mp valid
        rw [List.flatMap_cons, List.append_assoc, lines_attribute first.1,
          induction valid, List.map_cons, List.flatMap_cons, List.append_assoc]
  have named : '\r' ∉ '<' :: name.toList := by
    have inName :=
      not_mem_name valid.named (show isNamePart '\r' = false by decide)
    simpa using inName
  have written :
      RawTag.markup ⟨name, attributes, selfClosing⟩ ++ rest =
        '<' :: name.toList ++
          (attributes.flatMap RawAttribute.markup ++
            (RawTag.ending ⟨name, attributes, selfClosing⟩ ++ rest)) := by
    simp [RawTag.markup]
  rw [written, lines_append_clean named, all attributes valid.each,
    lines_append_clean ends]
  cases selfClosing <;> simp [RawTag.markup, RawTag.lines, RawTag.ending]

/-- Markup within elements of the given names, the innermost first, and the
trees that stand for it.  A text that has just been read, but no tag after it,
comes before the markup. -/
inductive Stands : List String → List Char → List Char → List Node → Prop where
  | nil {path : List String} {text : List Char} :
      Stands path text [] (Node.ofText (shownText text))
  | character {path : List String} {text markup : List Char} {character : Char}
      {nodes : List Node}
      (noTag : character ≠ '<') (fits : Fits path [character])
      (others : Stands path (text ++ [character]) markup nodes) :
      Stands path text (character :: markup) nodes
  | element {path : List String} {text inside markup : List Char} {tag : RawTag}
      {children nodes : List Node} (valid : tag.IsValid)
      (isOpen : tag.selfClosing = false) (opens : Opens path tag.name)
      (tight : tag.name = "pre" → ∀ first ∈ inside.head?, first = '<')
      (inner : Stands (tag.name :: path) [] inside children)
      (others : Stands path [] markup nodes) :
      Stands path text
        (tag.markup ++ (inside ++ (closingTag tag.name ++ markup)))
        (Node.ofText (shownText text) ++
          .element ⟨.html, tag.name⟩ (tag.attributes.map RawAttribute.shown)
            children :: nodes)
  | empty {path : List String} {text markup : List Char} {tag : RawTag}
      {nodes : List Node}
      (valid : tag.IsValid) (isVoid : isVoidTag tag.name = true)
      (flows : Flows path)
      (apart : tag.name = "hr" → "p" ∉ path)
      (others : Stands path [] markup nodes) :
      Stands path text (tag.markup ++ markup)
        (Node.ofText (shownText text) ++
          .element ⟨.html, tag.name⟩ (tag.attributes.map RawAttribute.shown)
            [] :: nodes)

namespace Construction

variable {frame : Frame} {outer : List Frame} {state : Construction}

namespace AtTag

theorem read_raw (atTag : AtTag (frame :: outer) state) {tag : RawTag}
    (valid : tag.IsValid) (rest : List Char) :
    state.read (tag.markup ++ rest) =
      (state.placeToken (.opening tag.read)).read rest := by
  obtain ⟨_, _, textKind, inForeign, -⟩ := atTag
  exact read_tokens textKind inForeign (List.cons_ne_nil _ _)
    (readTokens_raw valid rest)

theorem read_closingTag (atTag : AtTag (frame :: outer) state) {name : String}
    (named : isName name = true) (rest : List Char) :
    state.read (closingTag name ++ rest) =
      (state.placeToken (.closing name)).read rest := by
  obtain ⟨_, _, textKind, inForeign, -⟩ := atTag
  exact read_tokens textKind inForeign (List.cons_ne_nil _ _)
    (readTokens_closingTag named rest)

end AtTag

private theorem Fits.nil {path : List String} {text : List Char}
    (fits : Fits path text) :
    Fits path [] :=
  fits.imp_right fun within => ⟨within.1, List.forall_mem_nil _⟩

private theorem Fits.shown {path : List String} {text : List Char}
    (fits : Fits path text) :
    Fits path (decodeReferences false (normalizeInput.lines text)) := by
  rcases fits with flows | ⟨holds, gaps⟩
  · exact .inl flows
  · have among :
        ∀ character ∈ normalizeInput.lines text, isGap character = true := by
      intro character member
      rcases mem_lines member with same | inside
      · rw [same]
        decide
      · exact gaps _ inside
    have plain : '&' ∉ normalizeInput.lines text := fun member =>
      absurd (among _ member) (by decide)
    rw [decodeReferences_eq_self (mayHoldReference_eq_false plain)]
    exact .inr ⟨holds, among⟩

/-- A text up to the next tag goes into the innermost element. -/
theorem Reading.read_run (reading : Reading (frame :: outer) state)
    {text : List Char}
    (fits : Fits ((frame :: outer).map Frame.name) text) (noTag : '<' ∉ text)
    (separate : Node.endsInText frame.children = false) {rest : List Char}
    (ends : ∀ mark ∈ rest.head?, mark = '<') :
    ∃ after,
      AtTag (frame.addAll (Node.ofText (shownText text)) :: outer) after ∧
        state.read (normalizeInput.lines text ++ rest) = after.read rest := by
  have shown := reading.atTag_text fits.shown
  rw [Frame.addText_ofText separate] at shown
  refine ⟨_, shown, ?_⟩
  by_cases empty : normalizeInput.lines text = []
  · rw [empty, decodeReferences]
    rfl
  · have noTag := not_mem_lines noTag (by decide)
    exact read_tokens reading.textKind reading.inForeign empty
      (readTokens_run empty noTag ends)

end Construction

open Construction

section Reading

variable {frame : Frame} {outer : List Frame} {state : Construction}
  {path : List String}

/-- Markup is read on from here: text only where no tag has to follow. -/
private def Starts (frames : List Frame) (state : Construction)
    (text markup : List Char) : Prop :=
  Reading frames state ∨
    AtTag frames state ∧ text = [] ∧ ∀ first ∈ markup.head?, first = '<'

private theorem Starts.read_run {text markup : List Char}
    (starts : Starts (frame :: outer) state text markup)
    (fits : Fits ((frame :: outer).map Frame.name) text) (noTag : '<' ∉ text)
    (separate : Node.endsInText frame.children = false) {rest : List Char}
    (ends : ∀ mark ∈ rest.head?, mark = '<') :
    ∃ after,
      AtTag (frame.addAll (Node.ofText (shownText text)) :: outer) after ∧
        state.read (normalizeInput.lines text ++ rest) = after.read rest := by
  rcases starts with reading | ⟨atTag, rfl, -⟩
  · exact reading.read_run fits noTag separate ends
  · refine ⟨state, ?_, rfl⟩
    rw [ofText_shownText_nil, Frame.addAll, List.append_nil]
    exact atTag

private theorem lines_element {tag : RawTag} (valid : tag.IsValid)
    (text inside markup : List Char) :
    normalizeInput.lines
        (text ++ (tag.markup ++ (inside ++ (closingTag tag.name ++ markup)))) =
      normalizeInput.lines text ++
        (tag.lines.markup ++ (normalizeInput.lines inside ++
          (closingTag tag.name ++ normalizeInput.lines markup))) := by
  have before : normalizeInput.lines
      (text ++ (tag.markup ++ (inside ++ (closingTag tag.name ++ markup)))) =
        normalizeInput.lines text ++ normalizeInput.lines
          (tag.markup ++ (inside ++ (closingTag tag.name ++ markup))) :=
    lines_append_mark text (by decide) _
  have within :
      normalizeInput.lines (inside ++ (closingTag tag.name ++ markup)) =
        normalizeInput.lines inside ++
          normalizeInput.lines (closingTag tag.name ++ markup) :=
    lines_append_mark inside (by decide) _
  rw [before, lines_tag valid, within,
    lines_append_clean (not_mem_closingTag valid.named)]

private theorem Construction.AtTag.read_element
    (atTag : AtTag (frame :: outer) state)
    {tag : RawTag} {inside rest : List Char} {children : List Node}
    (valid : tag.IsValid)
    (isOpen : tag.selfClosing = false)
    (opens : Opens ((frame :: outer).map Frame.name) tag.name)
    (tight : tag.name = "pre" → ∀ first ∈ inside.head?, first = '<')
    (inner : ∀ {opened : Construction},
      Starts
          (⟨tag.name, tag.attributes.map RawAttribute.shown, []⟩ :: frame ::
            outer) opened []
          inside →
        ∃ after,
          AtTag
              (Frame.addAll
                  ⟨tag.name, tag.attributes.map RawAttribute.shown, []⟩
                  children ::
                frame :: outer) after ∧
            opened.read
                (normalizeInput.lines ([] ++ inside) ++
                  (closingTag tag.name ++ rest)) =
              after.read (closingTag tag.name ++ rest)) :
    ∃ after, Reading (frame.addAll [tag.node children] :: outer) after ∧
      state.read (tag.lines.markup ++ (normalizeInput.lines inside ++
        (closingTag tag.name ++ rest))) = after.read rest := by
  have readTag := atTag.read_raw valid.lines
    (normalizeInput.lines inside ++ (closingTag tag.name ++ rest))
  rw [tag.lines_read, isOpen] at readTag
  obtain ⟨opened, openedText⟩ :=
    atTag.opens (tag.attributes.map RawAttribute.shown) opens
  have starts : Starts
      (⟨tag.name, tag.attributes.map RawAttribute.shown, []⟩ :: frame :: outer)
      (state.placeToken
        (.opening ⟨tag.name, tag.attributes.map RawAttribute.shown, false⟩)) []
      inside := by
    by_cases preformatted : tag.name = "pre"
    · exact .inr ⟨opened, rfl, tight preformatted⟩
    · exact .inl (openedText preformatted)
  obtain ⟨after, innerTag, readInner⟩ := inner starts
  rw [List.nil_append] at readInner
  refine ⟨_, innerTag.closes opens, ?_⟩
  rw [readTag, readInner, innerTag.read_closingTag valid.named]
  rfl

private theorem Stands.read {text markup : List Char} {nodes : List Node}
    (stands : Stands path text markup nodes) :
    ∀ {frame : Frame} {outer : List Frame} {state : Construction},
      Starts (frame :: outer) state text markup →
      (frame :: outer).map Frame.name = path →
        Fits path text → '<' ∉ text → Node.endsInText frame.children = false →
          ∀ rest : List Char, (∀ mark ∈ rest.head?, mark = '<') →
            ∃ after, AtTag (frame.addAll nodes :: outer) after ∧
              state.read (normalizeInput.lines (text ++ markup) ++ rest) =
                after.read rest := by
  induction stands with
  | nil =>
      intro frame outer state starts names fits noTag separate rest ends
      rw [List.append_nil]
      exact starts.read_run (names ▸ fits) noTag separate ends
  | @character path text markup character nodes noTag fits others induction =>
      intro frame outer state starts names fitsText noTagText separate rest ends
      have reading : Reading (frame :: outer) state := by
        rcases starts with reading | ⟨-, -, tight⟩
        · exact reading
        · exact absurd (tight character rfl) noTag
      have fitsMore : Fits path (text ++ [character]) := by
        rcases fits with flows | ⟨holds, gap⟩
        · exact .inl flows
        · rcases fitsText with flows | ⟨-, gaps⟩
          · exact .inl flows
          · exact .inr ⟨holds, List.forall_mem_append.mpr ⟨gaps, gap⟩⟩
      have noTagMore : '<' ∉ text ++ [character] := by
        rw [List.mem_append, List.mem_singleton, not_or]
        exact ⟨noTagText, Ne.symm noTag⟩
      have read :=
        induction (.inl reading) names fitsMore noTagMore separate rest ends
      rwa [List.append_assoc, List.singleton_append] at read
  | @element path text inside markup tag children nodes valid isOpen opens tight
    inner others
      innerInduction induction =>
      intro frame outer state starts names fits noTag separate rest ends
      subst names
      have follows :
          ∀ mark ∈ (closingTag tag.name ++
              (normalizeInput.lines markup ++ rest)).head?,
            mark = '<' := fun mark member => (Option.some.inj member).symm
      obtain ⟨flushed, atTag, readText⟩ := starts.read_run fits noTag separate
        (show ∀ mark ∈ (tag.lines.markup ++ (normalizeInput.lines inside ++
          (closingTag tag.name ++
            (normalizeInput.lines markup ++ rest)))).head?, mark = '<' from
            fun mark member => (Option.some.inj member).symm)
      obtain ⟨closed, reading, readElement⟩ :=
        atTag.read_element valid isOpen opens tight
          fun innerStarts =>
            innerInduction innerStarts rfl opens.fits_nil List.not_mem_nil
              rfl _ follows
      obtain ⟨after, afterTag, readAfter⟩ :=
        induction (.inl reading) rfl fits.nil List.not_mem_nil
          (Node.endsInText_append _ _) rest ends
      refine ⟨after, ?_, ?_⟩
      · rwa [Frame.addAll_addAll, Frame.addAll_addAll] at afterTag
      · rw [lines_element valid]
        simp only [List.append_assoc]
        rw [readText, readElement]
        exact readAfter
  | @empty path text markup tag nodes valid isVoid flows apart others
    induction =>
      intro frame outer state starts names fits noTag separate rest ends
      subst names
      obtain ⟨flushed, atTag, readText⟩ := starts.read_run fits noTag separate
        (show ∀ mark ∈ (tag.lines.markup ++
            (normalizeInput.lines markup ++ rest)).head?,
          mark = '<' from fun mark member => (Option.some.inj member).symm)
      have readTag :=
        atTag.read_raw valid.lines (normalizeInput.lines markup ++ rest)
      rw [tag.lines_read] at readTag
      have added := atTag.adds flows
        ⟨tag.name, tag.attributes.map RawAttribute.shown, tag.selfClosing⟩
        isVoid apart
      obtain ⟨after, afterTag, readAfter⟩ :=
        induction (.inl added) rfl fits.nil List.not_mem_nil
          (Node.endsInText_append _ _) rest ends
      refine ⟨after, ?_, ?_⟩
      · rwa [Frame.addAll_addAll, Frame.addAll_addAll] at afterTag
      · have before : normalizeInput.lines (text ++ (tag.markup ++ markup)) =
            normalizeInput.lines text ++
              normalizeInput.lines (tag.markup ++ markup) :=
          lines_append_mark text (by decide) _
        rw [before, lines_tag valid]
        simp only [List.append_assoc]
        rw [readText, readTag]
        exact readAfter

/-- The trees that markup stands for become children of the innermost
element. -/
theorem Stands.read_within {markup : List Char} {nodes : List Node}
    (stands : Stands path [] markup nodes)
    (reading : Reading (frame :: outer) state)
    (names : (frame :: outer).map Frame.name = path) (flows : Flows path)
    (separate : Node.endsInText frame.children = false) {rest : List Char}
    (ends : ∀ mark ∈ rest.head?, mark = '<') :
    ∃ after, AtTag (frame.addAll nodes :: outer) after ∧
      state.read (normalizeInput.lines markup ++ rest) = after.read rest :=
  stands.read (.inl reading) names (.inl flows) List.not_mem_nil
    separate rest ends

/-- A document of one element of running text has an empty head and the element
in its body. -/
theorem parse_element {tag : RawTag} {inside : List Char} {children : List Node}
    (valid : tag.IsValid) (isOpen : tag.selfClosing = false)
    (running : isRunningTag tag.name = true)
    (opens : Opens ["body", "html"] tag.name)
    (tight : tag.name = "pre" → ∀ first ∈ inside.head?, first = '<')
    (inner : Stands [tag.name, "body", "html"] [] inside children) :
    parse (String.ofList (tag.markup ++ (inside ++ closingTag tag.name))) =
      [.element ⟨.html, "html"⟩ [] [.element ⟨.html, "head"⟩ [] [],
        .element ⟨.html, "body"⟩ [] [tag.node children]]] := by
  obtain ⟨after, reading, read⟩ :=
    reading_atBody.atTag.read_element valid isOpen opens tight
      fun starts => inner.read starts rfl opens.fits_nil List.not_mem_nil rfl
        (closingTag tag.name ++ []) fun _ member =>
          (Option.some.inj member).symm
  have ended : after.read [] = after := by
    rw [Construction.read]
    exact reading.finishes (.inl rfl)
  have markup : normalizeInput (tag.markup ++ (inside ++ closingTag tag.name)) =
      tag.lines.markup ++
        (normalizeInput.lines inside ++ (closingTag tag.name ++ [])) := by
    have whole := lines_element valid [] inside []
    rwa [List.append_nil] at whole
  rw [parse, String.toList_ofList, markup,
    read_empty valid.lines isOpen running, read, ended, reading.dom]
  exact Frame.toNodes_dom _ _

end Reading

namespace Stands

variable {path : List String}

theorem run {before run markup : List Char} {nodes : List Node}
    (flows : Flows path)
    (noTag : '<' ∉ run) (others : Stands path (before ++ run) markup nodes) :
    Stands path before (run ++ markup) nodes := by
  induction run generalizing before with
  | nil => rwa [List.append_nil] at others
  | cons character run induction =>
      rw [List.mem_cons, not_or] at noTag
      rw [List.append_cons] at others
      exact .character (Ne.symm noTag.1) (.inl flows) (induction noTag.2 others)

theorem text {text : List Char} (flows : Flows path) (noTag : '<' ∉ text) :
    Stands path [] text (Node.ofText (shownText text)) := by
  have stands := run flows noTag (.nil : Stands path ([] ++ text) [] _)
  rwa [List.append_nil] at stands

end Stands

end LessonSite.Html
