import LessonSite.Proofs.Html.Placing
import LessonSite.Proofs.Html.Written

/-!
# Trees are read back

A document that spells trees has them as the content of its body.  So has one
that consists of written trees.
-/

namespace LessonSite.Html

namespace Construction

/-- The open elements where the body begins. -/
def bodyStart : List Frame :=
  [⟨"body", [], []⟩, ⟨"html", [], [.element ⟨.html, "head"⟩ [] []]⟩]

/-- The state before the outermost element of a document without a document
type. -/
private def atRoot : Construction :=
  { empty with oldLayout := true, mode := .beforeHtml }

private def atHead : Construction :=
  (atRoot.openRoot []).withMode .beforeHead

private def inOpenHead : Construction :=
  atHead.openHead ⟨"head", [], false⟩

private def afterEmptyHead : Construction :=
  inOpenHead.pop.withMode .afterHead

/-- The state where the body begins, when nothing before it is written. -/
def atBody : Construction :=
  (afterEmptyHead.openImplied "body").withMode .inBody

theorem reading_atBody : Reading bodyStart atBody :=
  ⟨⟨rfl, rfl, .other rfl rfl (.other rfl rfl .nil), rfl, rfl, rfl, rfl, rfl⟩,
    rfl⟩

theorem placeWithin_again {state after : Construction} {token : Token}
    (count : Nat)
    (common : state.isForeign token = false)
    (again : state.placeByMode token = .again after) :
    state.placeWithin token (count + 1) = after.placeWithin token count := by
  rw [placeWithin, common, if_neg Bool.false_ne_true, again]

/-- The tag of the first element supplies what is missing before it. -/
theorem placeToken_empty {name : String} (running : isRunningTag name = true)
    (attributes : List Attribute) :
    empty.placeToken (.opening ⟨name, attributes, false⟩) =
      atBody.openInBody ⟨name, attributes, false⟩ := by
  have differs :
      ∀ other, isRunningTag other = false → ¬ (name == other) = true :=
    fun _ => not_beq_of_isRunningTag running
  have noHead : ¬ isHeadTag name = true := by
    rw [isHeadTag_of_isRunningTag running]
    exact Bool.false_ne_true
  have noScript : ¬ (isHeadTag name || name == "noscript") = true := by
    rw [Bool.or_eq_true, not_or]
    exact ⟨noHead, differs "noscript" (by decide)⟩
  have first :
      empty.placeByMode (.opening ⟨name, attributes, false⟩) = .again atRoot :=
    rfl
  have second :
      atRoot.placeByMode (.opening ⟨name, attributes, false⟩) = .again atHead :=
    if_neg (differs "html" (by decide))
  have third :
      atHead.placeByMode (.opening ⟨name, attributes, false⟩) =
        .again inOpenHead :=
    (if_neg (differs "html" (by decide))).trans
      (if_neg (differs "head" (by decide)))
  have fourth : inOpenHead.placeByMode (.opening ⟨name, attributes, false⟩) =
      .again afterEmptyHead :=
    (if_neg (differs "html" (by decide))).trans
      ((if_neg noScript).trans (if_neg (differs "head" (by decide))))
  have fifth :
      afterEmptyHead.placeByMode (.opening ⟨name, attributes, false⟩) =
        .again atBody :=
    (if_neg (differs "html" (by decide))).trans <|
      (if_neg (differs "body" (by decide))).trans <|
        (if_neg (differs "frameset" (by decide))).trans <|
          (if_neg noHead).trans (if_neg (differs "head" (by decide)))
  have last : atBody.placeByMode (.opening ⟨name, attributes, false⟩) =
      .placed (atBody.openInBody ⟨name, attributes, false⟩) := rfl
  have start : empty.placeToken (.opening ⟨name, attributes, false⟩) =
      empty.placeWithin (.opening ⟨name, attributes, false⟩) 32 := rfl
  rw [start, placeWithin_again 31 rfl first, placeWithin_again 30 rfl second,
    placeWithin_again 29 rfl third, placeWithin_again 28 rfl fourth,
    placeWithin_again 27 rfl fifth, placeWithin, last]
  rfl

end Construction

theorem Frame.addText_ofText {frame : Frame}
    (separate : Node.endsInText frame.children = false) (text : List Char) :
    frame.addText text = frame.addAll (Node.ofText (String.ofList text)) := by
  by_cases empty : text = []
  · rw [empty]
    exact congrArg (Frame.mk frame.name frame.attributes)
      (List.append_nil _).symm
  · have shows : String.ofList text ≠ "" := by simpa using empty
    rw [Frame.addText_eq separate empty, Node.ofText, if_neg shows]

namespace Construction

/-- What is read next is placed, and reading goes on after it. -/
theorem read_tokens {state : Construction} {kind : TextKind}
    (sameKind : state.textKind = kind)
    (common : state.inForeign = false) {written rest : List Char}
    {tokens : List Token}
    (nonempty : written ≠ [])
    (next : readTokens kind false (written ++ rest) = (tokens, rest)) :
    state.read (written ++ rest) =
      (tokens.foldl Construction.placeToken state).read rest := by
  obtain ⟨first, others, rfl⟩ := List.exists_cons_of_ne_nil nonempty
  have shorter : rest.length < (first :: (others ++ rest)).length := by
    rw [List.length_cons, List.length_append]
    omega
  rw [List.cons_append] at next ⊢
  rw [Construction.read, sameKind, common, next]
  exact dif_pos shorter

namespace Within

variable {frame : Frame} {outer frames : List Frame} {state : Construction}

theorem inForeign (within : Within (frame :: outer) state) :
    state.inForeign = false := by
  rw [Construction.inForeign, within.currentName]
  exact Bool.and_false _

theorem textKind (within : Within frames state)
    (noLiteral : state.mode ≠ .inLiteral) :
    state.textKind = .markup := by
  obtain ⟨-, -, -, plain, -⟩ := within.isPlain
  rw [Construction.textKind, plain, if_neg Bool.false_ne_true, if_neg noLiteral]

end Within

namespace Reading

variable {frame : Frame} {outer frames : List Frame} {state : Construction}

theorem textKind (reading : Reading frames state) :
    state.textKind = .markup := by
  apply reading.toWithin.textKind
  rw [reading.mode]
  exact modeWithin_ne_inLiteral _

theorem read_rawTag (reading : Reading (frame :: outer) state) {tag : RawTag}
    (valid : tag.IsValid) (rest : List Char) :
    state.read (tag.markup ++ rest) =
      (state.placeToken (.opening tag.read)).read rest :=
  read_tokens reading.textKind reading.inForeign (List.cons_ne_nil _ _)
    (readTokens_raw valid rest)

theorem read_closingTag (reading : Reading (frame :: outer) state)
    {name : String} (named : isName name = true) (rest : List Char) :
    state.read (closingTag name ++ rest) =
      (state.placeToken (.closing name)).read rest :=
  read_tokens reading.textKind reading.inForeign (List.cons_ne_nil _ _)
    (readTokens_closingTag named rest)

theorem characters (reading : Reading (frame :: outer) state)
    (flows : Flows ((frame :: outer).map Frame.name)) (content : List Char) :
    Reading (frame.addText (content.filter (· != '\x00')) :: outer)
      ((Html.characters content).foldl Construction.placeToken state) := by
  induction content generalizing frame state with
  | nil => exact reading
  | cons character content induction =>
      rw [Html.characters, List.map_cons, List.foldl_cons]
      by_cases nul : character = '\x00'
      · have dropped :
            ('\x00' :: content).filter (· != '\x00') =
              content.filter (· != '\x00') :=
          List.filter_cons_of_neg (by decide)
        rw [nul, reading.skips flows, dropped]
        exact induction reading flows
      · have kept : (character :: content).filter (· != '\x00') =
            character :: content.filter (· != '\x00') :=
          List.filter_cons_of_pos (by simpa using nul)
        rw [kept]
        exact induction (reading.continues flows nul) flows

theorem read_text (reading : Reading (frame :: outer) state)
    (flows : Flows ((frame :: outer).map Frame.name))
    (separate : Node.endsInText frame.children = false)
    {content : String} (nonempty : content ≠ "")
    (noNul : '\x00' ∉ content.toList) {markup : List Char}
    (noTag : '<' ∉ markup)
    (decodes : decodeReferences false markup = content.toList)
    {rest : List Char} (ends : ∀ mark ∈ rest.head?, mark = '<') :
    ∃ after, Reading (frame.addAll [.text content] :: outer) after ∧
      state.read (markup ++ rest) = after.read rest := by
  have some_ : content.toList ≠ [] := by
    simpa using nonempty
  have written : markup ≠ [] := by
    rintro rfl
    rw [decodeReferences] at decodes
    exact some_ decodes.symm
  have placed := reading.characters flows content.toList
  have kept : content.toList.filter (· != '\x00') = content.toList :=
    List.filter_eq_self.mpr fun _ member =>
      bne_iff_ne.mpr (ne_of_mem_of_not_mem member noNul)
  have next := readTokens_run written noTag ends
  rw [decodes] at next
  rw [kept, Frame.addText_eq separate some_, String.ofList_toList] at placed
  exact ⟨_, placed, read_tokens reading.textKind reading.inForeign written next⟩

end Reading

end Construction

/-- Markup that spells trees within elements of the given names, the innermost
first. -/
inductive Spells : List String → List Node → List Char → Prop where
  | nil (path : List String) : Spells path [] []
  | text {path : List String} {content : String} {nodes : List Node}
      {markup rest : List Char}
      (nonempty : content ≠ "") (noNul : '\x00' ∉ content.toList)
      (noTag : '<' ∉ markup)
      (decodes : decodeReferences false markup = content.toList)
      (apart : ∀ node ∈ nodes.head?, node.isText = false)
      (others : Spells path nodes rest) :
      Spells path (.text content :: nodes) (markup ++ rest)
  | element {path : List String} {tag : RawTag} {children nodes : List Node}
      {inside rest : List Char}
      (valid : tag.IsValid) (isOpen : tag.selfClosing = false)
      (opens : Construction.MayOpen path tag.name)
      (inner : Spells (tag.name :: path) children inside)
      (others : Spells path nodes rest) :
      Spells path
        (.element ⟨.html, tag.name⟩ (tag.attributes.map RawAttribute.read)
          children :: nodes)
        (tag.markup ++ (inside ++ (closingTag tag.name ++ rest)))

private theorem Spells.head? {path : List String} {nodes : List Node}
    {markup : List Char}
    (spells : Spells path nodes markup)
    (apart : ∀ node ∈ nodes.head?, node.isText = false)
    {rest : List Char} (ends : ∀ mark ∈ rest.head?, mark = '<') :
    ∀ mark ∈ (markup ++ rest).head?, mark = '<' := by
  cases spells with
  | nil => exact ends
  | text => exact Bool.noConfusion (apart _ rfl)
  | element valid isOpen opens inner others =>
      intro mark member
      exact (Option.some.inj member).symm

namespace Construction

/-- Trees that are spelled become children of the innermost element. -/
theorem read_spelled {path : List String} {nodes : List Node}
    {markup : List Char} (spells : Spells path nodes markup) :
    ∀ {frame : Frame} {outer : List Frame} {state : Construction},
      Reading (frame :: outer) state → (frame :: outer).map Frame.name = path →
      Flows path →
        (∀ node ∈ nodes.head?,
          (Node.endsInText frame.children && node.isText) = false) →
          ∀ rest : List Char, (∀ mark ∈ rest.head?, mark = '<') →
            ∃ after, Reading (frame.addAll nodes :: outer) after ∧
              state.read (markup ++ rest) = after.read rest := by
  -- What an element holds is read within one more open element, what follows it
  -- within the same ones, so the open elements and the text after the trees
  -- vary.
  induction spells with
  | nil path =>
      intro frame outer state reading _ _ _ rest _
      refine ⟨state, ?_, rfl⟩
      rw [Frame.addAll, List.append_nil]
      exact reading
  | text nonempty noNul noTag decodes apart others induction =>
      intro frame outer state reading names flows separate rest ends
      have noText : Node.endsInText frame.children = false := by
        simpa [Node.isText] using separate
      obtain ⟨afterText, readingText, readText⟩ :=
        reading.read_text (names ▸ flows) noText nonempty noNul noTag decodes
          (others.head? apart ends)
      obtain ⟨after, readingAfter, readAfter⟩ :=
        induction readingText names flows
          (fun node member => by rw [apart node member, Bool.and_false]) rest
          ends
      refine ⟨after, ?_, ?_⟩
      · rwa [Frame.addAll_addAll] at readingAfter
      · rw [List.append_assoc, readText, readAfter]
  | @element path tag children nodes inside markup valid isOpen opens inner
    others innerInduction
      induction =>
      intro frame outer state reading names flows separate rest ends
      have opened :=
        reading.opens (names ▸ flows) (tag.attributes.map RawAttribute.read)
          (names ▸ opens)
      have read :
          tag.read =
            ⟨tag.name, tag.attributes.map RawAttribute.read, false⟩ := by
        rw [RawTag.read, isOpen]
      have follows :
          ∀ mark ∈ (closingTag tag.name ++ (markup ++ rest)).head?,
            mark = '<' :=
        fun mark member => (Option.some.inj member).symm
      obtain ⟨afterInner, readingInner, readInner⟩ :=
        innerInduction opened (congrArg (tag.name :: ·) names)
          (flows.cons opens.isRunningTag) (fun _ _ => rfl) _ follows
      have closed := readingInner.closes (names ▸ flows) (names ▸ opens)
      obtain ⟨after, readingAfter, readAfter⟩ := induction closed names flows
        (fun node _ => by rw [Frame.addAll, Node.endsInText_append]; rfl) rest
        ends
      refine ⟨after, ?_, ?_⟩
      · rwa [Frame.addAll_addAll] at readingAfter
      · rw [List.append_assoc, List.append_assoc, List.append_assoc,
          reading.read_rawTag valid, read, readInner,
          readingInner.read_closingTag valid.named]
        exact readAfter

theorem read_empty {tag : RawTag} (valid : tag.IsValid)
    (isOpen : tag.selfClosing = false)
    (running : isRunningTag tag.name = true) (rest : List Char) :
    empty.read (tag.markup ++ rest) = atBody.read (tag.markup ++ rest) := by
  have read :
      tag.read = ⟨tag.name, tag.attributes.map RawAttribute.read, false⟩ := by
    rw [RawTag.read, isOpen]
  have start :
      empty.read (tag.markup ++ rest) =
        (empty.placeToken (.opening tag.read)).read rest :=
    read_tokens (show empty.textKind = .markup from rfl) rfl
      (List.cons_ne_nil _ _) (readTokens_raw valid rest)
  have placed :
      atBody.placeToken (.opening tag.read) = atBody.openInBody tag.read := by
    rw [read]
    exact reading_atBody.placeToken (.inl rfl)
      (isRunningToken_opening running _) rfl
  rw [start, read, placeToken_empty running, ← read, ← placed,
    reading_atBody.read_rawTag valid]

end Construction

/-- A document that spells trees, the first of them an element, has an empty
head and the trees in its body. -/
theorem parse_spelled {element : Node} {nodes : List Node} {markup : List Char}
    (begins : element.isText = false)
    (spells : Spells ["body", "html"] (element :: nodes) markup)
    (noReturn : '\r' ∉ markup) :
    parse (String.ofList markup) =
      [.element ⟨.html, "html"⟩ [] [.element ⟨.html, "head"⟩ [] [],
        .element ⟨.html, "body"⟩ [] (element :: nodes)]] := by
  obtain ⟨after, reading, read⟩ := Construction.read_spelled spells
    Construction.reading_atBody rfl (.inl rfl) (fun _ _ => rfl) []
    (fun _ none => nomatch none)
  have ended : after.read [] = after := by
    rw [Construction.read]
    exact reading.finishes (.inl rfl)
  rw [List.append_nil, ended] at read
  have whole : Construction.empty.read (normalizeInput markup) = after := by
    cases spells with
    | text => cases begins
    | element valid isOpen opens inner others =>
        rw [← read, ← Construction.read_empty valid isOpen opens.isRunningTag]
        exact congrArg _ (normalizeInput_eq_self noReturn)
  rw [parse, String.toList_ofList, whole, reading.dom]
  exact Frame.toNodes_dom _ _

/-- Trees that are read as they are written within elements of the given names,
the innermost first. -/
inductive AreReadable : List String → List Node → Prop where
  | nil (path : List String) : AreReadable path []
  | text {path : List String} {content : String} {nodes : List Node}
      (nonempty : content ≠ "")
      (clean : IsClean content)
      (apart : ∀ node ∈ nodes.head?, node.isText = false)
      (others : AreReadable path nodes) :
      AreReadable path (.text content :: nodes)
  | element {path : List String} {name : String} {attributes : List Attribute}
      {children nodes : List Node} (named : isName name = true)
      (opens : Construction.MayOpen path name)
      (writable : AreWritable attributes)
      (inner : AreReadable (name :: path) children)
      (others : AreReadable path nodes) :
      AreReadable path (.element ⟨.html, name⟩ attributes children :: nodes)

theorem areReadable_ofText (path : List String) {text : String}
    (clean : IsClean text) :
    AreReadable path (Node.ofText text) := by
  unfold Node.ofText
  split
  · exact .nil path
  · next nonempty =>
      exact .text nonempty clean (fun _ none => nomatch none) (.nil path)

theorem AreReadable.spells {path : List String} {nodes : List Node}
    (readable : AreReadable path nodes) :
    Spells path nodes (Node.writeAll nodes) := by
  induction readable with
  | nil path => exact .nil path
  | text nonempty clean apart others induction =>
      rw [Node.writeAll, Node.write]
      exact .text nonempty clean.1 (fun less => (mem_escape less).1 rfl)
        (decodeReferences_escape _) apart induction
  | @element path name attributes children nodes named opens writable inner
    others innerInduction
      induction =>
      have spelled : Spells path (.element ⟨.html, name⟩
          ((attributes.map Attribute.raw).map RawAttribute.read) children ::
          nodes) _ :=
        .element (isValid_raw named writable) rfl opens innerInduction induction
      rw [read_raw writable.each, ← openingTag_eq_raw] at spelled
      rw [Node.writeAll, Node.write, List.append_assoc, List.append_assoc]
      exact spelled

private theorem not_mem_writeAll {path : List String} {nodes : List Node}
    (readable : AreReadable path nodes) : '\r' ∉ Node.writeAll nodes := by
  induction readable with
  | nil => exact List.not_mem_nil
  | text nonempty clean apart others induction =>
      rw [Node.writeAll, Node.write, List.mem_append, not_or]
      exact ⟨not_mem_escape clean.2 (by decide), induction⟩
  | element named opens writable inner others innerInduction induction =>
      rw [Node.writeAll, Node.write, List.mem_append, List.mem_append,
        List.mem_append]
      rintro ((opening | member | closing) | member)
      · exact not_mem_openingTag named writable.each opening
      · exact innerInduction member
      · exact not_mem_closingTag named closing
      · exact induction member

/-- A document of written trees has an empty head and the trees in its body. -/
theorem parse_writeAll {name : String} {attributes : List Attribute}
    {children nodes : List Node} (readable : AreReadable ["body", "html"]
      (.element ⟨.html, name⟩ attributes children :: nodes)) :
    parse
        (String.ofList
          (Node.writeAll
            (.element ⟨.html, name⟩ attributes children :: nodes))) =
      [.element ⟨.html, "html"⟩ [] [.element ⟨.html, "head"⟩ [] [],
        .element ⟨.html, "body"⟩ []
          (.element ⟨.html, name⟩ attributes children :: nodes)]] :=
  parse_spelled rfl readable.spells (not_mem_writeAll readable)

end LessonSite.Html
