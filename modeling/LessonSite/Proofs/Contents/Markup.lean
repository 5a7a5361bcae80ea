import LessonSite.Contents.Reader
import LessonSite.Proofs.Html.Balanced

/-!
# Tables of contents are read back

The markup of a table of contents is a written tree, and the tree says what the
table of contents says, up to the blanks around titles and labels and up to
which link is active.
-/

namespace LessonSite

open Html (ArePlainNames AreReadable AreWritable Attribute Balanced Node)
open Html.Construction (Flows MayOpen)

def linkClasses (active : Bool) : String :=
  if active then "toc-link toc-active" else "toc-link"

/-- The classes of the list of a chapter's links. -/
def sectionClasses (expanded : Bool) : String :=
  if expanded then "toc-sections" else "toc-sections hidden"

def ContentsLink.node (link : ContentsLink) : Node :=
  .element ⟨.html, "li"⟩ []
    [.element ⟨.html, "a"⟩
      [⟨"class", linkClasses link.active⟩, ⟨"href", link.href⟩]
      (Node.ofText link.label)]

def ContentsChapter.node (chapter : ContentsChapter) : Node :=
  .element ⟨.html, "li"⟩ []
    [.element ⟨.html, "div"⟩ [⟨"class", "toc-chapter"⟩]
      [.element ⟨.html, "button"⟩
          [⟨"class", "toc-chapter-title"⟩, ⟨"type", "button"⟩]
          (Node.ofText chapter.title),
        .element ⟨.html, "ul"⟩ [⟨"class", sectionClasses chapter.expanded⟩]
          (chapter.links.map ContentsLink.node)]]

/-- A table of contents as a tree. -/
def Contents.node (contents : Contents) : Node :=
  .element ⟨.html, "ul"⟩ [⟨"class", "toc"⟩]
    (contents.chapters.map ContentsChapter.node)

private theorem ContentsLink.toList_markup (link : ContentsLink) :
    link.markup.toList = link.node.write := by
  obtain ⟨label, href, active⟩ := link
  -- Deriving an equation from the definition would evaluate the texts in it.
  delta ContentsLink.markup
  simp only [String.toList_append, Markup.escape, String.toList_ofList,
    ContentsLink.node, linkClasses, Node.write, Node.writeAll,
    Html.writeAll_ofText, Html.openingTag, Html.closingTag, Attribute.write,
    List.flatMap_cons, List.flatMap_nil, List.append_assoc, List.cons_append,
    List.nil_append, List.append_nil]
  cases active with
  | false =>
      rw [if_neg Bool.false_ne_true, if_neg Bool.false_ne_true,
        String.toList_empty]
      rfl
  | true =>
      rw [if_pos rfl, if_pos rfl]
      rfl

private theorem ContentsChapter.toList_markup (chapter : ContentsChapter) :
    chapter.markup.toList = chapter.node.write := by
  obtain ⟨title, links, expanded⟩ := chapter
  have inner : (links.map ContentsLink.markup).flatMap String.toList =
      Node.writeAll (links.map ContentsLink.node) := by
    rw [Html.writeAll_map, List.flatMap_map, funext ContentsLink.toList_markup]
  delta ContentsChapter.markup
  simp only [String.toList_append, Markup.escape, String.toList_ofList,
    String.toList_join, inner, ContentsChapter.node, sectionClasses, Node.write,
    Node.writeAll, Html.writeAll_ofText, Html.openingTag, Html.closingTag,
    Attribute.write, List.flatMap_cons, List.flatMap_nil, List.append_assoc,
    List.cons_append, List.nil_append, List.append_nil]
  cases expanded with
  | false =>
      rw [if_neg Bool.false_ne_true, if_neg Bool.false_ne_true]
      rfl
  | true =>
      rw [if_pos rfl, if_pos rfl, String.toList_empty]
      rfl

/-- The markup of a table of contents is its tree as it is written. -/
theorem Contents.markup_eq_write (contents : Contents) :
    contents.markup = String.ofList (Node.writeAll [contents.node]) := by
  have inner :
      (contents.chapters.map ContentsChapter.markup).flatMap String.toList =
        Node.writeAll (contents.chapters.map ContentsChapter.node) := by
    rw [Html.writeAll_map, List.flatMap_map,
      funext ContentsChapter.toList_markup]
  have written : contents.markup.toList = Node.writeAll [contents.node] := by
    delta Contents.markup
    simp only [String.toList_append, String.toList_join, inner, Contents.node,
      Node.write, Node.writeAll, Html.openingTag, Html.closingTag,
      Attribute.write, List.flatMap_cons, List.flatMap_nil, List.append_assoc,
      List.cons_append, List.nil_append, List.append_nil]
    rfl
  rw [← written, String.ofList_toList]

/-- The texts of a link are clean. -/
def ContentsLink.IsClean (link : ContentsLink) : Prop :=
  Html.IsClean link.label ∧ Html.IsClean link.href

/-- The texts of a chapter are clean. -/
def ContentsChapter.IsClean (chapter : ContentsChapter) : Prop :=
  Html.IsClean chapter.title ∧ ∀ link ∈ chapter.links, link.IsClean

/-- No text of a table of contents has a character that reading markup
changes. -/
def Contents.IsClean (contents : Contents) : Prop :=
  ∀ chapter ∈ contents.chapters, chapter.IsClean

instance (link : ContentsLink) : Decidable link.IsClean :=
  inferInstanceAs (Decidable (_ ∧ _))

instance (chapter : ContentsChapter) : Decidable chapter.IsClean :=
  inferInstanceAs (Decidable (_ ∧ ∀ link ∈ chapter.links, link.IsClean))

instance (contents : Contents) : Decidable contents.IsClean :=
  inferInstanceAs (Decidable (∀ chapter ∈ contents.chapters, chapter.IsClean))

private theorem areReadable_items {α : Type} {path : List String}
    {children : α → List Node} {entries : List α} (opens : MayOpen path "li")
    (inner : ∀ entry ∈ entries, AreReadable ("li" :: path) (children entry)) :
    AreReadable path
      (entries.map fun entry =>
        .element ⟨.html, "li"⟩ [] (children entry)) := by
  induction entries with
  | nil => exact .nil path
  | cons entry entries induction =>
      obtain ⟨inner, others⟩ := List.forall_mem_cons.mp inner
      exact .element (by decide) opens (by decide) inner (induction others)

/-- The names of the elements around a link, the innermost first. -/
private def linkPath : List String :=
  ["li", "ul", "div", "li", "ul", "body", "html"]

private theorem ContentsLink.areReadable {link : ContentsLink}
    (clean : link.IsClean) :
    AreReadable linkPath [.element ⟨.html, "a"⟩
      [⟨"class", linkClasses link.active⟩, ⟨"href", link.href⟩]
      (Node.ofText link.label)] := by
  obtain ⟨label, href, active⟩ := link
  have writable :
      AreWritable [⟨"class", linkClasses active⟩, ⟨"href", href⟩] := by
    constructor
    · rw [List.forall_mem_cons, List.forall_mem_singleton]
      refine ⟨?_, show Html.isName "href" = true by decide, clean.2⟩
      cases active <;> decide
    · simp
  exact .element (by decide) (.link (by decide)) writable
    (Html.areReadable_ofText _ clean.1) (.nil _)

private theorem ContentsChapter.areReadable {chapter : ContentsChapter}
    (clean : chapter.IsClean) :
    AreReadable ["li", "ul", "body", "html"]
      [.element ⟨.html, "div"⟩ [⟨"class", "toc-chapter"⟩]
        [.element ⟨.html, "button"⟩
            [⟨"class", "toc-chapter-title"⟩, ⟨"type", "button"⟩]
            (Node.ofText chapter.title),
          .element ⟨.html, "ul"⟩ [⟨"class", sectionClasses chapter.expanded⟩]
            (chapter.links.map ContentsLink.node)]] := by
  obtain ⟨title, links, expanded⟩ := chapter
  have writable : AreWritable [⟨"class", sectionClasses expanded⟩] := by
    cases expanded <;> decide
  have items : AreReadable ["ul", "div", "li", "ul", "body", "html"]
      (links.map ContentsLink.node) :=
    areReadable_items (.item rfl (.inl rfl) (by decide)) fun link member =>
      ContentsLink.areReadable (clean.2 link member)
  refine .element (by decide) (.block (by decide) (by decide) (by decide))
    (by decide) ?_ (.nil _)
  refine .element (by decide) (.button (by decide)) (by decide)
    (Html.areReadable_ofText _ clean.1) ?_
  exact .element (by decide) (.block (by decide) (by decide) (by decide))
    writable items (.nil _)

private theorem Contents.areReadable {contents : Contents}
    (clean : contents.IsClean) :
    AreReadable ["body", "html"] [contents.node] := by
  have items :
      AreReadable ["ul", "body", "html"]
        (contents.chapters.map ContentsChapter.node) :=
    areReadable_items (.item rfl (.inl rfl) (by decide)) fun chapter member =>
      ContentsChapter.areReadable (clean chapter member)
  exact .element (by decide) (.block (by decide) (by decide) (by decide))
    (by decide) items (.nil _)

private theorem balanced_items {α : Type} {path : List String}
    {children : α → List Node}
    {entries : List α} (flows : Flows path) (opens : MayOpen path "li")
    (inner : ∀ entry ∈ entries,
      Balanced ("li" :: path) (Node.writeAll (children entry))) :
    Balanced path
      (Node.writeAll
        (entries.map fun entry =>
          .element ⟨.html, "li"⟩ [] (children entry))) := by
  induction entries with
  | nil => exact .nil
  | cons entry entries induction =>
      obtain ⟨inner, others⟩ := List.forall_mem_cons.mp inner
      exact .runningTree (by decide) (by decide) flows opens inner
        (induction others)

/-- The names of the elements around a link in the navigation of a page, the
innermost first. -/
private def navigationPath : List String :=
  ["li", "ul", "div", "li", "ul", "nav", "body", "html"]

private theorem ContentsLink.balanced (link : ContentsLink) :
    Balanced navigationPath (Node.writeAll [.element ⟨.html, "a"⟩
      [⟨"class", linkClasses link.active⟩, ⟨"href", link.href⟩]
      (Node.ofText link.label)]) := by
  have names : ArePlainNames ["class", "href"] := by decide
  apply Balanced.runningTree (by decide) (by exact names) (by decide)
    (.link (by decide))
  · exact .writeAll_ofText (by decide) link.label
  · exact .nil

private theorem ContentsChapter.balanced (chapter : ContentsChapter) :
    Balanced ["li", "ul", "nav", "body", "html"] (Node.writeAll
      [.element ⟨.html, "div"⟩ [⟨"class", "toc-chapter"⟩]
        [.element ⟨.html, "button"⟩
            [⟨"class", "toc-chapter-title"⟩, ⟨"type", "button"⟩]
            (Node.ofText chapter.title),
          .element ⟨.html, "ul"⟩ [⟨"class", sectionClasses chapter.expanded⟩]
            (chapter.links.map ContentsLink.node)]]) := by
  have links : Balanced ["ul", "div", "li", "ul", "nav", "body", "html"]
      (Node.writeAll (chapter.links.map ContentsLink.node)) :=
    balanced_items (by decide) (.item rfl (.inl rfl) (by decide)) fun link _ =>
      link.balanced
  apply Balanced.runningTree (by decide) (by decide) (by decide)
    (.block (by decide) (by decide) (by decide))
  · apply Balanced.runningTree (by decide) (by decide) (by decide)
      (.button (by decide))
    · exact .writeAll_ofText (by decide) chapter.title
    · have names : ArePlainNames ["class"] := by decide
      apply Balanced.runningTree (by decide) (by exact names) (by decide)
        (.block (by decide) (by decide) (by decide)) links
      exact .nil
  · exact .nil

/-- The markup of a table of contents can be put into the navigation of a
page. -/
theorem Contents.balanced (contents : Contents) :
    Balanced ["nav", "body", "html"] contents.markup.toList := by
  have chapters : Balanced ["ul", "nav", "body", "html"]
      (Node.writeAll (contents.chapters.map ContentsChapter.node)) :=
    balanced_items (by decide)
      (.item rfl (.inl rfl) (by decide)) fun chapter _ => chapter.balanced
  rw [contents.markup_eq_write, String.toList_ofList]
  apply Balanced.runningTree (by decide) (by decide) (by decide)
    (.block (by decide) (by decide) (by decide)) chapters
  exact .nil

def ContentsLink.readBack (link : ContentsLink) : ContentsLink where
  label := Text.trim link.label
  href := link.href
  active := false

/-- A chapter as it is read back. -/
def ContentsChapter.readBack (chapter : ContentsChapter) : ContentsChapter where
  title := Text.trim chapter.title
  links := chapter.links.map ContentsLink.readBack
  expanded := chapter.expanded

/-- A table of contents as it is read back: the blanks around titles and labels
are gone, and no link is active. -/
def Contents.readBack (contents : Contents) : Contents where
  chapters := contents.chapters.map ContentsChapter.readBack

private theorem hasClass_class (element : Html.ElementName)
    (value name : String) (more : List Attribute) (children : List Node) :
    (Node.element element (⟨"class", value⟩ :: more) children).hasClass name =
      (Node.classWords value).contains name :=
  rfl

private theorem hasClass_plain (element : Html.ElementName) (name : String)
    (children : List Node) :
    (Node.element element [] children).hasClass name = false :=
  rfl

theorem allTextContent_ofText (text : String) :
    Node.allTextContent (Node.ofText text) = text := by
  unfold Node.ofText
  split
  · next empty => rw [empty]; rfl
  · rw [Node.allTextContent, Node.textContent, Node.allTextContent,
      String.append_empty]

private theorem addTo_link (chapter : ContentsChapter) (link : ContentsLink) :
    Node.addTo chapter link.node =
      { chapter with links := chapter.links ++ [link.readBack] } := by
  obtain ⟨label, href, active⟩ := link
  have isLink :
      (Node.classWords (linkClasses active)).contains "toc-link" = true := by
    cases active <;> decide
  have noTitle :
      (Node.classWords (linkClasses active)).contains "toc-chapter-title" =
        false := by
    cases active <;> decide
  rw [ContentsLink.node, Node.addTo, hasClass_plain, hasClass_plain,
    hasClass_plain, if_neg Bool.false_ne_true, if_neg Bool.false_ne_true,
    if_neg Bool.false_ne_true, Node.addAllTo, Node.addAllTo, Node.addTo,
    hasClass_class, hasClass_class, noTitle, isLink, if_neg Bool.false_ne_true,
    if_pos rfl, Node.toLink, Node.label, Node.textContent,
    allTextContent_ofText, ContentsLink.readBack]
  rfl

private theorem addAllTo_links (chapter : ContentsChapter)
    (links : List ContentsLink) :
    Node.addAllTo chapter (links.map ContentsLink.node) =
      { chapter with
        links := chapter.links ++ links.map ContentsLink.readBack } := by
  induction links generalizing chapter with
  | nil => rw [List.map_nil, Node.addAllTo, List.map_nil, List.append_nil]
  | cons link links induction =>
      rw [List.map_cons, Node.addAllTo, addTo_link, induction,
        List.append_assoc]
      rfl

private theorem addTo_title (chapter : ContentsChapter) (title : String)
    (more : List Attribute) :
    Node.addTo chapter
      (.element ⟨.html, "button"⟩ (⟨"class", "toc-chapter-title"⟩ :: more)
        (Node.ofText title)) = { chapter with title := Text.trim title } := by
  have isTitle :
      (Node.classWords "toc-chapter-title").contains "toc-chapter-title" =
        true := by
    decide
  rw [Node.addTo, hasClass_class, isTitle, if_pos rfl, Node.label,
    Node.textContent, allTextContent_ofText]

private theorem addTo_sections (chapter : ContentsChapter) (expanded : Bool)
    (links : List ContentsLink) :
    Node.addTo chapter
      (.element ⟨.html, "ul"⟩ [⟨"class", sectionClasses expanded⟩]
        (links.map ContentsLink.node)) =
        { chapter with
          links := chapter.links ++ links.map ContentsLink.readBack,
            expanded } := by
  have classes :
      ∀ name,
        name ∈ ["toc-chapter-title", "toc-link", "toc-sections", "hidden"] →
          (Node.classWords (sectionClasses expanded)).contains name =
            (name == "toc-sections" || (name == "hidden" && !expanded)) := by
    cases expanded <;> decide
  rw [Node.addTo, hasClass_class, hasClass_class, hasClass_class,
    hasClass_class, classes "toc-chapter-title" (by decide),
    classes "toc-link" (by decide), classes "toc-sections" (by decide),
    classes "hidden" (by decide), addAllTo_links]
  cases expanded <;> rfl

private theorem chapters_node (chapter : ContentsChapter) :
    Node.chapters chapter.node = [chapter.readBack] := by
  obtain ⟨title, links, expanded⟩ := chapter
  have isChapter :
      (Node.classWords "toc-chapter").contains "toc-chapter" = true := by decide
  rw [ContentsChapter.node, Node.chapters, hasClass_plain,
    if_neg Bool.false_ne_true, Node.allChapters, Node.allChapters,
    Node.chapters, hasClass_class, isChapter, if_pos rfl, Node.addAllTo,
    addTo_title, Node.addAllTo, addTo_sections, Node.addAllTo]
  rfl

private theorem allChapters_nodes (chapters : List ContentsChapter) :
    Node.allChapters (chapters.map ContentsChapter.node) =
      chapters.map ContentsChapter.readBack := by
  induction chapters with
  | nil => rfl
  | cons chapter chapters induction =>
      rw [List.map_cons, Node.allChapters, chapters_node, induction,
        List.map_cons, List.singleton_append]

private theorem chapters_contents (contents : Contents) :
    Node.chapters contents.node =
      contents.chapters.map ContentsChapter.readBack := by
  have noChapter :
      (Node.classWords "toc").contains "toc-chapter" = false := by decide
  rw [Contents.node, Node.chapters, hasClass_class, noChapter,
    if_neg Bool.false_ne_true, allChapters_nodes]

private theorem allChapters_document (nodes : List Node) :
    Node.allChapters
      [.element ⟨.html, "html"⟩ [] [.element ⟨.html, "head"⟩ [] [],
        .element ⟨.html, "body"⟩ [] nodes]] = Node.allChapters nodes := by
  simp [Node.allChapters, Node.chapters, hasClass_plain]

/-- A table of contents is read back from its tree as it is written. -/
theorem Contents.parse_writeAll_node {contents : Contents}
    (clean : contents.IsClean) :
    Contents.parse (String.ofList (Node.writeAll [contents.node])) =
      contents.readBack := by
  have document :
      Html.parse (String.ofList (Node.writeAll [contents.node])) = _ :=
    Html.parse_writeAll (areReadable clean)
  rw [Contents.parse, document, Contents.ofDocument, allChapters_document,
    Node.allChapters, Node.allChapters, ← Contents.node, chapters_contents,
    List.append_nil, Contents.readBack]

/-- A table of contents is read back from its markup, when no text in it has a
character that reading changes. -/
theorem Contents.parse_markup (contents : Contents) (clean : contents.IsClean) :
    Contents.parse contents.markup = contents.readBack := by
  rw [contents.markup_eq_write]
  exact parse_writeAll_node clean

/-- Quotes, references, tags and blanks in the texts of a table of contents. -/
theorem Contents.parse_markup_quoted :
    Contents.parse (Contents.markup
      ⟨[⟨" \"A\" & <b> ", [⟨"1 &lt; 2\n", "/en/?a=1&copy=2", true⟩], false⟩,
        ⟨"", [], true⟩]⟩) =
        ⟨[⟨"\"A\" & <b>", [⟨"1 &lt; 2", "/en/?a=1&copy=2", false⟩], false⟩,
          ⟨"", [], true⟩]⟩ :=
  (Contents.parse_markup _ (by decide)).trans (by decide)

end LessonSite
