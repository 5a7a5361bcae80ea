import LessonSite.Contents.Reader
import LessonSite.Proofs.Contents.Markup
import LessonSite.Proofs.Markdown.ListingMarkup
import LessonSite.Proofs.Site.Lookup
import LessonSite.Proofs.Site.Publication
import LessonSite.Proofs.Tour.Layout
import LessonSite.Proofs.Url.Escaped
import Mathlib.Data.List.Forall2

/-!
# The page with the table of contents

The text of the page is written in Markdown with the names of chapters and
lessons in it as they are.  Where these names mean nothing else in Markdown, the
page shows just the table of contents: a heading for each chapter with the links
to its lessons below it.  Where they do mean something else, it may not.
-/

namespace LessonSite

open Markdown (AreLiteral IsHeadingText IsTarget addressSet)

namespace Html

def Node.isBlankText : Node → Bool
  | .element .. => false
  | .text content => content.toList.all isSpace

/-- The nodes without the blanks between them. -/
def solid (nodes : List Node) : List Node :=
  nodes.filter fun node => !node.isBlankText

end Html

open Html (Node solid)

/-- The item is a link with the name of the lesson that leads where the address
of the lesson does. -/
def Lesson.IsListedBy (lesson : Lesson) (item : Node) : Prop :=
  ∃ address : String,
    item =
        .element ⟨.html, "li"⟩ []
          [.element ⟨.html, "a"⟩ [⟨"href", address⟩]
            (Node.ofText lesson.lesson)] ∧
      ∀ base : Url, base.IsWeb → base.join address = base.join lesson.href

/-- The nodes are a heading with the name of the chapter and a list of its
lessons. -/
def Chapter.IsListedBy (chapter : Chapter) (nodes : List Node) : Prop :=
  ∃ items,
    nodes =
        [.element ⟨.html, "h2"⟩ [] (Node.ofText chapter.name),
          .element ⟨.html, "ul"⟩ [] items] ∧
      List.Forall₂ Lesson.IsListedBy chapter.lessons (solid items)

/-- The document has the title as its heading, below it the chapters with their
lessons, and nothing else. -/
def ShowsContents (title : String) (chapters : List Chapter)
    (document : List Node) : Prop :=
  ∃ body sections,
    document = [.element ⟨.html, "html"⟩ [] [.element ⟨.html, "head"⟩ [] [],
        .element ⟨.html, "body"⟩ [] body]] ∧
      solid body =
        .element ⟨.html, "h1"⟩ [] (Node.ofText title) :: sections.flatten ∧
        List.Forall₂ Chapter.IsListedBy chapters sections

/-- In Markdown the title and the names of the chapters and lessons mean nothing
but themselves, and so do the addresses of the lessons where they are targets of
links. -/
structure LocaleTour.IsLiteral (part : LocaleTour) (title : String) : Prop where
  title : IsHeadingText title.toList
  chapters : ∀ chapter ∈ part.chapters, IsHeadingText chapter.name.toList
  lessons : ∀ lesson ∈ part.lessons, AreLiteral lesson.lesson.toList
  targets : ∀ lesson ∈ part.lessons, IsTarget lesson.href.toList
  spares : ∀ lesson ∈ part.lessons, Url.Spares addressSet lesson.href.toList

/-- The chapter as a section of a listing. -/
def Chapter.listed (chapter : Chapter) : Markdown.Section where
  heading := chapter.name.toList
  links :=
    chapter.lessons.map fun lesson => (lesson.lesson.toList, lesson.href.toList)

theorem toList_contentsMarkdown (title : String) (chapters : List Chapter) :
    (contentsMarkdown title chapters).toList =
      Markdown.listingText title.toList (chapters.map Chapter.listed) := by
  have items : ∀ lessons : List Lesson, lessons.flatMap (fun lesson =>
      ("- [" ++ lesson.lesson ++ "](" ++ lesson.href ++ ")\n").toList) =
        (lessons.map fun lesson =>
          (lesson.lesson.toList, lesson.href.toList)).flatMap
          Markdown.itemText := by
    intro lessons
    rw [List.flatMap_map]
    congr 1
    funext lesson
    simp [Markdown.itemText, Markdown.linkText]
  rw [contentsMarkdown, String.toList_append, String.toList_join,
    List.flatMap_map, Markdown.listingText, List.flatMap_map]
  have sections :
      (fun chapter : Chapter => ("\n## " ++ chapter.name ++ "\n\n" ++
        String.join (chapter.lessons.map fun lesson =>
          "- [" ++ lesson.lesson ++ "](" ++ lesson.href ++ ")\n")).toList) =
        fun chapter => chapter.listed.text := by
    funext chapter
    have lessons := items chapter.lessons
    rw [String.toList_append, String.toList_join, List.flatMap_map, lessons]
    simp [Markdown.Section.text, Chapter.listed]
  rw [sections]
  simp

namespace Lesson.IsNamed

variable {lesson : Lesson} {locale : Locale}

/-- The address of a lesson begins with a single slash. -/
theorem exists_href (named : lesson.IsNamed locale) :
    ∃ rest, lesson.href.toList = '/' :: rest ∧ rest.head? ≠ some '/' := by
  have nonempty : lesson.slug ≠ "" := by
    rw [named.slug_eq]
    exact joinNames_ne_empty (by simp) named.isSegment
  have relative : Text.startsWith "/" lesson.slug = false := by
    rw [named.slug_eq]
    exact joinNames_relative named.isSegment
  have notNil : lesson.slug.toList ≠ [] := by simpa using nonempty
  obtain ⟨first, others, text⟩ := List.exists_cons_of_ne_nil notNil
  refine ⟨first :: (others ++ "/index.html".toList), ?_, ?_⟩
  · rw [href, pageHref, fileIn, if_neg nonempty]
    simp [text]
  · rintro same
    rw [← Bool.not_eq_true, Text.startsWith_iff] at relative
    refine relative ⟨others, ?_⟩
    rw [text, Option.some.inj same]
    rfl

end Lesson.IsNamed

theorem Lesson.isListedBy_itemNode {lesson : Lesson} {locale : Locale}
    (named : lesson.IsNamed locale)
    (isTarget : IsTarget lesson.href.toList)
    (spares : Url.Spares addressSet lesson.href.toList) :
    lesson.IsListedBy
      (Markdown.itemNode (lesson.lesson.toList, lesson.href.toList)) := by
  refine ⟨String.ofList (Url.escape addressSet lesson.href.toList), ?_, ?_⟩
  · rw [Markdown.itemNode, String.ofList_toList]
  · intro base isWeb
    obtain ⟨rest, text, single⟩ := named.exists_href
    have whole : lesson.href = String.ofList ('/' :: rest) := by
      rw [← text, String.ofList_toList]
    have noBackslash :=
      isTarget.literal.not_mem (show Markdown.isLiteral '\\' = false by decide)
    have shown := isTarget.solid
    rw [text] at spares noBackslash shown ⊢
    rw [whole]
    exact isWeb.join_escape (by decide)
      (List.not_mem_of_not_mem_cons noBackslash)
      (List.forall_mem_cons.mp shown).2 single
      (spares.sublist fun character => List.mem_cons_of_mem _)

theorem solid_items (links : List (List Char × List Char)) :
    solid
        (.text "\n" ::
          links.flatMap fun link => [Markdown.itemNode link, .text "\n"]) =
      links.map Markdown.itemNode := by
  have feed : (Node.text "\n").isBlankText = true := by decide
  rw [solid, List.filter_cons_of_neg (by simp [feed]), List.filter_flatMap]
  induction links with
  | nil => rfl
  | cons link links induction =>
      rw [List.flatMap_cons, induction, List.map_cons]
      rfl

/-- The heading of a chapter and the list below it, as they are read back. -/
def Chapter.elements (chapter : Chapter) : List Node :=
  [.element ⟨.html, "h2"⟩ []
      (Node.ofText (String.ofList chapter.listed.heading)),
    .element ⟨.html, "ul"⟩ [] (.text "\n" ::
      chapter.listed.links.flatMap fun link =>
        [Markdown.itemNode link, .text "\n"])]

theorem solid_listingNodes (title : String) (chapters : List Chapter) :
    solid (Markdown.listingNodes title.toList (chapters.map Chapter.listed)) =
      .element ⟨.html, "h1"⟩ [] (Node.ofText title) ::
        (chapters.map Chapter.elements).flatten := by
  have sections :
      solid ((chapters.map Chapter.listed).flatMap Markdown.Section.nodes) =
        (chapters.map Chapter.elements).flatten := by
    rw [solid, List.filter_flatMap, List.flatMap_map, ← List.flatMap_def]
    rfl
  rw [← sections, Markdown.listingNodes, String.ofList_toList]
  rfl

theorem Chapter.isListedBy_elements {chapter : Chapter} {locale : Locale}
    (named : ∀ lesson ∈ chapter.lessons, lesson.IsNamed locale)
    (targets : ∀ lesson ∈ chapter.lessons, IsTarget lesson.href.toList)
    (spares : ∀ lesson ∈ chapter.lessons,
      Url.Spares addressSet lesson.href.toList) :
    chapter.IsListedBy chapter.elements := by
  refine ⟨_, by rw [elements, listed, String.ofList_toList], ?_⟩
  rw [solid_items, List.map_map, List.forall₂_map_right_iff, List.forall₂_same]
  intro lesson isLesson
  exact Lesson.isListedBy_itemNode (named lesson isLesson)
    (targets lesson isLesson) (spares lesson isLesson)

namespace LocaleTour.IsLiteral

variable {part : LocaleTour} {title : String}

theorem isPlain (literal : part.IsLiteral title)
    (titled : ∀ chapter ∈ part.chapters, chapter.IsTitled) :
    ∀ section_ ∈ part.chapters.map Chapter.listed, section_.IsPlain := by
  intro section_ member
  obtain ⟨chapter, isChapter, rfl⟩ := List.mem_map.mp member
  have inside : ∀ lesson ∈ chapter.lessons, lesson ∈ part.lessons :=
    fun lesson isLesson => List.mem_flatMap.mpr ⟨chapter, isChapter, isLesson⟩
  refine ⟨literal.chapters chapter isChapter, ?_, ?_, ?_⟩
  · simpa [Chapter.listed] using (titled chapter isChapter).nonempty
  · intro link isLink
    obtain ⟨lesson, isLesson, rfl⟩ := List.mem_map.mp isLink
    exact literal.lessons lesson (inside lesson isLesson)
  · intro link isLink
    obtain ⟨lesson, isLesson, rfl⟩ := List.mem_map.mp isLink
    exact literal.targets lesson (inside lesson isLesson)

end LocaleTour.IsLiteral

/-- Where the names of a scanned tour are literal, the page with the table of
contents of each locale shows the table of contents. -/
theorem Tour.contentsPage_showsContents {tree : FileTree}
    (proper : (FileNode.directory tree).IsProper)
    {source : String} {scanned config : Config} {tour : Tour}
    (read : Tour.read tree source scanned = .ok tour) {part : LocaleTour}
    (isPart : part ∈ tour.locales)
    (literal : part.IsLiteral (config.locale part.locale).tocTitle) :
    ShowsContents (config.locale part.locale).tocTitle part.chapters
      (Html.parse
        ((part.frame config).contentsPage part.chapters).markdownHtml) := by
  have titled := Tour.isTitled_of_read read part isPart
  obtain ⟨-, -, -, -, -, named⟩ := Tour.read_eq_ok proper read
  have text :
      contentsMarkdown (config.locale part.locale).tocTitle part.chapters =
        String.ofList
          (Markdown.listingText (config.locale part.locale).tocTitle.toList
            (part.chapters.map Chapter.listed)) := by
    rw [← toList_contentsMarkdown, String.ofList_toList]
  have parsed :=
    Markdown.parse_render_listing literal.title (literal.isPlain titled)
  rw [← text] at parsed
  refine ⟨_, part.chapters.map Chapter.elements, parsed, solid_listingNodes _ _,
    ?_⟩
  rw [List.forall₂_map_right_iff, List.forall₂_same]
  intro chapter isChapter
  have inside : ∀ lesson ∈ chapter.lessons, lesson ∈ part.lessons :=
    fun lesson isLesson => List.mem_flatMap.mpr ⟨chapter, isChapter, isLesson⟩
  exact Chapter.isListedBy_elements
    (fun lesson isLesson => named part isPart lesson (inside lesson isLesson))
    (fun lesson isLesson => literal.targets lesson (inside lesson isLesson))
    (fun lesson isLesson => literal.spares lesson (inside lesson isLesson))

/-- The English part of the tour with two chapters. -/
def widePart : LocaleTour :=
  .ofChapters .en ("", "")
    [(⟨⟨1, "a"⟩, "1_a"⟩, [(⟨⟨1, "b"⟩, "1_b"⟩, "", "")]),
      (secondChapter.1, [(secondChapter.2, "", "")])]

theorem LocaleTour.isLiteral_widePart :
    widePart.IsLiteral (Config.stock.locale .en).tocTitle where
  title := by decide +kernel
  chapters := by decide +kernel
  lessons := by decide +kernel
  targets := by decide +kernel
  spares := by
    simp only [Url.Spares]
    decide +kernel

theorem Tour.contentsPage_showsContents_wideTour :
    (FileNode.directory (wideTree "2_e" "1_f")).IsProper ∧
      Tour.read (wideTree "2_e" "1_f") "tour" .stock =
        .ok (wideTour secondChapter.1 secondChapter.2) ∧
      widePart ∈ (wideTour secondChapter.1 secondChapter.2).locales ∧
      widePart.IsLiteral (Config.stock.locale .en).tocTitle ∧
      ShowsContents (Config.stock.locale .en).tocTitle widePart.chapters
        (Html.parse
          ((widePart.frame .stock).contentsPage
            widePart.chapters).markdownHtml) := by
  have proper : (FileNode.directory (wideTree "2_e" "1_f")).IsProper :=
    isProper_wideTree (by decide) (by decide)
  have read : Tour.read (wideTree "2_e" "1_f") "tour" .stock =
      .ok (wideTour secondChapter.1 secondChapter.2) :=
    @read_wideTree secondChapter (.inl rfl)
  have isPart : widePart ∈ (wideTour secondChapter.1 secondChapter.2).locales :=
    List.mem_cons_self
  exact ⟨proper, read, isPart, LocaleTour.isLiteral_widePart,
    Tour.contentsPage_showsContents proper read isPart
      LocaleTour.isLiteral_widePart⟩

namespace Html

/-- The text of a heading of the second level. -/
def Node.sectionHeading? : Node → Option String
  | .element ⟨.html, "h2"⟩ _ children => some (Node.allTextContent children)
  | _ => none

/-- The texts of the headings of the second level that stand right in the body
of a document. -/
def sectionHeadings : List Node → List String
  | [.element _ _ [_, .element _ _ body]] => body.filterMap Node.sectionHeading?
  | _ => []

theorem filterMap_sectionHeading?_solid (nodes : List Node) :
    (solid nodes).filterMap Node.sectionHeading? =
      nodes.filterMap Node.sectionHeading? := by
  rw [solid, List.filterMap_filter]
  refine List.filterMap_congr fun node _ => ?_
  cases node with
  | element => rfl
  | text => exact ite_self none

end Html

theorem Chapter.IsListedBy.sectionHeadings_eq {chapter : Chapter}
    {nodes : List Node}
    (listed : chapter.IsListedBy nodes) :
    nodes.filterMap Node.sectionHeading? = [chapter.name] := by
  obtain ⟨items, rfl, -⟩ := listed
  simp [Node.sectionHeading?, allTextContent_ofText]

/-- Where the table of contents is shown, the headings are the names of the
chapters. -/
theorem ShowsContents.sectionHeadings_eq {title : String}
    {chapters : List Chapter} {document : List Node}
    (shows : ShowsContents title chapters document) :
    Html.sectionHeadings document = chapters.map Chapter.name := by
  obtain ⟨body, sections, rfl, shown, listed⟩ := shows
  have headings :
      sections.flatten.filterMap Node.sectionHeading? =
        chapters.map Chapter.name := by
    clear shown
    induction listed with
    | nil => rfl
    | cons first _ induction => simp [induction, first.sectionHeadings_eq]
  rw [Html.sectionHeadings, ← Html.filterMap_sectionHeading?_solid, shown]
  simpa [Node.sectionHeading?] using headings

/-- A chapter with a tag in its name. -/
def genericChapter : NumberedDirectory :=
  ⟨⟨1, "Vec<T>"⟩, "1_Vec<T>"⟩

theorem Tour.read_smallTree_genericChapter :
    Tour.read (smallTree genericChapter.name) "tour" .stock =
      .ok (smallTour genericChapter) :=
  Tour.read_stock_eq_ok
    (LocaleTour.read_eq_single (eq_ok_of_toOption (by decide +kernel))
      (NumberedDirectory.list_eq_singleton rfl (by decide +kernel) rfl)
      (NumberedDirectory.list_eq_singleton rfl (by decide +kernel) rfl)
      (eq_ok_of_toOption (by decide +kernel)) .en)
    (LocaleTour.read_eq_single (eq_ok_of_toOption (by decide +kernel))
      (NumberedDirectory.list_eq_singleton rfl (by decide +kernel) rfl)
      (NumberedDirectory.list_eq_singleton rfl (by decide +kernel) rfl)
      (eq_ok_of_toOption (by decide +kernel)) .zh)

/-- The page with the table of contents has the heading `Vec` for the chapter
`Vec<T>`, as the rest of its name is read as a tag. -/
theorem Tour.not_showsContents_genericChapter :
    (FileNode.directory (smallTree genericChapter.name)).IsProper ∧
      Tour.read (smallTree genericChapter.name) "tour" .stock =
        .ok (smallTour genericChapter) ∧
        ∃ part ∈ (smallTour genericChapter).locales,
          ¬ ShowsContents (Config.stock.locale part.locale).tocTitle
            part.chapters
            (Html.parse
              ((part.frame .stock).contentsPage
                part.chapters).markdownHtml) := by
  have headings : ∃ part ∈ (smallTour genericChapter).locales,
      part.chapters.map Chapter.name = ["Vec<T>"] ∧ Html.sectionHeadings
        (Html.parse
          ((part.frame .stock).contentsPage part.chapters).markdownHtml) =
        ["Vec"] := by
    decide +kernel
  obtain ⟨part, isPart, named, heading⟩ := headings
  refine ⟨isProper_smallTree (by decide), Tour.read_smallTree_genericChapter,
    part, isPart, fun shows => ?_⟩
  have same := heading.symm.trans (shows.sectionHeadings_eq.trans named)
  exact absurd same (by decide)

end LessonSite
