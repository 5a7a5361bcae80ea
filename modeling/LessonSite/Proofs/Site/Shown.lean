import LessonSite.Client.BodyView
import LessonSite.Proofs.Contents.Markup
import LessonSite.Proofs.Markdown.Rendered
import LessonSite.Proofs.Site.Publication
import LessonSite.Proofs.Template.Builtin

/-!
# Pages as they are loaded

A page is loaded as the built-in template with the texts of the page in it, or
it takes the place of another one, text by text.  Titles and addresses stand in
the template as they are, so what is read there may be something else.
-/

namespace LessonSite

open Html (Attribute ArePlainNames Balanced HoldsClosing IsClean Node shownText
  shownTitle shownValue)

namespace Html

def titleText? (document : List Node) : Option String :=
  (Node.allTitles document).head?.map Node.textContent

/-- The first element with an id. -/
def elementWithId? (document : List Node) (id : String) : Option Node :=
  (Node.allNamed document).lookup id

/-- The text of the first element with an id. -/
def textWithId? (document : List Node) (id : String) : Option String :=
  (elementWithId? document id).map Node.textContent

/-- The address in the first element with an id. -/
def hrefWithId? (document : List Node) (id : String) : Option String :=
  (elementWithId? document id).bind (Node.attribute? "href")

end Html

/-- The texts of a page body that stand as plain text or as an address are those
in a document. -/
structure BodyView.IsShownBy (view : BodyView)
    (document : List Node) : Prop where
  title : Html.titleText? document = some view.title
  homepageText : Html.textWithId? document "homepage" = some view.homepageText
  localeText : Html.textWithId? document "locale-text" = some view.localeText
  lessonIndex : Html.textWithId? document "lesson-index" = some view.lessonIndex
  lessonTotal : Html.textWithId? document "lesson-total" = some view.lessonTotal
  homepageHref : Html.hrefWithId? document "homepage" = some view.homepageHref
  enHref : Html.hrefWithId? document "en-href" = some view.enHref
  zhHref : Html.hrefWithId? document "zh-href" = some view.zhHref

/-- The texts for the holes of a template. -/
def Page.fill (page : Page) (hole : Placeholder) : List Char :=
  (page.placeholders.value hole).toList

private theorem textContent_node (tag : Html.RawTag) (text : String) :
    (tag.node (Node.ofText text)).textContent = text :=
  allTextContent_ofText text

private theorem shownText_digits (number : Nat) :
    '<' ∉ (toString number).toList ∧
      shownText (toString number).toList = toString number := by
  have absent : ∀ character : Char, character.isDigit = false →
      character ∉ (toString number).toList := by
    intro character other member
    rw [toList_toString] at member
    exact Bool.noConfusion ((isDigit_of_mem_toDigits member).symm.trans other)
  exact ⟨absent '<' (by decide), Html.shownText_eq_self
    (Html.mayHoldReference_eq_false (absent '&' (by decide)))
    ⟨absent '\x00' (by decide), absent '\r' (by decide)⟩⟩

private theorem shownText_label (locale : Locale) :
    '<' ∉ locale.label.toList ∧
      shownText locale.label.toList = locale.label := by
  have plain : '<' ∉ locale.label.toList ∧
      Html.mayHoldReference locale.label.toList = false ∧
      IsClean locale.label := by
    cases locale <;> decide
  exact ⟨plain.1, Html.shownText_eq_self plain.2.1 plain.2.2⟩

/-- What is read of a page in the places of its texts. -/
def Page.loadedView (page : Page) : BodyView :=
  { BodyView.ofState page.routeState with
    title := shownTitle page.title.toList
    homepageText := shownText page.homePage.toList
    homepageHref := shownValue page.homePageHref.toList
    enHref := shownValue page.enHref.toList
    zhHref := shownValue page.zhHref.toList }

private theorem isShownBy_loadedView {page : Page}
    {document toc markdown back next code : List Node}
    (named : Node.allNamed document =
      Template.Builtin.named page.fill toc markdown back next code)
    (titles : Node.allTitles document = [(Template.Builtin.tag "title" []).node
      (Node.ofText (shownTitle (page.fill .title)))]) :
    page.loadedView.IsShownBy document := by
  have text : ∀ {id tag text}, (Node.allNamed document).lookup id =
      some (Html.RawTag.node tag (Node.ofText text)) →
    Html.textWithId? document id = some text := by
    intro id tag text found
    rw [Html.textWithId?, Html.elementWithId?, found, Option.map_some,
      textContent_node]
  have href : ∀ {id value children}, (Node.allNamed document).lookup id =
      some ((Template.Builtin.link id value).node children) →
        Html.hrefWithId? document id = some (shownValue value) := by
    intro id value children found
    rw [Html.hrefWithId?, Html.elementWithId?, found, Option.bind_some]
    rfl
  constructor
  case title =>
    rw [Html.titleText?, titles, List.head?_cons, Option.map_some,
      textContent_node]
    rfl
  case homepageText => exact text (by rw [named]; rfl)
  case localeText =>
    refine (text (by rw [named]; rfl)).trans (congrArg some ?_)
    exact (shownText_label page.locale).2
  case lessonIndex =>
    refine (text (by rw [named]; rfl)).trans (congrArg some ?_)
    exact (shownText_digits page.index).2
  case lessonTotal =>
    refine (text (by rw [named]; rfl)).trans (congrArg some ?_)
    exact (shownText_digits page.total).2
  case homepageHref => exact href (by rw [named]; rfl)
  case enHref => exact href (by rw [named]; rfl)
  case zhHref => exact href (by rw [named]; rfl)

/-- The texts of a page are what is read in their places. -/
structure Page.MeansItself (page : Page) : Prop where
  title : shownTitle page.title.toList = page.title
  homePage : shownText page.homePage.toList = page.homePage
  enHref : shownValue page.enHref.toList = page.enHref
  zhHref : shownValue page.zhHref.toList = page.zhHref

/-- A page whose texts stay where they are put is shown just if they are read as
they are. -/
theorem Page.isShownBy_iff {page : Page}
    (contained : Template.Builtin.IsContained page.fill)
    (plainHome : shownValue page.homePageHref.toList = page.homePageHref) :
    ∃ template, Template.builtin = .ok template ∧
      ((BodyView.ofState page.routeState).IsShownBy
        (Html.parse (template.render page.placeholders)) ↔
        page.MeansItself) := by
  obtain ⟨template, accepted, rendered⟩ := Template.Builtin.exists_template
  obtain ⟨toc, markdown, back, next, code, named, titles⟩ :=
    Template.Builtin.exists_named contained
  refine ⟨template, accepted, ?_⟩
  have loaded :
      page.loadedView.IsShownBy
        (Html.parse (template.render page.placeholders)) := by
    rw [rendered]
    exact isShownBy_loadedView named titles
  constructor
  · intro shown
    constructor
    case title => exact Option.some.inj (loaded.title.symm.trans shown.title)
    case homePage =>
      exact Option.some.inj (loaded.homepageText.symm.trans shown.homepageText)
    case enHref => exact Option.some.inj (loaded.enHref.symm.trans shown.enHref)
    case zhHref => exact Option.some.inj (loaded.zhHref.symm.trans shown.zhHref)
  · intro same
    have view : page.loadedView = BodyView.ofState page.routeState := by
      rw [Page.loadedView, same.title, same.homePage, plainHome, same.enHref,
        same.zhHref]
      rfl
    rw [← view]
    exact loaded

namespace Markup

/-- The names of the elements around the link to a neighbour, the innermost
first. -/
def neighbourPath : List String :=
  ["span", "footer", "section", "main", "body", "html"]

private theorem toList_link (href label : String) :
    (link href label).toList = Node.writeAll
      [.element ⟨.html, "a"⟩ [⟨"href", href⟩] (Node.ofText label)] := by
  delta link
  simp only [String.toList_append, escape, String.toList_ofList, Node.write,
    Node.writeAll, Html.writeAll_ofText, Html.openingTag, Html.closingTag,
    Attribute.write, List.flatMap_cons, List.flatMap_nil, List.append_assoc,
    List.cons_append, List.nil_append, List.append_nil]
  rfl

private theorem toList_disabledLink (label : String) :
    (disabledLink label).toList = Node.writeAll
      [.element ⟨.html, "span"⟩ [⟨"class", "text-zinc-500"⟩]
        (Node.ofText label)] := by
  delta disabledLink
  simp only [String.toList_append, escape, String.toList_ofList, Node.write,
    Node.writeAll, Html.writeAll_ofText, Html.openingTag, Html.closingTag,
    Attribute.write, List.flatMap_cons, List.flatMap_nil, List.append_assoc,
    List.cons_append, List.nil_append, List.append_nil]
  rfl

private theorem toList_codeBlock (code : String) :
    (codeBlock code).toList = Node.writeAll
      [.element ⟨.html, "pre"⟩ [⟨"class", "shiki"⟩]
        [.element ⟨.html, "code"⟩ [] (Node.ofText code)]] := by
  delta codeBlock
  simp only [String.toList_append, escape, String.toList_ofList, Node.write,
    Node.writeAll, Html.writeAll_ofText, Html.openingTag, Html.closingTag,
    Attribute.write, List.flatMap_cons, List.flatMap_nil, List.append_assoc,
    List.cons_append, List.nil_append, List.append_nil]
  rfl

theorem balanced_link (href label : String) :
    Balanced neighbourPath (link href label).toList := by
  have names : ArePlainNames ["href"] := by decide
  rw [toList_link]
  apply Balanced.runningTree (by decide) (by exact names) (by decide)
    (.link (by decide))
  · exact .writeAll_ofText (by decide) label
  · exact .nil

theorem balanced_disabledLink (label : String) :
    Balanced neighbourPath (disabledLink label).toList := by
  rw [toList_disabledLink]
  apply Balanced.runningTree (by decide) (by decide) (by decide)
    (.phrase (by decide))
  · exact .writeAll_ofText (by decide) label
  · exact .nil

theorem balanced_codeBlock (code : String) :
    Balanced ["div", "section", "main", "body", "html"]
      (codeBlock code).toList := by
  rw [toList_codeBlock]
  apply Balanced.tree (by decide) (by decide)
    (.preformatted (by decide) (by decide))
    (by exact fun _ _ member => (Option.some.inj member).symm)
  · apply Balanced.runningTree (by decide) (by decide) (by decide)
      (.formatting (by decide))
    · exact .writeAll_ofText (by decide) code
    · exact .nil
  · exact .nil

/-- A document with some trees in its body and nothing else. -/
def bodyOnly (nodes : List Node) : List Node :=
  [.element ⟨.html, "html"⟩ []
    [.element ⟨.html, "head"⟩ [] [], .element ⟨.html, "body"⟩ [] nodes]]

theorem parse_link {href label : String} (cleanHref : IsClean href)
    (cleanLabel : IsClean label) :
    Html.parse (link href label) =
      bodyOnly
        [.element ⟨.html, "a"⟩ [⟨"href", href⟩] (Node.ofText label)] := by
  have writable : Html.AreWritable [⟨"href", href⟩] :=
    ⟨List.forall_mem_singleton.mpr
        ⟨show Html.isName "href" = true by decide, cleanHref⟩,
      List.pairwise_singleton _ _⟩
  rw [← String.ofList_toList (s := link href label), toList_link]
  exact Html.parse_writeAll (.element (by decide) (.link (by decide)) writable
    (Html.areReadable_ofText _ cleanLabel) (.nil _))

theorem parse_disabledLink {label : String} (clean : IsClean label) :
    Html.parse (disabledLink label) =
      bodyOnly
        [.element ⟨.html, "span"⟩ [⟨"class", "text-zinc-500"⟩]
          (Node.ofText label)] := by
  rw [← String.ofList_toList (s := disabledLink label), toList_disabledLink]
  exact Html.parse_writeAll
    (.element (by decide) (.phrase (by decide)) (by decide)
      (Html.areReadable_ofText _ clean) (.nil _))

/-- The tag before a block of code. -/
def blockTag : Html.RawTag :=
  ⟨"pre", [⟨"class", "shiki".toList⟩], false⟩

/-- The tag before the code in its block. -/
def codeTag : Html.RawTag :=
  ⟨"code", [], false⟩

/-- A line feed at the start of the code is kept, since the tag before it is not
the one of the preformatted text. -/
theorem parse_codeBlock {code : String} (clean : IsClean code) :
    Html.parse (codeBlock code) =
      bodyOnly [.element ⟨.html, "pre"⟩ [⟨"class", "shiki"⟩]
        [.element ⟨.html, "code"⟩ [] (Node.ofText code)]] := by
  have written : (codeBlock code).toList = blockTag.markup ++
      (codeTag.markup ++
        (code.toList.flatMap escapeChar ++ (Html.closingTag "code" ++ [])) ++
        Html.closingTag "pre") := by
    delta codeBlock
    simp only [String.toList_append, escape, String.toList_ofList,
      List.append_assoc]
    rfl
  have noTag : '<' ∉ code.toList.flatMap escapeChar := fun member =>
    (Html.mem_escape member).1 rfl
  have text := Html.Stands.text
    (show Html.Construction.Flows ["code", "pre", "body", "html"] by decide)
    noTag
  have inside : Html.Stands ["pre", "body", "html"] [] _ _ :=
    .element (show codeTag.IsValid by decide) rfl
      (.running (by decide) (.formatting (by decide)))
      (fun other => absurd other (by decide)) text .nil
  rw [Html.shownText_escape clean, Html.ofText_shownText_nil,
    List.nil_append] at inside
  have document :=
    Html.parse_element (show blockTag.IsValid by decide) rfl (by decide)
      (.preformatted (by decide) (by decide))
      (by exact fun _ _ member => (Option.some.inj member).symm) inside
  have attributes :
      blockTag.attributes.map Html.RawAttribute.shown = [⟨"class", "shiki"⟩] :=
    congrArg (fun value => [Attribute.mk "class" value])
      (Html.shownValue_eq_self (by decide) (by decide))
  rw [Html.RawTag.node, attributes] at document
  rw [← String.ofList_toList (s := codeBlock code), written]
  exact document

/-- What stands in the place of a code, an address or a label is read back as it
is, and nothing besides: no code, address or label leaves its element. -/
theorem parse_fragments {code href label : String} (cleanCode : IsClean code)
    (cleanHref : IsClean href) (cleanLabel : IsClean label) :
    Html.parse (codeBlock code) =
        bodyOnly [.element ⟨.html, "pre"⟩ [⟨"class", "shiki"⟩]
          [.element ⟨.html, "code"⟩ [] (Node.ofText code)]] ∧
      Html.parse (link href label) =
        bodyOnly [.element ⟨.html, "a"⟩ [⟨"href", href⟩] (Node.ofText label)] ∧
      Html.parse (disabledLink label) =
        bodyOnly
          [.element ⟨.html, "span"⟩ [⟨"class", "text-zinc-500"⟩]
            (Node.ofText label)] :=
  ⟨parse_codeBlock cleanCode, parse_link cleanHref cleanLabel,
    parse_disabledLink cleanLabel⟩

/-- A closing tag in a code, a quote in an address and a reference in a
label. -/
theorem parse_fragments_hostile :
    Html.parse (codeBlock "\n</code>&lt") =
        bodyOnly [.element ⟨.html, "pre"⟩ [⟨"class", "shiki"⟩]
          [.element ⟨.html, "code"⟩ [] [.text "\n</code>&lt"]]] ∧
      Html.parse (link "\"><b>" "&copy=1") =
        bodyOnly
          [.element ⟨.html, "a"⟩ [⟨"href", "\"><b>"⟩] [.text "&copy=1"]] ∧
      Html.parse (disabledLink "&copy=1") =
        bodyOnly
          [.element ⟨.html, "span"⟩ [⟨"class", "text-zinc-500"⟩]
            [.text "&copy=1"]] :=
  parse_fragments (by decide) (by decide) (by decide)

end Markup

/-- The texts of a page that its author gives stay where they are put. -/
structure Page.IsContained (page : Page) : Prop where
  title : ¬ HoldsClosing "title" page.title.toList
  homePage : '<' ∉ page.homePage.toList
  enHref : '"' ∉ page.enHref.toList
  zhHref : '"' ∉ page.zhHref.toList
  markdown :
    Balanced ["article", "section", "main", "body", "html"]
      page.markdownHtml.toList

namespace PageFrame

variable {frame : PageFrame}

private theorem balanced_nextLink (next : Option String) :
    Balanced Markup.neighbourPath (frame.nextLink next).toList := by
  cases next with
  | none => exact Markup.balanced_disabledLink _
  | some href => exact Markup.balanced_link _ _

private theorem plain_homeHref :
    '"' ∉ frame.homeHref.toList ∧
      shownValue frame.homeHref.toList = frame.homeHref := by
  have plain : '"' ∉ frame.homeHref.toList ∧
      Html.mayHoldReference frame.homeHref.toList = false ∧
      IsClean frame.homeHref := by
    rw [homeHref, homePath]
    cases frame.locale <;> decide
  exact ⟨plain.1, Html.shownValue_eq_self plain.2.1 plain.2.2⟩

private theorem isContained_page {path title markdown code back next : String}
    {index total : Nat}
    {contents : Contents} (toc : frame.toc = contents.markup)
    (isBack : Balanced Markup.neighbourPath back.toList)
    (isNext : Balanced Markup.neighbourPath next.toList)
    (contained : (frame.page path title markdown code back next index
      total).IsContained) :
    Template.Builtin.IsContained
      (frame.page path title markdown code back next index total).fill := by
  constructor
  case title => exact contained.title
  case homePageHref => exact plain_homeHref.1
  case homePage => exact contained.homePage
  case locale => exact (shownText_label frame.locale).1
  case enHref => exact contained.enHref
  case zhHref => exact contained.zhHref
  case toc =>
    change Balanced _ frame.toc.toList
    rw [toc]
    exact contents.balanced
  case markdown => exact contained.markdown
  case back => exact isBack
  case index => exact (shownText_digits index).1
  case total => exact (shownText_digits total).1
  case next => exact isNext
  case code => exact Markup.balanced_codeBlock code

end PageFrame

namespace LocaleTour.Makes

variable {part : LocaleTour} {config : Config} {page : Page}

private theorem isContained (made : part.Makes config page)
    (contained : page.IsContained) :
    Template.Builtin.IsContained page.fill := by
  cases made with
  | home first =>
      exact PageFrame.isContained_page rfl (Markup.balanced_disabledLink _)
        (PageFrame.balanced_nextLink _) contained
  | lesson member previous next =>
      exact PageFrame.isContained_page rfl (Markup.balanced_link _ _)
        (PageFrame.balanced_nextLink _) contained
  | contents =>
      exact PageFrame.isContained_page rfl (Markup.balanced_disabledLink _)
        (PageFrame.balanced_nextLink _) contained

private theorem plain_homePageHref (made : part.Makes config page) :
    shownValue page.homePageHref.toList = page.homePageHref := by
  cases made with
  | home first => exact PageFrame.plain_homeHref.2
  | lesson member previous next => exact PageFrame.plain_homeHref.2
  | contents => exact PageFrame.plain_homeHref.2

theorem isShownBy_iff (made : part.Makes config page)
    (contained : page.IsContained) :
    ∃ template, Template.builtin = .ok template ∧
      ((BodyView.ofState page.routeState).IsShownBy
        (Html.parse (template.render page.placeholders)) ↔ page.MeansItself) :=
  page.isShownBy_iff (made.isContained contained) made.plain_homePageHref

end LocaleTour.Makes

/-- A page of a tour whose texts stay where they are put shows the same when it
is loaded as when it takes the place of another one, just if its title, the
label of its home page and its addresses in both languages are read as they
are. -/
theorem Tour.isShownBy_render_iff {tour : Tour} {config : Config}
    {pages : List Page}
    (paged : tour.pages config = .ok pages) {page : Page}
    (member : page ∈ pages) (contained : page.IsContained) :
    ∃ template, Template.builtin = .ok template ∧
      ((BodyView.ofState page.routeState).IsShownBy
        (Html.parse (template.render page.placeholders)) ↔
        page.MeansItself) := by
  obtain ⟨part, -, made⟩ := Tour.exists_makes paged member
  exact made.isShownBy_iff contained

/-- The stock settings with another English title. -/
def Config.titled (title : String) : Config :=
  { Config.stock with en := { LocaleConfig.english with title } }

/-- A tour is read by the directories of its locales and the names of its
programs. -/
theorem Tour.read_congr {tree : FileTree} {source : String}
    {config other : Config}
    (extension : config.codeExtension = other.codeExtension)
    (roots : ∀ locale,
      (config.locale locale).root = (other.locale locale).root) :
    Tour.read tree source config = Tour.read tree source other := by
  unfold Tour.read LocaleConfig.directory
  simp only [extension, roots]

private theorem read_titled (title : String) :
    Tour.read (smallTree plainChapter.name) "tour" (.titled title) =
      .ok (smallTour plainChapter) := by
  have stock : Tour.read (smallTree plainChapter.name) "tour" .stock =
      .ok (smallTour plainChapter) := read_smallTree (.inl rfl)
  rw [← stock]
  exact Tour.read_congr rfl fun locale => by cases locale <;> rfl

/-- The pages of the small tour with the given English title. -/
def titledPages (title : String) : List Page :=
  ((smallTour plainChapter).pages (.titled title)).toOption.getD []

theorem pages_titled {title : String} {page : Page}
    (member : page ∈ titledPages title) :
    (smallTour plainChapter).pages (.titled title) =
      .ok (titledPages title) := by
  unfold titledPages at *
  cases made : (smallTour plainChapter).pages (.titled title) with
  | ok pages => rfl
  | error fault =>
      rw [made] at member
      cases member

/-- The Markdown of the page with the table of contents of the small tour. -/
def titledContents : String :=
  "# Table of Contents\n\n## b\n\n- [a](/b/a/index.html)\n"

/-- A title with an ampersand that begins no reference, on the page with the
table of contents. -/
theorem Tour.isShownBy_render_ampersand :
    ∃ page ∈ titledPages "Q & A", page.title = "Table of Contents - Q & A" ∧
      (smallTour plainChapter).pages (.titled "Q & A") =
        .ok (titledPages "Q & A") ∧
      page.IsContained ∧ page.MeansItself ∧
      ∃ template, Template.builtin = .ok template ∧
        (BodyView.ofState page.routeState).IsShownBy
          (Html.parse (template.render page.placeholders)) := by
  obtain ⟨page, member, title, label, english, chinese, markdown⟩ :
      ∃ page ∈ titledPages "Q & A", page.title = "Table of Contents - Q & A" ∧
        page.homePage = "Q & A" ∧
        page.enHref = "/table-of-contents/index.html" ∧
          page.zhHref = "/zh/table-of-contents/index.html" ∧
          page.markdownHtml = Markdown.render titledContents := by
    decide +kernel
  have contained : page.IsContained := by
    constructor
    case title =>
      rw [title]
      exact Html.not_holdsClosing "title" (by decide)
    case homePage =>
      rw [label]
      decide
    case enHref =>
      rw [english]
      decide
    case zhHref =>
      rw [chinese]
      decide
    case markdown =>
      have tame : Markdown.IsTame titledContents := by decide +kernel
      rw [markdown]
      exact Markdown.balanced_render tame (by decide)
  have same : page.MeansItself := by
    constructor
    case title =>
      rw [title]
      exact Html.shownTitle_eq_self (by decide) (by decide)
    case homePage =>
      rw [label]
      exact Html.shownText_eq_self (by decide) (by decide)
    case enHref =>
      rw [english]
      exact Html.shownValue_eq_self (by decide) (by decide)
    case zhHref =>
      rw [chinese]
      exact Html.shownValue_eq_self (by decide) (by decide)
  obtain ⟨template, accepted, shown⟩ :=
    Tour.isShownBy_render_iff (pages_titled member) member contained
  exact ⟨page, member, title, pages_titled member, contained, same, template,
    accepted, shown.mpr same⟩

/-- A title that is written like an escaped one is not what is read. -/
theorem Tour.not_isShownBy_escaped :
    Tour.read (smallTree plainChapter.name) "tour" (.titled "1 &lt; 2") =
        .ok (smallTour plainChapter) ∧
      (Config.titled "1 &lt; 2").fault? = none ∧
      ∃ pages, (smallTour plainChapter).pages (.titled "1 &lt; 2") = .ok pages ∧
        ∃ page ∈ pages, ∃ template, Template.builtin = .ok template ∧
          ¬ (BodyView.ofState page.routeState).IsShownBy
            (Html.parse (template.render page.placeholders)) := by
  obtain ⟨page, member, title, noMark, english, chinese, empty⟩ :
      ∃ page ∈ titledPages "1 &lt; 2",
        page.title = "1 &lt; 2" ∧ '<' ∉ page.homePage.toList ∧
          '"' ∉ page.enHref.toList ∧ '"' ∉ page.zhHref.toList ∧
          page.markdownHtml = "" := by
    decide +kernel
  have contained : page.IsContained := by
    refine ⟨?_, noMark, english, chinese, ?_⟩
    · rw [title]
      exact Html.not_holdsClosing "title" (by decide)
    · rw [empty]
      exact .nil
  have paged := pages_titled member
  obtain ⟨part, -, made⟩ := Tour.exists_makes paged member
  obtain ⟨template, accepted, shown⟩ := made.isShownBy_iff contained
  refine ⟨read_titled _, by decide +kernel, _, paged, page, member, template,
    accepted, ?_⟩
  intro isShown
  have same := (shown.mp isShown).title
  have meant : shownTitle (Markup.escape "1 < 2").toList = "1 < 2" :=
    Html.shownTitle_escape (by decide)
  have escaped : Markup.escape "1 < 2" = "1 &lt; 2" := by decide
  rw [title, ← escaped, meant] at same
  exact absurd same (by decide)

end LessonSite
