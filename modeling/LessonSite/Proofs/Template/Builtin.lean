import LessonSite.Proofs.Html.WholeDocument
import LessonSite.Template.Builtin

/-!
# The built-in template as a document

The built-in template, its holes filled with any texts, is a whole document:
elements within elements, with the texts inside some of them and in the values
of some attributes.
-/

namespace LessonSite.Template.Builtin

open Html (Balanced HoldsClosing Marked Node RawTag Stands Titled
  closingTag documentEnd documentStart shownText shownTitle shownValue)
open Html.Construction (Flows Opens isBlockTag)

/-- An opening tag with the given attributes. -/
def tag (name : String) (attributes : List (String × List Char)) : RawTag :=
  ⟨name, attributes.map fun entry => ⟨entry.1, entry.2⟩, false⟩

def plain (name value : String) : RawTag :=
  tag name [("class", value.toList)]

def label (id : String) : RawTag :=
  tag "span" [("id", id.toList)]

def link (id : String) (href : List Char) : RawTag :=
  tag "a" [("id", id.toList), ("href", href)]

def area (name id value : String) : RawTag :=
  tag name [("id", id.toList), ("class", value.toList)]

def tocButton : RawTag :=
  tag "button" [("id", "toc-button".toList), ("type", "button".toList),
    ("aria-label", "Table of contents".toList)]

/-- An element and what comes after it. -/
def element (tag : RawTag) (inside rest : List Char) : List Char :=
  tag.markup ++ (inside ++ (closingTag tag.name ++ rest))

variable (fill : Placeholder → List Char)


def head : List Char :=
  "\n  ".toList ++ ((tag "meta" [("charset", "UTF-8".toList)]).markup ++
    ("\n  ".toList ++ ((tag "meta" [("name", "viewport".toList),
        ("content", "width=device-width, initial-scale=1.0".toList)]).markup ++
      ("\n  ".toList ++
        ((tag "title" []).markup ++ (fill .title ++ (closingTag "title" ++
          ("\n  ".toList ++ ((tag "link" [("rel", "stylesheet".toList),
              ("href", "/tour.css".toList)]).markup ++
            ("\n  ".toList ++ ((tag "script" [("type", "module".toList),
                ("src", "/tour.js".toList)]).markup ++
              (closingTag "script" ++ ['\n']))))))))))))

def titleBar : List Char :=
  "\n      ".toList ++ element tocButton "&#9776;".toList
    ("\n      ".toList ++
      element (link "homepage" (fill .homePageHref)) (fill .homePage)
        "\n    ".toList)

def localeSwitcher : List Char :=
  "\n      ".toList ++ element (label "locale-text") (fill .locale)
    ("\n      ".toList ++
      element (link "en-href" (fill .enHref)) "English".toList
        ("\n      ".toList ++
          element (link "zh-href" (fill .zhHref)) "中文".toList "\n    ".toList))

def header : List Char :=
  "\n    ".toList ++
    element (plain "div" "flex items-center gap-3") (titleBar fill)
      ("\n    ".toList ++
        element (plain "div" "locale-switcher") (localeSwitcher fill)
          "\n  ".toList)

def counter : List Char :=
  element (label "lesson-index") (fill .index)
    (" / ".toList ++ element (label "lesson-total") (fill .total) [])

def footer : List Char :=
  "\n        ".toList ++ element (label "nav-back") (fill .back)
    ("\n        ".toList ++ element (tag "span" []) (counter fill)
      ("\n        ".toList ++
        element (label "nav-next") (fill .next) "\n      ".toList))

def reading : List Char :=
  "\n      ".toList ++
    element (area "article" "tour-content" "markdown-body") (fill .markdown)
      ("\n      ".toList ++
        element
          (plain "footer" "mt-auto flex items-center justify-between pt-4")
          (footer fill) "\n    ".toList)

def workbench : List Char :=
  "\n      ".toList ++
    element (area "div" "editor" "flex-1 overflow-auto") (fill .code)
      ("\n      ".toList ++
        element (area "pre" "output" "h-1/3 overflow-auto border-t p-2") []
          "\n    ".toList)

def columns : List Char :=
  "\n    ".toList ++
    element (plain "section" "flex w-1/2 flex-col overflow-auto p-6")
      (reading fill)
      ("\n    ".toList ++
        element (plain "section" "flex w-1/2 flex-col") (workbench fill)
          "\n  ".toList)

def body : List Char :=
  "\n  ".toList ++
    element
      (plain "header" "flex items-center justify-between border-b px-4 py-2")
      (header fill)
      ("\n  ".toList ++ element (area "nav" "toc" "hidden") (fill .toc)
        ("\n  ".toList ++
          element (plain "main" "flex flex-1 overflow-hidden") (columns fill)
            ['\n']))

def document : List Char :=
  documentStart ++ (head fill ++ (closingTag "head" ++ (['\n'] ++
    ((plain "body" "flex h-screen flex-col").markup ++
      (body fill ++ documentEnd)))))

/-- A text that starts at a place, its holes, and the text with them filled. -/
private inductive Filled (filling : Filling) :
    Nat → List Char → List Slot → List Char → Prop where
  | done {cursor : Nat} {text : List Char} : Filled filling cursor text [] text
  | text {cursor : Nat} {piece text result : List Char} {slots : List Slot}
      (others : Filled filling (cursor + piece.length) text slots result) :
      Filled filling cursor (piece ++ text) slots (piece ++ result)
  | hole {cursor : Nat} {hole : Placeholder} {text result : List Char}
      {slots : List Slot}
      (others : Filled filling (cursor + hole.token.length) text slots result) :
      Filled filling cursor (hole.token.toList ++ text)
        (⟨cursor, hole⟩ :: slots) ((filling.value hole).toList ++ result)

variable {filling : Filling} {cursor : Nat} {rest result : List Char}
  {slots : List Slot}

private theorem Filled.le_offset
    (filled : Filled filling cursor rest slots result) :
    ∀ slot ∈ slots.head?, cursor ≤ slot.offset := by
  induction filled with
  | done => exact fun _ none => nomatch none
  | text others induction =>
      exact fun slot member =>
        Nat.le_trans (Nat.le_add_right _ _) (induction slot member)
  | hole others induction =>
      intro slot member
      cases member
      exact Nat.le_refl _

private theorem renderFrom_piece {text piece : List Char}
    (here : text.drop cursor = piece ++ rest)
    (late : ∀ slot ∈ slots.head?, cursor + piece.length ≤ slot.offset) :
    renderFrom text filling cursor slots =
      piece ++ renderFrom text filling (cursor + piece.length) slots := by
  have after : text.drop (cursor + piece.length) = rest := by
    rw [← List.drop_drop, here, List.drop_left]
  cases slots with
  | nil => rw [renderFrom, renderFrom, here, after]
  | cons slot slots =>
      obtain ⟨more, far⟩ := Nat.exists_eq_add_of_le (late slot rfl)
      have first : slot.offset - cursor = piece.length + more := by omega
      have second : slot.offset - (cursor + piece.length) = more := by omega
      rw [renderFrom, renderFrom, here, after, first, second,
        List.take_length_add_append, List.append_assoc, List.append_assoc,
        List.append_assoc]

private theorem Filled.render (filled : Filled filling cursor rest slots result)
    {text : List Char} (here : text.drop cursor = rest) :
    renderFrom text filling cursor slots = result := by
  induction filled with
  | done => exact here
  | @text cursor piece rest result slots others induction =>
      have after : text.drop (cursor + piece.length) = rest := by
        rw [← List.drop_drop, here, List.drop_left]
      rw [renderFrom_piece here others.le_offset, induction after]
  | @hole cursor hole rest result slots others induction =>
      have after : text.drop (cursor + hole.token.length) = rest := by
        rw [← List.drop_drop, here, ← String.length_toList, List.drop_left]
      rw [renderFrom, Nat.sub_self, List.take_zero, List.nil_append, Slot.stop,
        induction after]

private def holes : List Slot :=
  [⟨137, .title⟩, ⟨526, .homePageHref⟩, ⟨543, .homePage⟩, ⟨632, .locale⟩,
    ⟨676, .enHref⟩, ⟨727, .zhHref⟩, ⟨799, .toc⟩, ⟨971, .markdown⟩,
    ⟨1090, .back⟩, ⟨1142, .index⟩, ⟨1183, .total⟩, ⟨1233, .next⟩, ⟨1372, .code⟩]

private theorem text_eq :
    builtinText.toList = document fun hole => hole.token.toList := by
  unfold builtinText document head body header titleBar localeSwitcher columns
    reading footer counter workbench documentStart documentEnd
  simp only [String.toList_append]
  repeat rw [String.toList_ofList]
  decide +kernel

private theorem collectSlots_of_single {text : List Char} {slots : List Slot}
    (single : ∀ slot ∈ slots,
      occurrencesFrom slot.placeholder.token.toList 0 0 text = [slot.offset]) :
    collectSlots text (slots.map Slot.placeholder) = .ok slots := by
  induction slots with
  | nil => rfl
  | cons slot slots induction =>
      obtain ⟨first, others⟩ := List.forall_mem_cons.mp single
      rw [List.map_cons, collectSlots, slotsOf, first, induction others]
      rfl

private def found : List Slot :=
  [⟨137, .title⟩, ⟨799, .toc⟩, ⟨971, .markdown⟩, ⟨1372, .code⟩, ⟨1090, .back⟩,
    ⟨1233, .next⟩, ⟨1142, .index⟩, ⟨1183, .total⟩, ⟨632, .locale⟩,
    ⟨676, .enHref⟩, ⟨727, .zhHref⟩, ⟨543, .homePage⟩, ⟨526, .homePageHref⟩]

private theorem single_found : ∀ slot ∈ found,
    occurrencesFrom slot.placeholder.token.toList 0 0 builtinText.toList =
      [slot.offset] := by
  unfold builtinText
  simp only [String.toList_append]
  repeat rw [String.toList_ofList]
  decide +kernel

private theorem parse_of_collectSlots {text : String} {slots : List Slot}
    (collected : collectSlots text.toList Placeholder.all = .ok slots) :
    parse text = .ok ⟨text.toList, dropOverlaps 0 (sortSlots slots)⟩ := by
  rw [parse, collected]

private theorem builtin_eq : builtin = .ok ⟨builtinText.toList, holes⟩ :=
  parse_of_collectSlots (collectSlots_of_single single_found)

private theorem markup_link (id : String) (href rest : List Char) :
    (link id href).markup ++ rest = "<a id=\"".toList ++
      (id.toList ++
        ("\" href=\"".toList ++ (href ++ ("\">".toList ++ rest)))) := by
  simp [link, tag, RawTag.markup, Html.RawAttribute.markup, RawTag.ending]

private theorem filled : ∃ slots, slots = holes ∧
    Filled filling 0 (document fun hole => hole.token.toList) slots
      (document fun hole => (filling.value hole).toList) := by
  apply Exists.intro
  constructor
  case right =>
    unfold document head body header titleBar localeSwitcher columns reading
      footer counter workbench element
    simp only [markup_link, List.append_assoc]
    repeat first | apply Filled.text | apply Filled.hole
    exact .done
  case left =>
    decide +kernel

/-- The built-in template is accepted, and filled it is the document. -/
theorem exists_template :
    ∃ template, builtin = .ok template ∧ ∀ filling : Filling,
      template.render filling =
        String.ofList (document fun hole => (filling.value hole).toList) := by
  refine ⟨_, builtin_eq, fun filling => ?_⟩
  obtain ⟨slots, same, filled⟩ := @filled filling
  rw [text_eq, Template.render, ← same]
  exact congrArg String.ofList (filled.render rfl)

/-- The texts stay where they are put. -/
structure IsContained (fill : Placeholder → List Char) : Prop where
  title : ¬ HoldsClosing "title" (fill .title)
  homePageHref : '"' ∉ fill .homePageHref
  homePage : '<' ∉ fill .homePage
  locale : '<' ∉ fill .locale
  enHref : '"' ∉ fill .enHref
  zhHref : '"' ∉ fill .zhHref
  toc : Balanced ["nav", "body", "html"] (fill .toc)
  markdown :
    Balanced ["article", "section", "main", "body", "html"] (fill .markdown)
  back :
    Balanced ["span", "footer", "section", "main", "body", "html"] (fill .back)
  index : '<' ∉ fill .index
  total : '<' ∉ fill .total
  next :
    Balanced ["span", "footer", "section", "main", "body", "html"] (fill .next)
  code : Balanced ["div", "section", "main", "body", "html"] (fill .code)

variable {fill : Placeholder → List Char}

private theorem titled_head (contained : IsContained fill) :
    Titled (head fill)
      [(tag "title" []).node (Node.ofText (shownTitle (fill .title)))] := by
  apply Titled.empty (by decide) (by decide) (by decide) (by decide)
  apply Titled.empty (by decide) (by decide) (by decide) (by decide)
  apply Titled.title (by decide) (by decide) (by decide) rfl contained.title
  apply Titled.empty (by decide) (by decide) (by decide) (by decide)
  apply Titled.script (by decide) (by decide) (by decide) rfl
  exact .gap (by decide)

private theorem opens_block {path : List String} {name : String}
    (flows : Flows path)
    (block : isBlockTag name = true) (other : name ≠ "p") (apart : "p" ∉ path) :
    Opens path name :=
  .running flows (.block block other apart)

private theorem link_hasId {id : String}
    (plain : '"' ∉ id.toList ∧ Html.mayHoldReference id.toList = false)
    (clean : Html.IsClean id) {href : List Char} (unquoted : '"' ∉ href) :
    (link id href).HasId id := by
  refine ⟨⟨show Html.isName "a" = true by decide, ?_, ?_⟩, rfl, rfl, plain.2,
    clean⟩
  · intro entry member
    rcases List.mem_cons.mp member with rfl | member
    · exact ⟨show Html.isName "id" = true by decide, plain.1⟩
    · cases List.mem_singleton.mp member
      exact ⟨show Html.isName "href" = true by decide, unquoted⟩
  · exact List.pairwise_pair.mpr (show "id" ≠ "href" by decide)

private theorem marked_titleBar (contained : IsContained fill) :
    Marked ["div", "header", "body", "html"] [] (titleBar fill)
      [("toc-button",
          tocButton.node (Node.ofText (shownText "&#9776;".toList))),
        ("homepage", (link "homepage" (fill .homePageHref)).node
          (Node.ofText (shownText (fill .homePage))))] := by
  apply Marked.run (by decide) (by decide)
  apply Marked.caption (by decide)
    (.running (by decide) (.button (by decide))) (by decide)
    (by decide) (by decide)
  apply Marked.run (by decide) (by decide)
  apply Marked.caption
    (link_hasId (by decide) (by decide) contained.homePageHref)
    (.running (by decide) (.link (by decide))) (show "a" ≠ "pre" by decide)
    (show Flows ("a" :: _) by decide) contained.homePage
  exact .last (by decide) (by decide)

private theorem marked_localeSwitcher (contained : IsContained fill) :
    Marked ["div", "header", "body", "html"] [] (localeSwitcher fill)
      [("locale-text",
          (label "locale-text").node (Node.ofText (shownText (fill .locale)))),
        ("en-href", (link "en-href" (fill .enHref)).node
          (Node.ofText (shownText "English".toList))),
        ("zh-href", (link "zh-href" (fill .zhHref)).node
          (Node.ofText (shownText "中文".toList)))] := by
  apply Marked.run (by decide) (by decide)
  apply Marked.caption (by decide)
    (.running (by decide) (.phrase (by decide))) (by decide)
    (by decide) contained.locale
  apply Marked.run (by decide) (by decide)
  apply Marked.caption (link_hasId (by decide) (by decide) contained.enHref)
    (.running (by decide) (.link (by decide))) (show "a" ≠ "pre" by decide)
    (show Flows ("a" :: _) by decide) (by decide)
  apply Marked.run (by decide) (by decide)
  apply Marked.caption (link_hasId (by decide) (by decide) contained.zhHref)
    (.running (by decide) (.link (by decide))) (show "a" ≠ "pre" by decide)
    (show Flows ("a" :: _) by decide) (by decide)
  exact .last (by decide) (by decide)

private theorem marked_header {first second : List (String × Node)}
    (titleBarMarked : Marked ["div", "header", "body", "html"] []
      (titleBar fill) first)
    (switcherMarked : Marked ["div", "header", "body", "html"] []
      (localeSwitcher fill) second) :
    Marked ["header", "body", "html"] [] (header fill) (first ++ second) := by
  apply Marked.run (by decide) (by decide)
  apply Marked.element (by decide)
    (opens_block (by decide) (by decide) (by decide) (by decide)) (by decide)
    titleBarMarked
  rw [← List.append_nil second]
  apply Marked.run (by decide) (by decide)
  apply Marked.element (by decide)
    (opens_block (by decide) (by decide) (by decide) (by decide)) (by decide)
    switcherMarked
  exact .last (by decide) (by decide)

private theorem marked_counter (contained : IsContained fill) :
    Marked ["span", "footer", "section", "main", "body", "html"] []
      (counter fill)
      [("lesson-index",
          (label "lesson-index").node (Node.ofText (shownText (fill .index)))),
        ("lesson-total",
          (label "lesson-total").node
            (Node.ofText (shownText (fill .total))))] := by
  apply Marked.caption (by decide)
    (.running (by decide) (.phrase (by decide))) (by decide)
    (by decide) contained.index
  apply Marked.run (by decide) (by decide)
  apply Marked.caption (by decide)
    (.running (by decide) (.phrase (by decide))) (by decide)
    (by decide) contained.total
  exact .nil

private theorem marked_footer {back next : List Node}
    {inCounter : List (String × Node)}
    (backStands : Stands ["span", "footer", "section", "main", "body", "html"]
      [] (fill .back) back)
    (backUnmarked : Node.AreUnmarked back)
    (nextStands : Stands ["span", "footer", "section", "main", "body", "html"]
      [] (fill .next) next)
    (nextUnmarked : Node.AreUnmarked next)
    (counterMarked : Marked
      ["span", "footer", "section", "main", "body", "html"] []
      (counter fill) inCounter) :
    Marked ["footer", "section", "main", "body", "html"] [] (footer fill)
      (("nav-back", (label "nav-back").node back) ::
        (inCounter ++ [("nav-next", (label "nav-next").node next)])) := by
  apply Marked.run (by decide) (by decide)
  apply Marked.label (by decide) (.running (by decide) (.phrase (by decide)))
    (fun same => absurd same (by decide)) backStands backUnmarked
  apply Marked.run (by decide) (by decide)
  apply Marked.element (by decide)
    (.running (by decide) (.phrase (by decide))) (by decide) counterMarked
  apply Marked.run (by decide) (by decide)
  apply Marked.label (by decide) (.running (by decide) (.phrase (by decide)))
    (fun same => absurd same (by decide)) nextStands nextUnmarked
  exact .last (by decide) (by decide)

private theorem marked_reading {markdown : List Node}
    {inFooter : List (String × Node)}
    (stands : Stands ["article", "section", "main", "body", "html"] []
      (fill .markdown) markdown)
    (unmarked : Node.AreUnmarked markdown)
    (footerMarked : Marked ["footer", "section", "main", "body", "html"] []
      (footer fill) inFooter) :
    Marked ["section", "main", "body", "html"] [] (reading fill)
      (("tour-content",
          (area "article" "tour-content" "markdown-body").node markdown) ::
        inFooter) := by
  apply Marked.run (by decide) (by decide)
  apply Marked.label (by decide)
    (opens_block (by decide) (by decide) (by decide) (by decide))
    (fun same => absurd same (by decide)) stands unmarked
  rw [← List.append_nil inFooter]
  apply Marked.run (by decide) (by decide)
  apply Marked.element (by decide)
    (opens_block (by decide) (by decide) (by decide) (by decide))
    (by decide) footerMarked
  exact .last (by decide) (by decide)

private theorem marked_workbench {code : List Node}
    (stands : Stands ["div", "section", "main", "body", "html"] []
      (fill .code) code)
    (unmarked : Node.AreUnmarked code) :
    Marked ["section", "main", "body", "html"] [] (workbench fill)
      [("editor", (area "div" "editor" "flex-1 overflow-auto").node code),
        ("output", (area "pre" "output" "h-1/3 overflow-auto border-t p-2").node
          (Node.ofText (shownText [])))] := by
  apply Marked.run (by decide) (by decide)
  apply Marked.label (by decide)
    (opens_block (by decide) (by decide) (by decide) (by decide))
    (fun same => absurd same (by decide)) stands unmarked
  apply Marked.run (by decide) (by decide)
  apply Marked.label (by decide) (.preformatted (by decide) (by decide))
    (by decide) .nil ⟨Node.allNamed_ofText _, Node.allTitles_ofText _⟩
  exact .last (by decide) (by decide)

private theorem marked_columns {first second : List (String × Node)}
    (readingMarked : Marked ["section", "main", "body", "html"] []
      (reading fill) first)
    (workbenchMarked : Marked ["section", "main", "body", "html"] []
      (workbench fill) second) :
    Marked ["main", "body", "html"] [] (columns fill) (first ++ second) := by
  apply Marked.run (by decide) (by decide)
  apply Marked.element (by decide)
    (opens_block (by decide) (by decide) (by decide) (by decide))
    (by decide) readingMarked
  rw [← List.append_nil second]
  apply Marked.run (by decide) (by decide)
  apply Marked.element (by decide)
    (opens_block (by decide) (by decide) (by decide) (by decide))
    (by decide) workbenchMarked
  exact .last (by decide) (by decide)

private theorem marked_body {toc : List Node}
    {inHeader inColumns : List (String × Node)}
    (headerMarked : Marked ["header", "body", "html"] [] (header fill) inHeader)
    (stands : Stands ["nav", "body", "html"] [] (fill .toc) toc)
    (unmarked : Node.AreUnmarked toc)
    (columnsMarked : Marked ["main", "body", "html"] [] (columns fill)
      inColumns) :
    Marked ["body", "html"] [] (body fill)
      (inHeader ++
        ("toc", (area "nav" "toc" "hidden").node toc) :: inColumns) := by
  apply Marked.run (by decide) (by decide)
  apply Marked.element (by decide)
    (opens_block (by decide) (by decide) (by decide) (by decide))
    (by decide) headerMarked
  apply Marked.run (by decide) (by decide)
  apply Marked.label (by decide)
    (opens_block (by decide) (by decide) (by decide) (by decide))
    (fun same => absurd same (by decide)) stands unmarked
  rw [← List.append_nil inColumns]
  apply Marked.run (by decide) (by decide)
  apply Marked.element (by decide)
    (opens_block (by decide) (by decide) (by decide) (by decide))
    (by decide) columnsMarked
  exact .last (by decide) (by decide)

/-- The elements with an id, in the order of the document; what the larger ones
hold is given. -/
def named (fill : Placeholder → List Char)
    (toc markdown back next code : List Node) :
    List (String × Node) :=
  [("toc-button", tocButton.node (Node.ofText (shownText "&#9776;".toList))),
    ("homepage", (link "homepage" (fill .homePageHref)).node
      (Node.ofText (shownText (fill .homePage)))),
    ("locale-text",
      (label "locale-text").node (Node.ofText (shownText (fill .locale)))),
    ("en-href",
      (link "en-href" (fill .enHref)).node
        (Node.ofText (shownText "English".toList))),
    ("zh-href",
      (link "zh-href" (fill .zhHref)).node
        (Node.ofText (shownText "中文".toList))),
    ("toc", (area "nav" "toc" "hidden").node toc),
    ("tour-content",
      (area "article" "tour-content" "markdown-body").node markdown),
    ("nav-back", (label "nav-back").node back),
    ("lesson-index",
      (label "lesson-index").node (Node.ofText (shownText (fill .index)))),
    ("lesson-total",
      (label "lesson-total").node (Node.ofText (shownText (fill .total)))),
    ("nav-next", (label "nav-next").node next),
    ("editor", (area "div" "editor" "flex-1 overflow-auto").node code),
    ("output", (area "pre" "output" "h-1/3 overflow-auto border-t p-2").node
      (Node.ofText (shownText [])))]

private theorem exists_marked (contained : IsContained fill) :
    ∃ toc markdown back next code, Marked ["body", "html"] [] (body fill)
      (named fill toc markdown back next code) := by
  obtain ⟨toc, tocStands, tocUnmarked⟩ := contained.toc.exists_stands []
  obtain ⟨markdown, markdownStands, markdownUnmarked⟩ :=
    contained.markdown.exists_stands []
  obtain ⟨back, backStands, backUnmarked⟩ := contained.back.exists_stands []
  obtain ⟨next, nextStands, nextUnmarked⟩ := contained.next.exists_stands []
  obtain ⟨code, codeStands, codeUnmarked⟩ := contained.code.exists_stands []
  have headerMarked :=
    marked_header (marked_titleBar contained) (marked_localeSwitcher contained)
  have footerMarked :=
    marked_footer backStands backUnmarked nextStands nextUnmarked
      (marked_counter contained)
  have columnsMarked := marked_columns
    (marked_reading markdownStands markdownUnmarked footerMarked)
    (marked_workbench codeStands codeUnmarked)
  exact ⟨toc, markdown, back, next, code,
    marked_body headerMarked tocStands tocUnmarked columnsMarked⟩

/-- The title of the document and its elements with an id. -/
theorem exists_named (contained : IsContained fill) :
    ∃ toc markdown back next code,
      Node.allNamed (Html.parse (String.ofList (document fill))) =
        named fill toc markdown back next code ∧
      Node.allTitles (Html.parse (String.ofList (document fill))) =
        [(tag "title" []).node (Node.ofText (shownTitle (fill .title)))] := by
  obtain ⟨toc, markdown, back, next, code, marked⟩ := exists_marked contained
  exact ⟨toc, markdown, back, next, code,
    Html.named_parse_document (titled_head contained) (by decide)
      rfl marked rfl⟩

end LessonSite.Template.Builtin
