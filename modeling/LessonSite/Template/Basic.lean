import LessonSite.Page
import LessonSite.Text.Parts

/-!
# Page templates

A template is a text with named holes.  `Template.parse` finds the holes, at
most one per name, and `Template.render` fills them; what is filled in is never
searched for holes again.
-/

namespace LessonSite

/-- The name of a hole in a template. -/
inductive Placeholder where
  | title
  | toc
  | markdown
  | code
  | back
  | next
  | index
  | total
  | locale
  | enHref
  | zhHref
  | homePage
  | homePageHref
  deriving DecidableEq, Repr

namespace Placeholder

/-- All placeholders, in the order in which they are looked for. -/
def all : List Placeholder :=
  [.title, .toc, .markdown, .code, .back, .next, .index, .total, .locale,
    .enHref, .zhHref, .homePage, .homePageHref]

/-- The text that marks the hole. -/
def token : Placeholder → String
  | .title => "%TITLE%"
  | .toc => "%TOC%"
  | .markdown => "%MARKDOWN%"
  | .code => "%CODE%"
  | .back => "%BACK%"
  | .next => "%NEXT%"
  | .index => "%INDEX%"
  | .total => "%TOTAL%"
  | .locale => "%LOCALE%"
  | .enHref => "%EN_HREF%"
  | .zhHref => "%ZH_HREF%"
  | .homePage => "%HOMEPAGE%"
  | .homePageHref => "%HOMEPAGE_HREF%"

/-- The placeholder marked by a token. -/
def ofToken? (token : String) : Option Placeholder :=
  all.find? fun placeholder => placeholder.token = token

end Placeholder

/-- Texts for the holes; the first one given for a placeholder counts. -/
abbrev Filling := List (Placeholder × String)

/-- The text for a placeholder, or nothing when none is given. -/
def Filling.value (filling : Filling) (placeholder : Placeholder) : String :=
  (List.lookup placeholder filling).getD ""

/-- The texts a page puts into a template. -/
def Page.placeholders (page : Page) : Filling :=
  [(.title, page.title), (.toc, page.toc), (.markdown, page.markdownHtml),
    (.code, page.codeHtml), (.back, page.back), (.next, page.next),
    (.index, toString page.index), (.total, toString page.total),
    (.locale, page.locale.label), (.enHref, page.enHref),
    (.zhHref, page.zhHref), (.homePage, page.homePage),
    (.homePageHref, page.homePageHref)]

/-- A template that names a placeholder more than once. -/
structure DuplicatePlaceholder where
  placeholder : Placeholder
  count : Nat
  deriving DecidableEq, Repr

def DuplicatePlaceholder.message (error : DuplicatePlaceholder) : String :=
  "placeholder " ++ error.placeholder.token ++ " appears " ++
    toString error.count ++
    " times, expected at most once"

/-- A hole: where its token starts, counted in characters, and its name. -/
structure Slot where
  offset : Nat
  placeholder : Placeholder
  deriving DecidableEq, Repr

/-- The place after the token of a slot. -/
def Slot.stop (slot : Slot) : Nat :=
  slot.offset + slot.placeholder.token.length

/-- A text and its holes, from left to right. -/
structure Template where
  text : List Char
  slots : List Slot
  deriving DecidableEq, Repr

namespace Template

/-- Where a token occurs in a text that starts at `offset`.  An occurrence is
passed over as a whole before the search goes on; `skip` counts the characters
still to pass. -/
def occurrencesFrom (token : List Char) (offset skip : Nat) :
    List Char → List Nat
  | [] => []
  | character :: rest =>
      match skip with
      | skip + 1 => occurrencesFrom token (offset + 1) skip rest
      | 0 =>
          if token.isPrefixOf (character :: rest) then
            offset :: occurrencesFrom token (offset + 1) (token.length - 1) rest
          else occurrencesFrom token (offset + 1) 0 rest

/-- The slots of one placeholder in a text. -/
def slotsOf (text : List Char) (placeholder : Placeholder) :
    Except DuplicatePlaceholder (List Slot) :=
  match occurrencesFrom placeholder.token.toList 0 0 text with
  | [] => .ok []
  | [offset] => .ok [{ offset, placeholder }]
  | offsets => .error { placeholder, count := offsets.length }

/-- The slots of several placeholders; the first error wins. -/
def collectSlots (text : List Char) :
    List Placeholder → Except DuplicatePlaceholder (List Slot)
  | [] => .ok []
  | placeholder :: placeholders =>
      match slotsOf text placeholder with
      | .error error => .error error
      | .ok slots =>
          match collectSlots text placeholders with
          | .error error => .error error
          | .ok others => .ok (slots ++ others)

/-- Puts a slot in its place among slots ordered by offset, before those at the
same place. -/
def insertSlot (slot : Slot) : List Slot → List Slot
  | [] => [slot]
  | first :: rest =>
      if slot.offset ≤ first.offset then slot :: first :: rest
      else first :: insertSlot slot rest

def sortSlots (slots : List Slot) : List Slot :=
  slots.foldr insertSlot []

/-- Drops each slot that starts before the end of one already kept. -/
def dropOverlaps (reached : Nat) : List Slot → List Slot
  | [] => []
  | slot :: slots =>
      if slot.offset < reached then dropOverlaps reached slots
      else slot :: dropOverlaps slot.stop slots

/-- Finds the holes of a text.  Two tokens may share a percent sign; the earlier
one wins. -/
def parse (text : String) : Except DuplicatePlaceholder Template :=
  match collectSlots text.toList Placeholder.all with
  | .error error => .error error
  | .ok slots =>
      .ok { text := text.toList, slots := dropOverlaps 0 (sortSlots slots) }

/-- The template has a hole with the given name. -/
def contains (template : Template) (placeholder : Placeholder) : Bool :=
  template.slots.any fun slot => slot.placeholder = placeholder

/-- The text from `cursor` on, with the slots filled. -/
def renderFrom (text : List Char) (filling : Filling) (cursor : Nat) :
    List Slot → List Char
  | [] => text.drop cursor
  | slot :: slots =>
      (text.drop cursor).take (slot.offset - cursor) ++
        (filling.value slot.placeholder).toList ++
        renderFrom text filling slot.stop slots

/-- The text with its holes filled. -/
def render (template : Template) (filling : Filling) : String :=
  String.ofList (renderFrom template.text filling 0 template.slots)

end Template

end LessonSite
