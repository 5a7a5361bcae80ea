import LessonSite.Markdown.Render
import LessonSite.Proofs.Html.Balanced

/-!
# Running text of Markdown as markup

Running text becomes markup in which every element ends with its own closing
tag, unless it holds raw HTML or a link inside a link.
-/

namespace LessonSite.Markdown

open Html (Balanced RawAttribute RawTag closingTag)
open Html.Construction (Flows MayOpen isFormattingTag isPhraseTag)

private theorem not_mem_flatMap {escape : Char → List Char} {mark : Char}
    (absent : ∀ character, mark ∉ escape character) (text : List Char) :
    mark ∉ text.flatMap escape := by
  intro member
  obtain ⟨character, -, written⟩ := List.mem_flatMap.mp member
  exact absent character written

private theorem not_mem_escapeBody (character : Char) :
    '<' ∉ escapeBody character := by
  unfold escapeBody
  split
  · decide
  · decide
  · decide
  · next noLess _ =>
      rw [List.mem_singleton]
      exact fun same => noLess same.symm

private theorem not_mem_escapeAttribute (character : Char) :
    '"' ∉ escapeAttribute character := by
  unfold escapeAttribute
  split
  · decide
  · next noQuote =>
      unfold escapeBody
      split
      · decide
      · decide
      · decide
      · rw [List.mem_singleton]
        exact fun same => noQuote same.symm

private theorem mem_escapeAddressChar {character mark : Char}
    (member : mark ∈ escapeAddressChar character) :
    isAddressSafe mark = true ∨ mark = '&' := by
  have hex :
      ∀ value < 16, isAddressSafe (upperHexDigit value) = true := by decide
  have reference :
      ∀ mark ∈ "&amp;&#x27;".toList,
        isAddressSafe mark = true ∨ mark = '&' := by decide
  unfold escapeAddressChar at member
  split at member
  · next safe =>
      rw [List.mem_singleton] at member
      exact .inl (member ▸ safe)
  · split at member
    · exact reference mark (List.mem_append_left _ member)
    · split at member
      · exact reference mark (List.mem_append_right "&amp;".toList member)
      · obtain ⟨byte, -, written⟩ := List.mem_flatMap.mp member
        simp only [List.mem_cons, List.not_mem_nil, or_false] at written
        have small := byte.toNat_lt
        left
        rcases written with rfl | rfl | rfl
        · decide
        · exact hex (byte.toNat / 16) (by omega)
        · exact hex (byte.toNat % 16) (by omega)

theorem mem_addressText {text : String} {mark : Char}
    (member : mark ∈ addressText text) :
    isAddressSafe mark = true ∨ mark = '&' := by
  obtain ⟨character, -, written⟩ := List.mem_flatMap.mp member
  exact mem_escapeAddressChar written

theorem not_mem_bodyText (text : String) : '<' ∉ bodyText text :=
  not_mem_flatMap not_mem_escapeBody text.toList

theorem not_mem_attributeText (text : String) : '"' ∉ attributeText text :=
  not_mem_flatMap not_mem_escapeAttribute text.toList

theorem not_mem_addressText (text : String) : '"' ∉ addressText text :=
  fun member => absurd (mem_addressText member) (by decide)

mutual

private theorem not_mem_plainText : ∀ item : Inline, '"' ∉ plainText item
  | .text text => not_mem_attributeText text
  | .code text => not_mem_attributeText text
  | .html text => not_mem_attributeText text
  | .softBreak => by decide
  | .hardBreak => by decide
  | .emphasized _ children => not_mem_plainTexts children
  | .link _ _ children => not_mem_plainTexts children
  | .image _ _ children => not_mem_plainTexts children
  | .delimiters _ _ _ _ => not_mem_attributeText _

private theorem not_mem_plainTexts :
    ∀ items : List Inline, '"' ∉ plainTexts items
  | [] => List.not_mem_nil
  | item :: items => by
      rw [plainTexts, List.mem_append, not_or]
      exact ⟨not_mem_plainText item, not_mem_plainTexts items⟩

end

/-- The attribute with the title of a link or an image, if it has one. -/
def titleAttributes (title : String) : List RawAttribute :=
  if title = "" then [] else [⟨"title", attributeText title⟩]

def linkTag (destination title : String) : RawTag :=
  ⟨"a", ⟨"href", addressText destination⟩ :: titleAttributes title, false⟩

def imageTag (destination title : String) (children : List Inline) : RawTag :=
  ⟨"img", ⟨"src", addressText destination⟩ :: ⟨"alt", plainTexts children⟩ ::
    titleAttributes title, true⟩

theorem markup_linkTag (destination title : String) :
    (linkTag destination title).markup =
      "<a href=\"".toList ++ addressText destination ++
        titleAttribute title ++ "\">".toList := by
  unfold linkTag titleAttributes titleAttribute
  split
  · simp [RawTag.markup, RawAttribute.markup, RawTag.ending]
  · simp [RawTag.markup, RawAttribute.markup, RawTag.ending]

private theorem markup_imageTag (destination title : String)
    (children : List Inline) :
    (imageTag destination title children).markup = "<img src=\"".toList ++
      addressText destination ++ "\" alt=\"".toList ++ plainTexts children ++
        titleAttribute title ++ "\" />".toList := by
  unfold imageTag titleAttributes titleAttribute
  split
  · simp [RawTag.markup, RawAttribute.markup, RawTag.ending]
  · simp [RawTag.markup, RawAttribute.markup, RawTag.ending]

private theorem arePlainNames_titled {names : List String} (title : String)
    (untitled : Html.ArePlainNames names)
    (titled : Html.ArePlainNames (names ++ ["title"])) :
    Html.ArePlainNames
      (names ++ (titleAttributes title).map RawAttribute.name) := by
  unfold titleAttributes
  split
  · rwa [List.map_nil, List.append_nil]
  · exact titled

private theorem not_mem_titleAttributes {title : String} :
    ∀ entry ∈ titleAttributes title, '"' ∉ entry.value := by
  unfold titleAttributes
  split
  · exact List.forall_mem_nil _
  · exact List.forall_mem_singleton.mpr (not_mem_attributeText title)

private theorem names_linkTag (destination title : String) :
    Html.ArePlainNames
      ((linkTag destination title).attributes.map RawAttribute.name) :=
  arePlainNames_titled title
    (show Html.ArePlainNames ["href"] by decide) (by decide)

theorem isValid_linkTag (destination title : String) :
    (linkTag destination title).IsValid := by
  apply (names_linkTag destination title).isValid (by decide)
  exact List.forall_mem_cons.mpr
    ⟨not_mem_addressText destination, not_mem_titleAttributes⟩

private theorem names_imageTag (destination title : String)
    (children : List Inline) :
    Html.ArePlainNames
      ((imageTag destination title children).attributes.map
        RawAttribute.name) :=
  arePlainNames_titled title
    (show Html.ArePlainNames ["src", "alt"] by decide) (by decide)

private theorem isValid_imageTag (destination title : String)
    (children : List Inline) :
    (imageTag destination title children).IsValid := by
  apply (names_imageTag destination title children).isValid (by decide)
  exact List.forall_mem_cons.mpr ⟨not_mem_addressText destination,
    List.forall_mem_cons.mpr
      ⟨not_mem_plainTexts children, not_mem_titleAttributes⟩⟩

mutual

/-- Running text without raw HTML and without a link inside a link; `linked`
tells whether a link is around it. -/
def Inline.isTame (linked : Bool) : Inline → Bool
  | .text _ => true
  | .code _ => true
  | .html _ => false
  | .softBreak => true
  | .hardBreak => true
  | .emphasized _ children => areTame linked children
  | .link _ _ children => !linked && areTame true children
  | .image _ _ _ => true
  | .delimiters _ _ _ _ => true

/-- Each part is such running text. -/
def Inline.areTame (linked : Bool) : List Inline → Bool
  | [] => true
  | item :: items => isTame linked item && areTame linked items

end

/-- The opening tag without attributes. -/
def plainTag (name : String) : RawTag :=
  ⟨name, [], false⟩

/-- An element without attributes is balanced around running text. -/
theorem balanced_plain {path : List String} {name : String} {inside : List Char}
    (named : Html.isName name = true) (flows : Flows path)
    (may : MayOpen path name) (inner : Balanced (name :: path) inside) :
    Balanced path ((plainTag name).markup ++ (inside ++ closingTag name)) := by
  have valid : (plainTag name).IsValid := ⟨named, List.forall_mem_nil _, .nil⟩
  exact .wrap valid rfl (List.forall_mem_nil _) (.running flows may)
    (fun same => absurd same may.ne_pre) inner

private theorem isFormattingTag_element (kind : Emphasis) :
    Html.isName kind.element = true ∧
      Html.Construction.isRunningTag kind.element = true ∧
        "a" ≠ kind.element ∧
      (isFormattingTag kind.element = true ∨
        isPhraseTag kind.element = true) := by
  cases kind <;> decide

mutual

theorem balanced_inline {linked : Bool} {path : List String}
    (flows : Flows path) (apart : linked = false → "a" ∉ path) :
    ∀ item : Inline,
      item.isTame linked = true → Balanced path (inlineMarkup item)
  | .text text, _ => .text flows (not_mem_bodyText text)
  | .code text, _ => by
      have written : inlineMarkup (.code text) =
          "<code>".toList ++ bodyText text ++ "</code>".toList := rfl
      have opening : "<code>".toList = (plainTag "code").markup := by decide
      have closing : "</code>".toList = closingTag "code" := by decide
      rw [written, opening, closing, List.append_assoc]
      exact balanced_plain (by decide) flows (.formatting (by decide))
        (.text (flows.cons (by decide)) (not_mem_bodyText text))
  | .html _, tame => nomatch tame
  | .softBreak, _ => .text flows (by decide)
  | .hardBreak, _ => by
      have valid : RawTag.IsValid ⟨"br", [], true⟩ := by decide
      have after : Balanced path ['\n'] := .text flows (by decide)
      exact .empty valid (List.forall_mem_nil _) (by decide) flows
        (fun same => absurd same (show "br" ≠ "hr" by decide)) after
  | .emphasized kind children, tame => by
      obtain ⟨named, running, other, formatting⟩ := isFormattingTag_element kind
      have inner : Balanced (kind.element :: path) (inlinesMarkup children) :=
        balanced_inlines (flows.cons running)
          (fun free => List.not_mem_cons_of_ne_of_not_mem other (apart free))
          children tame
      have written : inlineMarkup (.emphasized kind children) =
          '<' ::
            (kind.element.toList ++
              '>' :: (inlinesMarkup children ++ "</".toList ++
                kind.element.toList ++ ['>'])) := rfl
      have balanced :=
        balanced_plain named flows (formatting.elim .formatting .phrase) inner
      simp only [plainTag, RawTag.markup, RawTag.ending, closingTag] at balanced
      rw [written]
      simpa using balanced
  | .link destination title children, tame => by
      rw [Inline.isTame, Bool.and_eq_true, Bool.not_eq_true'] at tame
      have inner : Balanced ("a" :: path) (inlinesMarkup children) :=
        @balanced_inlines true _ (flows.cons (by decide))
          (fun free => nomatch free) children tame.2
      have balanced := Balanced.wrap (isValid_linkTag destination title) rfl
        (names_linkTag destination title).unmarked
        (.running flows (.link (apart tame.1)))
        (fun same => absurd same (show "a" ≠ "pre" by decide)) inner
      have written : inlineMarkup (.link destination title children) =
          "<a href=\"".toList ++ addressText destination ++
            titleAttribute title ++ "\">".toList ++
            inlinesMarkup children ++ "</a>".toList := rfl
      have closing : "</a>".toList = closingTag "a" := by decide
      rw [written, closing, ← markup_linkTag, List.append_assoc]
      exact balanced
  | .image destination title children, _ => by
      have balanced :=
        Balanced.empty (isValid_imageTag destination title children)
          (names_imageTag destination title children).unmarked
          (show Html.Construction.isVoidTag "img" = true by decide) flows
          (fun same => absurd same (show "img" ≠ "hr" by decide)) .nil
      have written : inlineMarkup (.image destination title children) =
          "<img src=\"".toList ++ addressText destination ++
            "\" alt=\"".toList ++
            plainTexts children ++ titleAttribute title ++ "\" />".toList := rfl
      rw [markup_imageTag, List.append_nil] at balanced
      rw [written]
      exact balanced
  | .delimiters _ _ _ _, _ => .text flows (not_mem_bodyText _)

theorem balanced_inlines {linked : Bool} {path : List String}
    (flows : Flows path) (apart : linked = false → "a" ∉ path) :
    ∀ items : List Inline,
      Inline.areTame linked items = true → Balanced path (inlinesMarkup items)
  | [], _ => .nil
  | item :: items, tame => by
      rw [Inline.areTame, Bool.and_eq_true] at tame
      rw [inlinesMarkup]
      exact (balanced_inline flows apart item tame.1).append
        (balanced_inlines flows apart items tame.2)

end

end LessonSite.Markdown
