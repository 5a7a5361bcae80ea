import LessonSite.Proofs.Markdown.Running

/-!
# Rendered Markdown is balanced

A block is written behind what has been written before, and it depends on that
only where a line has to begin.  What it adds is balanced markup, unless the
text holds raw HTML.
-/

namespace LessonSite.Markdown

open Html (Balanced RawAttribute RawTag closingTag)
open Html.Construction (Fits Flows MayOpen Opens isHeadingTag isInBody)

theorem isBare_plainTag {name : String} (named : Html.isName name = true) :
    (plainTag name).IsBare :=
  ⟨⟨named, List.forall_mem_nil _, .nil⟩, rfl, List.forall_mem_nil _⟩

namespace Written

variable {path : List String} {before middle after : Written}
  {piece : List Char}

/-- The later text is the earlier one with balanced markup behind it. -/
def Adds (path : List String) (before after : Written) : Prop :=
  ∃ piece, Balanced path piece ∧ after = before.add piece

theorem add_append (written : Written) (first second : List Char) :
    written.add (first ++ second) = (written.add first).add second := by
  rw [add, add, add, List.reverse_append, List.append_assoc]

namespace Adds

theorem refl (path : List String) (written : Written) :
    Adds path written written :=
  ⟨[], .nil, rfl⟩

theorem trans (first : Adds path before middle)
    (second : Adds path middle after) :
    Adds path before after := by
  obtain ⟨earlier, isFirst, rfl⟩ := first
  obtain ⟨later, isSecond, rfl⟩ := second
  exact ⟨earlier ++ later, isFirst.append isSecond, (add_append _ _ _).symm⟩

theorem add (first : Adds path before middle) (balanced : Balanced path piece) :
    Adds path before (middle.add piece) :=
  first.trans ⟨piece, balanced, rfl⟩

theorem freshLine (flows : Flows path) (written : Written) :
    Adds path written written.freshLine := by
  unfold Written.freshLine
  split
  · exact refl path _
  · exact refl path _
  · exact ⟨['\n'], .text flows (by decide), rfl⟩

/-- An element is balanced when what has been written in it is. -/
theorem element (tag : RawTag) (bare : tag.IsBare) (opens : Opens path tag.name)
    (flowing : tag.name ≠ "pre")
    (inner : Adds (tag.name :: path) (before.add tag.markup) middle) :
    Adds path before (middle.add (closingTag tag.name)) := by
  obtain ⟨valid, isOpen, unmarked⟩ := bare
  obtain ⟨inside, balanced, rfl⟩ := inner
  refine ⟨tag.markup ++ (inside ++ closingTag tag.name),
    .wrap valid isOpen unmarked opens (fun same => absurd same flowing)
      balanced, ?_⟩
  rw [add_append, add_append]

theorem plain {name : String} (named : Html.isName name = true)
    (opens : Opens path name) (flowing : name ≠ "pre")
    (inner : Adds (name :: path) (before.add (plainTag name).markup) middle) :
    Adds path before (middle.add (closingTag name)) :=
  element (plainTag name) (isBare_plainTag named) opens flowing inner

end Adds

end Written

open Written (Adds)

/-- Blocks may stand within elements of the given names, the innermost first. -/
structure TakesBlocks (path : List String) : Prop where
  flows : Flows path
  inBody : isInBody path = true
  noParagraph : "p" ∉ path
  noLink : "a" ∉ path
  apart : ∀ inner ∈ path.head?, isHeadingTag inner = false

instance (path : List String) : Decidable (TakesBlocks path) :=
  decidable_of_iff (_ ∧ _ ∧ _ ∧ _ ∧ _)
    ⟨fun all => ⟨all.1, all.2.1, all.2.2.1, all.2.2.2.1, all.2.2.2.2⟩,
      fun takes =>
        ⟨takes.flows, takes.inBody, takes.noParagraph, takes.noLink,
          takes.apart⟩⟩

/-- Elements with blocks in them. -/
def isHolderTag (name : String) : Bool :=
  ["blockquote", "li", "ol", "ul"].contains name

theorem TakesBlocks.cons {path : List String} (takes : TakesBlocks path)
    {name : String}
    (holder : isHolderTag name = true) : TakesBlocks (name :: path) := by
  have facts :
      Html.Construction.isRunningTag name = true ∧ "p" ≠ name ∧ "a" ≠ name ∧
        isHeadingTag name = false := by
    simp only [isHolderTag, List.contains_iff_mem, List.mem_cons,
      List.not_mem_nil, or_false] at holder
    rcases holder with rfl | rfl | rfl | rfl <;> decide
  obtain ⟨running, noParagraph, noLink, noHeading⟩ := facts
  refine ⟨takes.flows.cons running, ?_,
    List.not_mem_cons_of_ne_of_not_mem noParagraph
      takes.noParagraph, List.not_mem_cons_of_ne_of_not_mem noLink takes.noLink,
    ?_⟩
  · rw [isInBody, running, takes.inBody, Bool.true_or, Bool.true_or,
      Bool.and_self, Bool.or_true]
  · intro inner member
    cases Option.some.inj member
    exact noHeading

mutual

/-- A block without raw HTML, whose headings have one of the six levels. -/
def Block.isTame (tame : Prose → Bool) : Block → Bool
  | .paragraph prose => tame prose
  | .heading level prose => decide (0 < level ∧ level < 7) && tame prose
  | .code _ _ => true
  | .html _ => false
  | .rule => true
  | .quote children => areTame tame children
  | .list _ _ items => allTame tame items
  | .table _ head rows => head.all tame && rows.all fun row => row.all tame

def Block.areTame (tame : Prose → Bool) : List Block → Bool
  | [] => true
  | block :: blocks => isTame tame block && areTame tame blocks

/-- Each block of each item is such. -/
def Block.allTame (tame : Prose → Bool) : List (List Block) → Bool
  | [] => true
  | item :: items => areTame tame item && allTame tame items

end

section Blocks

variable {render : Prose → List Char} {tame : Prose → Bool} {path : List String}

/-- What is rendered of a tame text is balanced wherever it may stand. -/
def Renders (render : Prose → List Char) (tame : Prose → Bool) : Prop :=
  ∀ prose,
    tame prose = true →
    ∀ path, Flows path → "a" ∉ path → Balanced path (render prose)

private theorem adds_line (tag : RawTag) {before middle : Written}
    {stop : String}
    (stops : stop.toList = closingTag tag.name ++ ['\n']) (bare : tag.IsBare)
    (flows : Flows path) (opens : Opens path tag.name)
    (flowing : tag.name ≠ "pre")
    (inner : Adds (tag.name :: path) (before.add tag.markup) middle) :
    Adds path before (middle.addText stop) := by
  rw [Written.addText, stops, Written.add_append]
  exact (Adds.element tag bare opens flowing inner).add
    (.text flows (by decide))

private theorem addText_tag {start : String} {tag : RawTag} {gap : List Char}
    (starts : start.toList = tag.markup ++ gap) (written : Written) :
    written.addText start = (written.add tag.markup).add gap := by
  rw [Written.addText, starts, Written.add_append]

private theorem adds_paragraph (renders : Renders render tame)
    (takes : TakesBlocks path)
    {prose : Prose} (isTame : tame prose = true) (tight : Bool)
    (written : Written) :
    Adds path written (writeBlock render tight (.paragraph prose) written) := by
  have chosen : writeBlock render tight (.paragraph prose) written =
      if tight then written.add (render prose)
      else ((written.freshLine.addText "<p>").add (render prose)).addText
        "</p>\n" := rfl
  rw [chosen]
  split
  · exact (Adds.refl path written).add
      (renders prose isTame path takes.flows takes.noLink)
  · have starts : "<p>".toList = (plainTag "p").markup ++ [] := by decide
    have inner : Balanced ("p" :: path) (render prose) :=
      renders prose isTame _ (takes.flows.cons (by decide))
        (List.not_mem_cons_of_ne_of_not_mem (by decide) takes.noLink)
    refine (Adds.freshLine takes.flows written).trans ?_
    rw [addText_tag starts]
    apply adds_line (plainTag "p") (by decide)
      (isBare_plainTag (by decide)) takes.flows
      (.running takes.flows (.paragraph takes.noParagraph)) (by decide)
    exact (Adds.add (.refl _ _) .nil).add inner

private theorem isHeadingTag_level {level : Nat} (positive : 0 < level)
    (small : level < 7) :
    isHeadingTag ("h" ++ toString level) = true ∧
      Html.isName ("h" ++ toString level) = true := by
  have all :
      ∀ level < 7, 0 < level → isHeadingTag ("h" ++ toString level) = true ∧
        Html.isName ("h" ++ toString level) = true := by decide
  exact all level small positive

private theorem ne_of_heading {name other : String}
    (heading : isHeadingTag name = true)
    (noHeading : isHeadingTag other = false) : other ≠ name := by
  rintro rfl
  exact Bool.noConfusion (heading.symm.trans noHeading)

private theorem adds_heading (renders : Renders render tame)
    (takes : TakesBlocks path)
    {level : Nat} (positive : 0 < level) (small : level < 7) {prose : Prose}
    (isTame : tame prose = true) (tight : Bool) (written : Written) :
    Adds path written
      (writeBlock render tight (.heading level prose) written) := by
  have chosen : writeBlock render tight (.heading level prose) written =
      ((written.freshLine.addText ("<" ++ ("h" ++ toString level) ++ ">")).add
        (render prose)).addText ("</" ++ ("h" ++ toString level) ++ ">\n") :=
    rfl
  obtain ⟨heading, named⟩ := isHeadingTag_level positive small
  generalize "h" ++ toString level = name at chosen heading named
  have may : MayOpen path name := .heading heading takes.noParagraph takes.apart
  have starts : ("<" ++ name ++ ">").toList = (plainTag name).markup ++ [] := by
    simp [plainTag, RawTag.markup, RawTag.ending]
  have stops : ("</" ++ name ++ ">\n").toList = closingTag name ++ ['\n'] := by
    simp [closingTag]
  have inner : Balanced (name :: path) (render prose) :=
    renders prose isTame _ (takes.flows.cons may.isRunningTag)
      (List.not_mem_cons_of_ne_of_not_mem (ne_of_heading heading (by decide))
        takes.noLink)
  rw [chosen]
  refine (Adds.freshLine takes.flows written).trans ?_
  rw [addText_tag starts]
  apply adds_line (plainTag name) stops (isBare_plainTag named) takes.flows
    (.running takes.flows may) may.ne_pre
  exact (Adds.add (.refl _ _) .nil).add inner

private theorem adds_rule (takes : TakesBlocks path) (tight : Bool)
    (written : Written) :
    Adds path written (writeBlock render tight .rule written) := by
  have chosen : writeBlock render tight .rule written =
      written.freshLine.addText "<hr />\n" := rfl
  have starts :
      "<hr />\n".toList = RawTag.markup ⟨"hr", [], true⟩ ++ ['\n'] := by decide
  have balanced : Balanced path (RawTag.markup ⟨"hr", [], true⟩ ++ ['\n']) :=
    .empty (by decide) (List.forall_mem_nil _) (by decide) takes.flows
      (fun _ => takes.noParagraph) (.text takes.flows (by decide))
  rw [chosen, Written.addText, starts]
  exact (Adds.freshLine takes.flows written).add balanced

/-- The opening tag of code, with the name of its language if it has one. -/
def codeTag (name : Option (List Char)) : RawTag :=
  match name with
  | none => plainTag "code"
  | some [] => plainTag "code"
  | some name =>
      ⟨"code",
        [⟨"class", "language-".toList ++ attributeText (String.ofList name)⟩],
        false⟩

private theorem isBare_codeTag (name : Option (List Char)) :
    (codeTag name).IsBare ∧ (codeTag name).name = "code" := by
  unfold codeTag
  split
  · exact ⟨isBare_plainTag (by decide), rfl⟩
  · exact ⟨isBare_plainTag (by decide), rfl⟩
  · next name _ =>
      have names : Html.ArePlainNames ["class"] := by decide
      have unquoted :
          '"' ∉ "language-".toList ++ attributeText (String.ofList name) := by
        rw [List.mem_append, not_or]
        exact ⟨by decide, not_mem_attributeText _⟩
      refine ⟨⟨?_, rfl, Html.ArePlainNames.unmarked names⟩, rfl⟩
      exact Html.ArePlainNames.isValid (by exact names) (by decide)
        (List.forall_mem_singleton.mpr unquoted) false

private theorem markup_codeTag (name : Option (List Char)) :
    (match name with
      | none => "<pre><code>".toList
      | some [] => "<pre><code>".toList
      | some name =>
          "<pre><code class=\"language-".toList ++
            attributeText (String.ofList name) ++
            "\">".toList) =
      (plainTag "pre").markup ++ (codeTag name).markup := by
  unfold codeTag
  split
  · decide
  · decide
  · simp [plainTag, RawTag.markup, RawAttribute.markup, RawTag.ending]

private theorem adds_code (takes : TakesBlocks path) (info : Option String)
    (text : String) (tight : Bool) (written : Written) :
    Adds path written (writeBlock render tight (.code info text) written) := by
  have chosen : writeBlock render tight (.code info text) written =
      ((written.freshLine.add
        (match info.map language with
        | none => "<pre><code>".toList
        | some [] => "<pre><code>".toList
        | some name =>
            "<pre><code class=\"language-".toList ++
              attributeText (String.ofList name) ++
              "\">".toList)).add (bodyText text)).addText "</code></pre>\n" :=
    rfl
  have stops :
      "</code></pre>\n".toList =
        closingTag "code" ++ (closingTag "pre" ++ ['\n']) := by
    decide
  obtain ⟨⟨valid, isOpen, unmarked⟩, named⟩ :=
    isBare_codeTag (info.map language)
  have inPre : Flows ("pre" :: path) := takes.flows.cons (by decide)
  have code : Balanced ("pre" :: path)
      ((codeTag (info.map language)).markup ++
        (bodyText text ++ closingTag "code")) := by
    have balanced :=
      @Balanced.wrap ("pre" :: path) _ (bodyText text) valid isOpen unmarked
    rw [named] at balanced
    exact balanced (.running inPre (.formatting (by decide)))
      (fun same => absurd same (by decide))
      (.text (inPre.cons (by decide)) (not_mem_bodyText text))
  have pre :
      Balanced path
        ((plainTag "pre").markup ++ ((codeTag (info.map language)).markup ++
          (bodyText text ++ closingTag "code") ++ closingTag "pre")) := by
    have bare : (plainTag "pre").IsBare := isBare_plainTag (by decide)
    exact .wrap bare.1 rfl bare.2.2
      (.preformatted takes.flows takes.noParagraph)
      (fun _ _ member => (Option.some.inj member).symm) code
  have whole :=
    (Adds.freshLine takes.flows written).add (pre.append (.text takes.flows
      (show '<' ∉ ['\n'] by decide)))
  rw [chosen, markup_codeTag, Written.addText, stops, ← Written.add_append,
    ← Written.add_append]
  simpa using whole

def listTag (number : Option Nat) : RawTag :=
  match number with
  | none => plainTag "ul"
  | some 1 => plainTag "ol"
  | some number => ⟨"ol", [⟨"start", (toString number).toList⟩], false⟩

private theorem name_listTag (number : Option Nat) :
    (listTag number).name = if number.isSome then "ol" else "ul" := by
  unfold listTag
  split <;> rfl

private theorem isBare_listTag (number : Option Nat) :
    (listTag number).IsBare := by
  unfold listTag
  split
  · exact isBare_plainTag (by decide)
  · exact isBare_plainTag (by decide)
  · next number _ =>
      have names : Html.ArePlainNames ["start"] := by decide
      have unquoted : '"' ∉ (toString number).toList := by
        rw [toList_toString]
        exact fun member =>
          Bool.noConfusion (isDigit_of_mem_toDigits member).symm
      refine ⟨?_, rfl, Html.ArePlainNames.unmarked names⟩
      exact Html.ArePlainNames.isValid (by exact names) (by decide)
        (List.forall_mem_singleton.mpr unquoted) false

private theorem toList_listStart (number : Option Nat) :
    (match number with
      | none => "<ul>\n"
      | some 1 => "<ol>\n"
      | some number => "<ol start=\"" ++ toString number ++ "\">\n").toList =
        (listTag number).markup ++ ['\n'] := by
  unfold listTag
  split
  · decide
  · decide
  · simp [RawTag.markup, RawAttribute.markup, RawTag.ending]

private theorem toList_listStop (number : Option Nat) :
    (if number.isSome then "</ol>\n" else "</ul>\n").toList =
      closingTag (listTag number).name ++ ['\n'] := by
  rw [name_listTag]
  split <;> decide

private theorem adds_holder (takes : TakesBlocks path) (tag : RawTag)
    (bare : tag.IsBare)
    (holder : isHolderTag tag.name = true) (opens : Opens path tag.name)
    {start stop : String}
    {gap : List Char} (starts : start.toList = tag.markup ++ gap)
    (noTag : '<' ∉ gap)
    (stops : stop.toList = closingTag tag.name ++ ['\n'])
    {written middle : Written}
    (inner : Adds (tag.name :: path) (written.freshLine.addText start) middle) :
    Adds path written (middle.addText stop) := by
  have flowing : tag.name ≠ "pre" := by
    rintro same
    rw [same] at holder
    exact absurd holder (by decide)
  have within :
      Adds (tag.name :: path) (written.freshLine.add tag.markup) middle := by
    rw [addText_tag starts] at inner
    exact (Adds.add (.refl _ _) (.text (takes.cons holder).flows noTag)).trans
      inner
  exact (Adds.freshLine takes.flows written).trans
    (adds_line tag stops bare takes.flows opens flowing within)

def cellTag (name : String) (alignment : Alignment) : RawTag :=
  match alignment with
  | .unset => plainTag name
  | .left => ⟨name, [⟨"style", "text-align: left".toList⟩], false⟩
  | .center => ⟨name, [⟨"style", "text-align: center".toList⟩], false⟩
  | .right => ⟨name, [⟨"style", "text-align: right".toList⟩], false⟩

private theorem cellTag_facts (name : String) (alignment : Alignment) :
    (cellTag name alignment).name = name ∧
      ("<" ++ name ++ alignment.style ++ ">").toList =
        (cellTag name alignment).markup := by
  cases alignment <;>
    simp [cellTag, plainTag, Alignment.style, RawTag.markup,
      RawAttribute.markup, RawTag.ending]

private theorem isBare_cellTag {name : String}
    (isCell : name = "td" ∨ name = "th")
    (alignment : Alignment) : (cellTag name alignment).IsBare := by
  rcases isCell with rfl | rfl <;> cases alignment <;> decide

private theorem flows_cell {name : String} (isCell : name = "td" ∨ name = "th")
    (path : List String) : Flows (name :: path) := by
  rcases isCell with rfl | rfl <;> exact .inr rfl

private theorem adds_cell (renders : Renders render tame) {name : String}
    (isCell : name = "td" ∨ name = "th") (inRow : path.head? = some "tr")
    (noLink : "a" ∉ path)
    (alignment : Alignment) {cell : Prose} (isTame : tame cell = true)
    (written : Written) :
    Adds path written
      (((written.addText ("<" ++ name ++ alignment.style ++ ">")).add
          (render cell)).addText
        ("</" ++ name ++ ">")) := by
  obtain ⟨named, starts⟩ := cellTag_facts name alignment
  have stops :
      ("</" ++ name ++ ">").toList =
        closingTag (cellTag name alignment).name := by
    simp [named, closingTag]
  have others : "a" ≠ name ∧ name ≠ "pre" := by
    rcases isCell with rfl | rfl <;> decide
  have inner : Balanced (name :: path) (render cell) :=
    renders cell isTame _ (flows_cell isCell path)
      (List.not_mem_cons_of_ne_of_not_mem others.1 noLink)
  rw [Written.addText, Written.addText, starts, stops]
  apply Adds.element (cellTag name alignment) (isBare_cellTag isCell alignment)
  · exact .cell inRow (named.symm ▸ isCell)
  · exact named.symm ▸ others.2
  · exact (Adds.refl _ _).add (named.symm ▸ inner)

private theorem adds_cells (renders : Renders render tame) {name : String}
    (isCell : name = "td" ∨ name = "th") (inRow : path.head? = some "tr")
    (noLink : "a" ∉ path)
    (columns : List Alignment) {cells : List Prose}
    (areTame : cells.all tame = true)
    (written : Written) :
    Adds path written (writeCells render name columns cells written) := by
  induction cells generalizing columns written with
  | nil => exact .refl path written
  | cons cell cells induction =>
      rw [List.all_cons, Bool.and_eq_true] at areTame
      have first :=
        adds_cell renders isCell inRow noLink
          (columns.head?.getD .unset) areTame.1 written
      exact first.trans (induction columns.tail areTame.2 _)

private theorem balanced_break {name : String}
    (part : Html.Construction.isTableFrameTag name = true)
    (path : List String) : Balanced (name :: path) ['\n'] :=
  .character (by decide)
    (.inr
      ⟨part,
        List.forall_mem_singleton.mpr (show Html.isGap '\n' = true by decide)⟩)
    .nil

private theorem adds_row (path : List String) (renders : Renders render tame)
    {name parent : String}
    (isCell : name = "td" ∨ name = "th") (within : path.head? = some parent)
    (isRows : parent = "tbody" ∨ parent = "thead") (noLink : "a" ∉ path)
    (columns : List Alignment) {cells : List Prose}
    (areTame : cells.all tame = true) (written : Written) :
    Adds path written ((writeCells render name columns cells
      (written.add (plainTag "tr").markup)).add (closingTag "tr")) := by
  apply Adds.plain (by decide) (.row within isRows) (by decide)
  exact adds_cells renders isCell rfl
    (List.not_mem_cons_of_ne_of_not_mem (by decide) noLink) columns areTame _

private theorem adds_rows (renders : Renders render tame) (noLink : "a" ∉ path)
    (columns : List Alignment) {rows : List (List Prose)}
    (areTame : (rows.all fun row => row.all tame) = true) (written : Written) :
    Adds ("tbody" :: path) written (writeRows render columns rows written) := by
  induction rows generalizing written with
  | nil => exact .refl _ written
  | cons row rows induction =>
      rw [List.all_cons, Bool.and_eq_true] at areTame
      have starts : "<tr>".toList = (plainTag "tr").markup := by decide
      have stops : "</tr>\n".toList = closingTag "tr" ++ ['\n'] := by decide
      have chosen : writeRows render columns (row :: rows) written =
          writeRows render columns rows
            ((writeCells render "td" columns row
              (written.addText "<tr>")).addText "</tr>\n") := rfl
      have first := adds_row ("tbody" :: path) renders (.inl rfl) rfl (.inl rfl)
        (List.not_mem_cons_of_ne_of_not_mem (by decide) noLink) columns
        areTame.1 written
      rw [chosen, Written.addText, Written.addText, starts, stops,
        Written.add_append]
      exact (first.add (balanced_break (by decide) path)).trans
        (induction areTame.2 _)

private theorem adds_table (renders : Renders render tame)
    (takes : TakesBlocks path)
    (columns : List Alignment) {head : List Prose} {rows : List (List Prose)}
    (headTame : head.all tame = true)
    (rowsTame : (rows.all fun row => row.all tame) = true)
    (tight : Bool) (written : Written) :
    Adds path written
      (writeBlock render tight (.table columns head rows) written) := by
  have chosen : writeBlock render tight (.table columns head rows) written =
      (writeRows render columns rows
        ((writeCells render "th" columns head
          (written.addText "<table><thead><tr>")).addText
          "</tr></thead><tbody>\n")).addText
            "</tbody></table>\n" := rfl
  have starts : "<table><thead><tr>".toList =
      (plainTag "table").markup ++
        ((plainTag "thead").markup ++ (plainTag "tr").markup) := by
    decide
  have turns : "</tr></thead><tbody>\n".toList =
      closingTag "tr" ++
        (closingTag "thead" ++ ((plainTag "tbody").markup ++ ['\n'])) := by
    decide
  have stops : "</tbody></table>\n".toList =
      closingTag "tbody" ++ (closingTag "table" ++ ['\n']) := by decide
  have noLink : "a" ∉ "table" :: path :=
    List.not_mem_cons_of_ne_of_not_mem (by decide) takes.noLink
  have inHead :=
    adds_row ("thead" :: "table" :: path) renders (.inr rfl) rfl (.inr rfl)
      (List.not_mem_cons_of_ne_of_not_mem (by decide) noLink) columns headTame
      ((written.add (plainTag "table").markup).add (plainTag "thead").markup)
  rw [chosen, Written.addText, Written.addText, Written.addText, starts, turns,
    stops]
  simp only [Written.add_append]
  refine Adds.add ?_ (.text takes.flows (by decide))
  apply Adds.plain (by decide)
    (.table takes.flows takes.noParagraph takes.inBody) (by decide)
  apply (Adds.plain (by decide) (.rows rfl (.inr rfl)) (by decide) inHead).trans
  apply Adds.plain (by decide) (.rows rfl (.inl rfl)) (by decide)
  exact (Adds.add (.refl _ _)
      (balanced_break (by decide) ("table" :: path))).trans
    (adds_rows renders noLink columns rowsTame _)

mutual

theorem adds_block (renders : Renders render tame) {path : List String}
    (takes : TakesBlocks path)
    (tight : Bool) :
    ∀ (block : Block) (written : Written), block.isTame tame = true →
      Adds path written (writeBlock render tight block written)
  | .paragraph _, written, isTame =>
      adds_paragraph renders takes isTame tight written
  | .heading level prose, written, isTame => by
      rw [Block.isTame, Bool.and_eq_true, decide_eq_true_eq] at isTame
      exact adds_heading renders takes isTame.1.1 isTame.1.2 isTame.2
        tight written
  | .code info text, written, _ => adds_code takes info text tight written
  | .html _, _, isTame => nomatch isTame
  | .rule, written, _ => adds_rule takes tight written
  | .quote children, written, isTame => by
      have starts :
          "<blockquote>\n".toList =
            (plainTag "blockquote").markup ++ ['\n'] := by decide
      have stops :
          "</blockquote>\n".toList =
            closingTag "blockquote" ++ ['\n'] := by decide
      apply adds_holder takes (plainTag "blockquote")
        (isBare_plainTag (by decide)) (by decide)
        (.running takes.flows
          (.block (by decide) (by decide) takes.noParagraph)) starts (by decide)
        stops
      exact adds_blocks renders (takes.cons (by decide)) false children _ isTame
  | .list number itemsTight items, written, isTame => by
      have named := name_listTag number
      have holder : isHolderTag (listTag number).name = true := by
        rw [named]
        split <;> decide
      have opens : Opens path (listTag number).name := by
        rw [named]
        split
        · exact .running takes.flows
            (.block (by decide) (by decide) takes.noParagraph)
        · exact .running takes.flows
            (.block (by decide) (by decide) takes.noParagraph)
      have isList :
          (listTag number).name = "ul" ∨ (listTag number).name = "ol" := by
        rw [named]
        split
        · exact .inr rfl
        · exact .inl rfl
      apply adds_holder takes (listTag number) (isBare_listTag number) holder
        opens (toList_listStart number) (by decide) (toList_listStop number)
      exact adds_items renders (takes.cons holder) rfl isList itemsTight
        items _ isTame
  | .table columns head rows, written, isTame => by
      rw [Block.isTame, Bool.and_eq_true] at isTame
      exact adds_table renders takes columns isTame.1 isTame.2 tight written

theorem adds_blocks (renders : Renders render tame) {path : List String}
    (takes : TakesBlocks path)
    (tight : Bool) :
    ∀ (blocks : List Block) (written : Written),
      Block.areTame tame blocks = true →
        Adds path written (writeBlocks render tight blocks written)
  | [], written, _ => .refl path written
  | block :: blocks, written, areTame => by
      rw [Block.areTame, Bool.and_eq_true] at areTame
      exact (adds_block renders takes tight block written areTame.1).trans
        (adds_blocks renders takes tight blocks _ areTame.2)

theorem adds_items (renders : Renders render tame) {path : List String}
    (takes : TakesBlocks path)
    {list : String} (parent : path.head? = some list)
    (isList : list = "ul" ∨ list = "ol")
    (tight : Bool) : ∀ (items : List (List Block)) (written : Written),
      Block.allTame tame items = true →
      Adds path written (writeItems render tight items written)
  | [], written, _ => .refl path written
  | item :: items, written, allTame => by
      rw [Block.allTame, Bool.and_eq_true] at allTame
      have starts : "<li>".toList = (plainTag "li").markup ++ [] := by decide
      have stops : "</li>\n".toList = closingTag "li" ++ ['\n'] := by decide
      have inner :=
        adds_blocks renders
          (takes.cons (show isHolderTag "li" = true by decide)) tight
          item (written.freshLine.addText "<li>") allTame.1
      have first :=
        adds_holder takes (plainTag "li")
          (isBare_plainTag (by decide)) (by decide)
          (.running takes.flows (.item parent isList takes.noParagraph)) starts
          List.not_mem_nil stops inner
      exact first.trans
        (adds_items renders takes parent isList tight items _ allTame.2)

end

end Blocks

/-- The text holds no raw HTML and no link inside a link. -/
def IsTame (text : String) : Prop :=
  Block.areTame
    (fun prose => Inline.areTame false
      (prose.resolve text.toList.toArray (readDocument text.toList.toArray).2))
    (readDocument text.toList.toArray).1 = true

instance (text : String) : Decidable (IsTame text) :=
  inferInstanceAs (Decidable (_ = _))

/-- A text without raw HTML is rendered as balanced markup. -/
theorem balanced_render {text : String} (tame : IsTame text)
    {path : List String}
    (takes : TakesBlocks path) : Balanced path (render text).toList := by
  have renders : Renders
      (fun prose => inlinesMarkup
        (prose.resolve text.toList.toArray
          (readDocument text.toList.toArray).2))
      (fun prose => Inline.areTame false
        (prose.resolve text.toList.toArray
          (readDocument text.toList.toArray).2)) :=
    fun _ isTame _ flows noLink =>
      balanced_inlines flows (fun _ => noLink) _ isTame
  obtain ⟨piece, balanced, written⟩ :=
    adds_blocks renders takes false (readDocument text.toList.toArray).1 [] tame
  have rendered : (render text).toList = (Written.add [] piece).reverse := by
    rw [← written]
    exact String.toList_ofList
  rw [rendered, Written.add, List.append_nil, List.reverse_reverse]
  exact balanced

end LessonSite.Markdown
