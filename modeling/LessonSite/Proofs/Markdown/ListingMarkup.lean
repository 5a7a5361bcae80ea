import LessonSite.Proofs.Html.ReadBack
import LessonSite.Proofs.Markdown.Listing
import LessonSite.Proofs.Markdown.Rendered
import LessonSite.Proofs.Markdown.Running
import LessonSite.Proofs.Url.Percent

/-!
# Listings as markup

A listing with literal parts is written with an element for each heading and for
each link.  Its markup spells the tree of just these elements.  What is written
of a text is read back as the text, and an address with the escapes that it is
written with.
-/

namespace LessonSite.Markdown

open Html (RawAttribute RawTag Spells closingTag decodeReferences decodeValue)

section

variable {inValue : Bool}

theorem decodeReferences_cons {character : Char} (plain : character ≠ '&')
    (rest : List Char) :
    decodeReferences inValue (character :: rest) =
      character :: decodeReferences inValue rest := by
  rw [decodeReferences]
  exact plain

theorem decodeReferences_append {text : List Char} (plain : '&' ∉ text)
    (rest : List Char) :
    decodeReferences inValue (text ++ rest) =
      text ++ decodeReferences inValue rest := by
  induction text with
  | nil => rfl
  | cons character text induction =>
      rw [List.mem_cons, not_or] at plain
      rw [List.cons_append, decodeReferences_cons (Ne.symm plain.1),
        induction plain.2, List.cons_append]

private theorem decodeReferences_escapeBody (character : Char)
    (rest : List Char) :
    decodeReferences inValue (escapeBody character ++ rest) =
      character :: decodeReferences inValue rest := by
  by_cases quote : character = '"'
  · subst quote
    exact decodeReferences_cons (by decide) rest
  · have same : escapeBody character = Markup.escapeChar character := by
      unfold escapeBody Markup.escapeChar
      split <;> simp_all
    rw [same, Html.decodeReferences_escapeChar]

theorem decodeReferences_bodyText (text : String) :
    decodeReferences inValue (bodyText text) = text.toList := by
  unfold bodyText
  induction text.toList with
  | nil => rw [List.flatMap_nil, decodeReferences]
  | cons character text induction =>
      rw [List.flatMap_cons, decodeReferences_escapeBody, induction]

/-- The characters of an address that are escaped in markup. -/
def addressSet : Url.EscapeSet :=
  fun character =>
    !(isAddressSafe character || character == '&' || character == '\'')

theorem isAscii_of_isAddressSafe {character : Char}
    (safe : isAddressSafe character = true) :
    character.toNat < 0x80 := by
  rw [isAddressSafe, Bool.or_eq_true] at safe
  rcases safe with letter | mark
  · delta Char.isAlphanum Char.isAlpha Char.isUpper Char.isLower
      Char.isDigit at letter
    simp only [Bool.or_eq_true, Bool.and_eq_true, decide_eq_true_eq, ge_iff_le,
      UInt32.le_iff_toNat_le] at letter
    have code : character.toNat = character.val.toNat := rfl
    simp at letter
    omega
  · have all :
        ∀ mark ∈ "!#$%()*+,-./:;=?@_~".toList, mark.toNat < 0x80 := by decide
    exact all character (List.contains_iff_mem.mp mark)

private theorem escapeChar_addressSet {character : Char}
    (safe : isAddressSafe character = false)
    (noAmpersand : character ≠ '&') (noQuote : character ≠ '\'') :
    escapeAddressChar character = Url.escapeChar addressSet character := by
  have digits :
      ∀ value < 16, upperHexDigit value = Url.hexDigit value := by decide
  have bytes :
      (fun byte : UInt8 =>
          ['%', upperHexDigit (byte.toNat / 16),
            upperHexDigit (byte.toNat % 16)]) =
        Url.escapeByte := by
    funext byte
    have small := byte.toNat_lt
    rw [Url.escapeByte, digits _ (by omega), digits _ (by omega)]
  have escaped : addressSet character = true := by
    simp [addressSet, safe, noAmpersand, noQuote]
  rw [escapeAddressChar, safe, if_neg Bool.false_ne_true, if_neg noAmpersand,
    if_neg noQuote, Url.escapeChar, escaped, Bool.or_true, if_pos rfl, bytes]

private theorem decodeReferences_escapeAddressChar (character : Char)
    (rest : List Char) :
    decodeReferences inValue (escapeAddressChar character ++ rest) =
      Url.escapeChar addressSet character ++ decodeReferences inValue rest := by
  have kept : ∀ mark : Char, mark.toNat < 0x80 → addressSet mark = false →
      Url.escapeChar addressSet mark = [mark] := fun _ =>
        Url.escapeChar_of_isKept
  cases safe : isAddressSafe character with
  | true =>
      have plain : character ≠ '&' := by
        rintro rfl
        cases safe
      rw [escapeAddressChar, safe, if_pos rfl,
        kept character (isAscii_of_isAddressSafe safe)
          (by simp [addressSet, safe])]
      exact decodeReferences_cons plain rest
  | false =>
      by_cases ampersand : character = '&'
      · subst ampersand
        rw [kept '&' (by decide) (by decide)]
        exact Html.decodeReferences_escapeChar '&' rest
      · by_cases quote : character = '\''
        · subst quote
          rw [kept '\'' (by decide) (by decide)]
          have number :
              Html.readReference inValue
                  ('#' :: 'x' :: '2' :: '7' :: ';' :: rest) =
                some (['\''], rest) := rfl
          have written :
              escapeAddressChar '\'' ++ rest =
                '&' :: '#' :: 'x' :: '2' :: '7' :: ';' :: rest := rfl
          have shorter :
              rest.length ≤
                ('#' :: 'x' :: '2' :: '7' :: ';' :: rest).length := by
            simp only [List.length_cons]
            omega
          rw [written, decodeReferences, number]
          simp only [shorter, dite_true, List.singleton_append]
        · have escaped := escapeChar_addressSet safe ampersand quote
          rw [escaped]
          refine decodeReferences_append (fun member => ?_) rest
          have single : '&' ∈ Url.escape addressSet [character] := by
            rwa [Url.escape, List.flatMap_singleton]
          rcases Url.mem_escape single with same | percent | digit
          · exact ampersand (List.mem_singleton.mp same).symm
          · cases percent
          · cases digit

theorem decodeValue_addressText (text : String) :
    decodeValue (addressText text) =
      String.ofList (Url.escape addressSet text.toList) := by
  have noNul : '\x00' ∉ addressText text := fun member =>
    absurd (mem_addressText member) (by decide)
  rw [decodeValue, Html.replaceNul_clean noNul]
  congr 1
  unfold addressText Url.escape
  induction text.toList with
  | nil => rw [List.flatMap_nil, decodeReferences]; rfl
  | cons character text induction =>
      rw [List.flatMap_cons, decodeReferences_escapeAddressChar, induction,
        List.flatMap_cons]

end

variable {source : Source} {definitions : List Definition} {run : List Char}
  {written : Written}

/-- An element with its content as it is written. -/
def element (tag : RawTag) (inside : List Char) : List Char :=
  tag.markup ++ (inside ++ closingTag tag.name)

def headingMarkup (level : Nat) (run : List Char) : List Char :=
  element (plainTag ("h" ++ toString level)) (bodyText (String.ofList run))

/-- The element of an item that is a link. -/
def itemMarkup (link : List Char × List Char) : List Char :=
  element (plainTag "li")
    (element (linkTag (String.ofList link.2) "")
      (bodyText (String.ofList link.1)))

/-- The elements of a section, each on a line of its own. -/
def Section.markup (part : Section) : List Char :=
  headingMarkup 2 part.heading ++ '\n' ::
    (element (plainTag "ul")
      ('\n' :: part.links.flatMap fun link => itemMarkup link ++ ['\n']) ++
      ['\n'])

def listingMarkup (title : List Char) (parts : List Section) : List Char :=
  headingMarkup 1 title ++ '\n' :: parts.flatMap Section.markup

namespace Written

theorem freshLine_add_feed (written : Written) (text : List Char) :
    (written.add (text ++ ['\n'])).freshLine =
      written.add (text ++ ['\n']) := by
  rw [add, List.reverse_append, List.reverse_singleton]
  rfl

end Written

theorem inlinesMarkup_textInlines (run : List Char) :
    inlinesMarkup (textInlines run) = bodyText (String.ofList run) := by
  unfold textInlines
  split
  · next empty => rw [empty]; rfl
  · exact List.append_nil _

theorem inlinesMarkup_link (link : List Char × List Char) :
    inlinesMarkup [.link (String.ofList link.2) "" (textInlines link.1)] =
      element (linkTag (String.ofList link.2) "")
        (bodyText (String.ofList link.1)) := by
  have single : ∀ item : Inline, inlinesMarkup [item] = inlineMarkup item :=
    fun item => List.append_nil _
  have written :
      ∀ destination title children,
        inlineMarkup (.link destination title children) =
          "<a href=\"".toList ++ addressText destination ++
            titleAttribute title ++ "\">".toList ++
            inlinesMarkup children ++ "</a>".toList := fun _ _ _ => rfl
  have closing : "</a>".toList = closingTag "a" := by decide
  rw [single, written, inlinesMarkup_textInlines, element, ← markup_linkTag,
    List.append_assoc, closing]
  rfl

/-- How running text is rendered. -/
def renderProse (source : Source) (definitions : List Definition)
    (prose : Prose) : List Char :=
  inlinesMarkup (prose.resolve source definitions)

theorem writeBlock_heading {level : Nat} {block : Block} {tight : Bool}
    (isHeading : IsHeading source level run block)
    (fresh : written.freshLine = written) :
    writeBlock (renderProse source definitions) tight block written =
      written.add (headingMarkup level run ++ ['\n']) := by
  obtain ⟨prose, rfl, means⟩ := isHeading
  have chosen :
      writeBlock (renderProse source definitions) tight
          (.heading level prose) written =
        ((written.freshLine.addText ("<" ++ ("h" ++ toString level) ++ ">")).add
          (renderProse source definitions prose)).addText
          ("</" ++ ("h" ++ toString level) ++ ">\n") := rfl
  rw [chosen, fresh, renderProse, means definitions, inlinesMarkup_textInlines,
    headingMarkup]
  generalize "h" ++ toString level = name
  simp [Written.addText, ← Written.add_append, element, plainTag, RawTag.markup,
    RawTag.ending, closingTag]

theorem writeItems_links {links : List (List Char × List Char)}
    {items : List (List Block)}
    (areItems : List.Forall₂ (IsItem source) links items)
    (fresh : written.freshLine = written) :
    writeItems (renderProse source definitions) true items written =
      written.add (links.flatMap fun link => itemMarkup link ++ ['\n']) := by
  induction areItems generalizing written with
  | nil => rfl
  | @cons link item links items isItem areItems induction =>
      obtain ⟨prose, rfl, means⟩ := isItem
      have chosen :
          writeItems (renderProse source definitions) true
              ([.paragraph prose] :: items) written =
            writeItems (renderProse source definitions) true items
              (((written.freshLine.addText "<li>").add
                  (renderProse source definitions prose)).addText
                "</li>\n") := rfl
      have one :
          ((written.addText "<li>").add
              (renderProse source definitions prose)).addText "</li>\n" =
            written.add (itemMarkup link ++ ['\n']) := by
        rw [renderProse, means definitions, inlinesMarkup_link, itemMarkup,
          element.eq_def (plainTag "li")]
        simp [Written.addText, ← Written.add_append, plainTag, RawTag.markup,
          RawTag.ending, closingTag]
      rw [chosen, fresh, one, induction (written.freshLine_add_feed _),
        ← Written.add_append, List.flatMap_cons]

/-- The elements of sections are written one after the other. -/
theorem writeBlocks_sections {parts : List Section} {blocks : List Block}
    (areSections : AreSections source parts blocks)
    (fresh : written.freshLine = written) :
    writeBlocks (renderProse source definitions) false blocks written =
      written.add (parts.flatMap Section.markup) := by
  induction areSections generalizing written with
  | nil => rfl
  | @cons part parts heading items blocks headed listed others induction =>
      have chosen : writeBlocks (renderProse source definitions) false
          (heading :: .list none true items :: blocks) written =
          writeBlocks (renderProse source definitions) false blocks
            (writeBlock (renderProse source definitions) false
              (.list none true items)
              (writeBlock (renderProse source definitions) false heading
                written)) := rfl
      have list :
          ∀ written : Written, writeBlock (renderProse source definitions) false
            (.list none true items) written =
              (writeItems (renderProse source definitions) true items
                (written.freshLine.addText "<ul>\n")).addText "</ul>\n" :=
        fun _ => rfl
      have begun :
          ∀ written : Written,
            (written.addText "<ul>\n").freshLine = written.addText "<ul>\n" :=
        fun written => written.freshLine_add_feed "<ul>".toList
      have whole :
          (((written.add (headingMarkup 2 part.heading ++ ['\n'])).addText
              "<ul>\n").add
            (part.links.flatMap fun link => itemMarkup link ++ ['\n'])).addText
            "</ul>\n" =
              written.add part.markup := by
        simp [Written.addText, ← Written.add_append, Section.markup, element,
          plainTag, RawTag.markup, RawTag.ending, closingTag]
      have ended :
          (written.add part.markup).freshLine = written.add part.markup := by
        have last :
            part.markup =
              headingMarkup 2 part.heading ++ '\n' :: element (plainTag "ul")
                ('\n' ::
                  part.links.flatMap fun link => itemMarkup link ++ ['\n']) ++
                ['\n'] := by
          simp [Section.markup]
        rw [last]
        exact written.freshLine_add_feed _
      rw [chosen, writeBlock_heading headed fresh, list,
        written.freshLine_add_feed, writeItems_links listed (begun _), whole,
        induction ended, ← Written.add_append, List.flatMap_cons]

/-- A listing is rendered with an element for each of its parts. -/
theorem render_listing {title : List Char} {parts : List Section}
    (isText : IsHeadingText title) (plain : ∀ part ∈ parts, part.IsPlain) :
    render (String.ofList (listingText title parts)) =
      String.ofList (listingMarkup title parts) := by
  obtain ⟨heading, blocks, isHeading, areSections, read⟩ :=
    readDocument_listing isText plain
  have chosen : render (String.ofList (listingText title parts)) =
      String.ofList
        (writeBlocks
          (renderProse (String.ofList (listingText title parts)).toList.toArray
            (readDocument
              (String.ofList (listingText title parts)).toList.toArray).2) false
          (readDocument
            (String.ofList (listingText title parts)).toList.toArray).1
          []).reverse := rfl
  rw [String.toList_ofList] at chosen
  have first :
      ∀ definitions,
        writeBlocks
          (renderProse (listingText title parts).toArray definitions) false
          (heading :: blocks) [] =
            writeBlocks
              (renderProse (listingText title parts).toArray definitions)
              false blocks
              (writeBlock
                (renderProse (listingText title parts).toArray definitions)
                false heading []) :=
    fun _ => rfl
  rw [chosen, read, first, writeBlock_heading isHeading rfl,
    writeBlocks_sections areSections (Written.freshLine_add_feed _ _),
    ← Written.add_append, Written.add, List.append_nil, List.reverse_reverse,
    listingMarkup, List.append_assoc]
  rfl

open Html (Node)

/-- The element of an item that is a link. -/
def itemNode (link : List Char × List Char) : Node :=
  .element ⟨.html, "li"⟩ [] [.element ⟨.html, "a"⟩
    [⟨"href", String.ofList (Url.escape addressSet link.2)⟩]
    (Node.ofText (String.ofList link.1))]

/-- The elements of a section, with the line feeds between them. -/
def Section.nodes (part : Section) : List Node :=
  [.element ⟨.html, "h2"⟩ [] (Node.ofText (String.ofList part.heading)),
    .text "\n",
    .element ⟨.html, "ul"⟩ []
      (.text "\n" ::
        part.links.flatMap fun link => [itemNode link, .text "\n"]), .text "\n"]

/-- The elements of a listing, with the line feeds between them. -/
def listingNodes (title : List Char) (parts : List Section) : List Node :=
  .element ⟨.html, "h1"⟩ [] (Node.ofText (String.ofList title)) :: .text "\n" ::
    parts.flatMap Section.nodes

section Spelling

open Html.Construction (MayOpen)

variable {path : List String} {nodes children : List Node}
  {inside rest : List Char}

theorem spells_element {tag : RawTag} (valid : tag.IsValid)
    (isOpen : tag.selfClosing = false)
    (opens : MayOpen path tag.name)
    (inner : Spells (tag.name :: path) children inside)
    (others : Spells path nodes rest) :
    Spells path
      (.element ⟨.html, tag.name⟩ (tag.attributes.map RawAttribute.read)
        children :: nodes)
      (element tag inside ++ rest) := by
  rw [element, List.append_assoc, List.append_assoc]
  exact .element valid isOpen opens inner others

theorem spells_plain {name : String} (named : Html.isName name = true)
    (opens : MayOpen path name)
    (inner : Spells (name :: path) children inside)
    (others : Spells path nodes rest) :
    Spells path (.element ⟨.html, name⟩ [] children :: nodes)
      (element (plainTag name) inside ++ rest) :=
  spells_element (isBare_plainTag named).1 rfl opens inner others

theorem spells_text (path : List String) {text : String}
    (noNul : '\x00' ∉ text.toList) :
    Spells path (Node.ofText text) (bodyText text) := by
  unfold Node.ofText
  split
  · next empty =>
      rw [empty]
      exact .nil path
  · next nonempty =>
      have spelled : Spells path [.text text] (bodyText text ++ []) :=
        .text nonempty noNul (not_mem_bodyText text)
          (decodeReferences_bodyText text) nofun (.nil path)
      rwa [List.append_nil] at spelled

theorem spells_feed (apart : ∀ node ∈ nodes.head?, node.isText = false)
    (others : Spells path nodes rest) :
    Spells path (.text "\n" :: nodes) ('\n' :: rest) := by
  have decodes : Html.decodeReferences false ['\n'] = "\n".toList := by
    rw [decodeReferences_cons (by decide), Html.decodeReferences]
    rfl
  have nonempty : "\n" ≠ "" := by decide
  exact .text nonempty (by decide) (by decide) decodes apart others

theorem spells_item {link : List Char × List Char} (noNul : '\x00' ∉ link.1)
    (list : path.head? = some "ul")
    (noParagraph : "p" ∉ path) (noLink : "a" ∉ path)
    (others : Spells path nodes rest) :
    Spells path (itemNode link :: nodes) (itemMarkup link ++ rest) := by
  have text :
      Spells ("a" :: "li" :: path) _ (bodyText (String.ofList link.1)) :=
    spells_text _ (by simpa using noNul)
  have opens : MayOpen ("li" :: path) "a" :=
    .link (List.not_mem_cons_of_ne_of_not_mem (by decide) noLink)
  have inner :=
    spells_element (isValid_linkTag (String.ofList link.2) "") rfl opens
      text (.nil _)
  rw [List.append_nil] at inner
  have address :
      (linkTag (String.ofList link.2) "").attributes.map RawAttribute.read =
        [⟨"href", String.ofList (Url.escape addressSet link.2)⟩] := by
    have value := decodeValue_addressText (String.ofList link.2)
    rw [String.toList_ofList] at value
    rw [← value]
    rfl
  rw [address] at inner
  exact spells_plain (by decide) (.item list (.inl rfl) noParagraph)
    inner others

theorem spells_items {links : List (List Char × List Char)}
    (noNul : ∀ link ∈ links, '\x00' ∉ link.1)
    (list : path.head? = some "ul") (noParagraph : "p" ∉ path)
    (noLink : "a" ∉ path) :
    Spells path (links.flatMap fun link => [itemNode link, .text "\n"])
      (links.flatMap fun link => itemMarkup link ++ ['\n']) := by
  induction links with
  | nil => exact .nil path
  | cons link links induction =>
      obtain ⟨here, noNul⟩ := List.forall_mem_cons.mp noNul
      have others :=
        spells_feed (by cases links <;> simp [itemNode, Node.isText])
          (induction noNul)
      have spelled := spells_item here list noParagraph noLink others
      rw [List.flatMap_cons, List.flatMap_cons, List.append_assoc]
      exact spelled

theorem spells_heading {level : Nat} {name : String}
    (isName : "h" ++ toString level = name)
    (heading : Html.Construction.isHeadingTag name = true)
    (named : Html.isName name = true)
    (noNul : '\x00' ∉ run) (noParagraph : "p" ∉ path)
    (separate : ∀ inner ∈ path.head?,
      Html.Construction.isHeadingTag inner = false)
    (others : Spells path nodes rest) :
    Spells path
      (.element ⟨.html, name⟩ [] (Node.ofText (String.ofList run)) :: nodes)
      (headingMarkup level run ++ rest) := by
  rw [headingMarkup, isName]
  exact spells_plain named (.heading heading noParagraph separate)
    (spells_text _ (by simpa using noNul)) others

theorem spells_sections {parts : List Section}
    (plain : ∀ part ∈ parts, part.IsPlain) :
    Spells ["body", "html"] (parts.flatMap Section.nodes)
      (parts.flatMap Section.markup) := by
  induction parts with
  | nil => exact .nil _
  | cons part parts induction =>
      obtain ⟨⟨isText, -, labels, -⟩, plain⟩ := List.forall_mem_cons.mp plain
      have others :=
        spells_feed (by cases parts <;> simp [Section.nodes, Node.isText])
          (induction plain)
      have noNul : ∀ link ∈ part.links, '\x00' ∉ link.1 := fun link member =>
        (labels link member).not_mem (by decide)
      have links : Spells ["ul", "body", "html"] _ _ :=
        spells_items noNul rfl (by decide) (by decide)
      have items :=
        spells_feed (by cases part.links <;> simp [itemNode, Node.isText]) links
      have list :=
        spells_plain (by decide) (.block (by decide) (by decide) (by decide))
          items others
      have spelled :=
        spells_heading (show "h" ++ toString 2 = "h2" from rfl)
          (by decide) (by decide)
          (isText.literal.not_mem (by decide)) (by decide) (by decide)
          (spells_feed (by simp [Node.isText]) list)
      rw [List.flatMap_cons, List.flatMap_cons, Section.markup,
        List.append_assoc, List.cons_append, List.append_assoc]
      exact spelled

theorem spells_listing {title : List Char} {parts : List Section}
    (isText : IsHeadingText title) (plain : ∀ part ∈ parts, part.IsPlain) :
    Spells ["body", "html"] (listingNodes title parts)
      (listingMarkup title parts) := by
  have others :=
    spells_feed (by cases parts <;> simp [Section.nodes, Node.isText])
      (spells_sections plain)
  exact spells_heading (show "h" ++ toString 1 = "h1" from rfl)
    (by decide) (by decide)
    (isText.literal.not_mem (by decide)) (by decide) (by decide) others

end Spelling

theorem not_mem_element {tag : RawTag} {inside : List Char}
    (named : Html.isName tag.name = true)
    (inTag : '\r' ∉ tag.markup) (inInside : '\r' ∉ inside) :
    '\r' ∉ element tag inside := by
  have inClosing := Html.not_mem_closingTag named
  simp [element, inTag, inInside, inClosing]

theorem not_mem_plain {name : String} {inside : List Char}
    (named : Html.isName name = true)
    (inInside : '\r' ∉ inside) : '\r' ∉ element (plainTag name) inside := by
  have inTag : '\r' ∉ Html.openingTag name [] :=
    Html.not_mem_openingTag named nofun
  exact not_mem_element named inTag inInside

theorem return_not_mem_bodyText (literal : AreLiteral run) :
    '\r' ∉ bodyText (String.ofList run) := by
  have absent := literal.not_mem (show isLiteral '\r' = false by decide)
  intro member
  obtain ⟨character, inside, written⟩ := List.mem_flatMap.mp member
  rw [String.toList_ofList] at inside
  unfold escapeBody at written
  split at written
  · exact absurd written (by decide)
  · exact absurd written (by decide)
  · exact absurd written (by decide)
  · exact absent (List.mem_singleton.mp written ▸ inside)

theorem not_mem_itemMarkup {link : List Char × List Char}
    (literal : AreLiteral link.1) :
    '\r' ∉ itemMarkup link := by
  have inAddress : '\r' ∉ addressText (String.ofList link.2) := fun member =>
    absurd (mem_addressText member) (by decide)
  have inTag : '\r' ∉ (linkTag (String.ofList link.2) "").markup := by
    rw [markup_linkTag]
    simp [titleAttribute, inAddress]
  exact not_mem_plain (by decide)
    (not_mem_element (show Html.isName "a" = true by decide) inTag
      (return_not_mem_bodyText literal))

theorem not_mem_listingMarkup {title : List Char} {parts : List Section}
    (isText : IsHeadingText title)
    (plain : ∀ part ∈ parts, part.IsPlain) :
    '\r' ∉ listingMarkup title parts := by
  have inTitle : '\r' ∉ headingMarkup 1 title :=
    not_mem_plain (by decide) (return_not_mem_bodyText isText.literal)
  have inParts : '\r' ∉ parts.flatMap Section.markup := by
    intro member
    obtain ⟨part, isPart, inside⟩ := List.mem_flatMap.mp member
    obtain ⟨isHeading, -, labels, -⟩ := plain part isPart
    have inHeading : '\r' ∉ headingMarkup 2 part.heading :=
      not_mem_plain (by decide) (return_not_mem_bodyText isHeading.literal)
    have inItems :
        '\r' ∉
          '\n' :: part.links.flatMap fun link => itemMarkup link ++ ['\n'] := by
      rw [List.mem_cons, List.mem_flatMap]
      rintro (feed | ⟨link, isLink, written⟩)
      · cases feed
      · rw [List.mem_append, List.mem_singleton] at written
        rcases written with item | feed
        · exact not_mem_itemMarkup (labels link isLink) item
        · cases feed
    have inList : '\r' ∉ element (plainTag "ul")
        ('\n' :: part.links.flatMap fun link => itemMarkup link ++ ['\n']) :=
      not_mem_plain (by decide) inItems
    simp [Section.markup, inHeading, inList] at inside
  simp [listingMarkup, inTitle, inParts]

/-- A listing with literal parts is shown with an element for each of its parts,
and nothing else. -/
theorem parse_render_listing {title : List Char} {parts : List Section}
    (isText : IsHeadingText title) (plain : ∀ part ∈ parts, part.IsPlain) :
    Html.parse (render (String.ofList (listingText title parts))) =
      [.element ⟨.html, "html"⟩ [] [.element ⟨.html, "head"⟩ [] [],
        .element ⟨.html, "body"⟩ [] (listingNodes title parts)]] := by
  rw [render_listing isText plain]
  exact Html.parse_spelled rfl (spells_listing isText plain)
    (not_mem_listingMarkup isText plain)

end LessonSite.Markdown
