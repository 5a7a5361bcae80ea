import LessonSite.Proofs.Markdown.ListedBlocks
import LessonSite.Proofs.Markdown.ListedProse

/-!
# Listings

A listing has a title and, under headings, lists of links.  Where its parts are
literal it is read as just that: the reader is between two blocks or in a list,
and each line takes it from one of these states to the next.
-/

namespace LessonSite.Markdown

variable {source : Source} {position fuel level : Nat}
  {run rest marks label target : List Char}

/-- A heading with the links listed below it, each with its text and its
target. -/
structure Section where
  heading : List Char
  links : List (List Char × List Char)

/-- The line of an item that is a link. -/
def itemText (link : List Char × List Char) : List Char :=
  '-' :: ' ' :: (linkText link.1 link.2 ++ ['\n'])

def Section.text (part : Section) : List Char :=
  '\n' :: '#' :: '#' :: ' ' ::
    (part.heading ++ '\n' :: '\n' :: part.links.flatMap itemText)

def listingText (title : List Char) (sections : List Section) : List Char :=
  '#' :: ' ' :: (title ++ '\n' :: sections.flatMap Section.text)

/-- The names in the section are literal, and it lists something. -/
structure Section.IsPlain (part : Section) : Prop where
  heading : IsHeadingText part.heading
  nonempty : part.links ≠ []
  labels : ∀ link ∈ part.links, AreLiteral link.1
  targets : ∀ link ∈ part.links, IsTarget link.2

/-- The running text means these inlines, whatever link definitions there
are. -/
def Prose.Means (source : Source) (prose : Prose)
    (items : List Inline) : Prop :=
  ∀ definitions, prose.resolve source definitions = items

/-- The block is a heading that says the text. -/
def IsHeading (source : Source) (level : Nat) (run : List Char)
    (block : Block) : Prop :=
  ∃ prose : Prose,
    block = .heading level prose ∧ prose.Means source (textInlines run)

/-- The content of an item is the link. -/
def IsItem (source : Source) (link : List Char × List Char)
    (item : List Block) : Prop :=
  ∃ prose : Prose, item = [.paragraph prose] ∧
    prose.Means source [.link (String.ofList link.2) "" (textInlines link.1)]

/-- The blocks are the headings of the sections, each with the list of its
links. -/
inductive AreSections (source : Source) : List Section → List Block → Prop where
  | nil : AreSections source [] []
  | cons {part : Section} {parts : List Section} {heading : Block}
      {items : List (List Block)}
      {blocks : List Block} (headed : IsHeading source 2 part.heading heading)
      (listed : List.Forall₂ (IsItem source) part.links items)
      (others : AreSections source parts blocks) :
      AreSections source (part :: parts)
        (heading :: .list none true items :: blocks)

namespace Outline

/-- Between two blocks that stand in no container; the blocks read so far come
latest first. -/
def between (done : List Block) (blank : Bool) : Outline :=
  ⟨[], done, [], false, blank⟩

/-- In the latest item of a list. -/
def inList (done : List Block) (earlier : List (List Block)) (latest : Block)
    (blank : Bool) : Outline :=
  ⟨[.item 2 [latest], .list true '-' 0 earlier], done, [], false, blank⟩

/-- A line has been read, and these are the blocks so far when nothing more
belongs to the last of them. -/
inductive Settles : Outline → List Block → Prop where
  | between (done : List Block) : Settles (.between done false) done
  | inList (done : List Block) (earlier : List (List Block)) (latest : Block) :
      Settles (.inList done earlier latest false)
        (.list none true ([latest] :: earlier).reverse :: done)

theorem Settles.finish {outline : Outline} {blocks : List Block}
    (settles : outline.Settles blocks) :
    outline.finish = blocks.reverse := by
  cases settles <;> rfl

end Outline

namespace Source.Stands

theorem readLeaf_link (outline : Outline) (tabStart : Nat)
    (stands : source.Stands position (linkText label target ++ '\n' :: rest))
    (literal : AreLiteral label)
    (literalTarget : AreLiteral target) (follows : FollowsItem rest)
    (containers : outline.containers = [.item 2]) :
    readLeaf source outline ⟨position, tabStart, 0⟩ =
      (outline.add (.paragraph ⟨linkPieces position label target,
          position + (linkText label target).length + 1, [.item 2], false⟩),
        position + (linkText label target).length + 1) := by
  have opening :
      source.Stands position
        ('[' :: (label ++ ']' :: '(' :: (target ++ ')' :: '\n' :: rest))) := by
    rwa [← linkText_append]
  rw [readLeaf, containers]
  simp only [opening.takeUpTo_none (by simp) 4,
    opening.blockStart?_none (by simp), opening.rule?_none (by simp),
    opening.headingLevel?_none (by simp), stands.definition?_none literal,
    opening.fence?_none (by simp),
    stands.paragraph_link literal literalTarget follows]
  rfl

theorem headingLevel?_marks
    (stands : source.Stands position (marks ++ ' ' :: rest))
    (each : ∀ mark ∈ marks, mark = '#') (some_ : 1 ≤ marks.length)
    (few : marks.length ≤ 6) :
    headingLevel? source position = some marks.length := by
  have stop : source.skipRun '#' position = position + marks.length :=
    stands.skipWhile (by simpa using each) (by simp)
  have space : source[position + marks.length]? = some ' ' :=
    stands.after.getElem?
  have level : position + marks.length - position = marks.length := by omega
  rw [headingLevel?, stop, space]
  simp only [level, some_, few]
  rfl

theorem readLeaf_heading (outline : Outline) (tabStart : Nat)
    (stands : source.Stands position (marks ++ ' ' :: (run ++ '\n' :: rest)))
    (isText : IsHeadingText run)
    (each : ∀ mark ∈ marks, mark = '#') (some_ : 1 ≤ marks.length)
    (few : marks.length ≤ 6) :
    readLeaf source outline ⟨position, tabStart, 0⟩ =
      (outline.add
          (.heading marks.length ⟨textPieces (position + marks.length + 1) run,
            position + marks.length + 1 + run.length + 1, outline.containers,
            false⟩),
        position + marks.length + 1 + run.length + 1) := by
  obtain ⟨first, others, rfl⟩ := List.exists_cons_of_length_pos some_
  obtain rfl : first = '#' := each first List.mem_cons_self
  have level := stands.headingLevel?_marks each some_ few
  have marked := stands
  rw [List.cons_append] at marked
  rw [readLeaf]
  simp only [marked.takeUpTo_none (by simp) 4,
    marked.blockStart?_none (by simp), marked.rule?_none (by simp), level,
    numberSignHeading_literal rfl stands isText]
  rfl

/-- At a line that is no item and no quote nothing is opened. -/
theorem openContainers_none {outline : Outline} {tabStart : Nat}
    (stands : source.Stands position rest)
    (solid : ∀ first ∈ rest.head?,
      first ≠ ' ' ∧ first ≠ '\t' ∧ first ≠ '>' ∧ first ≠ '-' ∧ first ≠ '+' ∧
        first ≠ '*' ∧ first.isDigit = false) :
    openContainers source fuel outline ⟨position, tabStart, 0⟩ =
      .rest outline ⟨position, tabStart, 0⟩ := by
  cases fuel with
  | zero => rfl
  | succ fuel =>
      have noSpace : ∀ first ∈ rest.head?, first ≠ ' ' ∧ first ≠ '\t' :=
        fun first isFirst =>
          ⟨(solid first isFirst).1, (solid first isFirst).2.1⟩
      have noItem :
          ∀ first ∈ rest.head?,
            first ≠ '-' ∧ first ≠ '+' ∧ first ≠ '*' ∧ first.isDigit = false :=
        fun first isFirst => (solid first isFirst).2.2.2
      have noQuote : rest.head? ≠ some '>' := fun same =>
        (solid '>' same).2.2.1 rfl
      rw [openContainers]
      simp only [stands.takeUpTo_none noSpace 4, stands.listItem?_none noItem,
        stands.quoteMark?_none noQuote]
      rfl

theorem openContainers_item {outline : Outline} {tabStart : Nat}
    (stands : source.Stands position ('-' :: ' ' :: '[' :: rest)) :
    openContainers source (fuel + 1) outline ⟨position, tabStart, 0⟩ =
      .rest { outline.continueList '-' 0 with
        frames := .item 2 [] :: (outline.continueList '-' 0).frames }
        ⟨position + 2, tabStart, 0⟩ := by
  have third : source.Stands (position + 2) ('[' :: rest) := stands.next.next
  have text : source.blankLine? (position + 2) = none :=
    third.blankLine?_none (by decide) (by decide)
  rw [openContainers]
  simp only [stands.takeUpTo_none (by simp) 4, stands.listItem?_item, text]
  exact third.openContainers_none (by simp)

theorem readBlock_blank {outline : Outline}
    (stands : source.Stands position ('\n' :: rest))
    (entered : (Cursor.start position).enterAll source outline.containers =
      (⟨position, position, 0⟩, outline.containers.length)) :
    readBlock source outline position = (outline.blankLine, position + 1) := by
  have stays :
      outline.closeTo outline.containers.length
        (2 * outline.frames.length + 1) = outline := by
    rw [Outline.closeTo, if_pos (Nat.le_refl _)]
  rw [readBlock, entered]
  simp only [stays, stands.openContainers_none (by simp),
    stands.blankLine?_feed]

theorem readBlock_heading {outline : Outline} {blocks : List Block}
    (stands : source.Stands position (marks ++ ' ' :: (run ++ '\n' :: rest)))
    (isText : IsHeadingText run)
    (each : ∀ mark ∈ marks, mark = '#') (some_ : 1 ≤ marks.length)
    (few : marks.length ≤ 6)
    (entered : (Cursor.start position).enterAll source outline.containers =
      (⟨position, position, 0⟩, 0))
    (closed : (outline.closeTo 0 (2 * outline.frames.length + 1)).finishList =
      .between blocks false) :
    ∃ heading,
      IsHeading source marks.length run heading ∧
        readBlock source outline position =
          (.between (heading :: blocks) false,
            position + marks.length + 1 + run.length + 1) := by
  have level :=
    stands.readLeaf_heading (.between blocks false) position isText
      each some_ few
  have standsText := stands.after.next
  obtain ⟨first, others, rfl⟩ := List.exists_cons_of_length_pos some_
  obtain rfl : first = '#' := each first List.mem_cons_self
  rw [List.cons_append] at stands
  refine ⟨.heading _ ⟨textPieces (position + ('#' :: others).length + 1) run,
    position + ('#' :: others).length + 1 + run.length + 1, [], false⟩,
    ⟨_, rfl, fun _ => resolve_textPieces standsText⟩, ?_⟩
  rw [readBlock, entered]
  simp only [stands.openContainers_none (by simp),
    stands.blankLine?_none (by decide) (by decide), closed]
  exact level

/-- An item goes on with the list that is open, or with a new one. -/
theorem readBlock_item {outline : Outline} {done : List Block}
    {items : List (List Block)}
    (stands : source.Stands position
      ('-' :: ' ' :: (linkText label target ++ '\n' :: rest)))
    (literal : AreLiteral label) (isTarget : IsTarget target)
    (follows : FollowsItem rest)
    (entered : (Cursor.start position).enterAll source outline.containers =
      (⟨position, position, 0⟩, 0))
    (listed : (outline.closeTo 0 (2 * outline.frames.length + 1)).continueList
        '-' 0 =
      ⟨[.list true '-' 0 items], done, [], false, false⟩) :
    ∃ latest,
      IsItem source (label, target) [latest] ∧
        readBlock source outline position =
          (.inList done items latest false,
            position + (linkText label target).length + 3) := by
  have marked := stands
  rw [linkText_append] at marked
  have link :
      source.Stands (position + 2) (linkText label target ++ '\n' :: rest) :=
    stands.next.next
  have opening := link
  rw [linkText_append] at opening
  have leaf :=
    link.readLeaf_link
      ⟨[.item 2 [], .list true '-' 0 items], done, [], false, false⟩ position
      literal isTarget.literal follows rfl
  have stop : position + 2 + (linkText label target).length + 1 =
      position + (linkText label target).length + 3 := by omega
  rw [stop] at leaf
  refine ⟨.paragraph ⟨linkPieces (position + 2) label target,
    position + (linkText label target).length + 3, [.item 2], false⟩,
    ⟨_, rfl, fun _ => resolve_linkPieces link isTarget (by omega)⟩, ?_⟩
  rw [readBlock, entered]
  simp only [marked.openContainers_item, listed,
    opening.blankLine?_none (by decide) (by decide)]
  exact leaf

end Source.Stands

theorem readBlocks_step {outline after : Outline} {next : Nat}
    {character : Char} (stands : source.Stands position (character :: rest))
    (step : readBlock source outline position = (after, next)) :
    readBlocks source (fuel + 1) outline position =
      readBlocks source fuel after next := by
  rw [readBlocks, if_neg (Nat.not_le.mpr stands.lt_size), step]

theorem readBlocks_end {outline : Outline}
    (stands : source.Stands position []) :
    readBlocks source fuel outline position = outline := by
  cases fuel with
  | zero => rfl
  | succ fuel =>
      have all : source.size ≤ position := Nat.not_lt.mp stands.size_le
      rw [readBlocks, if_pos all]

theorem length_itemText (link : List Char × List Char) :
    (itemText link).length = (linkText link.1 link.2).length + 3 := by
  rw [itemText, List.length_cons, List.length_cons, List.length_append]
  rfl

theorem itemText_append (link : List Char × List Char) (rest : List Char) :
    itemText link ++ rest =
      '-' :: ' ' :: (linkText link.1 link.2 ++ '\n' :: rest) := by
  simp [itemText]

/-- What stands behind a section. -/
def IsSectionEnd (rest : List Char) : Prop :=
  rest = [] ∨ ∃ more, rest = '\n' :: more

theorem IsSectionEnd.followsItem (ends : IsSectionEnd rest)
    (links : List (List Char × List Char)) :
    FollowsItem (links.flatMap itemText ++ rest) := by
  cases links with
  | nil =>
      rcases ends with rfl | ⟨more, rfl⟩
      · exact .nothing
      · exact .blank more
  | cons link links =>
      rw [List.flatMap_cons, List.append_assoc, itemText_append,
        linkText_append]
      exact .item _

/-- Items that follow one another all become items of the list. -/
theorem readBlocks_items {links : List (List Char × List Char)} (fuel : Nat)
    (done : List Block) (earlier : List (List Block)) (latest : Block)
    (stands : source.Stands position (links.flatMap itemText ++ rest))
    (labels : ∀ link ∈ links, AreLiteral link.1)
    (targets : ∀ link ∈ links, IsTarget link.2) (ends : IsSectionEnd rest) :
    ∃ items earlier' latest', List.Forall₂ (IsItem source) links items ∧
      ([latest'] :: earlier').reverse = ([latest] :: earlier).reverse ++ items ∧
      readBlocks source (fuel + links.length)
          (.inList done earlier latest false) position =
        readBlocks source fuel (.inList done earlier' latest' false)
          (position + (links.flatMap itemText).length) := by
  induction links generalizing position earlier latest with
  | nil => exact ⟨[], earlier, latest, .nil, (List.append_nil _).symm, rfl⟩
  | cons link links induction =>
      obtain ⟨literal, labels⟩ := List.forall_mem_cons.mp labels
      obtain ⟨isTarget, targets⟩ := List.forall_mem_cons.mp targets
      rw [List.flatMap_cons, List.append_assoc] at stands
      have further := stands.after
      rw [itemText_append] at stands
      have entered : (Cursor.start position).enterAll source
          (Outline.inList done earlier latest false).containers =
          (⟨position, position, 0⟩, 0) :=
        stands.enterAll_item (by simp)
      obtain ⟨next, isItem, step⟩ :=
        stands.readBlock_item literal isTarget
          (ends.followsItem links) entered rfl
      obtain ⟨items, earlier', latest', areItems, all, run⟩ :=
        induction ([latest] :: earlier) next further labels targets
      refine ⟨[next] :: items, earlier', latest', .cons isItem areItems, ?_, ?_⟩
      · rw [all]
        simp
      · rw [List.length_cons, ← Nat.add_assoc, readBlocks_step stands step,
          List.flatMap_cons, List.length_append, ← Nat.add_assoc, ← run,
          length_itemText]
        rfl

theorem readBlocks_list {links : List (List Char × List Char)} (fuel : Nat)
    (done : List Block)
    (stands : source.Stands position (links.flatMap itemText ++ rest))
    (nonempty : links ≠ [])
    (labels : ∀ link ∈ links, AreLiteral link.1)
    (targets : ∀ link ∈ links, IsTarget link.2) (ends : IsSectionEnd rest) :
    ∃ items after,
      List.Forall₂ (IsItem source) links items ∧
        after.Settles (.list none true items :: done) ∧
          readBlocks source (fuel + links.length)
              (.between done true) position =
            readBlocks source fuel after
              (position + (links.flatMap itemText).length) := by
  obtain ⟨link, links, rfl⟩ := List.exists_cons_of_ne_nil nonempty
  obtain ⟨literal, labels⟩ := List.forall_mem_cons.mp labels
  obtain ⟨isTarget, targets⟩ := List.forall_mem_cons.mp targets
  rw [List.flatMap_cons, List.append_assoc] at stands
  have others := stands.after
  rw [itemText_append] at stands
  have begun : ((Outline.between done true).closeTo 0 1).continueList '-' 0 =
      ⟨[.list true '-' 0 []], done, [], false, false⟩ := rfl
  obtain ⟨first, isItem, step⟩ :=
    stands.readBlock_item literal isTarget (ends.followsItem links) rfl begun
  obtain ⟨items, earlier, latest, areItems, all, run⟩ :=
    readBlocks_items fuel done [] first others labels targets ends
  refine ⟨[first] :: items, .inList done earlier latest false,
    .cons isItem areItems, ?_, ?_⟩
  · have settled := Outline.Settles.inList done earlier latest
    rwa [all] at settled
  · rw [List.length_cons, ← Nat.add_assoc, readBlocks_step stands step,
      List.flatMap_cons, List.length_append, ← Nat.add_assoc, ← run,
      length_itemText]
    rfl

/-- The heading of a section stands between blank lines. -/
theorem readBlocks_sectionHeading {outline : Outline} {blocks : List Block}
    (fuel : Nat) (settles : outline.Settles blocks)
    (stands : source.Stands position
      ('\n' :: (['#', '#'] ++ ' ' :: (run ++ '\n' :: '\n' :: rest))))
    (isText : IsHeadingText run) :
    ∃ heading,
      IsHeading source 2 run heading ∧
        readBlocks source (fuel + 3) outline position =
          readBlocks source fuel (.between (heading :: blocks) true)
            (position + 1 + ['#', '#'].length + 1 + run.length + 1 + 1) := by
  have marked := stands.next
  have second := marked.after.next.after.next
  have blank :
      readBlock source outline position =
        (outline.blankLine, position + 1) := by
    refine stands.readBlock_blank ?_
    cases settles with
    | between done => rfl
    | inList done earlier latest => exact stands.enterAll_item (by simp)
  have entered :
      (Cursor.start (position + 1)).enterAll source
          outline.blankLine.containers =
        (⟨position + 1, position + 1, 0⟩, 0) := by
    cases settles with
    | between done => rfl
    | inList done earlier latest => exact marked.enterAll_item (by simp)
  have closed :
      (outline.blankLine.closeTo 0
          (2 * outline.blankLine.frames.length + 1)).finishList =
        .between blocks false := by
    cases settles <;> rfl
  obtain ⟨heading, isHeading, headed⟩ :=
    marked.readBlock_heading isText (by simp) (by simp) (by simp) entered closed
  have blankAgain : readBlock source (.between (heading :: blocks) false) _ =
      (.between (heading :: blocks) true, _) := second.readBlock_blank rfl
  refine ⟨heading, isHeading, ?_⟩
  rw [readBlocks_step stands blank, readBlocks_step marked headed,
    readBlocks_step second blankAgain]

theorem Section.text_append (part : Section) (rest : List Char) :
    part.text ++ rest = '\n' :: (['#', '#'] ++ ' ' :: (part.heading ++ '\n' ::
      '\n' :: (part.links.flatMap itemText ++ rest))) := by
  simp [Section.text]

theorem readBlocks_section {outline : Outline} {blocks : List Block}
    {part : Section} (fuel : Nat)
    (settles : outline.Settles blocks)
    (stands : source.Stands position (part.text ++ rest))
    (plain : part.IsPlain) (ends : IsSectionEnd rest) :
    ∃ heading items after, IsHeading source 2 part.heading heading ∧
      List.Forall₂ (IsItem source) part.links items ∧
      after.Settles (.list none true items :: heading :: blocks) ∧
      readBlocks source (fuel + part.links.length + 3) outline position =
        readBlocks source fuel after (position + part.text.length) := by
  obtain ⟨isText, nonempty, labels, targets⟩ := plain
  rw [Section.text_append] at stands
  obtain ⟨heading, isHeading, headed⟩ :=
    readBlocks_sectionHeading (fuel + part.links.length) settles stands isText
  have listed := stands.next.after.next.after.next.next
  obtain ⟨items, after, areItems, settled, run⟩ :=
    readBlocks_list fuel (heading :: blocks) listed nonempty labels targets ends
  refine ⟨heading, items, after, isHeading, areItems, settled, ?_⟩
  have length :
      position + 1 + ['#', '#'].length + 1 + part.heading.length + 1 + 1 +
        (part.links.flatMap itemText).length = position + part.text.length := by
    simp only [Section.text, List.length_cons, List.length_append,
      List.length_nil]
    omega
  rw [headed, run, length]

theorem isSectionEnd_text (parts : List Section) :
    IsSectionEnd (parts.flatMap Section.text) := by
  cases parts with
  | nil => exact .inl rfl
  | cons part parts => exact .inr ⟨_, rfl⟩

theorem Section.length_links_le (part : Section) :
    part.links.length + 3 < part.text.length := by
  have each : part.links.length ≤ (part.links.flatMap itemText).length := by
    induction part.links with
    | nil => exact Nat.le_refl _
    | cons link links induction =>
        rw [List.flatMap_cons, List.length_append, List.length_cons,
          length_itemText]
        omega
  simp only [Section.text, List.length_cons, List.length_append]
  omega

theorem finish_readBlocks {outline : Outline} {blocks : List Block}
    {parts : List Section}
    (settles : outline.Settles blocks)
    (stands : source.Stands position (parts.flatMap Section.text))
    (plain : ∀ part ∈ parts, part.IsPlain)
    (enough : (parts.flatMap Section.text).length ≤ fuel) :
    ∃ more, AreSections source parts more ∧
      (readBlocks source fuel outline position).finish =
        blocks.reverse ++ more := by
  induction parts generalizing position outline blocks fuel with
  | nil =>
      refine ⟨[], .nil, ?_⟩
      rw [readBlocks_end stands, settles.finish, List.append_nil]
  | cons part parts induction =>
      obtain ⟨plainPart, plain⟩ := List.forall_mem_cons.mp plain
      rw [List.flatMap_cons] at stands enough
      rw [List.length_append] at enough
      have length := part.length_links_le
      obtain ⟨left, rfl⟩ : ∃ left, fuel = left + part.links.length + 3 :=
        ⟨fuel - (part.links.length + 3), by omega⟩
      obtain ⟨heading, items, after, isHeading, areItems, settled, run⟩ :=
        readBlocks_section left settles stands plainPart
          (isSectionEnd_text parts)
      have left_le : (parts.flatMap Section.text).length ≤ left := by omega
      obtain ⟨more, areSections, finished⟩ :=
        induction settled stands.after plain left_le
      refine ⟨heading :: .list none true items :: more,
        .cons isHeading areItems areSections, ?_⟩
      rw [run, finished]
      simp

theorem readDocument_listing {title : List Char} {parts : List Section}
    (isText : IsHeadingText title) (plain : ∀ part ∈ parts, part.IsPlain) :
    let source : Source := (listingText title parts).toArray
    ∃ heading blocks,
      IsHeading source 1 title heading ∧ AreSections source parts blocks ∧
        (readDocument source).1 = heading :: blocks := by
  intro source
  have stands :
      source.Stands 0
        (['#'] ++ ' ' :: (title ++ '\n' :: parts.flatMap Section.text)) :=
    .whole (listingText title parts)
  have closed : (Outline.empty.closeTo 0 1).finishList = .between [] false :=
    rfl
  obtain ⟨heading, isHeading, step⟩ :=
    stands.readBlock_heading isText (by simp) (by simp) (by simp) rfl closed
  have others := stands.after.next.after.next
  have enough : (parts.flatMap Section.text).length ≤ source.size := by
    rw [others.size_eq]
    omega
  obtain ⟨blocks, areSections, finished⟩ :=
    finish_readBlocks (.between [heading]) others plain enough
  refine ⟨heading, blocks, isHeading, areSections, ?_⟩
  rw [readDocument]
  dsimp only
  rw [readBlocks_step stands step]
  exact finished

end LessonSite.Markdown
