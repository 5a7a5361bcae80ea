import LessonSite.Contents.Highlight
import LessonSite.Proofs.Lists
import Mathlib.Data.Nat.Find

/-!
# The link of the page that is shown

Of the links that lead to an address the first one is marked, and only its
chapter is expanded; when no link leads there, nothing is marked and all
chapters are expanded.
-/

namespace LessonSite

def ContentsLink.unmarked (link : ContentsLink) : ContentsLink :=
  { link with active := false }

/-- The chapter with no link marked. -/
def ContentsChapter.unmarked (chapter : ContentsChapter) : ContentsChapter :=
  { chapter with links := chapter.links.map ContentsLink.unmarked }

/-- The chapter with no link marked, and expanded. -/
def ContentsChapter.plain (chapter : ContentsChapter) : ContentsChapter :=
  { chapter.unmarked with expanded := true }

namespace Contents

/-- Exactly one link is marked, and it has the given address; the chapter at the
given position holds it and is the only one that is expanded. -/
structure Opens (contents : Contents) (position : Nat)
    (href : String) : Prop where
  active :
    ∃ link,
      contents.links.filter ContentsLink.active = [link] ∧ link.href = href
  openChapter : contents.openChapter? = some position
  expanded : contents.chapters.map ContentsChapter.expanded =
    (List.range contents.chapters.length).map (· == position)

/-- No link is marked, and all chapters are expanded. -/
structure OpensNone (contents : Contents) : Prop where
  active : contents.links.filter ContentsLink.active = []
  openChapter : contents.openChapter? = none
  expanded : ∀ chapter ∈ contents.chapters, chapter.expanded = true

variable {isTarget : ContentsLink → Bool}

theorem markFirst_of_found (links : List ContentsLink) :
    markFirst isTarget true links =
      (links.map ContentsLink.unmarked, true) := by
  induction links with
  | nil => rfl
  | cons link links induction =>
      simp [markFirst, induction, ContentsLink.unmarked]

theorem markFirst_of_none {links : List ContentsLink}
    (none_ : ∀ link ∈ links, isTarget link = false) :
    markFirst isTarget false links =
      (links.map ContentsLink.unmarked, false) := by
  induction links with
  | nil => rfl
  | cons link links induction =>
      obtain ⟨here, later⟩ := List.forall_mem_cons.mp none_
      simp [markFirst, induction later, here, ContentsLink.unmarked]

theorem markFirst_of_first {earlier later : List ContentsLink}
    {link : ContentsLink}
    (none_ : ∀ link ∈ earlier, isTarget link = false)
    (target : isTarget link = true) :
    markFirst isTarget false (earlier ++ link :: later) =
      (earlier.map ContentsLink.unmarked ++ { link with active := true } ::
        later.map ContentsLink.unmarked, true) := by
  induction earlier with
  | nil => simp [markFirst, target, markFirst_of_found]
  | cons first earlier induction =>
      obtain ⟨here, later⟩ := List.forall_mem_cons.mp none_
      simp [markFirst, induction later, here, ContentsLink.unmarked]

theorem markChapters_of_found (found position : Nat)
    (chapters : List ContentsChapter) :
    markChapters isTarget (some found) position chapters =
      (chapters.map ContentsChapter.unmarked, some found) := by
  induction chapters generalizing position with
  | nil => rfl
  | cons chapter chapters induction =>
      simp [markChapters, markFirst_of_found, induction,
        ContentsChapter.unmarked]

theorem markChapters_of_none {chapters : List ContentsChapter} (position : Nat)
    (none_ : ∀ chapter ∈ chapters,
      ∀ link ∈ chapter.links, isTarget link = false) :
    markChapters isTarget none position chapters =
      (chapters.map ContentsChapter.unmarked, none) := by
  induction chapters generalizing position with
  | nil => rfl
  | cons chapter chapters induction =>
      obtain ⟨here, later⟩ := List.forall_mem_cons.mp none_
      simp [markChapters, markFirst_of_none here, induction _ later,
        ContentsChapter.unmarked]

/-- The chapters after the link has been marked that stands in a chapter between
others, and there between other links. -/
def marked (before after : List ContentsChapter) (chapter : ContentsChapter)
    (earlier later : List ContentsLink) (link : ContentsLink) :
    List ContentsChapter :=
  before.map ContentsChapter.unmarked ++
    { chapter with
      links :=
        earlier.map ContentsLink.unmarked ++ { link with active := true } ::
          later.map ContentsLink.unmarked } ::
    after.map ContentsChapter.unmarked

theorem markChapters_of_first {before after : List ContentsChapter}
    {chapter : ContentsChapter}
    {earlier later : List ContentsLink} {link : ContentsLink} (position : Nat)
    (links : chapter.links = earlier ++ link :: later)
    (none_ : ∀ chapter ∈ before, ∀ link ∈ chapter.links, isTarget link = false)
    (noneHere : ∀ link ∈ earlier, isTarget link = false)
    (target : isTarget link = true) :
    markChapters isTarget none position (before ++ chapter :: after) =
      (marked before after chapter earlier later link,
        some (position + before.length)) := by
  induction before generalizing position with
  | nil =>
      simp [markChapters, links, markFirst_of_first noneHere target,
        markChapters_of_found, marked]
  | cons first before induction =>
      obtain ⟨here, others⟩ := List.forall_mem_cons.mp none_
      rw [List.cons_append, markChapters]
      simp only [Option.isSome_none, markFirst_of_none here, Bool.false_eq_true,
        if_false, induction (position + 1) others]
      simp [marked, ContentsChapter.unmarked, Nat.add_assoc, Nat.add_comm 1]

theorem filter_active_unmarked (links : List ContentsLink) :
    (links.map ContentsLink.unmarked).filter ContentsLink.active = [] := by
  induction links with
  | nil => rfl
  | cons link links induction =>
      rw [List.map_cons, List.filter_cons_of_neg (by exact nofun), induction]

theorem filter_active_flatMap_unmarked (chapters : List ContentsChapter) :
    ((chapters.map ContentsChapter.unmarked).flatMap
        ContentsChapter.links).filter
      ContentsLink.active = [] := by
  induction chapters with
  | nil => rfl
  | cons chapter chapters induction =>
      rw [List.map_cons, List.flatMap_cons, List.filter_append, induction,
        List.append_nil]
      exact filter_active_unmarked chapter.links

/-- Which chapters are expanded does not change their links. -/
theorem map_links_unfold (only : Option Nat) (chapters : List ContentsChapter) :
    (unfold only chapters).map ContentsChapter.links =
      chapters.map ContentsChapter.links := by
  apply List.ext_getElem
  · simp [unfold]
  · intro position _ _
    simp [unfold]

theorem links_unfold (only : Option Nat) (chapters : List ContentsChapter) :
    (Contents.mk (unfold only chapters)).links =
      chapters.flatMap ContentsChapter.links := by
  rw [Contents.links, List.flatMap_def, map_links_unfold, ← List.flatMap_def]

theorem openChapter?_unfold (only : Option Nat)
    (chapters : List ContentsChapter) :
    (Contents.mk (unfold only chapters)).openChapter? =
      (Contents.mk chapters).openChapter? := by
  have byLinks : ∀ all : List ContentsChapter, (Contents.mk all).openChapter? =
      (all.map ContentsChapter.links).findIdx? fun links =>
        links.any ContentsLink.active := by
    intro all
    rw [List.findIdx?_map]
    rfl
  rw [byLinks, byLinks, map_links_unfold]

theorem any_active_unmarked (chapter : ContentsChapter) :
    chapter.unmarked.links.any ContentsLink.active = false := by
  rw [List.any_eq_false]
  intro link member
  obtain ⟨original, -, rfl⟩ := List.mem_map.mp member
  exact nofun

theorem openChapter?_unmarked (chapters : List ContentsChapter) :
    (Contents.mk (chapters.map ContentsChapter.unmarked)).openChapter? =
      none := by
  rw [openChapter?, List.findIdx?_eq_none_iff]
  intro chapter member
  obtain ⟨original, -, rfl⟩ := List.mem_map.mp member
  exact any_active_unmarked original

/-- When no link leads to the address, nothing is marked. -/
theorem opensNone_highlight {contents : Contents} {location : Url}
    (none_ : ∀ link ∈ contents.links, link.leadsTo location = false) :
    (contents.highlight location).1.OpensNone := by
  have each :
      ∀ chapter ∈ contents.chapters,
        ∀ link ∈ chapter.links, link.leadsTo location = false :=
    fun chapter member link inside =>
      none_ link (List.mem_flatMap.mpr ⟨chapter, member, inside⟩)
  have shown : contents.highlight location =
      (⟨unfold none (contents.chapters.map ContentsChapter.unmarked)⟩,
        none) := by
    rw [highlight, markChapters_of_none 0 each]
  rw [shown]
  constructor
  · rw [links_unfold]
    exact filter_active_flatMap_unmarked contents.chapters
  · rw [openChapter?_unfold]
    exact openChapter?_unmarked contents.chapters
  · intro chapter member
    obtain ⟨position, -, rfl⟩ := List.mem_mapIdx.mp member
    rfl

/-- When links lead to the address, the first one is marked. -/
theorem opens_highlight {contents : Contents} {location : Url}
    {before after : List ContentsChapter}
    {chapter : ContentsChapter} {earlier later : List ContentsLink}
    {link : ContentsLink}
    (chapters : contents.chapters = before ++ chapter :: after)
    (links : chapter.links = earlier ++ link :: later)
    (none_ : ∀ chapter ∈ before,
      ∀ link ∈ chapter.links, link.leadsTo location = false)
    (noneHere : ∀ link ∈ earlier, link.leadsTo location = false)
    (leads : link.leadsTo location = true) :
    (contents.highlight location).1.Opens before.length link.href := by
  have shown : contents.highlight location =
      (⟨unfold (some before.length)
          (marked before after chapter earlier later link)⟩,
        some before.length) := by
    rw [highlight, chapters, markChapters_of_first 0 links none_ noneHere leads,
      Nat.zero_add]
  rw [shown]
  constructor
  · refine ⟨{ link with active := true }, ?_, rfl⟩
    rw [links_unfold, marked, List.flatMap_append, List.flatMap_cons,
      List.filter_append, List.filter_append, filter_active_flatMap_unmarked,
      filter_active_flatMap_unmarked, List.filter_append,
      filter_active_unmarked, List.filter_cons_of_pos rfl,
      filter_active_unmarked]
    rfl
  · have opened := openChapter?_unmarked before
    have here :
        (earlier.map ContentsLink.unmarked ++ { link with active := true } ::
          later.map ContentsLink.unmarked).any ContentsLink.active =
          true := by simp
    rw [openChapter?] at opened
    rw [openChapter?_unfold, openChapter?, marked, List.findIdx?_append, opened,
      List.findIdx?_cons, here]
    simp
  · apply List.ext_getElem
    · simp [unfold]
    · intro position _ _
      simp [unfold, Bool.beq_comm]

theorem snd_markFirst (found : Bool) (links : List ContentsLink) :
    (markFirst isTarget found links).2 = (found || links.any isTarget) := by
  induction links generalizing found with
  | nil => simp [markFirst]
  | cons link links induction =>
      cases found with
      | true => simp [markFirst, induction]
      | false => simp [markFirst, induction]

theorem getElem?_markFirst (found : Bool) (links : List ContentsLink)
    (position : Nat) :
    (markFirst isTarget found links).1[position]? =
      links[position]?.map fun link =>
        { link with
          active :=
            !(found || (links.take position).any isTarget) &&
              isTarget link } := by
  induction links generalizing found position with
  | nil => rfl
  | cons link links induction =>
      cases position with
      | zero => simp [markFirst]
      | succ position =>
          have settled :
              (found || (!found && isTarget link)) =
                (found || isTarget link) := by
            cases found <;> rfl
          simp [markFirst, induction, settled, Bool.or_assoc]

theorem snd_markChapters (found : Option Nat) (position : Nat)
    (chapters : List ContentsChapter) :
    (markChapters isTarget found position chapters).2 =
      (found <|>
        (chapters.findIdx? (·.links.any isTarget)).map (position + ·)) := by
  induction chapters generalizing found position with
  | nil => cases found <;> rfl
  | cons chapter chapters induction =>
      cases found with
      | some found => simp [markChapters, induction]
      | none =>
          cases here : chapter.links.any isTarget with
          | true =>
              simp [markChapters, induction, snd_markFirst, here,
                List.findIdx?_cons]
          | false =>
              simp [markChapters, induction, snd_markFirst, here,
                List.findIdx?_cons, Function.comp_def, Nat.add_assoc,
                Nat.add_comm 1]

theorem getElem?_markChapters (found : Option Nat) (start : Nat)
    (chapters : List ContentsChapter) (position : Nat) :
    (markChapters isTarget found start chapters).1[position]? =
      chapters[position]?.map fun chapter =>
        { chapter with
          links := (markFirst isTarget
            (found.isSome ||
              (chapters.take position).any (·.links.any isTarget))
            chapter.links).1 } := by
  induction chapters generalizing found start position with
  | nil => rfl
  | cons chapter chapters induction =>
      cases position with
      | zero => simp [markChapters]
      | succ position =>
          cases found with
          | some found => simp [markChapters, induction]
          | none =>
              cases here : chapter.links.any isTarget <;>
                simp [markChapters, induction, snd_markFirst, here]

/-- The link at a position of a chapter. -/
def linkAt? (contents : Contents) (chapter position : Nat) :
    Option ContentsLink :=
  contents.chapters[chapter]?.bind (·.links[position]?)

/-- The link at a position of a chapter leads to the address when it is resolved
there. -/
def LeadsAt (contents : Contents) (location : Url)
    (chapter position : Nat) : Prop :=
  ∃ link target,
    contents.linkAt? chapter position = some link ∧
      location.join link.href = .ok target ∧
        target.write = location.write

/-- The link at a position of a chapter leads to the address, and no link before
it does. -/
def LeadsFirst (contents : Contents) (location : Url)
    (chapter position : Nat) : Prop :=
  contents.LeadsAt location chapter position ∧
    ∀ otherChapter other,
      otherChapter < chapter ∨ otherChapter = chapter ∧ other < position →
        ¬contents.LeadsAt location otherChapter other

/-- What is written in a table of contents: its titles, labels and addresses,
without a mark and with all chapters expanded. -/
def plain (contents : Contents) : Contents where
  chapters := contents.chapters.map ContentsChapter.plain

/-- Something that changes marks. -/
inductive Change where
  | highlight (location : Url)
  | toggle (position : Nat)

/-- The table of contents after a change. -/
def changed (contents : Contents) : Change → Contents
  | .highlight location => (contents.highlight location).1
  | .toggle position => contents.toggle position

variable {contents : Contents} {location : Url}

theorem leadsTo_iff {link : ContentsLink} :
    link.leadsTo location = true ↔
      ∃ target,
        location.join link.href = .ok target ∧
          target.write = location.write := by
  rw [ContentsLink.leadsTo]
  split
  · next target joined => simp [joined]
  · next error joined => simp [joined]

theorem leadsAt_iff {chapter position : Nat} :
    contents.LeadsAt location chapter position ↔
      ∃ link,
        contents.linkAt? chapter position = some link ∧
          link.leadsTo location = true := by
  constructor
  · rintro ⟨link, target, here, joined, same⟩
    exact ⟨link, here, leadsTo_iff.mpr ⟨target, joined, same⟩⟩
  · rintro ⟨link, here, leads⟩
    obtain ⟨target, joined, same⟩ := leadsTo_iff.mp leads
    exact ⟨link, target, here, joined, same⟩

theorem any_links_take_iff {chapter : Nat} :
    (contents.chapters.take chapter).any
        (·.links.any (·.leadsTo location)) = true ↔
      ∃ other < chapter,
        ∃ position, contents.LeadsAt location other position := by
  rw [any_take_iff]
  simp only [leadsAt_iff, linkAt?, Option.bind_eq_some_iff, List.any_eq_true,
    List.mem_iff_getElem?]
  constructor
  · rintro ⟨other, before, chapter, here, link, ⟨position, there⟩, leads⟩
    exact ⟨other, before, position, link, ⟨chapter, here, there⟩, leads⟩
  · rintro ⟨other, before, position, link, ⟨chapter, here, there⟩, leads⟩
    exact ⟨other, before, chapter, here, link, ⟨position, there⟩, leads⟩

theorem any_take_links_iff {position count : Nat} {chapter : ContentsChapter}
    (here : contents.chapters[position]? = some chapter) :
    (chapter.links.take count).any (·.leadsTo location) = true ↔
      ∃ other < count, contents.LeadsAt location position other := by
  simp only [any_take_iff, leadsAt_iff, linkAt?, here, Option.bind_some]

theorem any_links_iff {position : Nat} {chapter : ContentsChapter}
    (here : contents.chapters[position]? = some chapter) :
    chapter.links.any (·.leadsTo location) = true ↔
      ∃ other, contents.LeadsAt location position other := by
  simp only [List.any_eq_true, List.mem_iff_getElem?, leadsAt_iff, linkAt?,
    here, Option.bind_some]
  constructor
  · rintro ⟨link, ⟨other, there⟩, leads⟩
    exact ⟨other, link, there, leads⟩
  · rintro ⟨other, link, there, leads⟩
    exact ⟨link, ⟨other, there⟩, leads⟩

theorem snd_highlight : (contents.highlight location).2 =
    contents.chapters.findIdx? (·.links.any (·.leadsTo location)) := by
  rw [highlight]
  simp [snd_markChapters]

theorem getElem?_highlight (position : Nat) :
    (contents.highlight location).1.chapters[position]? =
      contents.chapters[position]?.map fun chapter =>
        { title := chapter.title
          links := (markFirst (·.leadsTo location)
            ((contents.chapters.take position).any
              (·.links.any (·.leadsTo location))) chapter.links).1
          expanded :=
            (contents.highlight location).2.all (· == position) } := by
  rw [highlight]
  simp [unfold, getElem?_markChapters, Function.comp_def]

/-- A link is marked just when it is the first one that leads to the address. -/
theorem active_highlight_iff {chapter position : Nat} {link : ContentsLink}
    (here : (contents.highlight location).1.linkAt? chapter position =
      some link) :
    link.active = true ↔ contents.LeadsFirst location chapter position := by
  rw [linkAt?, getElem?_highlight] at here
  obtain ⟨shown, found, there⟩ := Option.bind_eq_some_iff.mp here
  obtain ⟨original, isChapter, rfl⟩ := Option.map_eq_some_iff.mp found
  rw [getElem?_markFirst] at there
  obtain ⟨unmarked, isLink, rfl⟩ := Option.map_eq_some_iff.mp there
  have leads :
      unmarked.leadsTo location = true ↔
        contents.LeadsAt location chapter position := by
    rw [leadsAt_iff, linkAt?, isChapter, Option.bind_some, isLink]
    simp
  rw [Bool.and_eq_true, Bool.not_eq_true', Bool.or_eq_false_iff, leads,
    ← Bool.not_eq_true, ← Bool.not_eq_true, any_links_take_iff,
    any_take_links_iff isChapter, and_comm, LeadsFirst]
  refine and_congr_right fun _ => ?_
  constructor
  · rintro ⟨noneBefore, noneHere⟩ otherChapter other before leadsThere
    rcases before with earlier | ⟨rfl, earlier⟩
    · exact noneBefore ⟨otherChapter, earlier, other, leadsThere⟩
    · exact noneHere ⟨other, earlier, leadsThere⟩
  · intro none_
    constructor
    · rintro ⟨otherChapter, earlier, other, leadsThere⟩
      exact none_ otherChapter other (.inl earlier) leadsThere
    · rintro ⟨other, earlier, leadsThere⟩
      exact none_ chapter other (.inr ⟨rfl, earlier⟩) leadsThere

/-- The position that is told is that of the chapter with the first link that
leads to the address. -/
theorem snd_highlight_eq_some_iff {chapter : Nat} :
    (contents.highlight location).2 = some chapter ↔
      ∃ position, contents.LeadsFirst location chapter position := by
  have leadsIn :
      ∀ (position : Nat) (inside : position < contents.chapters.length),
        contents.chapters[position].links.any (·.leadsTo location) = true ↔
          ∃ other, contents.LeadsAt location position other :=
    fun position inside => any_links_iff (List.getElem?_eq_getElem inside)
  rw [snd_highlight, List.findIdx?_eq_some_iff_getElem]
  constructor
  · rintro ⟨inside, leads, none_⟩
    classical
    have somewhere := (leadsIn chapter inside).mp leads
    refine ⟨Nat.find somewhere, Nat.find_spec somewhere, ?_⟩
    rintro otherChapter other (earlier | ⟨rfl, earlier⟩) leadsThere
    · exact none_ otherChapter earlier
        ((leadsIn otherChapter _).mpr ⟨other, leadsThere⟩)
    · exact Nat.find_min somewhere earlier leadsThere
  · rintro ⟨position, leads, none_⟩
    have inside : chapter < contents.chapters.length := by
      obtain ⟨link, here, -⟩ := leadsAt_iff.mp leads
      obtain ⟨found, isChapter, -⟩ := Option.bind_eq_some_iff.mp here
      exact (List.getElem?_eq_some_iff.mp isChapter).1
    refine ⟨inside, (leadsIn chapter inside).mpr ⟨position, leads⟩, ?_⟩
    intro otherChapter earlier leadsThere
    obtain ⟨other, leadsOther⟩ :=
      (leadsIn otherChapter (Nat.lt_trans earlier inside)).mp leadsThere
    exact none_ otherChapter other (.inl earlier) leadsOther

theorem map_unmarked_markFirst (found : Bool) (links : List ContentsLink) :
    (markFirst isTarget found links).1.map ContentsLink.unmarked =
      links.map ContentsLink.unmarked := by
  induction links generalizing found with
  | nil => rfl
  | cons link links induction =>
      simp [markFirst, induction, ContentsLink.unmarked]

theorem plain_highlight :
    (contents.highlight location).1.plain = contents.plain := by
  refine congrArg Contents.mk (List.ext_getElem? fun position => ?_)
  rw [List.getElem?_map, List.getElem?_map, getElem?_highlight, Option.map_map]
  refine congrArg (Option.map · _) (funext fun chapter => ?_)
  simp [ContentsChapter.plain, ContentsChapter.unmarked, map_unmarked_markFirst]

theorem plain_changed (change : Change) :
    (contents.changed change).plain = contents.plain := by
  cases change with
  | highlight => exact plain_highlight
  | toggle position =>
      refine congrArg Contents.mk (List.ext_getElem? fun other => ?_)
      rw [List.getElem?_map, List.getElem?_map, changed, toggle,
        List.getElem?_modify, Option.map_eq_map, Option.map_map]
      refine congrArg (Option.map · _) (funext fun chapter => ?_)
      rw [Function.comp]
      split <;> rfl

theorem plain_foldl_changed (changes : List Change) :
    (changes.foldl changed contents).plain = contents.plain := by
  induction changes generalizing contents with
  | nil => rfl
  | cons change changes induction =>
      exact induction.trans (plain_changed change)

/-!
Marks are set anew each time, so it does not matter which ones there were.
-/

theorem markFirst_unmarked (found : Bool) (links : List ContentsLink) :
    markFirst (·.leadsTo location) found (links.map ContentsLink.unmarked) =
      markFirst (·.leadsTo location) found links := by
  have same :
      ∀ link : ContentsLink,
        link.unmarked.leadsTo location = link.leadsTo location := fun _ => rfl
  induction links generalizing found with
  | nil => rfl
  | cons link links induction =>
      simp only [List.map_cons, markFirst, induction, same]
      rfl

theorem any_leadsTo_unmarked (links : List ContentsLink) :
    (links.map ContentsLink.unmarked).any (·.leadsTo location) =
      links.any (·.leadsTo location) := by
  rw [List.any_map]
  rfl

theorem highlight_plain :
    contents.plain.highlight location = contents.highlight location := by
  have told :
      (contents.plain.highlight location).2 =
        (contents.highlight location).2 := by
    rw [snd_highlight, snd_highlight, plain, List.findIdx?_map]
    refine congrArg (List.findIdx? · _) (funext fun chapter => ?_)
    exact any_leadsTo_unmarked chapter.links
  have shown :
      (contents.plain.highlight location).1.chapters =
        (contents.highlight location).1.chapters := by
    refine List.ext_getElem? fun position => ?_
    rw [getElem?_highlight, getElem?_highlight, told, plain, List.getElem?_map,
      Option.map_map, ← List.map_take, List.any_map]
    refine congrArg (Option.map · _) (funext fun chapter => ?_)
    have earlier :
        ((·.links.any (·.leadsTo location)) ∘ ContentsChapter.plain) =
          fun chapter => chapter.links.any (·.leadsTo location) :=
      funext fun chapter => any_leadsTo_unmarked chapter.links
    rw [earlier]
    simp only [Function.comp_apply, ContentsChapter.plain,
      ContentsChapter.unmarked, markFirst_unmarked]
  exact Prod.ext (congrArg Contents.mk shown) told

theorem highlight_eq_of_plain {other : Contents}
    (same : other.plain = contents.plain) :
    other.highlight location = contents.highlight location := by
  rw [← highlight_plain, same, highlight_plain]

/-- The first link that leads to the address is marked, and no other one; the
position of its chapter is told, and only this chapter is expanded, or all of
them when no link leads there.  Nothing else is changed, and it does not matter
what was marked or expanded before. -/
theorem highlight_marksFirst (contents : Contents) (location : Url) :
    let shown := contents.highlight location
    (∀ chapter position link, shown.1.linkAt? chapter position = some link →
        (link.active = true ↔ contents.LeadsFirst location chapter position)) ∧
      (∀ chapter,
        shown.2 = some chapter ↔
          ∃ position, contents.LeadsFirst location chapter position) ∧
      (∀ position chapter, shown.1.chapters[position]? = some chapter →
        (chapter.expanded = true ↔ shown.2 = none ∨ shown.2 = some position)) ∧
      shown.1.plain = contents.plain ∧
      (∀ other : Contents,
        other.plain = contents.plain → other.highlight location = shown) ∧
      ∀ changes : List Change,
        (changes.foldl changed contents).highlight location = shown := by
  intro shown
  refine ⟨fun _ _ _ => active_highlight_iff, fun _ => snd_highlight_eq_some_iff,
    ?_, plain_highlight, fun _ => highlight_eq_of_plain, fun changes =>
      highlight_eq_of_plain (plain_foldl_changed changes)⟩
  intro position chapter here
  rw [getElem?_highlight] at here
  obtain ⟨original, -, rfl⟩ := Option.map_eq_some_iff.mp here
  change (contents.highlight location).2.all (· == position) = true ↔ _
  cases (contents.highlight location).2 <;> simp

end Contents

/-- Of the elements of several lists for some of which a test holds, one is the
first. -/
theorem exists_first {α β : Type} (elements : α → List β) (test : β → Bool)
    (lists : List α) :
    (∀ list ∈ lists, ∀ element ∈ elements list, test element = false) ∨
      ∃ before list after earlier element later,
        lists = before ++ list :: after ∧
          elements list = earlier ++ element :: later ∧
          (∀ other ∈ before.flatMap elements ++ earlier, test other = false) ∧
          test element = true := by
  induction lists with
  | nil => exact .inl nofun
  | cons list lists induction =>
      cases found : (elements list).find? test with
      | some element =>
          obtain ⟨holds, earlier, later, split, first⟩ :=
            List.find?_eq_some_iff_append.mp found
          refine .inr
            ⟨[], list, lists, earlier, element, later, rfl, split, ?_, holds⟩
          intro other member
          simpa using first other member
      | none =>
          have here : ∀ element ∈ elements list, test element = false := by
            simpa using List.find?_eq_none.mp found
          rcases induction with none_ |
            ⟨before, middle, after, earlier, element, later, rfl, split, none_,
              holds⟩
          · exact .inl (List.forall_mem_cons.mpr ⟨here, none_⟩)
          · refine .inr
              ⟨list :: before, middle, after, earlier, element, later, rfl,
                split, ?_, holds⟩
            intro other member
            rw [List.flatMap_cons, List.append_assoc] at member
            rcases List.mem_append.mp member with inside | later
            · exact here other inside
            · exact none_ other later

end LessonSite
