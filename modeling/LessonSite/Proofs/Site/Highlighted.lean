import LessonSite.Client.Basic
import LessonSite.Proofs.Contents.Highlight
import LessonSite.Proofs.Contents.Markup
import LessonSite.Proofs.Site.Loaded
import LessonSite.Proofs.Site.Lookup
import LessonSite.Proofs.Tour.Layout
import LessonSite.Proofs.Url.Join
import Mathlib.Data.List.Nodup

/-!
# The page that is shown is marked in its table of contents

A table of contents marks the first link that leads to where the page is shown.
All links of a site begin with a slash, so they lead to the same places from all
of its pages, unless the slash is followed by a second one or by a backslash and
a name is read as that of a host.  The link that is marked is then the one of
the page, unless the page has such an address and is taken for an earlier
lesson.
-/

namespace LessonSite

open Url (NamesHost)

/-- The link to a lesson as it is read back. -/
def Lesson.link (lesson : Lesson) : ContentsLink :=
  ⟨Text.trim lesson.lesson, lesson.href, false⟩

/-- The chapter in a table of contents as it is read back. -/
def Chapter.entry (chapter : Chapter) : ContentsChapter :=
  ⟨Text.trim chapter.name, chapter.lessons.map Lesson.link, true⟩

namespace Contents

theorem readBack_ofChapters (chapters : List Chapter) :
    (ofChapters chapters).readBack = ⟨chapters.map Chapter.entry⟩ := by
  rw [readBack, ofChapters, List.map_map]
  refine congrArg Contents.mk (List.map_congr_left fun chapter _ => ?_)
  rw [Function.comp_apply, ContentsChapter.readBack, List.map_map,
    Chapter.entry]
  rfl

theorem links_entries (chapters : List Chapter) :
    (Contents.mk (chapters.map Chapter.entry)).links =
      (chapters.flatMap Chapter.lessons).map Lesson.link := by
  rw [links, List.flatMap_map, List.map_flatMap]
  rfl

/-- The first lesson whose link leads to an address is marked. -/
theorem opens_highlight_entries {location : Url} {before after : List Chapter}
    {chapter : Chapter}
    {earlier later : List Lesson} {lesson : Lesson}
    (lessons : chapter.lessons = earlier ++ lesson :: later)
    (none_ : ∀ other ∈ before.flatMap Chapter.lessons ++ earlier,
      other.link.leadsTo location = false)
    (leads : lesson.link.leadsTo location = true) :
    ((Contents.mk ((before ++ chapter :: after).map Chapter.entry)).highlight
        location).1.Opens
      before.length lesson.href := by
  have chapters : (before ++ chapter :: after).map Chapter.entry =
      before.map Chapter.entry ++ chapter.entry :: after.map Chapter.entry := by
    rw [List.map_append, List.map_cons]
  have links :
      chapter.entry.links =
        earlier.map Lesson.link ++ lesson.link :: later.map Lesson.link := by
    rw [Chapter.entry, lessons, List.map_append, List.map_cons]
  rw [← List.length_map Chapter.entry]
  refine opens_highlight chapters links ?_ ?_ leads
  · intro entry isEntry link member
    obtain ⟨other, isChapter, rfl⟩ := List.mem_map.mp isEntry
    obtain ⟨inside, isLesson, rfl⟩ := List.mem_map.mp member
    exact none_ inside
      (List.mem_append_left _
        (List.mem_flatMap.mpr ⟨other, isChapter, isLesson⟩))
  · intro link member
    obtain ⟨inside, isLesson, rfl⟩ := List.mem_map.mp member
    exact none_ inside (List.mem_append_right _ isLesson)

theorem Opens.href_eq {contents : Contents} {position other : Nat}
    {href second : String}
    (opens : contents.Opens position href)
    (opens' : contents.Opens other second) : href = second := by
  obtain ⟨link, active, rfl⟩ := opens.active
  obtain ⟨link', active', rfl⟩ := opens'.active
  rw [active] at active'
  rw [(List.cons.inj active').1]

/-- When the link to a lesson is marked, no link to an earlier one leads to the
address. -/
theorem not_leadsTo_of_opens {location : Url} {chapters : List Chapter}
    {before after : List Lesson}
    {lesson : Lesson}
    (lessons : chapters.flatMap Chapter.lessons = before ++ lesson :: after)
    (distinct : ((chapters.flatMap Chapter.lessons).map Lesson.href).Nodup)
    {position : Nat}
    (opens : ((Contents.mk (chapters.map Chapter.entry)).highlight
      location).1.Opens position lesson.href) :
    ∀ other ∈ before, other.link.leadsTo location = false := by
  rcases exists_first Chapter.lessons (·.link.leadsTo location) chapters with
    none_ | ⟨first, chapter, last, earlier, found, later, rfl, split, none_,
      leads⟩
  · intro other member
    have inside : other ∈ chapters.flatMap Chapter.lessons := by
      rw [lessons]
      exact List.mem_append_left _ member
    obtain ⟨chapter, isChapter, isLesson⟩ := List.mem_flatMap.mp inside
    exact none_ chapter isChapter other isLesson
  · have all : (first ++ chapter :: last).flatMap Chapter.lessons =
        (first.flatMap Chapter.lessons ++ earlier) ++
          found :: (later ++ last.flatMap Chapter.lessons) := by
      simp [split]
    have isFound :
        found ∈ (first ++ chapter :: last).flatMap Chapter.lessons := by
      rw [all]
      exact List.mem_append_right _ List.mem_cons_self
    have isLesson :
        lesson ∈ (first ++ chapter :: last).flatMap Chapter.lessons := by
      rw [lessons]
      exact List.mem_append_right _ List.mem_cons_self
    have href := (opens_highlight_entries split none_ leads).href_eq opens
    obtain rfl := eq_of_map_eq_of_nodup distinct isFound isLesson href
    rw [lessons, List.map_append, List.map_cons, List.nodup_append,
      List.nodup_cons] at distinct
    obtain ⟨-, ⟨notAfter, -⟩, apart⟩ := distinct
    have notBefore : found ∉ before := fun member =>
      apart _ (List.mem_map_of_mem member) _ List.mem_cons_self rfl
    have notLater : found ∉ after := fun member =>
      notAfter (List.mem_map_of_mem member)
    have same :=
      (List.append_cons_inj_of_notMem notBefore notLater).mp
        (lessons.symm.trans all)
    rw [same.1]
    exact none_

end Contents

theorem mem_slugSegment_of_mem {text : String} {character : Char}
    (different : character ≠ ' ')
    (member : character ∈ text.toList) :
    character ∈ (slugSegment text).toList := by
  rw [slugSegment, Text.replaceChar, String.toList_ofList]
  exact List.mem_map.mpr ⟨character, member, if_neg different⟩

theorem IsSegment.isClean_text {text : String}
    (segment : IsSegment (slugSegment text))
    (noReturn : '\r' ∉ text.toList) : Html.IsClean text :=
  ⟨fun nul => segment.noNul (mem_slugSegment_of_mem (by decide) nul), noReturn⟩

theorem IsSegment.isClean {text : String}
    (segment : IsSegment (slugSegment text))
    (noReturn : '\r' ∉ text.toList) : Html.IsClean (slugSegment text) := by
  refine ⟨segment.noNul, fun member => ?_⟩
  rcases mem_replaceChar member with hyphen | inside
  · cases hyphen
  · exact noReturn inside

theorem isClean_joinNames {names : List String}
    (clean : ∀ name ∈ names, Html.IsClean name) :
    Html.IsClean (joinNames names) := by
  have absent :
      ∀ {character : Char},
        character ≠ '/' → (∀ name ∈ names, character ∉ name.toList) →
          character ∉ (joinNames names).toList := by
    intro character noSlash without member
    rcases mem_joinNames member with slash | ⟨name, isName, inside⟩
    · exact noSlash slash
    · exact without name isName inside
  exact ⟨absent (by decide) fun name member => (clean name member).1,
    absent (by decide) fun name member => (clean name member).2⟩

namespace Lesson.IsNamed

variable {lesson : Lesson} {locale : Locale}

theorem href_eq (named : lesson.IsNamed locale) :
    lesson.href = "/" ++ joinNames (locale.names ++
      [slugSegment lesson.chapter, slugSegment lesson.lesson] ++
      ["index.html"]) := by
  rw [Lesson.href, pageHref, named.slug_eq, fileIn_joinNames named.isSegment]

theorem isClean_href (named : lesson.IsNamed locale)
    (chapter : '\r' ∉ lesson.chapter.toList)
    (own : '\r' ∉ lesson.lesson.toList) : Html.IsClean lesson.href := by
  have clean : Html.IsClean (joinNames (locale.names ++
      [slugSegment lesson.chapter, slugSegment lesson.lesson] ++
    ["index.html"])) := by
    apply isClean_joinNames
    simp only [List.mem_append, List.mem_cons, List.not_mem_nil, or_false]
    rintro name ((isLocale | rfl | rfl) | rfl)
    · revert name
      cases locale <;> decide
    · exact named.chapter.isClean chapter
    · exact named.lesson.isClean own
    · decide
  rw [named.href_eq]
  constructor
  · rw [String.toList_append]
    simpa using clean.1
  · rw [String.toList_append]
    simpa using clean.2

end Lesson.IsNamed

/-- The names of a chapter's lessons and its own can be read back when they have
no return. -/
theorem Contents.isClean_ofChapters {chapters : List Chapter} {locale : Locale}
    (titled : ∀ chapter ∈ chapters, chapter.IsTitled)
    (named : ∀ lesson ∈ chapters.flatMap Chapter.lessons, lesson.IsNamed locale)
    (noReturn : ∀ lesson ∈ chapters.flatMap Chapter.lessons,
      '\r' ∉ lesson.chapter.toList ∧ '\r' ∉ lesson.lesson.toList) :
    (Contents.ofChapters chapters).IsClean := by
  intro entry isEntry
  obtain ⟨chapter, isChapter, rfl⟩ := List.mem_map.mp isEntry
  have inside :
      ∀ lesson ∈ chapter.lessons, lesson ∈ chapters.flatMap Chapter.lessons :=
    fun lesson member => List.mem_flatMap.mpr ⟨chapter, isChapter, member⟩
  obtain ⟨nonempty, knows⟩ := titled chapter isChapter
  constructor
  · obtain ⟨lesson, member⟩ := List.exists_mem_of_ne_nil _ nonempty
    rw [← knows lesson member]
    exact (named lesson (inside lesson member)).chapter.isClean_text
      (noReturn lesson (inside lesson member)).1
  · intro link isLink
    obtain ⟨lesson, member, rfl⟩ := List.mem_map.mp isLink
    have isNamed := named lesson (inside lesson member)
    obtain ⟨inChapter, own⟩ := noReturn lesson (inside lesson member)
    exact ⟨isNamed.lesson.isClean_text own, isNamed.isClean_href inChapter own⟩

/-- The pages lead to different places. -/
def LeadApart (base : Url) (pages : List Page) : Prop :=
  ∀ page ∈ pages,
    ∀ other ∈ pages, ∀ here there, base.join page.href = .ok here →
      base.join other.href = .ok there → here.write = there.write → page = other

/-- Pages lead to different places when each leads to one of its own. -/
theorem LeadApart.of_nodup {base : Url} {pages : List Page}
    (distinct : (pages.map fun page =>
      (base.join page.href).toOption.map Url.write).Nodup) :
    LeadApart base pages := by
  intro page member other isPage here there joined joined' written
  refine eq_of_map_eq_of_nodup distinct member isPage ?_
  rw [joined, joined']
  exact congrArg some written

theorem Url.isWeb_httpSite (name : String) : (httpSite name).IsWeb :=
  ⟨.inl rfl, rfl⟩

/-- The table of contents shows the page: the link of a lesson's page is marked,
and only its chapter is expanded; on another page nothing is marked. -/
structure Contents.Marks (contents : Contents) (tour : Tour)
    (page : Page) : Prop where
  lesson :
    ∀ part ∈ tour.locales,
      ∀ position chapter, part.chapters[position]? = some chapter →
        ∀ lesson ∈ chapter.lessons,
          lesson.slug = page.path → contents.Opens position page.href
  other :
    (∀ lesson ∈ tour.lessons, lesson.slug ≠ page.path) → contents.OpensNone

/-- The address of a lesson names a host, and where it leads to, the address of
an earlier lesson of the locale leads as well. -/
def Tour.MixesUp (tour : Tour) (base : Url) : Prop :=
  ∃ part ∈ tour.locales,
    ∃ before lesson after, part.lessons = before ++ lesson :: after ∧
      NamesHost lesson.href ∧ ∃ location, base.join lesson.href = .ok location ∧
        ∃ other ∈ before,
          ∃ target,
            location.join other.href = .ok target ∧
              target.write = location.write

/-- Where a page of the site is shown, the table of contents that is attached to
it shows the page. -/
def Tour.MarksPages (tour : Tour) (base : Url) (pages : List Page) : Prop :=
  ∀ page ∈ pages, ∀ location, base.join page.href = .ok location →
    ∀ client : Client, client.context.location = location →
      ∃ contents,
        (client.attachContents page.toc).contents.map Attached.part =
            some contents ∧
          contents.Marks tour page

theorem LocaleTour.Makes.toc_eq {part : LocaleTour} {config : Config}
    {page : Page}
    (made : part.Makes config page) :
    page.toc = (Contents.ofChapters part.chapters).markup := by
  cases made <;> rfl

theorem LocaleTour.exists_page_of_lesson {part : LocaleTour} {config : Config}
    {pages : List Page}
    (ok : part.pages config = .ok pages) {lesson : Lesson}
    (member : lesson ∈ part.lessons) :
    ∃ page ∈ pages, page.path = lesson.slug := by
  unfold LocaleTour.pages at ok
  cases lessons : part.lessons with
  | nil => simp [lessons] at ok
  | cons first rest =>
      rw [lessons] at ok member
      cases ok
      have paths :
          ((part.frame config).lessonPages (part.frame config).homeHref
              (first :: rest)).map
            Page.path = (first :: rest).map Lesson.slug :=
        (part.frame config).map_lessonPages (fun _ _ _ => rfl) _ _
      have path : lesson.slug ∈ (first :: rest).map Lesson.slug :=
        List.mem_map_of_mem member
      rw [← paths] at path
      obtain ⟨page, isPage, same⟩ := List.mem_map.mp path
      exact ⟨page, List.mem_append_left _ (List.mem_cons_of_mem _ isPage), same⟩

/-- Every lesson has its page, beside which stands the table of contents of its
locale. -/
theorem Tour.exists_page_of_lesson {tour : Tour} {config : Config}
    {pages : List Page}
    (paged : tour.pages config = .ok pages) {part : LocaleTour}
    (isPart : part ∈ tour.locales)
    {lesson : Lesson} (isLesson : lesson ∈ part.lessons) :
    ∃ page ∈ pages, page.path = lesson.slug ∧
      page.toc = (Contents.ofChapters part.chapters).markup := by
  unfold Tour.pages at paged
  obtain ⟨parts, made, ok⟩ := bind_eq_ok_iff.mp paged
  dsimp only at ok
  split at ok
  · cases ok
  · cases ok
    obtain ⟨found, isFound, here⟩ := exists_of_mapM_eq_ok made isPart
    obtain ⟨page, isPage, path⟩ := part.exists_page_of_lesson here isLesson
    exact ⟨page, List.mem_flatten.mpr ⟨found, isFound, isPage⟩, path,
      (part.makes_of_mem here isPage).toc_eq⟩

/-- What is known of the site of a tour that has been read, when no name in it
has a return. -/
structure Tour.Collected (tour : Tour) (pages : List Page) : Prop where
  isPlaced : ∀ page ∈ pages, page.IsPlaced
  distinct : (pages.map Page.path).Nodup
  slugs : ∀ part ∈ tour.locales, (part.lessons.map Lesson.slug).Nodup
  titled : ∀ part ∈ tour.locales, ∀ chapter ∈ part.chapters, chapter.IsTitled
  clean : ∀ part ∈ tour.locales, (Contents.ofChapters part.chapters).IsClean
  /-- A page belongs to a locale; when it is not that of a lesson, its address
  names no host. -/
  made : ∀ page ∈ pages, ∃ part ∈ tour.locales,
    page.toc = (Contents.ofChapters part.chapters).markup ∧
      ((∀ lesson ∈ part.lessons, lesson.slug ≠ page.path) →
        ¬ NamesHost page.href)
  /-- A lesson has its page. -/
  shown : ∀ part ∈ tour.locales, ∀ lesson ∈ part.lessons, ∃ page ∈ pages,
    page.path = lesson.slug ∧
      page.toc = (Contents.ofChapters part.chapters).markup

theorem Tour.collected_of_read {tree : FileTree}
    (proper : (FileNode.directory tree).IsProper) {source : String}
    {scanned config : Config} {tour : Tour} {pages : List Page}
    (read : Tour.read tree source scanned = .ok tour)
    (paged : tour.pages config = .ok pages)
    (noReturn : ∀ lesson ∈ tour.lessons,
      '\r' ∉ lesson.chapter.toList ∧ '\r' ∉ lesson.lesson.toList) :
    tour.Collected pages := by
  obtain ⟨-, counted⟩ := Tour.isCounted_of_read read
  obtain ⟨-, -, -, -, -, named⟩ := Tour.read_eq_ok proper read
  obtain ⟨exists_iff, arranged⟩ := Tour.exists_pages_iff counted config
  obtain ⟨pagesOf, arrangedAs, same⟩ := arranged pages paged
  have titled := Tour.isTitled_of_read read
  have distinct : (tour.paths config).Nodup := exists_iff.mp ⟨pages, paged⟩
  constructor
  case isPlaced =>
    intro page member
    obtain ⟨part, isPart, made⟩ := Tour.exists_makes paged member
    exact made.isPlaced (named part isPart)
  case distinct => rwa [same, arrangedAs.map_path]
  case slugs =>
    have slugs := Tour.nodup_slugs distinct
    rw [Tour.lessons, List.map_flatMap, List.nodup_flatMap] at slugs
    exact slugs.1
  case titled => exact titled
  case clean =>
    intro part isPart
    refine Contents.isClean_ofChapters (titled part isPart)
      (named part isPart) ?_
    intro lesson member
    exact noReturn lesson (List.mem_flatMap.mpr ⟨part, isPart, member⟩)
  case made =>
    intro page member
    obtain ⟨part, isPart, made⟩ := Tour.exists_makes paged member
    refine ⟨part, isPart, made.toc_eq, ?_⟩
    intro noLesson
    cases made with
    | home first =>
        change ¬ NamesHost (pageHref (part.locale.prefixed ""))
        cases part.locale <;> decide +kernel
    | lesson isLesson previous next => exact absurd rfl (noLesson _ isLesson)
    | contents =>
        change ¬ NamesHost (pageHref (part.locale.prefixed contentsPageName))
        cases part.locale <;> decide +kernel
  case shown =>
    exact fun part isPart lesson isLesson =>
      Tour.exists_page_of_lesson paged isPart isLesson

namespace Tour.Collected

variable {tour : Tour} {pages : List Page} {base location : Url}

/-- The table of contents beside a page of a locale as it is read. -/
theorem parse_toc (collected : tour.Collected pages) {part : LocaleTour}
    (isPart : part ∈ tour.locales)
    {page : Page}
    (toc : page.toc = (Contents.ofChapters part.chapters).markup) :
    Contents.parse page.toc = ⟨part.chapters.map Chapter.entry⟩ := by
  rw [toc, Contents.markup_eq_write,
    Contents.parse_writeAll_node (collected.clean part isPart),
    Contents.readBack_ofChapters]

theorem hrefs (collected : tour.Collected pages) {part : LocaleTour}
    (isPart : part ∈ tour.locales) :
    (part.lessons.map Lesson.href).Nodup := by
  have injective : Function.Injective pageHref := fun _ _ => pageHref_injective
  have hrefs := (collected.slugs part isPart).map injective
  rwa [List.map_map] at hrefs

theorem isRooted (collected : tour.Collected pages) {page : Page}
    (member : page ∈ pages) :
    Url.IsRooted page.href :=
  ⟨_, significant_href (collected.isPlaced page member)⟩

/-- From a page whose address names no host, the links of other pages do not
lead back to it. -/
theorem not_leadsTo (collected : tour.Collected pages) (isWeb : base.IsWeb)
    (apart : LeadApart base pages) {page : Page} (member : page ∈ pages)
    (joined : base.join page.href = .ok location)
    (noHost : ¬ NamesHost page.href) {part : LocaleTour}
    (isPart : part ∈ tour.locales) {lesson : Lesson}
    (isLesson : lesson ∈ part.lessons)
    (different : lesson.slug ≠ page.path) :
    lesson.link.leadsTo location = false := by
  obtain ⟨other, isOther, path, -⟩ :=
    collected.shown part isPart lesson isLesson
  have href : lesson.link.href = other.href := congrArg pageHref path.symm
  obtain ⟨isWeb', -, shares⟩ :=
    isWeb.join_eq_ok (collected.isRooted member) joined
  have same : location.join lesson.link.href = base.join other.href := by
    rw [href]
    exact isWeb.join_of_sharesSite isWeb' (collected.isRooted isOther)
      (shares noHost)
  rw [← Bool.not_eq_true, Contents.leadsTo_iff]
  rintro ⟨target, reached, written⟩
  obtain rfl :=
    apart page member other isOther location target joined
      (same.symm.trans reached) written.symm
  exact different path.symm

theorem leadsTo_own (collected : tour.Collected pages) (isWeb : base.IsWeb)
    {page : Page}
    (member : page ∈ pages) (joined : base.join page.href = .ok location)
    {lesson : Lesson}
    (own : lesson.slug = page.path) : lesson.link.leadsTo location = true := by
  have href : lesson.link.href = page.href := congrArg pageHref own
  rw [Contents.leadsTo_iff, href]
  exact ⟨location, isWeb.join_join (collected.isRooted member) joined, rfl⟩

/-- On the page of a lesson that is not mixed up with another, its link is
marked. -/
theorem opens (collected : tour.Collected pages) (isWeb : base.IsWeb)
    (apart : LeadApart base pages)
    (unlike : ¬ tour.MixesUp base) {page : Page} (member : page ∈ pages)
    (joined : base.join page.href = .ok location) {part : LocaleTour}
    (isPart : part ∈ tour.locales)
    {position : Nat} {chapter : Chapter}
    (here : part.chapters[position]? = some chapter)
    {lesson : Lesson} (isLesson : lesson ∈ chapter.lessons)
    (own : lesson.slug = page.path) :
    ((Contents.mk (part.chapters.map Chapter.entry)).highlight location).1.Opens
      position page.href := by
  obtain ⟨inside, get⟩ := List.getElem?_eq_some_iff.mp here
  obtain ⟨earlier, later, split⟩ := List.append_of_mem isLesson
  have chapters : part.chapters =
      part.chapters.take position ++
        chapter :: part.chapters.drop (position + 1) := by
    rw [← get, List.getElem_cons_drop, List.take_append_drop]
  have length : (part.chapters.take position).length = position :=
    List.length_take_of_le inside.le
  generalize part.chapters.take position = before at chapters length
  generalize part.chapters.drop (position + 1) = after at chapters
  have lessons : part.lessons = (before.flatMap Chapter.lessons ++ earlier) ++
      lesson :: (later ++ after.flatMap Chapter.lessons) := by
    rw [LocaleTour.lessons, chapters]
    simp [split]
  have slugs := collected.slugs part isPart
  have href : lesson.href = page.href := congrArg pageHref own
  rw [chapters, ← length, ← href]
  refine Contents.opens_highlight_entries split ?_
    (collected.leadsTo_own isWeb member joined own)
  intro other isEarlier
  by_cases names : NamesHost page.href
  · rw [← Bool.not_eq_true, Contents.leadsTo_iff]
    rintro ⟨target, reached, written⟩
    exact unlike
      ⟨part, isPart, _, lesson, _, lessons, href ▸ names, location,
        href ▸ joined, other, isEarlier, target, reached, written⟩
  · refine collected.not_leadsTo isWeb apart member joined names isPart ?_ ?_
    · rw [lessons]
      exact List.mem_append_left _ isEarlier
    · rw [lessons, List.map_append, List.nodup_append] at slugs
      rw [← own]
      exact slugs.2.2 _ (List.mem_map_of_mem isEarlier) _ List.mem_cons_self

/-- Pages of lessons that are not mixed up with others are marked, and other
pages have nothing marked. -/
theorem marksPages (collected : tour.Collected pages) (isWeb : base.IsWeb)
    (apart : LeadApart base pages)
    (unlike : ¬ tour.MixesUp base) : tour.MarksPages base pages := by
  rintro page member location joined client rfl
  refine ⟨((Contents.parse page.toc).highlight client.context.location).1, rfl,
    ?_, ?_⟩
  · intro part isPart position chapter here lesson inside own
    have isLesson : lesson ∈ part.lessons :=
      List.mem_flatMap.mpr ⟨chapter, List.mem_of_getElem? here, inside⟩
    obtain ⟨shown, isShown, path, toc⟩ :=
      collected.shown part isPart lesson isLesson
    obtain rfl :=
      eq_of_map_eq_of_nodup collected.distinct isShown member (path.trans own)
    rw [collected.parse_toc isPart toc]
    exact collected.opens isWeb apart unlike member joined isPart
      here inside own
  · intro noLesson
    obtain ⟨part, isPart, toc, noHost⟩ := collected.made page member
    have different : ∀ lesson ∈ part.lessons, lesson.slug ≠ page.path :=
      fun lesson isLesson =>
        noLesson lesson (List.mem_flatMap.mpr ⟨part, isPart, isLesson⟩)
    rw [collected.parse_toc isPart toc]
    apply Contents.opensNone_highlight
    rw [Contents.links_entries]
    intro link isLink
    obtain ⟨lesson, isLesson, rfl⟩ := List.mem_map.mp isLink
    exact collected.not_leadsTo isWeb apart member joined (noHost different)
      isPart isLesson (different lesson isLesson)

/-- On the page of a lesson that is mixed up with an earlier one, the link of
the lesson is not marked. -/
theorem not_mixesUp (collected : tour.Collected pages)
    (marks : tour.MarksPages base pages) :
    ¬ tour.MixesUp base := by
  rintro ⟨part, isPart, before, lesson, after, lessons, -, location, joined,
    other, isEarlier, target, reached, written⟩
  have isLesson : lesson ∈ part.lessons := by
    rw [lessons]
    exact List.mem_append_right _ List.mem_cons_self
  obtain ⟨page, member, path, toc⟩ :=
    collected.shown part isPart lesson isLesson
  have href : lesson.href = page.href := congrArg pageHref path.symm
  obtain ⟨contents, attached, marked⟩ :=
    marks page member location (href ▸ joined) (.start location) rfl
  have shown :
      (Client.attachContents (.start location) page.toc).contents.map
          Attached.part =
        some ((Contents.parse page.toc).highlight location).1 := rfl
  obtain rfl := Option.some.inj (shown.symm.trans attached)
  obtain ⟨chapter, isChapter, inside⟩ := List.mem_flatMap.mp isLesson
  obtain ⟨position, here⟩ := List.mem_iff_getElem?.mp isChapter
  have opens :=
    marked.lesson part isPart position chapter here lesson inside path.symm
  rw [collected.parse_toc isPart toc, ← href] at opens
  have none_ :=
    Contents.not_leadsTo_of_opens lessons (collected.hrefs isPart) opens
      other isEarlier
  have leads : other.link.leadsTo location = true :=
    Contents.leadsTo_iff.mpr ⟨target, reached, written⟩
  rw [leads] at none_
  cases none_

end Tour.Collected

/-- Where the pages of a site lead to different places, every page is marked in
its table of contents, just if no lesson is mixed up with an earlier one. -/
theorem Tour.marksPages_iff {tree : FileTree}
    (proper : (FileNode.directory tree).IsProper)
    {source : String} {scanned config : Config} {tour : Tour}
    {pages : List Page}
    (read : Tour.read tree source scanned = .ok tour)
    (paged : tour.pages config = .ok pages)
    (noReturn : ∀ lesson ∈ tour.lessons,
      '\r' ∉ lesson.chapter.toList ∧ '\r' ∉ lesson.lesson.toList)
    {base : Url} (isWeb : base.IsWeb) (apart : LeadApart base pages) :
    tour.MarksPages base pages ↔ ¬ tour.MixesUp base := by
  have collected := Tour.collected_of_read proper read paged noReturn
  exact ⟨collected.not_mixesUp, collected.marksPages isWeb apart⟩

theorem Tour.marksPages_wideTour :
    (FileNode.directory (wideTree "2_e" "1_f")).IsProper ∧
      Tour.read (wideTree "2_e" "1_f") "tour" .stock =
        .ok (wideTour secondChapter.1 secondChapter.2) ∧
      (wideTour secondChapter.1 secondChapter.2).pages .stock =
        .ok (widePages secondChapter) ∧
      LeadApart (httpSite "tour.test") (widePages secondChapter) ∧
      (wideTour secondChapter.1 secondChapter.2).MarksPages
        (httpSite "tour.test") (widePages secondChapter) := by
  have proper : (FileNode.directory (wideTree "2_e" "1_f")).IsProper :=
    isProper_wideTree (by decide) (by decide)
  have read : Tour.read (wideTree "2_e" "1_f") "tour" .stock =
      .ok (wideTour secondChapter.1 secondChapter.2) :=
    @read_wideTree secondChapter (.inl rfl)
  have paged := @pages_wideTour secondChapter (.inl rfl)
  have apart : LeadApart (httpSite "tour.test") (widePages secondChapter) :=
    .of_nodup (by decide +kernel)
  have noHosts : ∀ lesson ∈ (wideTour secondChapter.1 secondChapter.2).lessons,
      ¬ NamesHost lesson.href := by decide +kernel
  refine ⟨proper, read, paged, apart,
    (Tour.marksPages_iff proper read paged (by decide) (Url.isWeb_httpSite _)
      apart).mpr ?_⟩
  rintro ⟨part, isPart, before, lesson, after, lessons, names, -⟩
  have isLesson : lesson ∈ part.lessons := by
    rw [lessons]
    exact List.mem_append_right _ List.mem_cons_self
  exact noHosts lesson (List.mem_flatMap.mpr ⟨part, isPart, isLesson⟩) names

/-- A tree with a tour where the name of an English chapter begins with a
backslash. -/
def hostTree : FileTree :=
  wideTree hostChapter.1.name hostChapter.2.name

def hostTour : Tour :=
  wideTour hostChapter.1 hostChapter.2

/-- The page of the lesson `a\b` in the chapter `\h` is shown at
`http://h/a/b/index.html`, where the link to the lesson `b` of the chapter `a`
leads as well. -/
theorem Tour.not_marksPages_hostTour :
    (FileNode.directory hostTree).IsProper ∧
      Tour.read hostTree "tour" .stock = .ok hostTour ∧
        (∀ lesson ∈ hostTour.lessons,
          '\r' ∉ lesson.chapter.toList ∧ '\r' ∉ lesson.lesson.toList) ∧
        ∃ pages,
          hostTour.pages .stock = .ok pages ∧ (httpSite "tour.test").IsWeb ∧
            LeadApart (httpSite "tour.test") pages ∧
            ¬ hostTour.MarksPages (httpSite "tour.test") pages := by
  have noReturn : ∀ lesson ∈ hostTour.lessons,
      '\r' ∉ lesson.chapter.toList ∧ '\r' ∉ lesson.lesson.toList := by decide
  have distinct :
      ∃ pages ∈ (hostTour.pages .stock).toOption, (pages.map fun page =>
        ((httpSite "tour.test").join page.href).toOption.map
          Url.write).Nodup := by decide +kernel
  have mixed : ∃ part ∈ hostTour.locales, ∃ lesson ∈ part.lessons.getLast?,
      NamesHost lesson.href ∧
        ∃ location ∈ ((httpSite "tour.test").join lesson.href).toOption,
          ∃ other ∈ part.lessons.dropLast,
            ∃ target ∈ (location.join other.href).toOption,
              target.write = location.write := by decide +kernel
  obtain ⟨pages, made, apart⟩ := distinct
  have paged := eq_ok_of_toOption made
  have proper : (FileNode.directory hostTree).IsProper :=
    isProper_wideTree (by decide) (by decide)
  have read : Tour.read hostTree "tour" .stock = .ok hostTour :=
    @read_wideTree hostChapter (.inr rfl)
  have collected := Tour.collected_of_read proper read paged noReturn
  refine ⟨proper, read, noReturn, pages, paged, Url.isWeb_httpSite _,
    .of_nodup apart, fun marks => collected.not_mixesUp marks ?_⟩
  obtain ⟨part, isPart, lesson, isLast, names, location, joined, other,
    isEarlier, target, reached, written⟩ := mixed
  exact ⟨part, isPart, part.lessons.dropLast, lesson, [],
    (List.dropLast_append_getLast? lesson isLast).symm, names, location,
    eq_ok_of_toOption joined, other, isEarlier, target,
    eq_ok_of_toOption reached, written⟩

end LessonSite
