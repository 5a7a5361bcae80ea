import LessonSite.Proofs.Site.Loaded
import LessonSite.Proofs.Site.Publication

/-!
# Browsing a site

Once the pages of a tour have been written as they should be, a client that
loads route states from the files can go from every page to every other one,
just if the names of all pages mean themselves in addresses.
-/

namespace LessonSite

open FileTree

variable {pages : List Page}

/-- Whatever empty directory the site has been written in, and in whatever
order, every page can be loaded from every page, wherever the site is served. -/
def Browsable (pages : List Page) : Prop :=
  ∀ (template : Template) (before after : FileTree) (directory : String),
    before.node directory = .ok (.directory []) →
    ∀ schedule, IsSchedule pages schedule →
      makeParts template directory before schedule = .ok after →
        ∀ origin : Url, origin.IsHttp → ∀ page ∈ pages, ∀ other ∈ pages,
          Loads after directory origin page other

/-- The pages of a site that is finished in the small tree have been made
there. -/
theorem Separate.exists_made (placed : PagesPlaced pages)
    (separate : Separate pages) :
    ∃ made after,
      makeParts ⟨[], []⟩ "dist" emptySite (pages.flatMap Page.parts) =
          .ok after ∧
        Made ⟨[], []⟩ emptySite ["dist"] made after ∧
        ∀ task ∈ made, task.1 ∈ pages := by
  have isSchedule := isSchedule_flatMap (List.Perm.refl pages)
  have start : Made ⟨[], []⟩ emptySite ["dist"] [] emptySite :=
    holds_start siteRoot_emptySite.found
  obtain ⟨after, ok, holds⟩ :=
    start.run placed separate siteRoot_emptySite isSchedule rfl
  refine ⟨_, after, ok, holds, ?_⟩
  intro task isMade
  rw [List.append_nil, List.mem_reverse] at isMade
  exact isSchedule.mem_iff.mp isMade

theorem Browsable.isReadable (placed : PagesPlaced pages)
    (separate : Separate pages)
    (own : ∀ page ∈ pages, page.ownHref = page.href)
    (browsable : Browsable pages) :
    ∀ page ∈ pages, page.IsReadable := by
  obtain ⟨made, after, ok, holds, ours⟩ := separate.exists_made placed
  have site : LoadedSite pages made after :=
    { placed, separate, own, holds, ours
      loads := browsable _ emptySite after "dist" node_emptySite _
        (isSchedule_flatMap (List.Perm.refl pages)) ok }
  intro page member
  exact site.isReadable member

theorem Separate.browsable (placed : PagesPlaced pages)
    (separate : Separate pages)
    (readable : ∀ page ∈ pages, page.IsReadable) : Browsable pages := by
  intro template before after directory empty schedule isSchedule ok origin
    isHttp page member other isPage
  obtain ⟨top, base, left, root⟩ := exists_siteRoot empty
  have start : Made template before top [] before := holds_start root.found
  obtain ⟨finished, made, holds⟩ :=
    start.run placed separate root isSchedule rfl
  cases made.symm.trans ok
  have all : (schedule.reverse ++ []).Perm (pages.flatMap Page.parts) := by
    rw [List.append_nil]
    exact (List.reverse_perm schedule).trans isSchedule.all
  obtain ⟨place, spelled⟩ := separate.placeNames placed member
  obtain ⟨otherPlace, otherSpelled⟩ := separate.placeNames placed isPage
  have written :
      (otherPlace ++ ["index.json"], Utf8.encode other.routeState.write) ∈
        Page.madeFiles template (other, .json) := by
    rw [madeFiles_json template otherSpelled.place?_eq]
    exact List.mem_cons_self
  exact root.loads (holds.extends_before root.found)
    (placed.isPlaced page member)
    (placed.isPlaced other isPage) spelled otherSpelled (readable page member)
    (readable other isPage)
    (holds.kind?_eq_file separate all isPage written) isHttp

instance (segment : String) : Decidable (Url.IsRelative segment) :=
  decidable_of_iff
    (segment ≠ "" ∧ (Url.splitScheme? segment.toList).isSome = false ∧
      Url.isDrive segment.toList = false)
    ⟨fun ⟨ne_empty, noScheme, noDrive⟩ => ⟨ne_empty, noScheme, noDrive⟩,
      fun relative => ⟨relative.ne_empty, relative.noScheme, relative.noDrive⟩⟩

instance (page : Page) : Decidable page.IsReadable :=
  decidable_of_iff
    ((∀ name ∈ page.names, Url.IsPlain name) ∧
      (∀ place ∈ page.place?, ∀ first ∈ place.head?, Url.IsRelative first) ∧
      page.index < UInt64.size ∧ page.total < UInt64.size)
    ⟨fun ⟨plain, relative, index, total⟩ => ⟨plain, relative, ⟨index, total⟩⟩,
      fun readable =>
        ⟨readable.plain, readable.relative, readable.counted.index,
          readable.counted.total⟩⟩

/-- A site that is published can be browsed just if its pages are readable. -/
theorem Tour.browsable_iff_isReadable {tree : FileTree}
    (proper : (FileNode.directory tree).IsProper) {source : String}
    {config : Config} {tour : Tour}
    {pages : List Page} (read : Tour.read tree source config = .ok tour)
    (paged : tour.pages config = .ok pages) {template : Template}
    (publishable : Publishable template pages) :
    Browsable pages ↔ ∀ page ∈ pages, page.IsReadable := by
  have placed := Tour.pagesPlaced proper read paged
  have separate := publishable.separate placed
  constructor
  · intro browsable
    exact browsable.isReadable placed separate
      (Tour.ownHref_pages proper read paged)
  · intro readable
    exact separate.browsable placed readable

theorem Tour.browsable_smallTour :
    (FileNode.directory (smallTree plainChapter.name)).IsProper ∧
      Tour.read (smallTree plainChapter.name) "tour" .stock =
        .ok (smallTour plainChapter) ∧
      (smallTour plainChapter).pages .stock = .ok (smallPages plainChapter) ∧
      Publishable ⟨[], []⟩ (smallPages plainChapter) ∧
      Browsable (smallPages plainChapter) := by
  have proper : (FileNode.directory (smallTree plainChapter.name)).IsProper :=
    isProper_smallTree (by decide)
  have read :
      Tour.read (smallTree plainChapter.name) "tour" .stock =
        .ok (smallTour plainChapter) :=
    read_smallTree (.inl rfl)
  have paged :
      (smallTour plainChapter).pages .stock = .ok (smallPages plainChapter) :=
    pages_smallTour (.inl rfl)
  have separate : Separate (smallPages plainChapter) := by decide +kernel
  have publishable : Publishable ⟨[], []⟩ (smallPages plainChapter) :=
    separate.publishable (Tour.pagesPlaced proper read paged)
  exact ⟨proper, read, paged, publishable,
    (Tour.browsable_iff_isReadable proper read paged publishable).mpr
      (by decide +kernel)⟩

/-- The file that is read when a link from one page to another is followed on a
site. -/
def requestedFile? (origin : Url) (page other : Page) :
    Option (List UInt8) := do
  let location ← (origin.join page.href).toOption
  let target ← (location.join other.href).toOption
  fileFor? (Url.tidyPath (Source.workplace ++ "dist"))
    (← target.routeData.toOption)

theorem requestedFile?_of_loads {after : FileTree} {origin : Url}
    {page other : Page}
    (loads : Loads after "dist" origin page other) {path : String}
    (requested : requestedFile? origin page other =
      some (Utf8.encode (Source.workplace ++ path))) :
    ∃ content, after.read path = .ok content ∧
      (Utf8.decode? content).bind RouteState.read? = some other.routeState := by
  obtain ⟨location, target, request, here, there, -, asked, read⟩ :=
    loads_iff.mp loads
  obtain ⟨bytes, found, content, named, decoded, file, state⟩ :=
    Source.exists_of_readFile read
  have same : requestedFile? origin page other = some bytes := by
    simp [requestedFile?, here, there, asked, named, Except.toOption]
  have spelled :
      some (Source.workplace ++ found) = some (Source.workplace ++ path) := by
    rw [← decoded, Option.some.inj (same.symm.trans requested),
      Utf8.decode?_encode]
  rw [Option.some.injEq, String.append_right_inj] at spelled
  exact ⟨content, spelled ▸ file, state⟩

/-- The file of a chapter called `%41` is looked for in the directory `A`. -/
theorem Tour.not_loads_smallTour_escaped :
    (FileNode.directory (smallTree escapedChapter.name)).IsProper ∧
      Tour.read (smallTree escapedChapter.name) "tour" .stock =
        .ok (smallTour escapedChapter) ∧
      (smallTour escapedChapter).pages .stock =
        .ok (smallPages escapedChapter) ∧
      (httpSite "a").IsHttp ∧
      ∃ after,
        writeSite ⟨[], []⟩ "dist" emptySite (smallPages escapedChapter) =
            .ok after ∧
          Published ⟨[], []⟩ "dist" (smallPages escapedChapter)
            emptySite after ∧
          ∃ home ∈ smallPages escapedChapter,
            ∃ lesson ∈ smallPages escapedChapter,
              home.path = "" ∧ lesson.path = "%41/a" ∧
                ¬Loads after "dist" (httpSite "a") home lesson := by
  have proper : (FileNode.directory (smallTree escapedChapter.name)).IsProper :=
    isProper_smallTree (by decide)
  have read : Tour.read (smallTree escapedChapter.name) "tour" .stock =
      .ok (smallTour escapedChapter) :=
    read_smallTree_of_mem (by simp [smallChapters])
  have paged :
      (smallTour escapedChapter).pages .stock =
        .ok (smallPages escapedChapter) :=
    pages_smallTour_of_mem (by simp [smallChapters])
  have placed := Tour.pagesPlaced proper read paged
  have separate : Separate (smallPages escapedChapter) := by decide +kernel
  obtain ⟨after, written, published⟩ :=
    (separate.publishable placed : Publishable ⟨[], []⟩ _).writeSite
      node_emptySite
  obtain ⟨made, finished, ok, holds, ours⟩ := separate.exists_made placed
  cases ok.symm.trans written
  refine ⟨proper, read, paged, LoadedSite.isHttp_a, after, written, published,
    ?_⟩
  have asked :
      ∃ home ∈ smallPages escapedChapter, ∃ lesson ∈ smallPages escapedChapter,
        home.path = "" ∧ lesson.path = "%41/a" ∧
          requestedFile? (httpSite "a") home lesson =
            some (Utf8.encode (Source.workplace ++ "dist/A/a/index.json")) := by
    decide +kernel
  obtain ⟨home, isHome, lesson, isLesson, homePath, lessonPath, requested⟩ :=
    asked
  refine ⟨home, isHome, lesson, isLesson, homePath, lessonPath, ?_⟩
  intro loads
  obtain ⟨content, file, state⟩ := requestedFile?_of_loads loads requested
  obtain ⟨page, place, isMade, here, resolved, -⟩ :=
    holds.exists_page_of_read file state
  obtain ⟨-, -, -, left, leads⟩ := resolve_eq_ok_iff.mp resolved
  have way := leads.eq_walk holds.linkFree
  have walks :
      walk [] (pathNames "dist/A/a/index.json") =
        ["dist"] ++ (["A", "a"] ++ ["index.json"]) := by
    decide +kernel
  rw [walks, List.append_cancel_left_eq, List.append_cancel_right_eq] at way
  have absent :
      ∀ page ∈ smallPages escapedChapter, page.place? ≠ some ["A", "a"] := by
    decide +kernel
  exact absent page (ours _ isMade) (way ▸ here)

end LessonSite
