import LessonSite.Proofs.Site.Publication
import LessonSite.Proofs.Tour.Counted
import Mathlib.Data.List.Chain

/-!
# Pages in a chain

The page that a locale opens with and the pages of its lessons are linked one to
the next, in the order in which the lessons are counted and in which the table
of contents lists them.
-/

namespace LessonSite

/-- What a page shows apart from links and places. -/
def Page.shown (page : Page) : String × String × String × String :=
  (page.path, page.title, page.markdownHtml, page.code)

/-- The pages that a locale gets: the one that it opens with, those of its
lessons, and the one with the table of contents, if it is wanted. -/
structure LocaleTour.Arranged (part : LocaleTour) (config : Config)
    (opening : Page) (inner outer : List Page) : Prop where
  home :
    opening.shown = (part.locale.prefixed "", (config.locale part.locale).title,
      Markdown.render part.intro.markdown, part.intro.code)
  lessons : inner.map Page.shown = part.lessons.map fun lesson =>
    (lesson.slug, lesson.lesson ++ " - " ++ (config.locale part.locale).title,
      Markdown.render lesson.markdown, lesson.code)
  nonempty : inner ≠ []
  contents : outer.map Page.shown =
    if config.tocPage then
      [(part.locale.prefixed contentsPageName,
        (config.locale part.locale).tocTitle ++ " - " ++
          (config.locale part.locale).title,
        Markdown.render
          (contentsMarkdown (config.locale part.locale).tocTitle part.chapters),
        "")]
    else []
  locale : ∀ page ∈ opening :: inner ++ outer, page.locale = part.locale
  linked : (opening :: inner).IsChain fun page following =>
    page.next = Markup.link following.href (config.locale part.locale).next ∧
      following.back = Markup.link page.href (config.locale part.locale).back
  first : opening.back = Markup.disabledLink (config.locale part.locale).back
  last :
    ∀ page ∈ inner.getLast?,
      page.next = Markup.disabledLink (config.locale part.locale).next
  apart :
    ∀ page ∈ outer,
      page.back = Markup.disabledLink (config.locale part.locale).back ∧
        page.next = Markup.disabledLink (config.locale part.locale).next
  places : inner.map (fun page => (page.index, page.total)) =
    (List.range inner.length).map fun position => (position + 1, inner.length)
  single : ∀ page ∈ opening :: outer, page.index = 1 ∧ page.total = 1
  toc :
    ∀ page ∈ opening :: inner ++ outer,
      ∃ contents : Contents, page.toc = contents.markup ∧
        contents.links.map ContentsLink.href = inner.map Page.href

namespace PageFrame

variable (frame : PageFrame)

/-- What can be seen of the page of a lesson without its links is seen of its
lesson. -/
theorem map_lessonPages {Part : Type} {view : Page → Part}
    {part : Lesson → Part} (same : ∀ (lesson : Lesson) (back next : String),
      view
        (frame.page lesson.slug (lesson.lesson ++ " - " ++ frame.labels.title)
          lesson.markdown
          lesson.code back next (lesson.index + 1) lesson.total) = part lesson)
    (previous : String) (lessons : List Lesson) :
    (frame.lessonPages previous lessons).map view = lessons.map part := by
  induction lessons generalizing previous with
  | nil => rfl
  | cons lesson lessons induction =>
      rw [lessonPages, List.map_cons, same, induction, List.map_cons]

theorem common_lessonPages (previous : String) {lessons : List Lesson} :
    ∀ page ∈ frame.lessonPages previous lessons,
      page.locale = frame.locale ∧ page.toc = frame.toc := by
  induction lessons generalizing previous with
  | nil => nofun
  | cons lesson lessons induction =>
      exact List.forall_mem_cons.mpr ⟨⟨rfl, rfl⟩, induction _⟩

/-- A page that leads on to the first of some lessons, and their pages, are
linked one to the next; the last one leads nowhere. -/
theorem linked_lessonPages {page : Page} {lessons : List Lesson}
    (next : page.next = frame.nextLink (lessons.head?.map Lesson.href)) :
    (page :: frame.lessonPages page.href lessons).IsChain (fun page following =>
        page.next = Markup.link following.href frame.labels.next ∧
          following.back = Markup.link page.href frame.labels.back) ∧
      ∀ last ∈ (page :: frame.lessonPages page.href lessons).getLast?,
        last.next = Markup.disabledLink frame.labels.next := by
  induction lessons generalizing page with
  | nil =>
      refine ⟨.singleton page, ?_⟩
      intro last member
      cases Option.mem_some_iff.mp member
      exact next
  | cons lesson lessons induction =>
      rw [lessonPages, List.getLast?_cons_cons]
      generalize
        here : frame.page lesson.slug
          (lesson.lesson ++ " - " ++ frame.labels.title)
          lesson.markdown lesson.code (Markup.link page.href frame.labels.back)
          (frame.nextLink (lessons.head?.map Lesson.href)) (lesson.index + 1)
          lesson.total = following
      have href : lesson.href = following.href := by rw [← here]; rfl
      have onwards :
          following.next =
            frame.nextLink (lessons.head?.map Lesson.href) := by
        rw [← here]; rfl
      have backwards :
          following.back =
            Markup.link page.href frame.labels.back := by rw [← here]; rfl
      obtain ⟨linked, last⟩ := induction onwards
      rw [href]
      refine ⟨.cons_cons ⟨?_, backwards⟩ linked, last⟩
      rw [next, ← href]
      rfl

end PageFrame

theorem Contents.href_links_ofChapters (chapters : List Chapter) :
    (Contents.ofChapters chapters).links.map ContentsLink.href =
      (chapters.flatMap Chapter.lessons).map Lesson.href := by
  simp only [Contents.links, Contents.ofChapters, List.flatMap_map,
    List.map_flatMap, List.map_map]
  rfl

/-- The pages of a locale whose lessons have been counted. -/
theorem LocaleTour.IsCounted.arranged {part : LocaleTour}
    (counted : part.IsCounted) (config : Config) :
    ∃ opening inner outer, part.pages config = .ok (opening :: inner ++ outer) ∧
      part.Arranged config opening inner outer := by
  obtain ⟨first, rest, lessons⟩ := List.exists_cons_of_ne_nil counted.nonempty
  have pages :
      part.pages config = .ok ((part.frame config).homePage part.intro first ::
        (part.frame config).lessonPages (part.frame config).homeHref
          part.lessons ++
          if config.tocPage then
            [(part.frame config).contentsPage part.chapters]
          else []) := by
    simp only [LocaleTour.pages, lessons]
  have onwards : ((part.frame config).homePage part.intro first).next =
      (part.frame config).nextLink (part.lessons.head?.map Lesson.href) := by
    rw [lessons]
    rfl
  obtain ⟨linked, last⟩ := (part.frame config).linked_lessonPages onwards
  have hrefs :
      ((part.frame config).lessonPages (part.frame config).homeHref
          part.lessons).map Page.href =
        part.lessons.map Lesson.href :=
    (part.frame config).map_lessonPages (fun _ _ _ => rfl) _ _
  have only :
      ∀ page ∈ if config.tocPage then
          [(part.frame config).contentsPage part.chapters]
        else [],
        page = (part.frame config).contentsPage part.chapters := by
    intro page member
    split at member
    · exact List.mem_singleton.mp member
    · cases member
  have common : ∀ page ∈ (part.frame config).homePage part.intro first ::
      (part.frame config).lessonPages (part.frame config).homeHref
        part.lessons ++
        (if config.tocPage then
          [(part.frame config).contentsPage part.chapters]
        else []),
      page.locale = part.locale ∧
        page.toc = (Contents.ofChapters part.chapters).markup := by
    intro page member
    rcases List.mem_append.mp member with early | outer
    · rcases List.mem_cons.mp early with rfl | inner
      · exact ⟨rfl, rfl⟩
      · exact (part.frame config).common_lessonPages _ page inner
    · rw [only page outer]
      exact ⟨rfl, rfl⟩
  refine ⟨_, _, _, pages, ?_⟩
  constructor
  case home => rfl
  case lessons =>
    exact (part.frame config).map_lessonPages (fun _ _ _ => rfl) _ _
  case nonempty =>
    rw [lessons]
    exact List.cons_ne_nil _ _
  case contents => cases config.tocPage <;> rfl
  case locale => exact fun page member => (common page member).1
  case linked => exact linked
  case first => rfl
  case last =>
    intro page member
    apply last page
    have found :
        ((part.frame config).lessonPages
          ((part.frame config).homePage part.intro first).href
          part.lessons).getLast? = some page := member
    rw [List.getLast?_cons, found]
    rfl
  case apart =>
    intro page member
    rw [only page member]
    exact ⟨rfl, rfl⟩
  case places =>
    have places :
        ((part.frame config).lessonPages (part.frame config).homeHref
            part.lessons).map
          (fun page => (page.index, page.total)) =
            part.lessons.map fun lesson => (lesson.index + 1, lesson.total) :=
      (part.frame config).map_lessonPages (fun _ _ _ => rfl) _ _
    have length := congrArg List.length hrefs
    rw [List.length_map, List.length_map] at length
    have shifted :=
      congrArg (List.map fun place => (place.1 + 1, place.2)) counted.counted
    rw [List.map_map, List.map_map] at shifted
    rw [places, length]
    exact shifted
  case single =>
    intro page member
    rcases List.mem_cons.mp member with rfl | outer
    · exact ⟨rfl, rfl⟩
    · rw [only page outer]
      exact ⟨rfl, rfl⟩
  case toc =>
    intro page member
    refine ⟨Contents.ofChapters part.chapters, (common page member).2, ?_⟩
    rw [hrefs]
    exact Contents.href_links_ofChapters part.chapters

/-- The second page is the first one of some pages that has the path of an
earlier one. -/
def FirstRepeat (pages : List Page) (first second : Page) : Prop :=
  ∃ before after,
    pages = before ++ second :: after ∧ (before.map Page.path).Nodup ∧
      first ∈ before ∧ first.path = second.path

theorem firstRepeat_of_sharedPath? {before pages : List Page}
    {first second : Page} (distinct : (before.map Page.path).Nodup)
    (shared : sharedPath? before pages = some (first, second)) :
    FirstRepeat (before ++ pages) first second := by
  induction pages generalizing before with
  | nil => cases shared
  | cons page pages induction =>
      unfold sharedPath? at shared
      split at shared
      · next found =>
          cases shared
          exact ⟨before, pages, rfl, distinct, List.mem_of_find?_eq_some found,
            by simpa using List.find?_some found⟩
      · next absent =>
          rw [show before ++ page :: pages = before ++ [page] ++ pages by simp]
          exact induction (nodup_paths_concat distinct absent) shared

/-- The pages of each locale of a tour are arranged. -/
def Tour.ArrangedAs (tour : Tour) (config : Config)
    (pagesOf : LocaleTour → List Page) : Prop :=
  ∀ part ∈ tour.locales,
    ∃ opening inner outer, pagesOf part = opening :: inner ++ outer ∧
      part.Arranged config opening inner outer

theorem Tour.exists_arrangedAs {tour : Tour}
    (counted : ∀ part ∈ tour.locales, part.IsCounted)
    (config : Config) : ∃ pagesOf, tour.ArrangedAs config pagesOf ∧
      tour.locales.mapM (fun part => part.pages config) =
        .ok (tour.locales.map pagesOf) := by
  refine ⟨fun part => (part.pages config).toOption.getD [], ?_,
    mapM_eq_ok_of_forall ?_⟩
  · intro part member
    obtain ⟨opening, inner, outer, made, arranged⟩ :=
      (counted part member).arranged config
    exact ⟨opening, inner, outer,
      congrArg (fun result => result.toOption.getD []) made, arranged⟩
  · intro part member
    obtain ⟨opening, inner, outer, made, -⟩ :=
      (counted part member).arranged config
    rw [made]
    rfl

/-- The site has the pages of all locales, one locale after the other, if no two
of them share a path. -/
theorem Tour.pages_eq_ok_iff {tour : Tour} {config : Config}
    {pagesOf : LocaleTour → List Page} {pages : List Page}
    (made : tour.locales.mapM (fun part => part.pages config) =
      .ok (tour.locales.map pagesOf)) :
    tour.pages config = .ok pages ↔
      pages = tour.locales.flatMap pagesOf ∧ sharedPath? [] pages = none := by
  unfold Tour.pages
  rw [made, List.flatMap_def, bind_eq_ok_iff]
  constructor
  · rintro ⟨blocks, same, ok⟩
    cases same
    dsimp only at ok
    split at ok
    · cases ok
    · next apart =>
        cases ok
        exact ⟨rfl, apart⟩
  · rintro ⟨rfl, apart⟩
    refine ⟨_, rfl, ?_⟩
    simp only [apart]

/-- The site of a tour that has been read has the arranged pages of each locale,
unless two of them share a path. -/
theorem Tour.pages_arranged {tree : FileTree} {source : String}
    {scanned : Config} {tour : Tour}
    (read : Tour.read tree source scanned = .ok tour) (config : Config) :
    tour.locales.map LocaleTour.locale = Locale.all ∧
      ∃ pagesOf, tour.ArrangedAs config pagesOf ∧
        (((tour.locales.flatMap pagesOf).map Page.path).Nodup ∧
            tour.pages config = .ok (tour.locales.flatMap pagesOf) ∨
          ∃ first second,
            FirstRepeat (tour.locales.flatMap pagesOf) first second ∧
              tour.pages config =
                .error (.sharedPath second.path first.title second.title)) := by
  obtain ⟨locales, counted⟩ := Tour.isCounted_of_read read
  obtain ⟨pagesOf, arranged, made⟩ := tour.exists_arrangedAs counted config
  refine ⟨locales, pagesOf, arranged, ?_⟩
  unfold Tour.pages
  rw [made, List.flatMap_def]
  cases shared : sharedPath? [] (tour.locales.map pagesOf).flatten with
  | none =>
      left
      refine ⟨nodup_paths_of_sharedPath? shared List.nodup_nil, ?_⟩
      simp only [bind, Except.bind, shared]
  | some found =>
      right
      obtain ⟨first, second⟩ := found
      have repeats :
          FirstRepeat ([] ++ (tour.locales.map pagesOf).flatten) first second :=
        firstRepeat_of_sharedPath? List.nodup_nil shared
      refine ⟨first, second, repeats, ?_⟩
      simp only [bind, Except.bind, shared]

theorem Tour.pages_arranged_wideTour :
    Tour.read (wideTree "2_e" "1_f") "tour" .stock =
        .ok (wideTour secondChapter.1 secondChapter.2) ∧
      ∃ pagesOf,
        (wideTour secondChapter.1 secondChapter.2).ArrangedAs .stock pagesOf ∧
          (wideTour secondChapter.1 secondChapter.2).pages .stock =
            .ok
              ((wideTour secondChapter.1 secondChapter.2).locales.flatMap
                pagesOf) := by
  have read : Tour.read (wideTree "2_e" "1_f") "tour" .stock =
      .ok (wideTour secondChapter.1 secondChapter.2) :=
    @read_wideTree secondChapter (.inl rfl)
  obtain ⟨-, pagesOf, arranged, ⟨-, made⟩ | ⟨first, second, -, refused⟩⟩ :=
    Tour.pages_arranged read .stock
  · exact ⟨read, pagesOf, arranged, made⟩
  · rw [@pages_wideTour secondChapter (.inl rfl)] at refused
    cases refused

/-- A chapter with the name of the directory of a locale. -/
def localeChapter : NumberedDirectory :=
  ⟨⟨1, "zh"⟩, "1_zh"⟩

/-- A lesson with the name of a page with the table of contents. -/
def contentsLesson : NumberedDirectory :=
  ⟨⟨1, contentsPageName⟩, "1_" ++ contentsPageName⟩

/-- A tree with a tour where an English lesson has the path of the Chinese table
of contents. -/
def crossedTree : FileTree :=
  let sources : FileTree := [("index.mbt", .file []), ("index.md", .file [])]
  [("tour", .directory
    ((localeChapter.name,
        .directory [(contentsLesson.name, .directory sources)]) :: sources ++
      [("zh",
        .directory
          (("1_c", .directory [("1_a", .directory sources)]) :: sources))]))]

def crossedTour : Tour :=
  ⟨[.single .en localeChapter contentsLesson,
    .single .zh ⟨⟨1, "c"⟩, "1_c"⟩ ⟨⟨1, "a"⟩, "1_a"⟩]⟩

theorem Tour.not_arranged_crossedTour :
    Tour.read crossedTree "tour" .stock = .ok crossedTour ∧
      ¬∃ pagesOf, crossedTour.ArrangedAs .stock pagesOf ∧
        crossedTour.pages .stock =
          .ok (crossedTour.locales.flatMap pagesOf) := by
  constructor
  · apply Tour.read_stock_eq_ok
    · exact LocaleTour.read_eq_single (eq_ok_of_toOption (by decide +kernel))
        (NumberedDirectory.list_eq_singleton rfl (by decide +kernel) rfl)
        (NumberedDirectory.list_eq_singleton rfl (by decide +kernel) rfl)
        (eq_ok_of_toOption (by decide +kernel)) .en
    · exact LocaleTour.read_eq_single (eq_ok_of_toOption (by decide +kernel))
        (NumberedDirectory.list_eq_singleton rfl (by decide +kernel) rfl)
        (NumberedDirectory.list_eq_singleton rfl (by decide +kernel) rfl)
        (eq_ok_of_toOption (by decide +kernel)) .zh
  · rintro ⟨pagesOf, -, made⟩
    have refused : (crossedTour.pages .stock).toOption = none := by
      decide +kernel
    rw [made] at refused
    cases refused

end LessonSite
