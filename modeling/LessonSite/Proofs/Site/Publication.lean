import LessonSite.Proofs.Site.Separation
import LessonSite.Proofs.Tour.Listing

/-!
# Publishing a site

For the pages of a tour that has been read, being separate is all that is needed
to write the site below any empty directory, and nothing less is enough.
-/

namespace LessonSite

open FileTree

variable {template : Template} {pages : List Page}

/-- Whatever empty directory it is made in, and in whatever order, the site
comes out as it should. -/
def Publishable (template : Template) (pages : List Page) : Prop :=
  ∀ (before : FileTree) (directory : String),
    before.node directory = .ok (.directory []) →
      ∀ schedule, IsSchedule pages schedule →
        ∃ after, makeParts template directory before schedule = .ok after ∧
          Published template directory pages before after

/-- The pages may be made one after the other in any order. -/
theorem isSchedule_flatMap {others : List Page} (all : others.Perm pages) :
    IsSchedule pages (others.flatMap Page.parts) where
  all := all.flatMap_right Page.parts
  inOrder := by
    intro page member
    obtain ⟨before, after, rfl⟩ := List.append_of_mem (all.mem_iff.mpr member)
    rw [List.flatMap_append, List.flatMap_cons]
    exact (List.sublist_append_left _ _).trans (List.sublist_append_right _ _)

/-- A publishable site is written by the pages in their own order. -/
theorem Publishable.writeSite (publishable : Publishable template pages)
    {before : FileTree}
    {directory : String} (empty : before.node directory = .ok (.directory [])) :
    ∃ after, writeSite template directory before pages = .ok after ∧
      Published template directory pages before after :=
  publishable before directory empty _
    (isSchedule_flatMap (List.Perm.refl pages))

theorem Separate.publishable (placed : PagesPlaced pages)
    (separate : Separate pages) :
    Publishable template pages := by
  intro before directory empty schedule isSchedule
  obtain ⟨top, base, left, root⟩ := exists_siteRoot empty
  have start : Made template before top [] before := holds_start root.found
  obtain ⟨after, ok, made⟩ := start.run placed separate root isSchedule rfl
  refine ⟨after, ok, made.published placed separate root ?_⟩
  rw [List.append_nil]
  exact (List.reverse_perm schedule).trans isSchedule.all

private theorem make_eq_error_of_ends_dot (template : Template) {page : Page}
    (placed : page.IsPlaced) {locale : Locale}
    {chapter : String} (isSegment : IsSegment chapter) (isName : IsName chapter)
    (names : page.names = locale.names ++ [chapter, "."]) :
    ∃ fault, page.make template "dist" emptySite .directory = .error fault := by
  have root := siteRoot_emptySite
  have plain : (joinPath "dist" page.path).toList.contains '\x00' = false := by
    simpa using root.noNul placed.noNul
  have nonempty : page.names ≠ [] := by simp [names]
  have spelled : pathNames (joinPath "dist" page.path) =
      ["dist"] ++ locale.names ++ [chapter, "."] := by
    rw [root.spelled page.path placed.relative, placed.path_eq,
      pathNames_joinNames nonempty
        fun name member => (placed.isSegment name member).noSlash, names,
      List.append_assoc]
  have aside : locale.names ++ [chapter] ∉ passed [] locale.names := by
    cases locale <;>
      simp [Locale.names, Locale.slugPrefix?, passed, stepFrom?, staysAt]
  have fails :=
    (holds_start root.found).makePath_dot root.found root.way plain
      spelled isName isSegment.short (walkFrom?_localeNames locale)
      (fun name member => (isSegment_localeNames locale name member).short)
      (by simp) aside (by simp)
  refine ⟨.unwritable (joinPath "dist" page.path) .missing, ?_⟩
  simp only [Page.make, fails, mapError_error]

theorem Publishable.separate (placed : PagesPlaced pages)
    (publishable : Publishable template pages) :
    Separate pages := by
  obtain ⟨after, -, published⟩ := publishable.writeSite node_emptySite
  have inside : ∀ page ∈ pages, page.place?.isSome := fun page member =>
    place?_isSome placed published member
  have distinct := nodup_place? placed published
  refine ⟨inside, distinct, ?_, ?_⟩
  · intro page member other isPage place onTheWay
    exact not_mem_filePlaces placed published member isPage onTheWay
  · intro page member ends
    have isPlaced := placed.isPlaced page member
    obtain ⟨locale, chapter, isSegment, names⟩ :=
      isPlaced.place.eq_of_ends_dot ends
    have isName :=
      isName_of_ends_dot placed inside distinct member isSegment names
    obtain ⟨fault, fails⟩ :=
      make_eq_error_of_ends_dot template isPlaced isSegment isName names
    obtain ⟨_, ok, -⟩ := publishable emptySite "dist" node_emptySite _
      (isSchedule_flatMap (List.perm_cons_erase member).symm)
    rw [List.flatMap_cons, makeParts, List.foldlM_append] at ok
    obtain ⟨_, first, -⟩ := bind_eq_ok_iff.mp ok
    simp only [Page.parts, PagePart.all, List.map_cons, List.foldlM_cons,
      fails] at first
    cases first

/-- Pages are separate when each name on their paths is one for a directory and
not that of a file of a page. -/
theorem PagesPlaced.separate (placed : PagesPlaced pages)
    (plain : ∀ page ∈ pages, ∀ name ∈ page.names,
      IsName name ∧ name ≠ "index.html" ∧ name ≠ "index.json") :
    Separate pages := by
  have here : ∀ page ∈ pages, page.place? = some page.names :=
    fun page member =>
      walkFrom?_of_isName
        (fun name inside => (plain page member name inside).1) []
  refine ⟨?_, ?_, ?_, ?_⟩
  · intro page member
    rw [here page member]
    rfl
  · refine List.pairwise_map.mpr (placed.nodup.imp_of_mem ?_)
    intro page other member isPage different same
    rw [here page member, here other isPage, Option.some.injEq] at same
    refine different (eq_of_map_eq_of_nodup placed.distinct member isPage ?_)
    rw [(placed.isPlaced page member).path_eq,
      (placed.isPlaced other isPage).path_eq, same]
  · intro page member other isPage place onTheWay isFile
    obtain ⟨first, rest, names, walks⟩ := exists_prefix_of_mem_passed onTheWay
    have inside : ∀ name ∈ first, name ∈ page.names := by
      intro name earlier
      rw [names]
      exact List.mem_append_left _ earlier
    rw [walkFrom?_of_isName fun name earlier =>
      (plain page member name (inside name earlier)).1] at walks
    cases walks
    obtain ⟨inner, -, same | same⟩ := mem_filePlaces_iff.mp isFile
    · exact (plain page member _ (inside "index.html" (by simp_all))).2.1 rfl
    · exact (plain page member _ (inside "index.json" (by simp_all))).2.2 rfl
  · intro page member ends
    exact (plain page member "." (List.mem_of_getLast? ends)).1.ne_dot rfl

/-- A chapter with lessons that are not counted, a text and a program for
each. -/
def Chapter.ofLessons (locale : Locale) (chapter : NumberedDirectory)
    (lessons : List (NumberedDirectory × String × String)) : Chapter where
  name := chapter.entry.displayTitle
  number := chapter.entry.number
  sourceDir := chapter.name
  lessons := lessons.map fun (lesson, markdown, code) =>
    { chapter := chapter.entry.displayTitle
      lesson := lesson.entry.displayTitle
      index := 0
      total := 0
      markdown
      code
      locale
      sourceDir := chapter.name ++ "/" ++ lesson.name }

/-- The part of a tour with these chapters; text and program are given for the
page that it opens with and for each lesson. -/
def LocaleTour.ofChapters (locale : Locale) (opening : String × String)
    (chapters : List
      (NumberedDirectory × List (NumberedDirectory × String × String))) :
    LocaleTour where
  locale
  intro := ⟨opening.1, opening.2⟩
  chapters := Chapter.countAll (chapters.map fun (chapter, lessons) =>
    Chapter.ofLessons locale chapter lessons)

/-- The part of a tour with one lesson. -/
def LocaleTour.sole (locale : Locale) (opening content : String × String)
    (chapter lesson : NumberedDirectory) : LocaleTour :=
  .ofChapters locale opening [(chapter, [(lesson, content)])]

/-- The part of a tour with one lesson and nothing in its files. -/
def LocaleTour.single (locale : Locale)
    (chapter lesson : NumberedDirectory) : LocaleTour :=
  .sole locale ("", "") ("", "") chapter lesson

theorem Chapter.read_eq_ofLessons {tree : FileTree} {extension root : String}
    {chapter : NumberedDirectory}
    {lessons : List (NumberedDirectory × String × String)}
    (listed : NumberedDirectory.list tree [] (joinPath root chapter.name) =
      .ok (lessons.map Prod.fst))
    (nonempty : lessons ≠ [])
    (holds : ∀ lesson ∈ lessons, Tour.readSources tree extension
      (joinPath (joinPath root chapter.name) lesson.1.name) = .ok lesson.2)
    (locale : Locale) :
    Chapter.read tree extension locale root chapter =
      .ok (.ofLessons locale chapter lessons) := by
  have read :
      (lessons.map Prod.fst).mapM
          (Lesson.read tree extension locale root chapter) =
        .ok (Chapter.ofLessons locale chapter lessons).lessons := by
    apply mapM_map_eq_ok
    intro lesson member
    simp only [Lesson.read, holds lesson member, bind, Except.bind, pure,
      Except.pure]
  have some_ :
      (Chapter.ofLessons locale chapter lessons).lessons.isEmpty = false := by
    simpa [Chapter.ofLessons] using nonempty
  simp only [Chapter.read, listed, read, some_, bind, Except.bind, pure,
    Except.pure, Bool.false_eq_true, if_false]
  rfl

theorem LocaleTour.read_eq_ofChapters {tree : FileTree}
    {extension root : String}
    {skipped : List String} {opening : String × String}
    {chapters : List
      (NumberedDirectory × List (NumberedDirectory × String × String))}
    (opens : Tour.readSources tree extension root = .ok opening)
    (listed : NumberedDirectory.list tree skipped root =
      .ok (chapters.map Prod.fst))
    (nonempty : chapters ≠ [])
    {locale : Locale}
    (each : ∀ chapter ∈ chapters,
      Chapter.read tree extension locale root chapter.1 =
        .ok (.ofLessons locale chapter.1 chapter.2)) :
    LocaleTour.read tree locale extension root skipped =
      .ok (.ofChapters locale opening chapters) := by
  have read :
      (chapters.map Prod.fst).mapM (Chapter.read tree extension locale root) =
        .ok
          (chapters.map fun chapter =>
            Chapter.ofLessons locale chapter.1 chapter.2) :=
    mapM_map_eq_ok each
  have some_ : (chapters.map fun chapter =>
      Chapter.ofLessons locale chapter.1 chapter.2).isEmpty = false := by
    simpa using nonempty
  simp only [LocaleTour.read, opens, listed, read, some_, bind, Except.bind,
    pure, Except.pure, Bool.false_eq_true, if_false]
  rfl

theorem LocaleTour.read_eq_sole {tree : FileTree} {extension root : String}
    {skipped : List String}
    {chapter lesson : NumberedDirectory} {opening content : String × String}
    (opens : Tour.readSources tree extension root = .ok opening)
    (chapters : NumberedDirectory.list tree skipped root = .ok [chapter])
    (lessons : NumberedDirectory.list tree [] (joinPath root chapter.name) =
      .ok [lesson])
    (holds : Tour.readSources tree extension
      (joinPath (joinPath root chapter.name) lesson.name) = .ok content)
    (locale : Locale) :
    LocaleTour.read tree locale extension root skipped =
      .ok (.sole locale opening content chapter lesson) := by
  apply LocaleTour.read_eq_ofChapters opens chapters (List.cons_ne_nil _ _)
  simp only [List.mem_singleton, forall_eq]
  apply Chapter.read_eq_ofLessons lessons (List.cons_ne_nil _ _)
  simpa using holds

theorem LocaleTour.read_eq_single {tree : FileTree} {extension root : String}
    {skipped : List String} {chapter lesson : NumberedDirectory}
    (opening : Tour.readSources tree extension root = .ok ("", ""))
    (chapters : NumberedDirectory.list tree skipped root = .ok [chapter])
    (lessons : NumberedDirectory.list tree [] (joinPath root chapter.name) =
      .ok [lesson])
    (content : Tour.readSources tree extension
      (joinPath (joinPath root chapter.name) lesson.name) = .ok ("", ""))
    (locale : Locale) :
    LocaleTour.read tree locale extension root skipped =
      .ok (.single locale chapter lesson) :=
  LocaleTour.read_eq_sole opening chapters lessons content locale

/-- A chapter with an ordinary name. -/
def plainChapter : NumberedDirectory :=
  ⟨⟨1, "b"⟩, "1_b"⟩

/-- A chapter with the name of the directory above. -/
def upwardChapter : NumberedDirectory :=
  ⟨⟨1, ".."⟩, "1_.."⟩

/-- A chapter whose name is an escape in addresses. -/
def escapedChapter : NumberedDirectory :=
  ⟨⟨1, "%41"⟩, "1_%41"⟩

/-- A tree with a tour of one lesson in each language, where all files are
empty. -/
def smallTree (chapter : String) : FileTree :=
  let sources : FileTree := [("index.mbt", .file []), ("index.md", .file [])]
  let lesson : FileNode := .directory [("1_a", .directory sources)]
  [("tour", .directory ((chapter, lesson) :: sources ++
      [("zh", .directory (("1_c", lesson) :: sources))]))]

theorem isProper_smallTree {chapter : String} (plain : '/' ∉ chapter.toList) :
    (FileNode.directory (smallTree chapter)).IsProper := by
  simp [smallTree, FileNode.isProper_directory_iff, FileNode.IsProper.file,
    plain]

def smallTour (chapter : NumberedDirectory) : Tour :=
  ⟨[.single .en chapter ⟨⟨1, "a"⟩, "1_a"⟩,
    .single .zh ⟨⟨1, "c"⟩, "1_c"⟩ ⟨⟨1, "a"⟩, "1_a"⟩]⟩

theorem Tour.read_eq_ok_of_locales {tree : FileTree} {source : String}
    {config : Config} {english chinese : LocaleTour}
    (first : LocaleTour.read tree .en config.codeExtension
      (config.en.directory source) [config.zh.directory source] = .ok english)
    (second : LocaleTour.read tree .zh config.codeExtension
      (config.zh.directory source) [config.en.directory source] = .ok chinese) :
    Tour.read tree source config = .ok ⟨[english, chinese]⟩ := by
  simp [Tour.read, Locale.all, Config.locale, first, second, bind, Except.bind,
    pure, Except.pure]

/-- A tour with the stock configuration has its Chinese part inside of the
English one. -/
theorem Tour.read_stock_eq_ok {tree : FileTree} {english chinese : LocaleTour}
    (first : LocaleTour.read tree .en Config.stock.codeExtension "tour"
      ["tour/zh"] = .ok english)
    (second : LocaleTour.read tree .zh Config.stock.codeExtension "tour/zh"
      ["tour"] = .ok chinese) :
    Tour.read tree "tour" .stock = .ok ⟨[english, chinese]⟩ := by
  have englishRoot : Config.stock.en.directory "tour" = "tour" := by
    decide +kernel
  have chineseRoot : Config.stock.zh.directory "tour" = "tour/zh" := by
    decide +kernel
  apply Tour.read_eq_ok_of_locales
  · rw [englishRoot, chineseRoot]
    exact first
  · rw [englishRoot, chineseRoot]
    exact second

/-- The names of the first chapter that are tried. -/
def smallChapters : List NumberedDirectory :=
  [plainChapter, upwardChapter, escapedChapter]

theorem read_smallTree_of_mem {chapter : NumberedDirectory}
    (member : chapter ∈ smallChapters) :
    Tour.read (smallTree chapter.name) "tour" .stock =
      .ok (smallTour chapter) := by
  simp only [smallChapters, List.mem_cons, List.not_mem_nil, or_false] at member
  apply Tour.read_stock_eq_ok
  · rcases member with rfl | rfl | rfl
    all_goals
      exact LocaleTour.read_eq_single (eq_ok_of_toOption (by decide +kernel))
        (NumberedDirectory.list_eq_singleton rfl (by decide +kernel) rfl)
        (NumberedDirectory.list_eq_singleton rfl (by decide +kernel) rfl)
        (eq_ok_of_toOption (by decide +kernel)) .en
  · rcases member with rfl | rfl | rfl
    all_goals
      exact LocaleTour.read_eq_single (eq_ok_of_toOption (by decide +kernel))
        (NumberedDirectory.list_eq_singleton rfl (by decide +kernel) rfl)
        (NumberedDirectory.list_eq_singleton rfl (by decide +kernel) rfl)
        (eq_ok_of_toOption (by decide +kernel)) .zh

theorem read_smallTree {chapter : NumberedDirectory}
    (which : chapter = plainChapter ∨ chapter = upwardChapter) :
    Tour.read (smallTree chapter.name) "tour" .stock =
      .ok (smallTour chapter) := by
  apply read_smallTree_of_mem
  rcases which with rfl | rfl <;> simp [smallChapters]

def smallPages (chapter : NumberedDirectory) : List Page :=
  ((smallTour chapter).pages .stock).toOption.getD []

theorem pages_smallTour_of_mem {chapter : NumberedDirectory}
    (member : chapter ∈ smallChapters) :
    (smallTour chapter).pages .stock = .ok (smallPages chapter) := by
  have some_ : ((smallTour chapter).pages .stock).toOption.isSome := by
    simp only [smallChapters, List.mem_cons, List.not_mem_nil,
      or_false] at member
    rcases member with rfl | rfl | rfl <;> decide +kernel
  obtain ⟨pages, made⟩ := Option.isSome_iff_exists.mp some_
  exact eq_ok_of_toOption (by rw [smallPages, made]; rfl)

theorem pages_smallTour {chapter : NumberedDirectory}
    (which : chapter = plainChapter ∨ chapter = upwardChapter) :
    (smallTour chapter).pages .stock = .ok (smallPages chapter) := by
  apply pages_smallTour_of_mem
  rcases which with rfl | rfl <;> simp [smallChapters]

/-- A tree with a tour of two English chapters and a Chinese one, where all
files are empty. -/
def wideTree (chapter lesson : String) : FileTree :=
  let sources : FileTree := [("index.mbt", .file []), ("index.md", .file [])]
  [("tour", .directory
    (("1_a", .directory [("1_b", .directory sources)]) ::
      (chapter, .directory [(lesson, .directory sources)]) :: sources ++
      [("zh",
        .directory
          (("1_c", .directory [("1_d", .directory sources)]) :: sources))]))]

def wideTour (chapter lesson : NumberedDirectory) : Tour :=
  ⟨[.ofChapters .en ("", "")
      [(⟨⟨1, "a"⟩, "1_a"⟩, [(⟨⟨1, "b"⟩, "1_b"⟩, "", "")]),
        (chapter, [(lesson, "", "")])],
    .single .zh ⟨⟨1, "c"⟩, "1_c"⟩ ⟨⟨1, "d"⟩, "1_d"⟩]⟩

/-- A second chapter and its lesson, with ordinary names. -/
def secondChapter : NumberedDirectory × NumberedDirectory :=
  (⟨⟨2, "e"⟩, "2_e"⟩, ⟨⟨1, "f"⟩, "1_f"⟩)

/-- A second chapter whose name begins with a backslash, and a lesson with one
in its name. -/
def hostChapter : NumberedDirectory × NumberedDirectory :=
  (⟨⟨2, "\\h"⟩, "2_\\h"⟩, ⟨⟨1, "a\\b"⟩, "1_a\\b"⟩)

theorem isProper_wideTree {chapter lesson : String}
    (plain : '/' ∉ chapter.toList) (plainLesson : '/' ∉ lesson.toList) :
    (FileNode.directory (wideTree chapter lesson)).IsProper := by
  simp [wideTree, FileNode.isProper_directory_iff, FileNode.IsProper.file,
    plain, plainLesson]

theorem read_wideTree {pair : NumberedDirectory × NumberedDirectory}
    (which : pair = secondChapter ∨ pair = hostChapter) :
    Tour.read (wideTree pair.1.name pair.2.name) "tour" .stock =
      .ok (wideTour pair.1 pair.2) := by
  apply Tour.read_stock_eq_ok
  · rcases which with rfl | rfl
    all_goals
      refine LocaleTour.read_eq_ofChapters
        (eq_ok_of_toOption (by decide +kernel))
        (NumberedDirectory.list_eq_of_sorted rfl (by decide +kernel) rfl
          (by decide) rfl)
        (List.cons_ne_nil _ _) ?_
      simp only [List.mem_cons, List.not_mem_nil, or_false, forall_eq_or_imp,
        forall_eq]
      constructor
      · exact Chapter.read_eq_ofLessons
          (NumberedDirectory.list_eq_singleton rfl (by decide +kernel) rfl)
          (List.cons_ne_nil _ _) (by decide +kernel) .en
      · exact Chapter.read_eq_ofLessons
          (NumberedDirectory.list_eq_singleton rfl (by decide +kernel) rfl)
          (List.cons_ne_nil _ _) (by decide +kernel) .en
  · rcases which with rfl | rfl
    all_goals
      exact LocaleTour.read_eq_single (eq_ok_of_toOption (by decide +kernel))
        (NumberedDirectory.list_eq_singleton rfl (by decide +kernel) rfl)
        (NumberedDirectory.list_eq_singleton rfl (by decide +kernel) rfl)
        (eq_ok_of_toOption (by decide +kernel)) .zh

def widePages (pair : NumberedDirectory × NumberedDirectory) : List Page :=
  ((wideTour pair.1 pair.2).pages .stock).toOption.getD []

theorem pages_wideTour {pair : NumberedDirectory × NumberedDirectory}
    (which : pair = secondChapter ∨ pair = hostChapter) :
    (wideTour pair.1 pair.2).pages .stock = .ok (widePages pair) := by
  have some_ : ((wideTour pair.1 pair.2).pages .stock).toOption.isSome := by
    rcases which with rfl | rfl <;> decide +kernel
  obtain ⟨pages, made⟩ := Option.isSome_iff_exists.mp some_
  exact eq_ok_of_toOption (by rw [widePages, made]; rfl)

/-- The site of a tour can be published just if its pages are separate. -/
theorem Tour.publishable_iff_separate {tree : FileTree}
    (proper : (FileNode.directory tree).IsProper)
    {source : String} {config : Config} {tour : Tour} {pages : List Page}
    (read : Tour.read tree source config = .ok tour)
    (paged : tour.pages config = .ok pages)
    (template : Template) : Publishable template pages ↔ Separate pages := by
  have placed := Tour.pagesPlaced proper read paged
  exact ⟨fun publishable => publishable.separate placed, fun separate =>
    separate.publishable placed⟩

theorem Tour.publishable_smallTour :
    (FileNode.directory (smallTree plainChapter.name)).IsProper ∧
      Tour.read (smallTree plainChapter.name) "tour" .stock =
        .ok (smallTour plainChapter) ∧
      (smallTour plainChapter).pages .stock = .ok (smallPages plainChapter) ∧
      Publishable ⟨[], []⟩ (smallPages plainChapter) := by
  have proper : (FileNode.directory (smallTree plainChapter.name)).IsProper :=
    isProper_smallTree (by decide)
  have read :
      Tour.read (smallTree plainChapter.name) "tour" .stock =
        .ok (smallTour plainChapter) :=
    read_smallTree (.inl rfl)
  have paged :
      (smallTour plainChapter).pages .stock = .ok (smallPages plainChapter) :=
    pages_smallTour (.inl rfl)
  exact ⟨proper, read, paged,
    (Tour.publishable_iff_separate proper read paged _).mpr (by decide +kernel)⟩

/-- A chapter can be called `..`, and its lessons are written outside the
directory of the site. -/
theorem Tour.not_published_smallTour_upward :
    (FileNode.directory (smallTree upwardChapter.name)).IsProper ∧
      Tour.read (smallTree upwardChapter.name) "tour" .stock =
        .ok (smallTour upwardChapter) ∧
      (smallTour upwardChapter).pages .stock = .ok (smallPages upwardChapter) ∧
      emptySite.node "dist" = .ok (.directory []) ∧
      ¬∃ after,
        LessonSite.writeSite ⟨[], []⟩ "dist" emptySite
            (smallPages upwardChapter) = .ok after ∧
          Published ⟨[], []⟩ "dist" (smallPages upwardChapter)
            emptySite after := by
  have proper : (FileNode.directory (smallTree upwardChapter.name)).IsProper :=
    isProper_smallTree (by decide)
  have read :
      Tour.read (smallTree upwardChapter.name) "tour" .stock =
        .ok (smallTour upwardChapter) :=
    read_smallTree (.inr rfl)
  have paged : (smallTour upwardChapter).pages .stock =
      .ok (smallPages upwardChapter) := pages_smallTour (.inr rfl)
  refine ⟨proper, read, paged, node_emptySite, ?_⟩
  rintro ⟨after, -, published⟩
  have outside : ∃ page ∈ smallPages upwardChapter, page.place? = none := by
    decide +kernel
  obtain ⟨page, member, leaves⟩ := outside
  have inside :=
    place?_isSome (Tour.pagesPlaced proper read paged) published member
  rw [leaves] at inside
  cases inside

end LessonSite
