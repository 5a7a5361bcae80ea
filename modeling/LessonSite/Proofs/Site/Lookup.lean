import LessonSite.CommandLine.Basic
import LessonSite.Proofs.Lists
import LessonSite.Proofs.Site.Chain

/-!
# Lessons are found by their paths

A lesson is looked up by a path, and slashes around the path do not count.  The
paths of all pages are told by the tour alone; the site has pages just when they
are different, and then a path leads to one lesson, whose program is the one
that its page shows.
-/

namespace LessonSite

/-- The paths of the pages of a locale. -/
def LocaleTour.paths (part : LocaleTour) (config : Config) : List String :=
  part.locale.prefixed "" :: part.lessons.map Lesson.slug ++
    if config.tocPage then [part.locale.prefixed contentsPageName] else []

/-- The paths of the pages of all locales. -/
def Tour.paths (tour : Tour) (config : Config) : List String :=
  tour.locales.flatMap fun part => part.paths config

theorem LocaleTour.Arranged.map_path {part : LocaleTour} {config : Config}
    {opening : Page}
    {inner outer : List Page}
    (arranged : part.Arranged config opening inner outer) :
    (opening :: inner ++ outer).map Page.path = part.paths config := by
  have home : opening.path = part.locale.prefixed "" :=
    congrArg Prod.fst arranged.home
  have lessons := congrArg (List.map Prod.fst) arranged.lessons
  have contents := congrArg (List.map Prod.fst) arranged.contents
  rw [List.map_map, List.map_map] at lessons
  rw [List.map_map] at contents
  have outside : outer.map Page.path =
      if config.tocPage then [part.locale.prefixed contentsPageName] else [] :=
    contents.trans (by cases config.tocPage <;> rfl)
  have inside : inner.map Page.path = part.lessons.map Lesson.slug := lessons
  rw [List.map_append, List.map_cons, home, inside, outside, LocaleTour.paths]

theorem Tour.ArrangedAs.map_path {tour : Tour} {config : Config}
    {pagesOf : LocaleTour → List Page}
    (arranged : tour.ArrangedAs config pagesOf) :
    (tour.locales.flatMap pagesOf).map Page.path = tour.paths config := by
  rw [List.map_flatMap, Tour.paths, List.flatMap_def, List.flatMap_def]
  refine congrArg List.flatten (List.map_congr_left fun part member => ?_)
  obtain ⟨opening, inner, outer, same, fits⟩ := arranged part member
  rw [same, fits.map_path]

/-- Pages share no path just when their paths are different. -/
theorem sharedPath?_eq_none_iff {pages : List Page} :
    sharedPath? [] pages = none ↔ (pages.map Page.path).Nodup := by
  constructor
  · intro none_
    exact nodup_paths_of_sharedPath? none_ List.nodup_nil
  · intro distinct
    rw [Option.eq_none_iff_forall_ne_some]
    rintro ⟨first, second⟩ shared
    have repeats : FirstRepeat ([] ++ pages) first second :=
      firstRepeat_of_sharedPath? List.nodup_nil shared
    obtain ⟨before, after, same, -, member, twice⟩ := repeats
    rw [← List.nil_append pages, same, List.map_append, List.map_cons,
      List.nodup_append] at distinct
    exact distinct.2.2 _ (List.mem_map_of_mem member) _ List.mem_cons_self twice

/-- The site of a tour whose lessons are counted has pages just when all paths
are different, and then they are the arranged pages of each locale. -/
theorem Tour.exists_pages_iff {tour : Tour}
    (counted : ∀ part ∈ tour.locales, part.IsCounted) (config : Config) :
    ((∃ pages, tour.pages config = .ok pages) ↔ (tour.paths config).Nodup) ∧
      ∀ pages, tour.pages config = .ok pages →
        ∃ pagesOf,
          tour.ArrangedAs config pagesOf ∧
            pages = tour.locales.flatMap pagesOf := by
  obtain ⟨pagesOf, arranged, made⟩ := tour.exists_arrangedAs counted config
  refine ⟨?_, fun pages ok =>
    ⟨pagesOf, arranged, ((Tour.pages_eq_ok_iff made).mp ok).1⟩⟩
  rw [← arranged.map_path, ← sharedPath?_eq_none_iff]
  simp only [Tour.pages_eq_ok_iff made, exists_eq_left]

/-- A path with slashes before and after it. -/
def surround (before after : Nat) (path : String) : String :=
  String.ofList
    (List.replicate before '/' ++ path.toList ++ List.replicate after '/')

private theorem dropWhile_slashes (count : Nat) {text : List Char}
    (begins : ∀ character ∈ text.head?, character ≠ '/') :
    (List.replicate count '/' ++ text).dropWhile (· = '/') = text := by
  rw [List.dropWhile_append_of_pos (by simp +contextual [List.mem_replicate])]
  cases text with
  | nil => rfl
  | cons first rest =>
      exact List.dropWhile_cons_of_neg (by simpa using begins first rfl)

/-- Slashes around a path that has none at its ends do not count. -/
theorem Tour.bareSlug_surround {path : String} (before after : Nat)
    (begins : ∀ character ∈ path.toList.head?, character ≠ '/')
    (ends : ∀ character ∈ path.toList.getLast?, character ≠ '/') :
    Tour.bareSlug (surround before after path) = path := by
  have trimmed : Text.trimChars (· = '/')
      (List.replicate before '/' ++ path.toList ++ List.replicate after '/') =
    path.toList := by
    have left :
        (List.replicate before '/' ++
            (path.toList ++ List.replicate after '/')).dropWhile
          (· = '/') =
          path.toList ++
            (if path.toList = [] then [] else List.replicate after '/') := by
      by_cases empty : path.toList = []
      · have all :
            List.replicate before '/' ++
                (path.toList ++ List.replicate after '/') =
              List.replicate (before + after) '/' ++ [] := by
          rw [empty, List.nil_append, List.append_nil,
            List.replicate_append_replicate]
        rw [all, dropWhile_slashes _ (by simp), if_pos empty, empty,
          List.nil_append]
      · rw [if_neg empty]
        apply dropWhile_slashes
        rwa [List.head?_append_of_ne_nil _ empty]
    have right :
        (path.toList ++
            (if path.toList = [] then
              []
            else List.replicate after '/')).reverse =
          List.replicate (if path.toList = [] then 0 else after) '/' ++
            path.toList.reverse := by
      rw [List.reverse_append]
      split <;> simp
    rw [Text.trimChars, List.append_assoc, left, right,
      dropWhile_slashes _ (by rwa [List.head?_reverse]), List.reverse_reverse]
  rw [Tour.bareSlug, Text.trimMatches, surround, String.toList_ofList, trimmed,
    String.ofList_toList]

theorem begins_joinNames {names : List String}
    (isSegment : ∀ name ∈ names, IsSegment name) :
    ∀ character ∈ (joinNames names).toList.head?, character ≠ '/' := by
  rintro character begins rfl
  have starts : Text.startsWith "/" (joinNames names) = true := by
    rw [Text.startsWith_iff]
    cases text : (joinNames names).toList with
    | nil => simp [text] at begins
    | cons first rest =>
        rw [text] at begins
        cases begins
        exact ⟨rest, rfl⟩
  rw [joinNames_relative isSegment] at starts
  cases starts

theorem ends_joinNames {names : List String}
    (isSegment : ∀ name ∈ names, IsSegment name) :
    ∀ character ∈ (joinNames names).toList.getLast?, character ≠ '/' := by
  induction names with
  | nil => simp [joinNames]
  | cons name names induction =>
      cases names with
      | nil =>
          rintro character last rfl
          exact (isSegment name List.mem_cons_self).noSlash
            (List.mem_of_getLast? last)
      | cons next names =>
          have later : ∀ other ∈ next :: names, IsSegment other :=
            fun other member => isSegment other (List.mem_cons_of_mem _ member)
          have some_ : (joinNames (next :: names)).toList ≠ [] := by
            simpa using joinNames_ne_empty (List.cons_ne_nil next names) later
          rw [joinNames, String.toList_append,
            List.getLast?_append_of_ne_nil _ some_]
          exact induction later

/-- An element is found by a key that no other one has. -/
theorem find?_eq_some_of_nodup {α β : Type} [DecidableEq β] {key : α → β}
    {elements : List α}
    (distinct : (elements.map key).Nodup) {element : α}
    (member : element ∈ elements) :
    elements.find? (fun other => key other = key element) = some element := by
  cases found : elements.find? (fun other => key other = key element) with
  | none =>
      exact absurd (decide_eq_true rfl)
        (List.find?_eq_none.mp found element member)
  | some other =>
      have same : key other = key element := by
        simpa using List.find?_some found
      rw [eq_of_map_eq_of_nodup distinct (List.mem_of_find?_eq_some found)
        member same]

/-- The path of a lesson is not that of the page that a locale opens with. -/
theorem Lesson.slug_ne_home (lesson : Lesson) (other : Locale) :
    lesson.slug ≠ other.prefixed "" := by
  intro same
  have slash : '/' ∈ lesson.slug.toList := by
    rw [Lesson.slug, lessonSlug]
    cases lesson.locale <;> simp [Locale.prefixed, Locale.slugPrefix?]
  rw [same] at slash
  revert slash
  cases other <;> decide

namespace Lesson.IsNamed

variable {lesson : Lesson} {locale : Locale}

theorem isSegment (named : lesson.IsNamed locale) :
    ∀ name ∈ locale.names ++
        [slugSegment lesson.chapter, slugSegment lesson.lesson],
      IsSegment name :=
  (IsPagePlace.lesson locale named.chapter named.lesson).isSegment

theorem slug_eq (named : lesson.IsNamed locale) :
    lesson.slug =
      joinNames
        (locale.names ++
          [slugSegment lesson.chapter, slugSegment lesson.lesson]) := by
  have names :
      ∀ name ∈ [slugSegment lesson.chapter, slugSegment lesson.lesson],
        IsSegment name :=
    fun name member => named.isSegment name (List.mem_append_right _ member)
  rw [← prefixed_joinNames locale _ names, Lesson.slug, lessonSlug,
    named.locale_eq]
  rfl

theorem bareSlug_surround (named : lesson.IsNamed locale) (before after : Nat) :
    Tour.bareSlug (surround before after lesson.slug) = lesson.slug := by
  rw [named.slug_eq]
  exact Tour.bareSlug_surround before after (begins_joinNames named.isSegment)
    (ends_joinNames named.isSegment)

end Lesson.IsNamed

namespace Tour

variable {tour : Tour} {config : Config}

theorem nodup_slugs (distinct : (tour.paths config).Nodup) :
    (tour.lessons.map Lesson.slug).Nodup := by
  refine distinct.sublist ?_
  rw [Tour.lessons, List.map_flatMap, Tour.paths]
  generalize tour.locales = parts
  induction parts with
  | nil => exact List.Sublist.refl []
  | cons part parts induction =>
      rw [List.flatMap_cons, List.flatMap_cons]
      refine List.Sublist.append ?_ induction
      exact ((List.sublist_cons_self _ _).trans (List.sublist_append_left _ _))

/-- A lesson is found by its path, with slashes around it or not. -/
theorem findLesson?_surround (distinct : (tour.paths config).Nodup)
    (named : ∀ part ∈ tour.locales,
      ∀ lesson ∈ part.lessons, lesson.IsNamed part.locale)
    {lesson : Lesson} (member : lesson ∈ tour.lessons) (before after : Nat) :
    tour.findLesson? (surround before after lesson.slug) = some lesson := by
  obtain ⟨part, isPart, isLesson⟩ := List.mem_flatMap.mp member
  rw [Tour.findLesson?, (named part isPart lesson isLesson).bareSlug_surround]
  exact find?_eq_some_of_nodup (nodup_slugs distinct) member

theorem bareSlug_home (locale : Locale) (before after : Nat) :
    Tour.bareSlug (surround before after (locale.prefixed "")) =
      locale.prefixed "" := by
  apply Tour.bareSlug_surround <;> cases locale <;> decide

theorem lessonCode?_home {part : LocaleTour}
    (locales : tour.locales.map LocaleTour.locale = Locale.all)
    (member : part ∈ tour.locales) :
    CommandLine.lessonCode? tour (part.locale.prefixed "") =
      some part.intro.code := by
  have home :
      Locale.all.find?
          (fun locale => part.locale.prefixed "" = locale.prefixed "") =
        some part.locale := by
    cases part.locale <;> decide
  have different : (tour.locales.map LocaleTour.locale).Nodup := by
    rw [locales]
    decide
  have here : tour.locale? part.locale = some part :=
    find?_eq_some_of_nodup different member
  rw [CommandLine.lessonCode?, home]
  simp only [here, Option.map_some]

theorem lessonCode?_lesson (distinct : (tour.paths config).Nodup)
    (named : ∀ part ∈ tour.locales,
      ∀ lesson ∈ part.lessons, lesson.IsNamed part.locale)
    {part : LocaleTour} (isPart : part ∈ tour.locales) {lesson : Lesson}
    (isLesson : lesson ∈ part.lessons) :
    CommandLine.lessonCode? tour lesson.slug = some lesson.code := by
  have inner :
      Locale.all.find? (fun locale => lesson.slug = locale.prefixed "") =
        none := by
    refine List.find?_eq_none.mpr fun locale _ => ?_
    simpa using lesson.slug_ne_home locale
  have found :=
    findLesson?_surround distinct named
      (List.mem_flatMap.mpr ⟨part, isPart, isLesson⟩) 0 0
  have bare : surround 0 0 lesson.slug = lesson.slug := by simp [surround]
  rw [bare] at found
  rw [CommandLine.lessonCode?, inner]
  simp only [found, Option.map_some]

end Tour

/-- The command line runs the program of a page when it is given the path of the
page, with slashes around it or not. -/
structure Page.IsRunBy (page : Page) (tour : Tour) : Prop where
  code : CommandLine.lessonCode? tour page.path = some page.code
  runs :
    ∀ (tree : FileTree) (source : String) (config : Config) (printed : List
        String) (debug : Bool)
      (before after : Nat),
      Config.load tree source = .ok config →
      Tour.read tree source config = .ok tour →
        (CommandLine.run source (surround before after page.path) debug).run.run
            ⟨tree, printed⟩ =
          (CommandLine.runProgram config page.code debug).run.run
            ⟨tree, printed⟩

private theorem run_bind_eq {α β : Type} {first : CommandLine.Work α}
    {next : α → CommandLine.Work β}
    {console : CommandLine.Console} {value : α}
    (done : first.run.run console = (.ok value, console)) :
    (first >>= next).run.run console = (next value).run.run console := by
  have steps : (first >>= next).run.run console =
      (match first.run.run console with
      | (.ok value, console) => (next value).run.run console
      | (.error failure, console) => (.error failure, console)) := by
    change (first.run >>= ExceptT.bindCont next).run console = _
    rw [StateT.run_bind]
    cases first.run.run console with
    | mk result console => cases result <;> rfl
  rw [steps, done]

private theorem run_attempt_files {α Fault : Type}
    {failure : Fault → CommandLine.Failure}
    {reads : FileTree → Except Fault α}
    {console : CommandLine.Console} {value : α}
    (done : reads console.tree = .ok value) :
    (do CommandLine.attempt failure (reads (← CommandLine.files)) :
        CommandLine.Work α).run.run console =
      (.ok value, console) := by
  change (CommandLine.attempt failure (reads console.tree)).run.run console = _
  rw [done]
  rfl

theorem Page.isRunBy_of_code {page : Page} {tour : Tour}
    (bare : ∀ before after,
      Tour.bareSlug (surround before after page.path) = page.path)
    (code : CommandLine.lessonCode? tour page.path = some page.code) :
    page.IsRunBy tour where
  code := code
  runs := by
    intro tree source config printed debug before after loaded read
    have first :
        (CommandLine.loadConfig source).run.run ⟨tree, printed⟩ =
          (.ok config, ⟨tree, printed⟩) :=
      run_attempt_files loaded
    have second : (CommandLine.readTour source config).run.run ⟨tree, printed⟩ =
        (.ok tour, ⟨tree, printed⟩) :=
      run_attempt_files read
    rw [CommandLine.run, run_bind_eq first, run_bind_eq second]
    simp only [bare, code]

/-- The pages that a locale opens with and those of its lessons are run when
they are given. -/
theorem Tour.isRunBy_of_arranged {tour : Tour} {config : Config}
    (locales : tour.locales.map LocaleTour.locale = Locale.all)
    (distinct : (tour.paths config).Nodup)
    (named : ∀ part ∈ tour.locales,
      ∀ lesson ∈ part.lessons, lesson.IsNamed part.locale)
    {part : LocaleTour} (member : part ∈ tour.locales) {opening : Page}
    {inner outer : List Page}
    (arranged : part.Arranged config opening inner outer) :
    ∀ page ∈ opening :: inner, page.IsRunBy tour := by
  refine List.forall_mem_cons.mpr ⟨?_, ?_⟩
  · have path : opening.path = part.locale.prefixed "" :=
      congrArg Prod.fst arranged.home
    have code : opening.code = part.intro.code :=
      congrArg (·.2.2.2) arranged.home
    refine Page.isRunBy_of_code ?_ ?_
    · rw [path]
      exact Tour.bareSlug_home part.locale
    · rw [path, code]
      exact Tour.lessonCode?_home locales member
  · intro page isLessonPage
    have shown : page.shown ∈ inner.map Page.shown :=
      List.mem_map_of_mem isLessonPage
    rw [arranged.lessons] at shown
    obtain ⟨lesson, isLesson, same⟩ := List.mem_map.mp shown
    have path : page.path = lesson.slug := (congrArg Prod.fst same).symm
    have code : page.code = lesson.code := (congrArg (·.2.2.2) same).symm
    refine Page.isRunBy_of_code ?_ ?_
    · rw [path]
      exact (named part member lesson isLesson).bareSlug_surround
    · rw [path, code]
      exact Tour.lessonCode?_lesson distinct named member isLesson

/-- Every lesson of a tour is found by its path, and every page of the site that
shows a program is run by its path. -/
structure Tour.FindsPages (tour : Tour) (config : Config)
    (pages : List Page) : Prop where
  paths : pages.map Page.path = tour.paths config
  lessons : ∀ lesson ∈ tour.lessons, ∀ before after,
    tour.findLesson? (surround before after lesson.slug) = some lesson
  runs :
    ∃ pagesOf, pages = tour.locales.flatMap pagesOf ∧ ∀ part ∈ tour.locales,
      ∃ opening inner outer, pagesOf part = opening :: inner ++ outer ∧
        part.Arranged config opening inner outer ∧
        ∀ page ∈ opening :: inner, page.IsRunBy tour

/-- The pages of each locale of a tour that has been read have the paths that
the tour tells.  There is a site just when these are all different, and then
lessons and programs are found by them. -/
theorem Tour.exists_pages_iff_nodup {tree : FileTree}
    (proper : (FileNode.directory tree).IsProper)
    {source : String} {scanned : Config} {tour : Tour}
    (read : Tour.read tree source scanned = .ok tour) (config : Config) :
    (∀ part ∈ tour.locales, ∃ pages, part.pages config = .ok pages ∧
        pages.map Page.path = part.paths config) ∧
      ((∃ pages, tour.pages config = .ok pages) ↔ (tour.paths config).Nodup) ∧
      ∀ pages,
        tour.pages config = .ok pages → tour.FindsPages config pages := by
  obtain ⟨locales, counted⟩ := Tour.isCounted_of_read read
  obtain ⟨-, -, -, -, -, named⟩ := Tour.read_eq_ok proper read
  obtain ⟨exists_iff, arranged⟩ := Tour.exists_pages_iff counted config
  refine ⟨?_, exists_iff, ?_⟩
  · intro part member
    obtain ⟨opening, inner, outer, made, fits⟩ :=
      (counted part member).arranged config
    exact ⟨_, made, fits.map_path⟩
  · intro pages ok
    obtain ⟨pagesOf, arrangedAs, same⟩ := arranged pages ok
    have distinct := exists_iff.mp ⟨pages, ok⟩
    refine ⟨by rw [same, arrangedAs.map_path], ?_, pagesOf, same, ?_⟩
    · intro lesson member before after
      exact Tour.findLesson?_surround distinct named member before after
    · intro part member
      obtain ⟨opening, inner, outer, split, fits⟩ := arrangedAs part member
      exact ⟨opening, inner, outer, split, fits,
        Tour.isRunBy_of_arranged locales distinct named member fits⟩

/-- An English chapter with the name of the directory of the Chinese pages. -/
def namesakeChapter : NumberedDirectory :=
  ⟨⟨1, "zh"⟩, "1_zh"⟩

/-- A tree with a tour where an English lesson stands among the Chinese ones;
all programs are different. -/
def namesakeTree : FileTree :=
  let sources (code : String) : FileTree :=
    [("index.mbt", .file (Utf8.encode code)), ("index.md", .file [])]
  [("tour", .directory
    ((namesakeChapter.name, .directory [("1_a", .directory (sources "2"))]) ::
        sources "1" ++
      [("zh",
        .directory
          (("1_c", .directory [("1_a", .directory (sources "4"))]) ::
            sources "3"))]))]

def namesakeTour : Tour :=
  ⟨[.sole .en ("", "1") ("", "2") namesakeChapter ⟨⟨1, "a"⟩, "1_a"⟩,
    .sole .zh ("", "3") ("", "4") ⟨⟨1, "c"⟩, "1_c"⟩ ⟨⟨1, "a"⟩, "1_a"⟩]⟩

theorem Tour.exists_pages_iff_nodup_namesake :
    (FileNode.directory namesakeTree).IsProper ∧
      Tour.read namesakeTree "tour" .stock = .ok namesakeTour ∧
      ∃ pages,
        namesakeTour.pages .stock = .ok pages ∧
          namesakeTour.FindsPages .stock pages := by
  have sources : ∀ code : List UInt8,
      (FileNode.directory
        [("index.mbt", .file code), ("index.md", .file [])]).IsProper :=
    fun code => .directory (by simp) (by simp [FileNode.IsProper.file])
  have lesson : ∀ code : List UInt8, (FileNode.directory
      [("1_a",
        .directory
          [("index.mbt", .file code), ("index.md", .file [])])]).IsProper :=
    fun code => .directory (by simp) (by simpa using sources code)
  have chinese : (FileNode.directory (("1_c", .directory [("1_a", .directory
      [("index.mbt", .file (Utf8.encode "4")), ("index.md", .file [])])]) ::
        [("index.mbt", .file (Utf8.encode "3")),
          ("index.md", .file [])])).IsProper := by
    refine .directory (by simp) ?_
    simpa [FileNode.IsProper.file] using lesson _
  have english : (FileNode.directory namesakeTree).IsProper := by
    refine .directory (by simp [namesakeTree]) ?_
    simp only [namesakeTree, List.mem_singleton, forall_eq]
    refine .directory (by simp [namesakeChapter]) ?_
    simp only [List.cons_append, List.nil_append, List.mem_cons,
      List.not_mem_nil, or_false, forall_eq_or_imp, forall_eq]
    exact ⟨lesson _, .file _, .file _, chinese⟩
  have read : Tour.read namesakeTree "tour" .stock = .ok namesakeTour := by
    apply Tour.read_stock_eq_ok
    · exact LocaleTour.read_eq_sole (eq_ok_of_toOption (by decide +kernel))
        (NumberedDirectory.list_eq_singleton rfl (by decide +kernel) rfl)
        (NumberedDirectory.list_eq_singleton rfl (by decide +kernel) rfl)
        (eq_ok_of_toOption (by decide +kernel)) .en
    · exact LocaleTour.read_eq_sole (eq_ok_of_toOption (by decide +kernel))
        (NumberedDirectory.list_eq_singleton rfl (by decide +kernel) rfl)
        (NumberedDirectory.list_eq_singleton rfl (by decide +kernel) rfl)
        (eq_ok_of_toOption (by decide +kernel)) .zh
  obtain ⟨-, exists_iff, finds⟩ :=
    Tour.exists_pages_iff_nodup english read .stock
  obtain ⟨pages, made⟩ := exists_iff.mpr (by decide +kernel)
  exact ⟨english, read, pages, made, finds pages made⟩

end LessonSite
