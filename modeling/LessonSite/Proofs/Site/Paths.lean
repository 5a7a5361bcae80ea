import LessonSite.Proofs.Tour.Names
import LessonSite.Site.Pages

/-!
# Paths of pages

The pages of a tour that has been read stand at the top of their locale, in the
directory of its table of contents, or in the directory of a lesson in that of
its chapter.  No two of them have the same path.
-/

namespace LessonSite

/-- The path with the given names. -/
def joinNames : List String → String
  | [] => ""
  | [name] => name
  | name :: next :: names => name ++ "/" ++ joinNames (next :: names)

/-- The names in the path of a page; there are none for the page at the top of
the site. -/
def Page.names (page : Page) : List String :=
  if page.path = "" then [] else FileTree.pathNames page.path

/-- The names of the directory of a locale. -/
def Locale.names (locale : Locale) : List String :=
  locale.slugPrefix?.toList

/-- The names that lead to a page of some tour. -/
inductive IsPagePlace : List String → Prop where
  | home (locale : Locale) : IsPagePlace locale.names
  | contents (locale : Locale) :
      IsPagePlace (locale.names ++ [contentsPageName])
  | lesson (locale : Locale) {chapter lesson : String}
      (isChapter : IsSegment chapter)
      (isLesson : IsSegment lesson) :
      IsPagePlace (locale.names ++ [chapter, lesson])

theorem isSegment_contentsPageName : IsSegment contentsPageName :=
  ⟨by decide, by decide, by decide, by unfold FileTree.fits; decide⟩

theorem isSegment_localeNames (locale : Locale) :
    ∀ name ∈ locale.names, IsSegment name := by
  cases locale with
  | en => simp [Locale.names, Locale.slugPrefix?]
  | zh =>
      simp only [Locale.names, Locale.slugPrefix?, Option.toList_some,
        List.mem_singleton, forall_eq]
      exact ⟨by decide, by decide, by decide, by unfold FileTree.fits; decide⟩

theorem IsPagePlace.isSegment {names : List String}
    (place : IsPagePlace names) :
    ∀ name ∈ names, IsSegment name := by
  intro name member
  cases place with
  | home locale => exact isSegment_localeNames locale name member
  | contents locale =>
      rcases List.mem_append.mp member with first | last
      · exact isSegment_localeNames locale name first
      · cases List.mem_singleton.mp last
        exact isSegment_contentsPageName
  | lesson locale isChapter isLesson =>
      rcases List.mem_append.mp member with first | last
      · exact isSegment_localeNames locale name first
      · simp only [List.mem_cons, List.not_mem_nil, or_false] at last
        rcases last with rfl | rfl
        · exact isChapter
        · exact isLesson

theorem pathNames_joinNames {names : List String} (some_ : names ≠ [])
    (plain : ∀ name ∈ names, '/' ∉ name.toList) :
    FileTree.pathNames (joinNames names) = names := by
  induction names with
  | nil => exact absurd rfl some_
  | cons name names induction =>
      have first :=
        FileTree.pathNames_of_not_mem (plain name List.mem_cons_self)
      cases names with
      | nil => exact first
      | cons next names =>
          rw [joinNames, FileTree.pathNames_append, first,
            induction (by simp)
              (fun other member => plain other (List.mem_cons_of_mem _ member))]
          rfl

theorem joinNames_ne_empty {names : List String} (some_ : names ≠ [])
    (isSegment : ∀ name ∈ names, IsSegment name) : joinNames names ≠ "" := by
  cases names with
  | nil => exact absurd rfl some_
  | cons name names =>
      have nonempty := (isSegment name List.mem_cons_self).ne_empty
      cases names with
      | nil => exact nonempty
      | cons next names =>
          intro empty
          have characters := congrArg String.toList empty
          simp [joinNames, String.toList_append] at characters

theorem joinNames_relative {names : List String}
    (isSegment : ∀ name ∈ names, IsSegment name) :
    Text.startsWith "/" (joinNames names) = false := by
  cases names with
  | nil => rfl
  | cons name names =>
      have segment := isSegment name List.mem_cons_self
      have begins :
          ∃ rest, (joinNames (name :: names)).toList = name.toList ++ rest := by
        cases names with
        | nil => exact ⟨[], (List.append_nil _).symm⟩
        | cons next names =>
            exact ⟨_, by
              rw [joinNames, String.toList_append, String.toList_append,
                List.append_assoc]⟩
      obtain ⟨rest, text⟩ := begins
      obtain ⟨first, others, characters⟩ :=
        List.exists_cons_of_ne_nil
          (show name.toList ≠ [] by simpa using segment.ne_empty)
      rw [← Bool.not_eq_true, Text.startsWith_iff]
      rintro ⟨tail, starts⟩
      rw [text, characters] at starts
      refine segment.noSlash ?_
      rw [characters, (List.cons.inj starts).1]
      exact List.mem_cons_self

/-- The characters of a joined path are those of its names, and slashes. -/
theorem mem_joinNames {names : List String} {character : Char}
    (member : character ∈ (joinNames names).toList) :
    character = '/' ∨ ∃ name ∈ names, character ∈ name.toList := by
  induction names with
  | nil => simp [joinNames] at member
  | cons name names induction =>
      cases names with
      | nil => exact .inr ⟨name, List.mem_cons_self, member⟩
      | cons next names =>
          simp only [joinNames, String.toList_append, List.mem_append] at member
          rcases member with (first | slash) | later
          · exact .inr ⟨name, List.mem_cons_self, first⟩
          · exact .inl (by simpa using slash)
          · rcases induction later with slash | ⟨other, inside, found⟩
            · exact .inl slash
            · exact .inr ⟨other, List.mem_cons_of_mem _ inside, found⟩

theorem joinNames_noNul {names : List String}
    (isSegment : ∀ name ∈ names, IsSegment name) :
    '\x00' ∉ (joinNames names).toList := by
  intro nul
  rcases mem_joinNames nul with slash | ⟨name, member, inside⟩
  · cases slash
  · exact (isSegment name member).noNul inside

theorem fileIn_joinNames {names : List String}
    (isSegment : ∀ name ∈ names, IsSegment name)
    (file : String) :
    fileIn (joinNames names) file = joinNames (names ++ [file]) := by
  by_cases top : names = []
  · subst top
    rfl
  · rw [fileIn, if_neg (joinNames_ne_empty top isSegment)]
    clear isSegment
    induction names with
    | nil => exact absurd rfl top
    | cons name names induction =>
        cases names with
        | nil => rfl
        | cons next names =>
            rw [joinNames, List.cons_append, List.cons_append, joinNames,
              ← List.cons_append, ← induction (by simp)]
            simp only [String.append_assoc]

theorem prefixed_joinNames (locale : Locale) (names : List String)
    (isSegment : ∀ name ∈ names, IsSegment name) :
    locale.prefixed (joinNames names) = joinNames (locale.names ++ names) := by
  cases locale with
  | en => rfl
  | zh =>
      cases names with
      | nil => rfl
      | cons name names =>
          have some_ :=
            joinNames_ne_empty (List.cons_ne_nil name names) isSegment
          simp only [Locale.prefixed, Locale.slugPrefix?, some_, if_false]
          rfl

/-- A path that is joined from segments gives them back. -/
theorem Page.names_eq {page : Page} {names : List String}
    (spelled : page.path = joinNames names)
    (isSegment : ∀ name ∈ names, IsSegment name) : page.names = names := by
  by_cases top : names = []
  · subst top
    simp [Page.names, spelled, joinNames]
  · rw [Page.names,
      if_neg (by rw [spelled]; exact joinNames_ne_empty top isSegment), spelled]
    exact pathNames_joinNames top fun name member =>
      (isSegment name member).noSlash

/-- The page has a place on a site, and its path leads there. -/
structure Page.IsPlaced (page : Page) : Prop where
  place : IsPagePlace page.names
  path_eq : page.path = joinNames page.names

theorem Page.isPlaced_of_path {page : Page} {names : List String}
    (place : IsPagePlace names)
    (spelled : page.path = joinNames names) : page.IsPlaced := by
  have same := Page.names_eq spelled place.isSegment
  exact ⟨same ▸ place, by rw [same, spelled]⟩

namespace Page.IsPlaced

variable {page : Page}

theorem isSegment (placed : page.IsPlaced) :
    ∀ name ∈ page.names, IsSegment name :=
  placed.place.isSegment

theorem short (placed : page.IsPlaced) :
    ∀ name ∈ page.names, FileTree.fits name :=
  fun name member => (placed.isSegment name member).short

theorem htmlPath_eq (placed : page.IsPlaced) :
    page.htmlPath = joinNames (page.names ++ ["index.html"]) := by
  rw [Page.htmlPath, placed.path_eq, fileIn_joinNames placed.isSegment]

theorem jsonPath_eq (placed : page.IsPlaced) :
    page.jsonPath = joinNames (page.names ++ ["index.json"]) := by
  rw [Page.jsonPath, placed.path_eq, fileIn_joinNames placed.isSegment]

theorem relative (placed : page.IsPlaced) :
    Text.startsWith "/" page.path = false := by
  rw [placed.path_eq]
  exact joinNames_relative placed.isSegment

theorem noNul (placed : page.IsPlaced) : '\x00' ∉ page.path.toList := by
  rw [placed.path_eq]
  exact joinNames_noNul placed.isSegment

/-- A file beside a page has a path with one name more. -/
theorem isSegment_file (placed : page.IsPlaced) {file : String}
    (isFile : IsSegment file) :
    ∀ name ∈ page.names ++ [file], IsSegment name := by
  intro name member
  rcases List.mem_append.mp member with inside | last
  · exact placed.isSegment name inside
  · cases List.mem_singleton.mp last
    exact isFile

end Page.IsPlaced

theorem isSegment_indexHtml : IsSegment "index.html" :=
  ⟨by decide, by decide, by decide, by unfold FileTree.fits; decide⟩

theorem isSegment_indexJson : IsSegment "index.json" :=
  ⟨by decide, by decide, by decide, by unfold FileTree.fits; decide⟩

theorem isName_indexHtml : FileTree.IsName "index.html" := by decide

theorem isName_indexJson : FileTree.IsName "index.json" := by decide

theorem Page.IsPlaced.names_of_empty {page : Page} (empty : page.path = "") :
    page.names = [] :=
  if_pos empty

namespace PageFrame

variable (frame : PageFrame)

theorem isPlaced_homePage (intro_ : Intro) (first : Lesson) :
    (frame.homePage intro_ first).IsPlaced := by
  refine Page.isPlaced_of_path (.home frame.locale) ?_
  have spelled := prefixed_joinNames frame.locale [] (by simp)
  rwa [List.append_nil] at spelled

theorem isPlaced_contentsPage (chapters : List Chapter) :
    (frame.contentsPage chapters).IsPlaced := by
  refine Page.isPlaced_of_path (.contents frame.locale) ?_
  refine prefixed_joinNames frame.locale [contentsPageName] ?_
  simpa using isSegment_contentsPageName

/-- The page of a lesson between those with the given addresses. -/
def lessonPage (previous : String) (next : Option String)
    (lesson : Lesson) : Page :=
  frame.page lesson.slug (lesson.lesson ++ " - " ++ frame.labels.title)
    lesson.markdown lesson.code
    (Markup.link previous frame.labels.back) (frame.nextLink next)
    (lesson.index + 1) lesson.total

theorem isPlaced_lessonPage (previous : String) (next : Option String)
    {lesson : Lesson}
    (named : lesson.IsNamed frame.locale) :
    (frame.lessonPage previous next lesson).IsPlaced := by
  obtain ⟨sameLocale, isChapter, isLesson⟩ := named
  refine Page.isPlaced_of_path (.lesson frame.locale isChapter isLesson) ?_
  have spelled := prefixed_joinNames frame.locale
    [slugSegment lesson.chapter, slugSegment lesson.lesson]
    (by simpa using ⟨isChapter, isLesson⟩)
  simp only [lessonPage, page, Lesson.slug, lessonSlug, sameLocale]
  exact spelled

theorem exists_lessonPage {previous : String} {lessons : List Lesson}
    {page : Page} (member : page ∈ frame.lessonPages previous lessons) :
    ∃ lesson ∈ lessons,
      ∃ previous next, page = frame.lessonPage previous next lesson := by
  induction lessons generalizing previous with
  | nil => cases member
  | cons lesson lessons induction =>
      rcases List.mem_cons.mp member with rfl | later
      · exact ⟨lesson, List.mem_cons_self, previous, _, rfl⟩
      · obtain ⟨lesson, inside, same⟩ := induction later
        exact ⟨lesson, List.mem_cons_of_mem _ inside, same⟩

end PageFrame

/-- A page that a locale gets. -/
inductive LocaleTour.Makes (part : LocaleTour) (config : Config) :
    Page → Prop where
  | home (first : Lesson) :
      Makes part config ((part.frame config).homePage part.intro first)
  | lesson {lesson : Lesson} (member : lesson ∈ part.lessons)
      (previous : String) (next : Option String) :
      Makes part config ((part.frame config).lessonPage previous next lesson)
  | contents :
      Makes part config ((part.frame config).contentsPage part.chapters)

theorem LocaleTour.makes_of_mem {part : LocaleTour} {config : Config}
    {pages : List Page}
    (ok : part.pages config = .ok pages) {page : Page} (member : page ∈ pages) :
    part.Makes config page := by
  unfold LocaleTour.pages at ok
  cases lessons : part.lessons with
  | nil => simp [lessons] at ok
  | cons first rest =>
      rw [lessons] at ok
      cases ok
      rcases List.mem_append.mp member with inside | last
      · rcases List.mem_cons.mp inside with rfl | isLesson
        · exact .home first
        · obtain ⟨lesson, among, previous, next, rfl⟩ :=
            (part.frame config).exists_lessonPage isLesson
          exact .lesson (lessons ▸ among) previous next
      · split at last
        · cases List.mem_singleton.mp last
          exact .contents
        · cases last

theorem Tour.exists_makes {tour : Tour} {config : Config} {pages : List Page}
    (paged : tour.pages config = .ok pages) {page : Page}
    (member : page ∈ pages) :
    ∃ part ∈ tour.locales, part.Makes config page := by
  unfold Tour.pages at paged
  obtain ⟨parts, made, ok⟩ := bind_eq_ok_iff.mp paged
  dsimp only at ok
  split at ok
  · cases ok
  · cases ok
    obtain ⟨some_, isPart, inside⟩ := List.mem_flatten.mp member
    obtain ⟨part, isLocale, paged⟩ := mem_of_mapM_eq_ok made isPart
    exact ⟨part, isLocale, part.makes_of_mem paged inside⟩

theorem LocaleTour.Makes.isPlaced {part : LocaleTour} {config : Config}
    {page : Page} (made : part.Makes config page)
    (named : ∀ lesson ∈ part.lessons, lesson.IsNamed part.locale) :
    page.IsPlaced := by
  cases made with
  | home first => exact (part.frame config).isPlaced_homePage part.intro first
  | lesson member previous next =>
      exact (part.frame config).isPlaced_lessonPage previous
        next (named _ member)
  | contents => exact (part.frame config).isPlaced_contentsPage part.chapters

theorem LocaleTour.exists_homePage {part : LocaleTour} {config : Config}
    {pages : List Page}
    (ok : part.pages config = .ok pages) :
    ∃ page ∈ pages, page.path = part.locale.prefixed "" := by
  unfold LocaleTour.pages at ok
  cases lessons : part.lessons with
  | nil => simp [lessons] at ok
  | cons first rest =>
      rw [lessons] at ok
      cases ok
      exact ⟨_, List.mem_append_left _ List.mem_cons_self, rfl⟩

theorem nodup_paths_concat {before : List Page} {page : Page}
    (distinct : (before.map Page.path).Nodup)
    (absent : before.find? (·.path = page.path) = none) :
    ((before ++ [page]).map Page.path).Nodup := by
  rw [List.map_append, List.nodup_append]
  refine ⟨distinct, by simp, ?_⟩
  intro path member other last
  obtain ⟨earlier, inside, rfl⟩ := List.mem_map.mp member
  cases List.mem_singleton.mp last
  have different := List.find?_eq_none.mp absent earlier inside
  simpa using different

theorem nodup_paths_of_sharedPath? {before pages : List Page}
    (none_ : sharedPath? before pages = none)
    (distinct : (before.map Page.path).Nodup) :
    ((before ++ pages).map Page.path).Nodup := by
  induction pages generalizing before with
  | nil => simpa using distinct
  | cons page pages induction =>
      unfold sharedPath? at none_
      split at none_
      · cases none_
      · next absent =>
          rw [show before ++ page :: pages = before ++ [page] ++ pages by simp]
          exact induction none_ (nodup_paths_concat distinct absent)

/-- What is known of the pages of a tour: they are placed, have different paths,
and one is at the top of the site. -/
structure PagesPlaced (pages : List Page) : Prop where
  isPlaced : ∀ page ∈ pages, page.IsPlaced
  distinct : (pages.map Page.path).Nodup
  home : ∃ page ∈ pages, page.path = ""
  homeChinese : ∃ page ∈ pages, page.path = "zh"

theorem PagesPlaced.nodup {pages : List Page} (placed : PagesPlaced pages) :
    pages.Nodup := by
  refine List.Pairwise.of_map Page.path ?_ placed.distinct
  rintro page other different rfl
  exact different rfl

theorem Tour.pagesPlaced {tree : FileTree}
    (proper : (FileNode.directory tree).IsProper)
    {source : String} {config : Config} {tour : Tour} {pages : List Page}
    (read : Tour.read tree source config = .ok tour)
    (paged : tour.pages config = .ok pages) :
    PagesPlaced pages := by
  obtain ⟨english, chinese, locales, isEnglish, isChinese, named⟩ :=
    Tour.read_eq_ok proper read
  have placed : ∀ page ∈ pages, page.IsPlaced := by
    intro page member
    obtain ⟨part, isLocale, made⟩ := Tour.exists_makes paged member
    exact made.isPlaced (named part isLocale)
  unfold Tour.pages at paged
  obtain ⟨parts, made, ok⟩ := bind_eq_ok_iff.mp paged
  dsimp only at ok
  split at ok
  · cases ok
  · next separate =>
      cases ok
      rw [locales, List.mapM_cons, bind_eq_ok_iff] at made
      obtain ⟨first, madeFirst, made⟩ := made
      obtain ⟨others, rest, made⟩ := bind_eq_ok_iff.mp made
      rw [List.mapM_cons, bind_eq_ok_iff] at rest
      obtain ⟨second, madeSecond, rest⟩ := rest
      cases rest
      cases made
      obtain ⟨home, isHome, homePath⟩ := LocaleTour.exists_homePage madeFirst
      obtain ⟨other, isOther, otherPath⟩ :=
        LocaleTour.exists_homePage madeSecond
      rw [isEnglish] at homePath
      rw [isChinese] at otherPath
      refine ⟨placed, ?_, ⟨home, ?_, homePath⟩, ⟨other, ?_, otherPath⟩⟩
      · simpa using nodup_paths_of_sharedPath? separate (by simp)
      · exact List.mem_flatten.mpr ⟨first, List.mem_cons_self, isHome⟩
      · exact List.mem_flatten.mpr
          ⟨second, List.mem_cons_of_mem _ List.mem_cons_self, isOther⟩

end LessonSite
