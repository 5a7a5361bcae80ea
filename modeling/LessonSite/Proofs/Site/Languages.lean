import LessonSite.Proofs.Site.Loaded
import LessonSite.Proofs.Site.Lookup

/-!
# From one language to the other

Every page has an address for each language: its own, and the one that the same
page would have in the other language.  Where the site has a page at that
address, it is a page of that language, and it leads back.  There is one
exception: a Chinese lesson can be named so that its English address is that of
the Chinese table of contents.
-/

namespace LessonSite

/-- The address of a page in a language. -/
def Page.hrefIn (page : Page) : Locale → String
  | .en => page.enHref
  | .zh => page.zhHref

/-- The names that lead from the directory of a locale to a page of it. -/
inductive LocaleTour.Holds (part : LocaleTour) (config : Config) :
    List String → Prop where
  | home : Holds part config []
  | lesson {lesson : Lesson} (member : lesson ∈ part.lessons) :
      Holds part config [slugSegment lesson.chapter, slugSegment lesson.lesson]
  | contents (wanted : config.tocPage = true) :
      Holds part config [contentsPageName]

namespace LocaleTour

variable {part : LocaleTour} {config : Config}

theorem Holds.isSegment {names : List String} (holds : part.Holds config names)
    (named : ∀ lesson ∈ part.lessons, lesson.IsNamed part.locale) :
    ∀ name ∈ names, IsSegment name := by
  cases holds with
  | home => nofun
  | lesson member =>
      have isNamed := named _ member
      simpa using ⟨isNamed.chapter, isNamed.lesson⟩
  | contents => simpa using isSegment_contentsPageName

/-- The paths of a locale lead to the places that it holds. -/
theorem mem_paths_iff
    (named : ∀ lesson ∈ part.lessons, lesson.IsNamed part.locale)
    {path : String} :
    path ∈ part.paths config ↔
      ∃ names,
        part.Holds config names ∧
          path = joinNames (part.locale.names ++ names) := by
  have spelled : ∀ {names}, part.Holds config names →
      part.locale.prefixed (joinNames names) =
        joinNames (part.locale.names ++ names) :=
    fun holds => prefixed_joinNames _ _ (holds.isSegment named)
  have slug :
      ∀ lesson ∈ part.lessons, lesson.slug = joinNames (part.locale.names ++
        [slugSegment lesson.chapter, slugSegment lesson.lesson]) :=
    fun lesson member => (named lesson member).slug_eq
  rw [paths, List.cons_append, List.mem_cons, List.mem_append]
  constructor
  · rintro (rfl | isLesson | isContents)
    · exact ⟨[], .home, spelled .home⟩
    · obtain ⟨lesson, member, rfl⟩ := List.mem_map.mp isLesson
      exact ⟨_, .lesson member, slug lesson member⟩
    · split at isContents
      · next wanted =>
          obtain rfl := List.mem_singleton.mp isContents
          exact ⟨_, .contents wanted, spelled (.contents wanted)⟩
      · cases isContents
  · rintro ⟨names, holds, rfl⟩
    cases holds with
    | home => exact .inl (spelled .home).symm
    | lesson member =>
        exact .inr (.inl (List.mem_map.mpr ⟨_, member, slug _ member⟩))
    | contents wanted =>
        rw [if_pos wanted]
        exact .inr
          (.inr (List.mem_singleton.mpr (spelled (.contents wanted)).symm))

/-- What stands in a directory with the name of that of the Chinese pages, and
in the directory of a locale as well, has the name of a table of contents. -/
theorem Holds.below {second : LocaleTour} {names : List String}
    (holds : part.Holds config ("zh" :: names))
    (holdsToo : second.Holds config names) :
    names = [contentsPageName] ∧ config.tocPage = true ∧
      ∃ lesson ∈ part.lessons,
        slugSegment lesson.chapter = "zh" ∧
          slugSegment lesson.lesson = contentsPageName := by
  generalize whole : "zh" :: names = place at holds
  cases holds with
  | home => cases whole
  | contents => exact absurd (List.cons.inj whole).1 (by decide)
  | @lesson lesson member =>
      obtain ⟨isChapter, rest⟩ := List.cons.inj whole
      subst rest
      generalize inner : [slugSegment lesson.lesson] = place at holdsToo
      cases holdsToo with
      | home => cases inner
      | lesson => cases (List.cons.inj inner).2
      | contents wanted =>
          exact ⟨rfl, wanted, lesson, member, isChapter.symm,
            (List.cons.inj inner).1⟩

end LocaleTour

/-- The path of a Chinese lesson whose address in English is that of the Chinese
table of contents. -/
def strayPath : String :=
  Locale.zh.prefixed (Locale.zh.prefixed contentsPageName)

theorem Tour.hrefIn_eq {tour : Tour} {config : Config} {pages : List Page}
    (paged : tour.pages config = .ok pages) {page : Page}
    (member : page ∈ pages) (locale : Locale) :
    page.hrefIn locale =
      pageHref (locale.prefixed (page.locale.unprefixed page.path)) := by
  obtain ⟨part, -, made⟩ := Tour.exists_makes paged member
  cases made <;> cases locale <;> rfl

/-- The page stands in a part of a tour where the names lead to, and its
addresses say so. -/
structure Page.StandsIn (page : Page) (part : LocaleTour) (config : Config)
    (names : List String) : Prop where
  locale_eq : page.locale = part.locale
  holds : part.Holds config names
  isSegment : ∀ name ∈ names, IsSegment name
  path_eq : page.path = joinNames (part.locale.names ++ names)
  hrefIn_eq :
    ∀ locale : Locale,
      page.hrefIn locale = pageHref (joinNames (locale.names ++ names))

theorem isSegment_below {names : List String}
    (isSegment : ∀ name ∈ names, IsSegment name)
    (locale : Locale) : ∀ name ∈ locale.names ++ names, IsSegment name := by
  intro name member
  rcases List.mem_append.mp member with above | below
  · exact isSegment_localeNames locale name above
  · exact isSegment name below

theorem joinNames_inj {names others : List String}
    (isSegment : ∀ name ∈ names, IsSegment name)
    (areSegments : ∀ name ∈ others, IsSegment name) :
    joinNames names = joinNames others ↔ names = others := by
  refine ⟨fun same => ?_, congrArg joinNames⟩
  by_cases top : names = []
  · by_cases otherTop : others = []
    · rw [top, otherTop]
    · subst top
      exact absurd same.symm (joinNames_ne_empty otherTop areSegments)
  · have some_ : others ≠ [] := by
      rintro rfl
      exact joinNames_ne_empty top isSegment same
    rw [← pathNames_joinNames top fun name member =>
      (isSegment name member).noSlash, same,
      pathNames_joinNames some_ fun name member =>
        (areSegments name member).noSlash]

namespace Page.StandsIn

variable {page other : Page} {part second : LocaleTour} {config : Config}
  {names others : List String}

/-- The address in a language is the address of another page just when the names
agree. -/
theorem hrefIn_eq_href_iff (stands : page.StandsIn part config names)
    (standsToo : other.StandsIn second config others) (locale : Locale) :
    page.hrefIn locale = other.href ↔
      locale.names ++ names = other.locale.names ++ others := by
  rw [stands.hrefIn_eq, Page.href, standsToo.path_eq, standsToo.locale_eq,
    ← joinNames_inj (isSegment_below stands.isSegment locale)
      (isSegment_below standsToo.isSegment second.locale)]
  exact ⟨pageHref_injective, congrArg pageHref⟩

theorem path_eq_iff (stands : page.StandsIn part config names)
    (standsToo : other.StandsIn second config others) :
    page.path = other.path ↔
      page.locale.names ++ names = other.locale.names ++ others := by
  rw [stands.path_eq, standsToo.path_eq, stands.locale_eq, standsToo.locale_eq]
  exact joinNames_inj (isSegment_below stands.isSegment _)
    (isSegment_below standsToo.isSegment _)

end Page.StandsIn

/-- Every page of a site stands in a part of the tour, and there is a page at
every place of a part. -/
structure Tour.Covers (tour : Tour) (config : Config)
    (pages : List Page) : Prop where
  stands :
    ∀ page ∈ pages,
      ∃ part ∈ tour.locales, ∃ names, page.StandsIn part config names
  covered : ∀ part ∈ tour.locales, ∀ names, part.Holds config names →
    ∃ page ∈ pages, page.StandsIn part config names
  distinct : (pages.map Page.path).Nodup
  named :
    ∀ part ∈ tour.locales, ∀ lesson ∈ part.lessons, lesson.IsNamed part.locale
  chinese : ∃ part ∈ tour.locales, part.locale = .zh

theorem Tour.covers {tree : FileTree}
    (proper : (FileNode.directory tree).IsProper) {source : String}
    {scanned config : Config} {tour : Tour} {pages : List Page}
    (read : Tour.read tree source scanned = .ok tour)
    (paged : tour.pages config = .ok pages) :
    tour.Covers config pages := by
  obtain ⟨english, chinese, locales, -, isChinese, named⟩ :=
    Tour.read_eq_ok proper read
  obtain ⟨exists_iff, arranged⟩ :=
    Tour.exists_pages_iff (Tour.isCounted_of_read read).2 config
  obtain ⟨pagesOf, fits, rfl⟩ := arranged pages paged
  have stands :
      ∀ {part} (isPart : part ∈ tour.locales) {page}, page ∈ pagesOf part →
        ∀ {names},
          part.Holds config names →
          page.path = joinNames (part.locale.names ++ names) →
            page.StandsIn part config names := by
    intro part isPart page member names holds path
    obtain ⟨opening, inner, outer, same, arranged⟩ := fits part isPart
    have locale := arranged.locale page (same ▸ member)
    have isSegment := holds.isSegment (named part isPart)
    refine ⟨locale, holds, isSegment, path, fun other => ?_⟩
    rw [Tour.hrefIn_eq paged (List.mem_flatMap.mpr ⟨part, isPart, member⟩),
      path, locale, ← prefixed_joinNames _ _ isSegment,
      Locale.unprefixed_prefixed, prefixed_joinNames _ _ isSegment]
  have paths :
      ∀ part ∈ tour.locales,
        (pagesOf part).map Page.path = part.paths config := by
    intro part isPart
    obtain ⟨opening, inner, outer, same, arranged⟩ := fits part isPart
    rw [same, arranged.map_path]
  refine ⟨?_, ?_, ?_, named, ⟨chinese, by simp [locales], isChinese⟩⟩
  · intro page member
    obtain ⟨part, isPart, inside⟩ := List.mem_flatMap.mp member
    have path : page.path ∈ part.paths config :=
      paths part isPart ▸ List.mem_map_of_mem inside
    obtain ⟨names, holds, same⟩ :=
      (LocaleTour.mem_paths_iff (named part isPart)).mp path
    exact ⟨part, isPart, names, stands isPart inside holds same⟩
  · intro part isPart names holds
    have path :
        joinNames (part.locale.names ++ names) ∈ (pagesOf part).map Page.path :=
      paths part isPart ▸
        (LocaleTour.mem_paths_iff (named part isPart)).mpr ⟨names, holds, rfl⟩
    obtain ⟨page, inside, same⟩ := List.mem_map.mp path
    exact ⟨page, List.mem_flatMap.mpr ⟨part, isPart, inside⟩,
      stands isPart inside holds same⟩
  · rw [fits.map_path]
    exact exists_iff.mp ⟨_, paged⟩

namespace Tour.Covers

variable {tour : Tour} {config : Config} {pages : List Page}

/-- The address of a page in its own language is its address. -/
theorem hrefIn_own (covers : tour.Covers config pages) {page : Page}
    (member : page ∈ pages) :
    page.hrefIn page.locale = page.href := by
  obtain ⟨part, -, names, stands⟩ := covers.stands page member
  exact (stands.hrefIn_eq_href_iff stands page.locale).mpr rfl

/-- A page leads to one of the other language just when this one leads back. -/
theorem hrefIn_iff (covers : tour.Covers config pages) {page other : Page}
    (member : page ∈ pages) (isPage : other ∈ pages) :
    page.hrefIn other.locale = other.href ↔
      other.hrefIn page.locale = page.href := by
  obtain ⟨part, -, names, stands⟩ := covers.stands page member
  obtain ⟨second, -, others, standsToo⟩ := covers.stands other isPage
  rw [stands.hrefIn_eq_href_iff standsToo, standsToo.hrefIn_eq_href_iff stands,
    List.append_cancel_left_eq, List.append_cancel_left_eq, eq_comm]

/-- A page of the other language can have the address of a page in a language in
one way only: a Chinese lesson stands as far below the Chinese table of contents
as this stands below the site. -/
theorem stray (covers : tour.Covers config pages) {page other : Page}
    (member : page ∈ pages)
    (isPage : other ∈ pages) {locale : Locale}
    (leads : page.hrefIn locale = other.href) (apart : other.locale ≠ locale) :
    locale = .en ∧ config.tocPage = true ∧
      ∃ lesson ∈ tour.lessons, lesson.slug = strayPath := by
  obtain ⟨part, isPart, names, stands⟩ := covers.stands page member
  obtain ⟨second, isSecond, others, standsToo⟩ := covers.stands other isPage
  have same := (stands.hrefIn_eq_href_iff standsToo locale).mp leads
  cases locale with
  | zh =>
      have english : other.locale = .en := by
        cases language : other.locale with
        | en => rfl
        | zh => exact absurd language apart
      have below : others = "zh" :: names := by
        rw [english] at same; exact same.symm
      obtain ⟨rfl, wanted, -⟩ := (below ▸ standsToo.holds).below stands.holds
      obtain ⟨chinese, isChinese, isLocale⟩ := covers.chinese
      obtain ⟨contents, isContents, standsThere⟩ :=
        covers.covered chinese isChinese _ (.contents wanted)
      have locale : contents.locale = .zh :=
        standsThere.locale_eq.trans isLocale
      have path : contents.path = other.path := by
        rw [standsThere.path_eq_iff standsToo, locale, english, below]
        rfl
      rw [eq_of_map_eq_of_nodup covers.distinct isContents isPage path]
        at locale
      exact absurd locale apart
  | en =>
      have chinese : other.locale = .zh := by
        cases language : other.locale with
        | en => exact absurd language apart
        | zh => rfl
      have below : names = "zh" :: others := by rw [chinese] at same; exact same
      obtain ⟨rfl, wanted, lesson, isLesson, isChapter, isNamed⟩ :=
        (below ▸ stands.holds).below standsToo.holds
      refine ⟨rfl, wanted, lesson,
        List.mem_flatMap.mpr ⟨part, isPart, isLesson⟩, ?_⟩
      have isChinese : part.locale = .zh := by
        cases language : part.locale with
        | zh => rfl
        | en =>
            have path : page.path = other.path := by
              rw [stands.path_eq_iff standsToo, stands.locale_eq, language,
                chinese, below]
              rfl
            rw [← eq_of_map_eq_of_nodup covers.distinct member isPage path,
              stands.locale_eq] at chinese
            rw [language] at chinese
            cases chinese
      rw [(covers.named part isPart lesson isLesson).slug_eq, isChapter,
        isNamed, isChinese]
      rfl

/-- A Chinese lesson with that path leads to the Chinese table of contents
instead of an English page. -/
theorem exists_stray (covers : tour.Covers config pages)
    (wanted : config.tocPage = true)
    {lesson : Lesson} (isLesson : lesson ∈ tour.lessons)
    (stray : lesson.slug = strayPath) :
    ∃ page ∈ pages,
      ∃ other ∈ pages, page.enHref = other.href ∧ other.locale ≠ .en := by
  obtain ⟨part, isPart, inside⟩ := List.mem_flatMap.mp isLesson
  have named := covers.named part isPart lesson inside
  have segments : ∀ name ∈ ["zh", "zh", contentsPageName], IsSegment name := by
    simpa using ⟨isSegment_localeNames .zh "zh" (by decide),
      isSegment_contentsPageName⟩
  have names :
      part.locale.names ++
          [slugSegment lesson.chapter, slugSegment lesson.lesson] =
        ["zh", "zh", contentsPageName] := by
    rw [← joinNames_inj named.isSegment segments, ← named.slug_eq, stray]
    rfl
  have chinese : part.locale = .zh := by
    cases language : part.locale with
    | zh => rfl
    | en =>
        rw [language] at names
        have lengths := congrArg List.length names
        simp [Locale.names, Locale.slugPrefix?] at lengths
  obtain ⟨page, member, stands⟩ := covers.covered part isPart _ (.lesson inside)
  obtain ⟨other, isPage, standsToo⟩ :=
    covers.covered part isPart _ (.contents wanted)
  refine ⟨page, member, other, isPage, ?_, ?_⟩
  · rw [show page.enHref = page.hrefIn .en from rfl,
      stands.hrefIn_eq_href_iff standsToo, standsToo.locale_eq]
    rw [chinese] at names ⊢
    exact (List.cons.inj names).2
  · rw [standsToo.locale_eq, chinese]
    decide

end Tour.Covers

/-- The pages of a tour lead from one language to the other and back.  The
address of a page in its own language is its address; where there is a page at
the Chinese address of a page it is a Chinese one; a page leads to one of the
other language just when this one leads back.  Where there is a page at the
English address, it is an English one, unless there is a Chinese lesson with the
stray path and the Chinese table of contents at its English address. -/
theorem Tour.leadsToLanguage_iff {tree : FileTree}
    (proper : (FileNode.directory tree).IsProper)
    {source : String} {scanned config : Config} {tour : Tour}
    {pages : List Page}
    (read : Tour.read tree source scanned = .ok tour)
    (paged : tour.pages config = .ok pages) :
    (∀ page ∈ pages, page.hrefIn page.locale = page.href) ∧
      (∀ page ∈ pages, ∀ other ∈ pages,
        (page.hrefIn other.locale = other.href ↔
          other.hrefIn page.locale = page.href)) ∧
      (∀ page ∈ pages,
        ∀ other ∈ pages, page.zhHref = other.href → other.locale = .zh) ∧
      ((∀ page ∈ pages,
          ∀ other ∈ pages, page.enHref = other.href → other.locale = .en) ↔
        (config.tocPage = true →
          ∀ lesson ∈ tour.lessons, lesson.slug ≠ strayPath)) := by
  have covers := Tour.covers proper read paged
  refine ⟨fun _ => covers.hrefIn_own, fun _ member _ =>
    covers.hrefIn_iff member, ?_, ?_, ?_⟩
  · intro page member other isPage leads
    refine Decidable.of_not_not fun apart => ?_
    have stray :=
      covers.stray member isPage
        (show page.hrefIn .zh = other.href from leads) apart
    exact absurd stray.1 (by decide)
  · intro english wanted lesson isLesson stray
    obtain ⟨page, member, other, isPage, leads, apart⟩ :=
      covers.exists_stray wanted isLesson stray
    exact apart (english page member other isPage leads)
  · intro noStray page member other isPage leads
    refine Decidable.of_not_not fun apart => ?_
    obtain ⟨-, wanted, lesson, isLesson, stray⟩ :=
      covers.stray member isPage
        (show page.hrefIn .en = other.href from leads) apart
    exact noStray wanted lesson isLesson stray

theorem Tour.leadsToLanguage_iff_smallTour :
    (FileNode.directory (smallTree plainChapter.name)).IsProper ∧
      Tour.read (smallTree plainChapter.name) "tour" .stock =
        .ok (smallTour plainChapter) ∧
      (smallTour plainChapter).pages .stock = .ok (smallPages plainChapter) ∧
      ∀ page ∈ smallPages plainChapter, ∀ other ∈ smallPages plainChapter,
        page.enHref = other.href → other.locale = .en := by
  have proper : (FileNode.directory (smallTree plainChapter.name)).IsProper :=
    isProper_smallTree (by decide)
  have read :
      Tour.read (smallTree plainChapter.name) "tour" .stock =
        .ok (smallTour plainChapter) :=
    read_smallTree (.inl rfl)
  have paged :
      (smallTour plainChapter).pages .stock = .ok (smallPages plainChapter) :=
    pages_smallTour (.inl rfl)
  exact ⟨proper, read, paged,
    (Tour.leadsToLanguage_iff proper read paged).2.2.2.mpr
      fun _ => by decide +kernel⟩

/-- A tree with a tour where a Chinese lesson has the names of the Chinese table
of contents. -/
def strayTree : FileTree :=
  let sources : FileTree := [("index.mbt", .file []), ("index.md", .file [])]
  [("tour", .directory
    (("1_c", .directory [("1_a", .directory sources)]) :: sources ++
      [("zh", .directory
        ((localeChapter.name,
          .directory [(contentsLesson.name, .directory sources)]) ::
          sources))]))]

def strayTour : Tour :=
  ⟨[.single .en ⟨⟨1, "c"⟩, "1_c"⟩ ⟨⟨1, "a"⟩, "1_a"⟩,
    .single .zh localeChapter contentsLesson]⟩

theorem Tour.read_strayTour :
    Tour.read strayTree "tour" .stock = .ok strayTour := by
  apply Tour.read_stock_eq_ok
  · exact LocaleTour.read_eq_single (eq_ok_of_toOption (by decide +kernel))
      (NumberedDirectory.list_eq_singleton rfl (by decide +kernel) rfl)
      (NumberedDirectory.list_eq_singleton rfl (by decide +kernel) rfl)
      (eq_ok_of_toOption (by decide +kernel)) .en
  · exact LocaleTour.read_eq_single (eq_ok_of_toOption (by decide +kernel))
      (NumberedDirectory.list_eq_singleton rfl (by decide +kernel) rfl)
      (NumberedDirectory.list_eq_singleton rfl (by decide +kernel) rfl)
      (eq_ok_of_toOption (by decide +kernel)) .zh

/-- The page of that lesson has the Chinese table of contents at its English
address. -/
theorem Tour.not_leadsToLanguage_strayTour :
    Tour.read strayTree "tour" .stock = .ok strayTour ∧
      ∃ pages, strayTour.pages .stock = .ok pages ∧
        ∃ page ∈ pages, ∃ other ∈ pages, page.path = strayPath ∧
          page.enHref = other.href ∧ other.locale = .zh := by
  have found :
      ∃ pages ∈ (strayTour.pages .stock).toOption,
        ∃ page ∈ pages, ∃ other ∈ pages,
          page.path = strayPath ∧ page.enHref = other.href ∧
            other.locale = .zh := by decide +kernel
  obtain ⟨pages, made, strays⟩ := found
  exact ⟨Tour.read_strayTour, pages, eq_ok_of_toOption made, strays⟩

end LessonSite
