import LessonSite.Proofs.EntryName
import LessonSite.Proofs.Site.Languages
import LessonSite.Site.Inventory

/-!
# Inventories of what was found and made

After a scan each lesson is told with its number, and after a build each page is
told by its name and its file.  What kind of page it is, is seen from its path,
and so a lesson whose path ends like that of a table of contents is told without
its number.  All other pages are told as what they are.
-/

namespace LessonSite

/-- A lesson by the number that it has and its name. -/
def Lesson.numbered (lesson : Lesson) : String :=
  Inventory.position (lesson.index + 1) ++ " " ++ lesson.lesson

/-- The lessons of a locale by their numbers, counted through the locale, and
their names. -/
def LocaleTour.numberedLessons (part : LocaleTour) : List String :=
  (part.lessons.zipIdx 1).map fun (lesson, number) =>
    Inventory.position number ++ " " ++ lesson.lesson

/-- The numbers that lessons have are those they get when they are counted once
more. -/
theorem LocaleTour.IsCounted.numberedLessons_eq {part : LocaleTour}
    (counted : part.IsCounted) :
    part.numberedLessons = part.lessons.map Lesson.numbered := by
  have places :
      part.lessons.map (fun lesson => lesson.index + 1) =
        List.range' 1 part.lessons.length := by
    have numbers := congrArg (List.map fun place => place.1 + 1) counted.counted
    rw [List.map_map, List.map_map] at numbers
    rw [List.range'_eq_map_range]
    simpa only [Function.comp_def, Nat.add_comm] using numbers
  have paired :
      part.lessons.zipIdx 1 =
        part.lessons.map fun lesson => (lesson, lesson.index + 1) := by
    rw [List.zipIdx_eq_zip_range', ← places, List.map_prod_left_eq_zip]
  rw [numberedLessons, paired, List.map_map]
  rfl

namespace Inventory

/-- A position is written in decimal digits; zeros before the number do not
count. -/
theorem isNumeral_position (number : Nat) :
    IsNumeral (position number) number := by
  have spelled : (position number).toList =
      List.replicate (3 - (toString number).length) '0' ++
        Nat.toDigits 10 number := by
    rw [position, Text.padNumber, String.toList_append, String.toList_ofList,
      toList_toString]
  constructor
  case nonempty =>
    intro empty
    rw [empty] at spelled
    exact Nat.toDigits_ne_nil (List.append_eq_nil_iff.mp spelled.symm).2
  case digits =>
    rw [spelled, List.forall_mem_append]
    refine ⟨fun character member => ?_, fun character member =>
      isDigit_of_mem_toDigits member⟩
    rw [List.eq_of_mem_replicate member]
    decide
  case value_eq =>
    rw [spelled, Nat.ofDigitChars_append, Nat.ofDigitChars_replicate_zero,
      Nat.mul_zero, Nat.ofDigitChars_ten_toDigits]

theorem length_position (number : Nat) :
    (position number).length = max 3 (toString number).length := by
  rw [position, Text.padNumber, String.length_append, String.length_ofList,
    List.length_replicate]
  omega

theorem exists_toList_position (number : Nat) :
    ∃ digit rest,
      (position number).toList = digit :: rest ∧ digit.isDigit = true := by
  have numeral := isNumeral_position number
  obtain ⟨digit, rest, spelled⟩ :=
    List.exists_cons_of_ne_nil
      (show (position number).toList ≠ [] by simpa using numeral.nonempty)
  exact ⟨digit, rest, spelled,
    numeral.digits digit (spelled ▸ List.mem_cons_self)⟩

/-- The line is that of a lesson: a number comes after four blanks. -/
def isLessonLine (line : String) : Bool :=
  ((Text.afterStart? (indent 1) line).bind (·.toList.head?)).any Char.isDigit

theorem isLessonLine_indent (rest : String) :
    isLessonLine (indent 1 ++ rest) = rest.toList.head?.any Char.isDigit := by
  have after :
      Text.stripStart? (indent 1).toList (indent 1 ++ rest).toList =
        some rest.toList := by
    rw [Text.stripStart?_eq_some_iff, String.toList_append]
  rw [isLessonLine, Text.afterStart?, after]
  simp

/-- A line that does not begin with a blank is not that of a lesson. -/
theorem isLessonLine_of_head {line : String}
    (begins : line.toList.head? ≠ some ' ') :
    isLessonLine line = false := by
  have none_ : Text.stripStart? (indent 1).toList line.toList = none := by
    rw [Option.eq_none_iff_forall_ne_some]
    intro rest found
    rw [Text.stripStart?_eq_some_iff] at found
    rw [found] at begins
    exact begins rfl
  rw [isLessonLine, Text.afterStart?, none_]
  rfl

theorem filter_lessonLines (lesson : Lesson) :
    (lessonLines lesson).filter isLessonLine =
      [indent 1 ++ lesson.numbered] := by
  obtain ⟨digit, rest, digits, isDigit⟩ :=
    exists_toList_position (lesson.index + 1)
  have line :
      indent 1 ++ position (lesson.index + 1) ++ " " ++ lesson.lesson =
        indent 1 ++ lesson.numbered := by
    simp only [Lesson.numbered, String.append_assoc]
  have first : isLessonLine (indent 1 ++ lesson.numbered) = true := by
    rw [isLessonLine_indent, Lesson.numbered, String.append_assoc,
      String.toList_append, digits]
    exact isDigit
  have deeper : indent 2 ++ "Source: " ++ lesson.sourceDir ++ "/" =
      indent 1 ++ ("    Source: " ++ (lesson.sourceDir ++ "/")) := by
    rw [show indent 2 ++ "Source: " = indent 1 ++ "    Source: " by decide,
      String.append_assoc, String.append_assoc]
  have second :
      isLessonLine (indent 2 ++ "Source: " ++ lesson.sourceDir ++ "/") =
        false := by
    rw [deeper, isLessonLine_indent, String.toList_append]
    rfl
  rw [lessonLines, line, List.filter_cons_of_pos first,
    List.filter_cons_of_neg (by simp [second]), List.filter_nil]

theorem filter_chapterLines (next : Nat) (chapters : List Chapter) :
    (chapterLines next chapters).filter isLessonLine =
      (chapters.flatMap Chapter.lessons).map fun lesson =>
        indent 1 ++ lesson.numbered := by
  induction chapters generalizing next with
  | nil => rfl
  | cons chapter chapters induction =>
      obtain ⟨digit, rest, digits, isDigit⟩ := exists_toList_position next
      have name :
          isLessonLine (position next ++ " " ++ chapter.name) = false := by
        apply isLessonLine_of_head
        rw [String.append_assoc, String.toList_append, digits]
        intro begins
        cases begins
        cases isDigit
      have source :
          isLessonLine (indent 1 ++ "Source: " ++ chapter.sourceDir ++ "/") =
            false := by
        rw [String.append_assoc, String.append_assoc, isLessonLine_indent,
          String.toList_append]
        rfl
      have lessons : (chapter.lessons.flatMap lessonLines).filter isLessonLine =
          chapter.lessons.map fun lesson => indent 1 ++ lesson.numbered := by
        rw [List.filter_flatMap, List.map_eq_flatMap]
        simp only [filter_lessonLines]
      rw [chapterLines, List.cons_append, List.cons_append,
        List.filter_cons_of_neg (by simp [name]),
        List.filter_cons_of_neg (by simp [source]), List.filter_append, lessons,
        induction, List.flatMap_cons, List.map_append]

theorem filter_localeLines (part : LocaleTour) :
    (localeLines part).filter isLessonLine =
      part.lessons.map fun lesson => indent 1 ++ lesson.numbered := by
  have label :
      isLessonLine
        (part.locale.label ++ " (" ++ count part.lessons.length "lesson" ++
          ")") = false := by
    apply isLessonLine_of_head
    rw [String.append_assoc, String.append_assoc, String.toList_append]
    cases part.locale <;> nofun
  have opening :
      isLessonLine (indent 1 ++ "Intro: " ++ part.locale.prefixed "index.md") =
        false := by
    rw [String.append_assoc, isLessonLine_indent, String.toList_append]
    rfl
  rw [localeLines, List.filter_cons_of_neg (by simp [label]),
    List.filter_cons_of_neg (by simp [opening]), filter_chapterLines]
  rfl

/-- Among the lines that tell what was found, each lesson has one with its
number. -/
theorem filter_ofTour (tour : Tour) (files : FileTree) (source : String) :
    (ofTour tour (settingFiles files source)).filter isLessonLine =
      tour.locales.flatMap fun part =>
        part.lessons.map fun lesson => indent 1 ++ lesson.numbered := by
  have settings :
      ((settingFiles files source).map (indent 1 ++ ·)).filter
        isLessonLine = [] := by
    rw [List.filter_eq_nil_iff]
    intro line member
    obtain ⟨name, among, rfl⟩ := List.mem_map.mp member
    have inside : name ∈ ["config.toml", "template.html"] :=
      List.mem_of_mem_filter among
    rw [isLessonLine_indent]
    rcases List.mem_pair.mp inside with rfl | rfl <;> decide
  have others : (if (settingFiles files source).isEmpty then []
      else ["", "Config"] ++
        (settingFiles files source).map (indent 1 ++ ·)).filter
    isLessonLine = [] := by
    split
    · rfl
    · rw [List.filter_append, settings]
      decide
  have blocks :
      (fun part : LocaleTour => (localeLines part).filter isLessonLine) =
        fun part =>
          part.lessons.map fun lesson => indent 1 ++ lesson.numbered :=
    funext filter_localeLines
  rw [ofTour, List.filter_append, others, List.append_nil,
    filter_intercalate (by decide), List.flatMap_map, blocks]

/-- The names of the pages of a locale, with the given ones for its lessons. -/
def namesWith (part : LocaleTour) (config : Config) (lessons : List String) :
    List String :=
  "Home" :: lessons ++
    if config.tocPage then [(config.locale part.locale).tocTitle] else []

/-- The names of pages with the files that they are in. -/
def listed (names : List String) (pages : List Page) : List String :=
  List.zipWith (fun name page => name ++ " → " ++ page.htmlPath) names pages

theorem listed_injective {pages : List Page} {names others : List String}
    (length : names.length = pages.length)
    (alsoLength : others.length = pages.length)
    (same : listed names pages = listed others pages) :
    names = others := by
  induction pages generalizing names others with
  | nil =>
      rw [List.length_eq_zero_iff.mp length,
        List.length_eq_zero_iff.mp alsoLength]
  | cons page pages induction =>
      obtain ⟨name, names, rfl⟩ := List.exists_cons_of_length_eq_add_one length
      obtain ⟨other, others, rfl⟩ :=
        List.exists_cons_of_length_eq_add_one alsoLength
      obtain ⟨first, rest⟩ := List.cons.inj same
      rw [String.append_left_inj, String.append_left_inj] at first
      rw [first, induction (Nat.succ.inj length) (Nat.succ.inj alsoLength) rest]

end Inventory

/-- The name that a lesson's page is told by: the number is left out if the path
ends like that of a table of contents. -/
def Lesson.told (lesson : Lesson) : String :=
  if Text.endsWith contentsPageName (slugSegment lesson.lesson) then
    lesson.lesson
  else lesson.numbered

theorem Lesson.told_eq_numbered_iff {lesson : Lesson} :
    lesson.told = lesson.numbered ↔
      Text.endsWith contentsPageName (slugSegment lesson.lesson) = false := by
  rw [told]
  split
  · next ends =>
      refine iff_of_false ?_ (by simp [ends])
      intro same
      have lengths := congrArg String.length same
      rw [numbered, String.length_append, String.length_append] at lengths
      have blank : " ".length = 1 := rfl
      omega
  · next keeps => exact iff_of_true rfl (by simpa using keeps)

theorem Lesson.endsWith_slug (lesson : Lesson) :
    Text.endsWith contentsPageName lesson.slug =
      Text.endsWith contentsPageName (slugSegment lesson.lesson) := by
  have some_ :
      slugSegment lesson.chapter ++ "/" ++ slugSegment lesson.lesson ≠ "" := by
    intro empty
    have length := congrArg String.length empty
    rw [String.length_append, String.length_append] at length
    exact absurd length (by simp)
  have spelled :
      ∃ before, lesson.slug = before ++ "/" ++ slugSegment lesson.lesson := by
    rw [Lesson.slug, lessonSlug]
    cases lesson.locale with
    | en => exact ⟨_, rfl⟩
    | zh =>
        refine ⟨"zh/" ++ slugSegment lesson.chapter, ?_⟩
        exact (if_neg some_).trans (by simp only [String.append_assoc]; rfl)
  obtain ⟨before, same⟩ := spelled
  rw [same, Text.endsWith_append_slash (by decide)]

/-- How a page is told that is not the one its locale opens with. -/
theorem Inventory.pageLabel_of_title {page : Page} {name : String}
    (inner : page.path ≠ page.locale.prefixed "")
    (title : page.title = name ++ " - " ++ page.homePage) :
    pageLabel page = if Text.endsWith contentsPageName page.path then name
      else position page.index ++ " " ++ name := by
  have bare :
      Text.beforeEnd? (" - " ++ page.homePage) page.title = some name := by
    rw [Text.beforeEnd?_eq_some_iff, title, String.append_assoc]
  rw [pageLabel, if_neg inner, bare]
  rfl

namespace PageFrame

variable (frame : PageFrame)

theorem pageLabel_lesson (lesson : Lesson) (back next : String) :
    Inventory.pageLabel
      (frame.page lesson.slug (lesson.lesson ++ " - " ++ frame.labels.title)
        lesson.markdown
        lesson.code back next (lesson.index + 1) lesson.total) =
      lesson.told := by
  rw [Lesson.told, ← lesson.endsWith_slug]
  exact Inventory.pageLabel_of_title (lesson.slug_ne_home frame.locale) rfl

theorem pageLabel_contentsPage (chapters : List Chapter) :
    Inventory.pageLabel (frame.contentsPage chapters) =
      frame.labels.tocTitle := by
  have inner :
      frame.locale.prefixed contentsPageName ≠ frame.locale.prefixed "" := by
    cases frame.locale <;> decide
  have ending :
      Text.endsWith contentsPageName (frame.locale.prefixed contentsPageName) =
        true := by
    cases frame.locale <;> decide
  exact (Inventory.pageLabel_of_title inner rfl).trans (if_pos ending)

end PageFrame

namespace LocaleTour

variable {part : LocaleTour} {config : Config} {pages : List Page}

/-- The names by which the pages of a locale are told. -/
theorem map_pageLabel (ok : part.pages config = .ok pages) :
    pages.map Inventory.pageLabel =
      Inventory.namesWith part config (part.lessons.map Lesson.told) := by
  unfold LocaleTour.pages at ok
  cases lessons : part.lessons with
  | nil => simp [lessons] at ok
  | cons first rest =>
      rw [lessons] at ok
      cases ok
      have inside :=
        (part.frame config).map_lessonPages (part.frame config).pageLabel_lesson
          (part.frame config).homeHref (first :: rest)
      have contents := (part.frame config).pageLabel_contentsPage part.chapters
      have home :
          Inventory.pageLabel ((part.frame config).homePage part.intro first) =
            "Home" := if_pos rfl
      have outside :
          (if config.tocPage then
            [(part.frame config).contentsPage part.chapters]
          else []).map
            Inventory.pageLabel =
            if config.tocPage then
              [(config.locale part.locale).tocTitle]
            else [] := by
        cases config.tocPage with
        | false => rfl
        | true => exact congrArg (fun name => [name]) contents
      rw [List.map_append, List.map_cons, home, inside, outside,
        Inventory.namesWith]

end LocaleTour

namespace Inventory

theorem pageLines_of_locale {locale : Locale} {pages : List Page}
    (same : ∀ page ∈ pages, page.locale = locale) :
    pageLines pages = pages.map pageLine := by
  induction pages with
  | nil => rfl
  | cons page pages induction =>
      obtain ⟨first, later⟩ := List.forall_mem_cons.mp same
      cases pages with
      | nil => rfl
      | cons second pages =>
          rw [pageLines,
            if_pos (first.trans (later second List.mem_cons_self).symm),
            induction later]
          rfl

/-- Between the pages of two locales there is an empty line. -/
theorem pageLines_append {locale : Locale} {pages others : List Page}
    {other : Page} (some_ : pages ≠ [])
    (same : ∀ page ∈ pages, page.locale = locale)
    (different : locale ≠ other.locale) :
    pageLines (pages ++ other :: others) =
      pages.map pageLine ++ [""] ++ pageLines (other :: others) := by
  induction pages with
  | nil => exact absurd rfl some_
  | cons page pages induction =>
      obtain ⟨first, later⟩ := List.forall_mem_cons.mp same
      cases pages with
      | nil =>
          rw [List.singleton_append, pageLines, if_neg (first ▸ different)]
          rfl
      | cons second pages =>
          have rest := induction (List.cons_ne_nil second pages) later
          rw [List.cons_append] at rest
          rw [List.cons_append, List.cons_append, pageLines,
            if_pos (first.trans (later second List.mem_cons_self).symm), rest]
          rfl

/-- The pages of different locales are told locale by locale. -/
theorem pageLines_flatMap {parts : List LocaleTour}
    {pagesOf : LocaleTour → List Page}
    (distinct : (parts.map LocaleTour.locale).Nodup)
    (some_ : ∀ part ∈ parts, pagesOf part ≠ [])
    (same : ∀ part ∈ parts, ∀ page ∈ pagesOf part, page.locale = part.locale) :
    pageLines (parts.flatMap pagesOf) =
      [""].intercalate (parts.map fun part => (pagesOf part).map pageLine) := by
  induction parts with
  | nil => rfl
  | cons part parts induction =>
      obtain ⟨new, distinct⟩ := List.nodup_cons.mp distinct
      obtain ⟨someHere, someLater⟩ := List.forall_mem_cons.mp some_
      obtain ⟨here, later⟩ := List.forall_mem_cons.mp same
      have rest := induction distinct someLater later
      cases parts with
      | nil =>
          rw [List.flatMap_singleton, List.map_singleton,
            List.intercalate_singleton, pageLines_of_locale here]
      | cons next parts =>
          obtain ⟨other, others, begins⟩ :=
            List.exists_cons_of_ne_nil (someLater next List.mem_cons_self)
          have locale : other.locale = next.locale :=
            later next List.mem_cons_self other (begins ▸ List.mem_cons_self)
          have different : part.locale ≠ other.locale := by
            rw [locale]
            exact fun equal => new (equal ▸ List.mem_cons_self)
          rw [List.flatMap_cons, begins, List.cons_append] at rest
          rw [List.flatMap_cons, List.flatMap_cons, begins, List.cons_append,
            pageLines_append someHere here different, rest]
          exact List.intercalate_cons_cons.symm

/-- The lines for the pages of locales: each page with its name, and an empty
line between locales. -/
def listing (parts : List LocaleTour) (names : LocaleTour → List String)
    (pagesOf : LocaleTour → List Page) :
    List String :=
  [""].intercalate (parts.map fun part => listed (names part) (pagesOf part))

/-- The lines that come after those for the pages. -/
def closing (pages : List Page) : List String :=
  ["",
    "Generated " ++ count pages.length "page" ++ " (" ++
      toString (pages.length * 2) ++ " files)"]

theorem listing_eq_iff {parts : List LocaleTour}
    {names others : LocaleTour → List String}
    {pagesOf : LocaleTour → List Page}
    (length : ∀ part ∈ parts, (names part).length = (pagesOf part).length)
    (alsoLength : ∀ part ∈ parts,
      (others part).length = (pagesOf part).length) :
    listing parts names pagesOf = listing parts others pagesOf ↔
      ∀ part ∈ parts, names part = others part := by
  constructor
  · intro same part isPart
    have sizes : ∀ part ∈ parts, (listed (names part) (pagesOf part)).length =
        (listed (others part) (pagesOf part)).length := by
      intro part isPart
      rw [listed, listed, List.length_zipWith, List.length_zipWith,
        length part isPart, alsoLength part isPart]
    exact listed_injective (length part isPart) (alsoLength part isPart)
      (intercalate_injective sizes same part isPart)
  · intro each
    have blocks :
        ∀ part ∈ parts,
          listed (names part) (pagesOf part) =
            listed (others part) (pagesOf part) :=
      fun part isPart => congrArg (listed · (pagesOf part)) (each part isPart)
    rw [listing, listing, List.map_congr_left blocks]

theorem length_namesWith {part : LocaleTour} {config : Config}
    {names others : List String} (length : names.length = others.length) :
    (namesWith part config names).length =
      (namesWith part config others).length := by
  rw [namesWith, namesWith, List.length_append, List.length_append,
    List.length_cons, List.length_cons, length]

theorem namesWith_inj {part : LocaleTour} {config : Config}
    {names others : List String} :
    namesWith part config names = namesWith part config others ↔
      names = others := by
  rw [namesWith, namesWith, List.append_left_inj, List.cons_inj_right]

end Inventory

namespace Tour

variable {tree : FileTree} {source : String} {scanned config : Config}
  {tour : Tour} {pages : List Page}

/-- The pages of the site of a tour are those of its locales, one locale after
the other. -/
theorem exists_pagesOf (read : Tour.read tree source scanned = .ok tour)
    (paged : tour.pages config = .ok pages) :
    ∃ pagesOf,
      tour.ArrangedAs config pagesOf ∧ pages = tour.locales.flatMap pagesOf ∧
        ∀ part ∈ tour.locales, part.pages config = .ok (pagesOf part) := by
  obtain ⟨pagesOf, arranged, made⟩ :=
    tour.exists_arrangedAs (isCounted_of_read read).2 config
  have each :
      List.Forall₂ (fun part block => part.pages config = .ok block)
        tour.locales
        (tour.locales.map pagesOf) :=
    forall₂_of_mapM_eq_ok (fun _ _ _ ok => ok) made
  rw [List.forall₂_map_right_iff, List.forall₂_same] at each
  exact ⟨pagesOf, arranged, ((Tour.pages_eq_ok_iff made).mp paged).1, each⟩

/-- What is told of the pages: all that there is to it is how lessons are
told. -/
theorem ofPages_eq (read : Tour.read tree source scanned = .ok tour)
    {pagesOf : LocaleTour → List Page}
    (arranged : tour.ArrangedAs config pagesOf)
    (same : pages = tour.locales.flatMap pagesOf)
    (each : ∀ part ∈ tour.locales, part.pages config = .ok (pagesOf part)) :
    Inventory.ofPages pages =
      Inventory.listing tour.locales
        (fun part =>
          Inventory.namesWith part config (part.lessons.map Lesson.told))
        pagesOf ++ Inventory.closing pages := by
  have distinct : (tour.locales.map LocaleTour.locale).Nodup := by
    rw [(isCounted_of_read read).1]
    decide
  have some_ : ∀ part ∈ tour.locales, pagesOf part ≠ [] := by
    intro part isPart
    obtain ⟨opening, inner, outer, block, -⟩ := arranged part isPart
    rw [block]
    exact List.cons_ne_nil _ _
  have locale :
      ∀ part ∈ tour.locales,
        ∀ page ∈ pagesOf part, page.locale = part.locale := by
    intro part isPart
    obtain ⟨opening, inner, outer, block, fits⟩ := arranged part isPart
    rw [block]
    exact fits.locale
  have blocks : ∀ part ∈ tour.locales, (pagesOf part).map Inventory.pageLine =
      Inventory.listed
        (Inventory.namesWith part config (part.lessons.map Lesson.told))
        (pagesOf part) := by
    intro part isPart
    rw [← LocaleTour.map_pageLabel (each part isPart), Inventory.listed,
      List.zipWith_map_left, List.zipWith_self]
    rfl
  have lines := Inventory.pageLines_flatMap distinct some_ locale
  rw [List.map_congr_left blocks, ← same] at lines
  rw [Inventory.ofPages, lines]
  rfl

/-- After a build there is a line for every page of a scanned tour in the order
of the pages, with an empty line between locales: the page each locale opens
with, its lessons with their numbers, and its table of contents by its title,
each before its file.  That is so just when no lesson's path ends like that of a
table of contents.  The numbers are those that lessons have in what is told
after the scan, and they are written with three digits or, from a thousand on,
with as many as it takes. -/
theorem listsPages_iff (read : Tour.read tree source scanned = .ok tour)
    (paged : tour.pages config = .ok pages) :
    (∃ pagesOf,
      tour.ArrangedAs config pagesOf ∧ pages = tour.locales.flatMap pagesOf ∧
        (∀ part ∈ tour.locales,
          (Inventory.namesWith part config part.numberedLessons).length =
            (pagesOf part).length) ∧
        (Inventory.ofPages pages =
            Inventory.listing tour.locales
                (fun part =>
                  Inventory.namesWith part config part.numberedLessons)
                pagesOf ++
              Inventory.closing pages ↔
          ∀ lesson ∈ tour.lessons,
            Text.endsWith contentsPageName (slugSegment lesson.lesson) =
              false)) ∧
    (∀ (files : FileTree) (root : String),
      (Inventory.ofTour tour (Inventory.settingFiles files root)).filter
          Inventory.isLessonLine =
        tour.locales.flatMap fun part =>
          part.numberedLessons.map (Inventory.indent 1 ++ ·)) ∧
    ∀ number, IsNumeral (Inventory.position number) number ∧
      (Inventory.position number).length = max 3 (toString number).length := by
  have counted := (isCounted_of_read read).2
  obtain ⟨pagesOf, arranged, same, each⟩ := exists_pagesOf read paged
  have numbered :
      ∀ part ∈ tour.locales,
        part.numberedLessons = part.lessons.map Lesson.numbered :=
    fun part isPart => (counted part isPart).numberedLessons_eq
  have told : ∀ part ∈ tour.locales,
      (Inventory.namesWith part config (part.lessons.map Lesson.told)).length =
        (pagesOf part).length := by
    intro part isPart
    rw [← LocaleTour.map_pageLabel (each part isPart), List.length_map]
  have length : ∀ part ∈ tour.locales,
      (Inventory.namesWith part config part.numberedLessons).length =
        (pagesOf part).length := by
    intro part isPart
    rw [← told part isPart]
    exact Inventory.length_namesWith
      (by rw [numbered part isPart, List.length_map, List.length_map])
  refine ⟨⟨pagesOf, arranged, same, length, ?_⟩, ?_, ?_⟩
  · rw [ofPages_eq read arranged same each, List.append_left_inj,
      Inventory.listing_eq_iff told length, Tour.lessons]
    simp only [List.forall_mem_flatMap, Inventory.namesWith_inj]
    refine forall₂_congr fun part isPart => ?_
    rw [numbered part isPart, List.map_inj_left]
    exact forall₂_congr fun lesson _ => Lesson.told_eq_numbered_iff
  · intro files root
    rw [Inventory.filter_ofTour, List.flatMap_def, List.flatMap_def]
    refine congrArg List.flatten (List.map_congr_left fun part isPart => ?_)
    rw [numbered part isPart, List.map_map]
    rfl
  · exact fun number =>
      ⟨Inventory.isNumeral_position number, Inventory.length_position number⟩

theorem listsPages_iff_smallTour :
    Tour.read (smallTree plainChapter.name) "tour" .stock =
        .ok (smallTour plainChapter) ∧
      (smallTour plainChapter).pages .stock = .ok (smallPages plainChapter) ∧
      ∃ pagesOf, (smallTour plainChapter).ArrangedAs .stock pagesOf ∧
        Inventory.ofPages (smallPages plainChapter) =
          Inventory.listing (smallTour plainChapter).locales
            (fun part => Inventory.namesWith part .stock part.numberedLessons)
            pagesOf ++
              Inventory.closing (smallPages plainChapter) := by
  have read :
      Tour.read (smallTree plainChapter.name) "tour" .stock =
        .ok (smallTour plainChapter) :=
    read_smallTree (.inl rfl)
  have paged :
      (smallTour plainChapter).pages .stock = .ok (smallPages plainChapter) :=
    pages_smallTour (.inl rfl)
  obtain ⟨⟨pagesOf, arranged, -, -, lists⟩, -⟩ := listsPages_iff read paged
  exact ⟨read, paged, pagesOf, arranged, lists.mpr (by decide +kernel)⟩

/-- A lesson that is told with its number after the scan and without it after
the build. -/
theorem not_listsPages_strayTour :
    Tour.read strayTree "tour" .stock = .ok strayTour ∧
      ∃ pages, strayTour.pages .stock = .ok pages ∧
        ∃ lesson ∈ strayTour.lessons, ∃ page ∈ pages, page.path = lesson.slug ∧
          Inventory.indent 1 ++ lesson.numbered ∈
            Inventory.ofTour strayTour
              (Inventory.settingFiles strayTree "tour") ∧
          lesson.numbered ++ " → " ++ page.htmlPath ∉ Inventory.ofPages pages ∧
          lesson.lesson ++ " → " ++ page.htmlPath ∈
            Inventory.ofPages pages := by
  have found : ∃ pages ∈ (strayTour.pages .stock).toOption,
      ∃ lesson ∈ strayTour.lessons, ∃ page ∈ pages, page.path = lesson.slug ∧
        Inventory.indent 1 ++ lesson.numbered ∈
          Inventory.ofTour strayTour (Inventory.settingFiles strayTree "tour") ∧
        lesson.numbered ++ " → " ++ page.htmlPath ∉ Inventory.ofPages pages ∧
        lesson.lesson ++ " → " ++ page.htmlPath ∈ Inventory.ofPages pages := by
    decide +kernel
  obtain ⟨pages, made, told⟩ := found
  exact ⟨read_strayTour, pages, eq_ok_of_toOption made, told⟩

end Tour

end LessonSite
