import LessonSite.Proofs.Site.Separation
import LessonSite.Proofs.Url.Join

/-!
# Addresses of pages

A page of a site whose pages are separate is reached under the names of its
place, in whichever way its path is written.
-/

namespace LessonSite

open FileTree

/-- The names of a page on a site with separate pages, and those of its
place. -/
inductive PlaceNames : List String → List String → Prop where
  | same {names : List String} (isName : ∀ name ∈ names, IsName name) :
      PlaceNames names names
  | here (locale : Locale) {lesson : String} (isName : IsName lesson) :
      PlaceNames (locale.names ++ [".", lesson]) (locale.names ++ [lesson])
  | above {lesson : String} (isName : IsName lesson) :
      PlaceNames ["zh", "..", lesson] [lesson]

theorem PlaceNames.place?_eq {page : Page} {place : List String}
    (names : PlaceNames page.names place) :
    page.place? = some place := by
  unfold Page.place?
  generalize page.names = spelled at names
  cases names with
  | same isName => exact walkFrom?_of_isName isName []
  | here locale isName =>
      rw [walkFrom?_append, walkFrom?_localeNames, Option.bind_some, walkFrom?,
        stepFrom?_stay (.inr rfl), Option.bind_some, walkFrom?,
        stepFrom?_name isName]
      rfl
  | above isName =>
      have up : walkFrom? [] ["zh", ".."] = some [] := rfl
      rw [show ["zh", "..", _] = ["zh", ".."] ++ [_] from rfl, walkFrom?_append,
        up, Option.bind_some, walkFrom?, stepFrom?_name isName]
      rfl

theorem isName_localeNames (locale : Locale) :
    ∀ name ∈ locale.names, IsName name := by
  cases locale <;> decide

theorem Separate.placeNames {pages : List Page} (placed : PagesPlaced pages)
    (separate : Separate pages) {page : Page} (member : page ∈ pages) :
    ∃ place, PlaceNames page.names place := by
  have isPlaced := placed.isPlaced page member
  have ends := separate.ends page member
  have inside := separate.inside page member
  have unlike :=
    @PagesPlaced.place?_ne_home _ placed separate.distinct page member
  have place := isPlaced.place
  unfold Page.place? at inside unlike
  generalize page.names = names at place ends inside unlike
  cases place with
  | home locale => exact ⟨_, .same (isName_localeNames locale)⟩
  | contents locale =>
      refine ⟨_, .same ?_⟩
      intro name member
      rcases List.mem_append.mp member with first | last
      · exact isName_localeNames locale name first
      · cases List.mem_singleton.mp last
        decide
  | @lesson locale chapter lesson isChapter isLesson =>
      have moves :
          ∀ {name : String}, IsSegment name → staysAt name → name = "." := by
        intro name isSegment stays
        exact stays.resolve_left isSegment.ne_empty
      have way : walkFrom? [] (locale.names ++ [chapter, lesson]) =
          walkFrom? locale.names [chapter, lesson] := by
        rw [walkFrom?_append, walkFrom?_localeNames, Option.bind_some]
      have notLast : ¬staysAt lesson := by
        intro stays
        refine ends ?_
        rw [moves isLesson stays]
        simp
      rcases name_cases chapter with stays | rfl | chapterIsName
      · obtain rfl := moves isChapter stays
        rcases name_cases lesson with lessonStays | rfl | isName
        · exact absurd lessonStays notLast
        · cases locale with
          | en => cases inside
          | zh => exact absurd rfl (unlike rfl .en)
        · exact ⟨_, .here locale isName⟩
      · cases locale with
        | en => cases inside
        | zh =>
            rcases name_cases lesson with lessonStays | rfl | isName
            · exact absurd lessonStays notLast
            · cases inside
            · exact ⟨_, .above isName⟩
      · rcases name_cases lesson with lessonStays | rfl | isName
        · exact absurd lessonStays notLast
        · have back :
              walkFrom? locale.names [chapter, ".."] = some locale.names := by
            rw [walkFrom?, stepFrom?_name chapterIsName, Option.bind_some,
              walkFrom?, stepFrom?_up (by simp), Option.bind_some,
              List.dropLast_concat]
            rfl
          exact absurd (way.trans back) (unlike rfl locale)
        · refine ⟨_, .same ?_⟩
          intro name member
          rcases List.mem_append.mp member with first | last
          · exact isName_localeNames locale name first
          · simp only [List.mem_cons, List.not_mem_nil, or_false] at last
            rcases last with rfl | rfl
            · exact chapterIsName
            · exact isName

/-- The characters of a name that count in an address. -/
def counted (name : String) : List Char :=
  name.toList.filter fun character => !Url.isIgnored character

/-- The characters that count in the address of the page with some names, after
the first slash. -/
def hrefTail (names : List String) : List Char :=
  names.flatMap (fun name => counted name ++ ['/']) ++ "index.html".toList

theorem hrefTail_cons (name : String) (names : List String) :
    hrefTail (name :: names) = counted name ++ '/' :: hrefTail names := by
  simp [hrefTail]

theorem toList_joinNames_concat (names : List String) (file : String) :
    (joinNames (names ++ [file])).toList =
      names.flatMap (fun name => name.toList ++ ['/']) ++ file.toList := by
  induction names with
  | nil => rfl
  | cons name names induction =>
      obtain ⟨next, others, spelled⟩ :=
        List.exists_cons_of_ne_nil (show names ++ [file] ≠ [] by simp)
      rw [List.cons_append, spelled, joinNames, ← spelled, String.toList_append,
        String.toList_append, induction, List.flatMap_cons]
      simp only [List.append_assoc]
      rfl

theorem Page.IsPlaced.href_eq {page : Page} (placed : page.IsPlaced) :
    page.href = "/" ++ joinNames (page.names ++ ["index.html"]) :=
  congrArg ("/" ++ ·) placed.htmlPath_eq

theorem significant_href {page : Page} (placed : page.IsPlaced) :
    Url.significant page.href = '/' :: hrefTail page.names := by
  have text :
      page.href.toList =
        '/' :: (page.names.flatMap (fun name => name.toList ++ ['/']) ++
          "index.html".toList) := by
    rw [placed.href_eq, String.toList_append, toList_joinNames_concat]
    rfl
  have last : page.href.toList.getLast? = some 'l' := by
    rw [text, ← List.cons_append, List.getLast?_append]
    rfl
  rw [Url.significant, Url.trimChars_eq, text]
  · have kept :
        "index.html".toList.filter (fun character => !Url.isIgnored character) =
          "index.html".toList := by decide
    rw [List.filter_cons_of_pos (by decide), List.filter_append, kept,
      List.filter_flatMap, hrefTail]
    simp only [List.filter_append, counted]
    rfl
  · rw [text]
    intro character first
    cases first
    decide
  · rw [last]
    intro character isLast
    cases isLast
    decide

namespace Url

variable {base : Url}

theorem isInner_indexHtml : IsInner "index.html".toList := by
  decide

theorem IsHttp.withPathFrom_placeNames (isHttp : base.IsHttp)
    {names place : List String} (spelled : PlaceNames names place) :
    base.withPathFrom [] (hrefTail names) =
      base.withPathFrom [] (hrefTail place) := by
  have step :
      ∀ (directories : List String) (name : String) (rest : List String),
        IsInner (counted name) →
        base.withPathFrom directories (hrefTail (name :: rest)) =
          base.withPathFrom
            (enter directories (pathSegment (String.ofList (counted name))))
            (hrefTail rest) := by
    intro directories name rest inner
    rw [hrefTail_cons, isHttp.withPathFrom_slash directories inner]
  have here : ∀ (directories : List String) (rest : List String),
      base.withPathFrom directories (hrefTail ("." :: rest)) =
        base.withPathFrom directories (hrefTail rest) :=
    fun directories rest => step directories "." rest (by decide)
  have chinese : ∀ rest : List String,
      base.withPathFrom [] (hrefTail ("zh" :: rest)) =
        base.withPathFrom ["zh"] (hrefTail rest) :=
    fun rest => step [] "zh" rest (by decide)
  cases spelled with
  | same => rfl
  | @here locale lesson isName =>
      cases locale with
      | en => exact here [] [lesson]
      | zh =>
          change base.withPathFrom [] (hrefTail ["zh", ".", lesson]) =
            base.withPathFrom [] (hrefTail ["zh", lesson])
          rw [chinese, chinese, here]
  | @above lesson isName =>
      rw [chinese]
      exact step ["zh"] ".." [lesson] (by decide)

/-- The address of a page, unless it is taken for one on another site. -/
theorem IsHttp.join_href (isHttp : base.IsHttp) {page : Page}
    (placed : page.IsPlaced)
    {place : List String} (spelled : PlaceNames page.names place)
    (begins : ∀ first ∈ (hrefTail page.names).head?,
      isSlash true first = false) :
    base.join page.href = .ok (base.withPathFrom [] (hrefTail place)) := by
  rw [isHttp.join_slash (significant_href placed) begins,
    isHttp.withPathFrom_placeNames spelled]

theorem counted_of_isPlain {name : String} (plain : IsPlain name) :
    counted name = name.toList := by
  refine List.filter_eq_self.mpr ?_
  intro character member
  have noMark := plain.noMark character member
  simp only [isMark, List.contains_eq_mem, List.mem_cons, List.not_mem_nil,
    or_false, decide_eq_false_iff_not, not_or] at noMark
  simp [isIgnored, noMark]

theorem isInner_of_isPlain {name : String} (plain : IsPlain name)
    (noSlash : '/' ∉ name.toList) :
    IsInner name.toList := by
  intro character member
  have noMark := plain.noMark character member
  simp only [isMark, List.contains_eq_mem, List.mem_cons, List.not_mem_nil,
    or_false, decide_eq_false_iff_not, not_or] at noMark
  have different : character ≠ '/' := by
    rintro rfl
    exact noSlash member
  simp [isSlash, endsPath, different, noMark]

/-- A page with plain names stands where its place says. -/
theorem IsHttp.withPathFrom_hrefTail (isHttp : base.IsHttp)
    {place : List String}
    (plain : ∀ name ∈ place, IsPlain name ∧ IsName name ∧ '/' ∉ name.toList)
    (directories : List String) :
    base.withPathFrom directories (hrefTail place) =
      base.onSite (directories ++ place.map pathSegment ++ ["index.html"]) := by
  induction place generalizing directories with
  | nil =>
      have text : hrefTail [] = "index.html".toList := rfl
      have notFile : (base.scheme == "file") = false := by
        simpa using isHttp.isWeb.not_file
      have stays :
          ∀ character ∈ "index.html".toList, (!endsPath character) = true := by
        intro character member
        simp [(isInner_indexHtml character member).2]
      have single :
          splitPath true "index.html".toList = ["index.html"] := by decide
      have reached :
          walk false directories ["index.html"] =
            directories ++ ["index.html"] :=
        walk_last (.inl rfl) (by decide) (by decide)
      rw [Url.withPathFrom, text, takeWhile_of_all stays,
        dropWhile_of_all stays]
      simp only [resolvePath, notFile, isHttp.isWeb.isSpecial, single, reached,
        readTail, Bool.false_eq_true, if_false, List.map_nil, List.append_nil]
      rfl
  | cons name place induction =>
      obtain ⟨isPlain, isName, noSlash⟩ := plain name List.mem_cons_self
      have entered :
          enter directories (pathSegment name) =
            directories ++ [pathSegment name] := by
        rw [enter, isAbove_pathSegment isPlain isName.ne_up,
          isHere_pathSegment isPlain isName.ne_dot]
        rfl
      rw [hrefTail_cons, counted_of_isPlain isPlain,
        isHttp.withPathFrom_slash directories
          (isInner_of_isPlain isPlain noSlash),
        String.ofList_toList, entered,
        induction fun other member =>
          plain other (List.mem_cons_of_mem _ member)]
      simp

theorem head?_hrefTail_of_isPlain {names : List String}
    (plain : ∀ name ∈ names, IsPlain name ∧ IsSegment name) :
    ∀ first ∈ (hrefTail names).head?, isSlash true first = false := by
  intro first begins
  cases names with
  | nil =>
      cases begins
      decide
  | cons name names =>
      obtain ⟨isPlain, isSegment⟩ := plain name List.mem_cons_self
      obtain ⟨letter, letters, text⟩ :=
        List.exists_cons_of_ne_nil
          (show name.toList ≠ [] by simpa using isSegment.ne_empty)
      rw [hrefTail_cons, counted_of_isPlain isPlain, text] at begins
      have inner :=
        isInner_of_isPlain isPlain isSegment.noSlash letter
          (text ▸ List.mem_cons_self)
      cases begins
      exact inner.1

end Url

end LessonSite
