import LessonSite.Proofs.Lists
import LessonSite.Proofs.Site.Loading
import LessonSite.Proofs.Site.Weights

/-!
# Pages that can be loaded

The route state of a page tells which page it is.  When a page is loaded from a
finished site, its own file has been read, and the way there from the names of
the page has lost nothing of them.
-/

namespace LessonSite

open FileTree

/-- The address of the page itself, among the links to its two languages. -/
def Page.ownHref (page : Page) : String :=
  match page.locale with
  | .en => page.enHref
  | .zh => page.zhHref

theorem Locale.unprefixed_prefixed (locale : Locale) (path : String) :
    locale.unprefixed (locale.prefixed path) = path := by
  cases locale with
  | en => rfl
  | zh =>
      by_cases empty : path = ""
      · subst empty
        rfl
      · have apart : "zh" ++ "/" ++ path ≠ "zh" := by
          intro same
          have lengths := congrArg String.length same
          simp only [String.length_append] at lengths
          have two : "zh".length = 2 := rfl
          have one : "/".length = 1 := rfl
          omega
        have after :
            Text.afterStart? ("zh" ++ "/") ("zh" ++ "/" ++ path) =
              some path := by
          rw [Text.afterStart?,
            Text.stripStart?_eq_some_iff.mpr String.toList_append,
            Option.map_some, String.ofList_toList]
        simp only [prefixed, unprefixed, slugPrefix?, empty, if_false, apart,
          after, Option.getD_some]

theorem PageFrame.ownHref_page (frame : PageFrame)
    (path title markdown code back next : String) (index total : Nat) :
    (frame.page (frame.locale.prefixed path) title markdown code back next index
        total).ownHref =
      (frame.page (frame.locale.prefixed path) title markdown code back
        next index total).href := by
  have again :
      frame.locale.prefixed
          (frame.locale.unprefixed (frame.locale.prefixed path)) =
        frame.locale.prefixed path := by rw [Locale.unprefixed_prefixed]
  unfold Page.ownHref PageFrame.page Page.href
  cases locale : frame.locale with
  | en =>
      rw [locale] at again
      exact congrArg pageHref again
  | zh =>
      rw [locale] at again
      exact congrArg pageHref again

theorem LocaleTour.Makes.ownHref_eq {part : LocaleTour} {config : Config}
    {page : Page} (made : part.Makes config page)
    (same : ∀ lesson ∈ part.lessons, lesson.locale = part.locale) :
    page.ownHref = page.href := by
  cases made with
  | home first => exact (part.frame config).ownHref_page _ _ _ _ _ _ _ _
  | lesson member previous next =>
      rw [PageFrame.lessonPage, Lesson.slug, lessonSlug, same _ member]
      exact (part.frame config).ownHref_page _ _ _ _ _ _ _ _
  | contents => exact (part.frame config).ownHref_page _ _ _ _ _ _ _ _

/-- Every page of a tour is linked as the page of its own language. -/
theorem Tour.ownHref_pages {tree : FileTree}
    (proper : (FileNode.directory tree).IsProper)
    {source : String} {config : Config} {tour : Tour} {pages : List Page}
    (read : Tour.read tree source config = .ok tour)
    (paged : tour.pages config = .ok pages) :
    ∀ page ∈ pages, page.ownHref = page.href := by
  obtain ⟨_, _, _, _, _, named⟩ := Tour.read_eq_ok proper read
  intro page member
  obtain ⟨part, isLocale, made⟩ := Tour.exists_makes paged member
  exact made.ownHref_eq fun lesson isLesson =>
    (named part isLocale lesson isLesson).locale_eq

theorem pageHref_injective {path other : String}
    (same : pageHref path = pageHref other) :
    path = other := by
  have file :
      ∀ {directory : String},
        fileIn directory "index.html" = "index.html" → directory = "" := by
    intro directory whole
    unfold fileIn at whole
    split at whole
    · assumption
    · have lengths := congrArg String.length whole
      simp only [String.length_append] at lengths
      have one : "/".length = 1 := rfl
      omega
  have files : fileIn path "index.html" = fileIn other "index.html" := by
    have characters := congrArg String.toList same
    simp only [pageHref, String.toList_append] at characters
    exact String.toList_inj.mp (List.append_cancel_left characters)
  by_cases top : path = ""
  · subst top
    exact (file files.symm).symm
  · by_cases otherTop : other = ""
    · subst otherTop
      exact file files
    · rw [fileIn, fileIn, if_neg top, if_neg otherTop] at files
      have characters := congrArg String.toList files
      simp only [String.toList_append] at characters
      exact String.toList_inj.mp
        (List.append_cancel_right (List.append_cancel_right characters))

theorem PagesPlaced.eq_of_routeState {pages : List Page}
    (placed : PagesPlaced pages)
    (own : ∀ page ∈ pages, page.ownHref = page.href) {page other : Page}
    (member : page ∈ pages)
    (isPage : other ∈ pages) (same : page.routeState = other.routeState) :
    page = other := by
  have label : page.locale.label = other.locale.label :=
    congrArg RouteState.locale same
  have locale : page.locale = other.locale := by
    revert label
    cases page.locale <;> cases other.locale <;> decide
  have english : page.enHref = other.enHref := congrArg RouteState.enHref same
  have chinese : page.zhHref = other.zhHref := congrArg RouteState.zhHref same
  have href : page.ownHref = other.ownHref := by
    unfold Page.ownHref
    rw [locale, english, chinese]
  rw [own page member, own other isPage] at href
  exact eq_of_map_eq_of_nodup placed.distinct member isPage
    (pageHref_injective href)

theorem Source.exists_of_readFile {tree : FileTree}
    {directory : String} {url : Url}
    {state : RouteState} (ok : readFile tree directory url = .ok state) :
    ∃ bytes path content,
      fileFor? (Url.tidyPath (workplace ++ directory)) url = some bytes ∧
        Utf8.decode? bytes = some (workplace ++ path) ∧
        tree.read path = .ok content ∧
          (Utf8.decode? content).bind RouteState.read? = some state := by
  unfold readFile at ok
  split at ok
  · cases ok
  · next bytes named =>
      split at ok
      · cases ok
      · next path below =>
          obtain ⟨text, decoded, after⟩ := Option.bind_eq_some_iff.mp below
          obtain ⟨rest, starts, same⟩ := Option.map_eq_some_iff.mp after
          have spelled : text = workplace ++ path := by
            apply String.toList_inj.mp
            rw [Text.stripStart?_eq_some_iff.mp starts, String.toList_append,
              ← same, String.toList_ofList]
          split at ok
          · cases ok
          · next content read =>
              split at ok
              · next found =>
                  cases ok
                  exact ⟨bytes, path, content, named, spelled ▸ decoded, read,
                    found⟩
              · cases ok

section Finished

variable {template : Template} {pages : List Page}
  {made : List (Page × PagePart)} {after : FileTree}

theorem Made.exists_task {before tree : FileTree} {top : List String}
    (holds : Made template before top made tree) {inner : List String}
    {content : List UInt8}
    (file : tree.kind? (top ++ inner) = some (.file content)) :
    ∃ task ∈ made, (inner, content) ∈ Page.madeFiles template task := by
  rw [holds.inside] at file
  split at file
  · cases file
  · obtain ⟨bytes, found, same⟩ := Option.map_eq_some_iff.mp file
    cases same
    exact List.mem_flatMap.mp (mem_of_lookup found)

theorem Made.linkFree (holds : Made template emptySite ["dist"] made after) :
    after.LinkFree := by
  intro place target
  by_cases below : ["dist"] <+: place
  · obtain ⟨inner, rfl⟩ := below
    rw [holds.inside]
    split
    · simp
    · cases List.lookup inner (made.flatMap (Page.madeFiles template)) <;> simp
  · rw [holds.outside place below]
    intro link
    cases (kind?_emptySite link).1

/-- A file of a route state has been written for a page with this route
state. -/
theorem Made.exists_page_of_read
    (holds : Made ⟨[], []⟩ emptySite ["dist"] made after) {path : String}
    {content : List UInt8} {state : RouteState}
    (read : after.read path = .ok content)
    (decoded : (Utf8.decode? content).bind RouteState.read? = some state) :
    ∃ page place, (page, PagePart.json) ∈ made ∧ page.place? = some place ∧
      after.resolve path = .ok (["dist"] ++ (place ++ ["index.json"])) ∧
        content = Utf8.encode page.routeState.write := by
  obtain ⟨target, resolved⟩ : ∃ target, after.resolve path = .ok target := by
    cases found : after.resolve path with
    | ok target => exact ⟨target, rfl⟩
    | error fault => simp [FileTree.read, FileTree.node, found] at read
  have file := kind?_of_read resolved read
  have below : ["dist"] <+: target := by
    refine Decidable.of_not_not fun outside => ?_
    rw [holds.outside target outside] at file
    cases (kind?_emptySite file).1
  obtain ⟨inner, rfl⟩ := below
  obtain ⟨⟨page, part⟩, isMade, inside⟩ := holds.exists_task file
  cases part with
  | directory => cases inside
  | html =>
      obtain ⟨place, -, same⟩ := List.mem_map.mp inside
      cases same
      have empty :
          (Utf8.decode? (Utf8.encode "")).bind RouteState.read? = some state :=
        decoded
      rw [Utf8.decode?_encode, Option.bind_some,
        RouteState.read?_empty] at empty
      cases empty
  | json =>
      obtain ⟨place, here, same⟩ := List.mem_map.mp inside
      cases same
      exact ⟨page, place, isMade, Option.mem_toList.mp here, resolved, rfl⟩

end Finished

/-- An ordinary address of a site. -/
def httpSite (name : String) : Url where
  scheme := "http"
  username := ""
  password := ""
  host := some (.domain name)
  port := none
  path := .rooted [""]
  query := none
  fragment := none

theorem isHttp_httpSite {name : String}
    (back : (Url.Host.domain name).ReadsBack) :
    (httpSite name).IsHttp where
  scheme := .inl rfl
  username := rfl
  password := rfl
  host := ⟨_, rfl, back⟩
  port := by
    intro port hasPort
    cases hasPort
  rooted := rfl

theorem Url.exists_dataSegments (segments : List String) :
    ∃ front, dataSegments segments = front ++ ["index.json"] := by
  unfold dataSegments
  split
  · exact ⟨_, rfl⟩
  · exact ⟨_, rfl⟩

theorem PlaceNames.isPlain {names place : List String}
    (spelled : PlaceNames names place)
    (plain : ∀ name ∈ place, Url.IsPlain name) :
    ∀ name ∈ names, Url.IsPlain name := by
  have here : Url.IsPlain "." := by decide
  have above : Url.IsPlain ".." := by decide
  have chinese : Url.IsPlain "zh" := by decide
  cases spelled with
  | same => exact plain
  | @here locale lesson isName =>
      intro name member
      rcases List.mem_append.mp member with first | last
      · exact plain name (List.mem_append_left _ first)
      · simp only [List.mem_cons, List.not_mem_nil, or_false] at last
        rcases last with rfl | rfl
        · exact here
        · exact plain name (List.mem_append_right _ List.mem_cons_self)
  | above isName =>
      intro name member
      simp only [List.mem_cons, List.not_mem_nil, or_false] at member
      rcases member with rfl | rfl | rfl
      · exact chinese
      · exact above
      · exact plain name List.mem_cons_self

/-- A site in the small tree from which every page can be loaded, wherever it is
served. -/
structure LoadedSite (pages : List Page) (made : List (Page × PagePart))
    (after : FileTree) : Prop where
  placed : PagesPlaced pages
  separate : Separate pages
  own : ∀ page ∈ pages, page.ownHref = page.href
  holds : Made ⟨[], []⟩ emptySite ["dist"] made after
  ours : ∀ task ∈ made, task.1 ∈ pages
  loads : ∀ origin : Url, origin.IsHttp → ∀ page ∈ pages, ∀ other ∈ pages,
    Loads after "dist" origin page other

namespace LoadedSite

variable {pages : List Page} {made : List (Page × PagePart)} {after : FileTree}
  {page : Page} {place : List String}

/-- The page at the top of the site, and where it stands. -/
theorem exists_home (site : LoadedSite pages made after) :
    ∃ home ∈ pages, ∀ origin : Url, origin.IsHttp →
      origin.join home.href = .ok (origin.withPathFrom [] (hrefTail [])) := by
  obtain ⟨home, member, path⟩ := site.placed.home
  have names := Page.IsPlaced.names_of_empty path
  refine ⟨home, member, fun origin isHttp => ?_⟩
  have spelled : PlaceNames home.names [] := by
    rw [names]
    exact .same (by simp)
  refine isHttp.join_href (site.placed.isPlaced home member) spelled ?_
  rw [names]
  exact Url.head?_hrefTail_of_isPlain (by simp)

theorem exists_request (site : LoadedSite pages made after)
    (member : page ∈ pages) {origin : Url} (isHttp : origin.IsHttp) :
    ∃ target request,
      (origin.withPathFrom [] (hrefTail [])).join page.href = .ok target ∧
        target.sameSite (origin.withPathFrom [] (hrefTail [])) = true ∧
        target.routeData = .ok request ∧
        Source.readFile after "dist" request = .ok page.routeState := by
  obtain ⟨home, isHome, stands⟩ := site.exists_home
  obtain ⟨location, target, request, here, parts⟩ :=
    loads_iff.mp (site.loads origin isHttp home isHome page member)
  cases (stands origin isHttp).symm.trans here
  exact ⟨target, request, parts⟩

theorem isHttp_a : (httpSite "a").IsHttp :=
  isHttp_httpSite (eq_ok_of_toOption (by decide +kernel))

theorem isHttp_b : (httpSite "b").IsHttp :=
  isHttp_httpSite (eq_ok_of_toOption (by decide +kernel))

theorem isCounted (site : LoadedSite pages made after) (member : page ∈ pages) :
    page.routeState.IsCounted := by
  obtain ⟨target, request, -, -, -, read⟩ := site.exists_request member isHttp_a
  obtain ⟨_, _, content, -, -, -, found⟩ := Source.exists_of_readFile read
  obtain ⟨text, -, state⟩ := Option.bind_eq_some_iff.mp found
  exact RouteState.isCounted_of_read? state

/-- The address of a page does not lead to another site: it would lead there
from everywhere. -/
theorem begins (site : LoadedSite pages made after) (member : page ∈ pages) :
    ∀ first ∈ (hrefTail page.names).head?, Url.isSlash true first = false := by
  intro first isFirst
  rw [← Bool.not_eq_true]
  intro slash
  obtain ⟨rest, spelled⟩ := List.head?_eq_some_iff.mp isFirst
  have text := significant_href (site.placed.isPlaced page member)
  rw [spelled] at text
  obtain ⟨input, elsewhere⟩ := Url.exists_join_slashes text slash
  have reaches : ∀ {origin : Url}, origin.IsHttp → origin.scheme = "http" →
      ∃ target,
        Url.readFromAuthority "http" input = .ok target ∧
          target.origin? = origin.origin? := by
    intro origin isHttp scheme
    have standing := isHttp.withPathFrom [] (hrefTail [])
    obtain ⟨target, _, joined, same, -⟩ := site.exists_request member isHttp
    have there : Url.readFromAuthority "http" input = .ok target := by
      rw [← joined, elsewhere _ standing]
      exact congrArg (Url.readFromAuthority · input) scheme.symm
    obtain ⟨_, isOrigin, alsoHere⟩ := Url.sameSite_iff.mp same
    obtain ⟨_, here, above⟩ :=
      Url.sameSite_iff.mp (isHttp.sameSite [] (hrefTail []))
    refine ⟨target, there, ?_⟩
    rw [isOrigin, ← alsoHere, here, above]
  obtain ⟨target, read, first⟩ := reaches isHttp_a rfl
  obtain ⟨other, again, second⟩ := reaches isHttp_b rfl
  cases read.symm.trans again
  have apart : (httpSite "a").origin? ≠ (httpSite "b").origin? := by
    decide +kernel
  exact apart (first.symm.trans second)

/-- The file of a page that is loaded is its own, so its path says all that the
names say. -/
theorem exists_bytes (site : LoadedSite pages made after)
    (member : page ∈ pages) (here : page.place? = some place) {url : Url}
    (read : Source.readFile after "dist" url = .ok page.routeState) :
    ∃ bytes,
      fileFor? (Url.tidyPath (Source.workplace ++ "dist")) url = some bytes ∧
        Url.namesWeight place + 18 ≤ Url.weight bytes := by
  obtain ⟨bytes, path, content, named, decoded, file, state⟩ :=
    Source.exists_of_readFile read
  obtain ⟨other, otherPlace, isMade, there, resolved, text⟩ :=
    site.holds.exists_page_of_read file state
  have isPage := site.ours _ isMade
  rw [text, Utf8.decode?_encode, Option.bind_some,
    RouteState.read?_write (site.isCounted isPage)] at state
  obtain rfl :=
    site.placed.eq_of_routeState site.own isPage member (Option.some.inj state)
  cases here.symm.trans there
  obtain ⟨-, -, -, left, leads⟩ := resolve_eq_ok_iff.mp resolved
  have way := Url.namesWeight_walk_le [] (pathNames path)
  rw [← leads.eq_walk site.holds.linkFree, Url.namesWeight_pathNames] at way
  have ends :
      Url.namesWeight ["dist"] = 4 ∧ Url.namesWeight ["index.json"] = 10 ∧
        Url.weight (Utf8.encode Source.workplace) = 4 := by decide
  have whole : Url.weight bytes = 4 + Url.weight (Utf8.encode path) := by
    rw [← Utf8.encode_of_decode? decoded, Utf8.encode_append, Url.weight_append,
      ends.2.2]
  refine ⟨bytes, named, ?_⟩
  rw [Url.namesWeight_append, Url.namesWeight_append, Url.namesWeight_nil,
    ends.1, ends.2.1] at way
  omega

/-- Nothing of the names of a page is lost in the address of its route state. -/
theorem exists_segments (site : LoadedSite pages made after)
    (member : page ∈ pages) (spelled : PlaceNames page.names place) :
    ∃ base : Url, base.IsHttp ∧ ∃ segments front,
      (base.withPathFrom [] (hrefTail place)).path = .rooted segments ∧
      Url.dataSegments segments = front ++ ["index.json"] ∧
      (∀ name ∈ place, Url.IsPlain name) ∧
        ∀ first ∈ (front.dropWhile (· == "") ++ ["index.json"]).head?,
          Url.IsRelative first := by
  have standing := isHttp_a.withPathFrom [] (hrefTail [])
  obtain ⟨target, request, joined, -, asked, read⟩ :=
    site.exists_request member isHttp_a
  rw [standing.join_href (site.placed.isPlaced page member) spelled
    (site.begins member)] at joined
  cases joined
  obtain ⟨segments, path, some_, -, written⟩ :=
    standing.exists_path (hrefTail place)
  rw [(standing.withPathFrom [] (hrefTail place)).isHosted.routeData path some_
    written] at asked
  cases asked
  obtain ⟨front, data⟩ := Url.exists_dataSegments segments
  obtain ⟨bytes, named, heavy⟩ :=
    site.exists_bytes member spelled.place?_eq read
  have isWritten := Url.isWritten_dataSegments written
  have compared := standing.segmentsWeight_dataSegments path
  have names :
      Url.namesWeight
        (Url.pathNames (Url.tidyPath (Source.workplace ++ "dist"))) = 8 := by
    rw [pathNames_workplace]
    decide
  have file := Url.weight_fileFor? (by rw [names]; decide)
    (show (Url.onSite _ (Url.dataSegments segments)).path =
      .rooted (front ++ ["index.json"]) from
      congrArg Url.Path.rooted data) (data ▸ isWritten) named
  rw [names, ← data] at file
  refine ⟨_, standing, segments, front, path, data, ?_⟩
  rcases compared with less | ⟨le, plain⟩
  · omega
  · rcases file with less | ⟨-, relative⟩
    · omega
    · exact ⟨plain, relative⟩

theorem isReadable (site : LoadedSite pages made after)
    (member : page ∈ pages) :
    page.IsReadable := by
  obtain ⟨place, spelled⟩ := site.separate.placeNames site.placed member
  obtain ⟨base, isHttp, segments, front, path, data, plain, begins⟩ :=
    site.exists_segments member spelled
  refine ⟨spelled.isPlain plain, ?_, site.isCounted member⟩
  intro other isPlace first isFirst
  cases spelled.place?_eq.symm.trans (Option.mem_def.mp isPlace)
  obtain ⟨others, rfl⟩ := List.head?_eq_some_iff.mp isFirst
  have inside :
      ∀ name ∈ first :: others,
        Url.IsPlain name ∧ IsName name ∧ '/' ∉ name.toList := by
    intro name isName
    obtain ⟨named, inNames⟩ := spelled.mem name isName
    exact ⟨plain name isName, named,
      ((site.placed.isPlaced page member).isSegment name inNames).noSlash⟩
  have stands := isHttp.withPathFrom_hrefTail inside []
  rw [stands] at path
  cases path
  rw [Url.dataSegments_concat, if_pos (.inr rfl)] at data
  obtain ⟨rfl, -⟩ := List.append_inj' data rfl
  obtain ⟨isPlain, isName, -⟩ := inside first List.mem_cons_self
  have visible := Url.pathSegment_ne_empty isPlain isName.ne_empty
  refine (Url.isRelative_pathSegment isPlain).mp (begins _ ?_)
  rw [List.nil_append, List.map_cons,
    List.dropWhile_cons_of_neg (by simpa using visible)]
  rfl

end LoadedSite

end LessonSite
