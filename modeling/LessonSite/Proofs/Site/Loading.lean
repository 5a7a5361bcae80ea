import LessonSite.Proofs.Client.Click
import LessonSite.Proofs.FileTree.Spelling
import LessonSite.Proofs.RouteState
import LessonSite.Proofs.Site.Hrefs
import LessonSite.Proofs.Url.FilePath

/-!
# Loading pages from the files of a site

The route state of a page is read from the file that has been written for it,
when the names of the page mean themselves in an address.
-/

namespace LessonSite

open FileTree

theorem pathNames_workplace (directory : String) :
    Url.pathNames (Url.tidyPath (Source.workplace ++ directory)) =
      "work" :: rootNames directory := by
  have spelled :
      Source.workplace ++ directory =
        "" ++ "/" ++ ("work" ++ "/" ++ directory) := by
    rw [Source.workplace, String.empty_append, ← String.append_assoc,
      ← String.append_assoc]
    rfl
  have work : pathNames "work" = ["work"] := by decide
  rw [Url.pathNames_tidyPath, Url.pathNames_eq, spelled, pathNames_append,
    pathNames_append, work, pathNames_empty]
  rfl

/-- A path below the working directory is found in the tree. -/
theorem afterStart?_workplace {names : List String} (some_ : names ≠ []) :
    Text.afterStart? Source.workplace ("/" ++ joinNames ("work" :: names)) =
      some (joinNames names) := by
  obtain ⟨name, others, rfl⟩ := List.exists_cons_of_ne_nil some_
  have text : ("/" ++ joinNames ("work" :: name :: others)).toList =
      Source.workplace.toList ++ (joinNames (name :: others)).toList := by
    rw [joinNames, String.toList_append, String.toList_append,
      String.toList_append, ← List.append_assoc, ← List.append_assoc]
    rfl
  rw [Text.afterStart?, Text.stripStart?_eq_some_iff.mpr text, Option.map_some,
    String.ofList_toList]

theorem plain_of_mem_rootNames {directory name : String}
    (plain : '\x00' ∉ directory.toList) (member : name ∈ rootNames directory) :
    name ≠ "" ∧ '/' ∉ name.toList ∧ '\x00' ∉ name.toList := by
  obtain ⟨isPart, moves⟩ := List.mem_filter.mp member
  refine ⟨fun empty => moves_iff.mp moves (.inl empty),
    Url.not_mem_of_mem_pathNames isPart, ?_⟩
  unfold pathNames Text.splitOn at isPart
  obtain ⟨part, found, rfl⟩ := List.mem_map.mp isPart
  rw [String.toList_ofList]
  intro nul
  exact plain (Text.mem_of_mem_splitChars found nul).1

/-- Names that a path can have lead where they lead from the top of the tree. -/
theorem resolve_joinNames {tree : FileTree} {names target : List String}
    {left : Nat} (some_ : names ≠ [])
    (plain : ∀ name ∈ names,
      name ≠ "" ∧ '/' ∉ name.toList ∧ '\x00' ∉ name.toList)
    (leads : Leads tree linkLimit [] names left target) :
    tree.resolve (joinNames names) = .ok target := by
  have parts : pathNames (joinNames names) = names :=
    pathNames_joinNames some_ fun name member => (plain name member).2.1
  have noNul : '\x00' ∉ (joinNames names).toList := by
    intro nul
    rcases mem_joinNames nul with slash | ⟨name, member, inside⟩
    · cases slash
    · exact (plain name member).2.2 inside
  have nonempty : joinNames names ≠ "" := by
    intro empty
    rw [empty, pathNames_empty] at parts
    exact (plain "" (parts ▸ List.mem_singleton_self _)).1 rfl
  have relative : Text.startsWith "/" (joinNames names) = false := by
    rw [← Bool.not_eq_true, Text.startsWith_iff]
    rintro ⟨rest, starts⟩
    have first :
        pathNames (joinNames names) = "" :: pathNames (String.ofList rest) := by
      have text : joinNames names = "" ++ "/" ++ String.ofList rest := by
        apply String.toList_inj.mp
        rw [starts]
        simp
      rw [text, pathNames_append, pathNames_empty]
      rfl
    rw [parts] at first
    exact (plain "" (first ▸ List.mem_cons_self)).1 rfl
  exact resolve_eq_ok_iff.mpr
    ⟨noNul, nonempty, relative, left, parts.symm ▸ leads⟩

theorem PlaceNames.mem {names place : List String}
    (spelled : PlaceNames names place) :
    ∀ name ∈ place, IsName name ∧ name ∈ names := by
  intro name member
  cases spelled with
  | same isName => exact ⟨isName name member, member⟩
  | here locale isName =>
      rcases List.mem_append.mp member with first | last
      · exact ⟨isName_localeNames locale name first,
          List.mem_append_left _ first⟩
      · cases List.mem_singleton.mp last
        exact ⟨isName, by simp⟩
  | above isName =>
      cases List.mem_singleton.mp member
      exact ⟨isName, by simp⟩

variable {before tree : FileTree} {directory : String} {top base : List String}
  {left : Nat}

/-- The file of a page is read by the path of its place. -/
theorem SiteRoot.read_place (root : SiteRoot before directory [] top base left)
    (grown : Extends before tree) {place : List String}
    (plain : ∀ name ∈ place, IsName name ∧ IsSegment name)
    {content : List UInt8}
    (there : tree.kind? (top ++ (place ++ ["index.json"])) =
      some (.file content)) :
    tree.read (joinNames (rootNames directory ++ (place ++ ["index.json"]))) =
      .ok content := by
  obtain ⟨noNul, -, -, spare, way⟩ := resolve_eq_ok_iff.mp root.resolved
  have inside :
      ∀ name ∈ place ++ ["index.json"], IsName name ∧ IsSegment name := by
    intro name member
    rcases List.mem_append.mp member with inner | last
    · exact plain name inner
    · cases List.mem_singleton.mp last
      exact ⟨isName_indexJson, isSegment_indexJson⟩
  have down :
      Leads tree spare top (place ++ ["index.json"]) spare
        (top ++ (place ++ ["index.json"])) :=
    leads_down
      (fun name member =>
        ⟨(inside name member).1, (inside name member).2.short⟩) there
  have leads := (way.mono grown).filter_moves.append down
  refine read_of_resolve (resolve_joinNames (by simp) ?_ leads) there
  intro name member
  rcases List.mem_append.mp member with outer | inner
  · exact plain_of_mem_rootNames noNul outer
  · obtain ⟨-, isSegment⟩ := inside name inner
    exact ⟨isSegment.ne_empty, isSegment.noSlash, isSegment.noNul⟩

/-- The file that an address names is read, and the route state in it. -/
theorem Source.readFile_eq_ok {url : Url} {names : List String}
    (some_ : names ≠ [])
    (bytes : fileFor? (Url.tidyPath (workplace ++ directory)) url =
      some
        (Url.pathBytes
          (("work" :: rootNames directory ++ names).map Utf8.encode)))
    {state : RouteState} (counted : state.IsCounted)
    (content : tree.read (joinNames (rootNames directory ++ names)) =
      .ok (Utf8.encode state.write)) :
    readFile tree directory url = .ok state := by
  have path :
      Utf8.decode?
          (Url.pathBytes
            (("work" :: rootNames directory ++ names).map Utf8.encode)) =
        some ("/" ++ joinNames ("work" :: (rootNames directory ++ names))) := by
    rw [List.cons_append, ← Url.encode_slash_joinNames (List.cons_ne_nil _ _),
      Utf8.decode?_encode]
  have below :=
    afterStart?_workplace
      (show rootNames directory ++ names ≠ [] by simp [some_])
  unfold readFile
  simp only [bytes, path, Option.bind_some, below, content, Utf8.decode?_encode,
    RouteState.read?_write counted]

/-- The names of a page mean themselves in its address, the path to it does not
begin like an address of its own, and its numbers are not too large. -/
structure Page.IsReadable (page : Page) : Prop where
  plain : ∀ name ∈ page.names, Url.IsPlain name
  relative : ∀ place ∈ page.place?, ∀ first ∈ place.head?, Url.IsRelative first
  counted : page.routeState.IsCounted

namespace Url

theorem pathSegment_ne_empty {name : String} (plain : IsPlain name)
    (nonempty : name ≠ "") :
    pathSegment name ≠ "" := by
  intro empty
  have bytes := unescape_pathSegment plain
  rw [empty] at bytes
  have same : Utf8.encode "" = Utf8.encode name := bytes
  exact nonempty (Utf8.encode_injective same).symm

theorem isRelative_pathSegment {name : String} (plain : IsPlain name) :
    IsRelative (pathSegment name) ↔ IsRelative name := by
  constructor
  · rintro ⟨nonempty, noScheme, noDrive⟩
    rw [splitScheme?_pathSegment] at noScheme
    rw [isDrive_pathSegment] at noDrive
    refine ⟨?_, noScheme, noDrive⟩
    rintro rfl
    exact nonempty rfl
  · rintro ⟨nonempty, noScheme, noDrive⟩
    exact ⟨pathSegment_ne_empty plain nonempty, by
        rwa [splitScheme?_pathSegment],
      by rwa [isDrive_pathSegment]⟩

theorem isRelative_indexJson : IsRelative "index.json" :=
  ⟨by decide, by decide, by decide⟩

theorem isWritten_pathSegment {name : String} (plain : IsPlain name)
    (isName : IsName name)
    (noSlash : '/' ∉ name.toList) : IsWritten (pathSegment name) := by
  have noBackslash : '\\' ∉ name.toList := fun member =>
    absurd (plain.noMark _ member) (by decide)
  have single :
      pathSegment name ∈ splitPath true (joinNames [name]).toList := by
    rw [splitPath_joinNames (by simp) (by simpa using noSlash)
      (by simpa using noBackslash)]
    exact List.mem_singleton_self _
  exact isWritten_of_mem_splitPath single
    (isHere_pathSegment plain isName.ne_dot)
    (isAbove_pathSegment plain isName.ne_up)

theorem isWritten_place {place : List String}
    (plain : ∀ name ∈ place, IsPlain name ∧ IsName name ∧ '/' ∉ name.toList)
    {file : String} (isFile : IsWritten file) :
    ∀ segment ∈ place.map pathSegment ++ [file], IsWritten segment := by
  intro segment member
  rcases List.mem_append.mp member with inner | last
  · obtain ⟨name, isName, rfl⟩ := List.mem_map.mp inner
    obtain ⟨isPlain, isName, noSlash⟩ := plain name isName
    exact isWritten_pathSegment isPlain isName noSlash
  · exact List.mem_singleton.mp last ▸ isFile

/-- The route state of a page with plain names is asked for by the names of its
place. -/
theorem fileFor?_place (url : Url) {place : List String}
    (plain : ∀ name ∈ place, IsPlain name ∧ IsName name ∧ '/' ∉ name.toList)
    (relative : ∀ first ∈ place.head?, IsRelative first) (directory : String) :
    fileFor? (tidyPath (Source.workplace ++ directory))
        (url.onSite (place.map pathSegment ++ ["index.json"])) =
      some
        (pathBytes
          (("work" :: rootNames directory ++ (place ++ ["index.json"])).map
            Utf8.encode)) := by
  have kept :
      (place.map pathSegment).dropWhile (· == "") = place.map pathSegment := by
    cases place with
    | nil => rfl
    | cons first others =>
        obtain ⟨isPlain, isName, -⟩ := plain first List.mem_cons_self
        rw [List.map_cons, List.dropWhile_cons_of_neg]
        simpa using pathSegment_ne_empty isPlain isName.ne_empty
  have written := isWritten_place plain isWritten_indexJson
  have begins :
      ∀ first ∈ ((place.map pathSegment).dropWhile (· == "") ++
          ["index.json"]).head?,
        IsRelative first := by
    rw [kept]
    intro first isFirst
    cases place with
    | nil =>
        cases isFirst
        exact isRelative_indexJson
    | cons name others =>
        cases isFirst
        exact (isRelative_pathSegment (plain name List.mem_cons_self).1).mpr
          (relative name rfl)
  have below : pathNames (tidyPath (Source.workplace ++ directory)) ≠ [] := by
    rw [pathNames_workplace]
    exact List.cons_ne_nil _ _
  have names :
      (place.map pathSegment).map (fun segment => unescape segment.toList) =
        place.map Utf8.encode := by
    rw [List.map_map]
    exact List.map_congr_left fun name member =>
      unescape_pathSegment (plain name member).1
  have path : (url.onSite (place.map pathSegment ++ ["index.json"])).path =
      .rooted (place.map pathSegment ++ ["index.json"]) := rfl
  have index :
      [unescape "index.json".toList] = [Utf8.encode "index.json"] := by decide
  rw [fileFor?_relative below path written begins, kept, pathNames_workplace,
    List.map_append, names, List.map_singleton, index]
  simp only [List.map_append, List.map_cons, List.map_nil, List.cons_append]

end Url

/-- A client that stands at the address of a page on some site, and loads route
states from the files in a directory, follows a link to another page and comes
to its route state. -/
def Loads (tree : FileTree) (directory : String) (origin : Url)
    (page other : Page) : Prop :=
  ∃ location target session, origin.join page.href = .ok location ∧
    (Session.start location (some (.files tree directory))).perform
        (.navigate (.click other.href) none) =
      (session, .outcome (.navigated target)) ∧
      session.currentState? = some other.routeState

theorem loads_iff {origin : Url} {page other : Page} :
    Loads tree directory origin page other ↔
      ∃ location target request, origin.join page.href = .ok location ∧
        location.join other.href = .ok target ∧
        target.sameSite location = true ∧
          target.routeData = .ok request ∧
          Source.readFile tree directory request = .ok other.routeState := by
  constructor
  · rintro ⟨location, target, session, here, performed, shown⟩
    obtain ⟨found, request, parts⟩ :=
      Session.perform_click_iff.mp ⟨target, session, performed, shown⟩
    exact ⟨location, found, request, here, parts⟩
  · rintro ⟨location, target, request, here, parts⟩
    obtain ⟨found, session, performed, shown⟩ :=
      Session.perform_click_iff.mpr ⟨target, request, parts⟩
    exact ⟨location, found, session, here, performed, shown⟩

theorem Page.IsReadable.plain_place {page : Page} (readable : page.IsReadable)
    (placed : page.IsPlaced) {place : List String}
    (spelled : PlaceNames page.names place) :
    ∀ name ∈ place, Url.IsPlain name ∧ IsName name ∧ '/' ∉ name.toList := by
  intro name member
  obtain ⟨isName, inNames⟩ := spelled.mem name member
  exact ⟨readable.plain name inNames, isName,
    (placed.isSegment name inNames).noSlash⟩

theorem Page.IsReadable.join_href {page : Page} (readable : page.IsReadable)
    (placed : page.IsPlaced)
    {place : List String} (spelled : PlaceNames page.names place) {base : Url}
    (isHttp : base.IsHttp) :
    base.join page.href = .ok (base.withPathFrom [] (hrefTail place)) ∧
      base.withPathFrom [] (hrefTail place) =
        base.onSite (place.map Url.pathSegment ++ ["index.html"]) := by
  have begins := Url.head?_hrefTail_of_isPlain fun name member =>
    ⟨readable.plain name member, placed.isSegment name member⟩
  refine ⟨isHttp.join_href placed spelled begins, ?_⟩
  have spelledOut :=
    isHttp.withPathFrom_hrefTail (readable.plain_place placed spelled) []
  rwa [List.nil_append] at spelledOut

theorem SiteRoot.loads (root : SiteRoot before directory [] top base left)
    (grown : Extends before tree)
    {page other : Page} (placed : page.IsPlaced) (otherPlaced : other.IsPlaced)
    {place otherPlace : List String} (spelled : PlaceNames page.names place)
    (otherSpelled : PlaceNames other.names otherPlace)
    (readable : page.IsReadable) (otherReadable : other.IsReadable)
    (there : tree.kind? (top ++ (otherPlace ++ ["index.json"])) =
      some (.file (Utf8.encode other.routeState.write)))
    {origin : Url} (isHttp : origin.IsHttp) :
    Loads tree directory origin page other := by
  obtain ⟨here, -⟩ := readable.join_href placed spelled isHttp
  have standing := isHttp.withPathFrom [] (hrefTail place)
  obtain ⟨joined, target⟩ :=
    otherReadable.join_href otherPlaced otherSpelled standing
  have plain := otherReadable.plain_place otherPlaced otherSpelled
  have targetHttp := standing.withPathFrom [] (hrefTail otherPlace)
  have asked := targetHttp.isHosted.routeData (by rw [target]; rfl) (by simp)
    (Url.isWritten_place plain Url.isWritten_indexHtml)
  rw [Url.dataSegments_concat, if_pos (.inr rfl)] at asked
  have segments : ∀ name ∈ otherPlace, IsName name ∧ IsSegment name := by
    intro name member
    obtain ⟨isName, inNames⟩ := otherSpelled.mem name member
    exact ⟨isName, otherPlaced.isSegment name inNames⟩
  refine loads_iff.mpr ⟨_, _, _, here, joined, standing.sameSite _ _, asked, ?_⟩
  exact Source.readFile_eq_ok (by simp)
    (Url.fileFor?_place _ plain
      (otherReadable.relative _ otherSpelled.place?_eq) directory)
    otherReadable.counted (root.read_place grown segments there)

end LessonSite
