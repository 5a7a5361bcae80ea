import LessonSite.Proofs.Site.Written

/-!
# Sites that cannot be written

When a site is written as it should be into an empty directory, in every order,
then its pages are separate.  What is known of the finished tree says where the
paths of its files lead, and that nothing is both a file and a directory; a path
that ends with the directory itself can only be made when another page has made
the directory before.
-/

namespace LessonSite

open FileTree

namespace FileTree

def LinkFree (tree : FileTree) : Prop :=
  ∀ place target, tree.kind? place ≠ some (.link target)

/-- Where names lead from a place when there are no links; above the top there
is the top again. -/
def walk (place : List String) : List String → List String
  | [] => place
  | name :: names =>
      if staysAt name then walk place names
      else if name = ".." then walk place.dropLast names
      else walk (place ++ [name]) names

theorem walk_stay {place : List String} {name : String} (stays : staysAt name)
    (names : List String) : walk place (name :: names) = walk place names := by
  rw [walk, if_pos stays]

theorem walk_up (place names : List String) :
    walk place (".." :: names) = walk place.dropLast names := by
  rw [walk, if_neg (by simp [staysAt]), if_pos rfl]

theorem walk_name {name : String} (isName : IsName name)
    (place names : List String) :
    walk place (name :: names) = walk (place ++ [name]) names := by
  rw [walk, if_neg isName.not_stays, if_neg isName.ne_up]

theorem Leads.eq_walk {tree : FileTree} (linkFree : tree.LinkFree)
    {links left : Nat}
    {place names target : List String}
    (leads : Leads tree links place names left target) :
    target = walk place names := by
  induction leads with
  | here => rfl
  | stay room stays _ induction => rw [walk_stay stays, induction]
  | up room _ induction => rw [walk_up, induction]
  | down room isName _ _ _ _ induction => rw [walk_name isName, induction]
  | link room isName short next => exact absurd next (linkFree _ _)

/-- Below a directory that they do not leave, names lead where they lead from
its top. -/
theorem walk_eq_of_walkFrom? {top place names target : List String}
    (walks : walkFrom? place names = some target) :
    walk (top ++ place) names = top ++ target := by
  induction names generalizing place with
  | nil =>
      cases walks
      rfl
  | cons name names induction =>
      obtain ⟨next, step, onwards⟩ := Option.bind_eq_some_iff.mp walks
      rcases name_cases name with stays | rfl | isName
      · cases (stepFrom?_stay stays).symm.trans step
        rw [walk_stay stays, induction onwards]
      · have inside : place ≠ [] := by
          rintro rfl
          simp [stepFrom?, staysAt] at step
        cases (stepFrom?_up inside).symm.trans step
        rw [walk_up, List.dropLast_append_of_ne_nil inside, induction onwards]
      · cases (stepFrom?_name isName).symm.trans step
        rw [walk_name isName, List.append_assoc, induction onwards]

theorem walk_append (place names rest : List String) :
    walk place (names ++ rest) = walk (walk place names) rest := by
  induction names generalizing place with
  | nil => rfl
  | cons name names induction =>
      rw [List.cons_append]
      rcases name_cases name with stays | rfl | isName
      · rw [walk_stay stays, walk_stay stays, induction]
      · rw [walk_up, walk_up, induction]
      · rw [walk_name isName, walk_name isName, induction]

/-- Names that lead out of a directory lead to its top, and up from there. -/
theorem exists_up_of_walkFrom?_eq_none {place names : List String}
    (outside : walkFrom? place names = none) :
    ∃ first rest,
      names = first ++ ".." :: rest ∧ walkFrom? place first = some [] := by
  induction names generalizing place with
  | nil => cases outside
  | cons name names induction =>
      cases step : stepFrom? place name with
      | none =>
          rcases name_cases name with stays | rfl | isName
          · cases (stepFrom?_stay stays).symm.trans step
          · by_cases top : place = []
            · exact ⟨[], names, rfl, congrArg some top⟩
            · cases (stepFrom?_up top).symm.trans step
          · cases (stepFrom?_name isName).symm.trans step
      | some next =>
          rw [walkFrom?, step, Option.bind_some] at outside
          obtain ⟨first, rest, rfl, up⟩ := induction outside
          refine ⟨name :: first, rest, rfl, ?_⟩
          rw [walkFrom?, step, Option.bind_some, up]

end FileTree

/-- A page lies so near the top of its site that at most one name follows a way
up in its path. -/
theorem IsPagePlace.length_le_one {names first rest : List String}
    (place : IsPagePlace names)
    (way : names = first ++ ".." :: rest) : rest.length ≤ 1 := by
  have length := congrArg List.length way
  simp only [List.length_append, List.length_cons] at length
  cases place with
  | home locale =>
      have short : locale.names.length ≤ 1 := by cases locale <;> decide
      omega
  | contents locale =>
      have short : (locale.names ++ [contentsPageName]).length ≤ 2 := by
        cases locale <;> decide
      omega
  | @lesson locale chapter lesson isChapter isLesson =>
      cases locale with
      | en =>
          change 2 = _ at length
          omega
      | zh =>
          change 3 = _ at length
          have below : first ≠ [] := by
            rintro rfl
            exact absurd (List.cons.inj way).1 (by decide)
          have some_ := List.length_pos_iff.mpr below
          omega

/-- When names lead out of the directory of a site, the file there is at the top
of the tree or in a directory at the top. -/
theorem walk_of_walkFrom?_eq_none {names : List String}
    (place : IsPagePlace names) (outside : walkFrom? [] names = none) :
    walk ["dist"] (names ++ ["index.html"]) = ["index.html"] ∨
      ∃ name,
        walk ["dist"] (names ++ ["index.html"]) = [name, "index.html"] := by
  obtain ⟨first, rest, way, top⟩ := exists_up_of_walkFrom?_eq_none outside
  have short := place.length_le_one way
  have atTop : walk (["dist"] ++ []) first = ["dist"] ++ [] :=
    walk_eq_of_walkFrom? top
  rw [List.append_nil] at atTop
  have left :
      walk ["dist"] (names ++ ["index.html"]) =
        walk [] (rest ++ ["index.html"]) := by
    rw [way, List.append_assoc, walk_append, atTop]
    exact walk_up ["dist"] _
  have ends : walk [] ["index.html"] = ["index.html"] :=
    walk_name isName_indexHtml [] []
  rw [left]
  match rest with
  | [] => exact .inl ends
  | [name] =>
      rw [List.singleton_append]
      rcases name_cases name with stays | rfl | isName
      · left
        rw [walk_stay stays, ends]
      · left
        rw [walk_up]
        exact ends
      · right
        refine ⟨name, ?_⟩
        rw [walk_name isName, walk_name isName_indexHtml]
        rfl

/-- A tree with nothing but an empty directory. -/
def emptySite : FileTree :=
  [("dist", .directory [])]

theorem siteRoot_emptySite :
    SiteRoot emptySite "dist" [] ["dist"] ["dist"] linkLimit where
  found := rfl
  resolved := by
    refine resolve_eq_ok_iff.mpr
      ⟨by decide, by decide, by decide, linkLimit, ?_⟩
    exact .down (kind?_nil _) (by decide) (by unfold fits; decide) rfl
      (fun goal => by simp [FileNode.kind]) (.here _ _)
  way := .down (kind?_nil _) (by decide) (by unfold fits; decide) rfl
    (fun goal => by simp [FileNode.kind]) (.here _ _)
  spelled := by
    intro path relative
    have same : joinPath "dist" path = "dist" ++ "/" ++ path := by
      simp only [joinPath, relative]
      rfl
    rw [same, pathNames_append]
    rfl

theorem node_emptySite : emptySite.node "dist" = .ok (.directory []) := by
  simp only [FileTree.node, siteRoot_emptySite.resolved]
  rfl

theorem kind?_emptySite {place : List String} {kind : FileKind}
    (found : emptySite.kind? place = some kind) :
    kind = .directory ∧ (place = [] ∨ place = ["dist"]) := by
  cases place with
  | nil =>
      rw [kind?_nil] at found
      exact ⟨(Option.some.inj found).symm, .inl rfl⟩
  | cons name names =>
      rw [kind?, at?_cons, emptySite, List.lookup_cons] at found
      cases same : name == "dist" with
      | false => simp [same] at found
      | true =>
          rw [same] at found
          cases names with
          | nil =>
              exact ⟨(Option.some.inj found).symm,
                .inr (by rw [beq_iff_eq.mp same])⟩
          | cons next names =>
              have nothing :=
                under?_eq_none_of_isLeaf .directory
                  (List.cons_ne_nil next names)
              rw [Option.bind_some, nothing] at found
              cases found

section Necessity

variable {template : Template} {pages : List Page} {after : FileTree}

private theorem linkFree
    (published : Published template "dist" pages emptySite after) :
    after.LinkFree := by
  obtain ⟨top, resolved, -, -, plain, outside⟩ := published.inside
  cases siteRoot_emptySite.resolved.symm.trans resolved
  intro place target
  by_cases below : ["dist"] <+: place
  · obtain ⟨inner, rfl⟩ := below
    exact plain inner target
  · rw [outside place below]
    intro link
    cases (kind?_emptySite link).1

private theorem exists_leads
    (published : Published template "dist" pages emptySite after)
    {page : Page} (placed : page.IsPlaced) (member : page ∈ pages)
    {file path : String}
    (isFile : IsSegment file)
    (spelled : path = joinNames (page.names ++ [file]))
    (ours : path ∈ page.filePaths) :
    ∃ inner left links,
      inner ≠ [] ∧
        after.resolve (joinPath "dist" path) = .ok (["dist"] ++ inner) ∧
          Leads after links ["dist"] (page.names ++ [file]) left
            (["dist"] ++ inner) := by
  obtain ⟨top, resolved, after_, inside, -, -⟩ := published.inside
  cases siteRoot_emptySite.resolved.symm.trans resolved
  obtain ⟨inner, nonempty, found⟩ :=
    inside path (List.mem_flatMap.mpr ⟨page, member, ours⟩)
  have segments := placed.isSegment_file isFile
  obtain ⟨-, -, -, left, leads⟩ := resolve_eq_ok_iff.mp found
  rw [spelled, siteRoot_emptySite.spelled _ (joinNames_relative segments),
    pathNames_joinNames (by simp) fun name member =>
      (segments name member).noSlash] at leads
  obtain ⟨links, middle, first, second⟩ := leads.split
  obtain ⟨-, -, -, other, whole⟩ := resolve_eq_ok_iff.mp after_
  rw [show pathNames "dist" = ["dist"] from rfl] at whole
  have same : middle = ["dist"] := by
    rw [first.eq_walk (linkFree published),
      ← whole.eq_walk (linkFree published)]
  exact ⟨inner, left, links, nonempty, found, same ▸ second⟩

private theorem resolve_htmlPath
    (published : Published template "dist" pages emptySite after)
    {page : Page} (placed : page.IsPlaced) (member : page ∈ pages) :
    ∃ inner,
      inner ≠ [] ∧
        walk ["dist"] (page.names ++ ["index.html"]) = ["dist"] ++ inner ∧
          after.resolve (joinPath "dist" page.htmlPath) =
            .ok (["dist"] ++ inner) := by
  obtain ⟨inner, left, links, nonempty, found, leads⟩ :=
    exists_leads published placed member
      isSegment_indexHtml placed.htmlPath_eq (by simp [Page.filePaths])
  exact ⟨inner, nonempty, (leads.eq_walk (linkFree published)).symm, found⟩

private theorem eq_of_walk_eq (placed : PagesPlaced pages)
    (published : Published template "dist" pages emptySite after)
    {page other : Page} (member : page ∈ pages) (isPage : other ∈ pages)
    (same : walk ["dist"] (page.names ++ ["index.html"]) =
      walk ["dist"] (other.names ++ ["index.html"])) : page = other := by
  obtain ⟨inner, -, here, found⟩ :=
    resolve_htmlPath published (placed.isPlaced page member) member
  obtain ⟨otherInner, -, there, otherFound⟩ :=
    resolve_htmlPath published (placed.isPlaced other isPage) isPage
  have sameFile : after.resolve (joinPath "dist" page.htmlPath) =
      after.resolve (joinPath "dist" other.htmlPath) := by
    rw [found, otherFound, ← here, ← there, same]
  have distinct := published.distinct
  rw [List.map_flatMap] at distinct
  have first : after.resolve (joinPath "dist" page.htmlPath) ∈
      page.filePaths.map fun path => after.resolve (joinPath "dist" path) := by
    simp [Page.filePaths]
  have second : after.resolve (joinPath "dist" page.htmlPath) ∈
      other.filePaths.map fun path => after.resolve (joinPath "dist" path) := by
    rw [sameFile]
    simp [Page.filePaths]
  exact eq_of_mem_flatMap_nodup distinct member isPage first second

private theorem walk_of_place? {page : Page} {place : List String}
    (here : page.place? = some place) {file : String} (isName : IsName file) :
    walk ["dist"] (page.names ++ [file]) = ["dist"] ++ (place ++ [file]) := by
  have whole :
      walkFrom? [] (page.names ++ [file]) = some (place ++ [file]) := by
    rw [walkFrom?_append, show walkFrom? [] page.names = some place from here,
      Option.bind_some, walkFrom?, stepFrom?_name isName]
    rfl
  have walks :
      walk (["dist"] ++ []) (page.names ++ [file]) =
        ["dist"] ++ (place ++ [file]) :=
    walk_eq_of_walkFrom? whole
  exact walks

/-- No path leads out of the directory: from there it could only come to the
page at the top. -/
theorem place?_isSome (placed : PagesPlaced pages)
    (published : Published template "dist" pages emptySite after) {page : Page}
    (member : page ∈ pages) : page.place?.isSome := by
  cases here : page.place? with
  | some place => rfl
  | none =>
      have isPlaced := placed.isPlaced page member
      obtain ⟨inner, -, walks, -⟩ := resolve_htmlPath published isPlaced member
      rcases walk_of_walkFrom?_eq_none isPlaced.place here with
        atTop | ⟨name, beside⟩
      · rw [atTop] at walks
        simp at walks
      · rw [beside] at walks
        obtain ⟨rfl, -⟩ := List.cons.inj walks
        obtain ⟨home, isHome, path⟩ := placed.home
        have top := Page.IsPlaced.names_of_empty path
        have same : page = home := by
          refine eq_of_walk_eq placed published member isHome ?_
          rw [beside, top, List.nil_append, walk_name isName_indexHtml]
          rfl
        rw [same, Page.place?, top] at here
        cases here

theorem nodup_place? (placed : PagesPlaced pages)
    (published : Published template "dist" pages emptySite after) :
    (pages.map Page.place?).Nodup := by
  refine List.pairwise_map.mpr (placed.nodup.imp_of_mem ?_)
  intro page other member isPage different same
  obtain ⟨place, here⟩ :=
    Option.isSome_iff_exists.mp (place?_isSome placed published member)
  refine different (eq_of_walk_eq placed published member isPage ?_)
  rw [walk_of_place? here isName_indexHtml,
    walk_of_place? (same ▸ here) isName_indexHtml]

private theorem kind?_filePlace (placed : PagesPlaced pages)
    (published : Published template "dist" pages emptySite after) {page : Page}
    (member : page ∈ pages) {place : List String}
    (isFile : place ∈ page.filePlaces) :
    ∃ content, after.kind? (["dist"] ++ place) = some (.file content) := by
  have isPlaced := placed.isPlaced page member
  obtain ⟨inner, here, same⟩ := mem_filePlaces_iff.mp isFile
  rcases same with rfl | rfl
  · obtain ⟨_, _, _, -, found, leads⟩ := exists_leads published isPlaced member
      isSegment_indexHtml isPlaced.htmlPath_eq (by simp [Page.filePaths])
    rw [leads.eq_walk (linkFree published),
      walk_of_place? here isName_indexHtml] at found
    exact ⟨_, kind?_of_read found (published.html page member)⟩
  · obtain ⟨_, _, _, -, found, leads⟩ := exists_leads published isPlaced member
      isSegment_indexJson isPlaced.jsonPath_eq (by simp [Page.filePaths])
    rw [leads.eq_walk (linkFree published),
      walk_of_place? here isName_indexJson] at found
    exact ⟨_, kind?_of_read found (published.json page member)⟩

/-- No way leads through a file, as there are directories on it. -/
theorem not_mem_filePlaces (placed : PagesPlaced pages)
    (published : Published template "dist" pages emptySite after)
    {page other : Page}
    (member : page ∈ pages) (isPage : other ∈ pages) {place : List String}
    (onTheWay : place ∈ passed [] page.names) : place ∉ other.filePlaces := by
  intro isFile
  obtain ⟨content, file⟩ := kind?_filePlace placed published isPage isFile
  have isPlaced := placed.isPlaced page member
  obtain ⟨_, left, links, -, -, leads⟩ := exists_leads published isPlaced member
    isSegment_indexHtml isPlaced.htmlPath_eq (by simp [Page.filePaths])
  obtain ⟨first, rest, names, walks⟩ := exists_prefix_of_mem_passed onTheWay
  rw [names, List.append_assoc] at leads
  obtain ⟨_, between, before_, onwards⟩ := leads.split
  have same := before_.eq_walk (linkFree published)
  rw [show ["dist"] = ["dist"] ++ [] from rfl,
    walk_eq_of_walkFrom? walks] at same
  have room := onwards.room (by simp)
  rw [same, file] at room
  cases room

end Necessity

/-- The names of a page that end with a `.` are those of a lesson. -/
theorem IsPagePlace.eq_of_ends_dot {names : List String}
    (place : IsPagePlace names) (ends : names.getLast? = some ".") :
    ∃ (locale : Locale) (chapter : String), IsSegment chapter ∧
      names = locale.names ++ [chapter, "."] := by
  cases place with
  | home locale =>
      cases locale <;> simp [Locale.names, Locale.slugPrefix?] at ends
  | contents locale => simp [contentsPageName] at ends
  | @lesson locale chapter lesson isChapter =>
      have last : lesson = "." := by simpa using ends
      exact ⟨locale, chapter, isChapter, by rw [last]⟩

theorem PagesPlaced.exists_home {pages : List Page} (placed : PagesPlaced pages)
    (locale : Locale) :
    ∃ page ∈ pages, page.names = locale.names := by
  cases locale with
  | en =>
      obtain ⟨home, member, path⟩ := placed.home
      exact ⟨home, member, Page.IsPlaced.names_of_empty path⟩
  | zh =>
      obtain ⟨home, member, path⟩ := placed.homeChinese
      exact ⟨home, member, Page.names_eq path (isSegment_localeNames .zh)⟩

theorem walkFrom?_localeNames (locale : Locale) :
    walkFrom? [] locale.names = some locale.names := by
  cases locale with
  | en => rfl
  | zh => rfl

/-- When all places are different, a lesson has not the place of a page that a
locale opens with. -/
theorem PagesPlaced.place?_ne_home {pages : List Page}
    (placed : PagesPlaced pages)
    (distinct : (pages.map Page.place?).Nodup) {page : Page}
    (member : page ∈ pages) {locale : Locale}
    {chapter lesson : String}
    (names : page.names = locale.names ++ [chapter, lesson])
    (other : Locale) : page.place? ≠ some other.names := by
  intro same
  obtain ⟨home, isHome, homeNames⟩ := placed.exists_home other
  have there : home.place? = some other.names := by
    rw [Page.place?, homeNames, walkFrom?_localeNames]
  have one :=
    eq_of_map_eq_of_nodup distinct member isHome (same.trans there.symm)
  rw [one, homeNames] at names
  have lengths := congrArg List.length names
  cases other <;> cases locale <;>
    simp [Locale.names, Locale.slugPrefix?] at lengths

/-- When all places are different, a path that ends with a `.` names a missing
directory before it. -/
theorem isName_of_ends_dot {pages : List Page} (placed : PagesPlaced pages)
    (inside : ∀ page ∈ pages, page.place?.isSome)
    (distinct : (pages.map Page.place?).Nodup)
    {page : Page} (member : page ∈ pages) {locale : Locale} {chapter : String}
    (isSegment : IsSegment chapter)
    (names : page.names = locale.names ++ [chapter, "."]) :
    IsName chapter := by
  have unlike := placed.place?_ne_home distinct member names
  have way : page.place? = walkFrom? locale.names [chapter, "."] := by
    rw [Page.place?, names, walkFrom?_append, walkFrom?_localeNames,
      Option.bind_some]
  have dot : staysAt "." := .inr rfl
  rcases name_cases chapter with stays | rfl | isName
  · refine absurd ?_ (unlike locale)
    rw [way, walkFrom?, stepFrom?_stay stays, Option.bind_some, walkFrom?,
      stepFrom?_stay dot]
    rfl
  · cases locale with
    | en =>
        have leaves := inside page member
        rw [way] at leaves
        cases leaves
    | zh =>
        refine absurd ?_ (unlike .en)
        rw [way]
        rfl
  · exact isName

end LessonSite
