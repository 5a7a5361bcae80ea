import LessonSite.Proofs.FileTree.Make
import LessonSite.Proofs.Site.Paths
import LessonSite.Site.Files

/-!
# The directory of a site

A site is written below a directory that was empty.  What has been made for some
of its pages is known from their paths, whatever way leads to the directory.
-/

namespace LessonSite

open FileTree

/-- A directory with some entries, and the names that lead to it and come before
the names of a path in it. -/
structure SiteRoot (before : FileTree) (directory : String) (entries : FileTree)
    (top base : List String) (left : Nat) : Prop where
  found : before.at? top = some (.directory entries)
  resolved : before.resolve directory = .ok top
  way : Leads before linkLimit [] base left top
  spelled : ∀ path, Text.startsWith "/" path = false →
    pathNames (joinPath directory path) = base ++ pathNames path

theorem exists_siteRoot {before entries : FileTree} {directory : String}
    (found : before.node directory = .ok (.directory entries)) :
    ∃ top base left, SiteRoot before directory entries top base left := by
  unfold FileTree.node at found
  split at found
  · cases found
  · next top resolved =>
      split at found
      · next node here =>
          cases found
          obtain ⟨-, nonempty, -, left, leads⟩ := resolve_eq_ok_iff.mp resolved
          obtain ⟨base, spelled, same | same⟩ :=
            exists_pathNames_joinPath nonempty
          · exact ⟨top, base, left, here, resolved, same ▸ leads, spelled⟩
          · rw [same] at leads
            exact ⟨top, base, left, here, resolved,
              leads.trim (by simp [staysAt]), spelled⟩
      · cases found

namespace SiteRoot

variable {before tree entries : FileTree} {directory : String}
  {top base : List String} {left : Nat}
  {directories : List (List String)} {files : List (List String × List UInt8)}

theorem noNul (root : SiteRoot before directory entries top base left)
    {path : String}
    (plain : '\x00' ∉ path.toList) :
    '\x00' ∉ (joinPath directory path).toList := by
  intro nul
  rcases mem_joinPath nul with inDirectory | slash | inPath
  · exact (resolve_eq_ok_iff.mp root.resolved).1 inDirectory
  · cases slash
  · exact plain inPath

/-- A path in the directory is followed from the directory. -/
theorem resolve_joinPath
    (root : SiteRoot before directory entries top base left)
    (grown : Extends before tree) {path : String} (plain : '\x00' ∉ path.toList)
    (relative : Text.startsWith "/" path = false) {place : List String} :
    tree.resolve (joinPath directory path) = .ok place ↔
      tree.follow true left top (pathNames path) = .ok place := by
  obtain ⟨-, nonempty, inside, -⟩ := resolve_eq_ok_iff.mp root.resolved
  have joined := joinPath_relative nonempty inside relative
  rw [resolve_eq_ok_iff, ← follow_eq_ok_iff, root.spelled path relative,
    (root.way.mono grown).follow_append]
  simp only [root.noNul plain, joined, not_false_eq_true, ne_eq, true_and]

end SiteRoot

namespace Page

/-- The place of a page below the directory of the site, if its path does not
lead out of it. -/
def place? (page : Page) : Option (List String) :=
  walkFrom? [] page.names

/-- The places of the two files of a page. -/
def filePlaces (page : Page) : List (List String) :=
  match page.place? with
  | none => []
  | some place => [place ++ ["index.html"], place ++ ["index.json"]]

/-- The directories that there have to be for a part of a page. -/
def madeDirectories : Page × PagePart → List (List String)
  | (page, .directory) => passed [] page.names
  | _ => []

/-- The file that is written for a part of a page, at its place. -/
def madeFiles (template : Template) :
    Page × PagePart → List (List String × List UInt8)
  | (_, .directory) => []
  | (page, .html) =>
      page.place?.toList.map fun place =>
        (place ++ ["index.html"],
          Utf8.encode (template.render page.placeholders))
  | (page, .json) =>
      page.place?.toList.map fun place =>
        (place ++ ["index.json"], Utf8.encode page.routeState.write)

variable {before tree : FileTree} {directory : String} {top base : List String}
  {left : Nat}
  {directories : List (List String)} {files : List (List String × List UInt8)}
  {page : Page} {place : List String}

/-- The directory of a page can be made where no file is in the way. -/
theorem make_directory (root : SiteRoot before directory [] top base left)
    (holds : Holds before top directories files tree) (template : Template)
    (placed : page.IsPlaced)
    (walks : page.place? = some place) (ends : page.names.getLast? ≠ some ".")
    (apart : ∀ other ∈ passed [] page.names, List.lookup other files = none) :
    ∃ grown, page.make template directory tree .directory = .ok grown ∧
      Holds before top (madeDirectories (page, .directory) ++ directories)
        files grown := by
  have plain :
      (joinPath directory page.path).toList.contains '\x00' = false := by
    simpa using root.noNul placed.noNul
  have spelled := root.spelled page.path placed.relative
  have made :
      ∃ grown, tree.makePath (joinPath directory page.path) = .ok grown ∧
        Holds before top (passed [] page.names ++ directories) files grown := by
    by_cases atTop : page.names = []
    · have path : page.path = "" := by rw [placed.path_eq, atTop, joinNames]
      have here := root.way.mono (holds.extends_before root.found)
      have room : tree.kind? top = some .directory := by
        simpa using holds.kind?_directory (.inl rfl)
      rw [path, pathNames_empty] at spelled
      have leads := here.append (.stay room (.inl rfl) (.here left top))
      rw [← spelled] at leads
      rw [path] at plain ⊢
      refine ⟨tree, makePath_of_leads plain leads room, holds.congr ?_⟩
      intro other inner
      simp [atTop, passed, inner]
    · have names : pathNames page.path = page.names := by
        rw [placed.path_eq]
        exact pathNames_joinNames atTop fun name member =>
          (placed.isSegment name member).noSlash
      refine holds.makePath root.found root.way plain (by rw [spelled, names])
        ?_ walks placed.short apart
      have last := List.getLast?_eq_some_getLast atTop
      refine ⟨_, last, ?_⟩
      rintro (empty | dot)
      · exact (placed.isSegment _ (List.getLast_mem atTop)).ne_empty empty
      · exact ends (last.trans (congrArg some dot))
  obtain ⟨grown, ok, holdsGrown⟩ := made
  exact ⟨grown, by simp only [make, ok, mapError_ok], holdsGrown⟩

theorem writeText_file (root : SiteRoot before directory [] top base left)
    (holds : Holds before top directories files tree) (placed : page.IsPlaced)
    (walks : page.place? = some place) {file : String} (isFile : IsSegment file)
    (isName : IsName file) (text : String)
    (through : ∀ other ∈ passed [] page.names, other = [] ∨ other ∈ directories)
    (absent : tree.kind? (top ++ (place ++ [file])) = none) :
    ∃ grown,
      tree.writeText (joinPath directory (joinNames (page.names ++ [file])))
          text = .ok grown ∧
        Holds before top directories
          ((place ++ [file], Utf8.encode text) :: files) grown := by
  have segments := placed.isSegment_file isFile
  have plain :
      (joinPath directory (joinNames (page.names ++ [file]))).toList.contains
          '\x00' =
        false := by
    simpa using root.noNul (joinNames_noNul segments)
  have spelled := root.spelled _ (joinNames_relative segments)
  rw [pathNames_joinNames (by simp) fun name member =>
    (segments name member).noSlash,
    ← List.append_assoc] at spelled
  rw [← List.append_assoc] at absent
  obtain ⟨grown, ok, holdsGrown⟩ :=
    holds.write root.found root.way (Utf8.encode text) plain spelled
      isName isFile.short walks placed.short through absent
  exact ⟨grown, by simp only [writeText, ok, mapError_ok], holdsGrown⟩

end Page

end LessonSite
