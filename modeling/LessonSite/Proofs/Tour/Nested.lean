import LessonSite.Proofs.Tour.Directories

/-!
# Roots inside one another

The root of one locale may lie inside that of the other, which has to pass it
over.  It is known by its path among the chapters only, so it is read as a
lesson when it lies two levels down under a name that is not hidden, and as a
chapter when its path is spelled in another way.
-/

namespace LessonSite

open FileTree
open NumberedDirectory (IsSubdirectory)

/-- A directory is another one or lies inside it, whatever ways lead there. -/
def FileTree.IsWithin (tree : FileTree) (inner directory : String) : Prop :=
  ∃ top place,
    tree.resolve inner = .ok top ∧ tree.resolve directory = .ok place ∧
      top <+: place

/-- No chapter and no lesson has been read from a directory or from one inside
it. -/
structure LocaleTour.KeepsOutOf (tree : FileTree) (root inner : String)
    (part : LocaleTour) : Prop where
  chapters :
    ∀ chapter ∈ part.chapters,
      ¬tree.IsWithin inner (joinPath root chapter.sourceDir)
  lessons :
    ∀ lesson ∈ part.lessons,
      ¬tree.IsWithin inner (joinPath root lesson.sourceDir)

/-- The directory at some names below a root is no chapter or lesson: it is too
deep, it is hidden, or it has the path under which the root is told of it. -/
def IsPassedOver (root inner : String) (below : List String) : Prop :=
  2 < below.length ∨ (∃ name ∈ below, Text.startsWith "." name = true) ∨
    ∃ name, below = [name] ∧ samePath inner (joinPath root name) = true

variable {tree : FileTree} {extension root inner : String} {locale : Locale}
  {part : LocaleTour}

theorem FileTree.rootNames_eq_filter_pathParts {path : String}
    (relative : Text.startsWith "/" path = false) :
    rootNames path = (pathParts path).filter moves := by
  have start :
      ((pathNames path).take 1).filter moves =
        (((pathNames path).take 1).filter (· ≠ "")).filter moves := by
    rw [List.filter_filter]
    refine List.filter_congr fun name _ => ?_
    by_cases empty : name = "" <;> simp [empty, moves]
  have rest : ((pathNames path).drop 1).filter moves =
      (((pathNames path).drop 1).filter fun name =>
        name ≠ "" ∧ name ≠ ".").filter moves := by
    rw [List.filter_filter]
    refine List.filter_congr fun name _ => ?_
    by_cases moving : moves name = true <;> simp_all [moves]
  rw [rootNames, pathParts, relative]
  simp only [Bool.false_eq_true, if_false]
  rw [List.filter_append, ← start, ← rest, ← List.filter_append,
    List.take_append_drop]

theorem FileTree.place_eq_of_samePath {left right : String}
    (same : samePath left right = true)
    {place other : List String} (first : tree.resolve left = .ok place)
    (second : tree.resolve right = .ok other) :
    place = other := by
  obtain ⟨-, -, relative, -⟩ := resolve_eq_ok_iff.mp first
  obtain ⟨-, -, alike, -⟩ := resolve_eq_ok_iff.mp second
  have spelling : SameDirectory left right := by
    refine ⟨relative.trans alike.symm, ?_⟩
    rw [rootNames_eq_filter_pathParts relative,
      rootNames_eq_filter_pathParts alike, of_decide_eq_true same]
  exact spelling.place_eq first second

theorem LocaleTour.keepsOutOf_iff_subdirectories
    (proper : (FileNode.directory tree).IsProper)
    (ok : LocaleTour.read tree locale extension root [inner] = .ok part) :
    part.KeepsOutOf tree root inner ↔
      (∀ chapter,
          IsSubdirectory tree [inner] root chapter →
          ¬tree.IsWithin inner (joinPath root chapter)) ∧
        ∀ chapter lesson, IsSubdirectory tree [inner] root chapter →
          IsSubdirectory tree [] (joinPath root chapter) lesson →
            ¬tree.IsWithin inner (joinPath (joinPath root chapter) lesson) := by
  obtain ⟨found, listed⟩ := list_of_read ok
  have joined : ∀ {chapter lesson}, IsSubdirectory tree [inner] root chapter →
      IsSubdirectory tree [] (joinPath root chapter) lesson →
        joinPath (joinPath root chapter) lesson =
          joinPath root (chapter ++ "/" ++ lesson) := by
    intro chapter lesson isChapter isLesson
    exact joinPath_joinPath root
      (NumberedDirectory.isName_of_isSubdirectory listed isChapter).ne_empty
      (NumberedDirectory.no_slash_of_listed proper isChapter.listed)
      (startsWith_slash_of_not_mem
        (NumberedDirectory.no_slash_of_listed proper isLesson.listed))
  constructor
  · intro keeps
    refine ⟨fun chapter isChapter => ?_,
      fun chapter lesson isChapter isLesson => ?_⟩
    · obtain ⟨source, member, rfl⟩ :=
        List.mem_map.mp ((mem_chapterDirs_iff ok).mpr isChapter)
      exact keeps.chapters source member
    · rw [joined isChapter isLesson]
      obtain ⟨source, member, same⟩ :=
        List.mem_map.mp
          ((mem_lessonDirs_iff ok).mpr
            ⟨chapter, lesson, isChapter, isLesson, rfl⟩)
      exact same ▸ keeps.lessons source member
  · rintro ⟨chapters, lessons⟩
    refine ⟨fun chapter member => ?_, fun lesson member => ?_⟩
    · exact chapters _
        ((mem_chapterDirs_iff ok).mp (List.mem_map_of_mem member))
    · obtain ⟨chapter, name, isChapter, isLesson, same⟩ :=
        (mem_lessonDirs_iff ok).mp (List.mem_map_of_mem member)
      rw [same, ← joined isChapter isLesson]
      exact lessons chapter name isChapter isLesson

section

/-!
Without links below the root, and with the inner root in a directory below it.
-/

variable (proper : (FileNode.directory tree).IsProper)
  (ok : LocaleTour.read tree locale extension root [inner] = .ok part)
  {top below : List String}
  (free : tree.LinkFreeBelow top) (atRoot : tree.resolve root = .ok top)
  (atInner : tree.resolve inner = .ok (top ++ below))
  (room : tree.kind? (top ++ below) = some .directory)

include proper ok free atRoot

theorem LocaleTour.keepsOutOf_iff_names
    (atInner : tree.resolve inner = .ok (top ++ below)) :
    part.KeepsOutOf tree root inner ↔
      (∀ chapter,
          IsSubdirectory tree [inner] root chapter → ¬below <+: [chapter]) ∧
        ∀ chapter lesson, IsSubdirectory tree [inner] root chapter →
          IsSubdirectory tree [] (joinPath root chapter) lesson →
          ¬below <+: [chapter, lesson] := by
  obtain ⟨found, listed⟩ := list_of_read ok
  have atTop : tree.resolve root = .ok (top ++ []) := by
    rw [List.append_nil, atRoot]
  have within : ∀ {path names}, tree.resolve path = .ok (top ++ names) →
      (tree.IsWithin inner path ↔ below <+: names) := by
    intro path names resolved
    constructor
    · rintro ⟨_, _, first, second, starts⟩
      cases atInner.symm.trans first
      cases resolved.symm.trans second
      exact (List.prefix_append_right_inj top).mp starts
    · exact fun starts =>
        ⟨_, _, atInner, resolved, (List.prefix_append_right_inj top).mpr starts⟩
  have atChapter : ∀ {chapter}, IsSubdirectory tree [inner] root chapter →
      tree.resolve (joinPath root chapter) = .ok (top ++ [chapter]) :=
    fun isChapter =>
      NumberedDirectory.resolve_of_isSubdirectory proper free atTop
        listed isChapter
  rw [keepsOutOf_iff_subdirectories proper ok]
  refine and_congr ?_ ?_
  · exact forall₂_congr fun chapter isChapter =>
      not_congr (within (atChapter isChapter))
  · refine forall₄_congr fun chapter lesson isChapter isLesson =>
      not_congr (within ?_)
    obtain ⟨lessons, inside⟩ := list_of_isSubdirectory ok isChapter
    exact NumberedDirectory.resolve_of_isSubdirectory proper free
      (atChapter isChapter) inside isLesson

include atInner room

/-- A root that is a subdirectory itself is no chapter only if it is hidden or
known by its path. -/
theorem LocaleTour.isSubdirectory_iff_of_single {name : String}
    (single : below = [name]) :
    IsSubdirectory tree [inner] root name ↔
      Text.startsWith "." name = false ∧
        samePath inner (joinPath root name) = false := by
  subst single
  obtain ⟨found, listed⟩ := list_of_read ok
  have atTop : tree.resolve root = .ok (top ++ []) := by
    rw [List.append_nil, atRoot]
  have isName := isName_of_resolve atInner name (by simp)
  rw [NumberedDirectory.isSubdirectory_iff_of_kind? proper free atTop listed
    isName room]
  simp

/-- A directory above a root is known by another path, so it is a chapter unless
it is hidden; and the root is a lesson of it unless that is hidden. -/
theorem LocaleTour.isSubdirectory_iff_of_pair {chapter lesson : String}
    (pair : below = [chapter, lesson]) :
    IsSubdirectory tree [inner] root chapter ∧
        IsSubdirectory tree [] (joinPath root chapter) lesson ↔
      Text.startsWith "." chapter = false ∧
        Text.startsWith "." lesson = false := by
  subst pair
  obtain ⟨found, listed⟩ := list_of_read ok
  have atTop : tree.resolve root = .ok (top ++ []) := by
    rw [List.append_nil, atRoot]
  have isName := isName_of_resolve atInner
  have above : tree.kind? (top ++ ([] ++ [chapter])) = some .directory := by
    rw [← List.singleton_append, ← List.append_assoc] at room
    exact kind?_of_append (List.cons_ne_nil lesson []) room
  have isListed : chapter ∈ NumberedDirectory.listedNames tree root := by
    rw [NumberedDirectory.mem_listedNames_iff atTop, List.append_assoc]
    exact ⟨_, above⟩
  have atChapter :=
    NumberedDirectory.resolve_of_listed proper free atTop listed
      (isName chapter (by simp)) isListed
  have apart : samePath inner (joinPath root chapter) = false := by
    rw [← Bool.not_eq_true]
    intro same
    simpa using place_eq_of_samePath same atInner atChapter
  have isChapter_iff :
      IsSubdirectory tree [inner] root chapter ↔
        Text.startsWith "." chapter = false := by
    rw [NumberedDirectory.isSubdirectory_iff_of_kind? proper free atTop listed
      (isName chapter (by simp)) above]
    simp [apart]
  rw [isChapter_iff]
  refine and_congr_right fun visible => ?_
  obtain ⟨lessons, inside⟩ :=
    list_of_isSubdirectory ok (isChapter_iff.mpr visible)
  rw [NumberedDirectory.isSubdirectory_iff_of_kind? proper free atChapter inside
    (isName lesson (by simp)) (by rwa [List.nil_append])]
  simp

/-- Another root is kept out of just if it is passed over. -/
theorem LocaleTour.keepsOutOf_iff_isPassedOver (some_ : below ≠ []) :
    part.KeepsOutOf tree root inner ↔ IsPassedOver root inner below := by
  rw [keepsOutOf_iff_names proper ok free atRoot atInner]
  rcases below with _ | ⟨first, _ | ⟨second, _ | ⟨third, rest⟩⟩⟩
  · exact absurd rfl some_
  · have single :=
      isSubdirectory_iff_of_single proper ok free atRoot atInner room rfl
    have notSub :
        ¬IsSubdirectory tree [inner] root first ↔
          IsPassedOver root inner [first] := by
      rw [single, not_and_or]
      simp [IsPassedOver]
    rw [← notSub]
    constructor
    · exact fun keeps isChapter => keeps.1 first isChapter List.prefix_rfl
    · intro absent
      refine ⟨fun chapter isChapter starts => ?_,
        fun chapter lesson isChapter _ starts => ?_⟩
      · exact absent ((List.cons_prefix_cons.mp starts).1 ▸ isChapter)
      · exact absent ((List.cons_prefix_cons.mp starts).1 ▸ isChapter)
  · have pair :=
      isSubdirectory_iff_of_pair proper ok free atRoot atInner room rfl
    have notSub :
        ¬(IsSubdirectory tree [inner] root first ∧
            IsSubdirectory tree [] (joinPath root first) second) ↔
          IsPassedOver root inner [first, second] := by
      rw [pair, not_and_or]
      simp [IsPassedOver]
    rw [← notSub]
    constructor
    · exact fun keeps both => keeps.2 first second both.1 both.2 List.prefix_rfl
    · intro absent
      refine ⟨fun chapter _ starts => ?_,
        fun chapter lesson isChapter isLesson starts => ?_⟩
      · simpa using starts.length_le
      · obtain ⟨rfl, further⟩ := List.cons_prefix_cons.mp starts
        obtain ⟨rfl, -⟩ := List.cons_prefix_cons.mp further
        exact absent ⟨isChapter, isLesson⟩
  · refine iff_of_true
      ⟨fun chapter _ starts => ?_, fun chapter lesson _ _ starts => ?_⟩
      (.inl (by simp))
    · simpa using starts.length_le
    · simpa using starts.length_le

end

/-- The directory of a locale, for the directory of the tour. -/
def Config.localeRoot (config : Config) (source : String)
    (locale : Locale) : String :=
  (config.locale locale).directory source

/-- What has been read for one locale is kept out of the directory of the other
one just if no subdirectory that is neither hidden nor that directory by its
path leads into it, and no lesson of such a subdirectory does.  Without links
that means that the other directory is passed over. -/
theorem Tour.keepsOutOf_iff {source : String} {config : Config} {tour : Tour}
    (proper : (FileNode.directory tree).IsProper)
    (ok : Tour.read tree source config = .ok tour)
    (member : part ∈ tour.locales) {other : Locale}
    (different : other ≠ part.locale) :
    (part.KeepsOutOf tree (config.localeRoot source part.locale)
        (config.localeRoot source other) ↔
      (∀ chapter,
        IsSubdirectory tree [config.localeRoot source other]
            (config.localeRoot source part.locale) chapter →
          ¬tree.IsWithin (config.localeRoot source other)
            (joinPath (config.localeRoot source part.locale) chapter)) ∧
        ∀ chapter lesson,
          IsSubdirectory tree [config.localeRoot source other]
              (config.localeRoot source part.locale) chapter →
            IsSubdirectory tree []
              (joinPath (config.localeRoot source part.locale) chapter) lesson →
              ¬tree.IsWithin (config.localeRoot source other)
                (joinPath
                  (joinPath (config.localeRoot source part.locale) chapter)
                  lesson)) ∧
      ∀ top below,
        tree.resolve (config.localeRoot source part.locale) = .ok top →
          tree.resolve (config.localeRoot source other) = .ok (top ++ below) →
          below ≠ [] → tree.LinkFreeBelow top →
            (part.KeepsOutOf tree (config.localeRoot source part.locale)
                (config.localeRoot source other) ↔
              IsPassedOver (config.localeRoot source part.locale)
                (config.localeRoot source other) below) := by
  have read := Tour.read_of_mem ok member different
  refine ⟨LocaleTour.keepsOutOf_iff_subdirectories proper read,
    fun top below atRoot atInner some_ free => ?_⟩
  obtain ⟨inner, isInner⟩ := Tour.exists_read_iff.mp ⟨tour, ok⟩ other
  have room := LocaleTour.kind?_of_read isInner atInner
  exact LocaleTour.keepsOutOf_iff_isPassedOver proper read free atRoot
    atInner room some_

/-- A node without links in it. -/
inductive FileNode.IsLinkFree : FileNode → Prop where
  | file (content : List UInt8) : IsLinkFree (.file content)
  | directory {entries : List (String × FileNode)}
      (inner : ∀ entry ∈ entries, entry.2.IsLinkFree) :
      IsLinkFree (.directory entries)

theorem FileNode.IsLinkFree.linkFreeBelow
    (free : (FileNode.directory tree).IsLinkFree) (top : List String) :
    tree.LinkFreeBelow top := by
  intro names target link
  obtain ⟨node, found, same⟩ := Option.map_eq_some_iff.mp link
  have holds : node.IsLinkFree := by
    refine holds_of_at? (fun entries isFree => ?_) free found
    cases isFree with
    | directory inner => exact inner
  cases holds <;> cases same

theorem FileNode.isLinkFree_directory_iff {entries : FileTree} :
    (FileNode.directory entries).IsLinkFree ↔
      ∀ entry ∈ entries, entry.2.IsLinkFree :=
  ⟨fun | .directory inner => inner, .directory⟩

/-- A tree with an English tour of one chapter, with other directories beside
the chapter and beside its lesson. -/
def nestedTree (outer inner : FileTree) : FileTree :=
  let sources : FileTree := [("index.mbt", .file []), ("index.md", .file [])]
  [("tour", .directory
    (("1_a", .directory (("1_b", .directory sources) :: inner)) :: outer ++
      sources))]

/-- The entries of a Chinese root. -/
def nestedRoot : FileTree :=
  let sources : FileTree := [("index.mbt", .file []), ("index.md", .file [])]
  ("1_c", .directory [("1_d", .directory sources)]) :: sources

/-- The Chinese root is where the default settings have it. -/
def besideChapter : FileTree :=
  nestedTree [("zh", .directory nestedRoot)] []

theorem Tour.keepsOutOf_iff_besideChapter :
    (FileNode.directory besideChapter).IsProper ∧
      ∃ tour,
        Tour.read besideChapter "tour" .stock = .ok tour ∧
          ∃ part ∈ tour.locales, part.locale = .en ∧
            part.KeepsOutOf besideChapter "tour" "tour/zh" := by
  have proper : (FileNode.directory besideChapter).IsProper := by
    simp [besideChapter, nestedTree, nestedRoot,
      FileNode.isProper_directory_iff, FileNode.IsProper.file]
  have free : (FileNode.directory besideChapter).IsLinkFree := by
    simp [besideChapter, nestedTree, nestedRoot,
      FileNode.isLinkFree_directory_iff, FileNode.IsLinkFree.file]
  obtain ⟨tour, ok⟩ : ∃ tour,
    Tour.read besideChapter "tour" .stock = .ok tour := by
    refine Tour.exists_read_iff.mpr fun locale => ?_
    cases locale
    · exact (LocaleTour.exists_read_iff (by decide +kernel)).mpr
        (by decide +kernel)
    · exact (LocaleTour.exists_read_iff (by decide +kernel)).mpr
        (by decide +kernel)
  obtain ⟨part, member, isEnglish⟩ := Tour.exists_part_of_read ok .en
  refine ⟨proper, tour, ok, part, member, isEnglish, ?_⟩
  have different : Locale.zh ≠ part.locale := by
    rw [isEnglish]
    decide
  have keeps :=
    (Tour.keepsOutOf_iff proper ok member different).2 ["tour"] ["zh"]
  rw [isEnglish] at keeps
  exact (keeps (eq_ok_of_toOption (by decide +kernel))
    (eq_ok_of_toOption (by decide +kernel)) (by decide)
    (free.linkFreeBelow _)).mpr (.inr (.inr ⟨"zh", rfl, by decide +kernel⟩))

/-- The Chinese root is beside the lesson, with the name of a lesson. -/
def besideLesson : FileTree :=
  nestedTree [] [("2_zh", .directory nestedRoot)]

def besideLessonConfig : Config :=
  { Config.stock with zh := { LocaleConfig.chinese with root := "1_a/2_zh" } }

theorem Tour.not_keepsOutOf_besideLesson :
    besideLessonConfig.fault? = none ∧
      ∃ tour,
        Tour.read besideLesson "tour" besideLessonConfig = .ok tour ∧
          ∃ part ∈ tour.locales,
            part.locale = .en ∧ "1_a/2_zh" ∈ part.lessons.map Lesson.sourceDir ∧
              ¬part.KeepsOutOf besideLesson
                (besideLessonConfig.localeRoot "tour" .en)
                (besideLessonConfig.localeRoot "tour" .zh) := by
  obtain ⟨tour, ok⟩ : ∃ tour,
    Tour.read besideLesson "tour" besideLessonConfig = .ok tour := by
    refine Tour.exists_read_iff.mpr fun locale => ?_
    cases locale
    · exact (LocaleTour.exists_read_iff (by decide +kernel)).mpr
        (by decide +kernel)
    · exact (LocaleTour.exists_read_iff (by decide +kernel)).mpr
        (by decide +kernel)
  obtain ⟨part, member, isEnglish⟩ := Tour.exists_part_of_read ok .en
  have different : Locale.zh ≠ part.locale := by
    rw [isEnglish]
    decide
  have read := Tour.read_of_mem ok member different
  rw [isEnglish] at read
  have isChapter : IsSubdirectory besideLesson ["tour/1_a/2_zh"] "tour" "1_a" :=
    NumberedDirectory.mem_subdirectories_iff.mp (by decide +kernel)
  have isLesson : IsSubdirectory besideLesson [] "tour/1_a" "2_zh" :=
    NumberedDirectory.mem_subdirectories_iff.mp (by decide +kernel)
  have isThere :=
    (LocaleTour.mem_lessonDirs_iff read).mpr
      ⟨"1_a", "2_zh", isChapter, isLesson, rfl⟩
  obtain ⟨lesson, isRead, same⟩ := List.mem_map.mp isThere
  have place :
      besideLesson.resolve "tour/1_a/2_zh" = .ok ["tour", "1_a", "2_zh"] :=
    eq_ok_of_toOption (by decide +kernel)
  refine ⟨by decide, tour, ok, part, member, isEnglish, isThere,
    fun keeps => ?_⟩
  have apart := keeps.lessons lesson isRead
  rw [same] at apart
  exact apart ⟨_, _, place, place, List.prefix_rfl⟩

end LessonSite
