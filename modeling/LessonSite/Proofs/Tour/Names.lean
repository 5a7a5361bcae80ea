import LessonSite.Proofs.Except
import LessonSite.Proofs.FileTree.Follow
import LessonSite.Proofs.Lists
import LessonSite.Proofs.Text.Parts
import LessonSite.Tour.Reader

/-!
# Names in a tour

What is read from a tree of files that a file system can hold has names that a
file system can hold, and so have the segments of the paths that are made of
them.
-/

namespace LessonSite

/-- A node that a file system can hold: there is no slash in a name. -/
inductive FileNode.IsProper : FileNode → Prop where
  | file (content : List UInt8) : IsProper (.file content)
  | link (target : String) : IsProper (.link target)
  | directory {entries : List (String × FileNode)}
      (names : ∀ entry ∈ entries, '/' ∉ entry.1.toList)
      (inner : ∀ entry ∈ entries, entry.2.IsProper) :
      IsProper (.directory entries)

theorem FileNode.isProper_directory_iff {entries : FileTree} :
    (FileNode.directory entries).IsProper ↔
      (∀ entry ∈ entries, '/' ∉ entry.1.toList) ∧
        ∀ entry ∈ entries, entry.2.IsProper :=
  ⟨fun | .directory names inner => ⟨names, inner⟩, fun ⟨names, inner⟩ =>
    .directory names inner⟩

namespace FileTree

variable {tree : FileTree}

/-- What every directory hands down to its entries holds of everything in a
tree. -/
theorem holds_of_at? {Holds : FileNode → Prop}
    (hereditary : ∀ entries,
      Holds (.directory entries) → ∀ entry ∈ entries, Holds entry.2)
    (top : Holds (.directory tree)) {place : List String} {node : FileNode}
    (found : tree.at? place = some node) :
    Holds node := by
  induction place generalizing tree with
  | nil =>
      cases found
      exact top
  | cons name names induction =>
      rw [at?_cons] at found
      cases first : List.lookup name tree with
      | none => simp [first] at found
      | some child =>
          rw [first, Option.bind_some] at found
          have holds := hereditary tree top _ (mem_of_lookup first)
          cases names with
          | nil =>
              cases found
              exact holds
          | cons next names =>
              cases child with
              | file content => cases found
              | link target => cases found
              | directory entries => exact induction holds found

theorem isProper_of_at? (proper : (FileNode.directory tree).IsProper)
    {place : List String}
    {node : FileNode} (found : tree.at? place = some node) : node.IsProper := by
  refine holds_of_at? (fun entries isProper => ?_) proper found
  cases isProper with
  | directory _ inner => exact inner

theorem isProper_of_node (proper : (FileNode.directory tree).IsProper)
    {path : String}
    {node : FileNode} (found : tree.node path = .ok node) : node.IsProper := by
  unfold FileTree.node at found
  split at found
  · cases found
  · split at found
    · next place _ other here =>
        cases found
        exact isProper_of_at? proper here
    · cases found

end FileTree

namespace NumberedDirectory

variable {tree : FileTree} {skipped : List String} {directory : String}

theorem exists_resolve_of_leadsToDirectory {name : String} {result : Bool}
    (ok : leadsToDirectory tree directory name = .ok result) :
    ∃ place, tree.resolve (FileTree.joinPath directory name) = .ok place := by
  unfold leadsToDirectory at ok
  cases resolved : tree.resolve (FileTree.joinPath directory name) with
  | error fault => simp [resolved] at ok
  | ok place => exact ⟨place, rfl⟩

/-- A numbered directory that has been found among some names. -/
structure FoundAmong (tree : FileTree) (directory : String)
    (names : List String) (found : NumberedDirectory) : Prop where
  member : found.name ∈ names
  parsed : EntryName.parse found.name = .ok found.entry
  resolved :
    ∃ place, tree.resolve (FileTree.joinPath directory found.name) = .ok place

theorem foundAmong_of_amongEntries {names : List String}
    {results : List NumberedDirectory}
    (ok : amongEntries tree skipped directory names = .ok results) :
    ∀ found ∈ results, FoundAmong tree directory names found := by
  induction names generalizing results with
  | nil =>
      cases ok
      simp
  | cons name names induction =>
      rw [amongEntries, bind_eq_ok_iff] at ok
      obtain ⟨leads, isThere, ok⟩ := ok
      have resolved := exists_resolve_of_leadsToDirectory isThere
      have later :
          ∀ {others}, amongEntries tree skipped directory names = .ok others →
            ∀ found ∈ others,
              FoundAmong tree directory (name :: names) found := by
        intro others rest found member
        obtain ⟨inside, parsed, resolved⟩ := induction rest found member
        exact ⟨List.mem_cons_of_mem _ inside, parsed, resolved⟩
      split at ok
      · cases parsed : EntryName.parse name with
        | error reason => simp [parsed] at ok
        | ok entry =>
            simp only [parsed] at ok
            obtain ⟨others, rest, ok⟩ := bind_eq_ok_iff.mp ok
            cases ok
            intro found member
            rcases List.mem_cons.mp member with rfl | old
            · exact ⟨List.mem_cons_self, parsed, resolved⟩
            · exact later rest found old
      · exact later ok

theorem foundAmong_of_list {results : List NumberedDirectory}
    (ok : list tree skipped directory = .ok results) :
    ∀ found ∈ results, ∃ names, entryNames tree directory = .ok names ∧
      FoundAmong tree directory names found := by
  unfold list at ok
  obtain ⟨names, listed, ok⟩ := bind_eq_ok_iff.mp ok
  obtain ⟨others, among, ok⟩ := bind_eq_ok_iff.mp ok
  dsimp only at ok
  split at ok
  · cases ok
  · cases ok
    intro found member
    exact ⟨names, listed,
      foundAmong_of_amongEntries among found (List.mem_mergeSort.mp member)⟩

theorem no_slash_of_entryNames (proper : (FileNode.directory tree).IsProper)
    {names : List String}
    (listed : entryNames tree directory = .ok names) {name : String}
    (member : name ∈ names) :
    '/' ∉ name.toList := by
  unfold entryNames at listed
  split at listed
  · cases listed
  · next entries node =>
      cases listed
      obtain ⟨entry, inside, rfl⟩ :=
        List.mem_map.mp (List.mem_mergeSort.mp member)
      cases FileTree.isProper_of_node proper node with
      | directory names _ => exact names entry inside
  · cases listed
    cases member

end NumberedDirectory

/-- A text that can be a name in a directory, apart from the names of the
directories around it. -/
structure IsSegment (name : String) : Prop where
  ne_empty : name ≠ ""
  noSlash : '/' ∉ name.toList
  noNul : '\x00' ∉ name.toList
  short : FileTree.fits name

/-- The name of an entry follows the first underscore. -/
theorem EntryName.parse_eq_ok {text : String} {entry : EntryName}
    (parsed : EntryName.parse text = .ok entry) :
    ∃ before separator, text.toList = before ++ separator :: entry.name.toList ∧
      entry.name.toList ≠ [] := by
  unfold EntryName.parse at parsed
  simp only at parsed
  split at parsed
  · cases parsed
  · next separator name ends =>
      split at parsed
      · cases parsed
      · split at parsed
        · cases parsed
        · next number _ nonempty =>
            cases parsed
            refine ⟨text.toList.takeWhile (· ≠ '_'), separator, ?_, ?_⟩
            · rw [String.toList_ofList, ← ends, List.takeWhile_append_dropWhile]
            · rwa [String.toList_ofList]

private theorem length_encode_ofList_map {change : Char → Char}
    (same : ∀ character,
      (Utf8.encodeChar (change character)).length =
        (Utf8.encodeChar character).length)
    (characters : List Char) :
    (Utf8.encode (String.ofList (characters.map change))).length =
      (characters.flatMap Utf8.encodeChar).length := by
  rw [Utf8.encode, String.toList_ofList]
  induction characters with
  | nil => rfl
  | cons character characters induction => simp [same, induction]

private theorem length_encodeChar_replace {source target : Char}
    (ascii : (Utf8.encodeChar target).length = (Utf8.encodeChar source).length)
    (character : Char) :
    (Utf8.encodeChar
        (if character = source then target else character)).length =
      (Utf8.encodeChar character).length := by
  by_cases same : character = source
  · rw [if_pos same, same, ascii]
  · rw [if_neg same]

theorem length_encode_replaceChar {source target : Char}
    (ascii : (Utf8.encodeChar target).length = (Utf8.encodeChar source).length)
    (text : String) :
    (Utf8.encode (Text.replaceChar source target text)).length =
      (Utf8.encode text).length :=
  length_encode_ofList_map (length_encodeChar_replace ascii) text.toList

theorem mem_replaceChar {source target character : Char} {text : String}
    (member : character ∈ (Text.replaceChar source target text).toList) :
    character = target ∨ character ∈ text.toList := by
  rw [Text.replaceChar, String.toList_ofList] at member
  obtain ⟨other, inside, same⟩ := List.mem_map.mp member
  split at same
  · exact .inl same.symm
  · exact .inr (same ▸ inside)

/-- The segment for an entry consists of characters of its name, blanks and
hyphens. -/
theorem EntryName.mem_slugSegment {entry : EntryName} {character : Char}
    (member : character ∈ (LessonSite.slugSegment entry.displayTitle).toList) :
    character = '-' ∨ character = ' ' ∨ character ∈ entry.name.toList := by
  rcases mem_replaceChar member with hyphen | inTitle
  · exact .inl hyphen
  · exact .inr (mem_replaceChar inTitle)

theorem EntryName.length_encode_slugSegment (entry : EntryName) :
    (Utf8.encode (LessonSite.slugSegment entry.displayTitle)).length =
      (Utf8.encode entry.name).length := by
  rw [LessonSite.slugSegment, length_encode_replaceChar (by decide),
    EntryName.displayTitle, length_encode_replaceChar (by decide)]

theorem EntryName.slugSegment_ne_empty {entry : EntryName}
    (nonempty : entry.name.toList ≠ []) :
    LessonSite.slugSegment entry.displayTitle ≠ "" := by
  intro empty
  have characters := congrArg String.toList empty
  simp [LessonSite.slugSegment, EntryName.displayTitle,
    Text.replaceChar] at characters
  exact nonempty (by simpa using characters)

/-- A name that has been found is not too long for a directory. -/
theorem fits_of_resolve {tree : FileTree} {directory name : String}
    {place : List String}
    (resolved : tree.resolve (FileTree.joinPath directory name) = .ok place)
    (noSlash : '/' ∉ name.toList) (moves : ¬FileTree.staysAt name) :
    FileTree.fits name := by
  obtain ⟨-, -, -, left, leads⟩ := FileTree.resolve_eq_ok_iff.mp resolved
  obtain ⟨names, spelled⟩ :=
    FileTree.exists_pathNames_joinPath_name directory noSlash
  rw [spelled] at leads
  obtain ⟨middle, between, -, last⟩ := leads.split
  obtain ⟨-, ⟨stays, -⟩ | ⟨-, short, -⟩⟩ := last.single
  · exact absurd stays moves
  · exact short

/-- The segment for a numbered directory is one that a file system can hold. -/
theorem NumberedDirectory.isSegment {tree : FileTree}
    (proper : (FileNode.directory tree).IsProper)
    {skipped : List String} {directory : String}
    {results : List NumberedDirectory}
    (listed : list tree skipped directory = .ok results)
    {found : NumberedDirectory}
    (member : found ∈ results) :
    IsSegment (slugSegment found.entry.displayTitle) := by
  obtain ⟨names, entries, among⟩ := foundAmong_of_list listed found member
  obtain ⟨before, separator, text, nonempty⟩ :=
    EntryName.parse_eq_ok among.parsed
  obtain ⟨place, resolved⟩ := among.resolved
  have noSlash := no_slash_of_entryNames proper entries among.member
  have inside :
      ∀ character ∈ found.entry.name.toList, character ∈ found.name.toList := by
    intro character inner
    rw [text]
    exact List.mem_append_right _ (List.mem_cons_of_mem _ inner)
  have moves : ¬FileTree.staysAt found.name := by
    rintro (empty | dot)
    · simp [empty] at text
    · rw [dot] at text
      cases before with
      | nil => exact nonempty (List.cons.inj text).2.symm
      | cons first before => simpa using congrArg List.length text
  refine ⟨EntryName.slugSegment_ne_empty nonempty, ?_, ?_, ?_⟩
  · intro slash
    rcases EntryName.mem_slugSegment slash with other | other | inner
    · cases other
    · cases other
    · exact noSlash (inside _ inner)
  · intro nul
    rcases EntryName.mem_slugSegment nul with other | other | inner
    · cases other
    · cases other
    · exact (FileTree.resolve_eq_ok_iff.mp resolved).1
        (FileTree.mem_joinPath_of_mem (inside _ inner))
  · have short := fits_of_resolve resolved noSlash moves
    have shorter :
        (Utf8.encode found.entry.name).length ≤
          (Utf8.encode found.name).length := by
      rw [Utf8.encode, Utf8.encode, text, List.flatMap_append,
        List.flatMap_cons, List.length_append, List.length_append]
      omega
    unfold FileTree.fits at short ⊢
    rw [EntryName.length_encode_slugSegment]
    exact Nat.le_trans shorter short

/-- The lesson belongs to a locale, and its chapter and itself have names that
give segments. -/
structure Lesson.IsNamed (locale : Locale) (lesson : Lesson) : Prop where
  locale_eq : lesson.locale = locale
  chapter : IsSegment (slugSegment lesson.chapter)
  lesson : IsSegment (slugSegment lesson.lesson)

theorem Chapter.mem_countLessons {total next : Nat} {lessons : List Lesson}
    {lesson : Lesson} (member : lesson ∈ countLessons total next lessons) :
    ∃ original ∈ lessons, ∃ index, lesson = { original with index, total } := by
  induction lessons generalizing next with
  | nil => cases member
  | cons first lessons induction =>
      rcases List.mem_cons.mp member with rfl | later
      · exact ⟨first, List.mem_cons_self, next, rfl⟩
      · obtain ⟨original, inside, index, same⟩ := induction later
        exact ⟨original, List.mem_cons_of_mem _ inside, index, same⟩

theorem Chapter.mem_countFrom {total next : Nat} {chapters : List Chapter}
    {lesson : Lesson}
    (member : lesson ∈
      (countFrom total next chapters).flatMap Chapter.lessons) :
    ∃ original ∈ chapters.flatMap Chapter.lessons, ∃ index,
      lesson = { original with index, total } := by
  induction chapters generalizing next with
  | nil => cases member
  | cons chapter chapters induction =>
      rw [countFrom, List.flatMap_cons, List.mem_append] at member
      rcases member with first | later
      · obtain ⟨original, inside, same⟩ := mem_countLessons first
        exact ⟨original,
          List.mem_flatMap.mpr ⟨chapter, List.mem_cons_self, inside⟩, same⟩
      · obtain ⟨original, inside, same⟩ := induction later
        rw [List.flatMap_cons]
        exact ⟨original, List.mem_append_right _ inside, same⟩

variable {tree : FileTree}

theorem Lesson.read_eq_ok {extension root : String} {locale : Locale}
    {chapter directory : NumberedDirectory} {lesson : Lesson}
    (ok : Lesson.read tree extension locale root chapter directory =
      .ok lesson) :
    lesson.locale = locale ∧ lesson.chapter = chapter.entry.displayTitle ∧
      lesson.lesson = directory.entry.displayTitle := by
  unfold Lesson.read at ok
  obtain ⟨⟨markdown, code⟩, -, ok⟩ := bind_eq_ok_iff.mp ok
  cases ok
  exact ⟨rfl, rfl, rfl⟩

theorem Chapter.read_isNamed (proper : (FileNode.directory tree).IsProper)
    {extension root : String} {locale : Locale} {directory : NumberedDirectory}
    {chapter : Chapter}
    (segment : IsSegment (slugSegment directory.entry.displayTitle))
    (ok : Chapter.read tree extension locale root directory = .ok chapter) :
    ∀ lesson ∈ chapter.lessons, lesson.IsNamed locale := by
  unfold Chapter.read at ok
  obtain ⟨found, listed, ok⟩ := bind_eq_ok_iff.mp ok
  obtain ⟨lessons, read, ok⟩ := bind_eq_ok_iff.mp ok
  split at ok
  · cases ok
  · cases ok
    intro lesson member
    obtain ⟨source, inside, one⟩ := mem_of_mapM_eq_ok read member
    obtain ⟨sameLocale, sameChapter, sameLesson⟩ := Lesson.read_eq_ok one
    refine ⟨sameLocale, ?_, ?_⟩
    · rw [sameChapter]
      exact segment
    · rw [sameLesson]
      exact NumberedDirectory.isSegment proper listed inside

theorem LocaleTour.read_isNamed (proper : (FileNode.directory tree).IsProper)
    {locale : Locale}
    {extension root : String} {skipped : List String} {part : LocaleTour}
    (ok : LocaleTour.read tree locale extension root skipped = .ok part) :
    part.locale = locale ∧ ∀ lesson ∈ part.lessons, lesson.IsNamed locale := by
  unfold LocaleTour.read at ok
  obtain ⟨⟨markdown, code⟩, -, ok⟩ := bind_eq_ok_iff.mp ok
  obtain ⟨found, listed, ok⟩ := bind_eq_ok_iff.mp ok
  obtain ⟨chapters, read, ok⟩ := bind_eq_ok_iff.mp ok
  split at ok
  · cases ok
  · cases ok
    refine ⟨rfl, ?_⟩
    intro lesson member
    obtain ⟨original, inside, index, rfl⟩ := Chapter.mem_countFrom member
    obtain ⟨chapter, isChapter, isLesson⟩ := List.mem_flatMap.mp inside
    obtain ⟨source, isSource, one⟩ := mem_of_mapM_eq_ok read isChapter
    have named :=
      Chapter.read_isNamed proper
        (NumberedDirectory.isSegment proper listed isSource)
        one original isLesson
    exact ⟨named.locale_eq, named.chapter, named.lesson⟩

/-- A tour that has been read has one part for each locale, with names that give
segments. -/
theorem Tour.read_eq_ok (proper : (FileNode.directory tree).IsProper)
    {source : String}
    {config : Config} {tour : Tour}
    (ok : Tour.read tree source config = .ok tour) :
    ∃ english chinese,
      tour.locales = [english, chinese] ∧ english.locale = .en ∧
        chinese.locale = .zh ∧ ∀ part ∈ tour.locales, ∀ lesson ∈ part.lessons,
          lesson.IsNamed part.locale := by
  unfold Tour.read at ok
  obtain ⟨locales, read, ok⟩ := bind_eq_ok_iff.mp ok
  cases ok
  rw [Locale.all, List.mapM_cons, bind_eq_ok_iff] at read
  obtain ⟨english, first, read⟩ := read
  obtain ⟨others, rest, read⟩ := bind_eq_ok_iff.mp read
  rw [List.mapM_cons, bind_eq_ok_iff] at rest
  obtain ⟨chinese, second, rest⟩ := rest
  cases rest
  cases read
  obtain ⟨isEnglish, namedEnglish⟩ := LocaleTour.read_isNamed proper first
  obtain ⟨isChinese, namedChinese⟩ := LocaleTour.read_isNamed proper second
  refine ⟨english, chinese, rfl, isEnglish, isChinese, ?_⟩
  intro part member
  rcases List.mem_cons.mp member with rfl | last
  · rw [isEnglish]
    exact namedEnglish
  · cases List.mem_singleton.mp last
    rw [isChinese]
    exact namedChinese

end LessonSite
