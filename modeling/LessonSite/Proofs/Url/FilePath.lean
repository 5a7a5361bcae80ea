import LessonSite.Client.RouteData
import LessonSite.Proofs.Url.Write

/-!
# Files that addresses name

The segments of an address are put below the address of a directory as a text.
They come to stand there, unless they begin like an address of their own.
-/

namespace LessonSite.Url

theorem pathNames_eq (path : String) :
    pathNames path =
      (FileTree.pathNames path).filter fun name => name != "" && name != "." :=
  rfl

theorem intercalate_slash (names : List String) :
    "/".intercalate names = joinNames names := by
  induction names with
  | nil => rfl
  | cons name names induction =>
      cases names with
      | nil => exact String.intercalate_singleton
      | cons next names =>
          rw [String.intercalate_cons_cons, induction, joinNames]

theorem not_mem_of_mem_pathNames {path name : String}
    (member : name ∈ FileTree.pathNames path) :
    '/' ∉ name.toList := by
  obtain ⟨part, isPart, rfl⟩ := List.mem_map.mp member
  rw [String.toList_ofList]
  intro slash
  exact (Text.mem_of_mem_splitChars isPart slash).2 rfl

theorem pathNames_tidyPath (path : String) :
    pathNames (tidyPath path) = pathNames path := by
  have kept :
      ∀ name ∈ pathNames path,
        (name != "" && name != ".") = true ∧ '/' ∉ name.toList := by
    intro name member
    rw [pathNames_eq, List.mem_filter] at member
    exact ⟨member.2, not_mem_of_mem_pathNames member.1⟩
  have again :
      (pathNames path).filter (fun name => name != "" && name != ".") =
        pathNames path :=
    List.filter_eq_self.mpr fun name member => (kept name member).1
  by_cases none_ : pathNames path = []
  · unfold tidyPath
    rw [none_]
    simp [pathNames, Text.splitOn, Text.splitChars]
  · have names :
        FileTree.pathNames (joinNames (pathNames path)) = pathNames path :=
      pathNames_joinNames none_ fun name member => (kept name member).2
    rw [pathNames_eq, tidyPath, intercalate_slash]
    split
    · have spelled : "/" ++ joinNames (pathNames path) ++ "/" =
          "" ++ "/" ++ (joinNames (pathNames path) ++ "/" ++ "") := by
        rw [String.append_empty, String.empty_append, String.append_assoc]
      rw [spelled, FileTree.pathNames_append, FileTree.pathNames_append, names]
      simp [again]
    · have spelled : "/" ++ joinNames (pathNames path) ++ "" =
          "" ++ "/" ++ joinNames (pathNames path) := by
        rw [String.append_empty, String.empty_append]
      rw [spelled, FileTree.pathNames_append, names]
      simp [again]

/-- The segment of the address of a directory that is written for a name. -/
def directorySegment (name : String) : String :=
  String.ofList (escape EscapeSet.segment name.toList)

theorem unescape_directorySegment (name : String) :
    unescape (directorySegment name).toList = Utf8.encode name := by
  rw [directorySegment, String.toList_ofList,
    unescape_escape_of_percent (by decide)]
  rfl

theorem path_ofDirectory (path : String) :
    (ofDirectory path).path =
      .rooted ((pathNames path).map directorySegment ++ [""]) :=
  rfl

theorem directories_ofDirectory (path : String) :
    (ofDirectory path).directories = (pathNames path).map directorySegment := by
  unfold directories
  rw [path_ofDirectory]
  have noDrive : isDrive [] = false := by decide
  simp [noDrive]

/-- The text begins with a scheme, if a letter begins it and a colon ends it. -/
theorem isSome_splitScheme? (text : List Char) :
    (splitScheme? text).isSome =
      (text.head?.any Char.isAlpha &&
        (text.dropWhile isSchemeCharacter).head? == some ':') := by
  cases text with
  | nil => rfl
  | cons first others =>
      simp only [splitScheme?, List.head?_cons, Option.any_some]
      split
      · next letter =>
          split
          · next rest colon => simp [letter, colon]
          · next noColon =>
              cases after : (first :: others).dropWhile isSchemeCharacter with
              | nil => simp
              | cons mark rest =>
                  have different : mark ≠ ':' := by
                    rintro rfl
                    exact noColon rest after
                  simp [different]
      · next noLetter => simp [noLetter]

private theorem head?_dropWhile_slash (text rest : List Char) :
    (((text ++ '/' :: rest).dropWhile isSchemeCharacter).head? == some ':') =
      ((text.dropWhile isSchemeCharacter).head? == some ':') := by
  induction text with
  | nil =>
      rw [List.nil_append, List.dropWhile_cons_of_neg (by decide)]
      rfl
  | cons first others induction =>
      rw [List.cons_append]
      by_cases inside : isSchemeCharacter first = true
      · rw [List.dropWhile_cons_of_pos inside,
          List.dropWhile_cons_of_pos inside, induction]
      · rw [List.dropWhile_cons_of_neg inside,
          List.dropWhile_cons_of_neg inside]
        rfl

theorem splitScheme?_slash (text rest : List Char) :
    (splitScheme? (text ++ '/' :: rest)).isSome =
      (splitScheme? text).isSome := by
  rw [isSome_splitScheme?, isSome_splitScheme?, head?_dropWhile_slash]
  cases text <;> rfl

private theorem escapeChar_path {character : Char}
    (ascii : character.toNat < 0x80) (kept : EscapeSet.path character = false) :
    escapeChar EscapeSet.path character = [character] := by
  rcases escapeChar_cases EscapeSet.path character with
    same | ⟨large | escaped, -⟩
  · exact same
  · omega
  · rw [kept] at escaped
    cases escaped

private theorem escapeChar_schemeCharacter {character : Char}
    (isScheme : isSchemeCharacter character = true) :
    escapeChar EscapeSet.path character = [character] := by
  have range :
      0x2B ≤ character.toNat ∧ character.toNat < 0x7B ∧ character.toNat ≠ 0x3C ∧
        character.toNat ≠ 0x3E ∧ character.toNat ≠ 0x3F ∧
        character.toNat ≠ 0x60 := by
    have code : character.toNat = character.val.toNat := rfl
    have codes : 'A'.val.toNat = 65 ∧ 'Z'.val.toNat = 90 ∧ 'a'.val.toNat = 97 ∧
      'z'.val.toNat = 122 ∧ '0'.val.toNat = 48 ∧ '9'.val.toNat = 57 := by decide
    have letters : character.isAlpha =
      (decide ('A'.val ≤ character.val ∧ character.val ≤ 'Z'.val) ||
        decide ('a'.val ≤ character.val) && decide (character.val ≤ 'z'.val)) :=
      rfl
    simp only [isSchemeCharacter, Char.isAlphanum, letters, Char.isDigit,
      Bool.or_eq_true, Bool.and_eq_true, decide_eq_true_eq, beq_iff_eq,
      ge_iff_le, UInt32.le_iff_toNat_le] at isScheme
    rcases isScheme with (((letter | digit) | rfl) | rfl) | rfl
    · omega
    · omega
    all_goals decide
  refine escapeChar_path (by omega) ?_
  simp only [EscapeSet.path, EscapeSet.fragment, EscapeSet.control,
    Bool.or_eq_false_iff, decide_eq_false_iff_not, List.contains_eq_mem,
    List.mem_cons, List.not_mem_nil, or_false]
  refine ⟨⟨⟨by omega, by omega⟩, ?_⟩, ?_⟩
  · rintro (rfl | rfl | rfl | rfl | rfl) <;> revert range <;> decide
  · rintro (rfl | rfl | rfl | rfl) <;> revert range <;> decide

private theorem head?_dropWhile_escape (text : List Char) :
    (((escape EscapeSet.path text).dropWhile isSchemeCharacter).head? ==
        some ':') =
      ((text.dropWhile isSchemeCharacter).head? == some ':') := by
  induction text with
  | nil => rfl
  | cons first others induction =>
      rw [escape, List.flatMap_cons, ← escape]
      by_cases inside : isSchemeCharacter first = true
      · rw [escapeChar_schemeCharacter inside, List.singleton_append,
          List.dropWhile_cons_of_pos inside, List.dropWhile_cons_of_pos inside,
          induction]
      · rw [List.dropWhile_cons_of_neg inside]
        rcases escapeChar_cases EscapeSet.path first with
          same | ⟨escaped, high, low, rest, same⟩
        · rw [same, List.singleton_append, List.dropWhile_cons_of_neg inside]
          rfl
        · have different : first ≠ ':' := by
            rintro rfl
            revert escaped
            decide
          rw [same, List.cons_append, List.dropWhile_cons_of_neg (by decide)]
          simp [different]

/-- A segment begins with a scheme just if the name does. -/
theorem splitScheme?_pathSegment (name : String) :
    (splitScheme? (pathSegment name).toList).isSome =
      (splitScheme? name.toList).isSome := by
  rw [toList_pathSegment, isSome_splitScheme?, isSome_splitScheme?,
    head?_dropWhile_escape]
  cases text : name.toList with
  | nil => rfl
  | cons first others =>
      rw [escape, List.flatMap_cons]
      rcases escapeChar_cases EscapeSet.path first with
        same | ⟨escaped, high, low, rest, same⟩
      · rw [same]
        rfl
      · have noLetter : first.isAlpha = false := by
          rw [← Bool.not_eq_true]
          intro isLetter
          have isScheme : isSchemeCharacter first = true := by
            simp [isSchemeCharacter, Char.isAlphanum, isLetter]
          rw [escapeChar_schemeCharacter isScheme] at same
          cases same
        rw [same]
        simp [noLetter]

private theorem exists_of_escape_eq_cons {set : EscapeSet}
    {text rest : List Char} {first : Char}
    (same : escape set text = first :: rest) (literal : first ≠ '%') :
    ∃ others, text = first :: others ∧ escape set others = rest := by
  cases text with
  | nil => cases same
  | cons character others =>
      rw [escape, List.flatMap_cons, ← escape] at same
      rcases escapeChar_cases set character with
        kept | ⟨-, high, low, tail, escaped⟩
      · rw [kept] at same
        obtain ⟨rfl, rest⟩ := List.cons.inj same
        exact ⟨others, rfl, rest⟩
      · rw [escaped] at same
        exact absurd (List.cons.inj same).1.symm literal

private theorem eq_nil_of_escape_eq_nil {set : EscapeSet} {text : List Char}
    (same : escape set text = []) : text = [] := by
  cases text with
  | nil => rfl
  | cons character others =>
      rw [escape, List.flatMap_cons, List.append_eq_nil_iff] at same
      rcases escapeChar_cases set character with
        kept | ⟨-, high, low, tail, escaped⟩
      · rw [kept] at same
        cases same.1
      · rw [escaped] at same
        cases same.1

theorem isDrive_iff {text : List Char} :
    isDrive text = true ↔
      ∃ letter mark,
        text = [letter, mark] ∧ letter.isAlpha = true ∧
          (mark = ':' ∨ mark = '|') := by
  constructor
  · intro drive
    unfold isDrive at drive
    split at drive
    · next letter mark =>
        simp only [Bool.and_eq_true, Bool.or_eq_true, beq_iff_eq] at drive
        exact ⟨letter, mark, rfl, drive.1, drive.2⟩
    · cases drive
  · rintro ⟨letter, mark, rfl, isLetter, rfl | rfl⟩
    · simp [isDrive, isLetter]
    · simp [isDrive, isLetter]

theorem isDrive_pathSegment (name : String) :
    isDrive (pathSegment name).toList = isDrive name.toList := by
  rw [toList_pathSegment, Bool.eq_iff_iff, isDrive_iff, isDrive_iff]
  constructor
  · rintro ⟨letter, mark, same, isLetter, isMark⟩
    have noPercent : letter ≠ '%' := by
      rintro rfl
      revert isLetter
      decide
    obtain ⟨others, text, later⟩ := exists_of_escape_eq_cons same noPercent
    obtain ⟨more, rest, none_⟩ :=
      exists_of_escape_eq_cons later
        (by rcases isMark with rfl | rfl <;> decide)
    obtain rfl := eq_nil_of_escape_eq_nil none_
    exact ⟨letter, mark, by rw [text, rest], isLetter, isMark⟩
  · rintro ⟨letter, mark, same, isLetter, isMark⟩
    have isScheme : isSchemeCharacter letter = true := by
      simp [isSchemeCharacter, Char.isAlphanum, isLetter]
    have kept : escapeChar EscapeSet.path mark = [mark] := by
      rcases isMark with rfl | rfl <;> decide
    refine ⟨letter, mark, ?_, isLetter, isMark⟩
    rw [same, escape, List.flatMap_cons, List.flatMap_cons,
      escapeChar_schemeCharacter isScheme, kept]
    rfl

theorem startsWithDrive_inner {text : List Char} (inner : ∀ character ∈ text,
      isSlash true character = false ∧ endsPath character = false) :
    startsWithDrive text = isDrive text := by
  match text with
  | [] => rfl
  | [letter] => rfl
  | [letter, mark] => simp [startsWithDrive, isDrive]
  | letter :: mark :: next :: others =>
      have plain := inner next (by simp)
      simp [startsWithDrive, isDrive, plain.1, plain.2]

theorem startsWithDrive_slash {text : List Char} (inner : ∀ character ∈ text,
      isSlash true character = false ∧ endsPath character = false)
    (rest : List Char) :
    startsWithDrive (text ++ '/' :: rest) = isDrive text := by
  have slash : (isSlash true '/' || endsPath '/') = true := by decide
  match text with
  | [] => cases rest <;> rfl
  | [letter] => simp [startsWithDrive, isDrive]
  | [letter, mark] =>
      simp only [List.cons_append, List.nil_append, startsWithDrive, slash,
        Bool.and_true]
  | letter :: mark :: next :: others =>
      have plain := inner next (by simp)
      simp [startsWithDrive, isDrive, plain.1, plain.2]

/-- The segment may come first in a text that is put below the address of a
directory. -/
structure IsRelative (segment : String) : Prop where
  ne_empty : segment ≠ ""
  noScheme : (splitScheme? segment.toList).isSome = false
  noDrive : isDrive segment.toList = false

theorem joinNames_cons (first : String) (others : List String) :
    (joinNames (first :: others)).toList = first.toList ∨
      ∃ rest,
        (joinNames (first :: others)).toList = first.toList ++ '/' :: rest := by
  cases others with
  | nil => exact .inl rfl
  | cons next others =>
      refine .inr ⟨(joinNames (next :: others)).toList, ?_⟩
      rw [joinNames, String.toList_append, String.toList_append,
        List.append_assoc]
      rfl

theorem IsWritten.isInner {segment : String} (written : IsWritten segment) :
    ∀ character ∈ segment.toList,
      isSlash true character = false ∧ endsPath character = false := by
  intro character member
  refine ⟨?_, written.not_endsPath member⟩
  simp only [isSlash, Bool.true_and, Bool.or_eq_false_iff, beq_eq_false_iff_ne]
  constructor
  · rintro rfl
    exact written.noSlash member
  · rintro rfl
    exact written.noBackslash member

private theorem startsWithDrive_joinNames {first : String}
    (written : IsWritten first)
    (noDrive : isDrive first.toList = false) (others : List String) :
    startsWithDrive (joinNames (first :: others)).toList = false := by
  rcases joinNames_cons first others with alone | ⟨rest, more⟩
  · rw [alone, startsWithDrive_inner written.isInner, noDrive]
  · rw [more, startsWithDrive_slash written.isInner, noDrive]

private theorem splitScheme?_joinNames {first : String}
    (noScheme : (splitScheme? first.toList).isSome = false)
    (others : List String) :
    splitScheme? (joinNames (first :: others)).toList = none := by
  rw [← Option.not_isSome_iff_eq_none, Bool.not_eq_true]
  rcases joinNames_cons first others with alone | ⟨rest, more⟩
  · rw [alone, noScheme]
  · rw [more, splitScheme?_slash, noScheme]

/-- Below a directory whose address has names, a path is resolved to what it
says. -/
theorem withPathFrom_ofDirectory {path : String} (below : pathNames path ≠ [])
    {segments : List String}
    (some_ : segments ≠ [])
    (written : ∀ segment ∈ segments, IsWritten segment) :
    (ofDirectory path).withPathFrom (ofDirectory path).directories
        (joinNames segments).toList =
      { emptyFile with
        path :=
          .rooted ((pathNames path).map directorySegment ++ segments) } := by
  have noEnd :
      ∀ character ∈ (joinNames segments).toList,
        (!endsPath character) = true := by
    intro character member
    rw [joinNames_not_endsPath written character member]
    rfl
  have inner : (pathNames path).map directorySegment ≠ [] := by
    simpa using below
  obtain ⟨top, names, spelled⟩ := List.exists_cons_of_ne_nil below
  have start :
      dropEmptyStart ((pathNames path).map directorySegment ++ segments) =
        (pathNames path).map directorySegment ++ segments := by
    have nonempty : directorySegment top ≠ "" := by
      intro empty
      have bytes := unescape_directorySegment top
      rw [empty] at bytes
      have same : top = "" := Utf8.encode_injective bytes.symm
      have member : top ∈ pathNames path := spelled ▸ List.mem_cons_self
      rw [pathNames_eq, List.mem_filter] at member
      simp [same] at member
    rw [spelled, List.map_cons, List.cons_append]
    unfold dropEmptyStart
    split
    · next same => exact absurd (List.cons.inj same).1 nonempty
    · rfl
  have isFile : ((ofDirectory path).scheme == "file") = true := rfl
  unfold withPathFrom
  rw [takeWhile_of_all noEnd, dropWhile_of_all noEnd, directories_ofDirectory]
  simp only [resolvePath, isFile, if_true, readTail,
    walk_splitPath_of_isWritten (.inr inner) some_ written, start]
  rfl

/-- A text that begins neither with a slash nor with a drive is resolved from
the directory. -/
theorem readFile_relative {base : Url} {first : Char} {rest : List Char}
    (noSlash : isSlash true first = false) (noEnd : endsPath first = false)
    (noDrive : startsWithDrive (first :: rest) = false) :
    readFile (some base) (first :: rest) =
      .ok (base.withPathFrom base.directories (first :: rest)) := by
  have goesOn : ¬(first = '?' ∨ first = '#') := by
    simpa [endsPath] using noEnd
  have single : readFile.single (some base) (first :: rest) =
      .ok (base.withPathFrom base.directories (first :: rest)) := by
    simp only [readFile.single, noSlash, Bool.false_eq_true, if_false, goesOn,
      noDrive]
  cases rest with
  | nil => exact single
  | cons second rest =>
      simp only [readFile, noSlash, Bool.false_and, Bool.false_eq_true,
        if_false, single]

/-- A path that begins with a relative segment is put below the address of a
directory. -/
theorem join_ofDirectory {path : String} (below : pathNames path ≠ [])
    {first : String} (relative : IsRelative first) {others : List String}
    (written : ∀ segment ∈ first :: others, IsWritten segment) :
    (ofDirectory path).join (joinNames (first :: others)) =
      .ok { emptyFile with
        path :=
          .rooted
            ((pathNames path).map directorySegment ++ first :: others) } := by
  have shown :
      ∀ character ∈ (joinNames (first :: others)).toList,
        0x20 < character.toNat := by
    intro character member
    rcases mem_joinNames member with rfl | ⟨segment, isSegment, inside⟩
    · decide
    · exact (written segment isSegment).shown inside
  have isWritten := written first List.mem_cons_self
  have begins : ∃ letter letters, first.toList = letter :: letters :=
    List.exists_cons_of_ne_nil (by simpa using relative.ne_empty)
  obtain ⟨letter, letters, characters⟩ := begins
  have text :
      ∃ rest, (joinNames (first :: others)).toList = letter :: rest := by
    rcases joinNames_cons first others with alone | ⟨rest, more⟩
    · exact ⟨letters, alone.trans characters⟩
    · exact ⟨letters ++ '/' :: rest, by rw [more, characters]; rfl⟩
  obtain ⟨rest, text⟩ := text
  obtain ⟨noSlash, noEnd⟩ :=
    isWritten.isInner letter (characters ▸ List.mem_cons_self)
  have noDrive := startsWithDrive_joinNames isWritten relative.noDrive others
  have noScheme := splitScheme?_joinNames relative.noScheme others
  rw [text] at noDrive
  unfold join readWith
  rw [significant_of_shown shown]
  simp only [noScheme]
  rw [← withPathFrom_ofDirectory below (List.cons_ne_nil first others) written,
    text]
  exact readFile_relative noSlash noEnd noDrive

/-- The bytes of a path, whose names are given by their bytes. -/
def pathBytes (names : List (List UInt8)) : List UInt8 :=
  names.flatMap fun name => 0x2F :: name

/-- The bytes of the names of a path are those of its text. -/
theorem encode_slash_joinNames {names : List String} (some_ : names ≠ []) :
    Utf8.encode ("/" ++ joinNames names) =
      pathBytes (names.map Utf8.encode) := by
  rw [← write_rooted some_]
  clear some_
  induction names with
  | nil => rfl
  | cons name names induction =>
      have text :
          (Path.rooted (name :: names)).write =
            "/" ++ name ++ (Path.rooted names).write := by
        simp [Path.write, String.join_cons]
      have slash : Utf8.encode "/" = [0x2F] := by decide
      rw [text, Utf8.encode_append, Utf8.encode_append, induction, slash]
      rfl

/-- The path of a file that is called like one of a site has no drive at its
end. -/
theorem filePathBytes?_index (segments : List String) :
    ({ emptyFile with
        path := .rooted (segments ++ ["index.json"]) } : Url).filePathBytes? =
      some
        (pathBytes
          ((segments ++ ["index.json"]).map fun segment =>
            unescape segment.toList)) := by
  have last : 0x2F :: unescape "index.json".toList =
      [0x2F, 0x69, 0x6E, 0x64, 0x65, 0x78, 0x2E, 0x6A, 0x73, 0x6F, 0x6E] := by
    decide
  have noDrive :
      isDrive
        [Char.ofNat (0x6F : UInt8).toNat, Char.ofNat (0x6E : UInt8).toNat] =
        false := by
    decide
  have bytes : filePathBytes?.write (segments ++ ["index.json"]) =
      pathBytes
        ((segments ++ ["index.json"]).map fun segment =>
          unescape segment.toList) := by
    rw [pathBytes, List.flatMap_map, List.flatMap_append,
      List.flatMap_singleton, last]
    simp only [filePathBytes?.write, List.flatMap_append,
      List.flatMap_singleton, last, List.reverse_append, List.reverse_cons,
      List.reverse_nil, List.nil_append, List.cons_append, noDrive,
      Bool.false_eq_true, if_false]
  rw [← bytes]
  obtain ⟨first, others, spelled⟩ :=
    List.exists_cons_of_ne_nil (show segments ++ ["index.json"] ≠ [] by simp)
  rw [spelled]
  rfl

theorem dropWhile_slash_joinNames {segments : List String}
    (noSlash : ∀ segment ∈ segments, '/' ∉ segment.toList) :
    (joinNames segments).toList.dropWhile (· == '/') =
      (joinNames (segments.dropWhile (· == ""))).toList := by
  have visible :
      ∀ {segment : String},
        segment ≠ "" → '/' ∉ segment.toList → ∀ rest : List Char,
          (segment.toList ++ rest).dropWhile (· == '/') =
            segment.toList ++ rest := by
    intro segment nonempty plain rest
    obtain ⟨letter, letters, text⟩ :=
      List.exists_cons_of_ne_nil
        (show segment.toList ≠ [] by simpa using nonempty)
    have different : letter ≠ '/' := by
      rintro rfl
      exact plain (text ▸ List.mem_cons_self)
    rw [text, List.cons_append,
      List.dropWhile_cons_of_neg (by simpa using different)]
  induction segments with
  | nil => rfl
  | cons segment segments induction =>
      by_cases empty : segment = ""
      · subst empty
        rw [List.dropWhile_cons_of_pos (by rfl),
          ← induction fun other member =>
            noSlash other (List.mem_cons_of_mem _ member)]
        cases segments with
        | nil => rfl
        | cons next segments =>
            rw [joinNames, String.empty_append, String.toList_append]
            rfl
      · rw [List.dropWhile_cons_of_neg (by simpa using empty)]
        have plain := noSlash segment List.mem_cons_self
        rcases joinNames_cons segment segments with alone | ⟨rest, more⟩
        · rw [alone]
          simpa using visible empty plain []
        · rw [more, visible empty plain]

theorem dropWhile_empty_index (segments : List String) :
    (segments ++ ["index.json"]).dropWhile (· == "") =
      segments.dropWhile (· == "") ++ ["index.json"] := by
  induction segments with
  | nil => rfl
  | cons segment segments induction =>
      rw [List.cons_append, List.dropWhile_cons, List.dropWhile_cons, induction]
      split
      · rfl
      · rfl

/-- The text that is put below the address of a directory. -/
theorem pathText_index {url : Url} {segments : List String}
    (path : url.path = .rooted (segments ++ ["index.json"]))
    (written : ∀ segment ∈ segments ++ ["index.json"], IsWritten segment) :
    String.ofList (url.pathText.toList.dropWhile (· == '/')) =
      joinNames (segments.dropWhile (· == "") ++ ["index.json"]) := by
  have slash : ("/" : String).toList = ['/'] := rfl
  rw [pathText, path, write_rooted (by simp), String.toList_append, slash,
    List.singleton_append, List.dropWhile_cons_of_pos (by rfl),
    dropWhile_slash_joinNames fun segment member =>
      (written segment member).noSlash,
    dropWhile_empty_index, String.ofList_toList]

theorem fileFor?_relative {directory : String}
    (below : pathNames directory ≠ []) {url : Url}
    {segments : List String}
    (path : url.path = .rooted (segments ++ ["index.json"]))
    (written : ∀ segment ∈ segments ++ ["index.json"], IsWritten segment)
    (relative : ∀ first ∈ (segments.dropWhile (· == "") ++
      ["index.json"]).head?, IsRelative first) :
    fileFor? directory url =
      some (pathBytes ((pathNames directory).map Utf8.encode ++
        (segments.dropWhile (· == "") ++ ["index.json"]).map fun segment =>
          unescape segment.toList)) := by
  have inside :
      ∀ segment ∈ segments.dropWhile (· == "") ++ ["index.json"],
        IsWritten segment := by
    intro segment member
    rw [← dropWhile_empty_index] at member
    exact written segment ((List.dropWhile_sublist _).subset member)
  have resolved : (ofDirectory directory).join
      (joinNames (segments.dropWhile (· == "") ++ ["index.json"])) =
    .ok { emptyFile with
        path := .rooted ((pathNames directory).map directorySegment ++
          segments.dropWhile (· == "") ++ ["index.json"]) } := by
    obtain ⟨first, others, spelled⟩ := List.exists_cons_of_ne_nil
      (show segments.dropWhile (· == "") ++ ["index.json"] ≠ [] by simp)
    rw [List.append_assoc]
    rw [spelled] at inside relative ⊢
    exact join_ofDirectory below (relative first rfl) inside
  unfold fileFor?
  rw [pathText_index path written, resolved]
  refine (filePathBytes?_index _).trans ?_
  simp only [List.map_append, List.append_assoc, List.map_map,
    Function.comp_def, unescape_directorySegment]

end LessonSite.Url
