import LessonSite.Proofs.Site.Paths
import LessonSite.Proofs.Text.Utf8
import LessonSite.Proofs.Url.Percent
import LessonSite.Url.Reader

/-!
# Names in the path of an address

A name becomes a segment of an address by escaping some of its characters.  The
segment is taken for the name again unless the name holds an escape itself or a
character that means something in addresses.
-/

namespace LessonSite.Url

/-- The segment of an address that is written for a name. -/
def pathSegment (name : String) : String :=
  String.ofList (escape EscapeSet.path name.toList)

/-- Characters that end a path, take a part in it or do not count in an
address. -/
def isMark (character : Char) : Bool :=
  ['?', '#', '\\', '\t', '\n', '\r'].contains character

/-- The name means itself in an address: it has no mark, and no `%` with two
hexadecimal digits. -/
structure IsPlain (name : String) : Prop where
  noMark : ∀ character ∈ name.toList, isMark character = false
  literal : unescape name.toList = Utf8.encode name

instance (name : String) : Decidable (IsPlain name) :=
  decidable_of_iff
    (name.toList.all (fun character => !isMark character) = true ∧
      unescape name.toList = Utf8.encode name)
    ⟨fun ⟨noMark, literal⟩ => ⟨by simpa using noMark, literal⟩,
      fun plain => ⟨by simpa using plain.noMark, plain.literal⟩⟩

theorem toList_pathSegment (name : String) :
    (pathSegment name).toList = escape EscapeSet.path name.toList :=
  String.toList_ofList

theorem unescape_pathSegment {name : String} (plain : IsPlain name) :
    unescape (pathSegment name).toList = Utf8.encode name := by
  rw [toList_pathSegment, unescape_escape keepsEscapes_path, plain.literal]

private theorem toLowerAscii_cases (character : Char) :
    Text.toLowerAscii character = character ∨
      (Text.toLowerAscii character).toNat = character.toNat + 32 ∧
        65 ≤ character.toNat ∧
          character.toNat ≤ 90 := by
  unfold Text.toLowerAscii
  split
  · next capital =>
      have low : 65 ≤ character.toNat := capital.1
      have high : character.toNat ≤ 90 := capital.2
      exact .inr ⟨Utf8.toNat_ofNat (by omega), low, high⟩
  · exact .inl rfl

private theorem eq_of_toLowerAscii {character target : Char}
    (same : Text.toLowerAscii character = target)
    (small : target.toNat < 97 ∨ 122 < target.toNat) : character = target := by
  rcases toLowerAscii_cases character with kept | ⟨code, low, high⟩
  · exact kept.symm.trans same
  · rw [same] at code
    omega

private theorem eq_of_toLowerAscii_e {character : Char}
    (same : Text.toLowerAscii character = 'e') :
    character = 'e' ∨ character = 'E' := by
  rcases toLowerAscii_cases character with kept | ⟨code, -, -⟩
  · exact .inl (kept.symm.trans same)
  · right
    rw [same] at code
    have expected : 'e'.toNat = 'E'.toNat + 32 := by decide
    exact Char.toNat_inj.mp (by omega)

private theorem unescape_dot {text rest : List Char}
    (same : text.map Text.toLowerAscii = '.' :: rest) :
    ∃ tail,
      tail.map Text.toLowerAscii = rest ∧
        unescape text = 0x2E :: unescape tail := by
  obtain ⟨dot, tail, rfl, isDot, later⟩ := List.map_eq_cons_iff.mp same
  cases eq_of_toLowerAscii isDot (by decide)
  exact ⟨tail, later, unescape_cons (by decide) tail⟩

private theorem unescape_escapedDot {text rest : List Char}
    (same : text.map Text.toLowerAscii = '%' :: '2' :: 'e' :: rest) :
    ∃ tail,
      tail.map Text.toLowerAscii = rest ∧
        unescape text = 0x2E :: unescape tail := by
  obtain ⟨percent, middle, rfl, isPercent, afterPercent⟩ :=
    List.map_eq_cons_iff.mp same
  obtain ⟨two, last, rfl, isTwo, afterTwo⟩ :=
    List.map_eq_cons_iff.mp afterPercent
  obtain ⟨letter, tail, rfl, isLetter, afterAll⟩ :=
    List.map_eq_cons_iff.mp afterTwo
  obtain rfl := eq_of_toLowerAscii isPercent (by decide)
  obtain rfl := eq_of_toLowerAscii isTwo (by decide)
  rcases eq_of_toLowerAscii_e isLetter with rfl | rfl
  · exact ⟨tail, afterAll, rfl⟩
  · exact ⟨tail, afterAll, rfl⟩

private theorem map_toLowerAscii {segment expected : String}
    (same : Text.lowerAscii segment = expected) :
    segment.toList.map Text.toLowerAscii = expected.toList := by
  rw [← same, Text.lowerAscii, String.toList_ofList]

theorem unescape_of_isHere {segment : String} (here : isHere segment = true) :
    unescape segment.toList = Utf8.encode "." := by
  simp only [isHere, List.contains_eq_mem, List.mem_cons, List.not_mem_nil,
    or_false, decide_eq_true_eq] at here
  rcases here with plain | escaped
  · obtain ⟨tail, rest, same⟩ := unescape_dot (map_toLowerAscii plain)
    cases List.map_eq_nil_iff.mp rest
    exact same
  · obtain ⟨tail, rest, same⟩ := unescape_escapedDot (map_toLowerAscii escaped)
    cases List.map_eq_nil_iff.mp rest
    exact same

theorem unescape_of_isAbove {segment : String}
    (above : isAbove segment = true) :
    unescape segment.toList = Utf8.encode ".." := by
  simp only [isAbove, List.contains_eq_mem, List.mem_cons, List.not_mem_nil,
    or_false, decide_eq_true_eq] at above
  have twice :
      ∃ middle tail, unescape segment.toList = 0x2E :: unescape middle ∧
        unescape middle = 0x2E :: unescape tail ∧ tail = [] := by
    rcases above with both | first | second | none_
    · obtain ⟨middle, rest, same⟩ := unescape_dot (map_toLowerAscii both)
      obtain ⟨tail, rest, later⟩ := unescape_dot rest
      exact ⟨middle, tail, same, later, List.map_eq_nil_iff.mp rest⟩
    · obtain ⟨middle, rest, same⟩ := unescape_dot (map_toLowerAscii first)
      obtain ⟨tail, rest, later⟩ := unescape_escapedDot rest
      exact ⟨middle, tail, same, later, List.map_eq_nil_iff.mp rest⟩
    · obtain ⟨middle, rest, same⟩ :=
        unescape_escapedDot (map_toLowerAscii second)
      obtain ⟨tail, rest, later⟩ := unescape_dot rest
      exact ⟨middle, tail, same, later, List.map_eq_nil_iff.mp rest⟩
    · obtain ⟨middle, rest, same⟩ :=
        unescape_escapedDot (map_toLowerAscii none_)
      obtain ⟨tail, rest, later⟩ := unescape_escapedDot rest
      exact ⟨middle, tail, same, later, List.map_eq_nil_iff.mp rest⟩
  obtain ⟨middle, tail, first, second, rfl⟩ := twice
  rw [first, second]
  rfl

/-- The segment for a plain name has no other meaning than the name. -/
theorem isHere_pathSegment {name : String} (plain : IsPlain name)
    (moves : name ≠ ".") :
    isHere (pathSegment name) = false := by
  rw [← Bool.not_eq_true]
  intro here
  have bytes := unescape_of_isHere here
  rw [unescape_pathSegment plain] at bytes
  exact moves (Utf8.encode_injective bytes)

theorem isAbove_pathSegment {name : String} (plain : IsPlain name)
    (down : name ≠ "..") :
    isAbove (pathSegment name) = false := by
  rw [← Bool.not_eq_true]
  intro above
  have bytes := unescape_of_isAbove above
  rw [unescape_pathSegment plain] at bytes
  exact down (Utf8.encode_injective bytes)

theorem splitChars_joinNames {names : List String} (some_ : names ≠ [])
    (noSlash : ∀ name ∈ names, '/' ∉ name.toList) :
    Text.splitChars '/' (joinNames names).toList = names.map String.toList := by
  have parts := pathNames_joinNames some_ noSlash
  rw [FileTree.pathNames, Text.splitOn] at parts
  have characters := congrArg (List.map String.toList) parts
  rw [List.map_map] at characters
  simpa [Function.comp_def] using characters

theorem splitPath_joinNames {names : List String} (some_ : names ≠ [])
    (noSlash : ∀ name ∈ names, '/' ∉ name.toList)
    (noBackslash : ∀ name ∈ names, '\\' ∉ name.toList) (special : Bool) :
    splitPath special (joinNames names).toList = names.map pathSegment := by
  have same : (joinNames names).toList.map (fun character =>
      if isSlash special character then '/' else character) =
    (joinNames names).toList := by
    refine (List.map_congr_left ?_).trans (List.map_id _)
    intro character member
    rcases mem_joinNames member with rfl | ⟨name, isName, inside⟩
    · simp [isSlash]
    · have noMark : isSlash special character = false := by
        simp only [isSlash, Bool.or_eq_false_iff, beq_eq_false_iff_ne,
          Bool.and_eq_false_iff]
        refine ⟨?_, .inr ?_⟩
        · rintro rfl
          exact noSlash name isName inside
        · rintro rfl
          exact noBackslash name isName inside
      simp [noMark]
  rw [splitPath, same, splitChars_joinNames some_ noSlash, List.map_map]
  rfl

theorem keepSegment_eq {file : Bool} {directories : List String}
    (below : file = false ∨ directories ≠ []) (segment : String) :
    keepSegment file directories segment = segment := by
  unfold keepSegment
  split
  · rw [if_neg]
    rcases below with rfl | below
    · simp
    · simp [below]
  · rfl

/-- Segments without a meaning of their own are walked along. -/
theorem walk_append {file : Bool} {directories : List String}
    (below : file = false ∨ directories ≠ []) {segments : List String}
    (plain : ∀ segment ∈ segments,
      isHere segment = false ∧ isAbove segment = false)
    {rest : List String} (more : rest ≠ []) :
    walk file directories (segments ++ rest) =
      walk file (directories ++ segments) rest := by
  induction segments generalizing directories with
  | nil => simp
  | cons segment segments induction =>
      obtain ⟨moves, down⟩ := plain segment List.mem_cons_self
      obtain ⟨next, others, onwards⟩ :=
        List.exists_cons_of_ne_nil (show segments ++ rest ≠ [] by simp [more])
      have later :
          walk file (directories ++ [segment]) (segments ++ rest) = _ :=
        induction
          (below.imp id fun _ => by simp)
          fun other member => plain other (List.mem_cons_of_mem _ member)
      rw [List.cons_append, onwards, walk, if_neg (by simp [down]),
        if_neg (by simp [moves]), keepSegment_eq below, ← onwards, later,
        List.append_assoc]
      rfl

theorem walk_last {file : Bool} {directories : List String}
    (below : file = false ∨ directories ≠ []) {segment : String}
    (moves : isHere segment = false) (down : isAbove segment = false) :
    walk file directories [segment] = directories ++ [segment] := by
  rw [walk, if_neg (by simp [down]), if_neg (by simp [moves]),
    keepSegment_eq below]

end LessonSite.Url
