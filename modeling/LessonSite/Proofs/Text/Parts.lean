import LessonSite.FileTree.Basic

/-!
# Splitting and joining texts

A text that is joined from two with a separator splits into the parts of both.
-/

namespace LessonSite

namespace Text

theorem splitChars_ne_nil (separator : Char) (characters : List Char) :
    splitChars separator characters ≠ [] := by
  cases characters with
  | nil => simp [splitChars]
  | cons character characters =>
      rw [splitChars]
      split
      · simp
      · split <;> simp

theorem intercalate_splitChars (separator : Char) (characters : List Char) :
    [separator].intercalate (splitChars separator characters) = characters := by
  induction characters with
  | nil => rfl
  | cons character characters induction =>
      rw [splitChars]
      split
      · next same =>
          rw [List.intercalate_cons_of_ne_nil
            (splitChars_ne_nil separator characters), induction, same]
          rfl
      · split
        · next none_ =>
            exact absurd none_ (splitChars_ne_nil separator characters)
        · next part parts split_ =>
            rw [split_] at induction
            rw [← induction]
            cases parts <;> simp [List.intercalate]

theorem splitChars_append (separator : Char) (left right : List Char) :
    splitChars separator (left ++ separator :: right) =
      splitChars separator left ++ splitChars separator right := by
  induction left with
  | nil => simp [splitChars]
  | cons character left induction =>
      by_cases same : character = separator
      · simp [splitChars, same, induction]
      · simp only [List.cons_append, splitChars, same, if_false, induction]
        cases first : splitChars separator left with
        | nil => exact absurd first (splitChars_ne_nil separator left)
        | cons part parts => rfl

theorem splitChars_of_not_mem {separator : Char} {characters : List Char}
    (absent : separator ∉ characters) :
    splitChars separator characters = [characters] := by
  induction characters with
  | nil => rfl
  | cons character characters induction =>
      have different : character ≠ separator := by
        rintro rfl
        exact absent List.mem_cons_self
      have later : separator ∉ characters := fun member =>
        absent (List.mem_cons_of_mem _ member)
      rw [splitChars, if_neg different, induction later]

/-- A text without separators in front of another belongs to the first part of
it. -/
theorem splitChars_append_of_not_mem {separator : Char} {before : List Char}
    (absent : separator ∉ before) (rest : List Char) :
    splitChars separator (before ++ rest) =
      (splitChars separator rest).modifyHead (before ++ ·) := by
  induction before with
  | nil => rw [List.nil_append]; cases splitChars separator rest <;> rfl
  | cons first before induction =>
      rw [List.mem_cons, not_or] at absent
      rw [List.cons_append, splitChars, if_neg (Ne.symm absent.1),
        induction absent.2]
      cases split : splitChars separator rest with
      | nil => exact absurd split (splitChars_ne_nil separator rest)
      | cons part parts => rfl

theorem mem_intercalate {separator : List Char} {parts : List (List Char)}
    {character : Char} (member : character ∈ separator.intercalate parts) :
    character ∈ separator ∨ ∃ part ∈ parts, character ∈ part := by
  induction parts with
  | nil => cases member
  | cons part parts induction =>
      by_cases last : parts = []
      · rw [last, List.intercalate_singleton] at member
        exact .inr ⟨part, List.mem_cons_self, member⟩
      · rw [List.intercalate_cons_of_ne_nil last, List.mem_append,
          List.mem_append] at member
        rcases member with (first | between) | later
        · exact .inr ⟨part, List.mem_cons_self, first⟩
        · exact .inl between
        · refine (induction later).imp_right ?_
          rintro ⟨other, inside, found⟩
          exact ⟨other, List.mem_cons_of_mem _ inside, found⟩

theorem splitChars_intercalate {separator : Char} {parts : List (List Char)}
    (some_ : parts ≠ []) (absent : ∀ part ∈ parts, separator ∉ part) :
    splitChars separator ([separator].intercalate parts) = parts := by
  induction parts with
  | nil => exact absurd rfl some_
  | cons part parts induction =>
      obtain ⟨first, others⟩ := List.forall_mem_cons.mp absent
      by_cases last : parts = []
      · rw [last, List.intercalate_singleton, splitChars_of_not_mem first]
      · rw [List.intercalate_cons_of_ne_nil last, List.append_assoc,
          List.singleton_append, splitChars_append, splitChars_of_not_mem first,
          induction last others, List.singleton_append]

/-- A part holds characters of the text, and not the separator. -/
theorem mem_of_mem_splitChars {separator : Char} {characters part : List Char}
    (isPart : part ∈ splitChars separator characters) {character : Char}
    (member : character ∈ part) :
    character ∈ characters ∧ character ≠ separator := by
  induction characters generalizing part with
  | nil =>
      rw [splitChars, List.mem_singleton] at isPart
      rw [isPart] at member
      cases member
  | cons first characters induction =>
      have later :
          ∀ {other : List Char}, other ∈ splitChars separator characters →
            character ∈ other →
            character ∈ first :: characters ∧ character ≠ separator := by
        intro other isOther inside
        obtain ⟨among, different⟩ := induction isOther inside
        exact ⟨List.mem_cons_of_mem _ among, different⟩
      rw [splitChars] at isPart
      split at isPart
      · rcases List.mem_cons.mp isPart with rfl | isLater
        · cases member
        · exact later isLater member
      · next different =>
          split at isPart
          · next none_ =>
              exact absurd none_ (splitChars_ne_nil separator characters)
          · next head others parts =>
              rcases List.mem_cons.mp isPart with rfl | isLater
              · rcases List.mem_cons.mp member with rfl | inside
                · exact ⟨List.mem_cons_self, different⟩
                · exact later (parts ▸ List.mem_cons_self) inside
              · exact later (parts ▸ List.mem_cons_of_mem _ isLater) member

theorem startsWith_iff {start text : String} :
    startsWith start text = true ↔
      ∃ rest, text.toList = start.toList ++ rest := by
  simp only [startsWith, afterStart?, Option.isSome_map,
    Option.isSome_iff_exists, stripStart?_eq_some_iff]

theorem beforeEnd?_eq_some_iff {ending text before : String} :
    beforeEnd? ending text = some before ↔ text = before ++ ending := by
  simp only [beforeEnd?, Option.map_eq_some_iff, stripStart?_eq_some_iff]
  constructor
  · rintro ⟨rest, same, rfl⟩
    apply String.toList_inj.mp
    rw [← List.reverse_reverse text.toList, same]
    simp
  · rintro rfl
    refine ⟨before.toList.reverse, ?_, ?_⟩
    · simp
    · simp

theorem endsWith_iff {ending text : String} :
    endsWith ending text = true ↔
      ∃ rest, text.toList = rest ++ ending.toList := by
  simp only [endsWith, Option.isSome_iff_exists, beforeEnd?_eq_some_iff]
  constructor
  · rintro ⟨before, rfl⟩
    exact ⟨before.toList, String.toList_append⟩
  · rintro ⟨rest, same⟩
    exact ⟨String.ofList rest,
      String.toList_inj.mp
        (by rw [same, String.toList_append, String.toList_ofList])⟩

/-- A text without slashes ends a path just when it ends the last name of the
path. -/
theorem endsWith_append_slash {ending : String} (noSlash : '/' ∉ ending.toList)
    (before name : String) :
    endsWith ending (before ++ "/" ++ name) = endsWith ending name := by
  rw [Bool.eq_iff_iff, endsWith_iff, endsWith_iff]
  have whole :
      (before ++ "/" ++ name).toList =
        before.toList ++ '/' :: name.toList := by simp
  constructor
  · rintro ⟨rest, same⟩
    rw [whole] at same
    rcases List.append_eq_append_iff.mp same with
      ⟨more, -, tail⟩ | ⟨more, -, tail⟩
    · cases more with
      | nil =>
          rw [List.nil_append] at tail
          exact absurd (tail ▸ List.mem_cons_self) noSlash
      | cons slash more => exact ⟨more, (List.cons.inj tail).2⟩
    · exact absurd (tail ▸ List.mem_append_right _ List.mem_cons_self) noSlash
  · rintro ⟨rest, same⟩
    exact ⟨before.toList ++ '/' :: rest, by
      rw [whole, same, List.append_assoc, List.cons_append]⟩

end Text

namespace FileTree

theorem pathNames_append (left right : String) :
    pathNames (left ++ "/" ++ right) = pathNames left ++ pathNames right := by
  have slash : ("/" : String).toList = ['/'] := rfl
  simp only [pathNames, Text.splitOn, String.toList_append, slash,
    List.append_assoc, List.cons_append, List.nil_append,
    Text.splitChars_append, List.map_append]

theorem pathNames_of_not_mem {name : String} (absent : '/' ∉ name.toList) :
    pathNames name = [name] := by
  simp [pathNames, Text.splitOn, Text.splitChars_of_not_mem absent]

theorem pathNames_ne_nil (path : String) : pathNames path ≠ [] := by
  intro none_
  exact Text.splitChars_ne_nil '/' path.toList (List.map_eq_nil_iff.mp none_)

theorem pathNames_injective {left right : String}
    (same : pathNames left = pathNames right) : left = right := by
  have parts := congrArg (List.map String.toList) same
  have whole :
      ∀ path : String,
        (pathNames path).map String.toList =
          Text.splitChars '/' path.toList := by
    intro path
    simp [pathNames, Text.splitOn]
  rw [whole, whole] at parts
  have again := congrArg (List.intercalate ['/']) parts
  rw [Text.intercalate_splitChars, Text.intercalate_splitChars] at again
  exact String.toList_inj.mp again

@[simp] theorem pathNames_empty : pathNames "" = [""] := rfl

/-- The names of a path that is followed from a directory. -/
theorem exists_pathNames_joinPath {directory : String}
    (nonempty : directory ≠ "") :
    ∃ names, (∀ path, Text.startsWith "/" path = false →
        pathNames (joinPath directory path) = names ++ pathNames path) ∧
      (pathNames directory = names ∨ pathNames directory = names ++ [""]) := by
  by_cases ends : Text.endsWith "/" directory
  · obtain ⟨rest, same⟩ := Text.endsWith_iff.mp ends
    have text : directory = String.ofList rest ++ "/" ++ "" := by
      apply String.toList_inj.mp
      simpa using same
    refine ⟨pathNames (String.ofList rest), ?_, .inr ?_⟩
    · intro path relative
      simp only [joinPath, relative, nonempty, ends, Bool.false_eq_true,
        or_self, if_false, if_true]
      rw [text, String.append_empty, pathNames_append]
    · rw [text, pathNames_append, pathNames_empty]
  · refine ⟨pathNames directory, ?_, .inl rfl⟩
    intro path relative
    simp only [joinPath, relative, nonempty, ends, Bool.false_eq_true, or_self,
      if_false]
    exact pathNames_append directory path

theorem startsWith_slash_of_not_mem {name : String}
    (absent : '/' ∉ name.toList) :
    Text.startsWith "/" name = false := by
  rw [← Bool.not_eq_true, Text.startsWith_iff]
  rintro ⟨rest, same⟩
  exact absent (same ▸ List.mem_cons_self)

/-- The last name of a path is the name that was joined to it. -/
theorem exists_pathNames_joinPath_name (directory : String) {name : String}
    (absent : '/' ∉ name.toList) :
    ∃ names, pathNames (joinPath directory name) = names ++ [name] := by
  by_cases empty : directory = ""
  · refine ⟨[], ?_⟩
    simp [joinPath, empty, pathNames_of_not_mem absent]
  · obtain ⟨names, spelled, -⟩ := exists_pathNames_joinPath empty
    refine ⟨names, ?_⟩
    rw [spelled name (startsWith_slash_of_not_mem absent),
      pathNames_of_not_mem absent]

/-- Only the first text matters for what a text begins with. -/
theorem startsWith_slash_append {text : String} (some_ : text ≠ "")
    (rest : String) :
    Text.startsWith "/" (text ++ rest) = Text.startsWith "/" text := by
  obtain ⟨first, others, spelled⟩ :=
    List.exists_cons_of_ne_nil (show text.toList ≠ [] by simpa using some_)
  rw [Bool.eq_iff_iff, Text.startsWith_iff, Text.startsWith_iff,
    String.toList_append, spelled]
  simp

theorem endsWith_slash_append {text : String} (some_ : text ≠ "")
    (noSlash : '/' ∉ text.toList) (before : String) :
    Text.endsWith "/" (before ++ text) = false := by
  rw [← Bool.not_eq_true, Text.endsWith_iff]
  rintro ⟨others, ends⟩
  rcases List.eq_nil_or_concat text.toList with empty | ⟨rest, last, spelled⟩
  · exact some_ (by simpa using empty)
  · rw [List.concat_eq_append] at spelled
    rw [String.toList_append, spelled, ← List.append_assoc] at ends
    have slash := List.append_inj_right' ends rfl
    exact noSlash
      (spelled ▸ List.mem_append_right _ (slash ▸ List.mem_singleton_self _))

/-- Paths that are joined to a directory come behind a text of their own. -/
theorem exists_joinPath_eq_append (directory : String) :
    ∃ before,
      ∀ path,
        Text.startsWith "/" path = false →
        joinPath directory path = before ++ path := by
  by_cases empty : directory = ""
  · refine ⟨"", fun path _ => ?_⟩
    rw [joinPath, if_pos (.inr empty), String.empty_append]
  · by_cases ends : Text.endsWith "/" directory = true
    · refine ⟨directory, fun path relative => ?_⟩
      rw [joinPath, if_neg (by simp [relative, empty]), if_pos ends]
    · refine ⟨directory ++ "/", fun path relative => ?_⟩
      rw [joinPath, if_neg (by simp [relative, empty]), if_neg ends]

/-- A path that is joined to a directory starts like it. -/
theorem startsWith_joinPath {directory path : String}
    (relative : Text.startsWith "/" path = false) :
    Text.startsWith "/" (joinPath directory path) =
      Text.startsWith "/" directory := by
  by_cases empty : directory = ""
  · rw [joinPath, if_pos (.inr empty), relative, empty]
    rfl
  · rw [joinPath, if_neg (by simp [relative, empty])]
    split
    · exact startsWith_slash_append empty path
    · rw [String.append_assoc, startsWith_slash_append empty]

theorem joinPath_relative {directory path : String} (nonempty : directory ≠ "")
    (inside : Text.startsWith "/" directory = false)
    (relative : Text.startsWith "/" path = false) :
    joinPath directory path ≠ "" ∧
      Text.startsWith "/" (joinPath directory path) = false := by
  refine ⟨?_, (startsWith_joinPath relative).trans inside⟩
  rw [joinPath, if_neg (by simp [relative, nonempty])]
  split <;> simp [nonempty]

/-- Names can be joined to a directory one after the other or at once. -/
theorem joinPath_joinPath (directory : String) {name : String}
    (some_ : name ≠ "") (noSlash : '/' ∉ name.toList)
    {path : String} (relative : Text.startsWith "/" path = false) :
    joinPath (joinPath directory name) path =
      joinPath directory (name ++ "/" ++ path) := by
  have first := startsWith_slash_of_not_mem noSlash
  have both : Text.startsWith "/" (name ++ "/" ++ path) = false := by
    rw [String.append_assoc, startsWith_slash_append some_, first]
  obtain ⟨before, joined⟩ := exists_joinPath_eq_append directory
  have nonempty : before ++ name ≠ "" := by simp [some_]
  have unfinished := endsWith_slash_append some_ noSlash before
  rw [joined name first, joined _ both, joinPath,
    if_neg (by simp [relative, nonempty]), if_neg (by simp [unfinished])]
  simp only [String.append_assoc]

/-- A character of a joined path is one of its parts, or the slash between
them. -/
theorem mem_joinPath {directory path : String} {character : Char}
    (member : character ∈ (joinPath directory path).toList) :
    character ∈ directory.toList ∨ character = '/' ∨
      character ∈ path.toList := by
  unfold joinPath at member
  split at member
  · exact .inr (.inr member)
  · split at member
    · rw [String.toList_append, List.mem_append] at member
      exact member.imp_right .inr
    · simpa [String.toList_append, or_assoc] using member

theorem mem_joinPath_of_mem {directory path : String} {character : Char}
    (member : character ∈ path.toList) :
    character ∈ (joinPath directory path).toList := by
  unfold joinPath
  split
  · exact member
  · split
    · simp [member]
    · simp [member]

end FileTree

end LessonSite
