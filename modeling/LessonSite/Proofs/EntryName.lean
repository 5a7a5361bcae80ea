import LessonSite.EntryName

/-!
# Texts that are entry names

A text is an entry name just if it is written as decimal digits whose value fits
32 bits, an underscore and a name.  Any other text has one fault that is named:
the first underscore is missing, what stands before it is no such number, or
nothing stands after it.
-/

namespace LessonSite

theorem number32?_eq_some_iff {digits : List Char} {number : UInt32} :
    number32? digits = some number ↔
      digits ≠ [] ∧ digits.all Char.isDigit = true ∧
        Nat.ofDigitChars 10 digits 0 = number.toNat := by
  unfold number32? decimalValue
  constructor
  · intro read
    split at read
    · next valid =>
        cases read
        obtain ⟨nonempty, areDigits, fits⟩ := valid
        exact ⟨nonempty, areDigits, (UInt32.toNat_ofNat_of_lt' fits).symm⟩
    · cases read
  · rintro ⟨nonempty, areDigits, value⟩
    have fits : Nat.ofDigitChars 10 digits 0 < 2 ^ 32 := value ▸ number.toNat_lt
    rw [if_pos ⟨nonempty, areDigits, fits⟩, value, UInt32.ofNat_toNat]

/-- The text is a run of decimal digits with the given value; it may begin with
zeros. -/
structure IsNumeral (text : String) (value : Nat) : Prop where
  nonempty : text ≠ ""
  digits : ∀ character ∈ text.toList, character.isDigit = true
  value_eq : Nat.ofDigitChars 10 text.toList 0 = value

theorem IsNumeral.not_mem {text : String} {value : Nat}
    (numeral : IsNumeral text value) :
    '_' ∉ text.toList := by
  intro member
  exact absurd (numeral.digits '_' member) (by decide)

theorem number32?_eq_some_iff_isNumeral {text : String} {number : UInt32} :
    number32? text.toList = some number ↔ IsNumeral text number.toNat := by
  rw [number32?_eq_some_iff, List.all_eq_true]
  constructor
  · rintro ⟨nonempty, digits, value⟩
    exact ⟨by simpa using nonempty, digits, value⟩
  · rintro ⟨nonempty, digits, value⟩
    exact ⟨by simpa using nonempty, digits, value⟩

theorem number32?_of_isNumeral {text : String} {value : Nat}
    (numeral : IsNumeral text value)
    (fits : value ≤ 4294967295) :
    number32? text.toList = some (UInt32.ofNat value) := by
  have same : (UInt32.ofNat value).toNat = value :=
    UInt32.toNat_ofNat_of_lt' (Nat.lt_succ_of_le fits)
  rw [number32?_eq_some_iff_isNumeral, same]
  exact numeral

theorem number32?_eq_none_iff {text : String} :
    number32? text.toList = none ↔
      ∀ value ≤ 4294967295, ¬IsNumeral text value := by
  constructor
  · intro unread value fits numeral
    rw [number32?_of_isNumeral numeral fits] at unread
    cases unread
  · intro unspelled
    refine Option.eq_none_iff_forall_ne_some.mpr fun number read => ?_
    exact unspelled number.toNat (Nat.le_of_lt_succ number.toNat_lt)
      (number32?_eq_some_iff_isNumeral.mp read)

namespace EntryName

/-- What a text is read as.  Of several faults the one that comes first in the
text counts. -/
inductive Reads : String → Except EntryNameError EntryName → Prop where
  | entry {digits name : String} {value : Nat}
      (numeral : IsNumeral digits value)
      (fits : value ≤ 4294967295) (named : name ≠ "") :
      Reads (digits ++ "_" ++ name) (.ok ⟨UInt32.ofNat value, name⟩)
  | missingSeparator {text : String} (absent : '_' ∉ text.toList) :
      Reads text (.error .missingSeparator)
  | nonNumericPrefix {before : String} (rest : String)
      (first : '_' ∉ before.toList)
      (unspelled : ∀ value ≤ 4294967295, ¬IsNumeral before value) :
      Reads (before ++ "_" ++ rest) (.error (.nonNumericPrefix before))
  | emptyName {digits : String} {value : Nat} (numeral : IsNumeral digits value)
      (fits : value ≤ 4294967295) : Reads (digits ++ "_") (.error .emptyName)

private theorem passes_of_not_mem {text : String} (absent : '_' ∉ text.toList) :
    ∀ character ∈ text.toList, decide (character ≠ '_') = true := by
  intro character member
  rw [decide_eq_true_eq]
  rintro rfl
  exact absent member

theorem parse_of_not_mem {text : String} (absent : '_' ∉ text.toList) :
    parse text = .error .missingSeparator := by
  have nothing : text.toList.dropWhile (· ≠ '_') = [] := by
    rw [← List.append_nil text.toList,
      List.dropWhile_append_of_pos (passes_of_not_mem absent),
      List.dropWhile_nil]
  simp only [parse, nothing]

theorem parse_append {before : String} (first : '_' ∉ before.toList)
    (rest : String) :
    parse (before ++ "_" ++ rest) =
      match number32? before.toList with
      | none => .error (.nonNumericPrefix before)
      | some number =>
          if rest = "" then .error .emptyName else .ok ⟨number, rest⟩ := by
  have text :
      (before ++ "_" ++ rest).toList = before.toList ++ '_' :: rest.toList := by
    simp [String.toList_append]
  have passes := passes_of_not_mem first
  unfold parse
  simp only [text]
  rw [List.takeWhile_append_of_pos passes, List.dropWhile_append_of_pos passes,
    List.takeWhile_cons_of_neg (by simp), List.dropWhile_cons_of_neg (by simp),
    List.append_nil]
  cases number32? before.toList with
  | none => simp only [String.ofList_toList]
  | some number => simp only [String.ofList_toList, String.toList_eq_nil_iff]

/-- A text has no underscore, or it is split at the first one. -/
theorem separated_cases (text : String) :
    '_' ∉ text.toList ∨
      ∃ before rest, '_' ∉ before.toList ∧ text = before ++ "_" ++ rest := by
  by_cases member : '_' ∈ text.toList
  · obtain ⟨before, rest, spelled, first⟩ := List.eq_append_cons_of_mem member
    refine .inr
      ⟨String.ofList before, String.ofList rest, by simpa using first, ?_⟩
    rw [← String.toList_inj, spelled]
    simp [String.toList_append]
  · exact .inl member

theorem reads_parse (text : String) : Reads text (parse text) := by
  rcases separated_cases text with absent | ⟨before, rest, first, rfl⟩
  · rw [parse_of_not_mem absent]
    exact .missingSeparator absent
  · rw [parse_append first]
    cases read : number32? before.toList with
    | none => exact .nonNumericPrefix rest first (number32?_eq_none_iff.mp read)
    | some number =>
        have numeral := number32?_eq_some_iff_isNumeral.mp read
        have fits : number.toNat ≤ 4294967295 :=
          Nat.le_of_lt_succ number.toNat_lt
        by_cases unnamed : rest = ""
        · subst unnamed
          simpa using Reads.emptyName numeral fits
        · simpa [unnamed] using Reads.entry numeral fits unnamed

theorem Reads.parse_eq {text : String}
    {result : Except EntryNameError EntryName}
    (reads : Reads text result) : parse text = result := by
  cases reads with
  | entry numeral fits named =>
      rw [parse_append numeral.not_mem, number32?_of_isNumeral numeral fits]
      exact if_neg named
  | missingSeparator absent => exact parse_of_not_mem absent
  | nonNumericPrefix rest first unspelled =>
      rw [parse_append first, number32?_eq_none_iff.mpr unspelled]
  | @emptyName digits _ numeral fits =>
      have same := parse_append numeral.not_mem ""
      rw [String.append_empty, number32?_of_isNumeral numeral fits] at same
      exact same

/-- The text is written as digits for the number, an underscore and the name. -/
structure Describes (entry : EntryName) (text : String) : Prop where
  named : entry.name ≠ ""
  spelled : ∃ digits : List Char, digits ≠ [] ∧ digits.all Char.isDigit = true ∧
    Nat.ofDigitChars 10 digits 0 = entry.number.toNat ∧
    text.toList = digits ++ '_' :: entry.name.toList

theorem parse_eq_ok_iff {text : String} {entry : EntryName} :
    EntryName.parse text = .ok entry ↔ entry.Describes text := by
  constructor
  · intro parsed
    have reads := reads_parse text
    rw [parsed] at reads
    cases reads with
    | @entry digits name value numeral fits named =>
        refine ⟨named, digits.toList, by simpa using numeral.nonempty,
          List.all_eq_true.mpr numeral.digits,
          ?_, by simp [String.toList_append]⟩
        rw [numeral.value_eq]
        exact (UInt32.toNat_ofNat_of_lt' (Nat.lt_succ_of_le fits)).symm
  · rintro ⟨named, digits, nonempty, areDigits, value, spelled⟩
    have numeral : IsNumeral (String.ofList digits) entry.number.toNat :=
      ⟨by simpa using nonempty, by simpa using List.all_eq_true.mp areDigits, by
        simpa using value⟩
    have text_eq : text = String.ofList digits ++ "_" ++ entry.name := by
      rw [← String.toList_inj, spelled]
      simp [String.toList_append]
    have fits : entry.number.toNat ≤ 4294967295 :=
      Nat.le_of_lt_succ entry.number.toNat_lt
    have parsed := (Reads.entry numeral fits named).parse_eq
    rwa [UInt32.ofNat_toNat, ← text_eq] at parsed

theorem Describes.unique {entry other : EntryName} {text : String}
    (first : entry.Describes text) (second : other.Describes text) :
    entry = other := by
  have parsed := EntryName.parse_eq_ok_iff.mpr first
  rw [EntryName.parse_eq_ok_iff.mpr second] at parsed
  exact (Except.ok.inj parsed).symm

/-- The segment of an entry is its name, character by character, with hyphens
for underscores and spaces. -/
theorem toList_slugSegment (entry : EntryName) :
    entry.slugSegment.toList = entry.name.toList.map fun character =>
      if character = '_' ∨ character = ' ' then '-' else character := by
  simp only [slugSegment, LessonSite.slugSegment, displayTitle,
    Text.replaceChar, String.toList_ofList, List.map_map]
  refine List.map_congr_left fun character _ => ?_
  by_cases underscore : character = '_'
  · simp [underscore]
  · simp [underscore]

/-- Every text is read in one way: as an entry just if it is a number that fits
32 bits, an underscore and a name, and otherwise with the fault that comes
first.  The title of an entry is its name with spaces for underscores; its
segment has neither, and as many characters as the name. -/
theorem parse_settles :
    (∀ text result, parse text = result ↔ Reads text result) ∧
      ∀ entry : EntryName,
        entry.displayTitle.toList =
            entry.name.toList.map
              (fun character => if character = '_' then ' ' else character) ∧
          ' ' ∉ entry.slugSegment.toList ∧ '_' ∉ entry.slugSegment.toList ∧
          entry.slugSegment.length = entry.name.length := by
  refine ⟨fun text result => ⟨?_, Reads.parse_eq⟩, fun entry =>
    ⟨?_, ?_, ?_, ?_⟩⟩
  · rintro rfl
    exact reads_parse text
  · rw [displayTitle, Text.replaceChar, String.toList_ofList]
  · rw [toList_slugSegment]
    grind
  · rw [toList_slugSegment]
    grind
  · rw [← String.length_toList, toList_slugSegment, List.length_map,
      String.length_toList]

end EntryName

end LessonSite
