import LessonSite.Proofs.Site.Hrefs
import LessonSite.Proofs.Site.Separation
import LessonSite.Proofs.Url.JoinWeight

/-!
# How much the address of a page says

The address of the route state of a page says no more than the names of the
page, and it says less when one of the names does not mean itself.
-/

namespace LessonSite

open FileTree

namespace Url

theorem namesWeight_pathNames (path : String) :
    namesWeight (FileTree.pathNames path) = weight (Utf8.encode path) := by
  let heft (text : List Char) : Nat := weight (text.flatMap Utf8.encodeChar)
  have slashes :
      ∀ text rest, heft (text ++ '/' :: rest) = heft text + heft rest := by
    intro text rest
    have encoded : Utf8.encodeChar '/' = [0x2F] := by decide
    unfold heft
    rw [List.flatMap_append, List.flatMap_cons, encoded, weight_append,
      List.singleton_append, weight_slash]
  rw [namesWeight, FileTree.pathNames, Text.splitOn, List.map_map]
  refine Eq.trans ?_ (sum_splitChars slashes path.toList (Nat.le_refl _))
  refine congrArg List.sum (List.map_congr_left ?_)
  intro part _
  simp only [Function.comp_apply, Utf8.encode, String.toList_ofList, heft]

theorem namesWeight_sublist {some_ all : List String}
    (sublist : some_.Sublist all) :
    namesWeight some_ ≤ namesWeight all := by
  induction sublist with
  | slnil => exact Nat.le_refl _
  | cons name _ induction =>
      rw [namesWeight_cons]
      omega
  | cons_cons name _ induction =>
      rw [namesWeight_cons, namesWeight_cons]
      omega

/-- Names lead to a place that says no more than they do. -/
theorem namesWeight_walk_le (place names : List String) :
    namesWeight (FileTree.walk place names) ≤
      namesWeight place + namesWeight names := by
  induction names generalizing place with
  | nil => exact Nat.le_refl _
  | cons name names induction =>
      rw [namesWeight_cons, FileTree.walk]
      split
      · have stays := induction place
        omega
      · split
        · have up := induction place.dropLast
          have shorter := namesWeight_sublist (List.dropLast_sublist place)
          omega
        · have down := induction (place ++ [name])
          rw [namesWeight_append, namesWeight_cons, namesWeight_nil] at down
          omega

private theorem weight_encodeChar_digit {digit : Char}
    (isDigit : (hexValue? digit).isSome) :
    weight (Utf8.encodeChar digit) = 1 := by
  have range := isAscii_of_hexValue? isDigit
  have different : UInt8.ofNat digit.toNat ≠ 0x2F := by
    intro same
    have number := congrArg UInt8.toNat same
    have slash : (0x2F : UInt8).toNat = 47 := rfl
    rw [UInt8.toNat_ofNat', slash] at number
    omega
  have single : Utf8.encodeChar digit = [UInt8.ofNat digit.toNat] := by
    unfold Utf8.encodeChar
    rw [if_pos (by omega)]
  rw [single, weight, List.filter_cons_of_pos (by simpa using different)]
  rfl

private theorem weight_singleton_le (byte : UInt8) : weight [byte] ≤ 1 :=
  List.length_filter_le _ [byte]

/-- A text with an escape says less than its characters. -/
theorem textWeight_lt_or (text : List Char) :
    textWeight text < weight (text.flatMap Utf8.encodeChar) ∨
      unescape text = text.flatMap Utf8.encodeChar := by
  unfold textWeight
  have percent : Utf8.encodeChar '%' = [0x25] := by decide
  have mark : ∀ bytes, weight (0x25 :: bytes) = weight bytes + 1 :=
    fun bytes => rfl
  induction text using unescape.induct with
  | case1 => exact .inr rfl
  | case2 high low rest upper lower second first induction =>
      left
      have one :=
        weight_encodeChar_digit (by rw [first]; rfl : (hexValue? high).isSome)
      have two :=
        weight_encodeChar_digit (by rw [second]; rfl : (hexValue? low).isSome)
      have byte :=
        weight_append [UInt8.ofNat (upper * 16 + lower)] (unescape rest)
      have single := weight_singleton_le (UInt8.ofNat (upper * 16 + lower))
      rw [List.singleton_append] at byte
      simp only [unescape, first, second, List.flatMap_cons, weight_append,
        byte, percent, one, two]
      have later :
          weight (unescape rest) ≤ weight (rest.flatMap Utf8.encodeChar) := by
        rcases induction with less | same
        · omega
        · exact Nat.le_of_eq (congrArg weight same)
      have marked : weight [0x25] = 1 := rfl
      omega
  | case3 high low rest noDigits induction =>
      have noByte : ¬StartsWithByte (high :: low :: rest) := by
        rintro ⟨first, second, others, same, upper, lower⟩
        obtain ⟨rfl, later⟩ := List.cons.inj same
        obtain ⟨rfl, -⟩ := List.cons.inj later
        obtain ⟨upper, isUpper⟩ := Option.isSome_iff_exists.mp upper
        obtain ⟨lower, isLower⟩ := Option.isSome_iff_exists.mp lower
        exact noDigits upper lower isUpper isLower
      rw [unescape_percent noByte, List.flatMap_cons, percent,
        List.singleton_append, mark, mark]
      rcases induction with less | same
      · exact .inl (Nat.add_lt_add_right less 1)
      · exact .inr (congrArg (0x25 :: ·) same)
  | case4 character rest literal induction =>
      rw [List.flatMap_cons]
      by_cases isPercent : character = '%'
      · subst isPercent
        have noByte : ¬StartsWithByte rest := by
          rintro ⟨high, low, others, rfl, -⟩
          exact literal high low others rfl rfl
        rw [unescape_percent noByte, percent, List.singleton_append, mark, mark]
        rcases induction with less | same
        · exact .inl (Nat.add_lt_add_right less 1)
        · exact .inr (congrArg (0x25 :: ·) same)
      · rw [unescape_cons isPercent, weight_append, weight_append]
        rcases induction with less | same
        · exact .inl (Nat.add_lt_add_left less _)
        · exact .inr (congrArg (Utf8.encodeChar character ++ ·) same)

theorem textWeight_le (text : List Char) :
    textWeight text ≤ weight (text.flatMap Utf8.encodeChar) := by
  rcases textWeight_lt_or text with less | same
  · exact Nat.le_of_lt less
  · exact Nat.le_of_eq (congrArg weight same)

private theorem weight_filter_le (keeps : Char → Bool) (text : List Char) :
    weight ((text.filter keeps).flatMap Utf8.encodeChar) ≤
      weight (text.flatMap Utf8.encodeChar) := by
  induction text with
  | nil => exact Nat.le_refl _
  | cons character text induction =>
      rw [List.flatMap_cons, weight_append, List.filter_cons]
      split
      · rw [List.flatMap_cons, weight_append]
        omega
      · omega

private theorem weight_filter_lt {text : List Char} {character : Char}
    (member : character ∈ text) (ignored : isIgnored character = true) :
    weight
        ((text.filter fun other => !isIgnored other).flatMap Utf8.encodeChar) <
      weight (text.flatMap Utf8.encodeChar) := by
  obtain ⟨before, after, rfl⟩ := List.append_of_mem member
  have dropped : weight (Utf8.encodeChar character) = 1 := by
    simp only [isIgnored, Bool.or_eq_true, beq_iff_eq] at ignored
    rcases ignored with (rfl | rfl) | rfl <;> decide
  have first := weight_filter_le (fun other => !isIgnored other) before
  have second := weight_filter_le (fun other => !isIgnored other) after
  rw [List.filter_append, List.filter_cons_of_neg (by simpa using ignored),
    List.flatMap_append, List.flatMap_append, List.flatMap_cons, weight_append,
    weight_append, weight_append, dropped]
  omega

private theorem weight_slashOf_le (character : Char) :
    weight (Utf8.encodeChar (slashOf true character)) ≤
      weight (Utf8.encodeChar character) := by
  unfold slashOf
  split
  · exact Nat.zero_le _
  · exact Nat.le_refl _

private theorem weight_slashed_le (text : List Char) :
    weight ((slashed true text).flatMap Utf8.encodeChar) ≤
      weight (text.flatMap Utf8.encodeChar) := by
  induction text with
  | nil => exact Nat.le_refl _
  | cons character text induction =>
      have first := weight_slashOf_le character
      rw [slashed, List.map_cons, ← slashed, List.flatMap_cons,
        List.flatMap_cons, weight_append, weight_append]
      omega

private theorem weight_slashed_lt {text : List Char} (backslash : '\\' ∈ text) :
    weight ((slashed true text).flatMap Utf8.encodeChar) <
      weight (text.flatMap Utf8.encodeChar) := by
  obtain ⟨before, after, rfl⟩ := List.append_of_mem backslash
  have first := weight_slashed_le before
  have second := weight_slashed_le after
  have lost : weight (Utf8.encodeChar (slashOf true '\\')) = 0 := by decide
  have mark : weight (Utf8.encodeChar '\\') = 1 := by decide
  have spelled : slashed true (before ++ '\\' :: after) =
      slashed true before ++ slashOf true '\\' :: slashed true after := by
    simp [slashed]
  rw [spelled, List.flatMap_append, List.flatMap_append, List.flatMap_cons,
    List.flatMap_cons, weight_append, weight_append, weight_append,
    weight_append, lost, mark]
  omega

theorem textWeight_counted_le (name : String) :
    textWeight (counted name) ≤ weight (Utf8.encode name) :=
  Nat.le_trans (textWeight_le _) (weight_filter_le _ _)

/-- What is read from a name says less, unless the name means itself up to the
end of the path. -/
theorem textWeight_slashed_counted (name : String) :
    textWeight (slashed true (counted name)) < weight (Utf8.encode name) ∨
      textWeight (slashed true (counted name)) ≤ weight (Utf8.encode name) ∧
        ((∀ character ∈ counted name, endsPath character = false) →
          IsPlain name) := by
  have slashes := textWeight_slashed_le true (counted name)
  by_cases none_ : ∀ character ∈ name.toList, isIgnored character = false
  · have kept : counted name = name.toList := by
      refine List.filter_eq_self.mpr ?_
      intro character member
      rw [none_ character member]
      rfl
    rw [kept] at slashes ⊢
    by_cases backslash : '\\' ∈ name.toList
    · exact .inl
        (Nat.lt_of_le_of_lt (textWeight_le _) (weight_slashed_lt backslash))
    · rcases textWeight_lt_or name.toList with less | literal
      · exact .inl (Nat.lt_of_le_of_lt slashes less)
      · refine .inr
          ⟨Nat.le_trans slashes (textWeight_le _), fun goesOn => ⟨?_, literal⟩⟩
        intro character member
        have notIgnored := none_ character member
        have inside := goesOn character member
        have different : character ≠ '\\' := by
          rintro rfl
          exact backslash member
        simp only [isIgnored, endsPath, Bool.or_eq_false_iff,
          beq_eq_false_iff_ne] at notIgnored inside
        simp [isMark, notIgnored, inside, different]
  · left
    obtain ⟨character, member, ignored⟩ : ∃ character ∈ name.toList,
      isIgnored character = true := by
      simpa using none_
    exact Nat.lt_of_le_of_lt (Nat.le_trans slashes (textWeight_le _))
      (weight_filter_lt member ignored)

private theorem textWeight_directories_le (names : List String) :
    textWeight (names.flatMap fun name => counted name ++ ['/']) ≤
      namesWeight names := by
  induction names with
  | nil => exact Nat.le_refl _
  | cons name names induction =>
      have first := textWeight_counted_le name
      rw [List.flatMap_cons, List.append_assoc, List.singleton_append,
        textWeight_slash, namesWeight_cons]
      omega

private theorem textWeight_slashed_hrefTail (names : List String) :
    textWeight (slashed true (hrefTail names)) < namesWeight names + 10 ∨
      textWeight (slashed true (hrefTail names)) ≤ namesWeight names + 10 ∧
        ∀ name ∈ names,
          (∀ character ∈ counted name, endsPath character = false) →
            IsPlain name := by
  induction names with
  | nil => exact .inr ⟨by decide, by simp⟩
  | cons name names induction =>
      have spelled : slashed true (hrefTail (name :: names)) =
          slashed true (counted name) ++
            '/' :: slashed true (hrefTail names) := by
        rw [hrefTail_cons, slashed, List.map_append, List.map_cons]
        rfl
      rw [spelled, textWeight_slash, namesWeight_cons]
      rcases textWeight_slashed_counted name with less | ⟨le, plain⟩
      · left
        rcases induction with later | ⟨later, -⟩
        · omega
        · omega
      · rcases induction with later | ⟨later, plainLater⟩
        · left
          omega
        · refine .inr ⟨by omega, ?_⟩
          intro other member
          rcases List.mem_cons.mp member with rfl | inside
          · exact plain
          · exact plainLater other inside

private theorem exists_splitPath_hrefTail (names : List String) :
    ∃ front, splitPath true (hrefTail names) = front ++ ["index.html"] := by
  induction names with
  | nil => exact ⟨[], by decide⟩
  | cons name names induction =>
      obtain ⟨front, spelled⟩ := induction
      refine ⟨splitPath true (counted name) ++ front, ?_⟩
      have parts : splitPath true (counted name ++ '/' :: hrefTail names) =
          splitPath true (counted name) ++ splitPath true (hrefTail names) := by
        simp only [splitPath, List.map_append, List.map_cons, ite_self,
          Text.splitChars_append]
      rw [hrefTail_cons, parts, spelled, List.append_assoc]

private theorem exists_walk_concat (directories front : List String)
    {last : String}
    (moves : isHere last = false) (down : isAbove last = false) :
    ∃ before, walk false directories (front ++ [last]) = before ++ [last] := by
  induction front generalizing directories with
  | nil => exact ⟨directories, walk_last (.inl rfl) moves down⟩
  | cons segment front induction =>
      rw [List.cons_append, walk_enter _ _ (by simp)]
      exact induction _

private theorem textWeight_takeWhile_lt {text : List Char} {mark : Char}
    (member : mark ∈ text) (ends : endsPath mark = true) (rest : List Char) :
    textWeight ((text ++ rest).takeWhile fun character => !endsPath character) <
      textWeight text := by
  obtain ⟨first, found⟩ := Option.isSome_iff_exists.mp
    (List.find?_isSome.mpr ⟨mark, member, ends⟩ : (text.find? endsPath).isSome)
  obtain ⟨isEnd, before, others, rfl, goesOn⟩ :=
    List.find?_eq_some_iff_append.mp found
  have noDigit : hexValue? first = none :=
    hexValue?_of_endsPath (by rw [isEnd]; rfl)
  have weighs : 1 ≤ weight (Utf8.encodeChar first) ∧ first ≠ '%' := by
    simp only [endsPath, Bool.or_eq_true, beq_iff_eq] at isEnd
    rcases isEnd with rfl | rfl <;> decide
  have cut : textWeight (before ++ first :: others) =
      textWeight before +
        (weight (Utf8.encodeChar first) + textWeight others) := by
    rw [textWeight, unescape_append noDigit, unescape_cons weighs.2,
      weight_append, weight_append]
    rfl
  rw [List.append_assoc, List.takeWhile_append_of_pos goesOn, List.cons_append,
    List.takeWhile_cons_of_neg (by simp [isEnd]), List.append_nil, cut]
  omega

private theorem segmentsWeight_dataSegments_le (segments : List String) :
    segmentsWeight (dataSegments segments) ≤ segmentsWeight segments + 10 := by
  have jsonWeight : segmentsWeight ["index.json"] = 10 := by decide
  have shorter := segmentsWeight_sublist (List.dropLast_sublist segments)
  unfold dataSegments
  split
  · rw [segmentsWeight_append, jsonWeight]
    omega
  · exact Nat.le_of_eq (by rw [segmentsWeight_append, jsonWeight])

/-- The address of the route state of a page says less than its names, or the
names are plain. -/
theorem IsHttp.segmentsWeight_dataSegments {base : Url} (isHttp : base.IsHttp)
    {place : List String}
    {segments : List String}
    (path : (base.withPathFrom [] (hrefTail place)).path = .rooted segments) :
    segmentsWeight (dataSegments segments) < namesWeight place + 10 ∨
      segmentsWeight (dataSegments segments) ≤ namesWeight place + 10 ∧
        ∀ name ∈ place, IsPlain name := by
  obtain ⟨_, same, -, walked, -⟩ := isHttp.exists_path (hrefTail place)
  cases same.symm.trans path
  have bound := segmentsWeight_walk_le false []
    (splitPath true
      ((hrefTail place).takeWhile fun character => !endsPath character))
  rw [← walked, segmentsWeight_nil, Nat.zero_add] at bound
  have htmlWeight : segmentsWeight ["index.html"] = 10 := by decide
  have jsonWeight : segmentsWeight ["index.json"] = 10 := by decide
  by_cases goesOn : ∀ character ∈ hrefTail place, (!endsPath character) = true
  · rw [takeWhile_of_all goesOn] at bound walked
    obtain ⟨front, spelled⟩ := exists_splitPath_hrefTail place
    obtain ⟨before, last⟩ := exists_walk_concat [] front
      (show isHere "index.html" = false by decide) (by decide)
    rw [spelled, last] at walked
    rw [segmentsWeight_splitPath, walked, segmentsWeight_append,
      htmlWeight] at bound
    rw [walked, dataSegments_concat, if_pos (.inr rfl), segmentsWeight_append,
      jsonWeight]
    rcases textWeight_slashed_hrefTail place with less | ⟨le, plain⟩
    · exact .inl (Nat.lt_of_le_of_lt bound less)
    · refine .inr
        ⟨Nat.le_trans bound le, fun name member => plain name member ?_⟩
      intro character inside
      have shown : character ∈ hrefTail place :=
        List.mem_append_left _
          (List.mem_flatMap.mpr ⟨name, member, List.mem_append_left _ inside⟩)
      simpa using goesOn character shown
  · left
    obtain ⟨mark, member, ends⟩ : ∃ mark ∈ hrefTail place,
      endsPath mark = true := by
      simpa using goesOn
    have inside : mark ∈ place.flatMap fun name => counted name ++ ['/'] := by
      refine (List.mem_append.mp member).resolve_right fun last => ?_
      rw [(isInner_indexHtml mark last).2] at ends
      cases ends
    have lost := textWeight_takeWhile_lt inside ends "index.html".toList
    have directories := textWeight_directories_le place
    have parts := segmentsWeight_splitPath_le true
      ((hrefTail place).takeWhile fun character => !endsPath character)
    have more := segmentsWeight_dataSegments_le segments
    rw [hrefTail] at bound parts
    omega

end Url

end LessonSite
