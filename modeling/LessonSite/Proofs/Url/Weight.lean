import LessonSite.Proofs.Url.FilePath

/-!
# How much an address says

The bytes in the segments of an address, slashes aside, come from the text that
it was read from.  Whatever has a meaning of its own in an address is lost, so a
text that is read in another way than it was meant says less.
-/

namespace LessonSite.Url

/-- The number of bytes that are no slashes. -/
def weight (bytes : List UInt8) : Nat :=
  (bytes.filter (· != 0x2F)).length

/-- The weight of the bytes that a text stands for. -/
def textWeight (text : List Char) : Nat :=
  weight (unescape text)

/-- The weight of the bytes that segments stand for. -/
def segmentsWeight (segments : List String) : Nat :=
  (segments.map fun segment => textWeight segment.toList).sum

/-- The weight of the segments of a path. -/
def Path.weight : Path → Nat
  | .rooted segments => segmentsWeight segments
  | .opaqueText _ => 0

@[simp] theorem weight_append (first second : List UInt8) :
    weight (first ++ second) = weight first + weight second := by
  simp [weight]

@[simp] theorem weight_slash (bytes : List UInt8) :
    weight (0x2F :: bytes) = weight bytes := rfl

theorem weight_cons_le (byte : UInt8) {first second : List UInt8}
    (le : weight first ≤ weight second) :
    weight (byte :: first) ≤ weight (byte :: second) := by
  have apart : ∀ bytes, weight (byte :: bytes) = weight [byte] + weight bytes :=
    fun bytes => weight_append [byte] bytes
  rw [apart first, apart second]
  omega

@[simp] theorem segmentsWeight_nil : segmentsWeight [] = 0 := rfl

@[simp] theorem segmentsWeight_cons (segment : String)
    (segments : List String) :
    segmentsWeight (segment :: segments) =
      textWeight segment.toList + segmentsWeight segments := rfl

@[simp] theorem segmentsWeight_append (first second : List String) :
    segmentsWeight (first ++ second) =
      segmentsWeight first + segmentsWeight second := by
  rw [segmentsWeight, List.map_append, List.sum_append_nat]
  rfl

/-- The weight of the bytes of names. -/
def namesWeight (names : List String) : Nat :=
  (names.map fun name => weight (Utf8.encode name)).sum

@[simp] theorem namesWeight_nil : namesWeight [] = 0 := rfl

@[simp] theorem namesWeight_cons (name : String) (names : List String) :
    namesWeight (name :: names) =
      weight (Utf8.encode name) + namesWeight names := rfl

@[simp] theorem namesWeight_append (names others : List String) :
    namesWeight (names ++ others) = namesWeight names + namesWeight others := by
  rw [namesWeight, List.map_append, List.sum_append_nat]
  rfl

theorem segmentsWeight_sublist {some_ all : List String}
    (sublist : some_.Sublist all) :
    segmentsWeight some_ ≤ segmentsWeight all := by
  induction sublist with
  | slnil => exact Nat.le_refl _
  | cons segment _ induction =>
      rw [segmentsWeight_cons]
      omega
  | cons_cons segment _ induction =>
      rw [segmentsWeight_cons, segmentsWeight_cons]
      omega

private theorem not_startsWithByte {text rest : List Char} {mark : Char}
    (noDigit : hexValue? mark = none)
    (short : text.length < 2) : ¬StartsWithByte (text ++ mark :: rest) := by
  rintro ⟨high, low, others, same, first, second⟩
  match text with
  | [] =>
      rw [← (List.cons.inj same).1, noDigit] at first
      cases first
  | [digit] =>
      have later := (List.cons.inj same).2
      rw [← (List.cons.inj later).1, noDigit] at second
      cases second
  | first :: second :: rest =>
      simp only [List.length_cons] at short
      omega

/-- A character that is no digit does not belong to an escape before it. -/
theorem unescape_append {mark : Char} (noDigit : hexValue? mark = none)
    (text rest : List Char) :
    unescape (text ++ mark :: rest) =
      unescape text ++ unescape (mark :: rest) := by
  induction text using unescape.induct with
  | case1 => rfl
  | case2 high low others upper lower first second induction =>
      simp only [List.cons_append, unescape, first, second, induction]
  | case3 high low others noDigits induction =>
      have noByte : ∀ more, ¬StartsWithByte (high :: low :: more) := by
        rintro more ⟨first, second, tail, same, upper, lower⟩
        obtain ⟨rfl, later⟩ := List.cons.inj same
        obtain ⟨rfl, -⟩ := List.cons.inj later
        obtain ⟨upper, isUpper⟩ := Option.isSome_iff_exists.mp upper
        obtain ⟨lower, isLower⟩ := Option.isSome_iff_exists.mp lower
        exact noDigits upper lower isUpper isLower
      simp only [List.cons_append] at induction ⊢
      rw [unescape_percent (noByte _), unescape_percent (noByte _), induction,
        List.cons_append]
  | case4 character others literal induction =>
      rw [List.cons_append]
      by_cases percent : character = '%'
      · subst percent
        have short : others.length < 2 := by
          rcases others with _ | ⟨high, _ | ⟨low, more⟩⟩
          · exact Nat.zero_lt_two
          · exact Nat.one_lt_two
          · exact (literal high low more rfl rfl).elim
        have noByte : ¬StartsWithByte others := by
          rintro ⟨high, low, more, rfl, -⟩
          exact literal high low more rfl rfl
        rw [unescape_percent (not_startsWithByte noDigit short),
          unescape_percent noByte, induction, List.cons_append]
      · rw [unescape_cons percent, unescape_cons percent, induction,
          List.append_assoc]

theorem textWeight_slash (text rest : List Char) :
    textWeight (text ++ '/' :: rest) = textWeight text + textWeight rest := by
  have slash : unescape ('/' :: rest) = 0x2F :: unescape rest :=
    unescape_cons (by decide) rest
  rw [textWeight, unescape_append (by decide), slash, weight_append,
    weight_slash]
  rfl

/-- The rest of a text is what is left after some of it, and it does not begin
inside an escape. -/
structure IsRest (rest text : List Char) : Prop where
  suffix : ∃ before, text = before ++ rest
  begins : ∀ first ∈ rest.head?, hexValue? first = none

theorem IsRest.weight_le {rest text : List Char} (isRest : IsRest rest text) :
    textWeight rest ≤ textWeight text := by
  obtain ⟨before, rfl⟩ := isRest.suffix
  cases rest with
  | nil => exact Nat.zero_le _
  | cons first others =>
      rw [textWeight, textWeight, unescape_append (isRest.begins first rfl),
        weight_append]
      omega

theorem isRest_dropWhile {keeps : Char → Bool} (text : List Char)
    (ends : ∀ character, keeps character = false → hexValue? character = none) :
    IsRest (text.dropWhile keeps) text where
  suffix := ⟨text.takeWhile keeps, List.takeWhile_append_dropWhile.symm⟩
  begins := by
    intro first isFirst
    refine ends first ?_
    have stops := List.head?_dropWhile_not keeps text
    rw [Option.mem_def.mp isFirst] at stops
    simpa using stops

/-- Both parts of a text that is cut where no escape can be. -/
theorem textWeight_takeWhile {keeps : Char → Bool} (text : List Char)
    (ends : ∀ character, keeps character = false → hexValue? character = none) :
    textWeight (text.takeWhile keeps) + textWeight (text.dropWhile keeps) =
      textWeight text := by
  have isRest := isRest_dropWhile text ends
  have whole : text.takeWhile keeps ++ text.dropWhile keeps = text :=
    List.takeWhile_append_dropWhile
  cases rest : text.dropWhile keeps with
  | nil =>
      rw [rest, List.append_nil] at whole
      rw [whole]
      rfl
  | cons first others =>
      rw [rest] at isRest whole
      rw [textWeight, textWeight, ← weight_append,
        ← unescape_append (isRest.begins first rfl), whole]
      rfl

theorem hexValue?_of_endsPath {character : Char}
    (ends : (!endsPath character) = false) :
    hexValue? character = none := by
  simp only [endsPath, Bool.not_eq_false', Bool.or_eq_true, beq_iff_eq] at ends
  rcases ends with rfl | rfl <;> decide

theorem hexValue?_of_isSlash {special : Bool} {character : Char}
    (slash : isSlash special character = true) :
    hexValue? character = none ∧ character ≠ '%' := by
  simp only [isSlash, Bool.or_eq_true, beq_iff_eq, Bool.and_eq_true] at slash
  rcases slash with rfl | ⟨-, rfl⟩ <;> decide

theorem hexValue?_of_endsAuthority {special : Bool} {character : Char}
    (ends : (!endsAuthority special character) = false) :
    hexValue? character = none := by
  simp only [endsAuthority, Bool.not_eq_false', Bool.or_eq_true,
    beq_iff_eq] at ends
  rcases ends with (slash | rfl) | rfl
  · exact (hexValue?_of_isSlash slash).1
  · decide
  · decide

/-- A slash, of either kind, weighs nothing as a slash. -/
theorem textWeight_cons_isSlash {special : Bool} {first : Char}
    (slash : isSlash special first = true) (rest : List Char) :
    textWeight rest ≤ textWeight (first :: rest) := by
  rw [textWeight, textWeight, unescape_cons (hexValue?_of_isSlash slash).2,
    weight_append]
  omega

theorem textWeight_dropWhile_isSlash (text : List Char) :
    textWeight (text.dropWhile (isSlash true)) ≤ textWeight text := by
  induction text with
  | nil => exact Nat.le_refl _
  | cons first rest induction =>
      by_cases slash : isSlash true first = true
      · rw [List.dropWhile_cons_of_pos slash]
        exact Nat.le_trans induction (textWeight_cons_isSlash slash rest)
      · exact (List.dropWhile_cons_of_neg slash).symm ▸ Nat.le_refl _

/-- The character, or the slash of the usual kind for it. -/
def slashOf (special : Bool) (character : Char) : Char :=
  if isSlash special character then '/' else character

/-- The text with slashes of one kind only. -/
def slashed (special : Bool) (text : List Char) : List Char :=
  text.map (slashOf special)

private theorem slashOf_of_isDigit {special : Bool} {character : Char}
    (isDigit : (hexValue? (slashOf special character)).isSome) :
    slashOf special character = character := by
  unfold slashOf at isDigit ⊢
  split at isDigit
  · cases isDigit
  · next plain => rw [if_neg plain]

private theorem startsWithByte_of_slashed {special : Bool} {text : List Char}
    (starts : StartsWithByte (slashed special text)) : StartsWithByte text := by
  obtain ⟨high, low, rest, same, first, second⟩ := starts
  match text with
  | [] => cases same
  | [_] => cases (List.cons.inj same).2
  | one :: two :: others =>
      obtain ⟨rfl, later⟩ := List.cons.inj same
      obtain ⟨rfl, -⟩ := List.cons.inj later
      rw [slashOf_of_isDigit first] at first
      rw [slashOf_of_isDigit second] at second
      exact ⟨one, two, others, rfl, first, second⟩

theorem textWeight_slashed_le (special : Bool) (text : List Char) :
    textWeight (slashed special text) ≤ textWeight text := by
  have percent : slashOf special '%' = '%' := by cases special <;> decide
  unfold textWeight
  induction text using unescape.induct with
  | case1 => exact Nat.le_refl _
  | case2 high low rest upper lower first second induction =>
      have kept : ∀ {digit : Char} {value : Nat}, hexValue? digit = some value →
          slashOf special digit = digit := by
        intro digit value isDigit
        unfold slashOf
        split
        · next slash =>
            rw [(hexValue?_of_isSlash slash).1] at isDigit
            cases isDigit
        · rfl
      simp only [slashed, List.map_cons, percent, kept first,
        kept second] at induction ⊢
      simp only [unescape, first, second]
      exact weight_cons_le _ induction
  | case3 high low rest noDigits induction =>
      have noByte : ¬StartsWithByte (high :: low :: rest) := by
        rintro ⟨first, second, others, same, upper, lower⟩
        obtain ⟨rfl, later⟩ := List.cons.inj same
        obtain ⟨rfl, -⟩ := List.cons.inj later
        obtain ⟨upper, isUpper⟩ := Option.isSome_iff_exists.mp upper
        obtain ⟨lower, isLower⟩ := Option.isSome_iff_exists.mp lower
        exact noDigits upper lower isUpper isLower
      rw [slashed, List.map_cons, percent, ← slashed,
        unescape_percent fun starts =>
          noByte (startsWithByte_of_slashed starts),
        unescape_percent noByte]
      exact weight_cons_le _ induction
  | case4 character rest literal induction =>
      rw [slashed, List.map_cons, ← slashed]
      by_cases isPercent : character = '%'
      · subst isPercent
        have noByte : ¬StartsWithByte rest := by
          rintro ⟨high, low, others, rfl, -⟩
          exact literal high low others rfl rfl
        rw [percent,
          unescape_percent fun starts =>
            noByte (startsWithByte_of_slashed starts), unescape_percent noByte]
        exact weight_cons_le _ induction
      · rw [unescape_cons isPercent, weight_append]
        unfold slashOf
        split
        · rw [unescape_cons (by decide), weight_append]
          have nothing : weight (Utf8.encodeChar '/') = 0 := by decide
          omega
        · rw [unescape_cons isPercent, weight_append]
          omega

/-- The parts of a text weigh as much as the text, when nothing else is lost at
a slash. -/
theorem sum_splitChars {heft : List Char → Nat}
    (slashes : ∀ text rest, heft (text ++ '/' :: rest) = heft text + heft rest)
    {size : Nat} (text : List Char) (bound : text.length ≤ size) :
    ((Text.splitChars '/' text).map heft).sum = heft text := by
  induction size generalizing text with
  | zero =>
      obtain rfl := List.length_eq_zero_iff.mp (Nat.le_zero.mp bound)
      exact Eq.trans (Nat.add_zero _) rfl
  | succ size induction =>
      by_cases slash : '/' ∈ text
      · obtain ⟨before, after, rfl, noSlash⟩ := List.eq_append_cons_of_mem slash
        have shorter : after.length ≤ size := by
          simp only [List.length_append, List.length_cons] at bound
          omega
        rw [Text.splitChars_append, Text.splitChars_of_not_mem noSlash,
          List.singleton_append, List.map_cons, List.sum_cons,
          induction after shorter, slashes]
      · rw [Text.splitChars_of_not_mem slash]
        rfl

theorem segmentsWeight_splitPath (special : Bool) (text : List Char) :
    segmentsWeight (splitPath special text) =
      textWeight (slashed special text) := by
  have parts :
      splitPath special text =
        (Text.splitChars '/' (slashed special text)).map fun segment =>
          String.ofList (escape EscapeSet.path segment) := rfl
  rw [← sum_splitChars textWeight_slash _ (Nat.le_refl _), parts,
    segmentsWeight, List.map_map]
  refine congrArg List.sum (List.map_congr_left ?_)
  intro part _
  simp only [Function.comp_apply, textWeight, String.toList_ofList,
    unescape_escape keepsEscapes_path]

theorem segmentsWeight_splitPath_le (special : Bool) (text : List Char) :
    segmentsWeight (splitPath special text) ≤ textWeight text := by
  rw [segmentsWeight_splitPath]
  exact textWeight_slashed_le special text

theorem segmentsWeight_goUp_le (directories : List String) :
    segmentsWeight (goUp directories) ≤ segmentsWeight directories := by
  unfold goUp
  split
  · split
    · exact Nat.le_refl _
    · exact segmentsWeight_sublist (List.dropLast_sublist _)
  · exact Nat.zero_le _

private theorem textWeight_pair {letter mark : Char} (plain : letter ≠ '%')
    (literal : mark ≠ '%') :
    textWeight [letter, mark] =
      weight (Utf8.encodeChar letter) + weight (Utf8.encodeChar mark) := by
  rw [textWeight, unescape_cons plain, weight_append, unescape_cons literal,
    weight_append]
  rfl

theorem textWeight_keepSegment (file : Bool) (directories : List String)
    (segment : String) :
    textWeight (keepSegment file directories segment).toList =
      textWeight segment.toList := by
  unfold keepSegment
  split
  · next letter other text =>
      split
      · next drive =>
          simp only [Bool.and_eq_true] at drive
          obtain ⟨first, mark, same, isLetter, isMark⟩ := isDrive_iff.mp drive.2
          have noPercent : first ≠ '%' := by
            rintro rfl
            revert isLetter
            decide
          rw [text] at same
          cases same
          rw [String.toList_ofList, text, textWeight_pair noPercent (by decide),
            textWeight_pair noPercent
              (by rcases isMark with rfl | rfl <;> decide)]
          rcases isMark with rfl | rfl <;> rfl
      · rfl
  · rfl

theorem segmentsWeight_walk_le (file : Bool)
    (directories segments : List String) :
    segmentsWeight (walk file directories segments) ≤
      segmentsWeight directories + segmentsWeight segments := by
  have empty : textWeight "".toList = 0 := by decide
  have up := segmentsWeight_goUp_le
  induction segments generalizing directories with
  | nil => exact Nat.le_refl _
  | cons segment segments induction =>
      have kept := textWeight_keepSegment file directories segment
      have higher := up directories
      cases segments with
      | nil =>
          rw [walk]
          repeat' split
          all_goals
            simp only [segmentsWeight_append, segmentsWeight_cons,
              segmentsWeight_nil, empty, kept]
            omega
      | cons next others =>
          rw [walk]
          have above := induction (goUp directories)
          have here := induction directories
          have below :=
            induction (directories ++ [keepSegment file directories segment])
          rw [segmentsWeight_cons segment]
          simp only [segmentsWeight_append directories,
            segmentsWeight_cons (keepSegment _ _ _), segmentsWeight_nil,
            kept] at below
          split
          · omega
          · split
            · omega
            · omega

theorem segmentsWeight_dropEmptyStart (segments : List String) :
    segmentsWeight (dropEmptyStart segments) ≤ segmentsWeight segments := by
  induction segments using dropEmptyStart.induct with
  | case1 next rest induction =>
      rw [dropEmptyStart, segmentsWeight_cons]
      omega
  | case2 segments other =>
      have kept : dropEmptyStart segments = segments := by
        rw [dropEmptyStart]
        exact other
      exact Nat.le_of_eq (congrArg segmentsWeight kept)

theorem weight_resolvePath_le (scheme : String) (directories : List String)
    (text : List Char) :
    (resolvePath scheme directories text).weight ≤
      segmentsWeight directories + textWeight text := by
  have parts := segmentsWeight_splitPath_le (isSpecial scheme) text
  have walked :=
    segmentsWeight_walk_le (scheme == "file") directories
      (splitPath (isSpecial scheme) text)
  have dropped := segmentsWeight_dropEmptyStart
    (walk (scheme == "file") directories (splitPath (isSpecial scheme) text))
  unfold resolvePath Path.weight
  simp only
  split
  · omega
  · omega

theorem weight_withPathFrom_le (base : Url) (directories : List String)
    (text : List Char) :
    (base.withPathFrom directories text).path.weight ≤
      segmentsWeight directories + textWeight text := by
  have whole :=
    textWeight_takeWhile text fun character => @hexValue?_of_endsPath character
  have resolved := weight_resolvePath_le base.scheme directories
    (text.takeWhile fun character => !endsPath character)
  change (resolvePath base.scheme directories
    (text.takeWhile fun character => !endsPath character)).weight ≤ _
  omega

end LessonSite.Url
