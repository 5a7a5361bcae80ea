import LessonSite.Proofs.Text.Utf8
import LessonSite.Url.Percent

/-!
# Escapes

What is escaped is unescaped to the same bytes, and a text that has been escaped
for a part of an address stays as it is when it is escaped for this part again.
-/

namespace LessonSite.Url

/-- The text begins with two hexadecimal digits. -/
def StartsWithByte (text : List Char) : Prop :=
  ∃ high low rest,
    text = high :: low :: rest ∧ (hexValue? high).isSome ∧
      (hexValue? low).isSome

theorem unescape_cons {character : Char} (literal : character ≠ '%')
    (rest : List Char) :
    unescape (character :: rest) =
      Utf8.encodeChar character ++ unescape rest := by
  rw [unescape]
  intro high low others percent
  exact absurd percent literal

/-- A `%` without two digits after it stands for itself. -/
theorem unescape_percent {rest : List Char} (noByte : ¬StartsWithByte rest) :
    unescape ('%' :: rest) = 0x25 :: unescape rest := by
  match rest with
  | [] => rfl
  | [_] => rfl
  | high :: low :: rest =>
      rw [unescape]
      cases first : hexValue? high with
      | none => rfl
      | some upper =>
          cases second : hexValue? low with
          | none => rfl
          | some lower =>
              exact absurd
                ⟨high, low, rest, rfl, by simp [first], by simp [second]⟩ noByte

private theorem hexValue?_hexDigit {value : Nat} (small : value < 16) :
    hexValue? (hexDigit value) = some value := by
  have all :
      ∀ digit : Fin 16,
        hexValue? (hexDigit digit.val) = some digit.val := by decide
  exact all ⟨value, small⟩

theorem unescape_escapeByte (byte : UInt8) (rest : List Char) :
    unescape (escapeByte byte ++ rest) = byte :: unescape rest := by
  have size : byte.toNat < 256 := byte.toNat_lt
  have whole : byte.toNat / 16 * 16 + byte.toNat % 16 = byte.toNat := by omega
  rw [escapeByte, List.cons_append, List.cons_append, List.cons_append,
    List.nil_append, unescape]
  simp only [hexValue?_hexDigit (show byte.toNat / 16 < 16 by omega),
    hexValue?_hexDigit (show byte.toNat % 16 < 16 by omega), whole,
    UInt8.ofNat_toNat]

theorem unescape_escapeBytes (bytes : List UInt8) (rest : List Char) :
    unescape (bytes.flatMap escapeByte ++ rest) = bytes ++ unescape rest := by
  induction bytes with
  | nil => rfl
  | cons byte bytes induction =>
      rw [List.flatMap_cons, List.append_assoc, unescape_escapeByte, induction,
        List.cons_append]

/-- The characters of escapes themselves are not escaped. -/
structure EscapeSet.KeepsEscapes (set : EscapeSet) : Prop where
  percent : set '%' = false
  digits : ∀ digit, (hexValue? digit).isSome → set digit = false

theorem isAscii_of_hexValue? {digit : Char}
    (isDigit : (hexValue? digit).isSome) :
    0x30 ≤ digit.toNat ∧ digit.toNat ≤ 0x66 := by
  unfold hexValue? at isDigit
  simp only at isDigit
  split at isDigit
  · omega
  · split at isDigit
    · omega
    · split at isDigit
      · omega
      · cases isDigit

theorem keepsEscapes_path : EscapeSet.path.KeepsEscapes where
  percent := by decide
  digits := by
    intro digit isDigit
    have range := isAscii_of_hexValue? isDigit
    simp only [EscapeSet.path, EscapeSet.fragment, EscapeSet.control,
      Bool.or_eq_false_iff, decide_eq_false_iff_not, List.contains_eq_mem,
      List.mem_cons, List.not_mem_nil, or_false]
    refine ⟨⟨⟨by omega, by omega⟩, ?_⟩, ?_⟩
    · rintro (rfl | rfl | rfl | rfl | rfl) <;> revert isDigit <;> decide
    · rintro (rfl | rfl | rfl | rfl) <;> revert isDigit <;> decide

theorem keepsEscapes_userInfo : EscapeSet.userInfo.KeepsEscapes where
  percent := by decide
  digits := by
    intro digit isDigit
    simp only [EscapeSet.userInfo, keepsEscapes_path.digits digit isDigit,
      Bool.false_or, List.contains_eq_mem, List.mem_cons, List.not_mem_nil,
      or_false, decide_eq_false_iff_not]
    rintro (rfl | rfl | rfl | rfl | rfl | rfl | rfl | rfl | rfl | rfl) <;>
      revert isDigit <;> decide

/-- Every character of the text may stand in the part of an address as it is. -/
def EscapeSet.IsKept (set : EscapeSet) (text : List Char) : Prop :=
  ∀ character ∈ text, character.toNat < 0x80 ∧ set character = false

instance (set : EscapeSet) (text : List Char) : Decidable (set.IsKept text) :=
  decidable_of_iff
    (text.all
      (fun character => decide (character.toNat < 0x80) && !set character) =
      true)
    (by
      simp only [List.all_eq_true, Bool.and_eq_true, decide_eq_true_eq,
        Bool.not_eq_true', EscapeSet.IsKept])

variable {set : EscapeSet}

theorem escapeChar_of_isKept {character : Char} (ascii : character.toNat < 0x80)
    (kept : set character = false) :
    escapeChar set character = [character] := by
  rw [escapeChar, if_neg]
  simp only [kept, Bool.or_false, decide_eq_true_eq]
  omega

theorem escape_of_isKept {text : List Char} (kept : set.IsKept text) :
    escape set text = text := by
  induction text with
  | nil => rfl
  | cons character text induction =>
      obtain ⟨ascii, literal⟩ := kept character List.mem_cons_self
      rw [escape, List.flatMap_cons, escapeChar_of_isKept ascii literal,
        ← escape,
        induction fun other member =>
          kept other (List.mem_cons_of_mem _ member)]
      rfl

/-- A character of an escaped text stands in the text, or it belongs to an
escape. -/
theorem mem_escape {text : List Char} {character : Char}
    (member : character ∈ escape set text) :
    character ∈ text ∨ character = '%' ∨ (hexValue? character).isSome := by
  obtain ⟨source, isSource, inside⟩ := List.mem_flatMap.mp member
  unfold escapeChar at inside
  split at inside
  · obtain ⟨byte, -, among⟩ := List.mem_flatMap.mp inside
    have size : byte.toNat < 256 := byte.toNat_lt
    simp only [escapeByte, List.mem_cons, List.not_mem_nil, or_false] at among
    rcases among with rfl | rfl | rfl
    · exact .inr (.inl rfl)
    · right; right
      rw [hexValue?_hexDigit (by omega)]
      rfl
    · right; right
      rw [hexValue?_hexDigit (by omega)]
      rfl
  · exact .inl (List.mem_singleton.mp inside ▸ isSource)

private theorem isKept_escapeByte (keeps : set.KeepsEscapes) (byte : UInt8) :
    set.IsKept (escapeByte byte) := by
  have size : byte.toNat < 256 := byte.toNat_lt
  have digit :
      ∀ value,
        value < 16 →
        (hexDigit value).toNat < 0x80 ∧ set (hexDigit value) = false := by
    intro value small
    have isDigit : (hexValue? (hexDigit value)).isSome := by
      rw [hexValue?_hexDigit small]; rfl
    exact ⟨by have := isAscii_of_hexValue? isDigit; omega,
      keeps.digits _ isDigit⟩
  intro character member
  simp only [escapeByte, List.mem_cons, List.not_mem_nil, or_false] at member
  rcases member with rfl | rfl | rfl
  · exact ⟨by decide, keeps.percent⟩
  · exact digit _ (by omega)
  · exact digit _ (by omega)

theorem isKept_escape (keeps : set.KeepsEscapes) (text : List Char) :
    set.IsKept (escape set text) := by
  intro character member
  obtain ⟨source, -, inside⟩ := List.mem_flatMap.mp member
  unfold escapeChar at inside
  split at inside
  · obtain ⟨byte, -, among⟩ := List.mem_flatMap.mp inside
    exact isKept_escapeByte keeps byte character among
  · next literal =>
      simp only [Bool.or_eq_true, decide_eq_true_eq, not_or,
        Bool.not_eq_true] at literal
      cases List.mem_singleton.mp inside
      exact ⟨by omega, literal.2⟩

theorem escapeChar_cases (set : EscapeSet) (character : Char) :
    escapeChar set character = [character] ∨
      (character.toNat ≥ 0x80 ∨ set character = true) ∧
        ∃ high low rest,
          escapeChar set character = '%' :: high :: low :: rest := by
  unfold escapeChar
  split
  · next escaped =>
      obtain ⟨byte, bytes, encoded⟩ :=
        List.exists_cons_of_ne_nil (Utf8.encodeChar_ne_nil character)
      simp only [Bool.or_eq_true, decide_eq_true_eq] at escaped
      exact .inr ⟨escaped, _, _, bytes.flatMap escapeByte, by rw [encoded]; rfl⟩
  · exact .inl rfl

theorem unescape_escapeChar {character : Char} (literal : character ≠ '%')
    (rest : List Char) :
    unescape (escapeChar set character ++ rest) =
      Utf8.encodeChar character ++ unescape rest := by
  unfold escapeChar
  split
  · exact unescape_escapeBytes _ rest
  · exact unescape_cons literal rest

/-- A text whose `%` are escaped is unescaped to its bytes. -/
theorem unescape_escape_of_percent (escapes : set '%' = true)
    (text : List Char) :
    unescape (escape set text) = text.flatMap Utf8.encodeChar := by
  induction text with
  | nil => rfl
  | cons character text induction =>
      rw [escape, List.flatMap_cons, List.flatMap_cons, ← escape]
      by_cases percent : character = '%'
      · subst percent
        rw [escapeChar, if_pos (by simp [escapes]), unescape_escapeBytes,
          induction]
      · rw [unescape_escapeChar percent, induction]

private theorem not_startsWithByte_escape {text : List Char}
    (noByte : ¬StartsWithByte text) : ¬StartsWithByte (escape set text) := by
  have marks : ∀ {character : Char} {first : Char} {rest others : List Char},
      escapeChar set character ++ others = first :: rest →
      (hexValue? first).isSome →
        first = character ∧ rest = others := by
    intro character first rest others spelled isDigit
    rcases escapeChar_cases set character with
      literal | ⟨-, high, low, tail, escaped⟩
    · rw [literal] at spelled
      obtain ⟨rfl, rfl⟩ := List.cons.inj spelled
      exact ⟨rfl, rfl⟩
    · rw [escaped] at spelled
      obtain ⟨rfl, -⟩ := List.cons.inj spelled
      exact absurd isDigit (by decide)
  rintro ⟨high, low, rest, spelled, first, second⟩
  cases text with
  | nil => cases spelled
  | cons character text =>
      obtain ⟨rfl, later⟩ := marks spelled first
      cases text with
      | nil => cases later
      | cons next text =>
          obtain ⟨rfl, -⟩ := marks later.symm second
          exact noByte ⟨_, _, text, rfl, first, second⟩

/-- A set that keeps escapes does not change what a text is unescaped to. -/
theorem unescape_escape (keeps : set.KeepsEscapes) (text : List Char) :
    unescape (escape set text) = unescape text := by
  induction text using unescape.induct with
  | case1 => rfl
  | case2 high low rest upper lower first second induction =>
      have kept : ∀ {digit : Char} {value : Nat}, hexValue? digit = some value →
          escapeChar set digit = [digit] := by
        intro digit value isDigit
        have some_ : (hexValue? digit).isSome := by rw [isDigit]; rfl
        have range := isAscii_of_hexValue? some_
        exact escapeChar_of_isKept (by omega) (keeps.digits digit some_)
      rw [escape, List.flatMap_cons, List.flatMap_cons, List.flatMap_cons,
        ← escape, kept first, kept second,
        escapeChar_of_isKept (by decide) keeps.percent]
      simp only [List.cons_append, List.nil_append, unescape, first, second,
        induction]
  | case3 high low rest noDigits induction =>
      have noByte : ¬StartsWithByte (high :: low :: rest) := by
        rintro ⟨first, second, others, same, upper, lower⟩
        obtain ⟨rfl, later⟩ := List.cons.inj same
        obtain ⟨rfl, -⟩ := List.cons.inj later
        obtain ⟨upper, isUpper⟩ := Option.isSome_iff_exists.mp upper
        obtain ⟨lower, isLower⟩ := Option.isSome_iff_exists.mp lower
        exact noDigits upper lower isUpper isLower
      rw [escape, List.flatMap_cons, ← escape,
        escapeChar_of_isKept (by decide) keeps.percent, List.cons_append,
        List.nil_append, unescape_percent (not_startsWithByte_escape noByte),
        induction, unescape_percent noByte]
  | case4 character rest literal induction =>
      rw [escape, List.flatMap_cons, ← escape]
      by_cases percent : character = '%'
      · subst percent
        have noByte : ¬StartsWithByte rest := by
          rintro ⟨high, low, others, rfl, -⟩
          exact literal high low others rfl rfl
        rw [escapeChar_of_isKept (by decide) keeps.percent, List.cons_append,
          List.nil_append, unescape_percent (not_startsWithByte_escape noByte),
          induction, unescape_percent noByte]
      · rw [unescape_escapeChar percent, induction, unescape_cons percent]

end LessonSite.Url
