import LessonSite.Proofs.Url.Join
import LessonSite.Proofs.Url.Write

/-!
# Addresses that are escaped before they are read

A text can be escaped before it is read as an address.  When each character that
is escaped then would be escaped in every part of an address, it leads to the
same place.
-/

namespace LessonSite.Url

variable {set other : EscapeSet} {text : List Char} {inClass : Char → Bool}

/-- What is escaped once more stays, when the first set is a part of the second
one on the text. -/
theorem escape_escape_of_covered (keeps : set.KeepsEscapes)
    (covered : ∀ character ∈ text,
      other character = true → set character = true) :
    escape set (escape other text) = escape set text := by
  induction text with
  | nil => rfl
  | cons character text induction =>
      obtain ⟨here, covered⟩ := List.forall_mem_cons.mp covered
      have one :
          escape set (escapeChar other character) =
            escapeChar set character := by
        rcases escapeChar_cases other character with kept | ⟨escaped, -⟩
        · rw [kept]
          exact List.append_nil _
        · have same :
              escapeChar other character = escapeChar set character := by
            rw [escapeChar, escapeChar]
            rcases escaped with high | escaped
            · simp [high]
            · simp [escaped, here escaped]
          have whole : escape set [character] = escapeChar set character :=
            List.append_nil _
          rw [same, ← whole]
          exact escape_of_isKept (isKept_escape keeps _)
      calc escape set (escape other (character :: text))
          =
          escape set (escapeChar other character) ++
            escape set (escape other text) := by
            rw [escape, escape, escape, escape, List.flatMap_cons,
              List.flatMap_append]
            rfl
        _ = escape set (character :: text) := by
            rw [one, induction covered]
            rfl

/-- The characters of escapes are in the class. -/
def HoldsEscapes (inClass : Char → Bool) : Prop :=
  inClass '%' = true ∧ ∀ digit, (hexValue? digit).isSome → inClass digit = true

theorem HoldsEscapes.of_outside
    (outside : ∀ mark,
      inClass mark = false → mark ≠ '%' ∧ (hexValue? mark).isSome = false) :
    HoldsEscapes inClass := by
  constructor
  · cases inside : inClass '%' with
    | true => rfl
    | false => exact absurd rfl (outside '%' inside).1
  · intro digit isDigit
    cases inside : inClass digit with
    | true => rfl
    | false =>
        rw [(outside digit inside).2] at isDigit
        cases isDigit

theorem HoldsEscapes.of_mem (holds : HoldsEscapes inClass)
    {character mark : Char}
    (inside : inClass character = true)
    (member : mark ∈ escapeChar set character) : inClass mark = true := by
  have single : mark ∈ escape set [character] := by
    rwa [escape, List.flatMap_singleton]
  rcases mem_escape single with same | rfl | isDigit
  · rwa [List.mem_singleton.mp same]
  · exact holds.1
  · exact holds.2 mark isDigit

/-- A text is cut at the same place before and after it is escaped. -/
theorem span_escape (holds : HoldsEscapes inClass)
    (kept : ∀ character ∈ text,
      inClass character = false → escapeChar set character = [character]) :
    (escape set text).takeWhile inClass = escape set (text.takeWhile inClass) ∧
      (escape set text).dropWhile inClass =
        escape set (text.dropWhile inClass) := by
  induction text with
  | nil => exact ⟨rfl, rfl⟩
  | cons character text induction =>
      obtain ⟨here, kept⟩ := List.forall_mem_cons.mp kept
      obtain ⟨taken, dropped⟩ := induction kept
      have split :
          escape set (character :: text) =
            escapeChar set character ++ escape set text :=
        List.flatMap_cons
      by_cases inside : inClass character = true
      · have all : ∀ mark ∈ escapeChar set character, inClass mark = true :=
          fun mark => holds.of_mem inside
        rw [split, List.takeWhile_append_of_pos all,
          List.dropWhile_append_of_pos all, List.takeWhile_cons_of_pos inside,
          List.dropWhile_cons_of_pos inside, taken, dropped]
        exact ⟨rfl, rfl⟩
      · rw [split, here (by simpa using inside), List.singleton_append,
          List.takeWhile_cons_of_neg inside, List.dropWhile_cons_of_neg inside,
          List.takeWhile_cons_of_neg inside, List.dropWhile_cons_of_neg inside,
          split, here (by simpa using inside)]
        exact ⟨rfl, rfl⟩

theorem splitChars_escape (kept : set '/' = false) (text : List Char) :
    Text.splitChars '/' (escape set text) =
      (Text.splitChars '/' text).map (escape set) := by
  have slash : escapeChar set '/' = ['/'] :=
    escapeChar_of_isKept (by decide) kept
  have absent :
      ∀ character, character ≠ '/' → '/' ∉ escapeChar set character := by
    intro character different member
    have holds : HoldsEscapes (· != '/') := .of_outside fun mark slash => by
      obtain rfl : mark = '/' := by simpa using slash
      decide
    exact absurd (holds.of_mem (by simpa using different) member) (by decide)
  induction text with
  | nil => rfl
  | cons character text induction =>
      have split :
          escape set (character :: text) =
            escapeChar set character ++ escape set text :=
        List.flatMap_cons
      by_cases isSlash : character = '/'
      · subst isSlash
        rw [split, slash, List.singleton_append, Text.splitChars, if_pos rfl,
          induction, Text.splitChars, if_pos rfl]
        rfl
      · rw [split, Text.splitChars_append_of_not_mem (absent character isSlash),
          induction, Text.splitChars, if_neg isSlash]
        cases parts : Text.splitChars '/' text with
        | nil => exact absurd parts (Text.splitChars_ne_nil _ _)
        | cons part others => rfl

/-- Characters that are escaped in every part of an address. -/
def EscapeSet.everywhere : EscapeSet :=
  fun character => control character || [' ', '"', '<', '>'].contains character

theorem EscapeSet.of_everywhere {character : Char}
    (escaped : everywhere character = true) :
    path character = true ∧ fragment character = true ∧
      query character = true := by
  simp only [everywhere, Bool.or_eq_true, List.contains_iff_mem, List.mem_cons,
    List.not_mem_nil, or_false] at escaped
  rcases escaped with low | rfl | rfl | rfl | rfl
  · simp [path, fragment, query, low]
  all_goals decide

theorem keepsEscapes_fragment : EscapeSet.fragment.KeepsEscapes where
  percent := by decide
  digits := by
    intro digit isDigit
    have kept := keepsEscapes_path.digits digit isDigit
    exact (Bool.or_eq_false_iff.mp kept).1

theorem keepsEscapes_query : EscapeSet.query.KeepsEscapes where
  percent := by decide
  digits := by
    intro digit isDigit
    have range := isAscii_of_hexValue? isDigit
    simp only [EscapeSet.query, EscapeSet.control, Bool.or_eq_false_iff,
      decide_eq_false_iff_not, List.contains_eq_mem, List.mem_cons,
      List.not_mem_nil, or_false]
    refine ⟨⟨by omega, by omega⟩, ?_⟩
    rintro (rfl | rfl | rfl | rfl | rfl) <;> revert isDigit <;> decide

theorem keepsEscapes_specialQuery : EscapeSet.specialQuery.KeepsEscapes where
  percent := by decide
  digits := by
    intro digit isDigit
    have other : (digit == '\'') = false := by
      rw [beq_eq_false_iff_ne]
      rintro rfl
      exact absurd isDigit (by decide)
    rw [EscapeSet.specialQuery, keepsEscapes_query.digits digit isDigit, other]
    rfl

/-- Only characters that are escaped in every part of an address are escaped in
the text. -/
def Spares (set : EscapeSet) (text : List Char) : Prop :=
  ∀ character ∈ text,
    set character = true → EscapeSet.everywhere character = true

namespace Spares

theorem sublist {part : List Char} (spares : Spares set text)
    (within : ∀ character ∈ part, character ∈ text) :
    Spares set part :=
  fun character member => spares character (within character member)

theorem kept (spares : Spares set text) {mark : Char}
    (isMark : mark.toNat < 0x80)
    (free : EscapeSet.everywhere mark = false) (member : mark ∈ text) :
    escapeChar set mark = [mark] := by
  refine escapeChar_of_isKept isMark ?_
  cases escaped : set mark with
  | false => rfl
  | true =>
      rw [spares mark member escaped] at free
      cases free

theorem escape_path (spares : Spares set text) :
    escape .path (escape set text) = escape .path text :=
  escape_escape_of_covered keepsEscapes_path fun character member escaped =>
    (EscapeSet.of_everywhere (spares character member escaped)).1

theorem escape_fragment (spares : Spares set text) :
    escape .fragment (escape set text) = escape .fragment text :=
  escape_escape_of_covered keepsEscapes_fragment fun character member escaped =>
    (EscapeSet.of_everywhere (spares character member escaped)).2.1

theorem escape_query (spares : Spares set text) (special : Bool) :
    escape (if special then .specialQuery else .query) (escape set text) =
      escape (if special then .specialQuery else .query) text := by
  have covered :
      ∀ character ∈ text,
        set character = true → EscapeSet.query character = true :=
    fun character member escaped =>
      (EscapeSet.of_everywhere (spares character member escaped)).2.2
  cases special with
  | false => exact escape_escape_of_covered keepsEscapes_query covered
  | true =>
      refine escape_escape_of_covered
        keepsEscapes_specialQuery fun character member escaped => ?_
      exact Bool.or_eq_true_iff.mpr (.inl (covered character member escaped))

theorem splitPath_escape (spares : Spares set text) (noBackslash : '\\' ∉ text)
    (kept : set '/' = false)
    (special : Bool) :
    splitPath special (escape set text) = splitPath special text := by
  have plain : ∀ text : List Char, '\\' ∉ text →
      text.map
        (fun character =>
          if isSlash special character then '/' else character) = text := by
    intro text absent
    refine (List.map_congr_left fun character member => ?_).trans
      (List.map_id _)
    have different : (character == '\\') = false :=
      beq_eq_false_iff_ne.mpr (ne_of_mem_of_not_mem member absent)
    by_cases slash : character = '/'
    · simp [slash]
    · simp [isSlash, slash, different]
  have absent : '\\' ∉ escape set text := by
    intro member
    rcases mem_escape member with inside | percent | digit
    · exact noBackslash inside
    · cases percent
    · exact absurd digit (by decide)
  rw [splitPath, splitPath, plain _ absent, plain _ noBackslash,
    splitChars_escape kept, List.map_map]
  refine List.map_congr_left fun part isPart => congrArg String.ofList ?_
  exact escape_path
    (spares.sublist fun character member =>
      (Text.mem_of_mem_splitChars isPart member).1)

theorem readTail_escape (spares : Spares set text)
    (begins : ∀ first ∈ text.head?, endsPath first = true)
    (special : Bool) :
    readTail special (escape set text) = readTail special text := by
  cases text with
  | nil => rfl
  | cons first rest =>
      have others : Spares set rest :=
        spares.sublist fun character => List.mem_cons_of_mem _
      have mark : first = '?' ∨ first = '#' := by
        simpa [endsPath] using begins first rfl
      have kept :
          ∀ mark : Char,
            mark.toNat < 0x80 → EscapeSet.everywhere mark = false →
            first = mark →
              escape set (first :: rest) = mark :: escape set rest := by
        rintro mark ascii free rfl
        rw [escape, List.flatMap_cons,
          spares.kept ascii free List.mem_cons_self]
        rfl
      rcases mark with rfl | rfl
      · have holds : HoldsEscapes (· != '#') :=
          .of_outside fun mark isMark => by
            obtain rfl : mark = '#' := by simpa using isMark
            decide
        obtain ⟨taken, dropped⟩ :=
          span_escape holds fun character member isMark => by
            obtain rfl : character = '#' := by simpa using isMark
            exact others.kept (by decide) (by decide) member
        have sparesQuery : Spares set (rest.takeWhile (· != '#')) :=
          others.sublist fun character => (List.takeWhile_sublist _).mem
        have query := sparesQuery.escape_query special
        rw [kept '?' (by decide) (by decide) rfl, readTail, readTail, taken,
          dropped, query]
        cases left : rest.dropWhile (· != '#') with
        | nil => rfl
        | cons mark after =>
            have stops := List.head?_dropWhile_not (· != '#') rest
            rw [left] at stops
            obtain rfl : mark = '#' := by simpa using stops
            have inside : ∀ character ∈ '#' :: after, character ∈ rest :=
              fun character member =>
                (List.dropWhile_sublist (· != '#')).mem (left ▸ member)
            have fragments : Spares set after :=
              others.sublist fun character member =>
                inside character (List.mem_cons_of_mem _ member)
            have split :
                escape set ('#' :: after) = '#' :: escape set after := by
              have isInside : '#' ∈ rest := inside '#' List.mem_cons_self
              rw [escape, List.flatMap_cons,
                others.kept (by decide) (by decide) isInside]
              rfl
            rw [split]
            dsimp only
            rw [fragments.escape_fragment]
      · rw [kept '#' (by decide) (by decide) rfl, readTail, readTail]
        dsimp only
        rw [others.escape_fragment]

theorem withPathFrom_escape (spares : Spares set text)
    (noBackslash : '\\' ∉ text) (kept : set '/' = false)
    (base : Url) (directories : List String) :
    base.withPathFrom directories (escape set text) =
      base.withPathFrom directories text := by
  have ends : ∀ mark, (!endsPath mark) = false → mark = '?' ∨ mark = '#' := by
    intro mark isEnd
    simpa only [endsPath, Bool.not_eq_false', Bool.or_eq_true,
      beq_iff_eq] using isEnd
  have holds : HoldsEscapes fun character => !endsPath character :=
    .of_outside fun mark isEnd => by
      rcases ends mark isEnd with rfl | rfl <;> decide
  obtain ⟨taken, dropped⟩ := span_escape holds fun character member isEnd => by
    rcases ends character isEnd with rfl | rfl <;>
      exact spares.kept (by decide) (by decide) member
  have sparesPath :
      Spares set (text.takeWhile fun character => !endsPath character) :=
    spares.sublist fun character => (List.takeWhile_sublist _).mem
  have path := sparesPath.splitPath_escape
    (fun member => noBackslash ((List.takeWhile_sublist _).mem member)) kept
    (isSpecial base.scheme)
  have sparesTail :
      Spares set (text.dropWhile fun character => !endsPath character) :=
    spares.sublist fun character => (List.dropWhile_sublist _).mem
  have begins :
      ∀ first ∈ (text.dropWhile fun character => !endsPath character).head?,
        endsPath first = true := by
    intro first isFirst
    have stops :=
      List.head?_dropWhile_not (fun character => !endsPath character) text
    rw [Option.mem_def.mp isFirst] at stops
    simpa using stops
  have tail := sparesTail.readTail_escape begins (isSpecial base.scheme)
  rw [withPathFrom, withPathFrom, taken, dropped, tail, resolvePath,
    resolvePath, path]

end Spares

variable {base : Url} {rest : List Char}

theorem IsWeb.join_shown (isWeb : base.IsWeb)
    (shown : ∀ character ∈ rest, 0x20 < character.toNat)
    (single : ∀ first ∈ rest.head?, isSlash true first = false) :
    base.join (String.ofList ('/' :: rest)) =
      .ok (base.withPathFrom [] rest) := by
  have spelled : significant (String.ofList ('/' :: rest)) = '/' :: rest := by
    rw [significant_of_shown, String.toList_ofList]
    rw [String.toList_ofList]
    exact List.forall_mem_cons.mpr ⟨by decide, shown⟩
  refine isWeb.join_single spelled ?_
  rw [NamesHost, spelled, countSlashes, List.takeWhile_cons_of_pos (by decide)]
  cases rest with
  | nil => simp
  | cons first rest =>
      rw [List.takeWhile_cons_of_neg (by simp [single first rfl])]; simp

/-- A path from the top of a site leads to the same place before and after it is
escaped. -/
theorem IsWeb.join_escape (isWeb : base.IsWeb) (kept : set '/' = false)
    (noBackslash : '\\' ∉ rest)
    (shown : ∀ character ∈ rest, 0x20 < character.toNat)
    (single : rest.head? ≠ some '/') (spares : Spares set rest) :
    base.join (String.ofList (escape set ('/' :: rest))) =
      base.join (String.ofList ('/' :: rest)) := by
  have slashed : escape set ('/' :: rest) = '/' :: escape set rest := by
    rw [escape, List.flatMap_cons, escapeChar_of_isKept (by decide) kept]
    rfl
  have noSlash :
      ∀ first, first ≠ '/' → first ≠ '\\' → isSlash true first = false := by
    intro first notSlash notBackslash
    simp [isSlash, notSlash, notBackslash]
  have shownEscape : ∀ character ∈ escape set rest, 0x20 < character.toNat := by
    intro character member
    rcases mem_escape member with inside | rfl | digit
    · exact shown character inside
    · decide
    · have range := isAscii_of_hexValue? digit
      omega
  have begins : ∀ first ∈ rest.head?, isSlash true first = false := by
    intro first isFirst
    refine noSlash first ?_
      (ne_of_mem_of_not_mem (List.mem_of_mem_head? isFirst) noBackslash)
    rintro rfl
    exact single isFirst
  have beginsEscape :
      ∀ first ∈ (escape set rest).head?, isSlash true first = false := by
    cases rest with
    | nil =>
        intro first isFirst
        cases isFirst
    | cons first others =>
        rcases escapeChar_cases set first with
          stays | ⟨-, high, low, more, escaped⟩
        · rw [escape, List.flatMap_cons, stays]
          exact begins
        · rw [escape, List.flatMap_cons, escaped]
          intro mark isMark
          cases isMark
          decide
  rw [slashed, isWeb.join_shown shownEscape beginsEscape,
    isWeb.join_shown shown begins, spares.withPathFrom_escape noBackslash kept]

end LessonSite.Url
