import LessonSite.Markdown.Container
import LessonSite.Markdown.Leaf
import LessonSite.Proofs.Lists
import Mathlib.Data.List.Induction
import Mathlib.Data.List.TakeWhile

/-!
# Literal text

What a scanning function does at a position depends on the text that stands
there, up to the end, and is given here for each of them in terms of that text.
A line of running text is cut into pieces at the marks that may mean something,
so a text without such marks stays in one piece.
-/

namespace LessonSite.Markdown

/-- The text stands at the position and is all that is left. -/
def Source.Stands (source : Source) (position : Nat)
    (text : List Char) : Prop :=
  ∃ before, source.toList = before ++ text ∧ before.length = position

namespace Source.Stands

variable {source : Source} {position : Nat} {text rest run : List Char}
  {character : Char}

theorem whole (text : List Char) : Stands text.toArray 0 text :=
  ⟨[], List.toList_toArray, rfl⟩

theorem after (stands : source.Stands position (run ++ rest)) :
    source.Stands (position + run.length) rest := by
  obtain ⟨before, whole, length⟩ := stands
  refine ⟨before ++ run, by rw [whole, List.append_assoc], ?_⟩
  rw [List.length_append, length]

theorem next (stands : source.Stands position (character :: rest)) :
    source.Stands (position + 1) rest := by
  rw [← List.singleton_append] at stands
  exact stands.after

theorem size_eq (stands : source.Stands position text) :
    source.size = position + text.length := by
  obtain ⟨before, whole, length⟩ := stands
  rw [← Array.length_toList, whole, List.length_append, length]

theorem getElem? (stands : source.Stands position text) :
    source[position]? = text.head? := by
  obtain ⟨before, whole, rfl⟩ := stands
  rw [← Array.getElem?_toList, whole,
    List.getElem?_append_right (Nat.le_refl _), Nat.sub_self,
    List.head?_eq_getElem?]

theorem hasAt (stands : source.Stands position text) (mark : Char) :
    source.hasAt position mark = (text.head? == some mark) := by
  rw [Source.hasAt, stands.getElem?, Bool.beq_eq_decide_eq]

theorem lt_size (stands : source.Stands position (character :: rest)) :
    position < source.size := by
  rw [stands.size_eq, List.length_cons]
  omega

theorem getElem (stands : source.Stands position (character :: rest))
    (inside : position < source.size) :
    source[position] = character := by
  have found := stands.getElem?
  rw [Array.getElem?_eq_getElem inside] at found
  exact Option.some.inj found

theorem size_le (stands : source.Stands position []) :
    ¬ position < source.size := by
  rw [stands.size_eq, List.length_nil]
  omega

theorem slice (stands : source.Stands position (run ++ rest)) :
    source.slice position (position + run.length) = run := by
  obtain ⟨before, whole, rfl⟩ := stands
  rw [Source.slice, Array.toList_extract, whole, List.extract_eq_take_drop,
    List.drop_left, Nat.add_sub_cancel_left, List.take_left]

theorem sliceText (stands : source.Stands position (run ++ rest)) :
    source.sliceText position (position + run.length) = String.ofList run :=
  congrArg String.ofList stands.slice

theorem skipWhile (stands : source.Stands position (run ++ rest))
    {inClass : Char → Bool}
    (inside : ∀ character ∈ run, inClass character = true)
    (ends : ∀ character ∈ rest.head?, inClass character = false) :
    source.skipWhile inClass position = position + run.length := by
  induction run generalizing position with
  | nil =>
      cases rest with
      | nil => rw [Source.skipWhile, dif_neg stands.size_le]; rfl
      | cons character rest =>
          rw [Source.skipWhile, dif_pos stands.lt_size, stands.getElem,
            ends character rfl]
          rfl
  | cons character run induction =>
      obtain ⟨here, inside⟩ := List.forall_mem_cons.mp inside
      rw [Source.skipWhile, dif_pos stands.lt_size, stands.getElem, here,
        if_pos rfl, induction stands.next inside, List.length_cons]
      omega

/-- Nothing is passed over before a character of another class. -/
theorem skipWhile_none (stands : source.Stands position text)
    {inClass : Char → Bool}
    (ends : ∀ character ∈ text.head?, inClass character = false) :
    source.skipWhile inClass position = position := by
  rw [← List.nil_append text] at stands
  exact stands.skipWhile nofun ends

theorem skipSpace_none (stands : source.Stands position text)
    (ends : ∀ character ∈ text.head?, isInlineSpace character = false) :
    source.skipSpace position = position :=
  stands.skipWhile_none ends

theorem skipped (stands : source.Stands position text) (inClass : Char → Bool) :
    source.Stands (source.skipWhile inClass position)
      (text.dropWhile inClass) := by
  have split :
      source.Stands position
        (text.takeWhile inClass ++ text.dropWhile inClass) := by
    rwa [List.takeWhile_append_dropWhile]
  rw [split.skipWhile (fun _ => List.mem_takeWhile_imp) ?_]
  · exact split.after
  · intro character first
    have stops := List.head?_dropWhile_not inClass text
    rw [Option.mem_def.mp first] at stops
    simpa using stops

/-- Going back from the end of a text passes over its last characters as far as
they are in the class. -/
theorem backWhile (stands : source.Stands position (run ++ rest))
    (inClass : Char → Bool) :
    source.backWhile inClass position (position + run.length) =
      position + (run.reverse.dropWhile inClass).length := by
  induction run using List.reverseRecOn generalizing rest with
  | nil =>
      cases position with
      | zero => rfl
      | succ position =>
          rw [List.length_nil, Nat.add_zero, Source.backWhile,
            if_pos (Nat.lt_succ_self _)]; rfl
  | append_singleton run character induction =>
      rw [List.append_assoc] at stands
      have last : source.Stands (position + run.length) (character :: rest) :=
        stands.after
      rw [List.length_append, List.length_singleton, ← Nat.add_assoc,
        Source.backWhile, if_neg (by omega), last.getElem?, List.head?_cons,
        List.reverse_append, List.reverse_singleton, List.singleton_append]
      dsimp only
      by_cases inside : inClass character = true
      · rw [if_pos inside, List.dropWhile_cons_of_pos inside, induction stands]
      · rw [if_neg inside, List.dropWhile_cons_of_neg inside, List.length_cons,
          List.length_reverse, Nat.add_assoc]

/-- Going back from the end of a text stays there when the last character is of
another class. -/
theorem backWhile_none (stands : source.Stands position (run ++ rest))
    {inClass : Char → Bool}
    (outside : ∀ character ∈ run.getLast?, inClass character = false) :
    source.backWhile inClass position (position + run.length) =
      position + run.length := by
  rw [stands.backWhile]
  cases ends : run.reverse with
  | nil => rw [List.reverse_eq_nil_iff.mp ends]; rfl
  | cons last others =>
      have isLast : last ∈ run.getLast? := by
        rw [← List.head?_reverse, ends]
        rfl
      rw [List.dropWhile_cons_of_neg (by simp [outside last isLast]), ← ends,
        List.length_reverse]

theorem lineBreak?_feed (stands : source.Stands position ('\n' :: rest)) :
    source.lineBreak? position = some (position + 1) := by
  rw [Source.lineBreak?, stands.getElem?]
  rfl

theorem lineBreak?_end (stands : source.Stands position []) :
    source.lineBreak? position = some position := by
  rw [Source.lineBreak?, stands.getElem?, List.head?_nil]

theorem lineBreak?_none (stands : source.Stands position (character :: rest))
    (plain : isLineBreak character = false) :
    source.lineBreak? position = none := by
  simp only [isLineBreak, Bool.or_eq_false_iff,
    decide_eq_false_iff_not] at plain
  rw [Source.lineBreak?, stands.getElem?, List.head?_cons]
  split
  · next same => cases same
  · next same => exact absurd (Option.some.inj same) plain.1
  · next same => exact absurd (Option.some.inj same) plain.2
  · rfl

theorem blankLine?_feed (stands : source.Stands position ('\n' :: rest)) :
    source.blankLine? position = some (position + 1) := by
  rw [Source.blankLine?, stands.skipSpace_none (by simp [isInlineSpace]),
    stands.lineBreak?_feed]

theorem blankLine?_none (stands : source.Stands position (character :: rest))
    (noSpace : isInlineSpace character = false)
    (plain : isLineBreak character = false) :
    source.blankLine? position = none := by
  rw [Source.blankLine?, stands.skipSpace_none (by simpa using noSpace),
    stands.lineBreak?_none plain]

end Source.Stands

/-- The character means nothing but itself in a line of running text. -/
def isLiteral (character : Char) : Bool :=
  !"\x00\n\r\\`<[]|*_~".toList.contains character

/-- What stands at some ampersand of the text may be a character reference. -/
def mayRefer : List Char → Bool
  | [] => false
  | character :: text =>
      (character == '&' && (text.head? == some '#' ||
        (text.dropWhile isAsciiAlphanumeric).head? == some ';')) ||
        mayRefer text

/-- The text means what it says. -/
structure AreLiteral (text : List Char) : Prop where
  each : ∀ character ∈ text, isLiteral character = true
  noReference : mayRefer text = false

instance (text : List Char) : Decidable (AreLiteral text) :=
  decidable_of_iff (_ ∧ _)
    ⟨fun both => ⟨both.1, both.2⟩, fun literal =>
      ⟨literal.each, literal.noReference⟩⟩

/-- The character ends a stretch of literal text without becoming a part of a
mark in it. -/
def isStop (character : Char) : Bool :=
  character == '\n' || character == ']' || character == ')'

theorem AreLiteral.tail {character : Char} {text : List Char}
    (literal : AreLiteral (character :: text)) :
    AreLiteral text :=
  ⟨(List.forall_mem_cons.mp literal.each).2,
    (Bool.or_eq_false_iff.mp literal.noReference).2⟩

theorem AreLiteral.not_mem {text : List Char} (literal : AreLiteral text)
    {mark : Char} (isMark : isLiteral mark = false) : mark ∉ text := by
  intro member
  rw [literal.each mark member] at isMark
  cases isMark

theorem ne_of_isLiteral {character mark : Char}
    (literal : isLiteral character = true)
    (isMark : isLiteral mark = false) : character ≠ mark := by
  rintro rfl
  rw [literal] at isMark
  cases isMark

theorem isLineBreak_of_isLiteral {character : Char}
    (literal : isLiteral character = true) :
    isLineBreak character = false := by
  have noFeed := ne_of_isLiteral literal (show isLiteral '\n' = false by decide)
  have noReturn :=
    ne_of_isLiteral literal (show isLiteral '\r' = false by decide)
  simp [isLineBreak, noFeed, noReturn]

variable {source : Source} {position : Nat} {run rest : List Char}
  {character : Char}

namespace Source.Stands

/-- There is no character reference at an ampersand that begins none. -/
theorem characterReference?_none (stands : source.Stands position ('&' :: rest))
    (noNumber : rest.head? ≠ some '#')
    (noName : (rest.dropWhile isAsciiAlphanumeric).head? ≠ some ';') :
    characterReference? source position = none := by
  have noSemicolon :
      source.hasAt (source.skipWhile isAsciiAlphanumeric (position + 1)) ';' =
        false := by
    rw [(stands.next.skipped isAsciiAlphanumeric).hasAt]
    simpa using noName
  rw [characterReference?, stands.hasAt, stands.next.hasAt]
  simp [noNumber, noSemicolon]

/-- No reference begins at an ampersand of literal text. -/
theorem characterReference?_literal
    (stands : source.Stands position (character :: (run ++ rest)))
    (literal : AreLiteral (character :: run))
    (stops : ∀ next ∈ rest.head?, isStop next = true)
    (ampersand : character = '&') :
    characterReference? source position = none := by
  subst ampersand
  have alone := literal.noReference
  rw [mayRefer, Bool.or_eq_false_iff] at alone
  obtain ⟨noNumber, noName⟩ : run.head? ≠ some '#' ∧
      (run.dropWhile isAsciiAlphanumeric).head? ≠
        some ';' := by simpa using alone.1
  have stop : ∀ mark, isStop mark = false → rest.head? ≠ some mark := by
    intro mark noStop first
    rw [stops mark first] at noStop
    cases noStop
  apply characterReference?_none stands
  · cases run with
    | nil => exact stop '#' (by decide)
    | cons first run => exact noNumber
  · rw [List.dropWhile_append]
    split
    · cases rest with
      | nil => simp
      | cons first rest =>
          have solid : ¬ isAsciiAlphanumeric first = true := by
            have isStop_ := stops first rfl
            simp only [isStop, Bool.or_eq_true, beq_iff_eq] at isStop_
            rcases isStop_ with (rfl | rfl) | rfl <;> decide
          rw [List.dropWhile_cons_of_neg solid]
          exact stop ';' (by decide)
    · next some_ =>
        cases left : run.dropWhile isAsciiAlphanumeric with
        | nil => simp [left] at some_
        | cons first more =>
            rw [left] at noName
            exact noName

end Source.Stands

variable {containers : List Container} {mode : PipeMode} {start fuel : Nat}
  {state : LineState}

/-- A character that means nothing where it stands is passed over. -/
theorem cutFrom_plain (stands : source.Stands position (character :: rest))
    (literal : isLiteral character = true)
    (noImage : character = '!' → source.hasAt (position + 1) '[' = false)
    (noReference : character = '&' →
      characterReference? source position = none) :
    cutFrom source containers mode start (fuel + 1) state position =
      cutFrom source containers mode start fuel state (position + 1) := by
  have plain : ∀ mark, isLiteral mark = false → character ≠ mark := fun mark =>
    ne_of_isLiteral literal
  rw [cutFrom, stands.getElem?]
  dsimp only [List.head?_cons]
  split
  · exact absurd rfl (plain '\n' (by decide))
  · exact absurd rfl (plain '\r' (by decide))
  · exact absurd rfl (plain '\\' (by decide))
  · exact absurd rfl (plain '`' (by decide))
  · exact absurd rfl (plain '<' (by decide))
  · rw [noImage rfl]
    rfl
  · exact absurd rfl (plain '[' (by decide))
  · exact absurd rfl (plain ']' (by decide))
  · rw [noReference rfl]
  · exact absurd rfl (plain '|' (by decide))
  · rw [if_neg]
    simp [plain '*' (by decide), plain '_' (by decide), plain '~' (by decide)]

theorem cutFrom_literal
    (stands : source.Stands position (character :: (run ++ rest)))
    (literal : AreLiteral (character :: run))
    (stops : ∀ next ∈ rest.head?, isStop next = true) :
    cutFrom source containers mode start (fuel + 1) state position =
      cutFrom source containers mode start fuel state (position + 1) := by
  refine cutFrom_plain stands (literal.each character List.mem_cons_self)
    (fun _ => ?_) (stands.characterReference?_literal literal stops)
  rw [stands.next.hasAt, beq_eq_false_iff_ne]
  intro bracket
  cases run with
  | nil =>
      have isStop_ := stops '[' bracket
      cases isStop_
  | cons first run =>
      exact ne_of_isLiteral (literal.tail.each first List.mem_cons_self)
        (show isLiteral '[' = false by decide) (Option.some.inj bracket)

/-- Literal text is passed over and stays a part of the text that has begun. -/
theorem cutFrom_run (stands : source.Stands position (run ++ rest))
    (literal : AreLiteral run)
    (stops : ∀ next ∈ rest.head?, isStop next = true) :
    cutFrom source containers mode start (fuel + run.length) state position =
      cutFrom source containers mode start fuel state
        (position + run.length) := by
  induction run generalizing position with
  | nil => rfl
  | cons character run induction =>
      have next : source.Stands (position + 1) (run ++ rest) := stands.next
      rw [List.length_cons, ← Nat.add_assoc,
        cutFrom_literal stands literal stops, induction next literal.tail]
      congr 1
      omega

theorem cutFrom_open (stands : source.Stands position ('[' :: rest)) :
    cutFrom source containers mode start (fuel + 1) state position =
      cutFrom source containers mode start fuel
        (state.add position (position + 1) .linkOpen) (position + 1) := by
  rw [cutFrom, stands.getElem?]
  rfl

theorem cutFrom_close (stands : source.Stands position (']' :: rest)) :
    cutFrom source containers mode start (fuel + 1) state position =
      cutFrom source containers mode start fuel
        (state.add position (position + 1) (.linkClose true))
        (position + 1) := by
  rw [cutFrom, stands.getElem?]
  rfl

theorem cutFrom_feed (stands : source.Stands position ('\n' :: rest))
    (noCell : mode ≠ .cell) (noPipes : state.pipes = 0) :
    cutFrom source containers mode start (fuel + 1) state position =
      finishBroken source state start position (position + 1) := by
  rw [cutFrom, stands.getElem?]
  dsimp only [List.head?_cons]
  rw [cutFrom.atBreak, stands.lineBreak?_feed]
  simp [noPipes, noCell]

/-- A line that ends with neither a backslash nor a blank ends softly. -/
theorem finishBroken_solid {run : List Char} {start : Nat}
    (stands : source.Stands start (run ++ rest))
    (solid : ∀ last ∈ run.getLast?, last ≠ '\\' ∧ isInlineSpace last = false)
    (next : Nat) :
    finishBroken source state start (start + run.length) next =
      { pieces := (state.withText (start + run.length)).pieces.reverse, next
        ending := .broken ⟨start + run.length, next, .softBreak⟩ } := by
  have slashes :
      source.backWhile (· = '\\') start (start + run.length) =
        start + run.length :=
    stands.backWhile_none
      fun last isLast => by simpa using (solid last isLast).1
  have blanks :
      source.backWhile isInlineSpace start (start + run.length) =
        start + run.length :=
    stands.backWhile_none fun last isLast => (solid last isLast).2
  rw [finishBroken]
  simp [slashes, blanks]

end LessonSite.Markdown
