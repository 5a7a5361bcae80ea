import LessonSite.Proofs.Markdown.Cutting

/-!
# Headings and links on lines of their own

The pieces of a heading with literal text, and those of a line that consists of
a link with literal text and a literal target.
-/

namespace LessonSite.Markdown

variable {source : Source} {position start : Nat} {run rest : List Char}
  {containers : List Container}

/-- The piece of a literal text; there is none for no text. -/
def textPieces (start : Nat) (run : List Char) : List Piece :=
  if run = [] then [] else [⟨start, start + run.length, .text⟩]

theorem pieces_withText (start : Nat) (run : List Char) (pieces : List Piece)
    (pipes lastPipe : Nat) :
    (LineState.withText ⟨pieces, start, pipes, lastPipe⟩
        (start + run.length)).pieces =
      textPieces start run ++ pieces := by
  unfold LineState.withText textPieces
  by_cases empty : run = []
  · subst empty
    simp
  · have positive := List.length_pos_iff.mpr empty
    rw [if_pos (by simpa using positive), if_neg empty]
    rfl

theorem reverse_textPieces (start : Nat) (run : List Char) :
    (textPieces start run).reverse = textPieces start run := by
  unfold textPieces
  split <;> rfl

theorem cutLine_literal (stands : source.Stands start (run ++ '\n' :: rest))
    (literal : AreLiteral run)
    (solid : ∀ last ∈ run.getLast?, isInlineSpace last = false) :
    cutLine source containers .ordinary start =
      { pieces := textPieces start run, next := start + run.length + 1
        ending :=
          .broken
            ⟨start + run.length, start + run.length + 1, .softBreak⟩ } := by
  have fuel : source.size + 1 - start = rest.length + 1 + 1 + run.length := by
    rw [stands.size_eq, List.length_append, List.length_cons]
    omega
  have ends : ∀ last ∈ run.getLast?, last ≠ '\\' ∧ isInlineSpace last = false :=
    fun last isLast =>
      ⟨ne_of_isLiteral (literal.each last (List.mem_of_getLast? isLast))
        (by decide), solid last isLast⟩
  rw [cutLine, fuel, cutFrom_run stands literal (by simp [isStop]),
    cutFrom_feed stands.after (by simp) rfl, finishBroken_solid stands ends,
    pieces_withText]
  unfold textPieces
  split <;> rfl

/-- A heading says the text: it is literal, and there are no blanks around it
and no closing marks behind it. -/
structure IsHeadingText (text : List Char) : Prop where
  literal : AreLiteral text
  begins : ∀ first ∈ text.head?, isInlineSpace first = false
  ends : ∀ last ∈ text.getLast?, isInlineSpace last = false
  unclosed :
    (text.reverse.dropWhile (· = '#')).head?.any (· ≠ ' ') = true ∨ text = []

instance (text : List Char) : Decidable (IsHeadingText text) :=
  decidable_of_iff (_ ∧ _ ∧ _ ∧ _)
    ⟨fun all => ⟨all.1, all.2.1, all.2.2.1, all.2.2.2⟩, fun isText =>
      ⟨isText.literal, isText.begins, isText.ends, isText.unclosed⟩⟩

theorem backWhile_heading (stands : source.Stands start (run ++ '\n' :: rest))
    (isText : IsHeadingText run) :
    source.backWhile
      (fun character => isLineBreak character || character = ' ') start
      (start + run.length + 1) = start + run.length := by
  have whole : source.Stands start ((run ++ ['\n']) ++ rest) := by
    rwa [List.append_assoc]
  have back :=
    whole.backWhile fun character => isLineBreak character || character = ' '
  rw [List.length_append, List.length_singleton, ← Nat.add_assoc] at back
  rw [back, List.reverse_append, List.reverse_singleton, List.singleton_append,
    List.dropWhile_cons_of_pos (by decide)]
  cases last : run.reverse with
  | nil => rw [List.reverse_eq_nil_iff.mp last]; rfl
  | cons final others =>
      have isLast : final ∈ run.getLast? := by
        rw [← List.head?_reverse, last]
        rfl
      have literal := isText.literal.each final (List.mem_of_getLast? isLast)
      have noSpace := isText.ends final isLast
      have stays : ¬ (isLineBreak final || final = ' ') = true := by
        have noBlank : final ≠ ' ' := by
          rintro rfl
          cases noSpace
        simp [isLineBreak_of_isLiteral literal, noBlank]
      have kept :
          (final :: others).dropWhile
              (fun character => isLineBreak character || character = ' ') =
            final :: others := List.dropWhile_cons_of_neg stays
      rw [kept, ← last, List.length_reverse]

/-- Number signs at the end of a heading that do not close it are a part of its
text. -/
theorem headingLimit_eq (stands : source.Stands start (run ++ rest))
    (isText : IsHeadingText run) :
    let closer := source.backWhile (· = '#') start (start + run.length)
    let before := source.backWhile (· = ' ') start closer
    (if closer = start then
      start
    else if before < closer then before else start + run.length) =
      start + run.length := by
  intro closer before
  have closer_eq : closer = start + (run.reverse.dropWhile (· = '#')).length :=
    stands.backWhile _
  rcases isText.unclosed with unclosed | rfl
  · cases body : run.reverse.dropWhile (· = '#') with
    | nil => simp [body] at unclosed
    | cons last others =>
        have noBlank : last ≠ ' ' := by simpa [body] using unclosed
        have split :
            run =
              (last :: others).reverse ++
                (run.reverse.takeWhile (· = '#')).reverse := by
          rw [← body, ← List.reverse_append, List.takeWhile_append_dropWhile,
            List.reverse_reverse]
        have standsBody : source.Stands start
            ((last :: others).reverse ++
              ((run.reverse.takeWhile (· = '#')).reverse ++ rest)) := by
          rw [← List.append_assoc, ← split]
          exact stands
        have before_eq :
            source.backWhile (· = ' ') start
                (start + (last :: others).reverse.length) =
              start + (last :: others).reverse.length :=
          standsBody.backWhile_none (by simpa using noBlank)
        rw [List.length_reverse, ← body, ← closer_eq] at before_eq
        have later : closer ≠ start := by
          rw [closer_eq, body, List.length_cons]
          omega
        rw [if_neg later, if_neg (Nat.not_lt.mpr (Nat.le_of_eq before_eq.symm))]
  · rw [if_pos (by simpa using closer_eq)]
    rfl

theorem endAt_textPieces (start : Nat) (run : List Char) :
    endAt (start + run.length) (textPieces start run) =
      textPieces start run := by
  unfold textPieces
  split <;> rfl

theorem backslashText_soft (start stop : Nat) :
    backslashText (.broken ⟨start, stop, .softBreak⟩) = [] :=
  rfl

theorem numberSignHeading_literal {level : Nat} {marks : List Char}
    (isLevel : marks.length = level)
    (stands : source.Stands position (marks ++ ' ' :: (run ++ '\n' :: rest)))
    (isText : IsHeadingText run) :
    numberSignHeading source containers level position =
      (⟨textPieces (position + level + 1) run,
          position + level + 1 + run.length + 1, containers, false⟩,
        position + level + 1 + run.length + 1) := by
  subst isLevel
  have gap := stands.after
  have standsText := gap.next
  have noBreak : source.lineBreak? (position + marks.length) = none :=
    gap.lineBreak?_none (by decide)
  have skipped :
      source.skipSpace (position + marks.length) =
        position + marks.length + 1 := by
    rw [← List.singleton_append] at gap
    refine gap.skipWhile (by decide) ?_
    cases run with
    | nil => simp [isInlineSpace]
    | cons first run => simpa using isText.begins first rfl
  have limit := headingLimit_eq standsText isText
  rw [numberSignHeading, noBreak]
  dsimp only
  rw [skipped, cutLine_literal standsText isText.literal isText.ends,
    backWhile_heading standsText isText]
  dsimp only at limit ⊢
  rw [limit, backslashText_soft, List.append_nil]
  by_cases empty : run = []
  · subst empty
    rw [if_pos (by rfl)]
    rfl
  · have positive := List.length_pos_iff.mpr empty
    rw [if_neg (by omega), endAt_textPieces]

def linkText (label target : List Char) : List Char :=
  '[' :: (label ++ ']' :: '(' :: (target ++ [')']))

/-- The pieces of a line that is a link. -/
def linkPieces (start : Nat) (label target : List Char) : List Piece :=
  ⟨start, start + 1, .linkOpen⟩ :: (textPieces (start + 1) label ++
    [⟨start + 1 + label.length, start + 1 + label.length + 1, .linkClose true⟩,
      ⟨start + 1 + label.length + 1, start + (linkText label target).length,
        .text⟩])

theorem linkText_append (label target rest : List Char) :
    linkText label target ++ rest =
      '[' :: (label ++ ']' :: '(' :: (target ++ ')' :: rest)) := by
  simp [linkText]

theorem length_linkText (label target : List Char) :
    (linkText label target).length = label.length + target.length + 4 := by
  simp only [linkText, List.length_append, List.length_cons, List.length_nil]
  omega

theorem pieces_add (start position stop : Nat) (kind : PieceKind)
    (pieces : List Piece) (pipes lastPipe : Nat) :
    LineState.add ⟨pieces, start, pipes, lastPipe⟩ position stop kind =
      ⟨⟨position, stop, kind⟩ ::
          (LineState.withText ⟨pieces, start, pipes, lastPipe⟩ position).pieces,
        stop, pipes, lastPipe⟩ := by
  unfold LineState.add LineState.withText
  split <;> rfl

theorem cutLine_link {label target : List Char}
    (stands : source.Stands start (linkText label target ++ '\n' :: rest))
    (literal : AreLiteral label) (literalTarget : AreLiteral target) :
    cutLine source containers .headCandidate start =
      { pieces := linkPieces start label target,
        next := start + (linkText label target).length + 1
        ending := .broken ⟨start + (linkText label target).length,
          start + (linkText label target).length + 1, .softBreak⟩ } := by
  have fuel : source.size + 1 - start =
      rest.length + 1 + 1 + 1 + target.length + 1 + 1 + label.length + 1 := by
    rw [stands.size_eq, List.length_append, List.length_cons, length_linkText]
    omega
  have opening := stands
  rw [linkText_append] at opening
  have closing := opening.next.after
  have aim := closing.next
  have parenthesis := aim.next.after
  have stop : start + 1 + label.length + 1 + 1 + target.length + 1 =
      start + (linkText label target).length := by
    rw [length_linkText]
    omega
  have last := parenthesis.next
  have ends :
      ∀ last ∈ (linkText label target).getLast?,
        last ≠ '\\' ∧ isInlineSpace last = false := by
    intro last isLast
    have written :
        linkText label target =
          ('[' :: (label ++ ']' :: '(' :: target)) ++ [')'] := by
      simp [linkText]
    rw [written, List.getLast?_append] at isLast
    cases isLast
    decide
  have first : LineState.add ⟨[], start, 0, start⟩ start (start + 1) .linkOpen =
      ⟨[⟨start, start + 1, .linkOpen⟩], start + 1, 0, start⟩ := by
    simp [LineState.add, LineState.withText]
  have longer :
      start + 1 + label.length + 1 <
        start + (linkText label target).length := by
    rw [length_linkText]
    omega
  rw [cutLine, fuel, cutFrom_open opening,
    cutFrom_run opening.next literal (by simp [isStop]), cutFrom_close closing,
    first, pieces_add, pieces_withText,
    cutFrom_plain aim (by decide) (by simp) (by simp),
    cutFrom_run aim.next literalTarget (by simp [isStop]),
    cutFrom_plain parenthesis (by decide) (by simp) (by simp),
    cutFrom_feed last (by simp) rfl, stop, finishBroken_solid stands ends,
    LineState.withText, if_pos longer, linkPieces]
  simp [reverse_textPieces]

end LessonSite.Markdown
