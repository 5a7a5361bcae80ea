import LessonSite.Markdown.Document
import LessonSite.Proofs.Markdown.ListedLines

/-!
# Headings and lists of links

The blocks of a text that consists of headings and of lists of links, line by
line.
-/

namespace LessonSite.Markdown

variable {source : Source} {position tabStart : Nat}
  {rest text run label target : List Char}

/-- What can follow an item of a list of links. -/
inductive FollowsItem : List Char → Prop where
  | nothing : FollowsItem []
  | blank (rest : List Char) : FollowsItem ('\n' :: rest)
  | item (rest : List Char) : FollowsItem ('-' :: ' ' :: '[' :: rest)

theorem FollowsItem.solid (follows : FollowsItem text) :
    ∀ first ∈ text.head?, first ≠ ' ' ∧ first ≠ '\t' := by
  cases follows <;> simp

namespace Source.Stands

theorem walk_none (stands : source.Stands position text)
    (solid : ∀ first ∈ text.head?, first ≠ ' ' ∧ first ≠ '\t')
    (pending columns : Nat) :
    Cursor.takeColumns.walk source ⟨position, tabStart, pending⟩ columns =
      (⟨position, tabStart, pending⟩, columns) := by
  rw [Cursor.takeColumns.walk]
  split
  · next zero => rw [zero]
  · cases text with
    | nil => rw [dif_neg stands.size_le]
    | cons first rest =>
        obtain ⟨noSpace, noTab⟩ := solid first rfl
        rw [dif_pos stands.lt_size]
        dsimp only
        rw [stands.getElem]
        split
        · exact absurd rfl noSpace
        · exact absurd rfl noTab
        · rfl

theorem takeColumns_none (stands : source.Stands position text)
    (solid : ∀ first ∈ text.head?, first ≠ ' ' ∧ first ≠ '\t') (columns : Nat) :
    Cursor.takeColumns source ⟨position, tabStart, 0⟩ columns =
      (⟨position, tabStart, 0⟩, columns) := by
  rw [Cursor.takeColumns, Nat.zero_min]
  exact stands.walk_none solid 0 columns

theorem takeUpTo_none (stands : source.Stands position text)
    (solid : ∀ first ∈ text.head?, first ≠ ' ' ∧ first ≠ '\t') (columns : Nat) :
    Cursor.takeUpTo source ⟨position, tabStart, 0⟩ columns =
      (⟨position, tabStart, 0⟩, 0) := by
  rw [Cursor.takeUpTo, stands.takeColumns_none solid]
  simp

theorem takeExactly_none (stands : source.Stands position text)
    (solid : ∀ first ∈ text.head?, first ≠ ' ' ∧ first ≠ '\t') (columns : Nat) :
    Cursor.takeExactly source ⟨position, tabStart, 0⟩ (columns + 1) =
      (⟨position, tabStart, 0⟩, false) := by
  rw [Cursor.takeExactly, stands.takeColumns_none solid]
  simp

theorem takeExactly_space (stands : source.Stands position (' ' :: rest)) :
    Cursor.takeExactly source ⟨position, tabStart, 0⟩ 1 =
      (⟨position + 1, tabStart, 0⟩, true) := by
  have walked : Cursor.takeColumns.walk source ⟨position, tabStart, 0⟩ 1 =
      (⟨position + 1, tabStart, 0⟩, 0) := by
    rw [Cursor.takeColumns.walk, if_neg (by decide), dif_pos stands.lt_size]
    dsimp only
    rw [stands.getElem]
    rw [Cursor.takeColumns.walk]
    rfl
  rw [Cursor.takeExactly, Cursor.takeColumns, Nat.zero_min]
  simp only [Nat.sub_zero, walked]
  rfl

theorem blockStart?_none (stands : source.Stands position text)
    (noTag : text.head? ≠ some '<') :
    Tag.blockStart? source position = none := by
  have absent : source.hasAt position '<' = false := by
    rw [stands.hasAt]
    simpa using noTag
  simp [Tag.blockStart?, Tag.interrupting?, absent]

theorem rule?_none (stands : source.Stands position text)
    (noMark : ∀ first ∈ text.head?, first ≠ '*' ∧ first ≠ '-' ∧ first ≠ '_') :
    rule? source position = none := by
  rw [rule?, stands.getElem?]
  cases text with
  | nil => rfl
  | cons first rest => simp [noMark first rfl]

theorem listMark?_none (stands : source.Stands position text)
    (noMark : ∀ first ∈ text.head?,
      first ≠ '-' ∧ first ≠ '+' ∧ first ≠ '*' ∧ first.isDigit = false) :
    listMark? source position = none := by
  rw [listMark?, stands.getElem?]
  cases text with
  | nil => rfl
  | cons first rest => simp [noMark first rfl]

theorem headingLevel?_none (stands : source.Stands position text)
    (noMark : text.head? ≠ some '#') :
    headingLevel? source position = none := by
  have stays : source.skipRun '#' position = position := by
    refine stands.skipWhile_none fun first isFirst => ?_
    rw [decide_eq_false_iff_not]
    rintro rfl
    exact noMark isFirst
  simp [headingLevel?, stays]

theorem fence?_none (stands : source.Stands position text)
    (noMark : ∀ first ∈ text.head?, first ≠ '`' ∧ first ≠ '~') :
    fence? source position = none := by
  rw [fence?, stands.getElem?]
  cases text with
  | nil => rfl
  | cons first rest => simp [noMark first rfl]

theorem underline?_none (stands : source.Stands position text)
    (noMark : ∀ first ∈ text.head?, first ≠ '=' ∧ first ≠ '-') :
    underline? source position = none := by
  rw [underline?, stands.getElem?]
  cases text with
  | nil => rfl
  | cons first rest => simp [noMark first rfl]

theorem quoteMark?_none (stands : source.Stands position text)
    (noMark : text.head? ≠ some '>') :
    Cursor.quoteMark? source ⟨position, tabStart, 0⟩ = none := by
  have absent : source.hasAt position '>' = false := by
    rw [stands.hasAt]
    simpa using noMark
  simp [Cursor.quoteMark?, absent]

theorem rule?_item
    (stands : source.Stands position ('-' :: ' ' :: '[' :: rest)) :
    rule? source position = none := by
  have third := stands.next.next
  have after : ruleRest? source '-' (position + 1 + 1) 1 = none := by
    rw [ruleRest?, dif_pos third.lt_size, third.getElem]
    rfl
  have space : ruleRest? source '-' (position + 1) 1 = none := by
    rw [ruleRest?, dif_pos stands.next.lt_size, stands.next.getElem]
    exact after
  have mark : ruleRest? source '-' position 0 = none := by
    rw [ruleRest?, dif_pos stands.lt_size, stands.getElem]
    exact space
  rw [rule?, stands.getElem?]
  exact mark

theorem listMark?_item (stands : source.Stands position ('-' :: rest)) :
    listMark? source position = some ('-', 0, position + 1) := by
  rw [listMark?, stands.getElem?]
  rfl

theorem listItem?_item
    (stands : source.Stands position ('-' :: ' ' :: '[' :: rest)) :
    listItem? source ⟨position, tabStart, 0⟩ 0 =
      some ('-', 0, 2, ⟨position + 2, tabStart, 0⟩) := by
  have third := stands.next.next
  have text : source.isBlankLine (position + 1 + 1) = false := by
    rw [Source.isBlankLine, third.blankLine?_none (by decide) (by decide)]
    rfl
  have width : position + 1 - position = 1 := by omega
  rw [listItem?, stands.listMark?_item]
  simp only [stands.rule?_item, Option.isSome_none, Bool.false_eq_true,
    if_false, stands.next.takeExactly_space, Bool.not_true, Bool.false_and,
    text, third.takeUpTo_none (by simp) 4, width]
  rfl

theorem listItem?_none (stands : source.Stands position text)
    (noMark : ∀ first ∈ text.head?,
      first ≠ '-' ∧ first ≠ '+' ∧ first ≠ '*' ∧ first.isDigit = false)
    (indent : Nat) :
    listItem? source ⟨position, tabStart, 0⟩ indent = none := by
  rw [listItem?, stands.listMark?_none noMark]

/-- Blanks in a label are passed over as far as they go. -/
theorem labelBlanks_eq_some {resume : LabelResume}
    {stop fuel width breaks next found : Nat}
    (stands : source.Stands position (run ++ ']' :: rest))
    (noBreak : ∀ character ∈ run, isLineBreak character = false)
    (blanks : labelBlanks source resume stop fuel position width breaks =
      some (next, found)) :
    ∃ passed left, run = passed ++ left ∧ next = position + passed.length := by
  induction fuel generalizing position run width with
  | zero => cases blanks
  | succ fuel induction =>
      rw [labelBlanks, stands.getElem?] at blanks
      cases run with
      | nil =>
          simp [isAsciiSpace, isInlineSpace, isLineBreak] at blanks
          exact ⟨[], [], rfl, blanks.1.symm⟩
      | cons first run =>
          obtain ⟨here, later⟩ := List.forall_mem_cons.mp noBreak
          rw [List.cons_append] at stands
          simp only [List.cons_append, List.head?_cons,
            stands.lineBreak?_none here] at blanks
          split at blanks
          · cases blanks
            exact ⟨[], first :: run, rfl, rfl⟩
          · obtain ⟨passed, left, rfl, rfl⟩ :=
              induction stands.next later blanks
            exact ⟨first :: passed, left, rfl, by rw [List.length_cons]; omega⟩

/-- A label of literal text ends with its closing bracket. -/
theorem labelRest?_eq_some {inTable : Bool} {resume : LabelResume}
    {stop fuel next : Nat}
    {state after : LabelState}
    (stands : source.Stands position (run ++ ']' :: rest))
    (literal : ∀ character ∈ run, isLiteral character = true)
    (label : labelRest? source inTable resume stop fuel position state =
      some (after, next)) :
    next = position + run.length + 1 := by
  induction fuel generalizing position run state with
  | zero => cases label
  | succ fuel induction =>
      rw [labelRest?, stands.getElem?] at label
      split at label
      · cases label
      · cases run with
        | nil =>
            simp only [List.nil_append, List.head?_cons] at label
            cases label
            rfl
        | cons first run =>
            obtain ⟨here, later⟩ := List.forall_mem_cons.mp literal
            have plain : ∀ mark, isLiteral mark = false → first ≠ mark :=
              fun mark => ne_of_isLiteral here
            have standsHere := stands
            rw [List.cons_append] at stands
            simp only [List.cons_append, List.head?_cons] at label
            split at label
            · next same => cases same
            · next same =>
                exact absurd (Option.some.inj same) (plain '[' (by decide))
            · next same =>
                exact absurd (Option.some.inj same) (plain ']' (by decide))
            · next character same =>
                cases same
                have noSlash : first ≠ '\\' := plain '\\' (by decide)
                simp only [noSlash, decide_false, Bool.false_and,
                  Bool.false_eq_true, if_false] at label
                split at label
                · split at label
                  · cases label
                  · next blanks =>
                      obtain ⟨passed, left, split, rfl⟩ :=
                        standsHere.labelBlanks_eq_some
                          (fun character member =>
                            isLineBreak_of_isLiteral (literal character member))
                          blanks
                      have standsLeft :
                          source.Stands (position + passed.length)
                            (left ++ ']' :: rest) := by
                        rw [split, List.append_assoc] at standsHere
                        exact standsHere.after
                      have literalLeft :
                          ∀ character ∈ left, isLiteral character = true := by
                        intro character member
                        exact literal character
                          (split ▸ List.mem_append_right _ member)
                      have length := congrArg List.length split
                      rw [List.length_append] at length
                      split at label
                      all_goals
                        rw [induction standsLeft literalLeft label, length]
                        omega
                · rw [induction stands.next later label, List.length_cons]
                  omega

/-- A bracket that a parenthesis follows begins no definition. -/
theorem definition?_none {containers : List Container}
    (stands : source.Stands position (linkText label target ++ rest))
    (literal : AreLiteral label) :
    definition? source containers position = none := by
  rw [linkText_append] at stands
  have noColon : ∀ inTable resume stop found next,
      label? source inTable resume stop (position + 1) = some (found, next) →
        source.hasAt next ':' = false := by
    intro inTable resume stop found next isLabel
    rw [label?] at isLabel
    split at isLabel
    · cases isLabel
    · next state after read =>
        have closed := stands.next.labelRest?_eq_some literal.each read
        split at isLabel
        · cases isLabel
          rw [closed, stands.next.after.next.hasAt]
          rfl
        · cases isLabel
  rw [definition?, stands.hasAt]
  cases read : label? source false (definitionResume source containers)
    source.size (position + 1) with
  | none => simp [read]
  | some found =>
      obtain ⟨name, next⟩ := found
      simp [read, noColon _ _ _ _ _ read]

/-- The marks of an item that the next line does not have. -/
theorem enterAll_item (stands : source.Stands position text)
    (solid : ∀ first ∈ text.head?, first ≠ ' ' ∧ first ≠ '\t') :
    (Cursor.start position).enterAll source [.item 2] =
      (⟨position, position, 0⟩,
        if text.head?.all isLineBreak then 1 else 0) := by
  have ends :
      Cursor.atLineEnd source ⟨position, position, 0⟩ =
        text.head?.all isLineBreak := by
    rw [Cursor.atLineEnd, stands.getElem?]
    cases text <;> rfl
  have taken :
      (Cursor.start position).takeExactly source 2 =
        (⟨position, position, 0⟩, false) :=
    stands.takeExactly_none solid 1
  rw [Cursor.enterAll, Cursor.enter?, taken]
  simp only [Bool.false_or, ends]
  cases text.head?.all isLineBreak <;> rfl

theorem listInterrupts_item
    (stands : source.Stands position ('-' :: ' ' :: rest)) :
    listInterrupts source false false position = true := by
  have space : source.hasAt (position + 1) ' ' = true := by
    rw [stands.next.hasAt]
    rfl
  rw [listInterrupts, stands.listMark?_item]
  simp [space]

theorem interrupts_item (stands : source.Stands position text)
    (follows : FollowsItem text) :
    interrupts source [.item 2] (text.head?.all isLineBreak) position =
      true := by
  rw [interrupts, interruptsWithoutTable]
  cases follows with
  | nothing => simp [stands.lineBreak?_end]
  | blank rest => simp [stands.lineBreak?_feed]
  | item rest =>
      have interrupted :
          listInterrupts source
            (('-' :: ' ' :: '[' :: rest).head?.all isLineBreak) false
            position = true := stands.listInterrupts_item
      rw [interrupted]
      simp

theorem paragraph_link
    (stands : source.Stands position (linkText label target ++ '\n' :: rest))
    (literal : AreLiteral label) (literalTarget : AreLiteral target)
    (follows : FollowsItem rest) (fuel : Nat) :
    paragraph source [.item 2] position (fuel + 1) [] position =
      (.paragraph
        ⟨linkPieces position label target,
          position + (linkText label target).length + 1, [.item 2], false⟩,
        position + (linkText label target).length + 1) := by
  have standsNext := stands.after.next
  have interrupted := standsNext.interrupts_item follows
  have noUnderline : rest.head?.all isLineBreak = true →
      underline? source (position + (linkText label target).length + 1) =
        none := by
    intro ends
    apply standsNext.underline?_none
    cases follows with
    | nothing => simp
    | blank rest => simp
    | item rest => cases ends
  rw [paragraph, if_pos rfl]
  simp only [cutLine_link stands literal literalTarget,
    standsNext.enterAll_item follows.solid,
    standsNext.takeExactly_none follows.solid 3, backslashText_soft]
  have entered :
      decide ((if rest.head?.all isLineBreak = true then 1 else 0) =
        [Container.item 2].length) =
        rest.head?.all isLineBreak := by
    cases rest.head?.all isLineBreak <;> rfl
  have noneFound : (if (!false && rest.head?.all isLineBreak) = true then
      underline? source (position + (linkText label target).length + 1)
    else none) = none := by
    cases ends : rest.head?.all isLineBreak with
    | false => rfl
    | true => exact noUnderline ends
  simp only [entered, noneFound, interrupted, List.nil_append, List.append_nil]
  rfl

end Source.Stands

end LessonSite.Markdown
