import LessonSite.Markdown.Inline
import LessonSite.Proofs.Markdown.ListedLines

/-!
# What headings and links say

A literal text means itself, and a link with literal parts is a link with these
parts.
-/

namespace LessonSite.Markdown

variable {source : Source} {position start stop fuel nested : Nat}
  {run rest label target : List Char}
  {containers : List Container} {definitions : List Definition} {inTable : Bool}

/-- Running text that says the text; there is nothing for no text. -/
def textInlines (run : List Char) : List Inline :=
  if run = [] then [] else [.text (String.ofList run)]

theorem unescape_go_literal (stands : source.Stands position run)
    (literal : AreLiteral run) :
    unescape.go inTable source (fuel + run.length + 1) position = run := by
  induction run generalizing position with
  | nil => rw [unescape.go, stands.getElem?]; rfl
  | cons character run induction =>
      have plain : ∀ mark, isLiteral mark = false → character ≠ mark :=
        fun mark => ne_of_isLiteral (literal.each character List.mem_cons_self)
      have standsAll : source.Stands position (character :: (run ++ [])) := by
        rwa [List.append_nil]
      have noReference :
          character = '&' → characterReference? source position = none :=
        standsAll.characterReference?_literal literal nofun
      have others :
          unescape.go inTable source (fuel + run.length + 1)
            (position + 1) = run :=
        induction stands.next literal.tail
      rw [List.length_cons, ← Nat.add_assoc, unescape.go, stands.getElem?]
      simp only [List.head?_cons]
      split
      · next none_ => cases none_
      · next same =>
          exact absurd (Option.some.inj same) (plain '\\' (by decide))
      · next same =>
          obtain rfl := Option.some.inj same
          rw [noReference rfl, others]
      · next same =>
          exact absurd (Option.some.inj same) (plain '\r' (by decide))
      · next same =>
          obtain rfl := Option.some.inj same
          rw [others]

theorem unescape_literal (literal : AreLiteral run) :
    unescape inTable run = String.ofList run := by
  have size : run.toArray.size + 1 = 0 + run.length + 1 := by simp
  rw [unescape, size, unescape_go_literal (.whole run) literal]

theorem pairEmphasis_textInlines (run : List Char) :
    pairEmphasis (textInlines run) = textInlines run := by
  unfold textInlines
  split <;> rfl

theorem reverse_textInlines (run : List Char) :
    (textInlines run).reverse = textInlines run := by
  unfold textInlines
  split <;> rfl

theorem Linking.push_nil (state : Linking) : state.push [] = state := by
  obtain ⟨brackets, bottom⟩ := state
  cases brackets <;> rfl

theorem findLinks_textPieces {prose : Prose} {state : Linking}
    {pieces : List Piece} (stands : source.Stands start (run ++ rest)) :
    findLinks source definitions prose
        (fuel + (textPieces start run).length) state
        (textPieces start run ++ pieces) =
      findLinks source definitions prose fuel (state.push (textInlines run))
        pieces := by
  have slice := stands.sliceText
  unfold textPieces textInlines
  by_cases empty : run = []
  · rw [if_pos empty, if_pos empty, Linking.push_nil]
    rfl
  · rw [if_neg empty, if_neg empty, ← slice]
    rfl

theorem resolve_textPieces (stands : source.Stands start (run ++ rest)) :
    Prose.resolve source definitions
      ⟨textPieces start run, stop, containers, inTable⟩ = textInlines run := by
  have fuel : 2 * (textPieces start run).length + 1 =
      (textPieces start run).length + 1 + (textPieces start run).length := by
    omega
  have found :
      findLinks source definitions
        ⟨textPieces start run, stop, containers, inTable⟩
        ((textPieces start run).length + 1 + (textPieces start run).length)
        ⟨[], []⟩ (textPieces start run ++ []) = _ := findLinks_textPieces stands
  rw [List.append_nil] at found
  rw [Prose.resolve, fuel, found, ← pairEmphasis_textInlines]
  unfold textInlines
  split <;> rfl

/-- The parentheses of the text pair up when so many are open before it, and not
too many are open at once. -/
def pairUp : (nested : Nat) → List Char → Bool
  | nested, [] => nested == 0
  | nested, '(' :: text => nested ≤ parenthesesLimit && pairUp (nested + 1) text
  | nested, ')' :: text => 0 < nested && pairUp (nested - 1) text
  | nested, _ :: text => pairUp nested text

/-- The text is the target of a link when it stands in parentheses. -/
structure IsTarget (text : List Char) : Prop where
  literal : AreLiteral text
  solid : ∀ character ∈ text, 0x20 < character.toNat
  pairs : pairUp 0 text = true

instance (text : List Char) : Decidable (IsTarget text) :=
  decidable_of_iff (_ ∧ _ ∧ _)
    ⟨fun all => ⟨all.1, all.2.1, all.2.2⟩, fun isTarget =>
      ⟨isTarget.literal, isTarget.solid, isTarget.pairs⟩⟩

/-- A target ends before the parenthesis that closes no other. -/
theorem bareEnd?_target
    (stands : source.Stands position (target ++ ')' :: rest))
    (literal : ∀ character ∈ target, isLiteral character = true)
    (solid : ∀ character ∈ target, 0x20 < character.toNat)
    (pairs : pairUp nested target = true)
    (inside : position + target.length < stop) :
    bareEnd? source stop (fuel + target.length + 1) position nested =
      some (position + target.length) := by
  induction target generalizing position nested with
  | nil =>
      have none_ : nested = 0 := by simpa [pairUp] using pairs
      subst none_
      have before : ¬ stop ≤ position := Nat.not_le.mpr inside
      rw [bareEnd?, if_neg before, stands.getElem?]
      rfl
  | cons character target induction =>
      obtain ⟨here, literal⟩ := List.forall_mem_cons.mp literal
      obtain ⟨visible, solid⟩ := List.forall_mem_cons.mp solid
      have length :
          position + (character :: target).length =
            position + 1 + target.length := by
        rw [List.length_cons]
        omega
      rw [length] at inside ⊢
      have further : ∀ nested, pairUp nested target = true →
          bareEnd? source stop (fuel + target.length + 1)
              (position + 1) nested =
            some (position + 1 + target.length) := fun nested pairs =>
        induction stands.next literal solid pairs inside
      rw [List.length_cons, ← Nat.add_assoc, bareEnd?, if_neg (by omega),
        stands.getElem?]
      simp only [List.cons_append, List.head?_cons]
      split
      · next none_ => cases none_
      · next same =>
          obtain rfl := Option.some.inj same
          simp only [pairUp, Bool.and_eq_true, decide_eq_true_eq] at pairs
          rw [if_neg (Nat.not_lt.mpr pairs.1), further _ pairs.2]
      · next same =>
          obtain rfl := Option.some.inj same
          simp only [pairUp, Bool.and_eq_true, decide_eq_true_eq] at pairs
          rw [if_neg (Nat.pos_iff_ne_zero.mp pairs.1), further _ pairs.2]
      · next same =>
          exact absurd (Option.some.inj same) (ne_of_isLiteral here (by decide))
      · next noOpening noClosing _ same =>
          obtain rfl := Option.some.inj same
          have others : pairUp nested target = true := by
            rwa [pairUp] at pairs
            · rintro rfl
              exact noOpening rfl
            · rintro rfl
              exact noClosing rfl
          rw [if_neg (Nat.not_le.mpr visible), further _ others]

theorem destination?_target
    (stands : source.Stands position (target ++ ')' :: rest))
    (isTarget : IsTarget target) (inside : position + target.length < stop) :
    destination? source stop position =
      some (target, position + target.length) := by
  have noBracket : source.hasAt position '<' = false := by
    rw [stands.hasAt]
    cases target with
    | nil => rfl
    | cons first target =>
        simpa using ne_of_isLiteral
          (isTarget.literal.each first List.mem_cons_self) (by decide)
  have fuel :
      source.size + 1 = position + rest.length + 1 + target.length + 1 := by
    rw [stands.size_eq, List.length_append, List.length_cons]
    omega
  rw [destination?, noBracket, fuel]
  simp only [Bool.false_and, Bool.false_eq_true, if_false]
  rw [bareEnd?_target stands isTarget.literal.each isTarget.solid isTarget.pairs
    inside, Option.map_some,
    stands.slice]

theorem skipSeparator_none {prose : Prose} {character : Char}
    (stands : source.Stands position (character :: rest))
    (visible : 0x20 < character.toNat) :
    skipSeparator source prose position = position := by
  have other : ∀ mark : Char, mark.toNat ≤ 0x20 → character ≠ mark := by
    rintro mark low rfl
    exact Nat.not_le.mpr visible low
  have noSpace : isInlineSpace character = false := by
    simp [isInlineSpace, other ' ' (by decide), other '\t' (by decide),
      other '\x0B' (by decide), other '\x0C' (by decide)]
  have noBreak : isLineBreak character = false := by
    simp [isLineBreak, other '\n' (by decide), other '\r' (by decide)]
  have skipped := stands.skipSpace_none (by simpa using noSpace)
  rw [skipSeparator, skipped, stands.lineBreak?_none noBreak]
  exact skipped

theorem inlineTarget?_target {prose : Prose} {pieces : List Piece}
    (stands : source.Stands position ('(' :: (target ++ ')' :: rest)))
    (isTarget : IsTarget target)
    (inside : position + target.length + 1 < prose.stop) :
    inlineTarget? source prose pieces position =
      some (String.ofList target, "", position + target.length + 2) := by
  have standsTarget := stands.next
  have closing := standsTarget.after
  have start : skipSeparator source prose (position + 1) = position + 1 := by
    cases target with
    | nil => exact skipSeparator_none standsTarget (by decide)
    | cons first target =>
        exact skipSeparator_none standsTarget
          (isTarget.solid first List.mem_cons_self)
  have next :
      skipSeparator source prose (position + 1 + target.length) =
        position + 1 + target.length :=
    skipSeparator_none closing (by decide)
  have destination : destination? source prose.stop (position + 1) =
      some (target, position + 1 + target.length) :=
    destination?_target standsTarget isTarget (by omega)
  have opening : source.hasAt position '(' = true := by
    rw [stands.hasAt]
    rfl
  have closed : source.hasAt (position + 1 + target.length) ')' = true := by
    rw [closing.hasAt]
    rfl
  have found : source[position + 1 + target.length]? = some ')' :=
    closing.getElem?
  have before : ¬ prose.stop ≤ position := by omega
  have within : position + 1 + target.length < prose.stop := by omega
  have after :
      position + 1 + target.length + 1 =
        position + target.length + 2 := by omega
  have noTitle : titleClosing? ')' = none := by decide
  unfold inlineTarget?
  simp only [opening, before, start, destination, next, found, noTitle, closed,
    within, after, unescape_literal isTarget.literal, Option.bind_eq_bind,
    Option.bind_some, Option.bind_none, Bool.not_true, Bool.false_or,
    Bool.true_and, decide_false, decide_true, Bool.false_eq_true, if_false,
    if_true]
  rfl

/-- A closing bracket with a target behind it makes a link of what follows the
open bracket. -/
theorem findLinks_close {prose : Prose} {top : Bracket}
    {brackets : List Bracket} {bottom : List Inline}
    {closing : Nat} {pieces : List Piece} {mayRefer : Bool}
    {destination title : String} {next : Nat} (enabled : top.kind ≠ .disabled)
    (aimed : inlineTarget? source prose pieces stop =
      some (destination, title, next)) :
    findLinks source definitions prose (fuel + 1) ⟨top :: brackets, bottom⟩
        (⟨closing, stop, .linkClose mayRefer⟩ :: pieces) =
      findLinks source definitions prose fuel
        (Linking.closeTop ⟨top :: brackets, bottom⟩ destination title)
        (piecesFrom next pieces) := by
  rw [findLinks.eq_def]
  simp only [enabled, aimed, if_false]

/-- A link with a literal text and a target is a link with these. -/
theorem resolve_linkPieces
    (stands : source.Stands start (linkText label target ++ rest))
    (isTarget : IsTarget target)
    (inside : start + (linkText label target).length < stop) :
    Prose.resolve source definitions
        ⟨linkPieces start label target, stop, containers, inTable⟩ =
      [.link (String.ofList target) "" (textInlines label)] := by
  rw [linkText_append] at stands
  have closing := stands.next.after
  have last :
      start + (linkText label target).length =
        start + 1 + label.length + 1 + target.length + 2 := by
    rw [length_linkText]
    omega
  let prose : Prose :=
    ⟨linkPieces start label target, stop, containers, inTable⟩
  let aim : Piece :=
    ⟨start + 1 + label.length + 1, start + (linkText label target).length,
      .text⟩
  have aimed : inlineTarget? source prose [aim] (start + 1 + label.length + 1) =
      some
        (String.ofList target, "",
          start + 1 + label.length + 1 + target.length + 2) := by
    refine inlineTarget?_target closing.next isTarget ?_
    show start + 1 + label.length + 1 + target.length + 1 < stop
    omega
  have passed :
      piecesFrom (start + 1 + label.length + 1 + target.length + 2)
        [aim] = [] := by
    rw [piecesFrom, if_pos (Nat.le_of_eq last), piecesFrom]
  have length :
      (linkPieces start label target).length =
        1 + (textPieces (start + 1) label).length + 2 := by
    simp only [linkPieces, List.length_cons, List.length_append,
      List.length_nil]
    omega
  obtain ⟨fuel, enough⟩ : ∃ fuel,
      2 * (linkPieces start label target).length + 1 =
        fuel + 1 + 1 + (textPieces (start + 1) label).length + 1 :=
    ⟨(linkPieces start label target).length + 1, by omega⟩
  have opened :
      findLinks source definitions prose
          (fuel + 1 + 1 + (textPieces (start + 1) label).length + 1)
          ⟨[], []⟩ (linkPieces start label target) =
        findLinks source definitions prose
          (fuel + 1 + 1 + (textPieces (start + 1) label).length)
          ⟨[⟨.link, start, start, []⟩], []⟩ (textPieces (start + 1) label ++
            [⟨start + 1 + label.length, start + 1 + label.length + 1,
              .linkClose true⟩, aim]) := rfl
  have pushed :
      Linking.push ⟨[⟨.link, start, start, []⟩], []⟩ (textInlines label) =
        ⟨[⟨.link, start, start, textInlines label⟩], []⟩ := by
    rw [Linking.push]
    simp only [List.append_nil]
  have closed :
      Linking.closeTop ⟨[⟨.link, start, start, textInlines label⟩], []⟩
          (String.ofList target) "" =
        ⟨[], [.link (String.ofList target) "" (textInlines label)]⟩ := by
    rw [Linking.closeTop]
    simp only [reverse_textInlines, pairEmphasis_textInlines]
    rfl
  rw [Prose.resolve, enough, opened, findLinks_textPieces stands.next, pushed,
    findLinks_close (by simp) aimed, closed, passed]
  rfl

end LessonSite.Markdown
