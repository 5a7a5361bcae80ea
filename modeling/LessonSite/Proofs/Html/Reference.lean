import LessonSite.Html.CharacterReference
import LessonSite.Markup.Escape
import LessonSite.Proofs.Lists

/-!
# References of escaped texts

An escaped text has references for the characters that markup is made of.  When
they are decoded the text is there again, in running text as in the value of an
attribute.
-/

namespace LessonSite.Html

open Markup (escapeChar)

variable {inValue : Bool}

/-- A name that its semicolon ends is read as a whole, whatever follows. -/
theorem readName_semicolon {letters rest : List Char} {text : String}
    (areLetters : letters.all isNameCharacter = true)
    (short : letters.length < Markup.Entity.longestName - 1)
    (named : Markup.Entity.lookup? (String.ofList (letters ++ [';'])) =
      some text) :
    readName inValue (letters ++ ';' :: rest) = some (text.toList, rest) := by
  have name :
      ((letters ++ ';' :: rest).take (Markup.Entity.longestName - 1)).takeWhile
        isNameCharacter = letters := by
    obtain ⟨more, enough⟩ := Nat.exists_eq_add_of_lt short
    rw [enough, Nat.add_assoc, List.take_length_add_append, List.take_succ_cons,
      List.takeWhile_append_of_pos (List.all_eq_true.mp areLetters),
      List.takeWhile_cons_of_neg (by decide), List.append_nil]
  unfold readName
  simp only [name, List.drop_left, named, Option.map_some]

private theorem readReference_named {first : Char} {letters rest : List Char}
    {character : Char}
    (areLetters : (first :: letters).all isNameCharacter = true)
    (short : (first :: letters).length < Markup.Entity.longestName - 1)
    (named : Markup.Entity.lookup? (String.ofList (first :: letters ++ [';'])) =
      some (String.singleton character)) :
    readReference inValue (first :: letters ++ ';' :: rest) =
      some ([character], rest) := by
  have plain : first ≠ '#' := by
    rintro rfl
    exact absurd
      (List.all_eq_true.mp areLetters '#' List.mem_cons_self) (by decide)
  rw [List.cons_append, readReference]
  · rw [← List.cons_append, readName_semicolon areLetters short named,
      String.toList_singleton]
  all_goals
    intro _ same
    exact plain (List.cons.inj same).1

private theorem decodeReferences_named (first : Char) (letters : List Char)
    (character : Char)
    (rest : List Char)
    (areLetters : (first :: letters).all isNameCharacter = true)
    (short : (first :: letters).length < Markup.Entity.longestName - 1)
    (named : Markup.Entity.lookup? (String.ofList (first :: letters ++ [';'])) =
      some (String.singleton character)) :
    decodeReferences inValue ('&' :: (first :: letters ++ ';' :: rest)) =
      character :: decodeReferences inValue rest := by
  have shorter : rest.length ≤ (first :: letters ++ ';' :: rest).length := by
    rw [List.length_append, List.length_cons, List.length_cons]
    omega
  rw [decodeReferences, readReference_named areLetters short named]
  simp only [shorter, dite_true, List.singleton_append]

private theorem lookup_escapes :
    Markup.Entity.lookup? (String.ofList ['a', 'm', 'p', ';']) =
        some (String.singleton '&') ∧
      Markup.Entity.lookup? (String.ofList ['l', 't', ';']) =
        some (String.singleton '<') ∧
      Markup.Entity.lookup? (String.ofList ['g', 't', ';']) =
        some (String.singleton '>') ∧
      Markup.Entity.lookup? (String.ofList ['q', 'u', 'o', 't', ';']) =
        some (String.singleton '"') := by
  decide +kernel

theorem decodeReferences_escapeChar (character : Char) (rest : List Char) :
    decodeReferences inValue (escapeChar character ++ rest) =
      character :: decodeReferences inValue rest := by
  obtain ⟨ampersand, less, greater, quote⟩ := lookup_escapes
  unfold escapeChar
  split
  · exact decodeReferences_named 'a' ['m', 'p'] '&' rest (by decide)
      (by decide) ampersand
  · exact decodeReferences_named 'l' ['t'] '<' rest (by decide) (by decide) less
  · exact decodeReferences_named 'g' ['t'] '>' rest (by decide)
      (by decide) greater
  · exact decodeReferences_named 'q' ['u', 'o', 't'] '"' rest (by decide)
      (by decide) quote
  · next plain _ _ _ =>
      rw [List.singleton_append, decodeReferences]
      exact plain

/-- A reference can begin with the character after its ampersand. -/
def beginsReference (character : Char) : Bool :=
  character == '#' || isNameCharacter character

/-- A reference can begin somewhere in the text. -/
def mayHoldReference : List Char → Bool
  | [] => false
  | character :: text =>
      (character == '&' && text.head?.any beginsReference) ||
        mayHoldReference text

private theorem readName_eq_none {input : List Char}
    (other : input.head?.any isNameCharacter = false) :
    readName inValue input = none := by
  have letters :
      (input.take (Markup.Entity.longestName - 1)).takeWhile
        isNameCharacter = [] := by
    cases input with
    | nil => rw [List.take_nil, List.takeWhile_nil]
    | cons first rest =>
        obtain ⟨width, positive⟩ : ∃ width,
          Markup.Entity.longestName - 1 = width + 1 := ⟨_, rfl⟩
        rw [positive, List.take_succ_cons, List.takeWhile_cons_of_neg]
        exact Bool.eq_false_iff.mp other
  have semicolon : Markup.Entity.lookup? ";" = none := by decide +kernel
  unfold readName
  rw [letters]
  cases input with
  | nil => rfl
  | cons first rest =>
      by_cases same : first = ';'
      · subst same
        simp [semicolon]
      · simp [same]

private theorem readReference_eq_none {input : List Char}
    (other : input.head?.any beginsReference = false) :
    readReference inValue input = none := by
  have noName : input.head?.any isNameCharacter = false := by
    cases input with
    | nil => rfl
    | cons first rest => exact (Bool.or_eq_false_iff.mp other).2
  rw [readReference, readName_eq_none noName]
  all_goals
    rintro rest rfl
    exact Bool.noConfusion (show true = false from other)

/-- A text is as it is when no reference can begin in it. -/
theorem decodeReferences_eq_self {text : List Char}
    (none : mayHoldReference text = false) :
    decodeReferences inValue text = text := by
  induction text with
  | nil => rw [decodeReferences]
  | cons character text induction =>
      rw [mayHoldReference, Bool.or_eq_false_iff] at none
      obtain ⟨here, later⟩ := none
      by_cases ampersand : character = '&'
      · subst ampersand
        rw [decodeReferences, readReference_eq_none here, induction later]
      · rw [decodeReferences, induction later]
        exact ampersand
theorem mayHoldReference_eq_false {text : List Char} (plain : '&' ∉ text) :
    mayHoldReference text = false := by
  induction text with
  | nil => rfl
  | cons character text induction =>
      rw [List.mem_cons, not_or] at plain
      rw [mayHoldReference, induction plain.2, Bool.or_false,
        Bool.and_eq_false_imp, beq_iff_eq]
      exact fun same => absurd same.symm plain.1

theorem decodeReferences_escape (text : List Char) :
    decodeReferences inValue (text.flatMap escapeChar) = text := by
  induction text with
  | nil => rw [List.flatMap_nil, decodeReferences]
  | cons character text induction =>
      rw [List.flatMap_cons, decodeReferences_escapeChar, induction]

theorem mem_escape {text : List Char} {character : Char}
    (member : character ∈ text.flatMap escapeChar) :
    character ≠ '<' ∧ character ≠ '"' ∧
      (character ∈ text ∨ character ∈ "&amp;&lt;&gt;&quot;".toList) := by
  obtain ⟨source, inside, written⟩ := List.mem_flatMap.mp member
  have reference :
      ∀ letters : List Char,
        character ∈ letters → '<' ∉ letters → '"' ∉ letters →
          letters ⊆ "&amp;&lt;&gt;&quot;".toList →
          character ≠ '<' ∧ character ≠ '"' ∧
            (character ∈ text ∨ character ∈ "&amp;&lt;&gt;&quot;".toList) :=
    fun _ among noLess noQuote known =>
      ⟨ne_of_mem_of_not_mem among noLess, ne_of_mem_of_not_mem among noQuote,
        .inr (known among)⟩
  unfold escapeChar at written
  split at written
  · exact reference _ written (by decide) (by decide) (by decide)
  · exact reference _ written (by decide) (by decide) (by decide)
  · exact reference _ written (by decide) (by decide) (by decide)
  · exact reference _ written (by decide) (by decide) (by decide)
  · next noLess _ noQuote =>
      cases List.mem_singleton.mp written
      exact ⟨noLess, noQuote, .inl inside⟩

end LessonSite.Html
