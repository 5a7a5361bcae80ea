import LessonSite.Proofs.Template.Slots

/-!
# What is written between the slots

The slots of a parsed text stand one after the other, each where its token is.
So the text consists of pieces and tokens in turn, and to render it is to put
values in the place of the tokens.  The pieces are cut out by counting bytes,
and every cut falls between two characters.
-/

namespace LessonSite

namespace Template

def byteSize (text : List Char) : Nat :=
  text.foldr (fun character total => character.utf8Size + total) 0

/-- What is before and after a number of bytes, if they end between two
characters of the text. -/
def splitBytes? (count : Nat) : List Char → Option (List Char × List Char)
  | [] => if count = 0 then some ([], []) else none
  | character :: rest =>
      if count = 0 then some ([], character :: rest)
      else if count < character.utf8Size then none
      else
        (splitBytes? (count - character.utf8Size) rest).map
          fun (before, after) => (character :: before, after)

/-- The part of a text from one byte to another, if both are between two
characters and in order. -/
def slice? (text : List Char) (start stop : Nat) : Option (List Char) :=
  if stop < start then none
  else
    (splitBytes? start text).bind fun (_, rest) =>
      (splitBytes? (stop - start) rest).map Prod.fst

/-- The byte at which a slot begins. -/
def byteOffset (text : List Char) (slot : Slot) : Nat :=
  byteSize (text.take slot.offset)

/-- The byte after the token of a slot. -/
def byteStop (text : List Char) (slot : Slot) : Nat :=
  byteOffset text slot + byteSize slot.placeholder.token.toList

/-- The text from a byte on, with the slots filled, if all its parts can be cut
out. -/
def renderSliced? (text : List Char) (filling : Filling) (cursor : Nat) :
    List Slot → Option (List Char)
  | [] => slice? text cursor (byteSize text)
  | slot :: slots => do
      let piece ← slice? text cursor (byteOffset text slot)
      let others ← renderSliced? text filling (byteStop text slot) slots
      return piece ++ (filling.value slot.placeholder).toList ++ others

theorem byteSize_append (left right : List Char) :
    byteSize (left ++ right) = byteSize left + byteSize right := by
  induction left with
  | nil => exact (Nat.zero_add _).symm
  | cons character left induction =>
      change character.utf8Size + byteSize (left ++ right) =
        character.utf8Size + byteSize left + byteSize right
      rw [induction, Nat.add_assoc]

theorem byteSize_take_le (text : List Char) {shorter longer : Nat}
    (inOrder : shorter ≤ longer) :
    byteSize (text.take shorter) ≤ byteSize (text.take longer) := by
  rw [← Nat.add_sub_cancel' inOrder, List.take_add, byteSize_append]
  exact Nat.le_add_right _ _

theorem splitBytes?_append (left right : List Char) :
    splitBytes? (byteSize left) (left ++ right) = some (left, right) := by
  induction left with
  | nil => cases right <;> rfl
  | cons character left induction =>
      have positive := character.utf8Size_pos
      have size :
          byteSize (character :: left) = character.utf8Size + byteSize left :=
        rfl
      rw [List.cons_append, splitBytes?, size, if_neg (by omega),
        if_neg (by omega), Nat.add_sub_cancel_left, induction]
      rfl

/-- What stands between two places in a text is cut out. -/
theorem slice?_append (left part right : List Char) :
    slice? (left ++ (part ++ right)) (byteSize left) (byteSize (left ++ part)) =
      some part := by
  rw [slice?, byteSize_append, if_neg (by omega), splitBytes?_append,
    Nat.add_sub_cancel_left]
  show (splitBytes? (byteSize part) (part ++ right)).map Prod.fst = some part
  rw [splitBytes?_append]
  rfl

theorem slice?_take {text : List Char} {start stop : Nat}
    (inOrder : start ≤ stop) :
    slice? text (byteSize (text.take start)) (byteSize (text.take stop)) =
      some ((text.drop start).take (stop - start)) := by
  have upToStop :
      text.take stop =
        text.take start ++ (text.drop start).take (stop - start) := by
    rw [← List.take_add, Nat.add_sub_cancel' inOrder]
  have whole :
      text.take start ++
        ((text.drop start).take (stop - start) ++ text.drop stop) = text := by
    rw [← List.append_assoc, ← upToStop, List.take_append_drop]
  have cut :=
    slice?_append (text.take start) ((text.drop start).take (stop - start))
      (text.drop stop)
  rwa [whole, ← upToStop] at cut

theorem slice?_drop (text : List Char) (start : Nat) :
    slice? text (byteSize (text.take start)) (byteSize text) =
      some (text.drop start) := by
  have cut := slice?_append (text.take start) (text.drop start) []
  rwa [List.append_nil, List.take_append_drop] at cut

variable {text : List Char} {slots : List Slot}

/-- The slots stand one after the other from a place on, each where its token
is. -/
def AreApart (text : List Char) : Nat → List Slot → Prop
  | _, [] => True
  | cursor, slot :: slots =>
      cursor ≤ slot.offset ∧ slot.placeholder.OccursAt text slot.offset ∧
        AreApart text slot.stop slots

theorem offset_lt_stop (slot : Slot) : slot.offset < slot.stop := by
  have positive := slot.placeholder.length_token_pos
  rw [Slot.stop, ← String.length_toList]
  omega

theorem stop_le_length {slot : Slot}
    (occurs : slot.placeholder.OccursAt text slot.offset) :
    slot.stop ≤ text.length := by
  have inside := occurs.lt_length
  have room := occurs.length_le
  rw [List.length_drop, String.length_toList] at room
  rw [Slot.stop]
  omega

/-- Up to the end of a slot stands what is before it and its token. -/
theorem take_stop {slot : Slot}
    (occurs : slot.placeholder.OccursAt text slot.offset) :
    text.take slot.stop =
      text.take slot.offset ++ slot.placeholder.token.toList := by
  rw [Slot.stop, List.take_add, ← String.length_toList,
    ← List.prefix_iff_eq_take.mp occurs]

theorem byteStop_eq {slot : Slot}
    (occurs : slot.placeholder.OccursAt text slot.offset) :
    byteStop text slot = byteSize (text.take slot.stop) := by
  rw [take_stop occurs, byteSize_append, byteStop, byteOffset]

/-- The token is what is cut out of the text between the two ends of a slot. -/
theorem slice?_slot {slot : Slot}
    (occurs : slot.placeholder.OccursAt text slot.offset) :
    slice? text (byteOffset text slot) (byteStop text slot) =
      some slot.placeholder.token.toList := by
  rw [byteStop_eq occurs, byteOffset, slice?_take (offset_lt_stop slot).le,
    Slot.stop, Nat.add_sub_cancel_left, ← String.length_toList,
    ← List.prefix_iff_eq_take.mp occurs]

theorem areApart_dropOverlaps (reached : Nat)
    (occur : ∀ slot ∈ slots, slot.placeholder.OccursAt text slot.offset) :
    AreApart text reached (dropOverlaps reached slots) := by
  induction slots generalizing reached with
  | nil => trivial
  | cons slot slots induction =>
      obtain ⟨occurs, others⟩ := List.forall_mem_cons.mp occur
      rw [dropOverlaps]
      split
      · exact induction reached others
      · next clear =>
          exact ⟨Nat.le_of_not_lt clear, occurs, induction slot.stop others⟩

theorem AreApart.of_mem {cursor : Nat} (apart : AreApart text cursor slots)
    {slot : Slot} (member : slot ∈ slots) :
    cursor ≤ slot.offset ∧ slot.placeholder.OccursAt text slot.offset := by
  induction slots generalizing cursor with
  | nil => cases member
  | cons first rest induction =>
      obtain ⟨reached, occurs, others⟩ := apart
      rcases List.mem_cons.mp member with rfl | later
      · exact ⟨reached, occurs⟩
      · obtain ⟨after, occursToo⟩ := induction others later
        have length := offset_lt_stop first
        exact ⟨by omega, occursToo⟩

theorem AreApart.pairwise {cursor : Nat} (apart : AreApart text cursor slots) :
    slots.Pairwise fun left right => left.stop ≤ right.offset := by
  induction slots generalizing cursor with
  | nil => exact List.Pairwise.nil
  | cons first rest induction =>
      obtain ⟨-, -, others⟩ := apart
      exact List.pairwise_cons.mpr
        ⟨fun slot later => (others.of_mem later).1, induction others⟩

/-- Every part that is copied while slots apart are filled can be cut out of the
text. -/
theorem AreApart.renderSliced? {cursor : Nat}
    (apart : AreApart text cursor slots) (filling : Filling) :
    renderSliced? text filling (byteSize (text.take cursor)) slots =
      some (renderFrom text filling cursor slots) := by
  induction slots generalizing cursor with
  | nil => exact slice?_drop text cursor
  | cons slot slots induction =>
      obtain ⟨reached, occurs, others⟩ := apart
      rw [Template.renderSliced?, byteStop_eq occurs, induction others,
        byteOffset, slice?_take reached]
      rfl

/-- Slots that are filled with their own tokens leave the text as it is. -/
theorem AreApart.renderFrom_own {cursor : Nat}
    (apart : AreApart text cursor slots) {filling : Filling}
    (own : ∀ placeholder, filling.value placeholder = placeholder.token) :
    renderFrom text filling cursor slots = text.drop cursor := by
  induction slots generalizing cursor with
  | nil => rfl
  | cons slot slots induction =>
      obtain ⟨reached, occurs, others⟩ := apart
      have token :
          slot.placeholder.token.toList ++ text.drop slot.stop =
            text.drop slot.offset := by
        rw [Slot.stop, ← List.drop_drop, ← String.length_toList]
        exact List.prefix_iff_eq_append.mp occurs
      have before :
          (text.drop cursor).drop (slot.offset - cursor) =
            text.drop slot.offset := by
        rw [List.drop_drop, Nat.add_sub_cancel' reached]
      rw [renderFrom, induction others, own, List.append_assoc, token, ← before,
        List.take_append_drop]

/-- The parts of a text from a place on that are not in a slot. -/
def piecesFrom (text : List Char) (cursor : Nat) : List Slot → List (List Char)
  | [] => [text.drop cursor]
  | slot :: slots =>
      (text.drop cursor).take (slot.offset - cursor) ::
        piecesFrom text slot.stop slots

/-- The parts of a template that stay as they are. -/
def pieces (template : Template) : List (List Char) :=
  piecesFrom template.text 0 template.slots

def interleave : List (List Char) → List (List Char) → List Char
  | piece :: pieces, value :: values =>
      piece ++ value ++ interleave pieces values
  | pieces, [] => pieces.flatten
  | [], values => values.flatten

theorem length_piecesFrom (text : List Char) (cursor : Nat)
    (slots : List Slot) :
    (piecesFrom text cursor slots).length = slots.length + 1 := by
  induction slots generalizing cursor with
  | nil => rfl
  | cons slot slots induction =>
      rw [piecesFrom, List.length_cons, induction, List.length_cons]

theorem renderFrom_eq_interleave (text : List Char) (filling : Filling)
    (cursor : Nat) (slots : List Slot) :
    renderFrom text filling cursor slots =
      interleave (piecesFrom text cursor slots)
        (slots.map fun slot => (filling.value slot.placeholder).toList) := by
  induction slots generalizing cursor with
  | nil => exact (List.append_nil _).symm
  | cons slot slots induction =>
      rw [renderFrom, piecesFrom, List.map_cons, interleave, induction]

/-- Every placeholder is to be replaced by its token. -/
def ownTokens : Filling :=
  Placeholder.all.map fun placeholder => (placeholder, placeholder.token)

theorem value_ownTokens (placeholder : Placeholder) :
    ownTokens.value placeholder = placeholder.token := by
  cases placeholder <;> rfl

/-- The template is the text with slots in it that are in order, apart and
inside the text, at most one of a placeholder, so that it is rendered by putting
values between fixed pieces. -/
structure IsPieced (text : String) (template : Template) : Prop where
  text_eq : template.text = text.toList
  increasing :
    template.slots.Pairwise fun left right => left.offset < right.offset
  occurs :
    ∀ slot ∈ template.slots, slot.placeholder.OccursAt text.toList slot.offset
  apart : template.slots.Pairwise fun left right => left.stop ≤ right.offset
  inside : ∀ slot ∈ template.slots, slot.stop ≤ text.toList.length
  once : (template.slots.map Slot.placeholder).Nodup
  cutOut : ∀ slot ∈ template.slots,
    slice? text.toList (byteOffset text.toList slot)
        (byteStop text.toList slot) =
      some slot.placeholder.token.toList
  apartInBytes : template.slots.Pairwise fun left right =>
    byteStop text.toList left ≤ byteOffset text.toList right
  sliced : ∀ filling,
    renderSliced? text.toList filling 0 template.slots =
      some (template.render filling).toList
  length_pieces : template.pieces.length = template.slots.length + 1
  interleaved : ∀ filling,
    (template.render filling).toList =
      interleave template.pieces
        (template.slots.map fun slot => (filling.value slot.placeholder).toList)
  own : template.render ownTokens = text

/-- A text that is accepted is cut into its slots and the pieces between
them. -/
theorem isPieced_of_parse {text : String} {template : Template}
    (parsed : parse text = .ok template) : IsPieced text template := by
  obtain ⟨same, -, firsts, areSorted, kept⟩ := exists_of_parse parsed
  have areFirst : ∀ slot ∈ template.slots, IsFirst text.toList slot := by
    intro slot member
    rw [kept] at member
    exact (areSorted.mem_iff slot).mp (mem_of_mem_dropOverlaps member).1
  have apart : AreApart text.toList 0 template.slots := by
    rw [kept]
    exact areApart_dropOverlaps 0 fun slot member =>
      ((areSorted.mem_iff slot).mp member).occurs
  have increasing :
      template.slots.Pairwise fun left right => left.offset < right.offset :=
    apart.pairwise.imp fun {left right} clear =>
      Nat.lt_of_lt_of_le (offset_lt_stop left) clear
  have rendered : ∀ filling,
      (template.render filling).toList =
        renderFrom text.toList filling 0 template.slots := by
    intro filling
    rw [render, String.toList_ofList, same]
  constructor
  case text_eq => exact same
  case increasing => exact increasing
  case occurs => exact fun slot member => (areFirst slot member).occurs
  case apart => exact apart.pairwise
  case inside =>
    exact fun slot member => stop_le_length (areFirst slot member).occurs
  case once =>
    refine List.Nodup.map_on ?_ (increasing.imp fun before => ?_)
    · intro first isFirst second isSecond alike
      exact (areFirst first isFirst).eq_of_placeholder
        (areFirst second isSecond) alike
    · rintro rfl
      exact Nat.lt_irrefl _ before
  case cutOut =>
    exact fun slot member => slice?_slot (areFirst slot member).occurs
  case apartInBytes =>
    refine apart.pairwise.imp_of_mem fun {left right} isLeft _ clear => ?_
    rw [byteStop_eq (areFirst left isLeft).occurs]
    exact byteSize_take_le _ clear
  case sliced =>
    intro filling
    rw [rendered]
    exact apart.renderSliced? filling
  case length_pieces => exact length_piecesFrom _ _ _
  case interleaved =>
    intro filling
    rw [rendered, pieces, same]
    exact renderFrom_eq_interleave _ _ _ _
  case own =>
    rw [← String.toList_inj, rendered, apart.renderFrom_own value_ownTokens,
      List.drop_zero]

theorem isPieced_overlapping :
    ∃ template,
      parse "é%TITLE%TOC%ü" = .ok template ∧
        IsPieced "é%TITLE%TOC%ü" template :=
  ⟨⟨"é%TITLE%TOC%ü".toList, [⟨1, .title⟩]⟩, by decide,
    isPieced_of_parse (by decide)⟩

end Template

end LessonSite
