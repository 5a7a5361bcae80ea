import LessonSite.Template.Basic
import Mathlib.Data.List.Sort

/-!
# The slots of a template

A parsed text has one slot for each placeholder whose token occurs in it, where
the token occurs first, but for those that begin inside a slot already kept.
-/

namespace LessonSite

namespace Placeholder

/-- The token of the placeholder stands at a place of the text. -/
def OccursAt (placeholder : Placeholder) (text : List Char)
    (offset : Nat) : Prop :=
  placeholder.token.toList <+: text.drop offset

instance (placeholder : Placeholder) (text : List Char) (offset : Nat) :
    Decidable (placeholder.OccursAt text offset) :=
  inferInstanceAs (Decidable (_ <+: _))

theorem mem_all (placeholder : Placeholder) : placeholder ∈ all := by
  cases placeholder <;> decide

theorem length_token_pos (placeholder : Placeholder) :
    0 < placeholder.token.toList.length := by
  cases placeholder <;> decide

private theorem eq_of_tokens_begin :
    ∀ first ∈ all,
      ∀ second ∈ all,
        first.token.toList <+: second.token.toList → first = second := by
  decide

theorem eq_of_prefix {first second : Placeholder} {text : List Char}
    (isFirst : first.token.toList <+: text)
    (isSecond : second.token.toList <+: text) :
    first = second := by
  rcases List.prefix_or_prefix_of_prefix isFirst isSecond with shorter | longer
  · exact eq_of_tokens_begin first first.mem_all second second.mem_all shorter
  · exact (eq_of_tokens_begin second second.mem_all first first.mem_all
      longer).symm

theorem OccursAt.lt_length {placeholder : Placeholder} {text : List Char}
    {offset : Nat}
    (occurs : placeholder.OccursAt text offset) : offset < text.length := by
  have room := occurs.length_le
  have positive := placeholder.length_token_pos
  rw [List.length_drop] at room
  omega

end Placeholder

namespace Template

private theorem not_prefix_of_occurrencesFrom {token : List Char}
    (nonempty : 0 < token.length)
    {text : List Char} {offset skip : Nat}
    (none_ : occurrencesFrom token offset skip text = [])
    {place : Nat} (reached : skip ≤ place) : ¬token <+: text.drop place := by
  induction text generalizing offset skip place with
  | nil =>
      rw [List.drop_nil, List.prefix_nil]
      exact List.ne_nil_of_length_pos nonempty
  | cons character rest induction =>
      cases skip with
      | succ skip =>
          obtain ⟨place, rfl⟩ :=
            Nat.exists_eq_succ_of_ne_zero
              (Nat.ne_of_gt (Nat.zero_lt_of_lt reached))
          exact induction none_ (Nat.le_of_succ_le_succ reached)
      | zero =>
          simp only [occurrencesFrom] at none_
          split at none_
          · cases none_
          · next absent =>
              cases place with
              | zero =>
                  exact fun starts =>
                    absent (List.isPrefixOf_iff_prefix.mpr starts)
              | succ place => exact induction none_ (Nat.zero_le place)

private theorem exists_of_occurrencesFrom {token : List Char} {text : List Char}
    {offset skip : Nat} {found : Nat} {others : List Nat}
    (some_ : occurrencesFrom token offset skip text = found :: others) :
    ∃ place, found = offset + place ∧ skip ≤ place ∧ token <+: text.drop place ∧
      (∀ earlier,
        skip ≤ earlier → earlier < place → ¬token <+: text.drop earlier) ∧
      others =
        occurrencesFrom token (found + 1) (token.length - 1)
          (text.drop (place + 1)) := by
  induction text generalizing offset skip with
  | nil => cases some_
  | cons character rest induction =>
      cases skip with
      | succ skip =>
          obtain ⟨place, rfl, reached, here, before, after⟩ := induction some_
          refine ⟨place + 1, by omega, by omega, here, ?_, after⟩
          intro earlier late early
          obtain ⟨earlier, rfl⟩ :=
            Nat.exists_eq_succ_of_ne_zero (n := earlier) (by omega)
          exact before earlier (by omega) (by omega)
      | zero =>
          simp only [occurrencesFrom] at some_
          split at some_
          · next starts =>
              cases some_
              exact ⟨0, rfl, Nat.le_refl 0,
                List.isPrefixOf_iff_prefix.mp starts, by omega, rfl⟩
          · next absent =>
              obtain ⟨place, rfl, -, here, before, after⟩ := induction some_
              refine ⟨place + 1, by omega, Nat.zero_le _, here, ?_, after⟩
              intro earlier _ early
              cases earlier with
              | zero =>
                  exact fun starts =>
                    absent (List.isPrefixOf_iff_prefix.mpr starts)
              | succ earlier => exact before earlier (Nat.zero_le _) (by omega)

/-- The slot is where the token of its placeholder occurs first. -/
structure IsFirst (text : List Char) (slot : Slot) : Prop where
  occurs : slot.placeholder.OccursAt text slot.offset
  first : ∀ earlier < slot.offset, ¬slot.placeholder.OccursAt text earlier

/-- Of two occurrences of a token the later one begins inside the earlier
one. -/
def IsSole (text : List Char) (placeholder : Placeholder) : Prop :=
  ∀ earlier later,
    placeholder.OccursAt text earlier → placeholder.OccursAt text later →
      later < earlier + placeholder.token.toList.length

theorem IsFirst.eq_of_offset {text : List Char} {first second : Slot}
    (isFirst : IsFirst text first)
    (isSecond : IsFirst text second) (same : first.offset = second.offset) :
    first = second := by
  have second_ := isSecond.occurs
  rw [← same] at second_
  have placeholders := Placeholder.eq_of_prefix isFirst.occurs second_
  cases first
  cases second
  cases same
  cases placeholders
  rfl

theorem IsFirst.offset_le {text : List Char} {slot : Slot}
    (isFirst : IsFirst text slot) {place : Nat}
    (occurs : slot.placeholder.OccursAt text place) : slot.offset ≤ place :=
  Nat.le_of_not_lt fun earlier => isFirst.first place earlier occurs

theorem IsFirst.eq_of_placeholder {text : List Char} {first second : Slot}
    (isFirst : IsFirst text first) (isSecond : IsFirst text second)
    (same : first.placeholder = second.placeholder) : first = second := by
  have occursFirst := isFirst.occurs
  have occursSecond := isSecond.occurs
  rw [same] at occursFirst
  rw [← same] at occursSecond
  exact isFirst.eq_of_offset isSecond
    (Nat.le_antisymm (isFirst.offset_le occursSecond)
      (isSecond.offset_le occursFirst))

variable {text : List Char}

/-- The slots are the first occurrences of some placeholders, each of which
occurs but once. -/
structure AreFirsts (text : List Char) (placeholders : List Placeholder)
    (slots : List Slot) : Prop where
  mem_iff :
    ∀ slot, slot ∈ slots ↔ slot.placeholder ∈ placeholders ∧ IsFirst text slot
  once : (slots.map Slot.placeholder).Sublist placeholders
  sole : ∀ placeholder ∈ placeholders, IsSole text placeholder

private theorem areFirsts_of_absent {placeholder : Placeholder}
    (absent : ∀ place, ¬placeholder.OccursAt text place) :
    AreFirsts text [placeholder] [] := by
  constructor
  · intro slot
    constructor
    · intro member
      cases member
    · rintro ⟨member, isFirst⟩
      rw [List.mem_singleton] at member
      exact (absent slot.offset (member ▸ isFirst.occurs)).elim
  · exact List.nil_sublist _
  · intro other member earlier _ occurs
    rw [List.mem_singleton] at member
    exact (absent earlier (member ▸ occurs)).elim

private theorem areFirsts_of_isFirst {slot : Slot} (isFirst : IsFirst text slot)
    (sole : IsSole text slot.placeholder) :
    AreFirsts text [slot.placeholder] [slot] := by
  constructor
  · intro other
    rw [List.mem_singleton, List.mem_singleton]
    constructor
    · rintro rfl
      exact ⟨rfl, isFirst⟩
    · rintro ⟨same, isOther⟩
      exact isOther.eq_of_placeholder isFirst same
  · exact List.Sublist.refl _
  · intro other member
    rw [List.mem_singleton] at member
    exact member ▸ sole

private theorem isSole_of_isFirst {slot : Slot} (isFirst : IsFirst text slot)
    (after : occurrencesFrom slot.placeholder.token.toList (slot.offset + 1)
      (slot.placeholder.token.toList.length - 1)
      (text.drop (slot.offset + 1)) = []) :
    IsSole text slot.placeholder := by
  intro earlier later isEarlier isLater
  have start : slot.offset ≤ earlier := isFirst.offset_le isEarlier
  have nothing : ∀ further, slot.placeholder.token.toList.length - 1 ≤ further →
      ¬slot.placeholder.OccursAt text (slot.offset + 1 + further) := by
    intro further reached
    rw [Placeholder.OccursAt, ← List.drop_drop]
    exact not_prefix_of_occurrencesFrom slot.placeholder.length_token_pos
      after reached
  have positive := slot.placeholder.length_token_pos
  refine Nat.lt_of_not_le fun apart => nothing (later - (slot.offset + 1)) ?_ ?_
  · omega
  · rwa [Nat.add_sub_cancel' (by omega)]

theorem areFirsts_slotsOf {placeholder : Placeholder} {slots : List Slot}
    (ok : slotsOf text placeholder = .ok slots) :
    AreFirsts text [placeholder] slots := by
  unfold slotsOf at ok
  split at ok
  · next none_ =>
      cases ok
      exact areFirsts_of_absent fun place =>
        not_prefix_of_occurrencesFrom placeholder.length_token_pos none_
          (Nat.zero_le place)
  · next offset one =>
      cases ok
      obtain ⟨place, found, -, here, before, after⟩ :=
        exists_of_occurrencesFrom one
      rw [Nat.zero_add] at found
      subst found
      have isFirst : IsFirst text ⟨offset, placeholder⟩ :=
        ⟨here, fun earlier early => before earlier (Nat.zero_le _) early⟩
      exact areFirsts_of_isFirst isFirst (isSole_of_isFirst isFirst after.symm)
  · cases ok

theorem areFirsts_collectSlots {placeholders : List Placeholder}
    {slots : List Slot}
    (ok : collectSlots text placeholders = .ok slots) :
    AreFirsts text placeholders slots := by
  induction placeholders generalizing slots with
  | nil =>
      cases ok
      exact ⟨by simp, List.Sublist.refl _, by simp⟩
  | cons placeholder placeholders induction =>
      simp only [collectSlots] at ok
      split at ok
      · cases ok
      · next own isOwn =>
          split at ok
          · cases ok
          · next others areOthers =>
              cases ok
              have first := areFirsts_slotsOf isOwn
              have rest := induction areOthers
              constructor
              · intro slot
                rw [List.mem_append, first.mem_iff, rest.mem_iff,
                  List.mem_singleton, List.mem_cons, or_and_right]
              · rw [List.map_append, ← List.singleton_append]
                exact first.once.append rest.once
              · intro other member
                rcases List.mem_cons.mp member with rfl | later
                · exact first.sole other List.mem_cons_self
                · exact rest.sole other later

theorem insertSlot_eq (slot : Slot) (slots : List Slot) :
    insertSlot slot slots =
      slots.orderedInsert
        (fun left right => left.offset ≤ right.offset) slot := by
  induction slots with
  | nil => rfl
  | cons first rest induction =>
      rw [insertSlot, List.orderedInsert_cons, induction]

theorem sortSlots_eq (slots : List Slot) :
    sortSlots slots =
      slots.insertionSort fun left right => left.offset ≤ right.offset := by
  induction slots with
  | nil => rfl
  | cons first rest induction =>
      rw [sortSlots, List.foldr_cons, ← sortSlots, induction, insertSlot_eq,
        List.insertionSort_cons]

theorem perm_sortSlots (slots : List Slot) : (sortSlots slots).Perm slots := by
  rw [sortSlots_eq]
  exact List.perm_insertionSort _ _

theorem pairwise_sortSlots (slots : List Slot) :
    (sortSlots slots).Pairwise fun left right =>
      left.offset ≤ right.offset := by
  have total : Std.Total fun left right : Slot => left.offset ≤ right.offset :=
    ⟨fun left right => Nat.le_total left.offset right.offset⟩
  have transitive : IsTrans Slot fun left right => left.offset ≤ right.offset :=
    ⟨fun _ _ _ first second => Nat.le_trans first second⟩
  rw [sortSlots_eq]
  exact List.pairwise_insertionSort _ _

/-- All first occurrences in a text, from left to right. -/
structure AreSorted (text : List Char) (slots : List Slot) : Prop where
  mem_iff : ∀ slot, slot ∈ slots ↔ IsFirst text slot
  sorted : slots.Pairwise fun left right => left.offset < right.offset

theorem areSorted_of_collectSlots {slots : List Slot}
    (ok : collectSlots text Placeholder.all = .ok slots) :
    AreSorted text (sortSlots slots) := by
  have firsts := areFirsts_collectSlots ok
  have isMember : ∀ slot, slot ∈ sortSlots slots ↔ IsFirst text slot := by
    intro slot
    rw [(perm_sortSlots slots).mem_iff, firsts.mem_iff]
    exact ⟨And.right, fun isFirst => ⟨slot.placeholder.mem_all, isFirst⟩⟩
  refine ⟨isMember, ?_⟩
  have different : (sortSlots slots).Nodup :=
    (perm_sortSlots slots).nodup_iff.mpr
      (.of_map _ (firsts.once.nodup (by decide)))
  have both := (pairwise_sortSlots slots).and different
  refine both.imp_of_mem ?_
  rintro left right isLeft isRight ⟨notAfter, apart⟩
  refine Nat.lt_of_le_of_ne notAfter fun same => apart ?_
  exact ((isMember left).mp isLeft).eq_of_offset
    ((isMember right).mp isRight) same

theorem mem_of_mem_dropOverlaps {reached : Nat} {slots : List Slot}
    {slot : Slot}
    (member : slot ∈ dropOverlaps reached slots) :
    slot ∈ slots ∧ reached ≤ slot.offset := by
  induction slots generalizing reached with
  | nil => cases member
  | cons first rest induction =>
      rw [dropOverlaps] at member
      split at member
      · obtain ⟨inside, after⟩ := induction member
        exact ⟨List.mem_cons_of_mem _ inside, after⟩
      · next clear =>
          rcases List.mem_cons.mp member with rfl | later
          · exact ⟨List.mem_cons_self, Nat.le_of_not_lt clear⟩
          · obtain ⟨inside, after⟩ := induction later
            rw [Slot.stop] at after
            exact ⟨List.mem_cons_of_mem _ inside, by omega⟩

/-- A slot that begins where the one before it has stopped is kept. -/
theorem dropOverlaps_of_mem {slots : List Slot}
    (sorted : slots.Pairwise fun left right => left.offset < right.offset)
    {slot : Slot} (member : slot ∈ slots) :
    dropOverlaps slot.offset slots = slot :: dropOverlaps slot.stop slots := by
  have length : slot.offset < slot.stop := by
    have positive := slot.placeholder.length_token_pos
    rw [Slot.stop, ← String.length_toList]
    omega
  induction slots with
  | nil => cases member
  | cons first rest induction =>
      obtain ⟨least, restSorted⟩ := List.pairwise_cons.mp sorted
      rcases List.mem_cons.mp member with rfl | later
      · rw [dropOverlaps, if_neg (Nat.lt_irrefl _), dropOverlaps, if_pos length]
      · have before := least slot later
        rw [dropOverlaps, if_pos before, dropOverlaps,
          if_pos (Nat.lt_trans before length)]
        exact induction restSorted later

theorem dropOverlaps_succ {reached : Nat} {slots : List Slot}
    (absent : ∀ slot ∈ slots, slot.offset ≠ reached) :
    dropOverlaps reached slots = dropOverlaps (reached + 1) slots := by
  induction slots with
  | nil => rfl
  | cons first rest induction =>
      obtain ⟨notFirst, notLater⟩ := List.forall_mem_cons.mp absent
      rw [dropOverlaps, dropOverlaps, induction notLater]
      by_cases before : first.offset < reached
      · rw [if_pos before, if_pos (Nat.lt_succ_of_lt before)]
      · rw [if_neg before, if_neg (by omega)]

theorem dropOverlaps_eq_nil {reached : Nat} {slots : List Slot}
    (before : ∀ slot ∈ slots, slot.offset < reached) :
    dropOverlaps reached slots = [] := by
  induction slots with
  | nil => rfl
  | cons first rest induction =>
      obtain ⟨isBefore, others⟩ := List.forall_mem_cons.mp before
      rw [dropOverlaps, if_pos isBefore, induction others]

theorem exists_of_parse {text : String} {template : Template}
    (parsed : parse text = .ok template) :
    template.text = text.toList ∧
      (∀ placeholder, IsSole text.toList placeholder) ∧
        ∃ slots,
          AreSorted text.toList slots ∧
            template.slots = dropOverlaps 0 slots := by
  unfold parse at parsed
  split at parsed
  · cases parsed
  · next slots collected =>
      cases parsed
      refine ⟨rfl, ?_, sortSlots slots, areSorted_of_collectSlots collected,
        rfl⟩
      intro placeholder
      exact (areFirsts_collectSlots collected).sole placeholder
        placeholder.mem_all

end Template

end LessonSite
