import LessonSite.Proofs.Template.Slots

/-!
# Filling a text in a single pass

Going through a text from left to right, each token met is replaced by its value
and the characters between are copied.  A parsed template renders the same text,
unless the pass meets a token that has begun before, inside another one: of two
occurrences that share a percent sign the template knows the earlier one only.
-/

namespace LessonSite

namespace Placeholder

/-- The placeholder whose token the text begins with. -/
def atStart? (text : List Char) : Option Placeholder :=
  all.find? fun placeholder => placeholder.token.toList.isPrefixOf text

private theorem prefix_of_atStart? {text : List Char}
    {placeholder : Placeholder}
    (found : atStart? text = some placeholder) :
    placeholder.token.toList <+: text := by
  unfold atStart? at found
  have starts := List.find?_some found
  exact List.isPrefixOf_iff_prefix.mp starts

theorem atStart?_eq_some_iff {text : List Char} {placeholder : Placeholder} :
    atStart? text = some placeholder ↔ placeholder.token.toList <+: text := by
  constructor
  · exact prefix_of_atStart?
  · intro starts
    have some_ : (atStart? text).isSome := by
      rw [atStart?, List.find?_isSome]
      exact ⟨placeholder, placeholder.mem_all,
        List.isPrefixOf_iff_prefix.mpr starts⟩
    obtain ⟨other, found⟩ := Option.isSome_iff_exists.mp some_
    rw [found, eq_of_prefix starts (prefix_of_atStart? found)]

theorem not_prefix_of_atStart?_eq_none {text : List Char}
    (none_ : atStart? text = none)
    (placeholder : Placeholder) : ¬placeholder.token.toList <+: text := by
  intro starts
  rw [atStart?_eq_some_iff.mpr starts] at none_
  cases none_

end Placeholder

namespace Template

/-- The text with the tokens in it replaced in one pass from left to right. -/
def fillOnce (filling : Filling) : List Char → List Char
  | [] => []
  | character :: rest =>
      match Placeholder.atStart? (character :: rest) with
      | some placeholder =>
          (filling.value placeholder).toList ++
            fillOnce filling
              ((character :: rest).drop placeholder.token.toList.length)
      | none => character :: fillOnce filling rest
termination_by text => text.length
decreasing_by
  · have positive := placeholder.length_token_pos
    rw [List.length_drop, List.length_cons]
    omega
  · exact Nat.lt_succ_self _

/-- The tokens that the pass meets in a text that starts at `offset`. -/
def holesFrom (offset : Nat) : List Char → List Slot
  | [] => []
  | character :: rest =>
      match Placeholder.atStart? (character :: rest) with
      | some placeholder =>
          ⟨offset, placeholder⟩ ::
            holesFrom (offset + placeholder.token.toList.length)
              ((character :: rest).drop placeholder.token.toList.length)
      | none => holesFrom (offset + 1) rest
termination_by text => text.length
decreasing_by
  · have positive := placeholder.length_token_pos
    rw [List.length_drop, List.length_cons]
    omega
  · exact Nat.lt_succ_self _

section Equations

variable {character : Char} {rest : List Char} {placeholder : Placeholder}

theorem fillOnce_token (filling : Filling)
    (found : Placeholder.atStart? (character :: rest) = some placeholder) :
    fillOnce filling (character :: rest) =
      (filling.value placeholder).toList ++
        fillOnce filling
          ((character :: rest).drop placeholder.token.toList.length) := by
  simp only [fillOnce, found]

theorem fillOnce_character (filling : Filling)
    (none_ : Placeholder.atStart? (character :: rest) = none) :
    fillOnce filling (character :: rest) =
      character :: fillOnce filling rest := by
  simp only [fillOnce, none_]

theorem holesFrom_token (offset : Nat)
    (found : Placeholder.atStart? (character :: rest) = some placeholder) :
    holesFrom offset (character :: rest) =
      ⟨offset, placeholder⟩ ::
        holesFrom (offset + placeholder.token.toList.length)
          ((character :: rest).drop placeholder.token.toList.length) := by
  simp only [holesFrom, found]

theorem holesFrom_character (offset : Nat)
    (none_ : Placeholder.atStart? (character :: rest) = none) :
    holesFrom offset (character :: rest) = holesFrom (offset + 1) rest := by
  simp only [holesFrom, none_]

end Equations

variable {text : List Char}

private theorem drop_succ {offset : Nat} {character : Char} {rest : List Char}
    (here : text.drop offset = character :: rest) :
    text.drop (offset + 1) = rest := by
  rw [← List.drop_drop, here, List.drop_succ_cons, List.drop_zero]

theorem occursAt_of_mem_holesFrom {offset : Nat} {rest : List Char}
    (here : text.drop offset = rest)
    {hole : Slot} (member : hole ∈ holesFrom offset rest) :
    offset ≤ hole.offset ∧ hole.placeholder.OccursAt text hole.offset := by
  induction offset, rest using holesFrom.induct with
  | case1 offset =>
      rw [holesFrom] at member
      cases member
  | case2 offset character rest placeholder found induction =>
      rw [holesFrom_token offset found] at member
      rcases List.mem_cons.mp member with rfl | later
      · refine ⟨Nat.le_refl _, ?_⟩
        rw [Placeholder.OccursAt, here]
        exact Placeholder.atStart?_eq_some_iff.mp found
      · obtain ⟨after, occurs⟩ :=
          induction (by rw [← List.drop_drop, here]) later
        exact ⟨Nat.le_of_add_right_le after, occurs⟩
  | case3 offset character rest none_ induction =>
      rw [holesFrom_character offset none_] at member
      obtain ⟨after, occurs⟩ := induction (drop_succ here) member
      exact ⟨Nat.le_of_succ_le after, occurs⟩

private theorem renderFrom_succ (filling : Filling) {offset : Nat}
    {character : Char}
    {rest : List Char} (here : text.drop offset = character :: rest)
    {slots : List Slot} (later : ∀ slot ∈ slots, offset < slot.offset) :
    renderFrom text filling offset slots =
      character :: renderFrom text filling (offset + 1) slots := by
  cases slots with
  | nil => rw [renderFrom, renderFrom, drop_succ here, here]
  | cons slot slots =>
      have before := later slot List.mem_cons_self
      have size :
          slot.offset - offset = slot.offset - (offset + 1) + 1 := by omega
      rw [renderFrom, renderFrom, here, drop_succ here, size,
        List.take_succ_cons, List.cons_append, List.cons_append]

theorem renderFrom_holesFrom (filling : Filling) {offset : Nat}
    {rest : List Char} (here : text.drop offset = rest) :
    renderFrom text filling offset (holesFrom offset rest) =
      fillOnce filling rest := by
  induction offset, rest using holesFrom.induct with
  | case1 offset => rw [holesFrom, fillOnce, renderFrom, here]
  | case2 offset character rest placeholder found induction =>
      have after := induction (by rw [← List.drop_drop, here])
      rw [holesFrom_token offset found, fillOnce_token filling found, ← after,
        renderFrom, Nat.sub_self, List.take_zero, List.nil_append, Slot.stop,
        ← String.length_toList]
  | case3 offset character rest none_ induction =>
      have later : ∀ hole ∈ holesFrom (offset + 1) rest, offset < hole.offset :=
        fun hole member => (occursAt_of_mem_holesFrom (drop_succ here) member).1
      rw [holesFrom_character offset none_, fillOnce_character filling none_,
        renderFrom_succ filling here later, induction (drop_succ here)]

variable {slots : List Slot}

private theorem dropOverlaps_of_isFirst (areSorted : AreSorted text slots)
    {offset : Nat}
    {placeholder : Placeholder} (isFirst : IsFirst text ⟨offset, placeholder⟩) :
    dropOverlaps offset slots =
      ⟨offset, placeholder⟩ ::
        dropOverlaps (offset + placeholder.token.toList.length) slots := by
  have kept :=
    dropOverlaps_of_mem areSorted.sorted ((areSorted.mem_iff _).mpr isFirst)
  rwa [Slot.stop, ← String.length_toList] at kept

private theorem dropOverlaps_character (areSorted : AreSorted text slots)
    {offset : Nat}
    {character : Char} {rest : List Char}
    (here : text.drop offset = character :: rest)
    (none_ : Placeholder.atStart? (character :: rest) = none) :
    dropOverlaps offset slots = dropOverlaps (offset + 1) slots := by
  apply dropOverlaps_succ
  rintro slot member rfl
  have occurs := ((areSorted.mem_iff slot).mp member).occurs
  rw [Placeholder.OccursAt, here] at occurs
  exact Placeholder.not_prefix_of_atStart?_eq_none none_ _ occurs

private theorem isFirst_of_kept (areSorted : AreSorted text slots) {slot : Slot}
    {offset : Nat}
    (isKept : slot ∈ dropOverlaps offset slots)
    (occurs : slot.placeholder.OccursAt text offset) :
    IsFirst text ⟨offset, slot.placeholder⟩ := by
  obtain ⟨isSlot, notBefore⟩ := mem_of_mem_dropOverlaps isKept
  have isFirst := (areSorted.mem_iff slot).mp isSlot
  have same : offset = slot.offset :=
    Nat.le_antisymm notBefore (isFirst.offset_le occurs)
  subst same
  exact isFirst

/-- When the pass meets first occurrences only, the template has its holes. -/
theorem dropOverlaps_eq_holesFrom (areSorted : AreSorted text slots)
    {offset : Nat} {rest : List Char} (here : text.drop offset = rest)
    (firsts : ∀ hole ∈ holesFrom offset rest, IsFirst text hole) :
    dropOverlaps offset slots = holesFrom offset rest := by
  induction offset, rest using holesFrom.induct with
  | case1 offset =>
      rw [holesFrom]
      apply dropOverlaps_eq_nil
      intro slot member
      have inside := ((areSorted.mem_iff slot).mp member).occurs.lt_length
      exact Nat.lt_of_lt_of_le inside (List.drop_eq_nil_iff.mp here)
  | case2 offset character rest placeholder found induction =>
      rw [holesFrom_token offset found] at firsts ⊢
      obtain ⟨isFirst, others⟩ := List.forall_mem_cons.mp firsts
      rw [dropOverlaps_of_isFirst areSorted isFirst,
        induction (by rw [← List.drop_drop, here]) others]
  | case3 offset character rest none_ induction =>
      rw [holesFrom_character offset none_] at firsts ⊢
      rw [dropOverlaps_character areSorted here none_,
        induction (drop_succ here) firsts]

/-- When the template knows every placeholder that the pass meets, the pass
meets first occurrences only. -/
theorem isFirst_of_mem_holesFrom (areSorted : AreSorted text slots)
    (sole : ∀ placeholder, IsSole text placeholder) {offset : Nat}
    {rest : List Char} (here : text.drop offset = rest)
    (known : ∀ hole ∈ holesFrom offset rest, ∃ slot ∈ dropOverlaps offset slots,
      slot.placeholder = hole.placeholder) :
    ∀ hole ∈ holesFrom offset rest, IsFirst text hole := by
  induction offset, rest using holesFrom.induct with
  | case1 offset =>
      rw [holesFrom]
      simp
  | case2 offset character rest placeholder found induction =>
      have after : text.drop (offset + placeholder.token.toList.length) =
          (character :: rest).drop placeholder.token.toList.length := by
        rw [← List.drop_drop, here]
      have occurs : placeholder.OccursAt text offset := by
        rw [Placeholder.OccursAt, here]
        exact Placeholder.atStart?_eq_some_iff.mp found
      rw [holesFrom_token offset found] at known ⊢
      obtain ⟨⟨slot, isKept, same⟩, others⟩ := List.forall_mem_cons.mp known
      have isFirst : IsFirst text ⟨offset, placeholder⟩ := by
        subst same
        exact isFirst_of_kept areSorted isKept occurs
      have kept := dropOverlaps_of_isFirst areSorted isFirst
      refine List.forall_mem_cons.mpr ⟨isFirst, induction after ?_⟩
      intro hole member
      obtain ⟨slot, isKept, same⟩ := others hole member
      rw [kept] at isKept
      rcases List.mem_cons.mp isKept with rfl | later
      · obtain ⟨apart, again⟩ := occursAt_of_mem_holesFrom after member
        rw [← same] at again
        exact absurd (sole placeholder offset hole.offset occurs again)
          (Nat.not_lt.mpr apart)
      · exact ⟨slot, later, same⟩
  | case3 offset character rest none_ induction =>
      rw [holesFrom_character offset none_] at known ⊢
      apply induction (drop_succ here)
      intro hole member
      obtain ⟨slot, isKept, same⟩ := known hole member
      rw [dropOverlaps_character areSorted here none_] at isKept
      exact ⟨slot, isKept, same⟩

/-- Each slot of a placeholder makes the text longer when the placeholder has a
value. -/
theorem length_renderFrom (placeholder : Placeholder) (offset : Nat)
    (slots : List Slot) :
    (renderFrom text [(placeholder, "x")] offset slots).length =
      (renderFrom text [] offset slots).length +
        (slots.map Slot.placeholder).count placeholder := by
  have value :
      ∀ other, (Filling.value [(placeholder, "x")] other).toList.length =
        (Filling.value [] other).toList.length +
          if other = placeholder then 1 else 0 := by
    intro other
    by_cases same : other = placeholder
    · subst same
      simp [Filling.value]
    · have different : (other == placeholder) = false :=
        beq_eq_false_iff_ne.mpr same
      simp [Filling.value, List.lookup_cons, different, same]
  induction slots generalizing offset with
  | nil => rfl
  | cons slot slots induction =>
      simp only [renderFrom, List.length_append, List.map_cons, List.count_cons,
        induction, value, beq_iff_eq]
      omega

/-- A template is filled in a single pass just if the pass meets no token that
has begun before. -/
theorem render_eq_fillOnce_iff {text : String} {template : Template}
    (parsed : parse text = .ok template) :
    (∀ filling,
        template.render filling =
          String.ofList (fillOnce filling text.toList)) ↔
      ∀ hole ∈ holesFrom 0 text.toList, ∀ earlier < hole.offset,
        ¬hole.placeholder.OccursAt text.toList earlier := by
  obtain ⟨isText, sole, slots, areSorted, areSlots⟩ := exists_of_parse parsed
  have start : text.toList.drop 0 = text.toList := List.drop_zero
  have pass :
      ∀ filling, renderFrom text.toList filling 0 (holesFrom 0 text.toList) =
        fillOnce filling text.toList := fun filling =>
          renderFrom_holesFrom filling start
  constructor
  · intro agree hole member
    have rendered : ∀ filling, renderFrom text.toList filling 0 template.slots =
        renderFrom text.toList filling 0 (holesFrom 0 text.toList) := by
      intro filling
      rw [pass]
      apply String.ofList_injective
      rw [← agree filling, render, isText]
    have known :
        ∀ hole ∈ holesFrom 0 text.toList, ∃ slot ∈ dropOverlaps 0 slots,
          slot.placeholder = hole.placeholder := by
      intro hole member
      have filled :=
        @length_renderFrom text.toList hole.placeholder 0 template.slots
      rw [rendered, rendered, length_renderFrom, areSlots] at filled
      have counted := Nat.add_left_cancel filled
      have positive :=
        List.count_pos_iff.mpr
          (List.mem_map_of_mem (f := Slot.placeholder) member)
      rw [counted] at positive
      obtain ⟨slot, isSlot, same⟩ :=
        List.mem_map.mp (List.count_pos_iff.mp positive)
      exact ⟨slot, isSlot, same⟩
    exact (isFirst_of_mem_holesFrom areSorted sole start known hole
      member).first
  · intro firsts filling
    have areFirst :
        ∀ hole ∈ holesFrom 0 text.toList, IsFirst text.toList hole :=
      fun hole member =>
        ⟨(occursAt_of_mem_holesFrom start member).2, firsts hole member⟩
    rw [render, areSlots, isText,
      dropOverlaps_eq_holesFrom areSorted start areFirst, pass]

/-- In a chain of three tokens the middle one is passed over. -/
theorem render_eq_fillOnce_chain :
    ∃ template, parse "%TITLE%TOC%CODE%" = .ok template ∧
      ∀ filling, template.render filling =
        String.ofList (fillOnce filling "%TITLE%TOC%CODE%".toList) := by
  have parsed : parse "%TITLE%TOC%CODE%" =
      .ok ⟨"%TITLE%TOC%CODE%".toList, [⟨0, .title⟩, ⟨10, .code⟩]⟩ := by decide
  exact ⟨_, parsed, (render_eq_fillOnce_iff parsed).mpr (by decide +kernel)⟩

/-- The pass meets the second of two occurrences that share a percent sign,
where the first one is passed over. -/
theorem render_ne_fillOnce_sharedPercent :
    ∃ template, parse "%TOC%TITLE%TITLE%" = .ok template ∧
      template.render [(.toc, "X"), (.title, "T")] = "XTITLE%TITLE%" ∧
      String.ofList
          (fillOnce [(.toc, "X"), (.title, "T")] "%TOC%TITLE%TITLE%".toList) =
        "XTITLET" := by
  refine ⟨⟨"%TOC%TITLE%TITLE%".toList, [⟨0, .toc⟩]⟩, ?_, ?_, ?_⟩
  · decide
  · decide
  · decide +kernel

end Template

end LessonSite
