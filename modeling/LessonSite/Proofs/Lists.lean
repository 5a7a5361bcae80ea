import Mathlib.Data.List.Basic

/-!
# Lists that are looked up, lengthened and gone through

A value is looked up by its key, a list is lengthened at its end or read item by
item, and what is said about each character of a text is decided by going
through it.
-/

namespace LessonSite

variable {Item Part Key Value : Type}

theorem mem_of_lookup [BEq Key] [LawfulBEq Key] {key : Key} {value : Value}
    {entries : List (Key × Value)}
    (found : List.lookup key entries = some value) :
    (key, value) ∈ entries := by
  obtain ⟨before, after, rfl, -⟩ := List.lookup_eq_some_iff.mp found
  exact List.mem_append_right _ List.mem_cons_self

theorem lookup_of_mem_of_nodup [BEq Key] [LawfulBEq Key] {key : Key}
    {value : Value} {entries : List (Key × Value)}
    (distinct : (entries.map Prod.fst).Nodup)
    (member : (key, value) ∈ entries) :
    List.lookup key entries = some value := by
  induction entries with
  | nil => cases member
  | cons entry entries induction =>
      obtain ⟨new, distinct⟩ := List.nodup_cons.mp distinct
      rcases List.mem_cons.mp member with rfl | later
      · exact List.lookup_cons_self
      · have different : key ≠ entry.1 := by
          rintro rfl
          exact new (List.mem_map.mpr ⟨_, later, rfl⟩)
        rw [List.lookup_cons, beq_false_of_ne different]
        exact induction distinct later

theorem mem_map_fst_iff [BEq Key] [LawfulBEq Key] {key : Key}
    {entries : List (Key × Value)} :
    key ∈ entries.map Prod.fst ↔
      ∃ value, List.lookup key entries = some value := by
  constructor
  · intro member
    by_contra absent
    have absent : List.lookup key entries = none := by
      simpa [Option.eq_none_iff_forall_ne_some] using absent
    obtain ⟨entry, isEntry, rfl⟩ := List.mem_map.mp member
    exact bne_iff_ne.mp (List.lookup_eq_none_iff.mp absent entry isEntry) rfl
  · rintro ⟨value, found⟩
    exact List.mem_map.mpr ⟨_, mem_of_lookup found, rfl⟩

theorem filterMap_concat (part : Item → Option Part) (items : List Item)
    (item : Item) :
    (items ++ [item]).filterMap part =
      items.filterMap part ++ (part item).toList := by
  cases here : part item <;> simp [here]

/-- Where a list with one more item at its end is divided: at that item or
before it. -/
theorem split_concat {items before after : List Item} {item last : Item}
    (split : items ++ [last] = before ++ item :: after) :
    (items = before ∧ last = item ∧ after = []) ∨
      ∃ rest, after = rest ++ [last] ∧ items = before ++ item :: rest := by
  rcases List.eq_nil_or_concat after with rfl | ⟨rest, other, rfl⟩
  · obtain ⟨same, last⟩ := List.append_inj' split rfl
    exact .inl ⟨same, List.head_eq_of_cons_eq last, rfl⟩
  · rw [List.concat_eq_append, ← List.cons_append, ← List.append_assoc] at split
    obtain ⟨same, last⟩ := List.append_inj' split rfl
    cases last
    exact .inr ⟨rest, List.concat_eq_append, same⟩

/-- One item before another is not concerned by an item that is put in. -/
theorem pair_sublist_insert {one other item : Item} {before after : List Item}
    (first : one ≠ item) (second : other ≠ item) :
    [one, other].Sublist (before ++ item :: after) ↔
      [one, other].Sublist (before ++ after) := by
  classical
  constructor
  · intro within
    have kept := within.filter fun other => decide (other ≠ item)
    rw [List.filter_cons_of_pos (by simpa using first),
      List.filter_cons_of_pos (by simpa using second), List.filter_append,
      List.filter_cons_of_neg (by simp), ← List.filter_append] at kept
    exact kept.trans List.filter_sublist
  · intro within
    exact within.trans
      (List.Sublist.append_left (List.sublist_cons_self item after) before)

/-- What comes before an item that is put in is what it is put behind. -/
theorem pair_sublist_concat_iff {one item : Item} {before after : List Item}
    (fresh : item ∉ before)
    (later : item ∉ after) :
    [one, item].Sublist (before ++ item :: after) ↔ one ∈ before := by
  constructor
  · intro within
    obtain ⟨left, right, same, member, rest⟩ := List.cons_sublist_iff.mp within
    have behind : item ∈ right := List.singleton_sublist.mp rest
    rcases List.append_eq_append_iff.mp same with
      ⟨more, rfl, tail⟩ | ⟨more, rfl, tail⟩
    · cases more with
      | nil => simpa using member
      | cons head more =>
          obtain ⟨rfl, rfl⟩ := List.cons.inj tail
          exact absurd (List.mem_append_right _ behind) later
    · exact List.mem_append_left _ member
  · intro member
    exact List.cons_sublist_iff.mpr ⟨before, item :: after, rfl, member,
      List.singleton_sublist.mpr List.mem_cons_self⟩

theorem any_take_iff {test : Item → Bool} {items : List Item} {count : Nat} :
    (items.take count).any test = true ↔
      ∃ position < count,
        ∃ item, items[position]? = some item ∧ test item = true := by
  rw [List.any_eq_true]
  constructor
  · rintro ⟨item, member, holds⟩
    obtain ⟨position, here⟩ := List.mem_iff_getElem?.mp member
    rw [List.getElem?_take] at here
    split at here
    · next before => exact ⟨position, before, item, here, holds⟩
    · cases here
  · rintro ⟨position, before, item, here, holds⟩
    refine ⟨item, List.mem_iff_getElem?.mpr ⟨position, ?_⟩, holds⟩
    rw [List.getElem?_take, if_pos before, here]

theorem filter_intercalate {test : Item → Bool} {separator : Item}
    (omitted : test separator = false) (blocks : List (List Item)) :
    ([separator].intercalate blocks).filter test =
      blocks.flatMap (List.filter test) := by
  induction blocks with
  | nil => rfl
  | cons block blocks induction =>
      by_cases last : blocks = []
      · rw [last, List.intercalate_singleton, List.flatMap_singleton]
      · rw [List.intercalate_cons_of_ne_nil last, List.filter_append,
          List.filter_append, induction,
          List.filter_cons_of_neg (by simp [omitted]), List.filter_nil,
          List.append_nil, List.flatMap_cons]

/-- Blocks with a separator between them are known from the whole if it is known
how long they are. -/
theorem intercalate_injective {Source : Type} {separator : List Item}
    {sources : List Source} {first second : Source → List Item}
    (length : ∀ source ∈ sources,
      (first source).length = (second source).length)
    (same : separator.intercalate (sources.map first) =
      separator.intercalate (sources.map second)) :
    ∀ source ∈ sources, first source = second source := by
  induction sources with
  | nil => nofun
  | cons source sources induction =>
      obtain ⟨here, later⟩ := List.forall_mem_cons.mp length
      rw [List.map_cons, List.map_cons] at same
      by_cases last : sources = []
      · subst last
        rw [List.map_nil, List.map_nil, List.intercalate_singleton,
          List.intercalate_singleton] at same
        simpa using same
      · rw [List.intercalate_cons_of_ne_nil (by simpa using last),
          List.intercalate_cons_of_ne_nil (by simpa using last),
          List.append_assoc, List.append_assoc] at same
        obtain ⟨block, rest⟩ := List.append_inj same here
        exact List.forall_mem_cons.mpr
          ⟨block, induction later (List.append_cancel_left rest)⟩

/-- Reading every item of a list that has been written item by item. -/
theorem mapM_map_eq_some {write : Item → Part} {read : Part → Option Item}
    {items : List Item} (back : ∀ item ∈ items, read (write item) = some item) :
    (items.map write).mapM read = some items := by
  induction items with
  | nil => rfl
  | cons item items induction =>
      rw [List.map_cons, List.mapM_cons, back item List.mem_cons_self,
        induction fun other member =>
          back other (List.mem_cons_of_mem _ member)]
      rfl

theorem mem_of_mapM_eq_some {read : Part → Option Item} {parts : List Part}
    {items : List Item}
    (reads : parts.mapM read = some items) {item : Item}
    (member : item ∈ items) :
    ∃ part ∈ parts, read part = some item := by
  induction parts generalizing items with
  | nil =>
      cases reads
      cases member
  | cons part parts induction =>
      rw [List.mapM_cons] at reads
      obtain ⟨first, one, reads⟩ := Option.bind_eq_some_iff.mp reads
      obtain ⟨others, rest, reads⟩ := Option.bind_eq_some_iff.mp reads
      cases reads
      rcases List.mem_cons.mp member with rfl | later
      · exact ⟨part, List.mem_cons_self, one⟩
      · obtain ⟨other, inside, same⟩ := induction rest later
        exact ⟨other, List.mem_cons_of_mem _ inside, same⟩

theorem length_of_mapM_eq_some {read : Part → Option Item} {parts : List Part}
    {items : List Item}
    (reads : parts.mapM read = some items) : items.length = parts.length := by
  induction parts generalizing items with
  | nil =>
      cases reads
      rfl
  | cons part parts induction =>
      rw [List.mapM_cons] at reads
      obtain ⟨first, one, reads⟩ := Option.bind_eq_some_iff.mp reads
      obtain ⟨others, rest, reads⟩ := Option.bind_eq_some_iff.mp reads
      cases reads
      rw [List.length_cons, List.length_cons, induction rest]

namespace Text

/-- What is said about each character of a text is decided on the text; another
instance goes through all characters there are. -/
instance (priority := high) decidableEach (said : Char → Prop)
    [DecidablePred said] (text : List Char) :
    Decidable (∀ character ∈ text, said character) :=
  List.decidableBAll said text

instance (priority := high) decidableOne (said : Char → Prop)
    [DecidablePred said] (character? : Option Char) :
    Decidable (∀ character ∈ character?, said character) :=
  character?.decidableForallMem

end Text

end LessonSite
