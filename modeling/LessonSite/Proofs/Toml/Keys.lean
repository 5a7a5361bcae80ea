import LessonSite.Proofs.Lists
import LessonSite.Toml.Document
import Mathlib.Data.List.Nodup

/-!
# Keys

A table gives each of its keys one value.  Every document that can be read keeps
to this, in the tables that are put together from headings and dotted keys and
in those of one line.
-/

namespace LessonSite.Toml

/-- In no table within the value does a key occur twice. -/
inductive Value.HasDistinctKeys : Value → Prop
  | string {text : String} : (Value.string text).HasDistinctKeys
  | integer {number : Int} : (Value.integer number).HasDistinctKeys
  | float {number : Double} : (Value.float number).HasDistinctKeys
  | boolean {flag : Bool} : (Value.boolean flag).HasDistinctKeys
  | datetime {text : String} : (Value.datetime text).HasDistinctKeys
  | array {values : List Value}
      (inner : ∀ value ∈ values, value.HasDistinctKeys) :
      (Value.array values).HasDistinctKeys
  | table {entries : Entries} (distinct : (entries.map Prod.fst).Nodup)
      (inner : ∀ entry ∈ entries, entry.2.HasDistinctKeys) :
      (Value.table entries).HasDistinctKeys

@[simp] theorem Value.hasDistinctKeys_table_iff {entries : Entries} :
    (Value.table entries).HasDistinctKeys ↔
      (entries.map Prod.fst).Nodup ∧
        ∀ entry ∈ entries, entry.2.HasDistinctKeys := by
  constructor
  · intro distinct
    cases distinct with
    | table distinct inner => exact ⟨distinct, inner⟩
  · rintro ⟨distinct, inner⟩
    exact .table distinct inner

/-- In no table under construction does a key occur twice, nor in a value within
it. -/
inductive Item.HasDistinctKeys : Item → Prop
  | value {value : Value} (inner : value.HasDistinctKeys) :
      (Item.value value).HasDistinctKeys
  | table {origin : Origin} {entries : List (String × Item)}
      (distinct : (entries.map Prod.fst).Nodup)
      (inner : ∀ entry ∈ entries, entry.2.HasDistinctKeys) :
      (Item.table origin entries).HasDistinctKeys
  | tables {elements : List (List (String × Item))}
      (inner : ∀ entries ∈ elements,
        (Item.table .heading entries).HasDistinctKeys) :
      (Item.tables elements).HasDistinctKeys

/-- The entries are those of a table under construction in which no key occurs
twice. -/
structure AreDistinct (entries : List (String × Item)) : Prop where
  keys : (entries.map Prod.fst).Nodup
  inner : ∀ entry ∈ entries, entry.2.HasDistinctKeys

section

variable {entries inner result : List (String × Item)}
  {elements : List (List (String × Item))}
  {key : String} {path : List String} {item : Item} {value : Value}
  {origin : Origin}

theorem Item.hasDistinctKeys_value_iff :
    (Item.value value).HasDistinctKeys ↔ value.HasDistinctKeys := by
  constructor
  · intro distinct
    cases distinct with
    | value inner => exact inner
  · exact .value

theorem Item.hasDistinctKeys_table_iff :
    (Item.table origin entries).HasDistinctKeys ↔ AreDistinct entries := by
  constructor
  · intro distinct
    cases distinct with
    | table distinct inner => exact ⟨distinct, inner⟩
  · intro distinct
    exact .table distinct.keys distinct.inner

theorem Item.hasDistinctKeys_tables_iff :
    (Item.tables elements).HasDistinctKeys ↔
      ∀ entries ∈ elements, AreDistinct entries := by
  constructor
  · intro distinct entries member
    cases distinct with
    | tables inner =>
        exact Item.hasDistinctKeys_table_iff.mp (inner entries member)
  · intro distinct
    exact .tables fun entries member =>
      Item.hasDistinctKeys_table_iff.mpr (distinct entries member)

theorem areDistinct_nil : AreDistinct [] :=
  ⟨List.nodup_nil, fun _ member => absurd member List.not_mem_nil⟩

theorem AreDistinct.concat (distinct : AreDistinct entries)
    (new : List.lookup key entries = none)
    (inner : item.HasDistinctKeys) :
    AreDistinct (entries ++ [(key, item)]) := by
  constructor
  · rw [List.map_append, List.nodup_append]
    refine ⟨distinct.keys, List.nodup_singleton _, ?_⟩
    rintro other member last isLast rfl
    obtain ⟨entry, isEntry, rfl⟩ := List.mem_map.mp member
    have different := List.lookup_eq_none_iff.mp new entry isEntry
    rw [List.mem_singleton.mp isLast] at different
    simp at different
  · intro entry member
    rcases List.mem_append.mp member with member | member
    · exact distinct.inner entry member
    · rwa [List.mem_singleton.mp member]

theorem mem_setItem {entry : String × Item}
    (member : entry ∈ setItem key item entries) :
    entry = (key, item) ∨ entry ∈ entries := by
  induction entries with
  | nil => exact .inl (List.mem_singleton.mp member)
  | cons present entries induction =>
      rw [setItem] at member
      split at member
      · exact (List.mem_cons.mp member).imp_right (List.mem_cons_of_mem _)
      · rcases List.mem_cons.mp member with rfl | member
        · exact .inr List.mem_cons_self
        · exact (induction member).imp_right (List.mem_cons_of_mem _)

theorem AreDistinct.setItem (distinct : AreDistinct entries)
    (inner : item.HasDistinctKeys) :
    AreDistinct (setItem key item entries) := by
  refine ⟨?_, fun entry member => ?_⟩
  · have keys := distinct.keys
    clear distinct
    induction entries with
    | nil => exact List.nodup_singleton _
    | cons present entries induction =>
        obtain ⟨new, keys⟩ := List.nodup_cons.mp keys
        rw [Toml.setItem]
        split
        · next same => exact List.nodup_cons.mpr ⟨same ▸ new, keys⟩
        · next different =>
            refine List.nodup_cons.mpr ⟨fun member => ?_, induction keys⟩
            obtain ⟨entry, member, same⟩ := List.mem_map.mp member
            rcases mem_setItem member with rfl | member
            · exact different same.symm
            · exact new (same ▸ List.mem_map_of_mem member)
  · rcases mem_setItem member with rfl | member
    · exact inner
    · exact distinct.inner entry member

theorem AreDistinct.lookup (distinct : AreDistinct entries)
    (found : List.lookup key entries = some item) :
    item.HasDistinctKeys :=
  distinct.inner _ (mem_of_lookup found)

theorem AreDistinct.table (distinct : AreDistinct entries)
    (found : List.lookup key entries = some (.table origin inner)) :
    AreDistinct inner :=
  Item.hasDistinctKeys_table_iff.mp (distinct.lookup found)

theorem AreDistinct.last (distinct : AreDistinct entries)
    (found : List.lookup key entries = some (.tables elements))
    (last : elements.getLast? = some inner) :
    AreDistinct inner :=
  Item.hasDistinctKeys_tables_iff.mp (distinct.lookup found) inner
    (List.mem_of_getLast? last)

theorem AreDistinct.setLast (distinct : AreDistinct entries)
    (found : List.lookup key entries = some (.tables elements))
    (last : AreDistinct inner) :
    AreDistinct
      (Toml.setItem key (.tables (elements.dropLast ++ [inner])) entries) := by
  refine distinct.setItem
    (Item.hasDistinctKeys_tables_iff.mpr fun element member => ?_)
  rcases List.mem_append.mp member with member | member
  · exact Item.hasDistinctKeys_tables_iff.mp (distinct.lookup found) element
      (List.dropLast_subset _ member)
  · rwa [List.mem_singleton.mp member]

theorem areDistinct_insertValue (distinct : AreDistinct entries)
    (inner : value.HasDistinctKeys)
    (inserted : insertValue value path entries = some result) :
    AreDistinct result := by
  fun_induction insertValue value path entries generalizing result
  case case1 => cases inserted
  case case2 => cases inserted
  case case3 key entries absent =>
      cases inserted
      exact distinct.concat (Option.not_isSome_iff_eq_none.mp absent)
        (.value inner)
  case case4 key next path entries absent induction =>
      obtain ⟨group, begun, ⟨⟩⟩ := Option.bind_eq_some_iff.mp inserted
      exact distinct.concat absent
        (Item.hasDistinctKeys_table_iff.mpr (induction areDistinct_nil begun))
  case case5 => cases inserted
  case case6 key next path entries origin group found extensible induction =>
      obtain ⟨changed, continued, ⟨⟩⟩ := Option.bind_eq_some_iff.mp inserted
      exact distinct.setItem
        (Item.hasDistinctKeys_table_iff.mpr
          (induction (distinct.table found) continued))
  case case7 key next entries elements found last head tail isLast induction =>
      obtain ⟨changed, continued, ⟨⟩⟩ := Option.bind_eq_some_iff.mp inserted
      exact distinct.setLast found
        (induction (distinct.last found isLast) continued)
  case case8 => cases inserted
  case case9 => cases inserted

/-- A change of one table leaves the keys of the whole document distinct if it
leaves those of the table so. -/
theorem areDistinct_changeAt
    {change : List (String × Item) → Option (List (String × Item))}
    (keeps : ∀ {entries result},
      AreDistinct entries → change entries = some result → AreDistinct result)
    (distinct : AreDistinct entries)
    (changed : changeAt change path entries = some result) :
    AreDistinct result := by
  fun_induction changeAt change path entries generalizing result
  case case1 => exact keeps distinct changed
  case case2 key path entries absent induction =>
      obtain ⟨group, begun, ⟨⟩⟩ := Option.bind_eq_some_iff.mp changed
      exact distinct.concat absent
        (Item.hasDistinctKeys_table_iff.mpr (induction areDistinct_nil begun))
  case case3 key path entries origin group found induction =>
      obtain ⟨group, continued, ⟨⟩⟩ := Option.bind_eq_some_iff.mp changed
      exact distinct.setItem
        (Item.hasDistinctKeys_table_iff.mpr
          (induction (distinct.table found) continued))
  case case4 key path entries elements found last isLast induction =>
      obtain ⟨group, continued, ⟨⟩⟩ := Option.bind_eq_some_iff.mp changed
      exact distinct.setLast found
        (induction (distinct.last found isLast) continued)
  case case5 => cases changed
  case case6 => cases changed

theorem areDistinct_beginTable (distinct : AreDistinct entries)
    (begun : beginTable key entries = some result) :
    AreDistinct result := by
  rw [beginTable] at begun
  split at begun
  · next absent =>
      cases begun
      exact distinct.concat absent
        (Item.hasDistinctKeys_table_iff.mpr areDistinct_nil)
  · next inner found =>
      cases begun
      exact distinct.setItem
        (Item.hasDistinctKeys_table_iff.mpr (distinct.table found))
  · cases begun

theorem areDistinct_beginElement (distinct : AreDistinct entries)
    (begun : beginElement key entries = some result) : AreDistinct result := by
  have single : (Item.tables [[]]).HasDistinctKeys := by
    simp [Item.hasDistinctKeys_tables_iff, areDistinct_nil]
  rw [beginElement] at begun
  split at begun
  · next absent =>
      cases begun
      exact distinct.concat absent single
  · next elements found =>
      cases begun
      refine distinct.setItem
        (Item.hasDistinctKeys_tables_iff.mpr fun element member => ?_)
      rcases List.mem_append.mp member with member | member
      · exact Item.hasDistinctKeys_tables_iff.mp (distinct.lookup found)
          element member
      · exact Item.hasDistinctKeys_tables_iff.mp single element member
  · cases begun

end

theorem keys_finishEntries (entries : List (String × Item)) :
    (finishEntries entries).map Prod.fst = entries.map Prod.fst := by
  induction entries with
  | nil => rfl
  | cons entry entries induction =>
      rw [finishEntries, List.map_cons, List.map_cons, induction]

mutual

theorem Item.hasDistinctKeys_toValue (item : Item)
    (distinct : item.HasDistinctKeys) :
    item.toValue.HasDistinctKeys := by
  cases item with
  | value value => exact Item.hasDistinctKeys_value_iff.mp distinct
  | table origin entries =>
      exact hasDistinctKeys_finishEntries entries
        (Item.hasDistinctKeys_table_iff.mp distinct)
  | tables elements =>
      exact .array
        (hasDistinctKeys_finishElements elements
          (Item.hasDistinctKeys_tables_iff.mp distinct))

theorem hasDistinctKeys_finishEntries (entries : List (String × Item))
    (distinct : AreDistinct entries) :
    (Value.table (finishEntries entries)).HasDistinctKeys := by
  refine .table (keys_finishEntries entries ▸ distinct.keys) ?_
  cases entries with
  | nil => exact fun _ member => absurd member List.not_mem_nil
  | cons entry entries =>
      -- The whole table is finished entry by entry, so the tables of its later
      -- entries are finished with it.
      have later : AreDistinct entries :=
        ⟨(List.nodup_cons.mp distinct.keys).2, fun other member =>
          distinct.inner other (List.mem_cons_of_mem _ member)⟩
      intro finished member
      rcases List.mem_cons.mp member with rfl | member
      · exact Item.hasDistinctKeys_toValue entry.2
          (distinct.inner entry List.mem_cons_self)
      · have rest := hasDistinctKeys_finishEntries entries later
        exact (Value.hasDistinctKeys_table_iff.mp rest).2 finished member

theorem hasDistinctKeys_finishElements (elements : List (List (String × Item)))
    (distinct : ∀ entries ∈ elements, AreDistinct entries) :
    ∀ value ∈ finishElements elements, value.HasDistinctKeys := by
  cases elements with
  | nil => exact fun _ member => absurd member List.not_mem_nil
  | cons entries elements =>
      intro value member
      rcases List.mem_cons.mp member with rfl | member
      · exact hasDistinctKeys_finishEntries entries
          (distinct entries List.mem_cons_self)
      · exact hasDistinctKeys_finishElements elements
          (fun entries later => distinct entries (List.mem_cons_of_mem _ later))
          value member

end

/-- What the reader returns has distinct keys. -/
def KeepsKeysDistinct (read : List Char → Option (Value × List Char)) : Prop :=
  ∀ {input value rest}, read input = some (value, rest) → value.HasDistinctKeys

variable {read : List Char → Option (Value × List Char)}
  {input rest : List Char} {value : Value}

theorem keepsKeysDistinct_readBased (base : Nat) :
    KeepsKeysDistinct (readBased base) := by
  intro input value rest result
  simp only [readBased, Option.bind_eq_bind, Option.bind_eq_some_iff] at result
  obtain ⟨digits, -, number, -, ⟨⟩⟩ := result
  exact .integer

theorem hasDistinctKeys_toFloat {negative : Bool} {digits : List Char}
    {scale : Int}
    (result : toFloat negative digits scale = some value) :
    value.HasDistinctKeys := by
  rw [toFloat] at result
  split at result
  · cases result
  · cases result
    exact .float

theorem keepsKeysDistinct_readDecimal : KeepsKeysDistinct readDecimal := by
  intro input value rest result
  simp only [readDecimal, Option.bind_eq_bind,
    Option.bind_eq_some_iff] at result
  obtain ⟨whole, -, result⟩ := result
  split at result
  · simp only [Option.bind_eq_some_iff] at result
    obtain ⟨fraction, -, exponent, -, number, isFloat, ⟨⟩⟩ := result
    exact hasDistinctKeys_toFloat isFloat
  · simp only [Option.bind_eq_some_iff] at result
    obtain ⟨⟨exponent, after⟩, -, result⟩ := result
    cases exponent with
    | some exponent =>
        obtain ⟨number, isFloat, ⟨⟩⟩ := Option.bind_eq_some_iff.mp result
        exact hasDistinctKeys_toFloat isFloat
    | none =>
        obtain ⟨number, -, ⟨⟩⟩ := Option.bind_eq_some_iff.mp result
        exact .integer

theorem keepsKeysDistinct_readNamedFloat :
    KeepsKeysDistinct readNamedFloat := by
  intro input value rest result
  simp only [readNamedFloat] at result
  split at result
  · cases result
    exact .float
  · cases result
    exact .float
  · cases result

theorem keepsKeysDistinct_readNumber : KeepsKeysDistinct readNumber := by
  intro input value rest result
  unfold readNumber at result
  split at result
  · cases result
    exact .datetime
  · split at result
    · exact keepsKeysDistinct_readBased 16 result
    · exact keepsKeysDistinct_readBased 8 result
    · exact keepsKeysDistinct_readBased 2 result
    · cases named : readNamedFloat input with
      | some found =>
          rw [named] at result
          cases result
          exact keepsKeysDistinct_readNamedFloat named
      | none =>
          rw [named] at result
          exact keepsKeysDistinct_readDecimal result

theorem keepsKeysDistinct_readElements (reads : KeepsKeysDistinct read)
    {found : List Value}
    (inner : ∀ value ∈ found, value.HasDistinctKeys) (bound : Nat) :
    KeepsKeysDistinct (readElements read found bound) := by
  induction bound generalizing found with
  | zero => exact fun result => by cases result
  | succ bound induction =>
      intro input value rest result
      simp only [readElements, Option.bind_eq_bind,
        Option.bind_eq_some_iff] at result
      obtain ⟨next, -, result⟩ := result
      split at result
      · cases result
        exact .array fun value member =>
          inner value (List.mem_reverse.mp member)
      · obtain ⟨⟨element, rest⟩, isElement, result⟩ :=
          Option.bind_eq_some_iff.mp result
        have all : ∀ value ∈ element :: found, value.HasDistinctKeys := by
          simpa using ⟨reads isElement, inner⟩
        obtain ⟨next, -, result⟩ := Option.bind_eq_some_iff.mp result
        split at result
        · exact induction all result
        · cases result
          exact .array fun value member =>
            all value (List.mem_reverse.mp member)
        · cases result

theorem keepsKeysDistinct_readMembers (reads : KeepsKeysDistinct read)
    {found : List (String × Item)}
    (distinct : AreDistinct found) (bound : Nat) :
    KeepsKeysDistinct (readMembers read found bound) := by
  induction bound generalizing found with
  | zero => exact fun result => by cases result
  | succ bound induction =>
      intro input value rest result
      simp only [readMembers, Option.bind_eq_bind,
        Option.bind_eq_some_iff] at result
      obtain ⟨⟨path, next⟩, -, result⟩ := result
      split at result
      · obtain ⟨⟨inner, next⟩, isValue, result⟩ :=
          Option.bind_eq_some_iff.mp result
        obtain ⟨more, inserted, result⟩ := Option.bind_eq_some_iff.mp result
        have longer := areDistinct_insertValue distinct (reads isValue) inserted
        split at result
        · exact induction longer result
        · cases result
          exact hasDistinctKeys_finishEntries more longer
        · cases result
      · cases result

theorem keepsKeysDistinct_readValue (depth : Nat) :
    KeepsKeysDistinct (readValue depth) := by
  induction depth with
  | zero => exact fun result => by cases result
  | succ depth induction =>
      intro input value rest result
      unfold readValue at result
      split at result
      · obtain ⟨text, -, ⟨⟩⟩ := Option.map_eq_some_iff.mp result
        exact .string
      · obtain ⟨text, -, ⟨⟩⟩ := Option.map_eq_some_iff.mp result
        exact .string
      · split at result
        · cases result
        · exact keepsKeysDistinct_readElements
            induction (fun _ member => absurd member List.not_mem_nil) _ result
      · split at result
        · cases result
        · split at result
          · cases result
            exact .table List.nodup_nil fun _ member =>
              absurd member List.not_mem_nil
          · exact keepsKeysDistinct_readMembers
              induction areDistinct_nil _ result
      · cases result
        exact .boolean
      · cases result
        exact .boolean
      · exact keepsKeysDistinct_readNumber result

theorem areDistinct_withHeading
    {start : String → List (String × Item) → Option (List (String × Item))}
    (keeps : ∀ {key entries result},
      AreDistinct entries → start key entries = some result →
      AreDistinct result)
    {document changed : Draft} {path : List String}
    (distinct : AreDistinct document.entries)
    (result : document.withHeading path start = some changed) :
    AreDistinct changed.entries := by
  obtain ⟨key, -, result⟩ := Option.bind_eq_some_iff.mp result
  obtain ⟨entries, begun, ⟨⟩⟩ := Option.bind_eq_some_iff.mp result
  exact areDistinct_changeAt keeps distinct begun

theorem areDistinct_readLine {document changed : Draft}
    (distinct : AreDistinct document.entries)
    (result : readLine document input = some (changed, rest)) :
    AreDistinct changed.entries := by
  unfold readLine at result
  split at result
  · obtain ⟨after, -, ⟨⟩⟩ := Option.map_eq_some_iff.mp result
    exact distinct
  · obtain ⟨⟨path, after⟩, -, result⟩ := Option.bind_eq_some_iff.mp result
    dsimp only at result
    split at result
    · obtain ⟨headed, begun, result⟩ := Option.bind_eq_some_iff.mp result
      obtain ⟨after, -, ⟨⟩⟩ := Option.bind_eq_some_iff.mp result
      exact areDistinct_withHeading areDistinct_beginElement distinct begun
    · cases result
  · obtain ⟨⟨path, after⟩, -, result⟩ := Option.bind_eq_some_iff.mp result
    dsimp only at result
    split at result
    · obtain ⟨headed, begun, result⟩ := Option.bind_eq_some_iff.mp result
      obtain ⟨after, -, ⟨⟩⟩ := Option.bind_eq_some_iff.mp result
      exact areDistinct_withHeading areDistinct_beginTable distinct begun
    · cases result
  · split at result
    · cases result
      exact distinct
    · obtain ⟨⟨path, after⟩, -, result⟩ := Option.bind_eq_some_iff.mp result
      dsimp only at result
      split at result
      · obtain ⟨⟨value, after⟩, isValue, result⟩ :=
          Option.bind_eq_some_iff.mp result
        obtain ⟨after, -, result⟩ := Option.bind_eq_some_iff.mp result
        obtain ⟨entries, inserted, ⟨⟩⟩ := Option.bind_eq_some_iff.mp result
        refine areDistinct_changeAt (fun before result => ?_) distinct inserted
        exact areDistinct_insertValue before
          (keepsKeysDistinct_readValue _ isValue) result
      · cases result

theorem areDistinct_readLines {document read : Draft} (bound : Nat)
    (distinct : AreDistinct document.entries)
    (result : readLines document bound input = some read) :
    AreDistinct read.entries := by
  induction bound generalizing document input with
  | zero =>
      rw [readLines] at result
      split at result
      · cases result
        exact distinct
      · cases result
  | succ bound induction =>
      rw [readLines] at result
      split at result
      · cases result
        exact distinct
      · obtain ⟨⟨changed, rest⟩, line, result⟩ :=
          Option.bind_eq_some_iff.mp result
        exact induction (areDistinct_readLine distinct line) result

/-- In no table of a document that can be read does a key occur twice. -/
theorem hasDistinctKeys_parse {text : String} {entries : Entries}
    (result : parse? text = some entries) :
    (Value.table entries).HasDistinctKeys := by
  obtain ⟨document, read, rfl⟩ := Option.map_eq_some_iff.mp result
  exact hasDistinctKeys_finishEntries document.entries
    (areDistinct_readLines _ areDistinct_nil read)

end LessonSite.Toml
