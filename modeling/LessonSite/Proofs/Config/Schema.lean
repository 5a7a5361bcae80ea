import LessonSite.Config.Reader
import LessonSite.Proofs.Toml.Merge

/-!
# The schema of settings

Which keys a settings document may have in each of its tables, and what may
stand there.  Settings are read just as the schema says: there is nothing in
what is read that the schema does not know, and what is given for a setting is
what the settings have afterwards.
-/

namespace LessonSite.Toml

/-- The kinds of value that single settings have. -/
inductive Form where
  | text
  | truth
  | number
  | texts
deriving DecidableEq

def Form.Admits : Form → Value → Prop
  | .text, value => ∃ text, value = .string text
  | .truth, value => ∃ flag, value = .boolean flag
  | .number, value => ∃ number : Nat, value = .integer number
  | .texts, value => ∃ texts : List String, value = .array (texts.map .string)

/-- A single setting, or a group of them under keys. -/
inductive Schema where
  | setting (form : Form)
  | group (fields : List (String × Schema))

namespace Value

/-- The value for a key of a group: by its name in a table, by its place in an
array. -/
def given? (keys : List String) (key : String) : Value → Option Value
  | .table entries => Entries.get? entries key
  | .array values => values[keys.idxOf key]?
  | _ => none

/-- The value can stand for a group: it is a table without other keys, or an
array.  When `exact`, an array is not longer than the group. -/
def IsGroup (exact : Bool) (keys : List String) : Value → Prop
  | .table entries => ∀ entry ∈ entries, entry.1 ∈ keys
  | .array values => exact = true → values.length ≤ keys.length
  | _ => False

variable {exact : Bool} {keys : List String} {key : String}
  {value below : Value}

private theorem map_range_eq {values : List Value} (distinct : keys.Nodup) :
    ((List.range keys.length).map fun position => values[position]?) =
      keys.map fun key => values[keys.idxOf key]? := by
  apply List.ext_getElem
  · simp
  · intro position inside _
    have bound : position < keys.length := by simpa using inside
    simp [distinct.idxOf_getElem position bound]

theorem group?_eq_some_iff {found : List (Option Value)}
    (distinct : keys.Nodup) :
    value.group? exact keys = some found ↔
      value.IsGroup exact keys ∧ found = keys.map (given? keys · value) := by
  cases value with
  | table entries =>
      rw [group?, IsGroup]
      split
      · next known =>
          rw [and_iff_right (by simpa using known), Option.some_inj, eq_comm]
          rfl
      · next unknown =>
          simp only [reduceCtorEq, false_iff, not_and]
          intro known
          exact absurd (by simpa using known) unknown
  | array values =>
      rw [group?, IsGroup, map_range_eq distinct]
      split
      · next long =>
          simp only [reduceCtorEq, false_iff, not_and]
          intro fits
          exact absurd long.2 (Nat.not_lt.mpr (fits long.1))
      · next fits =>
          rw [and_iff_right fun isExact =>
            Nat.not_lt.mp fun long => fits ⟨isExact, long⟩, Option.some_inj,
            eq_comm]
          rfl
  | _ => simp [group?, IsGroup]

end Value

namespace Schema

variable {schema : Schema} {form : Form} {fields : List (String × Schema)}
  {key : String} {path : List String} {value given : Value}

/-- What the schema has at a path of keys. -/
def at? : Schema → List String → Option Schema
  | schema, [] => some schema
  | .group fields, key :: path =>
      (List.lookup key fields).bind fun inner => inner.at? path
  | .setting _, _ :: _ => none

/-- What a value has at a path of keys of the schema, each found by name or by
place. -/
def given? : Schema → Value → List String → Option Value
  | _, value, [] => some value
  | .group fields, value, key :: path =>
      (List.lookup key fields).bind fun inner =>
        (value.given? (fields.map Prod.fst) key).bind fun found =>
          inner.given? found path
  | .setting _, _, _ :: _ => none

/-- The value has at every place what the schema knows there: no key that the
schema does not have, no item that it has no place for, and settings of their
kinds. -/
inductive Admits : Schema → Value → Prop
  | setting {form : Form} {value : Value} (admits : form.Admits value) :
      Admits (.setting form) value
  | table {fields : List (String × Schema)} {entries : Entries}
      (known : ∀ key ∈ entries.map Prod.fst, key ∈ fields.map Prod.fst)
      (inner : ∀ key value schema, Entries.get? entries key = some value →
        List.lookup key fields = some schema → Admits schema value) :
      Admits (.group fields) (.table entries)
  | array {fields : List (String × Schema)} {values : List Value}
      (fits : values.length ≤ fields.length)
      (inner : ∀ (position : Nat) (field : String × Schema) (value : Value),
        fields[position]? = some field →
          values[position]? = some value → Admits field.2 value) :
      Admits (.group fields) (.array values)

/-- What is given for a setting is of its kind and is found again in what is
written. -/
def Keeps (schema : Schema) (value written : Value) : Prop :=
  ∀ path form given,
    schema.at? path = some (.setting form) →
    schema.given? value path = some given →
      form.Admits given ∧ written.at? path = some given

/-- Every setting of the schema is written. -/
def Covers (schema : Schema) (written : Value) : Prop :=
  ∀ path form,
    schema.at? path = some (.setting form) →
    ∃ value, written.at? path = some value

theorem at?_setting_eq_some {inner : Schema}
    (found : (setting form).at? path = some inner) :
    path = [] ∧ inner = .setting form := by
  cases path with
  | nil => exact ⟨rfl, (Option.some.inj found).symm⟩
  | cons key path => cases found

theorem at?_group_eq_setting
    (found : (group fields).at? path = some (.setting form)) :
    ∃ key rest inner, path = key :: rest ∧ List.lookup key fields = some inner ∧
      inner.at? rest = some (.setting form) := by
  cases path with
  | nil => cases found
  | cons key rest =>
      obtain ⟨inner, isField, found⟩ := Option.bind_eq_some_iff.mp found
      exact ⟨key, rest, inner, rfl, isField, found⟩

theorem given?_group_eq_some {rest : List String} {inner : Schema}
    (isField : List.lookup key fields = some inner) :
    (group fields).given? value (key :: rest) = some given ↔
      ∃ found,
        value.given? (fields.map Prod.fst) key = some found ∧
          inner.given? found rest = some given := by
  rw [given?, isField, Option.bind_some, Option.bind_eq_some_iff]

namespace Admits

theorem isGroup (admitted : (group fields).Admits value) (exact : Bool) :
    value.IsGroup exact (fields.map Prod.fst) := by
  cases admitted with
  | table known =>
      exact fun entry member => known _ (List.mem_map_of_mem member)
  | array fits => exact fun _ => by rwa [List.length_map]

/-- What is given for a field of a group is admitted there. -/
theorem field (admitted : (group fields).Admits value)
    (distinct : (fields.map Prod.fst).Nodup)
    {inner : Schema} (isField : List.lookup key fields = some inner)
    (found : value.given? (fields.map Prod.fst) key = some given) :
    inner.Admits given := by
  cases admitted with
  | table _ all => exact all key given inner found isField
  | array _ all =>
      obtain ⟨position, here⟩ :=
        List.mem_iff_getElem?.mp (mem_of_lookup isField)
      obtain ⟨inside, same⟩ := List.getElem?_eq_some_iff.mp here
      have place := distinct.idxOf_getElem position (by simpa using inside)
      rw [List.getElem_map, same] at place
      exact all position _ given here (place ▸ found)

end Admits

/-- What a reader takes is admitted by the schema, and what is given for a
setting is kept. -/
structure IsReadBy {Setting : Type} (schema : Schema)
    (read : Value → Option Setting) (write : Setting → Value) : Prop where
  admits : ∀ {value setting}, read value = some setting → schema.Admits value
  keeps :
    ∀ {value setting},
      read value = some setting → schema.Keeps value (write setting)

variable {Setting : Type} {read : Value → Option Setting}
  {write : Setting → Value}

theorem isReadBy_setting
    (exact : ∀ {value setting},
      read value = some setting → value = write setting)
    (admits : ∀ setting, form.Admits (write setting)) :
    (setting form).IsReadBy read write := by
  constructor
  · intro value setting isRead
    rw [exact isRead]
    exact .setting (admits setting)
  · intro value setting isRead path form given known found
    obtain ⟨rfl, same⟩ := at?_setting_eq_some known
    cases same
    cases found
    rw [exact isRead]
    exact ⟨admits setting, rfl⟩

theorem isReadBy_group (distinct : (fields.map Prod.fst).Nodup)
    (isGroup : ∀ {value setting},
      read value = some setting → value.IsGroup true (fields.map Prod.fst))
    (inner : ∀ {value setting},
      read value = some setting → ∀ field ∈ fields, ∀ given,
        value.given? (fields.map Prod.fst) field.1 = some given →
          field.2.Admits given ∧
            ∃ written, (write setting).get? field.1 = some written ∧
              field.2.Keeps given written) :
    (group fields).IsReadBy read write := by
  constructor
  · intro value setting isRead
    cases value with
    | table entries =>
        refine .table
          (fun key member => ?_) fun key value schema found isField => ?_
        · obtain ⟨entry, isEntry, rfl⟩ := List.mem_map.mp member
          exact isGroup isRead entry isEntry
        · exact (inner isRead (key, schema) (mem_of_lookup isField)
            value found).1
    | array values =>
        have fits := isGroup isRead rfl
        rw [List.length_map] at fits
        refine .array fits fun position field value here there => ?_
        refine (inner isRead field (List.mem_of_getElem? here) value ?_).1
        obtain ⟨inside, rfl⟩ := List.getElem?_eq_some_iff.mp here
        have place := distinct.idxOf_getElem position (by simpa using inside)
        rw [List.getElem_map] at place
        rw [Value.given?, place, there]
    | _ => cases isGroup isRead
  · intro value setting isRead path form given known found
    obtain ⟨key, rest, schema, rfl, isField, known⟩ :=
      at?_group_eq_setting known
    obtain ⟨next, isGiven, found⟩ := (given?_group_eq_some isField).mp found
    obtain ⟨-, written, isWritten, keeps⟩ :=
      inner isRead _ (mem_of_lookup isField) next isGiven
    obtain ⟨admits, there⟩ := keeps rest form given known found
    exact ⟨admits, Value.at?_cons_eq_some_iff.mpr ⟨written, isWritten, there⟩⟩

end Schema

end LessonSite.Toml
