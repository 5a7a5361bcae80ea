import LessonSite.Proofs.Toml.Keys

/-!
# One document over another

A document that is laid over another is found again in what comes of it: at
every path of keys it is settled by what the two documents have there and above.
-/

namespace LessonSite.Toml

namespace Entries

variable {entries : Entries} {key other : String} {value : Value}

@[simp] theorem get?_nil : get? [] key = none :=
  rfl

theorem get?_cons :
    get? ((other, value) :: entries) key =
      if key = other then some value else get? entries key := by
  rw [get?, List.lookup_cons, beq_eq_decide]
  by_cases same : key = other <;> simp [same, get?]

theorem mem_keys_iff : key ∈ entries.map Prod.fst ↔ (get? entries key).isSome :=
  mem_map_fst_iff.trans Option.isSome_iff_exists.symm

theorem get?_of_mem (distinct : (entries.map Prod.fst).Nodup)
    (member : (key, value) ∈ entries) :
    get? entries key = some value :=
  lookup_of_mem_of_nodup distinct member

theorem get?_set :
    get? (set key value entries) other =
      if other = key then some value else get? entries other := by
  induction entries with
  | nil => rw [set, get?_cons]
  | cons entry entries induction =>
      obtain ⟨present, old⟩ := entry
      rw [set]
      by_cases here : present = key
      · subst here
        rw [if_pos rfl, get?_cons, get?_cons]
        split <;> rfl
      · rw [if_neg here, get?_cons, get?_cons, induction]
        by_cases same : other = present
        · rw [if_pos same, if_pos same, if_neg (same ▸ here)]
        · rw [if_neg same, if_neg same]

theorem set_of_get? (found : get? entries key = some value) :
    set key value entries = entries := by
  induction entries with
  | nil => cases found
  | cons entry entries induction =>
      obtain ⟨present, old⟩ := entry
      rw [get?_cons] at found
      by_cases here : present = key
      · rw [if_pos here.symm] at found
        rw [set, if_pos here, here, Option.some.inj found]
      · rw [if_neg (Ne.symm here)] at found
        rw [set, if_neg here, induction found]

end Entries

/-- What comes of the values that two documents have at one place, where either
may have none. -/
def mergeAt (below above : Option Value) : Option Value :=
  match below, above with
  | below, none => below
  | none, some above => some above
  | some below, some above => some (below.merge above)

theorem mergeAt_none (above : Option Value) : mergeAt none above = above := by
  cases above <;> rfl

section

variable {entries added : Entries} {key : String}

theorem get?_mergeEntries (distinct : (added.map Prod.fst).Nodup) :
    Entries.get? (mergeEntries entries added) key =
      mergeAt (Entries.get? entries key) (Entries.get? added key) := by
  induction added generalizing entries with
  | nil => rfl
  | cons entry added induction =>
      obtain ⟨other, above⟩ := entry
      obtain ⟨new, distinct⟩ := List.nodup_cons.mp distinct
      rw [mergeEntries, induction distinct, Entries.get?_set, Entries.get?_cons]
      by_cases same : key = other
      · subst same
        have later : Entries.get? added key = none := by
          simpa [Entries.mem_keys_iff] using new
        rw [later, if_pos rfl, if_pos rfl]
        cases Entries.get? entries key <;> rfl
      · rw [if_neg same, if_neg same]

theorem keys_mergeEntries (distinct : (added.map Prod.fst).Nodup) :
    key ∈ (mergeEntries entries added).map Prod.fst ↔
      key ∈ entries.map Prod.fst ∨ key ∈ added.map Prod.fst := by
  rw [Entries.mem_keys_iff, Entries.mem_keys_iff, Entries.mem_keys_iff,
    get?_mergeEntries distinct]
  cases Entries.get? entries key <;> cases Entries.get? added key <;>
    simp [mergeAt]

/-- Entries that are absorbed one by one are absorbed together. -/
theorem mergeEntries_of_absorbed
    (absorbed : ∀ entry ∈ added,
      ∃ value, Entries.get? entries entry.1 = some value ∧
        value.merge entry.2 = value) :
    mergeEntries entries added = entries := by
  induction added with
  | nil => rfl
  | cons entry added induction =>
      obtain ⟨value, found, same⟩ := absorbed entry List.mem_cons_self
      rw [mergeEntries, found]
      simp only [same]
      rw [Entries.set_of_get? found]
      exact induction fun entry member =>
        absorbed entry (List.mem_cons_of_mem _ member)

end

namespace Value

variable {base overlay value inner : Value} {entries added : Entries}
  {key : String} {path : List String}

def isTable : Value → Bool
  | .table _ => true
  | _ => false

/-- The value at a key of a table. -/
def get? (key : String) : Value → Option Value
  | .table entries => Entries.get? entries key
  | _ => none

/-- On the way along the path, its end included, the value has something that is
no table. -/
def IsCutAlong (value : Value) (path : List String) : Prop :=
  ∃ upto inner,
    upto <+: path ∧ value.at? upto = some inner ∧ inner.isTable = false

theorem isTable_cases (value : Value) :
    value.isTable = false ∨ ∃ entries, value = table entries := by
  cases value with
  | table entries => exact .inr ⟨entries, rfl⟩
  | _ => exact .inl rfl

theorem at?_cons :
    value.at? (key :: path) = (value.get? key).bind (·.at? path) := by
  cases value with
  | table entries =>
      rw [at?, get?]
      cases Entries.get? entries key <;> rfl
  | _ => rfl

theorem at?_cons_eq_some_iff :
    value.at? (key :: path) = some inner ↔
      ∃ next, value.get? key = some next ∧ next.at? path = some inner := by
  rw [at?_cons, Option.bind_eq_some_iff]

theorem isTable_of_get? (found : value.get? key = some inner) :
    value.isTable = true := by
  cases value with
  | table entries => rfl
  | _ => cases found

theorem hasDistinctKeys_of_get? (distinct : value.HasDistinctKeys)
    (found : value.get? key = some inner) :
    inner.HasDistinctKeys := by
  cases distinct with
  | table distinct all => exact all _ (mem_of_lookup found)
  | _ => cases found

theorem hasDistinctKeys_of_at? (distinct : value.HasDistinctKeys)
    (there : value.at? path = some inner) :
    inner.HasDistinctKeys := by
  induction path generalizing value with
  | nil =>
      cases there
      exact distinct
  | cons key path induction =>
      obtain ⟨next, found, there⟩ := at?_cons_eq_some_iff.mp there
      exact induction (hasDistinctKeys_of_get? distinct found) there

theorem merge_of_noTable_below (noTable : base.isTable = false) :
    base.merge overlay = overlay := by
  rw [merge]
  rintro entries added rfl -
  cases noTable

theorem merge_of_noTable_above (noTable : overlay.isTable = false) :
    base.merge overlay = overlay := by
  rw [merge]
  rintro entries added - rfl
  cases noTable

/-- A key of a table that is laid over anything has what comes of its values in
both. -/
theorem get?_merge (distinct : overlay.HasDistinctKeys)
    (isTable : overlay.isTable = true) :
    (base.merge overlay).get? key =
      mergeAt (base.get? key) (overlay.get? key) := by
  cases distinct with
  | table distinct =>
      cases base with
      | table entries => exact get?_mergeEntries distinct
      | _ =>
          rw [merge_of_noTable_below rfl]
          exact (mergeAt_none _).symm
  | _ => cases isTable

theorem isCutAlong_of_noTable (noTable : value.isTable = false) :
    value.IsCutAlong path :=
  ⟨[], value, List.nil_prefix, rfl, noTable⟩

theorem isCutAlong_nil_iff : value.IsCutAlong [] ↔ value.isTable = false := by
  refine ⟨?_, isCutAlong_of_noTable⟩
  rintro ⟨upto, inner, within, there, noTable⟩
  obtain rfl := List.prefix_nil.mp within
  cases there
  exact noTable

theorem isCutAlong_cons_iff :
    value.IsCutAlong (key :: path) ↔
      value.isTable = false ∨
        ∃ inner, value.get? key = some inner ∧ inner.IsCutAlong path := by
  constructor
  · rintro ⟨upto, found, within, there, noTable⟩
    cases upto with
    | nil =>
        cases there
        exact .inl noTable
    | cons other upto =>
        obtain ⟨rfl, further⟩ := List.cons_prefix_cons.mp within
        obtain ⟨inner, next, there⟩ := at?_cons_eq_some_iff.mp there
        exact .inr ⟨inner, next, upto, found, further, there, noTable⟩
  · rintro (noTable | ⟨inner, next, upto, found, within, there, noTable⟩)
    · exact isCutAlong_of_noTable noTable
    · exact ⟨key :: upto, found, List.cons_prefix_cons.mpr ⟨rfl, within⟩,
        at?_cons_eq_some_iff.mpr ⟨inner, next, there⟩, noTable⟩

/-- Something in the overlay that is no table settles alone what is there and
below. -/
theorem at?_merge_of_isCutAlong (distinct : overlay.HasDistinctKeys)
    (cut : overlay.IsCutAlong path) :
    (base.merge overlay).at? path = overlay.at? path := by
  induction path generalizing base overlay with
  | nil => rw [merge_of_noTable_above (isCutAlong_nil_iff.mp cut)]
  | cons key path induction =>
      rcases isCutAlong_cons_iff.mp cut with noTable | ⟨above, found, cut⟩
      · rw [merge_of_noTable_above noTable]
      · rw [at?_cons, at?_cons, get?_merge distinct (isTable_of_get? found),
          found]
        cases base.get? key with
        | none => rfl
        | some below =>
            exact induction (hasDistinctKeys_of_get? distinct found) cut

/-- Tables that both documents have at one place are laid over each other
there. -/
theorem at?_merge_of_tables (distinct : overlay.HasDistinctKeys)
    (below : base.at? path = some (table entries))
    (above : overlay.at? path = some (table added)) :
    (base.merge overlay).at? path =
      some ((table entries).merge (table added)) := by
  induction path generalizing base overlay with
  | nil =>
      cases below
      cases above
      rfl
  | cons key path induction =>
      obtain ⟨lower, foundBelow, below⟩ := at?_cons_eq_some_iff.mp below
      obtain ⟨upper, foundAbove, above⟩ := at?_cons_eq_some_iff.mp above
      rw [at?_cons, get?_merge distinct (isTable_of_get? foundAbove),
        foundBelow, foundAbove]
      exact induction (hasDistinctKeys_of_get? distinct foundAbove) below above

/-- A table that only the overlay has at a place is there afterwards. -/
theorem at?_merge_of_table_above (distinct : overlay.HasDistinctKeys)
    (below : ∀ entries, base.at? path ≠ some (table entries))
    (above : overlay.at? path = some (table added)) :
    (base.merge overlay).at? path = some (table added) := by
  induction path generalizing base overlay with
  | nil =>
      rcases isTable_cases base with noTable | ⟨entries, rfl⟩
      · rwa [merge_of_noTable_below noTable]
      · exact absurd rfl (below entries)
  | cons key path induction =>
      obtain ⟨upper, found, above⟩ := at?_cons_eq_some_iff.mp above
      rw [at?_cons, get?_merge distinct (isTable_of_get? found), found]
      -- Where the base has nothing the overlay comes as it is; otherwise the
      -- base has no table further down.
      simp only [at?_cons] at below
      cases present : base.get? key with
      | none => exact above
      | some lower =>
          rw [present] at below
          exact induction (hasDistinctKeys_of_get? distinct found) below above

/-- Where the overlay has nothing, and only tables on the way, the base is
kept. -/
theorem at?_merge_of_absent (distinct : overlay.HasDistinctKeys)
    (absent : overlay.at? path = none)
    (uncut : ¬overlay.IsCutAlong path) :
    (base.merge overlay).at? path = base.at? path := by
  induction path generalizing base overlay with
  | nil => cases absent
  | cons key path induction =>
      rw [isCutAlong_cons_iff, not_or, Bool.not_eq_false] at uncut
      rw [at?_cons] at absent
      rw [at?_cons, at?_cons, get?_merge distinct uncut.1]
      cases found : overlay.get? key with
      | none => cases base.get? key <;> rfl
      | some above =>
          rw [found] at absent
          cases base.get? key with
          | none => exact absent
          | some below =>
              refine induction (hasDistinctKeys_of_get? distinct found)
                absent fun cut => ?_
              exact uncut.2 ⟨above, found, cut⟩

theorem merge_self (distinct : value.HasDistinctKeys) :
    value.merge value = value := by
  induction distinct with
  | table distinct inner induction =>
      refine congrArg table (mergeEntries_of_absorbed fun entry member => ?_)
      exact ⟨entry.2, Entries.get?_of_mem distinct member,
        induction entry member⟩
  | _ => exact merge_of_noTable_above rfl

theorem merge_merge (distinct : overlay.HasDistinctKeys) :
    (base.merge overlay).merge overlay = base.merge overlay := by
  induction distinct generalizing base with
  | @table added distinct inner induction =>
      rcases isTable_cases base with noTable | ⟨entries, rfl⟩
      · rw [merge_of_noTable_below noTable]
        exact merge_self (.table distinct inner)
      refine congrArg table (mergeEntries_of_absorbed fun entry member => ?_)
      rw [get?_mergeEntries distinct, Entries.get?_of_mem distinct member]
      cases Entries.get? entries entry.1 with
      | none => exact ⟨entry.2, rfl, merge_self (inner entry member)⟩
      | some below => exact ⟨below.merge entry.2, rfl, induction entry member⟩
  | _ => rw [merge_of_noTable_above rfl, merge_of_noTable_above rfl]

/-- On a path along which the overlay gives something that is no table, merged
documents have what the overlay has.  On any other, two tables are laid over
each other, a table that only the overlay has is there, and where it has nothing
the base is kept.  To lay it over the outcome once more changes nothing. -/
theorem merge_settled (distinct : overlay.HasDistinctKeys) (base : Value) :
    (∀ path,
      (overlay.IsCutAlong path →
        (base.merge overlay).at? path = overlay.at? path) ∧
      (∀ entries added,
        base.at? path = some (table entries) →
        overlay.at? path = some (table added) →
          ∃ merged, (base.merge overlay).at? path = some (table merged) ∧
            (table entries).merge (table added) = table merged ∧
            ∀ key,
              key ∈ merged.map Prod.fst ↔
                key ∈ entries.map Prod.fst ∨ key ∈ added.map Prod.fst) ∧
      (∀ added,
        (∀ entries, base.at? path ≠ some (table entries)) →
        overlay.at? path = some (table added) →
          (base.merge overlay).at? path = some (table added)) ∧
      (overlay.at? path = none → ¬overlay.IsCutAlong path →
        (base.merge overlay).at? path = base.at? path)) ∧
    (base.merge overlay).merge overlay = base.merge overlay := by
  refine ⟨fun path =>
      ⟨at?_merge_of_isCutAlong distinct, ?_, ?_, at?_merge_of_absent distinct⟩,
    merge_merge distinct⟩
  · intro entries added below above
    refine ⟨mergeEntries entries added,
      at?_merge_of_tables distinct below above, rfl, fun key => ?_⟩
    have inner := hasDistinctKeys_of_at? distinct above
    exact keys_mergeEntries (hasDistinctKeys_table_iff.mp inner).1
  · intro added below above
    exact at?_merge_of_table_above distinct below above

/-- A document and one that is laid over it, which changes one value of a group,
adds a group and exchanges another group for a text. -/
def groupsBelow : Value :=
  .table
    [("group", .table [("changed", .integer 100), ("kept", .boolean true)]),
      ("closed", .table [("lost", .integer 1)])]

@[inherit_doc groupsBelow]
def groupsAbove : Value :=
  .table
    [("group", .table [("changed", .integer 250)]),
      ("added", .table [("new", .integer 2)]), ("closed", .string "text")]

theorem merge_settled_groups :
    groupsAbove.HasDistinctKeys ∧
      (groupsBelow.merge groupsAbove).at? ["group", "changed"] =
        some (.integer 250) ∧
      (groupsBelow.merge groupsAbove).at? ["group", "kept"] =
        some (.boolean true) ∧
      (groupsBelow.merge groupsAbove).at? ["added"] =
        some (.table [("new", .integer 2)]) ∧
      (groupsBelow.merge groupsAbove).at? ["closed", "lost"] = none ∧
      (groupsBelow.merge groupsAbove).merge groupsAbove =
        groupsBelow.merge groupsAbove := by
  have distinct : groupsAbove.HasDistinctKeys := by
    simp [groupsAbove, HasDistinctKeys.integer, HasDistinctKeys.string]
  obtain ⟨settled, again⟩ := merge_settled distinct groupsBelow
  refine ⟨distinct, ?_, ?_, ?_, ?_, again⟩
  · exact (settled ["group", "changed"]).1
      ⟨["group", "changed"], .integer 250, List.prefix_rfl, rfl, rfl⟩
  · refine (settled ["group", "kept"]).2.2.2 rfl ?_
    simp [groupsAbove, isCutAlong_cons_iff, isTable, get?, Entries.get?_cons]
  · exact (settled ["added"]).2.2.1 _
      (fun entries present => by cases present) rfl
  · exact (settled ["closed", "lost"]).1
      ⟨["closed"], .string "text", ⟨["lost"], rfl⟩, rfl, rfl⟩

end Value

end LessonSite.Toml
