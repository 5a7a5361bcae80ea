import LessonSite.Proofs.Config.Overlay
import LessonSite.Proofs.Except

/-!
# Two readings of one document

A settings document can be read by itself or laid over the defaults first.  The
two readings have different defaults for a Chinese locale that is given in part,
and only the second one minds spare items in an array that stands for a group.
Apart from that they agree.
-/

namespace LessonSite

open Toml

section

variable {Setting : Type} {fallback : Setting}
  {read other : Value → Option Setting} {found : Option Value} {below : Value}

theorem orDefault_congr
    (same : ∀ value, found = some value → read value = other value) :
    orDefault fallback read found = orDefault fallback other found := by
  cases found with
  | none => rfl
  | some value => exact same value rfl

/-- What is laid over a default is read like what is given, where the default is
the one of the reader. -/
theorem orDefault_mergeAt (own : found = none → read below = some fallback)
    (laid : ∀ value,
      found = some value → read (below.merge value) = read value) :
    orDefault fallback read (mergeAt (some below) found) =
      orDefault fallback read found := by
  cases found with
  | none => exact own rfl
  | some value => exact laid value rfl

theorem orDefault_mergeAt_setting (noTable : below.isTable = false)
    (own : found = none → read below = some fallback) :
    orDefault fallback read (mergeAt (some below) found) =
      orDefault fallback read found :=
  orDefault_mergeAt own fun _ _ => by rw [Value.merge_of_noTable_below noTable]

end

theorem Toml.Value.isGroup_merge {exact : Bool} {keys : List String}
    {entries added : Entries}
    (known : ∀ key ∈ entries.map Prod.fst, key ∈ keys)
    (distinct : (Value.table added).HasDistinctKeys) :
    ((Value.table entries).merge (.table added)).IsGroup exact keys ↔
      (Value.table added).IsGroup exact keys := by
  have merged : ∀ key, key ∈ (mergeEntries entries added).map Prod.fst ↔
      key ∈ entries.map Prod.fst ∨ key ∈ added.map Prod.fst := fun key =>
    keys_mergeEntries (hasDistinctKeys_table_iff.mp distinct).1
  rw [Value.merge]
  constructor
  · intro all entry member
    obtain ⟨other, isOther, same⟩ :=
      List.mem_map.mp ((merged entry.1).mpr (.inr (List.mem_map_of_mem member)))
    exact same ▸ all other isOther
  · intro all entry member
    rcases (merged entry.1).mp (List.mem_map_of_mem member) with inner | outer
    · exact known _ inner
    · obtain ⟨other, isOther, same⟩ := List.mem_map.mp outer
      exact same ▸ all other isOther

namespace LocaleConfig

variable {value : Value} {config : LocaleConfig} {exact : Bool}

theorem ofToml?_of_admits (admits : schema.Admits value) :
    ofToml? true value = ofToml? false value := by
  ext config
  rw [ofToml?_eq_some_iff, ofToml?_eq_some_iff]
  exact and_congr_left'
    (iff_of_true (admits.isGroup true) (admits.isGroup false))

/-- A locale's settings may be laid over others that agree with the reader's
defaults on what is missing. -/
theorem ofToml?_merge {base : LocaleConfig} (distinct : value.HasDistinctKeys)
    (whole : base = english ∨
      ∀ added, value = .table added → ∀ key ∈ keys, key ∈ added.map Prod.fst) :
    ofToml? exact (base.toToml.merge value) = ofToml? exact value := by
  rcases Value.isTable_cases value with noTable | ⟨added, rfl⟩
  · rw [Value.merge_of_noTable_above noTable]
  have own : ∀ key ∈ keys, Entries.get? added key = none → base = english := by
    intro key isKey absent
    refine whole.resolve_right fun given => ?_
    obtain ⟨value, found⟩ := mem_map_fst_iff.mp (given added rfl key isKey)
    cases absent.symm.trans found
  have field :
      ∀ {key text fallback : String},
        key ∈ keys → base.toToml.get? key = some (.string text) →
          (base = english → text = fallback) →
            orDefault fallback (·.text?)
                ((base.toToml.merge (.table added)).given? keys key) =
              orDefault fallback (·.text?)
                ((Value.table added).given? keys key) := by
    intro key text fallback isKey written same
    have merged : (base.toToml.merge (.table added)).given? keys key =
        mergeAt (base.toToml.get? key) (Entries.get? added key) :=
      get?_mergeEntries (Value.hasDistinctKeys_table_iff.mp distinct).1
    rw [merged, written]
    exact orDefault_mergeAt_setting rfl fun absent =>
      congrArg some (same (own key isKey absent))
  ext config
  rw [ofToml?_eq_some_iff, ofToml?_eq_some_iff]
  refine and_congr (Value.isGroup_merge (fun key member => member) distinct) ?_
  have root :=
    field (by decide) (Eq.refl (base.toToml.get? "root")) (congrArg root)
  have title :=
    field (by decide) (Eq.refl (base.toToml.get? "title")) (congrArg title)
  have back :=
    field (by decide) (Eq.refl (base.toToml.get? "back")) (congrArg back)
  have next :=
    field (by decide) (Eq.refl (base.toToml.get? "next")) (congrArg next)
  have tocTitle :=
    field (by decide) (Eq.refl (base.toToml.get? "toc_title"))
      (congrArg tocTitle)
  rw [root, title, back, next, tocTitle]

end LocaleConfig

namespace PlaygroundConfig

variable {value : Value} {exact : Bool}

theorem ofToml?_of_admits (admits : schema.Admits value) :
    ofToml? true value = ofToml? false value := by
  ext config
  rw [ofToml?_eq_some_iff, ofToml?_eq_some_iff]
  exact and_congr_left'
    (iff_of_true (admits.isGroup true) (admits.isGroup false))

theorem ofToml?_merge (distinct : value.HasDistinctKeys) :
    ofToml? exact (stock.toToml.merge value) = ofToml? exact value := by
  rcases Value.isTable_cases value with noTable | ⟨added, rfl⟩
  · rw [Value.merge_of_noTable_above noTable]
  have given : ∀ key, (stock.toToml.merge (.table added)).given? keys key =
      mergeAt (stock.toToml.get? key) ((Value.table added).given? keys key) :=
    fun key => get?_mergeEntries (Value.hasDistinctKeys_table_iff.mp distinct).1
  ext config
  rw [ofToml?_eq_some_iff, ofToml?_eq_some_iff, given, given, given]
  refine and_congr (Value.isGroup_merge (fun key member => member) distinct) ?_
  refine and_congr (Eq.congr_left ?_)
    (and_congr (Eq.congr_left ?_) (Eq.congr_left ?_))
  · exact orDefault_mergeAt_setting rfl fun _ => rfl
  · exact orDefault_mergeAt_setting rfl fun _ => rfl
  · exact orDefault_mergeAt_setting rfl fun _ => rfl

end PlaygroundConfig

namespace Config

variable {value : Value} {document : Entries} {exact : Bool}

theorem localesOfToml?_of_admits (admits : localesSchema.Admits value) :
    localesOfToml? true value = localesOfToml? false value := by
  ext1 locales
  rw [localesOfToml?_eq_some_iff, localesOfToml?_eq_some_iff]
  have inner :
      ∀ {key fallback},
        List.lookup key
            [("en", LocaleConfig.schema), ("zh", LocaleConfig.schema)] =
          some LocaleConfig.schema →
            orDefault fallback (LocaleConfig.ofToml? true)
                (value.given? localeKeys key) =
              orDefault fallback (LocaleConfig.ofToml? false)
                (value.given? localeKeys key) := fun isField =>
    orDefault_congr fun part isGiven =>
      LocaleConfig.ofToml?_of_admits
        (admits.field nodup_localeKeys isField isGiven)
  rw [inner rfl, inner rfl]
  exact and_congr_left'
    (iff_of_true (admits.isGroup true) (admits.isGroup false))

theorem ofToml?_of_admits (admits : schema.Admits value) :
    ofToml? true value = ofToml? false value := by
  ext1 config
  rw [ofToml?_eq_some_iff, ofToml?_eq_some_iff]
  have locales :
      orDefault (stock.en, stock.zh) (localesOfToml? true)
          (value.given? keys "locales") =
        orDefault (stock.en, stock.zh) (localesOfToml? false)
          (value.given? keys "locales") :=
    orDefault_congr fun part isGiven =>
      localesOfToml?_of_admits (admits.field nodup_keys rfl isGiven)
  have playground :
      orDefault stock.playground (PlaygroundConfig.ofToml? true)
          (value.given? keys "playground") =
        orDefault stock.playground (PlaygroundConfig.ofToml? false)
          (value.given? keys "playground") :=
    orDefault_congr fun part isGiven =>
      PlaygroundConfig.ofToml?_of_admits (admits.field nodup_keys rfl isGiven)
  rw [locales, playground]
  exact and_congr_left'
    (iff_of_true (admits.isGroup true) (admits.isGroup false))

/-- The document gives the Chinese locale in full, if as a table at all. -/
def GivesChineseWhole (document : Value) : Prop :=
  ∀ added, document.at? ["locales", "zh"] = some (.table added) →
    ∀ key ∈ LocaleConfig.keys, key ∈ added.map Prod.fst

theorem localesOfToml?_merge (distinct : value.HasDistinctKeys)
    (whole : ∀ added,
      value.at? ["zh"] = some (.table added) →
      ∀ key ∈ LocaleConfig.keys, key ∈ added.map Prod.fst) :
    localesOfToml? exact ((localesToToml (stock.en, stock.zh)).merge value) =
      localesOfToml? exact value := by
  rcases Value.isTable_cases value with noTable | ⟨added, rfl⟩
  · rw [Value.merge_of_noTable_above noTable]
  have given :
      ∀ key,
        ((localesToToml (stock.en, stock.zh)).merge (.table added)).given?
            localeKeys key =
          mergeAt ((localesToToml (stock.en, stock.zh)).get? key)
            ((Value.table added).given? localeKeys key) := fun key =>
    get?_mergeEntries (Value.hasDistinctKeys_table_iff.mp distinct).1
  ext1 locales
  rw [localesOfToml?_eq_some_iff, localesOfToml?_eq_some_iff, given, given]
  refine and_congr (Value.isGroup_merge (fun key member => member) distinct) ?_
  refine and_congr (Eq.congr_left ?_) (Eq.congr_left ?_)
  · refine orDefault_mergeAt (fun _ => rfl) fun part isGiven => ?_
    exact LocaleConfig.ofToml?_merge
      (Value.hasDistinctKeys_of_get? distinct isGiven) (.inl rfl)
  · refine orDefault_mergeAt (fun _ => rfl) fun part isGiven => ?_
    refine LocaleConfig.ofToml?_merge
      (Value.hasDistinctKeys_of_get? distinct isGiven) (.inr ?_)
    rintro zh rfl
    exact whole zh (Value.at?_cons_eq_some_iff.mpr ⟨_, isGiven, rfl⟩)

/-- The defaults make no difference to a document that gives the Chinese locale
in full. -/
theorem ofToml?_merge (distinct : (Value.table document).HasDistinctKeys)
    (whole : GivesChineseWhole (.table document)) :
    ofToml? exact (stock.toToml.merge (.table document)) =
      ofToml? exact (.table document) := by
  have given : ∀ key, (stock.toToml.merge (.table document)).given? keys key =
      mergeAt (stock.toToml.get? key)
        ((Value.table document).given? keys key) := fun key =>
    get?_mergeEntries (Value.hasDistinctKeys_table_iff.mp distinct).1
  ext1 config
  rw [ofToml?_eq_some_iff, ofToml?_eq_some_iff, given, given, given, given,
    given]
  refine and_congr (Value.isGroup_merge (by decide) distinct) ?_
  refine and_congr (Eq.congr_left ?_)
    (and_congr (Eq.congr_left ?_) (and_congr (Eq.congr_left ?_)
      (and_congr (Eq.congr_left ?_) (Eq.congr_left ?_))))
  · exact orDefault_mergeAt_setting rfl fun _ => rfl
  · exact orDefault_mergeAt_setting rfl fun _ => rfl
  · rw [get?_toToml_template]
    exact congrArg _ (mergeAt_none _)
  · rw [get?_toToml_locales]
    refine orDefault_mergeAt (fun _ => rfl) fun part isGiven => ?_
    refine localesOfToml?_merge
      (Value.hasDistinctKeys_of_get? distinct isGiven) fun added there => ?_
    exact whole added (Value.at?_cons_eq_some_iff.mpr ⟨part, isGiven, there⟩)
  · rw [get?_toToml_playground]
    refine orDefault_mergeAt (fun _ => rfl) fun part isGiven => ?_
    exact PlaygroundConfig.ofToml?_merge
      (Value.hasDistinctKeys_of_get? distinct isGiven)

/-- A document that gives the directory of the Chinese locale and nothing else
of it. -/
def chineseRoot : Entries :=
  [("locales", .table [("zh", .table [("root", .string "cn")])])]

end Config

end LessonSite
