import LessonSite.Proofs.Config.Schema

/-!
# Settings by their schema

The schema that the settings of a site are read by, group by group.  What the
reader of a group does is said once for each group: what the value for each of
its keys has to be.
-/

namespace LessonSite

open Toml

section

variable {Setting : Type} {fallback setting : Setting}
  {read : Value → Option Setting} {write : Setting → Value}
  {schema : Schema} {found : Option Value}

theorem orDefault_some {value : Value}
    (isRead : orDefault fallback read found = some setting)
    (isGiven : found = some value) : read value = some setting := by
  subst isGiven
  exact isRead

/-- A field that is given is admitted, and kept by what is written for the whole
group. -/
theorem field_of_isReadBy (isReadBy : schema.IsReadBy read write)
    (isRead : orDefault fallback read found = some setting) {value : Value}
    (isGiven : found = some value)
    {group : Value} {key : String}
    (isWritten : group.get? key = some (write setting)) :
    schema.Admits value ∧
      ∃ written, group.get? key = some written ∧ schema.Keeps value written :=
  ⟨isReadBy.admits (orDefault_some isRead isGiven), write setting, isWritten,
    isReadBy.keeps (orDefault_some isRead isGiven)⟩

end

theorem isReadBy_text :
    (Schema.setting .text).IsReadBy (·.text?) Value.string := by
  refine Schema.isReadBy_setting
    (fun {value text} isRead => ?_) fun text => ⟨text, rfl⟩
  cases value with
  | string text => exact congrArg Value.string (Option.some.inj isRead)
  | _ => cases isRead

theorem isReadBy_truth :
    (Schema.setting .truth).IsReadBy (·.boolean?) Value.boolean := by
  refine Schema.isReadBy_setting
    (fun {value flag} isRead => ?_) fun flag => ⟨flag, rfl⟩
  cases value with
  | boolean flag => exact congrArg Value.boolean (Option.some.inj isRead)
  | _ => cases isRead

theorem isReadBy_number :
    (Schema.setting .number).IsReadBy (·.natural?) fun number =>
      Value.integer number := by
  refine Schema.isReadBy_setting (fun {value number} isRead => ?_) fun number =>
    ⟨number, rfl⟩
  unfold Value.natural? at isRead
  split at isRead
  · cases isRead
    rfl
  · cases isRead

theorem isReadBy_texts :
    (Schema.setting .texts).IsReadBy (·.texts?) fun texts =>
      Value.array (texts.map .string) := by
  refine Schema.isReadBy_setting (fun {value texts} isRead => ?_) fun texts =>
    ⟨texts, rfl⟩
  cases value with
  | array values =>
      refine congrArg Value.array ?_
      rw [Value.texts?] at isRead
      induction values generalizing texts with
      | nil =>
          cases isRead
          rfl
      | cons first values induction =>
          rw [List.mapM_cons] at isRead
          obtain ⟨text, isText, isRead⟩ := Option.bind_eq_some_iff.mp isRead
          obtain ⟨others, areTexts, ⟨⟩⟩ := Option.bind_eq_some_iff.mp isRead
          cases first with
          | string text =>
              cases isText
              rw [List.map_cons, ← induction areTexts]
          | _ => cases isText
  | _ => cases isRead

namespace LocaleConfig

/-- The schema of a locale's settings. -/
def schema : Schema :=
  .group
    [("root", .setting .text), ("title", .setting .text),
      ("back", .setting .text), ("next", .setting .text),
      ("toc_title", .setting .text)]

theorem nodup_keys : keys.Nodup := by decide

theorem ofToml?_eq_some_iff {exact : Bool} {value : Value}
    {config : LocaleConfig} :
    ofToml? exact value = some config ↔ value.IsGroup exact keys ∧
      orDefault english.root (·.text?) (value.given? keys "root") =
        some config.root ∧
      orDefault english.title (·.text?) (value.given? keys "title") =
        some config.title ∧
      orDefault english.back (·.text?) (value.given? keys "back") =
        some config.back ∧
      orDefault english.next (·.text?) (value.given? keys "next") =
        some config.next ∧
      orDefault english.tocTitle (·.text?) (value.given? keys "toc_title") =
        some config.tocTitle := by
  unfold ofToml?
  simp only [Option.bind_eq_bind, Option.bind_eq_some_iff,
    Value.group?_eq_some_iff nodup_keys]
  constructor
  · rintro ⟨found, ⟨isGroup, rfl⟩, read⟩
    simp only [keys, List.map_cons, List.map_nil,
      Option.bind_eq_some_iff] at read
    obtain ⟨root, isRoot, title, isTitle, back, isBack, next, isNext, tocTitle,
      isTocTitle, ⟨⟩⟩ := read
    exact ⟨isGroup, isRoot, isTitle, isBack, isNext, isTocTitle⟩
  · rintro ⟨isGroup, isRoot, isTitle, isBack, isNext, isTocTitle⟩
    refine ⟨_, ⟨isGroup, rfl⟩, ?_⟩
    simp only [keys, List.map_cons, List.map_nil, Option.bind_eq_some_iff]
    exact ⟨_, isRoot, _, isTitle, _, isBack, _, isNext, _, isTocTitle, rfl⟩

theorem isReadBy : schema.IsReadBy (ofToml? true) toToml := by
  refine Schema.isReadBy_group (by decide)
    (fun isRead => (ofToml?_eq_some_iff.mp isRead).1) ?_
  intro value config isRead field member given isGiven
  obtain ⟨-, isRoot, isTitle, isBack, isNext, isTocTitle⟩ :=
    ofToml?_eq_some_iff.mp isRead
  simp only [List.mem_cons, List.not_mem_nil, or_false] at member
  rcases member with rfl | rfl | rfl | rfl | rfl
  · exact field_of_isReadBy isReadBy_text isRoot isGiven rfl
  · exact field_of_isReadBy isReadBy_text isTitle isGiven rfl
  · exact field_of_isReadBy isReadBy_text isBack isGiven rfl
  · exact field_of_isReadBy isReadBy_text isNext isGiven rfl
  · exact field_of_isReadBy isReadBy_text isTocTitle isGiven rfl

end LocaleConfig

namespace PlaygroundConfig

/-- The schema of the playground's settings. -/
def schema : Schema :=
  .group
    [("debounce_ms", .setting .number), ("compiler", .setting .texts),
      ("runner", .setting .texts)]

theorem nodup_keys : keys.Nodup := by decide

theorem ofToml?_eq_some_iff {exact : Bool} {value : Value}
    {config : PlaygroundConfig} :
    ofToml? exact value = some config ↔ value.IsGroup exact keys ∧
      orDefault stock.debounce (·.natural?) (value.given? keys "debounce_ms") =
        some config.debounce ∧
      orDefault stock.compiler (·.texts?) (value.given? keys "compiler") =
        some config.compiler ∧
      orDefault stock.runner (·.texts?) (value.given? keys "runner") =
        some config.runner := by
  unfold ofToml?
  simp only [Option.bind_eq_bind, Option.bind_eq_some_iff,
    Value.group?_eq_some_iff nodup_keys]
  constructor
  · rintro ⟨found, ⟨isGroup, rfl⟩, read⟩
    simp only [keys, List.map_cons, List.map_nil,
      Option.bind_eq_some_iff] at read
    obtain ⟨debounce, isDebounce, compiler, isCompiler, runner, isRunner, ⟨⟩⟩ :=
      read
    exact ⟨isGroup, isDebounce, isCompiler, isRunner⟩
  · rintro ⟨isGroup, isDebounce, isCompiler, isRunner⟩
    refine ⟨_, ⟨isGroup, rfl⟩, ?_⟩
    simp only [keys, List.map_cons, List.map_nil, Option.bind_eq_some_iff]
    exact ⟨_, isDebounce, _, isCompiler, _, isRunner, rfl⟩

theorem isReadBy : schema.IsReadBy (ofToml? true) toToml := by
  refine Schema.isReadBy_group (by decide)
    (fun isRead => (ofToml?_eq_some_iff.mp isRead).1) ?_
  intro value config isRead field member given isGiven
  obtain ⟨-, isDebounce, isCompiler, isRunner⟩ := ofToml?_eq_some_iff.mp isRead
  simp only [List.mem_cons, List.not_mem_nil, or_false] at member
  rcases member with rfl | rfl | rfl
  · exact field_of_isReadBy isReadBy_number isDebounce isGiven rfl
  · exact field_of_isReadBy isReadBy_texts isCompiler isGiven rfl
  · exact field_of_isReadBy isReadBy_texts isRunner isGiven rfl

end PlaygroundConfig

namespace Config

variable {exact : Bool} {value : Value} {config : Config}

abbrev localeKeys : List String :=
  ["en", "zh"]

/-- The schema of the settings of both locales. -/
def localesSchema : Schema :=
  .group [("en", LocaleConfig.schema), ("zh", LocaleConfig.schema)]

/-- The settings of both locales as a table. -/
def localesToToml (locales : LocaleConfig × LocaleConfig) : Value :=
  .table [("en", locales.1.toToml), ("zh", locales.2.toToml)]

def schema : Schema :=
  .group
    [("code_extension", .setting .text), ("toc_page", .setting .truth),
      ("template", .setting .text), ("locales", localesSchema),
      ("playground", PlaygroundConfig.schema)]

theorem nodup_localeKeys : localeKeys.Nodup := by decide

theorem nodup_keys : keys.Nodup := by decide

theorem localesOfToml?_eq_some_iff {locales : LocaleConfig × LocaleConfig} :
    localesOfToml? exact value = some locales ↔ value.IsGroup exact localeKeys ∧
      orDefault stock.en (LocaleConfig.ofToml? exact)
        (value.given? localeKeys "en") = some locales.1 ∧
      orDefault stock.zh (LocaleConfig.ofToml? exact)
        (value.given? localeKeys "zh") = some locales.2 := by
  unfold localesOfToml?
  simp only [Option.bind_eq_bind, Option.bind_eq_some_iff,
    Value.group?_eq_some_iff nodup_localeKeys]
  constructor
  · rintro ⟨found, ⟨isGroup, rfl⟩, read⟩
    simp only [List.map_cons, List.map_nil, Option.bind_eq_some_iff] at read
    obtain ⟨en, isEn, zh, isZh, ⟨⟩⟩ := read
    exact ⟨isGroup, isEn, isZh⟩
  · rintro ⟨isGroup, isEn, isZh⟩
    refine ⟨_, ⟨isGroup, rfl⟩, ?_⟩
    simp only [List.map_cons, List.map_nil, Option.bind_eq_some_iff]
    exact ⟨_, isEn, _, isZh, rfl⟩

theorem ofToml?_eq_some_iff :
    ofToml? exact value = some config ↔ value.IsGroup exact keys ∧
      orDefault stock.codeExtension (·.text?)
        (value.given? keys "code_extension") = some config.codeExtension ∧
      orDefault stock.tocPage (·.boolean?) (value.given? keys "toc_page") =
        some config.tocPage ∧
      orDefault stock.template (fun value => value.text?.map some)
          (value.given? keys "template") =
        some config.template ∧
      orDefault (stock.en, stock.zh) (localesOfToml? exact)
          (value.given? keys "locales") =
        some (config.en, config.zh) ∧
      orDefault stock.playground (PlaygroundConfig.ofToml? exact)
          (value.given? keys "playground") =
        some config.playground := by
  unfold ofToml?
  simp only [Option.bind_eq_bind, Option.bind_eq_some_iff,
    Value.group?_eq_some_iff nodup_keys]
  constructor
  · rintro ⟨found, ⟨isGroup, rfl⟩, read⟩
    simp only [keys, List.map_cons, List.map_nil,
      Option.bind_eq_some_iff] at read
    obtain ⟨locales, areLocales, codeExtension, isExtension, tocPage, isPage,
      template, isTemplate, playground, isPlayground, ⟨⟩⟩ := read
    exact ⟨isGroup, isExtension, isPage, isTemplate, areLocales, isPlayground⟩
  · rintro ⟨isGroup, isExtension, isPage, isTemplate, areLocales, isPlayground⟩
    refine ⟨_, ⟨isGroup, rfl⟩, ?_⟩
    simp only [keys, List.map_cons, List.map_nil, Option.bind_eq_some_iff]
    exact ⟨_, areLocales, _, isExtension, _, isPage, _, isTemplate, _,
      isPlayground, rfl⟩

theorem isReadBy_locales :
    localesSchema.IsReadBy (localesOfToml? true) localesToToml := by
  refine Schema.isReadBy_group (by decide)
    (fun isRead => (localesOfToml?_eq_some_iff.mp isRead).1) ?_
  intro value locales isRead field member given isGiven
  obtain ⟨-, isEn, isZh⟩ := localesOfToml?_eq_some_iff.mp isRead
  simp only [List.mem_cons, List.not_mem_nil, or_false] at member
  rcases member with rfl | rfl
  · exact field_of_isReadBy LocaleConfig.isReadBy isEn isGiven rfl
  · exact field_of_isReadBy LocaleConfig.isReadBy isZh isGiven rfl

@[simp] theorem get?_toToml_codeExtension :
    config.toToml.get? "code_extension" = some (.string config.codeExtension) :=
  rfl

@[simp] theorem get?_toToml_tocPage :
    config.toToml.get? "toc_page" = some (.boolean config.tocPage) := rfl

@[simp] theorem get?_toToml_template :
    config.toToml.get? "template" = config.template.map .string := by
  cases template : config.template <;>
    simp [toToml, Value.get?, template, Entries.get?_cons]

@[simp] theorem get?_toToml_locales :
    config.toToml.get? "locales" =
      some (localesToToml (config.en, config.zh)) := by
  cases template : config.template <;>
    simp [toToml, Value.get?, template, Entries.get?_cons, localesToToml]

@[simp] theorem get?_toToml_playground :
    config.toToml.get? "playground" = some config.playground.toToml := by
  cases template : config.template <;>
    simp [toToml, Value.get?, template, Entries.get?_cons]

theorem isReadBy : schema.IsReadBy (ofToml? true) toToml := by
  refine Schema.isReadBy_group (by decide)
    (fun isRead => (ofToml?_eq_some_iff.mp isRead).1) ?_
  intro value config isRead field member given isGiven
  obtain ⟨-, isExtension, isPage, isTemplate, areLocales, isPlayground⟩ :=
    ofToml?_eq_some_iff.mp isRead
  simp only [List.mem_cons, List.not_mem_nil, or_false] at member
  rcases member with rfl | rfl | rfl | rfl | rfl
  · exact field_of_isReadBy isReadBy_text isExtension isGiven
      get?_toToml_codeExtension
  · exact field_of_isReadBy isReadBy_truth isPage isGiven get?_toToml_tocPage
  · obtain ⟨template, isText, isSome⟩ :=
      Option.map_eq_some_iff.mp (orDefault_some isTemplate isGiven)
    refine ⟨isReadBy_text.admits isText, .string template, ?_,
      isReadBy_text.keeps isText⟩
    rw [get?_toToml_template, ← isSome]
    rfl
  · exact field_of_isReadBy isReadBy_locales areLocales isGiven
      get?_toToml_locales
  · exact field_of_isReadBy PlaygroundConfig.isReadBy isPlayground isGiven
      get?_toToml_playground

end Config

end LessonSite
