import LessonSite.Config.Basic
import LessonSite.Proofs.FileTree.Spelling

/-!
# Directories of the locales

The roots of the two locales are compared as texts without the slashes around
them, while directories are found by the names in a path.  Settings without a
fault keep the locales apart if both roots are spelled with nothing but names;
empty names and dots within a root can hide that it is the other one.
-/

namespace LessonSite

open FileTree

namespace LocaleConfig

variable {config : LocaleConfig} {source : String}

theorem rootNames_bareRoot (root : String) :
    rootNames (bareRoot root) = rootNames root := by
  rw [← rootNames_trim root, bareRoot]
  split
  · next dot =>
      rw [dot]
      rfl
  · rfl

theorem startsWith_bareRoot (root : String) :
    Text.startsWith "/" (bareRoot root) = false := by
  rw [bareRoot]
  split
  · rfl
  · exact startsWith_trim root

theorem rootNames_directory (config : LocaleConfig) (source : String) :
    rootNames (config.directory source) =
      rootNames source ++ rootNames config.root := by
  rw [← rootNames_bareRoot config.root, directory]
  split
  · next empty => rw [empty, rootNames_empty, List.append_nil]
  · exact rootNames_joinPath (startsWith_bareRoot config.root)

theorem startsWith_directory (config : LocaleConfig) (source : String) :
    Text.startsWith "/" (config.directory source) =
      Text.startsWith "/" source := by
  rw [directory]
  split
  · rfl
  · exact startsWith_joinPath (startsWith_bareRoot config.root)

/-- The root is the tour itself or is spelled with names only, the slashes
around it aside. -/
def IsPlain (root : String) : Prop :=
  bareRoot root = "" ∨ ∀ name ∈ pathNames (bareRoot root), moves name = true

instance (root : String) : Decidable (IsPlain root) :=
  inferInstanceAs (Decidable (_ ∨ _))

theorem bareRoot_eq_of_isPlain {root other : String} (plain : IsPlain root)
    (otherPlain : IsPlain other)
    (same : rootNames root = rootNames other) :
    bareRoot root = bareRoot other := by
  rw [← rootNames_bareRoot root, ← rootNames_bareRoot other] at same
  have some_ :
      ∀ {text : String},
        (∀ name ∈ pathNames text, moves name = true) → rootNames text ≠ [] := by
    intro text all
    rw [rootNames, List.filter_eq_self.mpr all]
    exact pathNames_ne_nil text
  rcases plain with empty | names <;>
    rcases otherPlain with otherEmpty | otherNames
  · rw [empty, otherEmpty]
  · rw [empty] at same
    exact absurd same.symm (some_ otherNames)
  · rw [otherEmpty] at same
    exact absurd same (some_ names)
  · rw [rootNames, rootNames, List.filter_eq_self.mpr names,
      List.filter_eq_self.mpr otherNames] at same
    exact pathNames_injective same

end LocaleConfig

namespace Config

open LocaleConfig (IsPlain bareRoot)

variable {config : Config}

theorem fault?_eq_none_iff :
    config.fault? = none ↔
      ¬(config.codeExtension = "" ∨
          Text.startsWith "." config.codeExtension = true) ∧
        (∀ locale, Text.isBlankText (config.locale locale).title = false) ∧
        bareRoot config.en.root ≠ bareRoot config.zh.root ∧
        config.playground.debounce ≠ 0 := by
  have titles :
      (∀ locale, Text.isBlankText (config.locale locale).title = false) ↔
        Text.isBlankText config.en.title = false ∧
          Text.isBlankText config.zh.title = false :=
    ⟨fun all => ⟨all .en, all .zh⟩,
      fun both locale => by cases locale <;> simp [locale, both]⟩
  rw [titles, fault?]
  split_ifs <;> simp_all

/-- Settings without a fault give both locales one directory just if the names
in their roots are the same.  That takes a root that is not plain. -/
theorem sameDirectory_iff (faultless : config.fault? = none) (source : String) :
    (SameDirectory (config.en.directory source) (config.zh.directory source) ↔
        rootNames config.en.root = rootNames config.zh.root) ∧
      (IsPlain config.en.root → IsPlain config.zh.root →
        ¬SameDirectory (config.en.directory source)
          (config.zh.directory source)) := by
  have exact_ :
      SameDirectory (config.en.directory source) (config.zh.directory source) ↔
        rootNames config.en.root = rootNames config.zh.root := by
    rw [SameDirectory, LocaleConfig.startsWith_directory,
      LocaleConfig.startsWith_directory, LocaleConfig.rootNames_directory,
      LocaleConfig.rootNames_directory, List.append_cancel_left_eq]
    exact and_iff_right rfl
  refine ⟨exact_, fun plain otherPlain same =>
    (fault?_eq_none_iff.mp faultless).2.2.1 ?_⟩
  exact LocaleConfig.bareRoot_eq_of_isPlain plain otherPlain (exact_.mp same)

theorem sameDirectory_stock :
    stock.fault? = none ∧ IsPlain stock.en.root ∧ IsPlain stock.zh.root ∧
      ¬SameDirectory (stock.en.directory "tour")
        (stock.zh.directory "tour") := by
  have faultless : stock.fault? = none := by decide
  have plain : IsPlain stock.en.root := by decide
  have otherPlain : IsPlain stock.zh.root := by decide
  exact ⟨faultless, plain, otherPlain,
    (sameDirectory_iff faultless "tour").2 plain otherPlain⟩

/-- Settings whose Chinese root is the tour itself, spelled with two dots and a
slash. -/
def dottedRoot : Config :=
  { stock with zh := { LocaleConfig.chinese with root := "./." } }

theorem sameDirectory_dottedRoot :
    dottedRoot.fault? = none ∧
      SameDirectory (dottedRoot.en.directory "tour")
        (dottedRoot.zh.directory "tour") := by
  decide

end Config

end LessonSite
