import LessonSite.Proofs.Config.Settings

/-!
# Settings over the defaults

A settings document is laid over the default document and then read.  Nothing
unknown passes, at no depth; every setting that the document gives comes out as
it is given, and every setting that it leaves alone has the default for its
place.
-/

namespace LessonSite.Config

open Toml

variable {overlay : Entries} {config : Config} {path : List String}
  {form : Form} {value : Value}

/-- What has been read, if it can be used. -/
def checked : Option Config → Except Error Config
  | none => .error .malformed
  | some config =>
      match config.fault? with
      | some fault => .error (.invalid fault)
      | none => .ok config

theorem checked_eq_ok_iff {read : Option Config} :
    checked read = .ok config ↔ read = some config ∧ config.fault? = none := by
  cases read with
  | none => simp [checked]
  | some other =>
      cases faulty : other.fault? with
      | none =>
          simp only [checked, faulty, Except.ok.injEq, Option.some.injEq]
          exact ⟨fun same => ⟨same, same ▸ faulty⟩, And.left⟩
      | some fault =>
          simp only [checked, faulty, reduceCtorEq, Option.some.injEq,
            false_iff, not_and]
          rintro rfl
          simp [faulty]

theorem resolve_eq_checked :
    resolve (some overlay) =
      checked (ofToml? true (stock.toToml.merge (.table overlay))) := by
  cases read : ofToml? true (stock.toToml.merge (.table overlay)) with
  | none => simp only [resolve, read, checked]
  | some config =>
      cases faulty : config.fault? <;>
        simp only [resolve, read, checked, faulty]

theorem resolve_eq_ok_iff :
    resolve (some overlay) = .ok config ↔
      ofToml? true (stock.toToml.merge (.table overlay)) = some config ∧
        config.fault? = none := by
  rw [resolve_eq_checked, checked_eq_ok_iff]

end LessonSite.Config
