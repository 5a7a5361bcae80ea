import Mathlib.Data.List.Forall2

/-!
# Steps that succeed

What is known of the parts of a computation that has not failed.
-/

namespace LessonSite

variable {α β ε δ : Type}

theorem bind_eq_ok_iff {first : Except ε α} {next : α → Except ε β}
    {result : β} :
    first >>= next = .ok result ↔
      ∃ value, first = .ok value ∧ next value = .ok result := by
  cases first with
  | error fault =>
      constructor
      · intro ok
        cases ok
      · rintro ⟨value, ok, -⟩
        cases ok
  | ok value =>
      constructor
      · intro ok
        exact ⟨value, rfl, ok⟩
      · rintro ⟨other, same, ok⟩
        cases same
        exact ok

theorem exists_bind_eq_ok_iff {first : Except ε α} {next : α → Except ε β} :
    (∃ result, first >>= next = .ok result) ↔
      ∃ value, first = .ok value ∧ ∃ result, next value = .ok result := by
  simp only [bind_eq_ok_iff]
  constructor
  · rintro ⟨result, value, here, there⟩
    exact ⟨value, here, result, there⟩
  · rintro ⟨value, here, result, there⟩
    exact ⟨result, value, here, there⟩

@[simp] theorem mapError_ok (change : ε → δ) (value : α) :
    (Except.ok value : Except ε α).mapError change = .ok value := rfl

@[simp] theorem mapError_error (change : ε → δ) (fault : ε) :
    (Except.error fault : Except ε α).mapError change = .error (change fault) :=
  rfl

theorem eq_ok_of_toOption {result : Except ε α} {value : α}
    (same : result.toOption = some value) :
    result = .ok value := by
  cases result with
  | error fault => cases same
  | ok other => exact congrArg _ (Option.some.inj same)

/-- Steps over a list succeed just if each of them does. -/
theorem mapM_eq_ok_iff_forall₂ {step : α → Except ε β} {sources : List α}
    {results : List β} :
    sources.mapM step = .ok results ↔
      List.Forall₂ (fun source result => step source = .ok result) sources
        results := by
  induction sources generalizing results with
  | nil =>
      rw [List.forall₂_nil_left_iff, List.mapM_nil]
      exact ⟨fun same => (Except.ok.inj same).symm, fun same =>
        congrArg _ same.symm⟩
  | cons source sources induction =>
      rw [List.mapM_cons, bind_eq_ok_iff, List.forall₂_cons_left_iff]
      constructor
      · rintro ⟨value, first, ok⟩
        obtain ⟨values, rest, ok⟩ := bind_eq_ok_iff.mp ok
        cases ok
        exact ⟨value, values, first, induction.mp rest, rfl⟩
      · rintro ⟨value, values, first, rest, rfl⟩
        refine ⟨value, first,
          bind_eq_ok_iff.mpr ⟨values, induction.mpr rest, rfl⟩⟩

theorem forall₂_of_mapM_eq_ok {step : α → Except ε β} {related : α → β → Prop}
    {sources : List α} {results : List β}
    (each : ∀ source result,
      source ∈ sources → step source = .ok result → related source result)
    (ok : sources.mapM step = .ok results) :
    List.Forall₂ related sources results := by
  have inside := (List.forall₂_and_left sources results).mpr
    ⟨fun _ member => member, mapM_eq_ok_iff_forall₂.mp ok⟩
  exact inside.imp fun source result both => each source result both.1 both.2

theorem exists_of_forall₂ {related : α → β → Prop} {sources : List α}
    {results : List β}
    (all : List.Forall₂ related sources results) {source : α}
    (member : source ∈ sources) :
    ∃ result ∈ results, related source result := by
  induction all with
  | nil => cases member
  | cons first _ induction =>
      rcases List.mem_cons.mp member with rfl | later
      · exact ⟨_, List.mem_cons_self, first⟩
      · obtain ⟨result, found, same⟩ := induction later
        exact ⟨result, List.mem_cons_of_mem _ found, same⟩

theorem exists_of_mapM_eq_ok {step : α → Except ε β} {sources : List α}
    {results : List β}
    (ok : sources.mapM step = .ok results) {source : α}
    (member : source ∈ sources) :
    ∃ result ∈ results, step source = .ok result :=
  exists_of_forall₂ (mapM_eq_ok_iff_forall₂.mp ok) member

theorem mem_of_mapM_eq_ok {step : α → Except ε β} {sources : List α}
    {results : List β}
    (ok : sources.mapM step = .ok results) {result : β}
    (member : result ∈ results) :
    ∃ source ∈ sources, step source = .ok result :=
  exists_of_forall₂ (mapM_eq_ok_iff_forall₂.mp ok).flip member

/-- What each step keeps of its source is kept of the whole list, in its
order. -/
theorem map_eq_of_mapM_eq_ok {γ : Type} {step : α → Except ε β} {before : α → γ}
    {after : β → γ}
    (keeps : ∀ source result,
      step source = .ok result → after result = before source)
    {sources : List α} {results : List β}
    (ok : sources.mapM step = .ok results) :
    results.map after = sources.map before := by
  have kept :
      List.Forall₂ (fun source result => after result = before source)
        sources results :=
    forall₂_of_mapM_eq_ok
      (fun source result _ one => keeps source result one) ok
  have same :=
    List.forall₂_map_left_iff.mpr (List.forall₂_map_right_iff.mpr kept.flip)
  rwa [List.forall₂_eq_eq_eq] at same

theorem mapM_map_eq_ok {γ : Type} {step : β → Except ε δ} {before : γ → β}
    {after : γ → δ} {sources : List γ}
    (ok : ∀ source ∈ sources, step (before source) = .ok (after source)) :
    (sources.map before).mapM step = .ok (sources.map after) := by
  rw [mapM_eq_ok_iff_forall₂, List.forall₂_map_left_iff,
    List.forall₂_map_right_iff, List.forall₂_same]
  exact ok

theorem mapM_eq_ok_of_forall {step : α → Except ε β} {result : α → β}
    {sources : List α}
    (ok : ∀ source ∈ sources, step source = .ok (result source)) :
    sources.mapM step = .ok (sources.map result) := by
  rw [mapM_eq_ok_iff_forall₂, List.forall₂_map_right_iff, List.forall₂_same]
  exact ok

theorem exists_mapM_eq_ok_iff {step : α → Except ε β} {sources : List α} :
    (∃ results, sources.mapM step = .ok results) ↔
      ∀ source ∈ sources, ∃ result, step source = .ok result := by
  induction sources with
  | nil =>
      refine iff_of_true ⟨[], rfl⟩ ?_
      intro source member
      cases member
  | cons source sources induction =>
      rw [List.forall_mem_cons, ← induction, List.mapM_cons]
      constructor
      · rintro ⟨results, ok⟩
        obtain ⟨value, first, ok⟩ := bind_eq_ok_iff.mp ok
        obtain ⟨values, rest, -⟩ := bind_eq_ok_iff.mp ok
        exact ⟨⟨value, first⟩, values, rest⟩
      · rintro ⟨⟨value, first⟩, values, rest⟩
        rw [first, rest]
        exact ⟨value :: values, rfl⟩

end LessonSite
