import LessonSite.Proofs.Except
import LessonSite.Tour.Reader

/-!
# Counted lessons

Lessons are counted chapter by chapter, and the count goes on from one chapter
to the next, so that each lesson of a locale has its place among all of them.
-/

namespace LessonSite

/-- Each lesson knows its place and how many there are, and there are
lessons. -/
structure LocaleTour.IsCounted (part : LocaleTour) : Prop where
  nonempty : part.lessons ≠ []
  counted : part.lessons.map (fun lesson => (lesson.index, lesson.total)) =
    (List.range part.lessons.length).map fun position =>
      (position, part.lessons.length)

namespace Chapter

variable {total next : Nat}

theorem countLessons_append (lessons others : List Lesson) :
    countLessons total next (lessons ++ others) =
      countLessons total next lessons ++
        countLessons total (next + lessons.length) others := by
  induction lessons generalizing next with
  | nil => rfl
  | cons lesson lessons induction =>
      rw [List.cons_append, countLessons, countLessons, induction,
        List.length_cons, List.cons_append, Nat.add_right_comm, Nat.add_assoc]

/-- Whether lessons are counted chapter by chapter or at once makes no
difference. -/
theorem flatMap_lessons_countFrom (chapters : List Chapter) :
    (countFrom total next chapters).flatMap lessons =
      countLessons total next (chapters.flatMap lessons) := by
  induction chapters generalizing next with
  | nil => rfl
  | cons chapter chapters induction =>
      rw [countFrom, List.flatMap_cons, List.flatMap_cons, induction,
        countLessons_append]

theorem length_countLessons (lessons : List Lesson) :
    (countLessons total next lessons).length = lessons.length := by
  induction lessons generalizing next with
  | nil => rfl
  | cons lesson lessons induction =>
      rw [countLessons, List.length_cons, induction, List.length_cons]

/-- Counting lessons changes nothing about them but their places. -/
theorem map_countLessons {Part : Type} {part : Lesson → Part}
    (same : ∀ lesson index, part { lesson with index, total } = part lesson)
    (lessons : List Lesson) :
    (countLessons total next lessons).map part = lessons.map part := by
  induction lessons generalizing next with
  | nil => rfl
  | cons lesson lessons induction =>
      rw [countLessons, List.map_cons, same, induction, List.map_cons]

theorem map_countFrom {Part : Type} {part : Chapter → Part}
    (same : ∀ chapter lessons, part { chapter with lessons } = part chapter)
    (chapters : List Chapter) :
    (countFrom total next chapters).map part = chapters.map part := by
  induction chapters generalizing next with
  | nil => rfl
  | cons chapter chapters induction =>
      rw [countFrom, List.map_cons, same, induction, List.map_cons]

theorem places_countLessons (lessons : List Lesson) :
    (countLessons total next lessons).map
        (fun lesson => (lesson.index, lesson.total)) =
      (List.range' next lessons.length).map fun position =>
        (position, total) := by
  induction lessons generalizing next with
  | nil => rfl
  | cons lesson lessons induction =>
      rw [countLessons, List.map_cons, induction, List.length_cons,
        List.range'_succ, List.map_cons]

end Chapter

theorem LocaleTour.isCounted_countAll (locale : Locale) (intro_ : Intro)
    {chapters : List Chapter}
    (nonempty : chapters.flatMap Chapter.lessons ≠ []) :
    (LocaleTour.mk locale intro_ (Chapter.countAll chapters)).IsCounted := by
  have counted :
      (LocaleTour.mk locale intro_ (Chapter.countAll chapters)).lessons =
        Chapter.countLessons (chapters.flatMap Chapter.lessons).length 0
          (chapters.flatMap Chapter.lessons) :=
    Chapter.flatMap_lessons_countFrom chapters
  constructor
  · rw [counted]
    intro empty
    have length := congrArg List.length empty
    rw [Chapter.length_countLessons] at length
    exact nonempty (List.length_eq_zero_iff.mp length)
  · rw [counted, Chapter.places_countLessons, Chapter.length_countLessons,
      List.range_eq_range']

variable {tree : FileTree}

theorem Chapter.lessons_ne_nil_of_read {extension root : String}
    {locale : Locale} {directory : NumberedDirectory} {chapter : Chapter}
    (ok : Chapter.read tree extension locale root directory = .ok chapter) :
    chapter.lessons ≠ [] := by
  unfold Chapter.read at ok
  obtain ⟨found, -, ok⟩ := bind_eq_ok_iff.mp ok
  obtain ⟨lessons, -, ok⟩ := bind_eq_ok_iff.mp ok
  split at ok
  · cases ok
  · next some_ =>
      cases ok
      simpa using some_

theorem LocaleTour.isCounted_of_read {locale : Locale} {extension root : String}
    {skipped : List String} {part : LocaleTour}
    (ok : LocaleTour.read tree locale extension root skipped = .ok part) :
    part.locale = locale ∧ part.IsCounted := by
  unfold LocaleTour.read at ok
  obtain ⟨⟨markdown, code⟩, -, ok⟩ := bind_eq_ok_iff.mp ok
  obtain ⟨found, -, ok⟩ := bind_eq_ok_iff.mp ok
  obtain ⟨chapters, read, ok⟩ := bind_eq_ok_iff.mp ok
  split at ok
  · cases ok
  · next some_ =>
      cases ok
      refine ⟨rfl, isCounted_countAll _ _ ?_⟩
      cases chapters with
      | nil => simp at some_
      | cons chapter chapters =>
          obtain ⟨source, -, one⟩ := mem_of_mapM_eq_ok read List.mem_cons_self
          have lessons := Chapter.lessons_ne_nil_of_read one
          simp [lessons]

/-- A tour that has been read has a part for each locale, each with its lessons
counted. -/
theorem Tour.isCounted_of_read {source : String} {config : Config} {tour : Tour}
    (ok : Tour.read tree source config = .ok tour) :
    tour.locales.map LocaleTour.locale = Locale.all ∧
      ∀ part ∈ tour.locales, part.IsCounted := by
  unfold Tour.read at ok
  obtain ⟨parts, read, ok⟩ := bind_eq_ok_iff.mp ok
  cases ok
  constructor
  · rw [map_eq_of_mapM_eq_ok
      (fun _ _ one => (LocaleTour.isCounted_of_read one).1) read, List.map_id']
  · intro part member
    obtain ⟨locale, -, one⟩ := mem_of_mapM_eq_ok read member
    exact (LocaleTour.isCounted_of_read one).2

end LessonSite
