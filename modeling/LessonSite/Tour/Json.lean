import LessonSite.Json.Value
import LessonSite.Lesson

/-!
# Tours as JSON

The members of tours, chapters and lessons in their fixed order.
-/

namespace LessonSite

def Lesson.toJson (lesson : Lesson) : Json :=
  .object
    [("chapter", .string lesson.chapter), ("lesson", .string lesson.lesson),
      ("index", .integer lesson.index), ("total", .integer lesson.total),
      ("markdown", .string lesson.markdown), ("code", .string lesson.code),
      ("locale", .string lesson.locale.code),
      ("source_dir", .string lesson.sourceDir)]

def Chapter.toJson (chapter : Chapter) : Json :=
  .object
    [("name", .string chapter.name), ("number", .integer chapter.number.toNat),
      ("source_dir", .string chapter.sourceDir),
      ("lessons", .array (chapter.lessons.map (·.toJson)))]

/-- The part of a tour in one language as a JSON object. -/
def LocaleTour.toJson (tour : LocaleTour) : Json :=
  .object
    [("locale", .string tour.locale.code),
      ("intro", .object
        [("markdown", .string tour.intro.markdown),
          ("code", .string tour.intro.code)]),
      ("chapters", .array (tour.chapters.map (·.toJson)))]

def Tour.toJson (tour : Tour) : Json :=
  .object [("locales", .array (tour.locales.map (·.toJson)))]

end LessonSite
