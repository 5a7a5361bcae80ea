import LessonSite.EntryName
import LessonSite.Text.Blank
import LessonSite.Locale

/-!
# Lessons and tours

A tour has one part per locale: an introduction and numbered chapters of
lessons.  Each lesson knows its place among all lessons of its locale.
-/

namespace LessonSite

/-- One lesson, with its text, its program and its place in the locale. -/
structure Lesson where
  chapter : String
  lesson : String
  index : Nat
  total : Nat
  markdown : String
  code : String
  locale : Locale
  sourceDir : String
  deriving DecidableEq, Repr

/-- The path inside the site of a lesson with the given names. -/
def lessonSlug (locale : Locale) (chapter lesson : String) : String :=
  locale.prefixed (slugSegment chapter ++ "/" ++ slugSegment lesson)

/-- The path of a lesson inside the site. -/
def Lesson.slug (lesson : Lesson) : String :=
  lessonSlug lesson.locale lesson.chapter lesson.lesson

/-- A numbered chapter and its lessons. -/
structure Chapter where
  name : String
  number : UInt32
  sourceDir : String
  lessons : List Lesson
  deriving DecidableEq, Repr

/-- The text and program of the page a locale opens with. -/
structure Intro where
  markdown : String
  code : String
  deriving DecidableEq, Repr

/-- The part of a tour written in one language. -/
structure LocaleTour where
  locale : Locale
  intro : Intro
  chapters : List Chapter
  deriving DecidableEq, Repr

/-- All lessons of the locale, in reading order. -/
def LocaleTour.lessons (tour : LocaleTour) : List Lesson :=
  tour.chapters.flatMap Chapter.lessons

/-- A tour in all its languages. -/
structure Tour where
  locales : List LocaleTour
  deriving DecidableEq, Repr

namespace Tour

/-- All lessons, locale after locale. -/
def lessons (tour : Tour) : List Lesson :=
  tour.locales.flatMap LocaleTour.lessons

/-- The part of the tour in the given language. -/
def locale? (tour : Tour) (locale : Locale) : Option LocaleTour :=
  tour.locales.find? fun part => part.locale = locale

/-- A slug without the slashes around it. -/
def bareSlug (slug : String) : String :=
  Text.trimMatches (· = '/') slug

/-- The first lesson whose path is the given slug, slashes around it aside. -/
def findLesson? (tour : Tour) (slug : String) : Option Lesson :=
  tour.lessons.find? fun lesson => lesson.slug = bareSlug slug

end Tour

end LessonSite
