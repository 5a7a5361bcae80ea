import LessonSite.Contents.Basic
import LessonSite.Url.Reader

/-!
# The page shown in a table of contents

Where a page is shown, the first link that leads to it is active, and only its
chapter is expanded.
-/

namespace LessonSite

/-- The link leads to the address, from where the address is shown. -/
def ContentsLink.leadsTo (link : ContentsLink) (location : Url) : Bool :=
  match location.join link.href with
  | .ok target => target.write == location.write
  | .error _ => false

namespace Contents

/-- Marks the first link for which the test holds, unless one has been marked
before, and says whether one has been marked. -/
def markFirst (isTarget : ContentsLink → Bool) (found : Bool) :
    List ContentsLink → List ContentsLink × Bool
  | [] => ([], found)
  | link :: links =>
      let active := !found && isTarget link
      let (marked, foundAfter) := markFirst isTarget (found || active) links
      ({ link with active } :: marked, foundAfter)

/-- Marks the first link of all chapters for which the test holds; the position
is that of its chapter, counted from the given one. -/
def markChapters (isTarget : ContentsLink → Bool) (found : Option Nat)
    (position : Nat) :
    List ContentsChapter → List ContentsChapter × Option Nat
  | [] => ([], found)
  | chapter :: chapters =>
      let (links, foundHere) := markFirst isTarget found.isSome chapter.links
      let found :=
        if found.isSome then
          found
        else if foundHere then some position else none
      let (marked, foundAfter) :=
        markChapters isTarget found (position + 1) chapters
      ({ chapter with links } :: marked, foundAfter)

/-- Shows the links of the given chapter only, or of all chapters. -/
def unfold (only : Option Nat) (chapters : List ContentsChapter) :
    List ContentsChapter :=
  chapters.mapIdx fun position chapter =>
    { chapter with expanded := only.all (· == position) }

/-- The table of contents where an address is shown, and the position of the
chapter that holds the active link. -/
def highlight (contents : Contents) (location : Url) : Contents × Option Nat :=
  let (chapters, found) :=
    markChapters (·.leadsTo location) none 0 contents.chapters
  (⟨unfold found chapters⟩, found)

end Contents

end LessonSite
