/-!
# Ranges of code points

A set of characters given by ascending ranges, and the search in it by halving.
-/

namespace LessonSite.Text

/-- Ascending ranges of code points, both ends included. -/
abbrev Ranges := Array (Nat × Nat)

/-- Searches the ranges with indices from `low` up to, but not including,
`low + count`. -/
def Ranges.searchFrom (ranges : Ranges) (code : Nat) (low : Nat) :
    (count : Nat) → Bool
  | 0 => false
  | count + 1 =>
      let half := count / 2
      match ranges[low + half]? with
      | none => false
      | some (first, last) =>
          if code < first then searchFrom ranges code low half
          else if last < code then
            searchFrom ranges code (low + half + 1) (count - half)
          else true

/-- The code point lies in one of the ranges. -/
def Ranges.contains (ranges : Ranges) (code : Nat) : Bool :=
  ranges.searchFrom code 0 ranges.size

end LessonSite.Text
