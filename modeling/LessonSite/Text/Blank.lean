/-!
# Blank characters and trimming

The characters with the Unicode property `White_Space`, and the removal of such
characters from both ends of a text.  Trimming is stated on lists of characters,
where the two ends are handled by `dropWhile` and a reversal, and lifted to
strings.
-/

namespace LessonSite.Text

/-- The character has the Unicode property `White_Space`. -/
def isBlank (character : Char) : Bool :=
  let code := character.toNat
  (9 ≤ code && code ≤ 13) || code = 0x20 || code = 0x85 || code = 0xA0 ||
    code = 0x1680 ||
    (0x2000 ≤ code && code ≤ 0x200A) || code = 0x2028 || code = 0x2029 ||
    code = 0x202F ||
    code = 0x205F || code = 0x3000

/-- Removes the characters of a class from both ends. -/
def trimChars (inClass : Char → Bool) (characters : List Char) : List Char :=
  ((characters.dropWhile inClass).reverse.dropWhile inClass).reverse

/-- Removes the characters of a class from the end. -/
def trimEndChars (inClass : Char → Bool) (characters : List Char) : List Char :=
  (characters.reverse.dropWhile inClass).reverse

/-- Removes the characters of a class from both ends of a string. -/
def trimMatches (inClass : Char → Bool) (text : String) : String :=
  String.ofList (trimChars inClass text.toList)

/-- Removes blanks from both ends of a string. -/
def trim (text : String) : String :=
  trimMatches isBlank text

/-- The text has no character other than blanks. -/
def isBlankText (text : String) : Bool :=
  text.toList.all isBlank

end LessonSite.Text
