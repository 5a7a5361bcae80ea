import LessonSite.Text.Utf8

/-!
# Percent encoding

A byte that may not stand in some part of an address is written as `%` and two
hexadecimal digits.  Each part of an address has its own set of characters that
are written so; bytes outside of ASCII always are.
-/

namespace LessonSite.Url

/-- A set of ASCII characters that a part of an address does not hold
literally. -/
abbrev EscapeSet := Char → Bool

namespace EscapeSet

/-- Control characters, in every part. -/
def control : EscapeSet :=
  fun character => character.toNat < 0x20 || character.toNat = 0x7F

/-- Characters escaped in a fragment. -/
def fragment : EscapeSet :=
  fun character =>
    control character || [' ', '"', '<', '>', '`'].contains character

/-- Characters escaped in a query. -/
def query : EscapeSet :=
  fun character =>
    control character || [' ', '"', '#', '<', '>'].contains character

/-- Characters escaped in a query of a special scheme. -/
def specialQuery : EscapeSet :=
  fun character => query character || character == '\''

/-- Characters escaped in a path. -/
def path : EscapeSet :=
  fun character =>
    fragment character || ['#', '?', '\x7b', '\x7d'].contains character

/-- Characters escaped in a name that becomes one segment of a path. -/
def segment : EscapeSet :=
  fun character => path character || ['/', '%', '\\'].contains character

/-- Characters escaped in a user name or a password. -/
def userInfo : EscapeSet :=
  fun character =>
    path character ||
      ['/', ':', ';', '=', '@', '[', '\\', ']', '^', '|'].contains character

end EscapeSet

def hexDigit (value : Nat) : Char :=
  if value < 10 then Char.ofNat (48 + value) else Char.ofNat (55 + value)

/-- The value of a hexadecimal digit. -/
def hexValue? (character : Char) : Option Nat :=
  let code := character.toNat
  if 48 ≤ code ∧ code ≤ 57 then some (code - 48)
  else if 65 ≤ code ∧ code ≤ 70 then some (code - 55)
  else if 97 ≤ code ∧ code ≤ 102 then some (code - 87)
  else none

def escapeByte (byte : UInt8) : List Char :=
  ['%', hexDigit (byte.toNat / 16), hexDigit (byte.toNat % 16)]

/-- A character as it stands in a part of an address. -/
def escapeChar (set : EscapeSet) (character : Char) : List Char :=
  if character.toNat ≥ 0x80 || set character then
    (Utf8.encodeChar character).flatMap escapeByte
  else [character]

/-- A text as it stands in a part of an address. -/
def escape (set : EscapeSet) (text : List Char) : List Char :=
  text.flatMap (escapeChar set)

/-- The bytes of a text whose escapes are undone; a `%` without two digits
stands for itself. -/
def unescape : List Char → List UInt8
  | [] => []
  | '%' :: high :: low :: rest =>
      match hexValue? high, hexValue? low with
      | some high, some low => UInt8.ofNat (high * 16 + low) :: unescape rest
      | _, _ => 0x25 :: unescape (high :: low :: rest)
  | character :: rest => Utf8.encodeChar character ++ unescape rest

end LessonSite.Url
