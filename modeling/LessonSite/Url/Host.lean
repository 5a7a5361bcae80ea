import LessonSite.Number.Basic
import LessonSite.Text.Fold
import LessonSite.Text.Hidden
import LessonSite.Text.Parts
import LessonSite.Url.Percent
import LessonSite.Url.Punycode

/-!
# Hosts

A host is a domain, an address of four bytes or an address of eight groups.  A
domain is written in small ASCII letters; a domain whose last label is a number
has to be an address.
-/

namespace LessonSite.Url

/-- A fault. -/
inductive Fault where
  | emptyHost
  | invalidDomain
  | invalidPort
  | invalidIpv4
  | invalidIpv6
  | invalidDomainCharacter
  | relativeWithoutBase
  | relativeToOpaque
deriving Repr, DecidableEq

def Fault.message : Fault → String
  | .emptyHost => "empty host"
  | .invalidDomain => "invalid international domain name"
  | .invalidPort => "invalid port number"
  | .invalidIpv4 => "invalid IPv4 address"
  | .invalidIpv6 => "invalid IPv6 address"
  | .invalidDomainCharacter => "invalid domain character"
  | .relativeWithoutBase => "relative URL without a base"
  | .relativeToOpaque => "relative URL with a cannot-be-a-base base"

/-- A host. -/
inductive Host where
  | domain (name : String)
  | ipv4 (number : Nat)
  | ipv6 (groups : List Nat)
deriving Repr, DecidableEq, Inhabited

/-- A number in an address: decimal, octal after `0`, hexadecimal after `0x`. -/
def addressNumber? (text : List Char) : Option Nat :=
  let digits := fun (base : Nat) (digits : List Char) =>
    digits.foldl (fun (total : Option Nat) digit =>
      match total, (hexValue? digit).filter (· < base) with
      | some total, some value => some (total * base + value)
      | _, _ => none) (some 0)
  match text with
  | [] => none
  | '0' :: 'x' :: rest => digits 16 rest
  | '0' :: 'X' :: rest => digits 16 rest
  | '0' :: second :: rest => digits 8 (second :: rest)
  | _ => digits 10 text

/-- The labels of a domain without the empty one after a final dot. -/
def addressLabels (domain : List Char) : List (List Char) :=
  let labels := Text.splitChars '.' domain
  if labels.getLast? = some [] then labels.dropLast else labels

/-- The last label of the domain is a number. -/
def endsInNumber (domain : List Char) : Bool :=
  match (addressLabels domain).getLast? with
  | none => false
  | some last =>
      (!last.isEmpty && last.all Char.isDigit) || (addressNumber? last).isSome

/-- The address of four bytes that a domain stands for. -/
def ipv4? (domain : List Char) : Option Nat := do
  let numbers ← (addressLabels domain).mapM addressNumber?
  let last ← numbers.getLast?
  let leading := numbers.dropLast
  if numbers.length > 4 || leading.any (· > 255) ||
      last ≥ Nat.pow 2 (8 * (4 - leading.length)) then none
  else
    let high :=
      leading.foldl (fun (total : Nat) number => total * 256 + number) 0
    some (high * Nat.pow 2 (8 * (4 - leading.length)) + last)

/-- A group of one to four hexadecimal digits. -/
def group? (text : List Char) : Option Nat :=
  if text.isEmpty || text.length > 4 then none
  else text.foldl (fun (total : Option Nat) digit =>
    match total, hexValue? digit with
    | some total, some value => some (total * 16 + value)
    | _, _ => none) (some 0)

/-- The two groups that four decimal numbers stand for. -/
def decimalGroups? (text : List Char) : Option (List Nat) := do
  let numbers ← (Text.splitChars '.' text).mapM fun part =>
    if part.isEmpty || part.length > 3 || !part.all Char.isDigit ||
        (part.length > 1 && part.head? = some '0') then none
    else (addressNumber? part).filter (· < 256)
  match numbers with
  | [first, second, third, fourth] =>
      some [first * 256 + second, third * 256 + fourth]
  | _ => none

/-- The groups of one side; four decimal numbers may stand at the end. -/
def groups? (atEnd : Bool) (text : List Char) : Option (List Nat) :=
  if text.isEmpty then some []
  else
    let parts := Text.splitChars ':' text
    match parts.getLast?, atEnd with
    | some last, true =>
        if last.contains '.' then do
          return (← parts.dropLast.mapM group?) ++ (← decimalGroups? last)
        else parts.mapM group?
    | _, _ => parts.mapM group?

/-- The text before and after the first pair of colons. -/
def splitAtGap : List Char → List Char × Option (List Char)
  | ':' :: ':' :: rest => ([], some rest)
  | character :: rest =>
      let (before, after) := splitAtGap rest
      (character :: before, after)
  | [] => ([], none)

/-- The address of eight groups between brackets. -/
def ipv6? (text : List Char) : Option (List Nat) :=
  match splitAtGap text with
  | (whole, none) =>
      if whole.isEmpty then none else (groups? true whole).filter (·.length = 8)
  | (left, some right) => do
      let left ← groups? false left
      let right ← groups? true right
      if left.length + right.length > 7 then none
      else
      some (left ++ List.replicate (8 - left.length - right.length) 0 ++ right)

/-- The number of zeros that a list begins with. -/
def leadingZeros (groups : List Nat) : Nat :=
  (groups.takeWhile (· = 0)).length

/-- Where the longest run of zeros begins, and its length. -/
def longestZeros (groups : List Nat) : Nat × Nat :=
  (List.range groups.length).foldl (fun best start =>
    let length := leadingZeros (groups.drop start)
    if length > best.2 then (start, length) else best) (0, 0)

/-- The groups in small hexadecimal digits. -/
def writeGroups (groups : List Nat) : String :=
  ":".intercalate
    (groups.map fun group => String.ofList (Nat.toDigits 16 group))

/-- An address of eight groups, its longest run of zeros being left out. -/
def writeIpv6 (groups : List Nat) : String :=
  let (start, length) := longestZeros groups
  if length < 2 then writeGroups groups
  else writeGroups (groups.take start) ++ "::" ++
    writeGroups (groups.drop (start + length))

def Host.write : Host → String
  | .domain name => name
  | .ipv4 number =>
      ".".intercalate
        ([3, 2, 1, 0].map fun position =>
          toString (number / Nat.pow 2 (8 * position) % 256))
  | .ipv6 groups => "[" ++ writeIpv6 groups ++ "]"

/-- Characters that a domain must not hold. -/
def forbiddenInDomain (character : Char) : Bool :=
  EscapeSet.control character ||
    [' ', '#', '/', ':', '<', '>', '?', '@', '[', '\\', ']', '^', '|',
      '%'].contains character

/-- Characters that leave no trace in a domain. -/
def vanishesInDomain (character : Char) : Bool :=
  let code := character.toNat
  code = 0xAD || code = 0x34F || (0x180B ≤ code && code ≤ 0x180D) ||
    code = 0x180F ||
    code = 0x200B || code = 0x2060 || code = 0x2064 ||
    (0xFE00 ≤ code && code ≤ 0xFE0F) ||
    code = 0xFEFF || (0x1BCA0 ≤ code && code ≤ 0x1BCA3) ||
    (0xE0100 ≤ code && code ≤ 0xE01EF)

/-- A character as it stands in a domain: small letters and plain forms. -/
def domainCharacter (character : Char) : List Char :=
  let code := character.toNat
  if code < 0x80 then [Text.toLowerAscii character]
  else if vanishesInDomain character then []
  else if code = 0x3002 || code = 0xFF61 then ['.']
  else if 0xFF01 ≤ code && code ≤ 0xFF5E then
    [Text.toLowerAscii (Char.ofNat (code - 0xFEE0))]
  else if code = 0xDF || code = 0x3C2 then [character]
  else if code = 0xA0 || code = 0x3000 || (0x2000 ≤ code && code ≤ 0x200A) then
    [' ']
  else Text.foldChar character

/-- Letters of a script whose letters are joined to their neighbours. -/
def isCursive (character : Char) : Bool :=
  let code := character.toNat
  (0x620 ≤ code && code ≤ 0x64A) || (0x66E ≤ code && code ≤ 0x6D3) ||
    (0x6FA ≤ code && code ≤ 0x6FC) || (0x750 ≤ code && code ≤ 0x77F)

/-- The characters can follow the given one in a label.  The two joiners stand
after signs that take away a vowel, and the one that keeps letters apart also
between joined letters; other characters have to show something. -/
def canFollow (previous : Char) : List Char → Bool
  | [] => true
  | character :: rest =>
      let allowed :=
        if character.toNat = 0x200C then
          Text.killsVowel previous ||
            (isCursive previous && rest.head?.any isCursive)
        else if character.toNat = 0x200D then Text.killsVowel previous
        else !Text.isUnshown character && character.toNat ≠ 0xFFFC &&
          character.toNat ≠ 0xFFFD
      allowed && canFollow character rest

/-- The characters make up a label: none of them is out of place, and the first
one does not extend another. -/
def isLabel (label : List Char) : Bool :=
  !label.head?.any Text.isExtending && canFollow '.' label

/-- A label in ASCII letters; a label that is written so already has to be
readable. -/
def asciiLabel? (label : List Char) : Option (List Char) :=
  match Text.stripStart? "xn--".toList label with
  | some coded =>
      match Punycode.decode? coded with
      | some plain =>
          if !plain.isEmpty &&
              plain.any (fun character => character.toNat ≥ 0x80) &&
              plain.flatMap domainCharacter = plain && isLabel plain &&
              Punycode.encode plain = coded then
            some label
          else none
      | none => none
  | none =>
      if label.all fun character => character.toNat < 0x80 then some label
      else if isLabel label then some ("xn--".toList ++ Punycode.encode label)
      else none

/-- The domain that a text stands for. -/
def readDomain (text : List Char) : Except Fault String :=
  match Utf8.decode? (unescape text) with
  | none => .error .invalidDomain
  | some plain =>
      match (Text.splitChars '.' (plain.toList.flatMap domainCharacter)).mapM
        asciiLabel? with
      | none => .error .invalidDomain
      | some labels =>
          let domain := ['.'].intercalate labels
          if domain.any forbiddenInDomain then .error .invalidDomain
          else .ok (String.ofList domain)

/-- The address between brackets. -/
def readBracketed (inside : List Char) : Except Fault Host :=
  match inside.reverse with
  | ']' :: reversed =>
      match ipv6? reversed.reverse with
      | some groups => .ok (.ipv6 groups)
      | none => .error .invalidIpv6
  | _ => .error .invalidIpv6

/-- The host of an address with a special scheme. -/
def Host.read (text : List Char) : Except Fault Host :=
  match text with
  | '[' :: inside => readBracketed inside
  | _ =>
      match readDomain text with
      | .error fault => .error fault
      | .ok name =>
          if name = "" then .error .emptyHost
          else if endsInNumber name.toList then
            match ipv4? name.toList with
            | some number => .ok (.ipv4 number)
            | none => .error .invalidIpv4
          else .ok (.domain name)

/-- Characters that the host of another scheme must not hold. -/
def forbiddenInHost (character : Char) : Bool :=
  ['\x00', '\t', '\n', '\r', ' ', '#', '/', ':', '<', '>', '?', '@', '[', '\\',
    ']', '^', '|'].contains character

/-- The host of an address with any other scheme. -/
def Host.readOpaque (text : List Char) : Except Fault Host :=
  match text with
  | '[' :: inside => readBracketed inside
  | _ =>
      if text.any forbiddenInHost then .error .invalidDomainCharacter
      else .ok (.domain (String.ofList (escape EscapeSet.control text)))

end LessonSite.Url
