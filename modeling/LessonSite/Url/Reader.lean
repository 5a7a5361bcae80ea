import LessonSite.Number.Basic
import LessonSite.Text.Blank
import LessonSite.Url.Basic

/-!
# Reading addresses

A text is read as an address of its own or relative to another one.  Blanks
around the text and line ends in it do not count.
-/

namespace LessonSite.Url

/-- Blanks and control characters, which do not count around an address. -/
def isOuterBlank (character : Char) : Bool :=
  character.toNat ≤ 0x20

/-- Characters that do not count anywhere in an address. -/
def isIgnored (character : Char) : Bool :=
  character == '\t' || character == '\n' || character == '\r'

/-- The characters of an address that count. -/
def significant (text : String) : List Char :=
  (Text.trimChars isOuterBlank text.toList).filter fun character =>
    !isIgnored character

/-- Letters, digits and the marks of a scheme. -/
def isSchemeCharacter (character : Char) : Bool :=
  character.isAlphanum || character == '+' || character == '-' ||
    character == '.'

/-- The scheme at the start of an address and what follows its colon. -/
def splitScheme? (input : List Char) : Option (String × List Char) :=
  match input with
  | first :: _ =>
      if first.isAlpha then
        match input.dropWhile isSchemeCharacter with
        | ':' :: rest =>
            some
              (Text.lowerAscii
                (String.ofList (input.takeWhile isSchemeCharacter)), rest)
        | _ => none
      else none
  | [] => none

/-- The character separates the segments of a path. -/
def isSlash (special : Bool) (character : Char) : Bool :=
  character == '/' || (special && character == '\\')

/-- The character ends an authority. -/
def endsAuthority (special : Bool) (character : Char) : Bool :=
  isSlash special character || character == '?' || character == '#'

def endsPath (character : Char) : Bool :=
  character == '?' || character == '#'

/-- The query and the fragment at the start of a text. -/
def readTail (special : Bool) (input : List Char) :
    Option String × Option String :=
  let set := if special then EscapeSet.specialQuery else EscapeSet.query
  let fragment := fun (text : List Char) =>
    String.ofList (escape EscapeSet.fragment text)
  match input with
  | '?' :: rest =>
      let query := String.ofList (escape set (rest.takeWhile (· != '#')))
      match rest.dropWhile (· != '#') with
      | _ :: after => (some query, some (fragment after))
      | [] => (some query, none)
  | '#' :: rest => (none, some (fragment rest))
  | _ => (none, none)

/-- Two characters that name a drive. -/
def isDrive : List Char → Bool
  | [letter, mark] => letter.isAlpha && (mark == ':' || mark == '|')
  | _ => false

/-- The text begins with a segment that names a drive. -/
def startsWithDrive : List Char → Bool
  | letter :: mark :: rest =>
      isDrive [letter, mark] &&
        (match rest with
        | [] => true
        | next :: _ => isSlash true next || endsPath next)
  | _ => false

/-- The segment means the directory itself. -/
def isHere (segment : String) : Bool :=
  [".", "%2e"].contains (Text.lowerAscii segment)

/-- The segment means the directory above. -/
def isAbove (segment : String) : Bool :=
  ["..", ".%2e", "%2e.", "%2e%2e"].contains (Text.lowerAscii segment)

/-- The path one level up; a drive is never left. -/
def goUp (directories : List String) : List String :=
  match directories.getLast? with
  | some last =>
      if isDrive last.toList then directories else directories.dropLast
  | none => []

/-- A segment as it is kept below the given directories. -/
def keepSegment (file : Bool) (directories : List String)
    (segment : String) : String :=
  match segment.toList with
  | [letter, _] =>
      if file && directories.isEmpty && isDrive segment.toList then
        String.ofList [letter, ':']
      else segment
  | _ => segment

/-- Walks along the segments from the given directories. -/
def walk (file : Bool) (directories : List String) : List String → List String
  | [] => directories
  | [last] =>
      if isAbove last then goUp directories ++ [""]
      else if isHere last then directories ++ [""]
      else directories ++ [keepSegment file directories last]
  | segment :: next :: rest =>
      if isAbove segment then walk file (goUp directories) (next :: rest)
      else if isHere segment then walk file directories (next :: rest)
      else walk file (directories ++ [keepSegment file directories segment])
        (next :: rest)

/-- A path of a file does not begin with an empty segment, unless it is
empty. -/
def dropEmptyStart : List String → List String
  | "" :: next :: rest => dropEmptyStart (next :: rest)
  | segments => segments

/-- The segments that a text stands for, as they are written. -/
def splitPath (special : Bool) (text : List Char) : List String :=
  (Text.splitChars '/' (text.map fun character =>
    if isSlash special character then '/' else character)).map fun segment =>
      String.ofList (escape EscapeSet.path segment)

/-- The path that a text leads to from the given directories. -/
def resolvePath (scheme : String) (directories : List String)
    (text : List Char) : Path :=
  let file := scheme == "file"
  let reached := walk file directories (splitPath (isSpecial scheme) text)
  .rooted (if file then dropEmptyStart reached else reached)

/-- User name, password and the rest of an authority. -/
def readUserInfo (authority : List Char) : String × String × List Char :=
  if authority.contains '@' then
    let host := (authority.reverse.takeWhile (· != '@')).reverse
    let info := authority.take (authority.length - host.length - 1)
    let write := fun (text : List Char) =>
      String.ofList (escape EscapeSet.userInfo text)
    (write (info.takeWhile (· != ':')),
      write ((info.dropWhile (· != ':')).drop 1), host)
  else ("", "", authority)

/-- The host and the text of the port; colons between brackets belong to the
host. -/
def splitPort (bracketed : Bool) : List Char → List Char × Option (List Char)
  | [] => ([], none)
  | character :: rest =>
      if character = ':' ∧ !bracketed then ([], some rest)
      else
        let inside :=
          if character = '[' then
            true
          else if character = ']' then false else bracketed
        let (host, port) := splitPort inside rest
        (character :: host, port)

/-- The port; the usual one of the scheme is left out. -/
def readPort (scheme : String) (digits : List Char) :
    Except Fault (Option Nat) :=
  let number := decimalValue digits
  if !digits.all Char.isDigit || number > 65535 then .error .invalidPort
  else if digits.isEmpty || usualPort? scheme = some number then .ok none
  else .ok (some number)

/-- What an authority says. -/
structure Authority where
  username : String
  password : String
  host : Host
  port : Option Nat

/-- Reads an authority and returns the text after it. -/
def readAuthority (scheme : String) (input : List Char) :
    Except Fault (Authority × List Char) := do
  let special := isSpecial scheme
  let authority :=
    input.takeWhile fun character => !endsAuthority special character
  let rest := input.dropWhile fun character => !endsAuthority special character
  let (username, password, hostPart) := readUserInfo authority
  let (hostText, portText) := splitPort false hostPart
  let hasInfo :=
    username ≠ "" ∨ password ≠ "" ∨ (authority = ['@'] ∧ !rest.isEmpty)
  if hostText.isEmpty && (special || hasInfo || portText.isSome) then
    throw .emptyHost
  let host ← if special then Host.read hostText else Host.readOpaque hostText
  let afterBackslash := fun (text : List Char) => text.takeWhile (· != '\\')
  match portText with
  | none => return (⟨username, password, host, none⟩, rest)
  | some digits =>
      let port ← readPort scheme (afterBackslash digits)
      return (⟨username, password, host, port⟩,
        digits.dropWhile (· != '\\') ++ rest)

/-- The path after an authority. -/
def pathAfterAuthority (scheme : String) (text : List Char) : Path :=
  match text with
  | [] => if isSpecial scheme then .rooted [""] else .rooted []
  | first :: rest =>
      if isSlash (isSpecial scheme) first then resolvePath scheme [] rest
      else resolvePath scheme [] text

/-- Reads an address from its authority on. -/
def readFromAuthority (scheme : String) (input : List Char) :
    Except Fault Url := do
  let (authority, rest) ← readAuthority scheme input
  let (query, fragment) :=
    readTail (isSpecial scheme)
      (rest.dropWhile fun character => !endsPath character)
  return {
    scheme
    username := authority.username
    password := authority.password
    host := some authority.host
    port := authority.port
    path :=
      pathAfterAuthority scheme
        (rest.takeWhile fun character => !endsPath character)
    query
    fragment
  }

/-- The address with the path, query and fragment that a text gives, the path
being resolved from the given directories. -/
def withPathFrom (base : Url) (directories : List String)
    (input : List Char) : Url :=
  let (query, fragment) := readTail (isSpecial base.scheme)
    (input.dropWhile fun character => !endsPath character)
  { base with
    path := resolvePath base.scheme directories
      (input.takeWhile fun character => !endsPath character)
    query
    fragment }

/-- The directories of an address, from which relative paths start. -/
def directories (base : Url) : List String :=
  match base.path with
  | .rooted segments =>
      match segments.getLast? with
      | some last =>
          if base.scheme = "file" ∧ isDrive last.toList then
            segments
          else segments.dropLast
      | none => []
  | .opaqueText _ => []

/-- The address with a query or a fragment exchanged, when the text gives no
path. -/
def withTail (base : Url) (input : List Char) : Url :=
  let (query, fragment) := readTail (isSpecial base.scheme) input
  { base with
    query := if input.head? = some '?' then query else base.query
    fragment }

/-- The number of slashes, of either kind, that a text begins with. -/
def countSlashes (input : List Char) : Nat :=
  (input.takeWhile (isSlash true)).length

/-- Reads an address relative to one that is not opaque. -/
def readRelative (base : Url) (input : List Char) : Except Fault Url :=
  match input with
  | [] => .ok (base.withTail [])
  | '?' :: _ => .ok (base.withTail input)
  | '#' :: _ => .ok (base.withTail input)
  | first :: rest =>
      if isSlash true first then
        if countSlashes input ≥ 2 then
          readFromAuthority base.scheme
            (if input.take 2 = ['/', '/'] then
              input.drop 2
            else input.dropWhile (isSlash true))
        else .ok (base.withPathFrom [] rest)
      else .ok (base.withPathFrom base.directories input)

/-- An address of a file without a host. -/
def emptyFile : Url :=
  ⟨"file", "", "", none, none, .rooted [""], none, none⟩

/-- The host of a file; the machine itself is not named. -/
def readFileHost (text : List Char) : Except Fault (Option Host) :=
  if text.isEmpty then .ok none
  else
    match Host.read text with
    | .error fault => .error fault
    | .ok host => .ok (if host = .domain "localhost" then none else some host)

/-- The path of a file after its host; a drive at its start takes the place of
the host. -/
def readFileAfterHost (host : Option Host) (input : List Char) : Url :=
  let text := match input with
    | first :: rest => if isSlash true first then rest else input
    | [] => []
  let url := { emptyFile with host }.withPathFrom [] text
  match url.path with
  | .rooted (first :: _) =>
      if isDrive first.toList then { url with host := none } else url
  | _ => url

def readFile (base : Option Url) (input : List Char) : Except Fault Url :=
  match input, base with
  | first :: second :: rest, _ =>
      if isSlash true first && isSlash true second then
        let hostText :=
          rest.takeWhile fun character => !endsAuthority true character
        let after :=
          rest.dropWhile fun character => !endsAuthority true character
        if isDrive hostText then .ok (readFileAfterHost none rest)
        else
          match readFileHost hostText with
          | .error fault => .error fault
          | .ok host => .ok (readFileAfterHost host after)
      else single
  | _, _ => single
where
  /-- The address when no host is given. -/
  single : Except Fault Url :=
    match input, base with
    | first :: rest, base =>
        if isSlash true first then
          let plain := emptyFile
          match base with
          | some base =>
              if startsWithDrive rest then .ok (plain.withPathFrom [] rest)
              else
                match base.path with
                | .rooted (drive :: _) =>
                    if isDrive drive.toList then
                      .ok (plain.withPathFrom [drive] rest)
                    else .ok
                      ({ plain with host := base.host }.withPathFrom [] rest)
                | _ =>
                    .ok ({ plain with host := base.host }.withPathFrom [] rest)
          | none => .ok (plain.withPathFrom [] rest)
        else
          match base with
          | some base =>
              if first = '?' ∨ first = '#' then .ok (base.withTail input)
              else if startsWithDrive input then
                .ok (emptyFile.withPathFrom [] input)
              else .ok (base.withPathFrom base.directories input)
          | none => .ok (emptyFile.withPathFrom [] input)
    | [], some base => .ok (base.withTail [])
    | [], none => .ok emptyFile

/-- Reads an address of a scheme that is not special. -/
def readPlain (scheme : String) (input : List Char) : Except Fault Url :=
  match input with
  | '/' :: '/' :: rest => readFromAuthority scheme rest
  | '/' :: rest =>
      .ok
        (({ scheme, username := "", password := "", host := none, port := none,
              path := .rooted [], query := none,
              fragment := none } : Url).withPathFrom [] rest)
  | _ =>
      let (query, fragment) :=
        readTail false (input.dropWhile fun character => !endsPath character)
      .ok {
        scheme
        username := ""
        password := ""
        host := none
        port := none
        path := .opaqueText (String.ofList (escape EscapeSet.control
          (input.takeWhile fun character => !endsPath character)))
        query
        fragment
      }

/-- Reads an address, relative to another one if it has no scheme. -/
def readWith (base : Option Url) (text : String) : Except Fault Url :=
  let input := significant text
  match splitScheme? input with
  | some (scheme, rest) =>
      if scheme = "file" then
        readFile (base.filter fun base => base.scheme = "file") rest
      else if isSpecial scheme then
        match base with
        | some base =>
            if base.scheme = scheme ∧ countSlashes rest < 2 then
              readRelative base rest
            else readFromAuthority scheme (rest.dropWhile (isSlash true))
        | none => readFromAuthority scheme (rest.dropWhile (isSlash true))
      else readPlain scheme rest
  | none =>
      match base with
      | none => .error .relativeWithoutBase
      | some base =>
          if base.isOpaque then
            if input.head? = some '#' then
              .ok (base.withTail input)
            else .error .relativeToOpaque
          else if base.scheme = "file" then readFile (some base) input
          else readRelative base input

def parse (text : String) : Except Fault Url :=
  readWith none text

/-- The address that a text means where another address is shown. -/
def join (base : Url) (text : String) : Except Fault Url :=
  readWith (some base) text

/-- What two addresses must share to belong to one site: scheme, host and
port. -/
structure Origin where
  scheme : String
  host : Host
  port : Nat
deriving Repr, DecidableEq

/-- The origin of an address with at most so many addresses inside each
other. -/
def originWithin (depth : Nat) (url : Url) : Option Origin :=
  match depth with
  | 0 => none
  | depth + 1 =>
      if url.scheme = "blob" then
        match parse url.pathText with
        | .ok inner => originWithin depth inner
        | .error _ => none
      else
        match url.host, usualPort? url.scheme with
        | some host, some usual => some ⟨url.scheme, host, url.port.getD usual⟩
        | _, _ => none

/-- The origin; addresses that belong to no site have none. -/
def origin? (url : Url) : Option Origin :=
  url.originWithin (url.pathText.length + 1)

/-- The addresses belong to the same site. -/
def sameSite (left right : Url) : Bool :=
  match left.origin?, right.origin? with
  | some left, some right => left = right
  | _, _ => false

end LessonSite.Url
