import LessonSite.Text.Blank
import LessonSite.Url.Host

/-!
# Addresses

An address has a scheme, for most schemes an authority with a host, a path, and
possibly a query and a fragment.  All parts are kept as they are written, with
their escapes, so that two addresses are equal when their texts are.
-/

namespace LessonSite

namespace Url

/-- A path: either a list of segments, each written after a slash, or a text
without structure. -/
inductive Path where
  | rooted (segments : List String)
  | opaqueText (text : String)
deriving Repr, DecidableEq, Inhabited

def Path.write : Path → String
  | .rooted segments => String.join (segments.map fun segment => "/" ++ segment)
  | .opaqueText text => text

end Url

/-- An address. -/
structure Url where
  scheme : String
  username : String
  password : String
  host : Option Url.Host
  port : Option Nat
  path : Url.Path
  query : Option String
  fragment : Option String
deriving Repr, DecidableEq, Inhabited

namespace Url

/-- The schemes whose addresses always have a host, with their usual ports. -/
def usualPort? (scheme : String) : Option Nat :=
  List.lookup scheme
    [("http", 80), ("https", 443), ("ws", 80), ("wss", 443), ("ftp", 21)]

/-- The scheme's addresses are read in the way of the web. -/
def isSpecial (scheme : String) : Bool :=
  scheme == "file" || (usualPort? scheme).isSome

variable (url : Url)

def pathText : String :=
  url.path.write

/-- Nothing can be resolved against the address except a fragment. -/
def isOpaque : Bool :=
  match url.path with
  | .opaqueText _ => true
  | .rooted _ => false

/-- User name and password as they are written before the host. -/
def userInfoText : String :=
  if url.username = "" ∧ url.password = "" then ""
  else
  url.username ++ (if url.password = "" then "" else ":" ++ url.password) ++ "@"

/-- The part between the scheme and the path.  Without an authority, a path
whose first segment is empty is kept apart from the scheme. -/
def authorityText : String :=
  match url.host with
  | some host =>
      "//" ++ url.userInfoText ++ host.write ++
        (match url.port with
        | some port => ":" ++ toString port
        | none => "")
  | none =>
      if url.scheme = "file" then "//"
      else
        match url.path with
        | .rooted ("" :: _ :: _) => "/."
        | _ => ""

/-- An optional part with the character that begins it. -/
def optionalPart (start : String) : Option String → String
  | none => ""
  | some part => start ++ part

/-- The address as it is written. -/
def write : String :=
  url.scheme ++ ":" ++ url.authorityText ++ url.pathText ++
    optionalPart "?" url.query ++
    optionalPart "#" url.fragment

/-- A path at the end of an address: blanks that end a text without structure
are not kept. -/
def Path.tidyEnd : Path → Path
  | .rooted segments => .rooted segments
  | .opaqueText text =>
      .opaqueText (String.ofList (Text.trimEndChars (· == ' ') text.toList))

/-- The address without query and fragment. -/
def bare : Url :=
  { url with path := url.path.tidyEnd, query := none, fragment := none }

end Url

end LessonSite
