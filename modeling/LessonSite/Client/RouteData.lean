import LessonSite.Url.FilePath

/-!
# Where route states are kept

The route state of a page lies beside the page, under a name of its own.  Its
address is derived from the address of the page, and in a directory of files its
file from that address.
-/

namespace LessonSite

/-- The address of the route state of the page at an address. -/
def routeDataHref (href : String) : String :=
  if Text.endsWith "/" href then href ++ "index.json"
  else
    match Text.beforeEnd? "/index.html" href with
    | some directory => directory ++ "/index.json"
    | none => href ++ "/index.json"

/-- A text that was to be an address but is none. -/
structure InvalidHref where
  href : String
  fault : Url.Fault
deriving Repr, DecidableEq

/-- The address of the route state of a page; query and fragment of the page do
not matter. -/
def Url.routeData (url : Url) : Except InvalidHref Url :=
  let href := routeDataHref url.bare.write
  (Url.parse href).mapError fun fault => ⟨href, fault⟩

/-- The file below a directory that the path of an address names, as bytes. -/
def fileFor? (directory : String) (url : Url) : Option (List UInt8) :=
  match (Url.ofDirectory directory).join
      (String.ofList (url.pathText.toList.dropWhile (· == '/'))) with
  | .ok file => file.filePathBytes?
  | .error _ => none

end LessonSite
