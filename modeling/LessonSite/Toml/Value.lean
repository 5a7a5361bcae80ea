import LessonSite.Number.Double

/-!
# Values of a settings document

A settings document is a table: a list of entries in which no key occurs twice.
The order of the entries has no meaning.
-/

namespace LessonSite.Toml

/-- A value. -/
inductive Value where
  | string (text : String)
  | integer (number : Int)
  | float (number : Double)
  | boolean (flag : Bool)
  | datetime (text : String)
  | array (values : List Value)
  | table (entries : List (String × Value))
deriving Repr, Inhabited

abbrev Entries := List (String × Value)

def Entries.get? (entries : Entries) (key : String) : Option Value :=
  List.lookup key entries

/-- The entries with one value exchanged, or added where the key is new. -/
def Entries.set (key : String) (value : Value) : Entries → Entries
  | [] => [(key, value)]
  | (present, old) :: entries =>
      if present = key then (key, value) :: entries
      else (present, old) :: Entries.set key value entries

/-- The value at a path of keys, each leading into a table. -/
def Value.at? (value : Value) : List String → Option Value
  | [] => some value
  | key :: path =>
      match value with
      | .table entries =>
          match Entries.get? entries key with
          | some inner => inner.at? path
          | none => none
      | _ => none

mutual

/-- The value below with another one laid over it: tables key by key, and any
other value in place of what lies below. -/
def Value.merge (below above : Value) : Value :=
  match below, above with
  | .table entries, .table added => .table (mergeEntries entries added)
  | _, above => above

/-- The entries below with others laid over them, one after the other. -/
def mergeEntries (entries : Entries) : List (String × Value) → Entries
  | [] => entries
  | (key, above) :: added =>
      let value :=
        match Entries.get? entries key with
        | some below => below.merge above
        | none => above
      mergeEntries (Entries.set key value entries) added

end

end LessonSite.Toml
