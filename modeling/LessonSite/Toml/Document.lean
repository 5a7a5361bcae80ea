import LessonSite.Toml.Reader

/-!
# Settings documents

A document is a list of lines, each an entry or the heading of a table.  An
entry belongs to the table whose heading stands above it.  No table is begun
twice, and no heading reaches into a value.
-/

namespace LessonSite.Toml

/-- Applies a change to the entries of the table at a path; in an array of
tables the last one is meant, and missing tables on the way are added. -/
def changeAt (change : List (String × Item) → Option (List (String × Item))) :
    List String → List (String × Item) → Option (List (String × Item))
  | [], entries => change entries
  | key :: path, entries =>
      match List.lookup key entries with
      | none => do
          let inner ← changeAt change path []
          return entries ++ [(key, .table .parent inner)]
      | some (.table origin inner) => do
          let inner ← changeAt change path inner
          return setItem key (.table origin inner) entries
      | some (.tables elements) =>
          match elements.getLast? with
          | some last => do
              let last ← changeAt change path last
              return setItem key (.tables (elements.dropLast ++ [last])) entries
          | none => none
      | some (.value _) => none

/-- Begins a table by its heading. -/
def beginTable (key : String) (entries : List (String × Item)) :
    Option (List (String × Item)) :=
  match List.lookup key entries with
  | none => some (entries ++ [(key, .table .heading [])])
  | some (.table .parent inner) =>
      some (setItem key (.table .heading inner) entries)
  | some _ => none

/-- Begins another table of an array by its heading. -/
def beginElement (key : String) (entries : List (String × Item)) :
    Option (List (String × Item)) :=
  match List.lookup key entries with
  | none => some (entries ++ [(key, .tables [[]])])
  | some (.tables elements) =>
      some (setItem key (.tables (elements ++ [[]])) entries)
  | some _ => none

/-- A document that has been read up to some line. -/
structure Draft where
  entries : List (String × Item)
  /-- The path of the table that the next entry belongs to. -/
  current : List String

def Draft.withHeading (document : Draft) (path : List String)
    (start : String → List (String × Item) → Option (List (String × Item))) :
    Option Draft := do
  let entries
    ← changeAt (start (← path.getLast?)) path.dropLast document.entries
  return ⟨entries, path⟩

/-- Reads the line at the start of a text, which is not empty, and returns the
next lines. -/
def readLine (document : Draft) (input : List Char) :
    Option (Draft × List Char) :=
  match input with
  | '#' :: _ => (finishLine? input).map fun rest => (document, rest)
  | '[' :: '[' :: rest => do
      let (path, rest) ← readKey rest
      match rest with
      | ']' :: ']' :: rest =>
          return (← document.withHeading path beginElement, ← finishLine? rest)
      | _ => none
  | '[' :: rest => do
      let (path, rest) ← readKey rest
      match rest with
      | ']' :: rest =>
          return (← document.withHeading path beginTable, ← finishLine? rest)
      | _ => none
  | _ =>
      match afterLineEnd? input with
      | some rest => some (document, rest)
      | none => do
          let (path, rest) ← readKey input
          match rest with
          | '=' :: rest =>
              let (value, rest) ← readValue depthLimit (skipGap rest)
              let rest ← finishLine? rest
              let entries
                ← changeAt (insertValue value path) document.current
                  document.entries
              return (⟨entries, document.current⟩, rest)
          | _ => none

/-- Reads the lines of a text; the bound is its length. -/
def readLines (document : Draft) : Nat → List Char → Option Draft
  | 0, input => if (skipGap input).isEmpty then some document else none
  | bound + 1, input =>
      match skipGap input with
      | [] => some document
      | line => do
          let (document, rest) ← readLine document line
          readLines document bound rest

/-- The entries of the document that a text is, if it is one. -/
def parse? (text : String) : Option Entries :=
  let input :=
    match text.toList with
    | '\ufeff' :: rest => rest
    | input => input
  (readLines ⟨[], []⟩ (input.length + 1) input).map fun document =>
    finishEntries document.entries

end LessonSite.Toml
