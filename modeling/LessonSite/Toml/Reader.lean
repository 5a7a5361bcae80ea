import LessonSite.Toml.Scalar

/-!
# Keys and values of a settings document

Values nest at most as deep as `depthLimit` allows.  Tables written in one line
are put together by the same rules as the document itself, see `Assembly`.
-/

namespace LessonSite.Toml

/-- Arrays and tables in one line nest less deep than this. -/
def depthLimit : Nat := 80

/-- The text after a comment at its start. -/
def skipComment (input : List Char) : List Char :=
  match input with
  | '#' :: rest => rest.dropWhile isPlain
  | _ => input

/-- The rest of the line holds nothing but blanks and a comment; returns the
next lines. -/
def finishLine? (input : List Char) : Option (List Char) :=
  let rest := skipComment (skipGap input)
  if rest.isEmpty then some [] else afterLineEnd? rest

/-- The text after blanks, comments and line ends; a comment goes up to a line
end.  The bound is the length of the text. -/
def skipLines (bound : Nat) (input : List Char) : Option (List Char) :=
  match bound with
  | 0 => some input
  | bound + 1 =>
      match skipGap input with
      | '#' :: rest =>
          match afterLineEnd? (rest.dropWhile isPlain) with
          | some rest => skipLines bound rest
          | none => none
      | rest =>
          match afterLineEnd? rest with
          | some rest => skipLines bound rest
          | none => some rest

/-- Characters of a key without quotation marks. -/
def isBareKey (character : Char) : Bool :=
  character.isAlphanum || character == '_' || character == '-'

def readSimpleKey (input : List Char) : Option (String × List Char) :=
  match input with
  | '"' :: _ => readShortString input
  | '\'' :: _ => readShortString input
  | _ =>
      let name := input.takeWhile isBareKey
      if name.isEmpty then
        none
      else some (String.ofList name, input.dropWhile isBareKey)

/-- Keys with dots between them; the bound is the length of the text. -/
def readKey (input : List Char) : Option (List String × List Char) :=
  keys input.length input
where
  /-- The keys from here on. -/
  keys : Nat → List Char → Option (List String × List Char)
    | 0, _ => none
    | bound + 1, input => do
        let (key, rest) ← readSimpleKey (skipGap input)
        match skipGap rest with
        | '.' :: rest => do
            let (more, rest) ← keys bound rest
            if depthLimit ≤ more.length + 1 then none
            else return (key :: more, rest)
        | rest => return ([key], rest)

/-- How a table came to be, which decides how it may be extended. -/
inductive Origin where
  /-- As the parent of a table with a heading. -/
  | parent
  /-- By a key with dots. -/
  | dotted
  /-- By its heading or its braces. -/
  | heading
deriving Repr, DecidableEq, Inhabited

/-- An entry under construction. -/
inductive Item where
  | value (value : Value)
  | table (origin : Origin) (entries : List (String × Item))
  | tables (elements : List (List (String × Item)))
deriving Inhabited

/-- The entries with one item exchanged, or added where the key is new. -/
def setItem (key : String) (item : Item) :
    List (String × Item) → List (String × Item)
  | [] => [(key, item)]
  | (present, old) :: entries =>
      if present = key then
        (key, item) :: entries
      else (present, old) :: setItem key item entries

/-- Adds a value under dotted keys. -/
def insertValue (value : Value) :
    List String → List (String × Item) → Option (List (String × Item))
  | [], _ => none
  | [key], entries =>
      if (List.lookup key entries).isSome then
        none
      else some (entries ++ [(key, .value value)])
  | key :: next :: path, entries =>
      match List.lookup key entries with
      | none => do
          let inner ← insertValue value (next :: path) []
          return entries ++ [(key, .table .dotted inner)]
      | some (.table origin inner) =>
          if origin = .heading ∨ (path.isEmpty ∧ origin ≠ .dotted) then none
          else do
            let inner ← insertValue value (next :: path) inner
            return setItem key (.table origin inner) entries
      | some (.tables elements) =>
          match elements.getLast?, path with
          | some last, _ :: _ => do
              let last ← insertValue value (next :: path) last
              return setItem key (.tables (elements.dropLast ++ [last])) entries
          | _, _ => none
      | some (.value _) => none

mutual

/-- The finished value of an item. -/
def Item.toValue : Item → Value
  | .value value => value
  | .table _ entries => .table (finishEntries entries)
  | .tables elements => .array (finishElements elements)

/-- The finished entries of a table. -/
def finishEntries : List (String × Item) → Entries
  | [] => []
  | (key, item) :: entries => (key, item.toValue) :: finishEntries entries

/-- The finished tables of an array. -/
def finishElements : List (List (String × Item)) → List Value
  | [] => []
  | entries :: elements =>
      .table (finishEntries entries) :: finishElements elements

end

/-- The elements of an array after its bracket; the bound is the length of the
text. -/
def readElements (readValue : List Char → Option (Value × List Char))
    (found : List Value) :
    Nat → List Char → Option (Value × List Char)
  | 0, _ => none
  | bound + 1, input => do
      match ← skipLines input.length input with
      | ']' :: rest => return (.array found.reverse, rest)
      | rest =>
          let (value, rest) ← readValue rest
          match ← skipLines rest.length rest with
          | ',' :: rest => readElements readValue (value :: found) bound rest
          | ']' :: rest => return (.array (value :: found).reverse, rest)
          | _ => none

/-- The entries of a table in one line after its brace or a comma. -/
def readMembers (readValue : List Char → Option (Value × List Char))
    (found : List (String × Item)) :
    Nat → List Char → Option (Value × List Char)
  | 0, _ => none
  | bound + 1, input => do
      let (path, rest) ← readKey input
      match rest with
      | '=' :: rest =>
          let (value, rest) ← readValue (skipGap rest)
          let found ← insertValue value path found
          match skipGap rest with
          | ',' :: rest => readMembers readValue found bound rest
          | '\x7d' :: rest => return (.table (finishEntries found), rest)
          | _ => none
      | _ => none

/-- A value; the depth counts the levels that are left. -/
def readValue : Nat → List Char → Option (Value × List Char)
  | 0, _ => none
  | depth + 1, input =>
      match input with
      | '"' :: _ =>
          (readString input).map fun (text, rest) => (.string text, rest)
      | '\'' :: _ =>
          (readString input).map fun (text, rest) => (.string text, rest)
      | '[' :: rest =>
          if depth = 0 then
            none
          else readElements (readValue depth) [] (rest.length + 1) rest
      | '\x7b' :: rest =>
          if depth = 0 then none
          else
            match skipGap rest with
            | '\x7d' :: rest => some (.table [], rest)
            | _ => readMembers (readValue depth) [] (rest.length + 1) rest
      | 't' :: 'r' :: 'u' :: 'e' :: rest => some (.boolean true, rest)
      | 'f' :: 'a' :: 'l' :: 's' :: 'e' :: rest => some (.boolean false, rest)
      | _ => readNumber input

end LessonSite.Toml
