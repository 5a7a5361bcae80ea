/-!
# Patterns of text

The patterns with which tools search lines: characters, sets of characters,
repetition, and the ends of the line.
-/

namespace LessonSite.Shell

/-- What one character may be. -/
inductive Atom where
  | one (character : Char)
  | any
  | within (negated : Bool) (ranges : List (Char × Char))
  deriving Repr

/-- The character is one that the atom allows. -/
def Atom.allows (atom : Atom) (character : Char) : Bool :=
  match atom with
  | .one expected => expected == character
  | .any => true
  | .within negated ranges =>
      negated !=
        ranges.any fun (first, last) => first ≤ character && character ≤ last

/-- An atom, which stands once or any number of times. -/
structure PatternPiece where
  atom : Atom
  repeated : Bool
  deriving Repr

/-- A pattern, bound to the ends of the line or not. -/
structure Pattern where
  atStart : Bool
  pieces : List PatternPiece
  atEnd : Bool
  deriving Repr

namespace Pattern

/-- Matches an atom as often as possible such that the rest matches too. -/
def matchRepeated (atom : Atom)
    (continuation : List Char → Option (List Char)) :
    List Char → Option (List Char)
  | [] => continuation []
  | character :: rest =>
      if atom.allows character then
        (matchRepeated atom continuation rest).or
          (continuation (character :: rest))
      else continuation (character :: rest)

/-- Matches pieces at the start of a text: what follows the match. -/
def matchPieces (atEnd : Bool) :
    List PatternPiece → List Char → Option (List Char)
  | [], rest => if atEnd && !rest.isEmpty then none else some rest
  | ⟨atom, true⟩ :: pieces, text =>
      matchRepeated atom (matchPieces atEnd pieces) text
  | ⟨_, false⟩ :: _, [] => none
  | ⟨atom, false⟩ :: pieces, character :: rest =>
      if atom.allows character then matchPieces atEnd pieces rest else none

/-- The pattern matches somewhere in a line. -/
def occursIn (pattern : Pattern) : List Char → Bool
  | [] => (matchPieces pattern.atEnd pattern.pieces []).isSome
  | character :: rest =>
      (matchPieces pattern.atEnd pattern.pieces (character :: rest)).isSome ||
        (!pattern.atStart && occursIn pattern rest)

/-- Exchanges the first match in a line or all of them. -/
def replaceFrom (pattern : Pattern) (replacement : List Char → List Char)
    (all isFirst : Bool) :
    (fuel : Nat) → List Char → List Char
  | 0, text => text
  | fuel + 1, text =>
      let found :=
        if isFirst || !pattern.atStart then
          matchPieces pattern.atEnd pattern.pieces text
        else none
      match found, text with
      | none, [] => []
      | none, character :: rest =>
          character :: replaceFrom pattern replacement all false fuel rest
      | some rest, _ =>
          let matched := text.take (text.length - rest.length)
          let after :=
            match matched, rest with
            | [], [] => []
            | [], character :: rest =>
                character ::
                  if all then
                    replaceFrom pattern replacement all false fuel rest
                  else rest
            | _, _ =>
                if all then
                  replaceFrom pattern replacement all false fuel rest
                else rest
          replacement matched ++ after

/-- Exchanges the first match in a line or all of them. -/
def replace (pattern : Pattern) (replacement : List Char → List Char)
    (all : Bool) (text : List Char) : List Char :=
  replaceFrom pattern replacement all true (text.length + 1) text

/-- Reads the members of a set up to the closing bracket. -/
def readSet :
    (isFirst : Bool) → List Char → Option (List (Char × Char) × List Char)
  | _, [] => none
  | false, ']' :: rest => some ([], rest)
  | _, first :: '-' :: last :: rest =>
      if last = ']' then do
        let (ranges, rest) ← readSet false (last :: rest)
        return ((first, first) :: ('-', '-') :: ranges, rest)
      else do
        let (ranges, rest) ← readSet false rest
        return ((first, last) :: ranges, rest)
  | _, first :: rest => do
      let (ranges, rest) ← readSet false rest
      return ((first, first) :: ranges, rest)

def readAtom : List Char → Option (Atom × List Char)
  | '[' :: '^' :: rest => do
      let (ranges, rest) ← readSet true rest
      return (.within true ranges, rest)
  | '[' :: rest => do
      let (ranges, rest) ← readSet true rest
      return (.within false ranges, rest)
  | '.' :: rest => some (.any, rest)
  | '\\' :: 'n' :: rest => some (.one '\n', rest)
  | '\\' :: 't' :: rest => some (.one '\t', rest)
  | '\\' :: character :: rest => some (.one character, rest)
  | character :: rest => some (.one character, rest)
  | [] => none

/-- Reads the pieces of a pattern and whether it is bound to the end of the
line. -/
def readPieces : (fuel : Nat) → List Char → Option (List PatternPiece × Bool)
  | 0, _ => none
  | _, [] => some ([], false)
  | _, ['$'] => some ([], true)
  | fuel + 1, text => do
      let (atom, rest) ← readAtom text
      let (repeated, rest) :=
        match rest with
        | '*' :: rest => (true, rest)
        | rest => (false, rest)
      let (pieces, atEnd) ← readPieces fuel rest
      return (⟨atom, repeated⟩ :: pieces, atEnd)

def read (text : List Char) : Option Pattern := do
  let (atStart, rest) :=
    match text with
    | '^' :: rest => (true, rest)
    | rest => (false, rest)
  let (pieces, atEnd) ← readPieces (rest.length + 1) rest
  return ⟨atStart, pieces, atEnd⟩

end Pattern

end LessonSite.Shell
