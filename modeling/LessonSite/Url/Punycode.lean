/-!
# Names written in ASCII letters

A label with letters outside of ASCII is written by its ASCII letters followed
by the others, each as the distance, in code point and position, from the one
before it.  Distances are numbers of variable length whose digit thresholds
adapt to the distances seen so far.
-/

namespace LessonSite.Url.Punycode

/-- The threshold of the digit at a position that counts in steps of 36. -/
def threshold (position bias : Nat) : Nat :=
  if position ≤ bias then
    1
  else if position ≥ bias + 26 then 26 else position - bias

theorem threshold_pos (position bias : Nat) : 1 ≤ threshold position bias := by
  unfold threshold
  split
  · omega
  · split <;> omega

theorem threshold_le (position bias : Nat) : threshold position bias ≤ 26 := by
  unfold threshold
  split
  · omega
  · split <;> omega

/-- Shrinks a distance step by step. -/
def shrink (distance steps : Nat) : Nat × Nat :=
  if distance > 455 then
    shrink (distance / 35) (steps + 36)
  else (distance, steps)
termination_by distance
decreasing_by exact Nat.div_lt_self (by omega) (by omega)

def adapt (distance count : Nat) (first : Bool) : Nat :=
  let distance := if first then distance / 700 else distance / 2
  let (rest, steps) := shrink (distance + distance / count) 0
  steps + 36 * rest / (rest + 38)

def digit (value : Nat) : Char :=
  if value < 26 then Char.ofNat (97 + value) else Char.ofNat (22 + value)

def digitValue? (character : Char) : Option Nat :=
  let code := character.toNat
  if 97 ≤ code ∧ code ≤ 122 then some (code - 97)
  else if 65 ≤ code ∧ code ≤ 90 then some (code - 65)
  else if 48 ≤ code ∧ code ≤ 57 then some (code - 22)
  else none

def encodeDistance (bias position distance : Nat) : List Char :=
  let limit := threshold position bias
  if distance < limit then [digit distance]
  else
    digit (limit + (distance - limit) % (36 - limit)) ::
      encodeDistance bias (position + 36) ((distance - limit) / (36 - limit))
termination_by distance
decreasing_by
  have positive := threshold_pos position bias
  have small := threshold_le position bias
  calc (distance - threshold position bias) / (36 - threshold position bias)
      ≤ distance - threshold position bias := Nat.div_le_self _ _
    _ < distance := by omega

/-- What has been written so far, and what the next distance is counted from. -/
structure Writing where
  written : List Char
  distance : Nat
  bias : Nat
  count : Nat

/-- Looks at one character of the label while characters of the given code point
are written. -/
def writeCharacter (basic code : Nat) (writing : Writing)
    (character : Char) : Writing :=
  if character.toNat < code then
    { writing with distance := writing.distance + 1 }
  else if character.toNat = code then
    { written :=
        writing.written ++ encodeDistance writing.bias 36 writing.distance
      distance := 0
      bias :=
        adapt writing.distance (writing.count + 1) (writing.count == basic)
      count := writing.count + 1 }
  else writing

/-- Writes the characters of the given code points, in ascending order. -/
def writeCodes (label : List Char) (basic : Nat) (previous : Nat)
    (writing : Writing) :
    List Nat → Writing
  | [] => writing
  | code :: codes =>
      let distance := writing.distance + (code - previous) * (writing.count + 1)
      let writing :=
        label.foldl (writeCharacter basic code) { writing with distance }
      writeCodes label basic (code + 1)
        { writing with distance := writing.distance + 1 } codes

/-- A sorted list of numbers with one more number in its place, once. -/
def insertOnce (number : Nat) : List Nat → List Nat
  | [] => [number]
  | first :: rest =>
      if number < first then number :: first :: rest
      else if number = first then first :: rest
      else first :: insertOnce number rest

/-- Writes a label in ASCII letters. -/
def encode (label : List Char) : List Char :=
  let basic := label.filter fun character => character.toNat < 0x80
  let codes := (label.filter fun character => character.toNat ≥ 0x80).foldr
    (fun character => insertOnce character.toNat) []
  let start : Writing := ⟨[], 0, 72, basic.length⟩
  basic ++ (if basic.isEmpty then [] else ['-']) ++
    (writeCodes label basic.length 128 start codes).written

/-- Reads a distance and adds it, times its weight, to a number. -/
def decodeDistance (bias : Nat) :
    List Char → Nat → Nat → Nat → Option (Nat × List Char)
  | [], _, _, _ => none
  | character :: rest, position, weight, number =>
      match digitValue? character with
      | none => none
      | some value =>
          let limit := threshold position bias
          if value < limit then some (number + value * weight, rest)
          else decodeDistance bias rest (position + 36) (weight * (36 - limit))
            (number + value * weight)

theorem length_decodeDistance {bias position weight number : Nat}
    {input rest : List Char}
    {result : Nat}
    (read : decodeDistance bias input position weight number =
      some (result, rest)) :
    rest.length < input.length := by
  induction input generalizing position weight number with
  | nil => simp [decodeDistance] at read
  | cons character input induction =>
      rw [decodeDistance] at read
      split at read
      · simp at read
      · dsimp only at read
        split at read
        · simp only [Option.some.injEq, Prod.mk.injEq] at read
          rw [← read.2]
          simp
        · have shorter := induction read
          simp only [List.length_cons]
          omega

/-- Puts in the characters that the distances describe. -/
def decodeCodes (bias code position : Nat) (label : List Char)
    (input : List Char) :
    Option (List Char) :=
  if input.isEmpty then some label
  else
    match _read : decodeDistance bias input 36 1 position with
    | none => none
    | some (number, rest) =>
        let count := label.length + 1
        let code := code + number / count
        if code < 0xD800 || (0xDFFF < code && code ≤ 0x10FFFF) then
          decodeCodes (adapt (number - position) count (position == 0)) code
            (number % count + 1)
            (label.insertIdx (number % count) (Char.ofNat code)) rest
        else none
termination_by input.length
decreasing_by exact length_decodeDistance _read

/-- Reads a label written in ASCII letters. -/
def decode? (input : List Char) : Option (List Char) :=
  let tail := (input.reverse.takeWhile (· != '-')).reverse
  let basic := input.take (input.length - tail.length - 1)
  if input.any fun character => character.toNat ≥ 0x80 then none
  else decodeCodes 72 128 0 basic tail

end LessonSite.Url.Punycode
