import LessonSite.Number.Basic

/-!
# Dates and times

A date, a time, or a date with a time and possibly the distance from universal
time.  What is read is written again in one form: a capital `T` between date and
time, and a fraction of a second on at most nine places without zeros at its
end.
-/

namespace LessonSite.Toml

/-- Reads a number of exactly the given count of digits. -/
def readDigits (count : Nat) (input : List Char) : Option (Nat × List Char) :=
  let digits := input.take count
  if digits.length = count ∧ digits.all Char.isDigit then
    some (decimalValue digits,
      input.drop count)
  else none

def readMark (mark : Char) : List Char → Option (List Char)
  | first :: rest => if first = mark then some rest else none
  | [] => none

/-- The number of days of a month. -/
def daysOfMonth (year month : Nat) : Nat :=
  if month = 2 then
    if year % 4 = 0 ∧ (year % 100 ≠ 0 ∨ year % 400 = 0) then 29 else 28
  else if [4, 6, 9, 11].contains month then 30
  else 31

def twoDigits (number : Nat) : String :=
  (if number < 10 then "0" else "") ++ toString number

def fourDigits (number : Nat) : String :=
  twoDigits (number / 100) ++ twoDigits (number % 100)

def readDate (input : List Char) : Option (String × List Char) := do
  let (year, input) ← readDigits 4 input
  let (month, input) ← readDigits 2 (← readMark '-' input)
  let (day, input) ← readDigits 2 (← readMark '-' input)
  if month < 1 ∨ 12 < month ∨ day < 1 ∨ daysOfMonth year month < day then none
  else
  some
    (fourDigits year ++ "-" ++ twoDigits month ++ "-" ++ twoDigits day, input)

/-- Reads the fraction of a second, if there is one. -/
def readFraction (input : List Char) : Option (String × List Char) :=
  match input with
  | '.' :: rest =>
      let digits := rest.takeWhile Char.isDigit
      if digits.isEmpty then none
      else
        let kept := ((digits.take 9).reverse.dropWhile (· == '0')).reverse
        some
          (if kept.isEmpty then "" else "." ++ String.ofList kept,
            rest.dropWhile Char.isDigit)
  | _ => some ("", input)

def readTime (input : List Char) : Option (String × List Char) := do
  let (hour, input) ← readDigits 2 input
  let (minute, input) ← readDigits 2 (← readMark ':' input)
  let (second, input) ← readDigits 2 (← readMark ':' input)
  let (fraction, input) ← readFraction input
  if 23 < hour ∨ 59 < minute ∨ 60 < second then none
  else
    some
      (twoDigits hour ++ ":" ++ twoDigits minute ++ ":" ++ twoDigits second ++
        fraction, input)

/-- Reads the distance from universal time, if it is given. -/
def readOffset (input : List Char) : Option (String × List Char) :=
  match input with
  | sign :: rest =>
      if sign = 'Z' ∨ sign = 'z' then some ("Z", rest)
      else if sign = '+' ∨ sign = '-' then do
        let (hour, rest) ← readDigits 2 rest
        let (minute, rest) ← readDigits 2 (← readMark ':' rest)
        if 23 < hour ∨ 59 < minute then none
        else
          let sign := if sign = '-' ∧ (hour, minute) ≠ (0, 0) then "-" else "+"
          some (sign ++ twoDigits hour ++ ":" ++ twoDigits minute, rest)
      else some ("", input)
  | [] => some ("", [])

/-- Reads a date, a time or both. -/
def readDatetime (input : List Char) : Option (String × List Char) :=
  match readDate input with
  | none => readTime input
  | some (date, afterDate) =>
      match afterDate with
      | gap :: rest =>
          if gap = 'T' ∨ gap = 't' ∨
            (gap = ' ' ∧ (readTime rest).isSome) then do
            let (time, rest) ← readTime rest
            let (offset, rest) ← readOffset rest
            some (date ++ "T" ++ time ++ offset, rest)
          else some (date, afterDate)
      | [] => some (date, [])

end LessonSite.Toml
