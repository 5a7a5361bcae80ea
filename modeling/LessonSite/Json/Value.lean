import LessonSite.Number.Double

/-!
# JSON values

A JSON document as a tree.  Members of an object keep their order and may
repeat, so that a reader of a record can refuse a repeated field.
-/

namespace LessonSite

/-- A JSON value. -/
inductive Json where
  | null
  | bool (value : Bool)
  | integer (value : Int)
  /-- A number with a fraction or an exponent, or outside the integer range. -/
  | decimal (value : Double)
  | string (value : String)
  | array (items : List Json)
  | object (members : List (String × Json))
  deriving Repr, Inhabited

namespace Json

def string? : Json → Option String
  | .string value => some value
  | _ => none

/-- The truth value of a boolean. -/
def bool? : Json → Option Bool
  | .bool value => some value
  | _ => none

/-- A natural number below a bound. -/
def natBelow? (bound : Nat) : Json → Option Nat
  | .integer (.ofNat value) => if value < bound then some value else none
  | _ => none

def array? : Json → Option (List Json)
  | .array items => some items
  | _ => none

mutual

/-- No number in a value is too large. -/
def isFinite : Json → Bool
  | .decimal (.infinite _) => false
  | .array items => areFinite items
  | .object members => membersAreFinite members
  | _ => true

/-- No number in some values is too large. -/
def areFinite : List Json → Bool
  | [] => true
  | item :: items => item.isFinite && areFinite items

/-- No number in the values of some members is too large. -/
def membersAreFinite : List (String × Json) → Bool
  | [] => true
  | (_, value) :: members => value.isFinite && membersAreFinite members

end

/-- The member of an object with a given name, if there is one; more than one is
refused, and members with other names are passed over. -/
def soleMember? (members : List (String × Json)) (name : String) :
    Option (Option Json) :=
  match members.filter fun (member, _) => member = name with
  | [] => some none
  | [(_, value)] => some (some value)
  | _ => none

/-- The fields of a record that must all be given. -/
def recordFields? (names : List String) : Json → Option (List Json)
  | .object members => names.mapM fun name => (soleMember? members name).join
  | .array items => if items.length = names.length then some items else none
  | _ => none

/-- The fields of a record: those that must be given, and those that may be. -/
def recordParts? (needed optional : List String) (value : Json) :
    Option (List Json × List (Option Json)) :=
  match value with
  | .object members => do
      let given ← recordFields? needed value
      let others ← optional.mapM (soleMember? members)
      return (given, others)
  | .array items =>
      let others := items.drop needed.length
      if needed.length ≤ items.length ∧ others.length ≤ optional.length then
        some (items.take needed.length,
          others.map some ++
            List.replicate (optional.length - others.length) none)
      else none
  | _ => none

end Json

end LessonSite
