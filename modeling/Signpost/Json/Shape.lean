import Signpost.Json.Value

/-!
# Shapes of JSON values

What a value must look like to be a text, a number of a width, a record, a choice. A record is an
object that has each of its fields once and perhaps others, or an array of exactly its fields in
order; a choice is its name, or an object of the name alone with no content.
-/

namespace Signpost.Json.Value

def text? : Value → Option String
  | .string t => t.toString?
  | _ => none

def bool? : Value → Option Bool
  | .bool b => some b
  | _ => none

/-- A number below a bound, written as digits alone. -/
def natural? (bound : Nat) : Value → Option Nat
  | .number n => if n.isNatural && n.whole < bound then some n.whole else none
  | _ => none

/-- A whole number of 64 bits with its sign; zero has none. -/
def integer64? : Value → Option Int
  | .number n =>
    if n.fraction.isSome || n.exponent.isSome then none
    else if n.negative then
      if 0 < n.whole && n.whole ≤ 9223372036854775808 then some (-n.whole) else none
    else if n.whole < 9223372036854775808 then some n.whole
    else none
  | _ => none

def array? : Value → Option (List Value)
  | .array items => some items
  | _ => none

/-- The members of an object, if all its keys are texts. -/
def members? (members : List (Text × Value)) : Option (List (String × Value)) :=
  members.mapM fun (key, value) => key.toString?.map fun name => (name, value)

/-- The value of a name that occurs once. -/
def unique? (members : List (String × Value)) (name : String) : Option Value :=
  match members.filter (·.1 == name) with
  | [(_, value)] => some value
  | _ => none

/-- The values of the fields of a record in the given order. -/
def fields? (names : List String) : Value → Option (List Value)
  | .array items => if items.length = names.length then some items else none
  | .object members => do
    let members ← members? members
    names.mapM (unique? members)
  | _ => none

/-- The choice that a value names. -/
def choice? {α : Type} (choices : List (String × α)) : Value → Option α
  | .string t => t.toString?.bind fun name => choices.lookup name
  | .object [(key, .null)] => key.toString?.bind fun name => choices.lookup name
  | _ => none

/-- The fields of a record that a tag selects: the tag is a field of the object or the first item
of the array. -/
def tagged? {α : Type} (tag : String)
    (choices : List (String × (List String × (List Value → Option α)))) :
    Value → Option α
  | .array (.string t :: items) => do
    let (names, build) ← choices.lookup (← t.toString?)
    build (← fields? names (.array items))
  | .object members => do
    let named ← members? members
    let (names, build) ← choices.lookup (← (← unique? named tag).text?)
    build (← fields? names (.object members))
  | _ => none

mutual

/-- Whether a value can be held as it is: texts are whole, numbers finite, and nothing is nested
deeper than a limit. -/
def isHeld : Nat → Value → Bool
  | _, .null => true
  | _, .bool _ => true
  | _, .number n => n.isFinite
  | _, .string t => t.toString?.isSome
  | limit, .array items => 0 < limit && areHeld (limit - 1) items
  | limit, .object members => 0 < limit && membersHeld (limit - 1) members

def areHeld : Nat → List Value → Bool
  | _, [] => true
  | limit, item :: items => isHeld limit item && areHeld limit items

def membersHeld : Nat → List (Text × Value) → Bool
  | _, [] => true
  | limit, (key, value) :: members =>
    key.toString?.isSome && isHeld limit value && membersHeld limit members

end

end Signpost.Json.Value
