import Signpost.Json.Number

/-!
# JSON values

A value as the grammar of JSON has it. A string is a list of scalars in which `none` stands for
half of a surrogate pair, which only an escape can name.
-/

namespace Signpost.Json

/-- The scalars of a string, `none` for a surrogate without its partner. -/
abbrev Text := List (Option Char)

def Text.ofString (s : String) : Text :=
  s.toList.map some

/-- The text of a string that holds no half of a surrogate pair. -/
def Text.toString? (t : Text) : Option String :=
  (t.mapM id).map String.ofList

@[simp] theorem Text.toString?_ofString (s : String) : (Text.ofString s).toString? = some s := by
  have : ∀ cs : List Char, (cs.map some).mapM (m := Option) id = some cs := by
    intro cs
    induction cs with
    | nil => rfl
    | cons c cs ih => simp [ih]
  simp [Text.ofString, Text.toString?, this]

inductive Value where
  | null
  | bool (b : Bool)
  | number (n : Number)
  | string (t : Text)
  | array (items : List Value)
  | object (members : List (Text × Value))
  deriving Repr

def Value.ofString (s : String) : Value :=
  .string (.ofString s)

def Value.ofNat (n : Nat) : Value :=
  .number (.ofNat n)

/-- An object whose keys are plain texts. -/
def Value.ofFields (fields : List (String × Value)) : Value :=
  .object (fields.map fun (name, value) => (Text.ofString name, value))

end Signpost.Json
