import Mathlib.Data.Rat.Cast.Order

/-!
# JSON values

Values as a JSON library holds them in memory. Integers and floating numbers are
kept apart; a floating number is the rational it stands for.
-/

inductive Json where
  | null
  | boolean (b : Bool)
  | integer (n : Int)
  | float (q : ℚ)
  | string (s : String)
  | array (items : List Json)
  | object (members : List (String × Json))
  deriving Repr

namespace Json

/-- The member of an object, if the value is an object that has it. -/
def member? (j : Json) (key : String) : Option Json :=
  match j with
  | object members => members.lookup key
  | _ => none

end Json
