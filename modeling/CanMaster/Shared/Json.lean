import Mathlib.Algebra.GroupWithZero.Nat
import Mathlib.Data.Rat.Defs

set_option autoImplicit false

-- A null pointer to an item is `none`.
inductive Json where
  | null
  | bool (value : Bool)
  | number (valuedouble : ℚ)
  | string (valuestring : String)
  | array (items : List Json)
  | object (members : List (String × Json))

namespace Json

-- The integer view of an item: truncated and saturated for a number, set by the parser for
-- a literal, and zero in an item that has none.
def valueint : Json → Int
  | .number valuedouble =>
      max (-2147483648) (min 2147483647 (valuedouble.num.tdiv valuedouble.den))
  | .bool true => 1
  | _ => 0

-- Keys are compared without regard to case.
def sameKey (left right : String) : Bool :=
  left.toList.map Char.toLower == right.toList.map Char.toLower

def getObjectItem (object : Json) (key : String) : Option Json :=
  match object with
  | .object members => (members.find? fun member => sameKey member.1 key).map Prod.snd
  | _ => none

def isArray : Option Json → Nat
  | some (.array _) => 1
  | _ => 0

-- The tag of the item type `true`, which is not the truth value of a test.
def cJSONTrue : Nat := 1 <<< 1

def children : Json → List Json
  | .array items => items
  | .object members => members.map Prod.snd
  | _ => []

theorem isArray_ne_cJSONTrue (item : Option Json) : isArray item ≠ cJSONTrue := by
  unfold isArray
  split <;> decide

theorem valueint_ofNat {n : Nat} (small : n < 2 ^ 31) : (number n).valueint = n := by
  simp only [valueint, Rat.num_natCast, Rat.den_natCast, Int.natCast_one, Int.tdiv_one]
  omega

end Json
