import SmokeProbe.Decimal.Double
import SmokeProbe.Text.Utf8

/-!
# JSON values

A number is an integer or a double; the two never coincide. The members of an object are kept in
ascending order of the UTF-8 bytes of their keys, each key once.
-/
namespace SmokeProbe

/-- Any JSON value. -/
inductive Json where
  | null
  | bool (b : Bool)
  | int (n : Int)
  | double (x : Decimal.Double)
  | str (s : String)
  | arr (items : List Json)
  | obj (members : List (String × Json))
deriving Repr

namespace Json

mutual

/-- Equality of values can be decided, although they nest through lists. -/
def decideEq : (a b : Json) → Decidable (a = b)
  | .null, .null => isTrue rfl
  | .bool a, .bool b => decidable_of_iff (a = b) (by simp)
  | .int a, .int b => decidable_of_iff (a = b) (by simp)
  | .double a, .double b => decidable_of_iff (a = b) (by simp)
  | .str a, .str b => decidable_of_iff (a = b) (by simp)
  | .arr a, .arr b =>
    have := decideEqItems a b
    decidable_of_iff (a = b) (by simp)
  | .obj a, .obj b =>
    have := decideEqMembers a b
    decidable_of_iff (a = b) (by simp)
  | .null, .bool _ | .null, .int _ | .null, .double _ | .null, .str _ | .null, .arr _
  | .null, .obj _ | .bool _, .null | .bool _, .int _ | .bool _, .double _ | .bool _, .str _
  | .bool _, .arr _ | .bool _, .obj _ | .int _, .null | .int _, .bool _ | .int _, .double _
  | .int _, .str _ | .int _, .arr _ | .int _, .obj _ | .double _, .null | .double _, .bool _
  | .double _, .int _ | .double _, .str _ | .double _, .arr _ | .double _, .obj _
  | .str _, .null | .str _, .bool _ | .str _, .int _ | .str _, .double _ | .str _, .arr _
  | .str _, .obj _ | .arr _, .null | .arr _, .bool _ | .arr _, .int _ | .arr _, .double _
  | .arr _, .str _ | .arr _, .obj _ | .obj _, .null | .obj _, .bool _ | .obj _, .int _
  | .obj _, .double _ | .obj _, .str _ | .obj _, .arr _ => isFalse nofun

def decideEqItems : (a b : List Json) → Decidable (a = b)
  | [], [] => isTrue rfl
  | a :: as, b :: bs =>
    have := decideEq a b
    have := decideEqItems as bs
    decidable_of_iff (a = b ∧ as = bs) (by simp)
  | [], _ :: _ | _ :: _, [] => isFalse nofun

def decideEqMembers : (a b : List (String × Json)) → Decidable (a = b)
  | [], [] => isTrue rfl
  | (k, a) :: as, (l, b) :: bs =>
    have := decideEq a b
    have := decideEqMembers as bs
    decidable_of_iff ((k = l ∧ a = b) ∧ as = bs) (by simp)
  | [], _ :: _ | _ :: _, [] => isFalse nofun

end

instance : DecidableEq Json := decideEq

/-- Byte order of keys. -/
def keyBefore (a b : String) : Bool := decide (Text.Utf8.bytes a < Text.Utf8.bytes b)

/-- Puts a member in its place; a member with the same key is replaced. -/
def insertMember (key : String) (value : Json) : List (String × Json) → List (String × Json)
  | [] => [(key, value)]
  | (k, v) :: rest =>
    if key = k then (key, value) :: rest
    else if keyBefore key k then (key, value) :: (k, v) :: rest
    else (k, v) :: insertMember key value rest

/-- The object with the given members, the last one of each key. -/
def ofMembers (members : List (String × Json)) : Json :=
  .obj (members.foldl (fun acc m => insertMember m.1 m.2 acc) [])

/-- The value of a member of an object. -/
def member? (key : String) : Json → Option Json
  | .obj members => (members.find? (·.1 == key)).map Prod.snd
  | _ => none

end Json

end SmokeProbe
