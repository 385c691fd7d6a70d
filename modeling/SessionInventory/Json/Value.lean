import SessionInventory.Table

/-!
# JSON values

A value is what a text means once spelling is gone: whole numbers of 64 bits stay apart from
floating-point ones, and the members of an object that was read form a table in key order. A value
to be written may list its members in another order.
-/

namespace SessionInventory.Json

/-- A number: a whole one that 64 bits can hold, with or without a sign, or a float. -/
inductive Number where
  | whole (value : Int) (inRange : -0x8000000000000000 ≤ value ∧ value < 0x10000000000000000)
  | float (value : Float)
  deriving DecidableEq

/-- A JSON value. -/
inductive Value where
  | null
  | bool (value : Bool)
  | number (value : Number)
  | string (value : String)
  | array (elements : List Value)
  | object (members : List (String × Value))

/-- A whole number that needs no sign. -/
def Number.ofNat (n : Nat) (h : n < 0x10000000000000000) : Number :=
  .whole n (by omega)

/-- A port as a number. -/
def Number.ofUInt16 (n : UInt16) : Number :=
  .ofNat n.toNat (Nat.lt_trans n.toNat_lt (by decide))

/-- Equality of numbers: whole numbers by value, floats as floats compare, so that the two zeros are
equal; a whole number never equals a float. -/
def Number.same : Number → Number → Bool
  | .whole a _, .whole b _ => a == b
  | .float a, .float b => a == b
  | _, _ => false

mutual

/-- Equality of values, up to `Number.same`. -/
def Value.same : Value → Value → Bool
  | .null, .null => true
  | .bool a, .bool b => a == b
  | .number a, .number b => a.same b
  | .string a, .string b => a == b
  | .array as, .array bs => sameElements as bs
  | .object as, .object bs => sameMembers as bs
  | _, _ => false

/-- Equality of the elements of two arrays, one by one. -/
def sameElements : List Value → List Value → Bool
  | [], [] => true
  | a :: as, b :: bs => a.same b && sameElements as bs
  | _, _ => false

/-- Equality of the members of two objects, one by one. -/
def sameMembers : List (String × Value) → List (String × Value) → Bool
  | [], [] => true
  | (k, a) :: as, (l, b) :: bs => k == l && a.same b && sameMembers as bs
  | _, _ => false

end

mutual

/-- How deep containers stand in one another: nothing for a scalar, one for an empty container. -/
def Value.nesting : Value → Nat
  | .array elements => nestingOfElements elements + 1
  | .object members => nestingOfMembers members + 1
  | _ => 0

/-- The greatest nesting of an element. -/
def nestingOfElements : List Value → Nat
  | [] => 0
  | v :: vs => max v.nesting (nestingOfElements vs)

/-- The greatest nesting of a member. -/
def nestingOfMembers : List (String × Value) → Nat
  | [] => 0
  | (_, v) :: ms => max v.nesting (nestingOfMembers ms)

end

end SessionInventory.Json
