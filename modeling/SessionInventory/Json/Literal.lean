import SessionInventory.Json.Value

/-!
# Number literals

A literal is a number as it is spelled: a sign, digits, perhaps a fraction and an exponent.
`Literal.value?` is the number it stands for. A literal without fraction and exponent is a whole
number if 64 bits hold it; every other literal is a float.

A float comes from the leading digits that 64 bits hold, scaled by a power of ten: one operation on
floats up to the power 308, several beyond it. The result is that of these operations; it is not
always the float nearest to the decimal.
-/

namespace SessionInventory.Json

/-- The exponent of a literal. -/
structure Exponent where
  negative : Bool
  digits : List Char
  deriving DecidableEq

/-- A number literal; `fraction` is empty if there is no decimal point. -/
structure Literal where
  negative : Bool
  integer : List Char
  fraction : List Char
  exponent : Option Exponent
  deriving DecidableEq

/-- The value of a decimal digit. -/
def digitValue (c : Char) : Nat := c.toNat - '0'.toNat

/-- The digits of a literal as far as 64 bits hold them, and the power of ten that scales them. -/
structure Significand where
  digits : Nat
  scale : Int

/-- Takes the digits before the point. Once one does not fit, it and all that follow only count as
powers of ten. -/
def Significand.takeInteger (m : Nat) : List Char → Significand
  | [] => ⟨m, 0⟩
  | d :: ds =>
    if 10 * m + digitValue d < 0x10000000000000000 then takeInteger (10 * m + digitValue d) ds
    else ⟨m, ds.length + 1⟩

/-- Takes the digits behind the point, up to the first that does not fit. -/
def Significand.takeFraction (s : Significand) : List Char → Significand
  | [] => s
  | d :: ds =>
    if 10 * s.digits + digitValue d < 0x10000000000000000 then
      takeFraction ⟨10 * s.digits + digitValue d, s.scale - 1⟩ ds
    else s

/-- The digits of a literal and their scale, without its exponent. -/
def Literal.significand (l : Literal) : Significand :=
  (Significand.takeInteger 0 l.integer).takeFraction l.fraction

/-- The largest exponent that is told from a larger one. -/
def Exponent.limit : Nat := 0x7FFFFFFF

/-- The digits behind the one with which an exponent exceeds the limit, if it does. -/
def Exponent.overrun (n : Nat) : List Char → Option (List Char)
  | [] => none
  | d :: ds =>
    if Exponent.limit < 10 * n + digitValue d then some ds
    else overrun (10 * n + digitValue d) ds

/-- The value of an exponent. -/
def Exponent.value (e : Exponent) : Int :=
  let magnitude : Nat := e.digits.foldl (fun n d => 10 * n + digitValue d) 0
  if e.negative then -magnitude else magnitude

/-- The power of ten as a float, for powers up to 308. -/
def tenTo (n : Nat) : Float := Float.ofScientific 1 false n

/-- A float divided by a power of ten, at most 308 of them at a time. -/
def lower (f : Float) (n : Nat) : Float :=
  if n ≤ 308 then f / tenTo n
  else if f == 0 then f
  else lower (f / tenTo 308) (n - 308)
termination_by n
decreasing_by omega

/-- A float scaled by a power of ten, unless it becomes infinite. -/
def scale? (f : Float) (power : Int) : Option Float :=
  if power < 0 then some (lower f power.natAbs)
  else if power ≤ 308 then
    let scaled := f * tenTo power.natAbs
    if scaled.isInf then none else some scaled
  else if f == 0 then some f
  else none

/-- The size that a literal stands for as a float, unless it is out of range. An exponent beyond the
limit counts as infinite. -/
def Literal.size? (l : Literal) : Option Float :=
  let s := l.significand
  let f := Float.ofNat s.digits
  match l.exponent with
  | none => scale? f s.scale
  | some e =>
    if (Exponent.overrun 0 e.digits).isNone then scale? f (s.scale + e.value)
    else if s.digits = 0 ∨ e.negative then some 0
    else none

/-- The float that a literal stands for, unless it is out of range. -/
def Literal.float? (l : Literal) : Option Number :=
  l.size?.map fun f => .float (if l.negative then -f else f)

/-- The number that a literal stands for, unless it is out of range. A negative zero is a float, as
whole numbers have none. -/
def Literal.value? (l : Literal) : Option Number :=
  let s := l.significand
  if l.fraction = [] ∧ l.exponent = none ∧ s.scale = 0 then
    let n : Int := if l.negative then -s.digits else s.digits
    if h : -0x8000000000000000 ≤ n ∧ n < 0x10000000000000000 ∧ ¬(l.negative ∧ n = 0) then
      some (.whole n ⟨h.1, h.2.1⟩)
    else l.float?
  else l.float?

/-- How many digits of a literal lie behind the one that puts it out of range: those that follow
where the exponent exceeds its limit, and otherwise none, since all digits decide. -/
def Literal.undecided (l : Literal) : Nat :=
  match l.exponent with
  | none => 0
  | some e => ((Exponent.overrun 0 e.digits).getD []).length

end SessionInventory.Json
