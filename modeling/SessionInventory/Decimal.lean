/-!
# Floats in decimal

Every decimal near enough to a floating-point number reads back as that number: the reals that round
to it form an interval. `Binary.shortest` picks, of the decimals in the interval, one with the
fewest digits, and of those the nearest. A grid of `n` digits has a point in the interval exactly if
one of the value's two neighbours on that grid lies in it, so only those two are tried.

Decimals of a moderate size are written with a point among their digits, others with the point
behind the first digit and a power of ten. `Layout` holds the choices, `Layout.document` the ones
that the documents of this library make.
-/

namespace SessionInventory

/-- A decimal: `digits`, of which neither the first nor the last is a zero, with the decimal point
behind the first, times ten to the power `exponent`. -/
structure Decimal where
  digits : List Char
  exponent : Int
  deriving DecidableEq

namespace Decimal

/-- A positive number `significand * 2 ^ exponent`. The next smaller number of its format is half as
far away as the next larger one if `narrowBelow`. -/
structure Binary where
  significand : Nat
  exponent : Int
  narrowBelow : Bool

/-- The absolute value of a finite float, from its bits: eleven of exponent above fifty-two of
fraction. -/
def Binary.ofFloat (f : Float) : Binary :=
  let bits : Nat := f.toBits.toNat
  let fraction : Nat := bits % 0x10000000000000
  let scale : Nat := bits / 0x10000000000000 % 0x800
  if scale = 0 then ⟨fraction, -1074, false⟩
  else ⟨0x10000000000000 + fraction, (scale : Int) - 1075, fraction = 0 ∧ 1 < scale⟩

/-- An interval of reals around a value, and a decimal grid: `low`, `value` and `high` are numerators
over one denominator, and the points of the grid are the multiples of `unit`. -/
structure Window where
  low : Nat
  value : Nat
  high : Nat
  unit : Nat
  closed : Bool

/-- Whether a point of the grid lies in the interval. -/
def Window.holds (w : Window) (point : Nat) : Bool :=
  if w.closed then w.low ≤ point * w.unit && point * w.unit ≤ w.high
  else w.low < point * w.unit && point * w.unit < w.high

/-- The point of the grid that is nearest to the value, if one lies in the interval. Halfway between
two points it is the even one. -/
def Window.nearest? (w : Window) : Option Nat :=
  let below := w.value / w.unit
  let twice := 2 * (w.value - below * w.unit)
  match w.holds below, w.holds (below + 1) with
  | true, true =>
    if twice < w.unit ∨ (twice = w.unit ∧ below % 2 = 0) then some below else some (below + 1)
  | true, false => some below
  | false, true => some (below + 1)
  | false, false => none

/-- The reals that round to a number, on the grid of the multiples of `10 ^ place`. The ends are
half-way points, which round to the number exactly if its significand is even. -/
def Binary.window (b : Binary) (place : Int) : Window :=
  let quarters := b.exponent - 2
  let numerator := Nat.pow 2 quarters.toNat * Nat.pow 10 (-place).toNat
  { low := (4 * b.significand - if b.narrowBelow then 1 else 2) * numerator
    value := 4 * b.significand * numerator
    high := (4 * b.significand + 2) * numerator
    unit := Nat.pow 2 (-quarters).toNat * Nat.pow 10 place.toNat
    closed := b.significand % 2 = 0 }

/-- The digits of a number before its decimal point, or less than one if zeros follow the point. -/
def Binary.magnitude (b : Binary) : Int :=
  let w := b.window (-400)
  (Nat.toDigits 10 (w.value / w.unit)).length - 400

/-- The decimal that is `point * 10 ^ place`. -/
def ofPoint (point : Nat) (place : Int) : Decimal :=
  let written := Nat.toDigits 10 point
  ⟨(written.reverse.dropWhile (· = '0')).reverse, place + written.length - 1⟩

/-- The shortest decimal that reads back as a number. Seventeen digits are always enough. -/
def Binary.shortest (b : Binary) : Decimal :=
  let places := (List.range 17).map fun n : Nat => b.magnitude - (n + 1)
  match places.findSome? fun place => (b.window place).nearest?.map fun p => (p, place) with
  | some (point, place) => .ofPoint point place
  | none => .ofPoint (b.window (b.magnitude - 17)).value (b.magnitude - 17)

/-! ## Texts -/

/-- Which exponents are written without a power of ten. -/
structure Layout where
  lowest : Int
  highest : Int

/-- Documents write exponents from `-5` to `15` without a power of ten. -/
def Layout.document : Layout := ⟨-5, 15⟩

/-- The digits with the point in its place, and a `0` on the side of the point that has none. -/
def positional (d : Decimal) : List Char :=
  if d.exponent < 0 then
    '0' :: '.' :: List.replicate (-d.exponent - 1).toNat '0' ++ d.digits
  else
    let whole := d.exponent.toNat + 1
    let padded := d.digits ++ List.replicate (whole - d.digits.length) '0'
    let rest := if d.digits.length ≤ whole then ['0'] else d.digits.drop whole
    padded.take whole ++ '.' :: rest

/-- The digits with the point behind the first, if there are more, and the exponent with its
sign. -/
def scientific (d : Decimal) : List Char :=
  let sign := if d.exponent < 0 then '-' else '+'
  let tail := match d.digits.drop 1 with
    | [] => []
    | rest => '.' :: rest
  d.digits.take 1 ++ tail ++ 'e' :: sign :: Nat.toDigits 10 d.exponent.natAbs

/-- The text of a decimal. -/
def Layout.write (layout : Layout) (d : Decimal) : List Char :=
  if layout.lowest ≤ d.exponent ∧ d.exponent ≤ layout.highest then positional d else scientific d

/-- The text of a finite float: its sign, also of a zero, and the shortest decimal that reads back. -/
def Layout.writeFloat (layout : Layout) (f : Float) : String :=
  let sign := if f.toBits < 0x8000000000000000 then [] else ['-']
  let size := if f == 0 then ['0', '.', '0'] else layout.write (Binary.ofFloat f).shortest
  String.ofList (sign ++ size)

end Decimal

end SessionInventory
