import CacheTelemetry.Decimal.Binary64

/-!
# Shortest decimal text

The text of a double with the fewest digits that read back as the same double. Among decimals of
that many digits the nearest to the number is chosen, and an even last digit breaks a tie. A number
from `0.0001` up to `10 ^ 16` is written positionally, always with a point; any other with one digit
before the point and a signed exponent of at least two digits.
-/

namespace CacheTelemetry.Binary64

/-- The reals that round to one double, scaled to natural numbers: the double is `value / den`, the
ends of the interval are `low / den` and `high / den`, and they belong to it iff `closed`. -/
structure Rounding where
  low : Nat
  value : Nat
  high : Nat
  den : Nat
  closed : Bool

/-- The interval of reals that round to `m * 2 ^ e`. Below a power of two the gap is half as wide,
unless the number below is as far away as at the least exponent. -/
def rounding (m : Nat) (e : Int) : Rounding :=
  let unit := Nat.pow 2 e.toNat
  let below := if 2 * m = mantissaBound ∧ minExponent < e then 1 else 2
  { low := (4 * m - below) * unit, value := 4 * m * unit, high := (4 * m + 2) * unit,
    den := 4 * Nat.pow 2 (-e).toNat, closed := m % 2 == 0 }

/-- A decimal `digits * 10 ^ exponent`. -/
structure Decimal where
  digits : Nat
  exponent : Int
  deriving DecidableEq, Repr, Inhabited

namespace Rounding

/-- A number `n / r.den` rounds to the double. -/
def contains (r : Rounding) (n : Nat) : Bool :=
  if r.closed then r.low ≤ n && n ≤ r.high else r.low < n && n < r.high

/-- The position of the decimal point: the least `k` with `value < 10 ^ k`, for a positive value. -/
def magnitude (r : Rounding) : Int :=
  if r.den ≤ r.value then (Nat.toDigits 10 (r.value / r.den)).length
  else
    match (List.range 400).find? fun j => decide (r.den ≤ r.value * Nat.pow 10 j) with
    | some j => 1 - (j : Int)
    | none => -400

/-- The same interval with the unit `10 ^ x` for its numbers. -/
def inUnits (r : Rounding) (x : Int) : Rounding :=
  { r with
    low := r.low * Nat.pow 10 (-x).toNat, value := r.value * Nat.pow 10 (-x).toNat
    high := r.high * Nat.pow 10 (-x).toNat, den := r.den * Nat.pow 10 x.toNat }

/-- The nearest of the two neighbours of the value on the grid of integers that rounds to the
double, if one of them does; an even one breaks a tie. -/
def nearestInteger? (r : Rounding) : Option Nat :=
  let floor := r.value / r.den
  let rest := r.value % r.den
  match r.contains (floor * r.den), r.contains ((floor + 1) * r.den) with
  | true, true =>
    some (if 2 * rest < r.den ∨ 2 * rest = r.den ∧ floor % 2 = 0 then floor else floor + 1)
  | true, false => some floor
  | false, true => some (floor + 1)
  | false, false => none

/-- The shortest decimal in the interval, seventeen digits at most. -/
def shortest (r : Rounding) : Decimal :=
  let k := r.magnitude
  let found := (List.range 17).findSome? fun n =>
    let x := k - (n + 1 : Nat)
    (r.inUnits x).nearestInteger?.map fun c => (⟨c, x⟩ : Decimal)
  found.getD ⟨0, 0⟩

end Rounding

/-- The significant digits of a decimal, without zeros at the end. -/
def Decimal.significant (d : Decimal) : List Char :=
  ((Nat.toDigits 10 d.digits).reverse.dropWhile (· == '0')).reverse

/-- The position of the decimal point relative to the first digit. -/
def Decimal.point (d : Decimal) : Int :=
  (Nat.toDigits 10 d.digits).length + d.exponent

/-- Digits with the decimal point after the first `point` of them, at least one on each side. -/
def positional (digits : List Char) (point : Int) : List Char :=
  if point ≤ 0 then '0' :: '.' :: List.replicate (-point).toNat '0' ++ digits
  else
    let whole := digits.take point.toNat
    let fraction := digits.drop point.toNat
    whole ++ List.replicate (point.toNat - whole.length) '0' ++
      '.' :: (if fraction.isEmpty then ['0'] else fraction)

/-- Digits with the point after the first of them and an exponent. -/
def scientific (digits : List Char) (point : Int) : List Char :=
  let e := point - 1
  let size := Nat.toDigits 10 e.natAbs
  let mantissa :=
    match digits with
    | c :: c' :: rest => c :: '.' :: c' :: rest
    | _ => digits
  mantissa ++ 'e' :: (if e < 0 then '-' else '+') ::
    List.replicate (2 - size.length) '0' ++ size

/-- The shortest text of a double. -/
def text : Binary64 → String
  | .nan => "nan"
  | .infinite negative => if negative then "-inf" else "inf"
  | .finite negative m e =>
    let body :=
      if m = 0 then ['0', '.', '0']
      else
        let d := (rounding m e).shortest
        if -4 < d.point ∧ d.point ≤ 16 then positional d.significant d.point
        else scientific d.significant d.point
    String.ofList (if negative then '-' :: body else body)

end CacheTelemetry.Binary64
