/-!
# Double precision numbers

Numbers of the binary format with 53 bits of precision, as exact data: a finite number is a sign,
a natural mantissa and a power of two. `Binary64.ofRatio` rounds a quotient of natural numbers to
the nearest such number, ties to the even mantissa; sums and products are the rounded exact ones.
-/

namespace CacheTelemetry

/-- A number of double precision. The value of `finite neg m e` is `m * 2 ^ e` up to the sign. -/
inductive Binary64 where
  | nan
  | infinite (negative : Bool)
  | finite (negative : Bool) (mantissa : Nat) (exponent : Int)
  deriving DecidableEq, Repr, Inhabited

namespace Binary64

/-- The least exponent, that of the subnormal numbers. -/
def minExponent : Int := -1074

/-- The greatest exponent of a finite number. -/
def maxExponent : Int := 971

/-- Every mantissa is below this number, the power of two with exponent 53. -/
def mantissaBound : Nat := 0x20000000000000

/-- The quotient of two natural numbers rounded to the nearest natural number, ties to even. -/
def roundDiv (num den : Nat) : Nat :=
  let q := num / den
  let r := num % den
  if 2 * r < den then q
  else if den < 2 * r then q + 1
  else if q % 2 = 0 then q else q + 1

/-- The number `num / den * 2 ^ (-e)` as a fraction of natural numbers. -/
def scaleBy (num den : Nat) (e : Int) : Nat × Nat :=
  if 0 ≤ e then (num, den * Nat.pow 2 e.toNat) else (num * Nat.pow 2 (-e).toNat, den)

/-- The double nearest to `num / den`, ties to the even mantissa; what is too large becomes
infinite. A denominator of zero counts as an infinite quotient. -/
def ofRatio (negative : Bool) (num den : Nat) : Binary64 :=
  if den = 0 then .infinite negative
  else if num = 0 then .finite negative 0 minExponent
  else
    let low := max ((num.log2 : Int) - den.log2 - 53) minExponent
    let (n, d) := scaleBy num den low
    let e := if n / d < mantissaBound then low else low + 1
    let (n, d) := scaleBy num den e
    let m := roundDiv n d
    let (m, e) := if m < mantissaBound then (m, e) else (m / 2, e + 1)
    if e > maxExponent then .infinite negative else .finite negative m e

/-- Zero. -/
def zero : Binary64 := .finite false 0 minExponent

/-- The double nearest to a natural number. -/
def ofNat (n : Nat) : Binary64 := ofRatio false n 1

/-- The double nearest to an integer. -/
def ofInt (i : Int) : Binary64 := ofRatio (i < 0) i.natAbs 1

/-- The double nearest to `digits * 10 ^ exponent`. Exponents far beyond the range of the format
are not expanded. -/
def ofDecimal (negative : Bool) (digits : Nat) (exponent : Int) : Binary64 :=
  let size : Int := (Nat.toDigits 10 digits).length + exponent
  if digits = 0 ∨ size < -400 then .finite negative 0 minExponent
  else if size > 400 then .infinite negative
  else if 0 ≤ exponent then ofRatio negative (digits * Nat.pow 10 exponent.toNat) 1
  else ofRatio negative digits (Nat.pow 10 (-exponent).toNat)

/-- A finite number as a fraction: sign, numerator and denominator. -/
def toRatio? : Binary64 → Option (Bool × Nat × Nat)
  | .finite negative m e =>
    let (num, den) := scaleBy m 1 (-e)
    some (negative, num, den)
  | _ => none

/-- A finite number equals an integer. -/
def eqInt (x : Binary64) (i : Int) : Bool :=
  match x.toRatio? with
  | some (negative, n, d) => (if negative then -(n : Int) else n) == i * d
  | none => false

/-- A finite number without a fraction as an integer. -/
def toInt? (x : Binary64) : Option Int :=
  match x.toRatio? with
  | some (negative, n, d) =>
    if n % d = 0 then some (if negative then -(n / d : Nat) else (n / d : Nat)) else none
  | none => none

/-- Equality of numbers: zero has one value with both signs, and `nan` differs from itself. -/
def sameNumber (x y : Binary64) : Bool :=
  match x, y with
  | .nan, _ | _, .nan => false
  | .finite _ 0 _, .finite _ 0 _ => true
  | x, y => x == y

/-- A number that counts as false: zero with either sign. -/
def isZero : Binary64 → Bool
  | .finite _ 0 _ => true
  | _ => false

/-- Change of sign. -/
def neg : Binary64 → Binary64
  | .nan => .nan
  | .infinite s => .infinite (!s)
  | .finite s m e => .finite (!s) m e

/-- The rounded product. -/
def mul (x y : Binary64) : Binary64 :=
  match x, y with
  | .nan, _ | _, .nan => .nan
  | .infinite s, .infinite t => .infinite (s != t)
  | .infinite s, .finite t m _ | .finite t m _, .infinite s =>
    if m = 0 then .nan else .infinite (s != t)
  | .finite s m e, .finite t n f =>
    let (num, den) := scaleBy (m * n) 1 (-(e + f))
    ofRatio (s != t) num den

/-- The rounded sum. -/
def add (x y : Binary64) : Binary64 :=
  match x, y with
  | .nan, _ | _, .nan => .nan
  | .infinite s, .infinite t => if s = t then .infinite s else .nan
  | .infinite s, _ | _, .infinite s => .infinite s
  | .finite s m e, .finite t n f =>
    let low := min e f
    let a : Int := (m * Nat.pow 2 (e - low).toNat : Nat)
    let b : Int := (n * Nat.pow 2 (f - low).toNat : Nat)
    let sum := (if s then -a else a) + (if t then -b else b)
    if sum = 0 then .finite (s && t) 0 minExponent
    else
      let (num, den) := scaleBy sum.natAbs 1 (-low)
      ofRatio (sum < 0) num den

/-- Rounding an exact quotient gives the quotient. -/
theorem roundDiv_of_dvd {num den : Nat} (h : den ∣ num) (pos : 0 < den) :
    roundDiv num den = num / den := by
  simp [roundDiv, Nat.mod_eq_zero_of_dvd h, pos]

end Binary64

end CacheTelemetry
