import CacheTelemetry.Decimal.Binary64
import CacheTelemetry.Text.Blank
import CacheTelemetry.Text.Case
import CacheTelemetry.Text.Digit

/-!
# Reading numerals

Readers for the digits of a number in a base up to sixteen, and for the decimal texts of integers
and doubles: blanks around them, a sign, digits that may be grouped by single underscores, and for a
double a point, an exponent, and the words for infinity and for what is not a number. In such a text
the decimal digits of all scripts are digits.
-/

namespace CacheTelemetry.Numeral

/-- The value of a digit in a base up to sixteen. -/
def digit? (base : Nat) (c : Char) : Option Nat :=
  let n :=
    if '0' ≤ c ∧ c ≤ '9' then c.toNat - '0'.toNat
    else if 'a' ≤ c ∧ c ≤ 'f' then c.toNat - 'a'.toNat + 10
    else if 'A' ≤ c ∧ c ≤ 'F' then c.toNat - 'A'.toNat + 10
    else 16
  if n < base then some n else none

/-- A character is a digit of the base. -/
def isDigit (base : Nat) (c : Char) : Bool := (digit? base c).isSome

/-- The number written by a list of digits; other characters count as zero. -/
def value (base : Nat) (cs : List Char) : Nat :=
  cs.foldl (fun n c => n * base + (digit? base c).getD 0) 0

/-- The number written by a nonempty list of digits. -/
def nat? (base : Nat) (cs : List Char) : Option Nat :=
  if cs ≠ [] ∧ cs.all (isDigit base) then some (value base cs) else none

/-- A number of exactly `width` decimal digits in front of a text, and the rest. -/
def digits? (width : Nat) (cs : List Char) : Option (Nat × List Char) :=
  if (cs.take width).length = width then
    (nat? 10 (cs.take width)).map fun n => (n, cs.drop width)
  else none

/-- The rest of a text after a character. -/
def after? (c : Char) : List Char → Option (List Char)
  | x :: rest => if x = c then some rest else none
  | [] => none

/-- Digits with single underscores between them, without the underscores. -/
def ungroup? : List Char → Option (List Char)
  | [] => some []
  | [c] => if c = '_' then none else some [c]
  | c :: '_' :: c' :: rest =>
    if c = '_' ∨ c' = '_' then none else (ungroup? (c' :: rest)).map (c :: ·)
  | c :: rest => if c = '_' then none else (ungroup? rest).map (c :: ·)

/-- The sign in front of a numeral, and the rest. -/
def sign : List Char → Bool × List Char
  | '-' :: rest => (true, rest)
  | '+' :: rest => (false, rest)
  | rest => (false, rest)

/-- Digits of one part of a numeral, possibly none, with grouping removed. -/
def part? (cs : List Char) : Option (List Char) :=
  (ungroup? cs).bind fun ds => if ds.all (isDigit 10) then some ds else none

/-- The exponent of a numeral: a sign and at least one digit. -/
def exponent? (cs : List Char) : Option Int :=
  let (negative, cs) := sign cs
  (part? cs).bind fun ds => (nat? 10 ds).map fun n => if negative then -(n : Int) else n

/-- An unsigned decimal: digits around an optional point, then an optional exponent. -/
def decimal? (negative : Bool) (cs : List Char) : Option Binary64 := do
  let isMark := fun c : Char => c == 'e' || c == 'E'
  let mantissa := cs.takeWhile (!isMark ·)
  let e ← match cs.dropWhile (!isMark ·) with
    | [] => some 0
    | _ :: rest => exponent? rest
  let whole ← part? (mantissa.takeWhile (· != '.'))
  let fraction ← match mantissa.dropWhile (· != '.') with
    | [] => some []
    | _ :: rest => part? rest
  let n ← nat? 10 (whole ++ fraction)
  return Binary64.ofDecimal negative n (e - fraction.length)

/-- A numeral without the blanks around it, with ASCII digits for those of other scripts. -/
def plain (cs : List Char) : List Char := (Text.trimList cs).map Text.asciiDigit

/-- The most digits that a decimal integer may have, to be read or to be written. -/
def maxDigits : Nat := 4300

/-- The integer written by a decimal text, with the number of its digits. -/
def integer? (s : String) : Option (Int × Nat) :=
  let (negative, cs) := sign (plain s.toList)
  (part? cs).bind fun ds =>
    (nat? 10 ds).map fun n => (if negative then -(n : Int) else n, ds.length)

/-- The double written by a decimal text. -/
def double? (s : String) : Option Binary64 :=
  let (negative, cs) := sign (plain s.toList)
  match String.ofList (cs.map Text.lowerAsciiChar) with
  | "inf" | "infinity" => some (.infinite negative)
  | "nan" => some .nan
  | _ => decimal? negative cs

end CacheTelemetry.Numeral
