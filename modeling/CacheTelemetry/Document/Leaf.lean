import CacheTelemetry.Decimal.Numeral
import CacheTelemetry.Document.Basic

/-!
# Integers and texts of documents

What the formats have in common: the size of the integers that are read, and texts that may hold
unpaired surrogates, which are then no Unicode texts but still values.
-/

namespace CacheTelemetry.Document

/-- An integer of at most `Numeral.maxDigits` decimal digits. -/
def readInt (negative : Bool) (digits : List Char) : Except Fault Value :=
  if digits.length > Numeral.maxDigits then .error .longNumber
  else
    let n : Int := Numeral.value 10 digits
    .ok (.int (if negative then -n else n))

/-- Code points as a text, if none is a surrogate. -/
def ofCodePoints (units : List Nat) : Value :=
  if units.all fun n => decide (n.isValidChar) then
    .text (String.ofList (units.map Char.ofNat))
  else .special (.brokenText units)

end CacheTelemetry.Document
