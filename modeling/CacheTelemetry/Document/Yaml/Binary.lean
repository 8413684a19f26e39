import CacheTelemetry.Document.Basic

/-!
# Octets written in base 64

Four characters of the alphabet stand for three octets. Characters outside of the alphabet are
skipped; equals signs fill up the last group.
-/

namespace CacheTelemetry.Document.Yaml.Binary

/-- The digits of base 64. -/
def alphabet : List Char :=
  "ABCDEFGHIJKLMNOPQRSTUVWXYZabcdefghijklmnopqrstuvwxyz0123456789+/".toList

/-- The value of a digit. -/
def digit? (c : Char) : Option Nat := alphabet.findIdx? (· == c)

/-- The octet that the digits `a` and `b` share, where `a` has `8 - low` bits of it left and `b`
gives `low`. -/
def octet (low a b : Nat) : UInt8 := UInt8.ofNat (a * Nat.pow 2 low + b / Nat.pow 2 (6 - low))

/-- The octets of a group of up to four digits: one less than there are digits. -/
def octetsOf : List Nat → List UInt8
  | [a, b] => [octet 2 a b]
  | [a, b, c] => [octet 2 a b, octet 4 b c]
  | [a, b, c, d] => [octet 2 a b, octet 4 b c, octet 6 c d]
  | _ => []

/-- The octets written by a text. `group` are the digits of the group that has begun, and `signs`
the equals signs since the last digit. A group of two or three digits is complete as soon as the
signs fill it up, and ends the text then. -/
def decodeFrom : List Char → List Nat → Nat → Option (List UInt8)
  | [], group, _ => if group.isEmpty then some [] else none
  | '=' :: rest, group, signs =>
    if 2 ≤ group.length ∧ 4 ≤ group.length + signs + 1 then some (octetsOf group)
    else decodeFrom rest group (if 2 ≤ group.length then signs + 1 else signs)
  | c :: rest, group, signs =>
    match digit? c with
    | none => decodeFrom rest group signs
    | some d =>
      if group.length = 3 then (decodeFrom rest [] 0).map (octetsOf (group ++ [d]) ++ ·)
      else decodeFrom rest (group ++ [d]) 0

/-- The octets written by a text. -/
def decode? (cs : List Char) : Option (List UInt8) := decodeFrom cs [] 0

example : decode? "MQ==".toList = some [0x31] := by decide

example : decode? "eWVz".toList = some [0x79, 0x65, 0x73] := by decide

example : decode? "M".toList = none := by decide

end CacheTelemetry.Document.Yaml.Binary
