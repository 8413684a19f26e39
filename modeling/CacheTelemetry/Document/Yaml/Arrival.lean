import CacheTelemetry.Document.Basic
import CacheTelemetry.Text.Lines
import CacheTelemetry.Text.Utf8

/-!
# Texts that arrive in portions

A YAML text is read while it arrives. Its octets are decoded in blocks, and its characters arrive in
portions, the first two of them together. A portion with a fault in it does not arrive, nor does
anything behind it, but what arrived before is read, and may have a fault of its own. So a fault is
met before another one that stands far enough behind it, whatever the two are.

`Arrival.ofChars_of_all`: a text arrives as a whole if all its characters are allowed.
-/

namespace CacheTelemetry.Document.Yaml

/-- A character that a text may hold. -/
def isAllowed (c : Char) : Bool :=
  let n := c.toNat
  c == '\t' || c == '\n' || c == '\r' || (0x20 ≤ n && n ≤ 0x7e) || n == 0x85 ||
    (0xa0 ≤ n && n ≤ 0xd7ff) || (0xe000 ≤ n && n ≤ 0xfffd) || 0x10000 ≤ n

/-- What arrives of a text. -/
structure Arrival where
  text : List Char
  /-- The fault that keeps the rest of the text from arriving, none if there is no more. -/
  fault : Option Fault
  deriving Inhabited

namespace Arrival

/-- The number of octets that are decoded together. -/
def blockSize : Nat := 8192

/-- The number of characters that arrive together. -/
def portionSize : Nat := 4096

/-- How many of the first `n` characters have arrived before the next one does. -/
def arrivedBefore (n : Nat) : Nat :=
  if n < 2 * portionSize then 0 else n / portionSize * portionSize

/-- What arrives of a text that can be decoded. -/
def ofChars (cs : List Char) : Arrival :=
  let n := (cs.takeWhile isAllowed).length
  if n = cs.length then ⟨cs, none⟩
  else ⟨cs.take (arrivedBefore n), some (.malformed .yaml)⟩

/-- The text of the first `n` blocks, or of as many of them as can be decoded. -/
def decodedBlocks (octets : List UInt8) : Nat → String
  | 0 => ""
  | n + 1 =>
    (Text.decodeBegun? (octets.take ((n + 1) * blockSize))).getD (decodedBlocks octets n)

/-- What arrives of a text in UTF-8. -/
def ofOctets (octets : List UInt8) : Arrival :=
  match Text.decodeUtf8? octets with
  | some s => ofChars (Text.unifyBreaks s.toList)
  | none =>
    let decoded := Text.unifyBreaks (decodedBlocks octets (octets.length / blockSize + 1)).toList
    let a := ofChars (decoded.take (arrivedBefore decoded.length))
    { a with fault := a.fault.or (some .encoding) }

/-- A text arrives as a whole if all its characters are allowed. -/
theorem ofChars_of_all {cs : List Char} (h : cs.all isAllowed) : ofChars cs = ⟨cs, none⟩ := by
  have all : cs.takeWhile isAllowed = cs := by
    induction cs with
    | nil => rfl
    | cons c rest ih =>
      rw [List.all_cons, Bool.and_eq_true] at h
      rw [List.takeWhile_cons_of_pos h.1, ih h.2]
  simp [ofChars, all]

end Arrival

end CacheTelemetry.Document.Yaml
