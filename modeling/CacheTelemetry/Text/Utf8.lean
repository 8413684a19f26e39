/-!
# Bytes as text

The text that a list of octets encodes in UTF-8. When only some of the octets of a text are known,
the last of them may be the beginning of a character.

Names that a process hands to its system are encoded too. They are lists of code points, of which
128 surrogates stand for single octets from 128 on; no octets stand for the other surrogates.
-/

namespace CacheTelemetry.Text

/-- The text encoded by octets, if they are valid UTF-8. -/
def decodeUtf8? (octets : List UInt8) : Option String :=
  String.fromUTF8? ⟨octets.toArray⟩

/-- The octets of a text encode that text. -/
theorem decodeUtf8?_toUTF8 (s : String) : decodeUtf8? s.toUTF8.data.toList = some s := by
  simp only [decodeUtf8?, Array.toArray_toList, String.fromUTF8?]
  exact dif_pos (by simpa using s.isValidUTF8)

/-- The octets begin a character and do not end it. The octets that may follow include the least or
the greatest of those that continue a character. -/
def isUnfinished (octets : List UInt8) : Bool :=
  [1, 2, 3].any fun n => [0x80, 0xbf].any fun octet =>
    (decodeUtf8? (octets ++ List.replicate n octet)).any (·.length = 1)

/-- The text encoded by octets of which the last ones may be an unfinished character. -/
def decodeBegun? (octets : List UInt8) : Option String :=
  (List.range 4).findSome? fun n =>
    let (whole, last) := octets.splitAt (octets.length - n)
    if n = 0 ∨ isUnfinished last then decodeUtf8? whole else none

/-- Octets that are valid as they stand have no unfinished character. -/
theorem decodeBegun?_of_decodeUtf8? {octets : List UInt8} {s : String}
    (h : decodeUtf8? octets = some s) : decodeBegun? octets = some s := by
  simp [decodeBegun?, List.range_succ_eq_map, h]

/-- The code points of a text. -/
def codePoints (s : String) : List Nat := s.toList.map Char.toNat

/-- The octets that stand for a code point. -/
def octetsOf? (point : Nat) : Option (List UInt8) :=
  if point.isValidChar then some (String.utf8EncodeChar (Char.ofNat point))
  else if 0xdc80 ≤ point ∧ point ≤ 0xdcff then some [UInt8.ofNat (point - 0xdc00)]
  else none

/-- The octets that stand for code points, if there are any for each of them. -/
def encode? (points : List Nat) : Option (List UInt8) :=
  (points.mapM octetsOf?).map List.flatten

end CacheTelemetry.Text
