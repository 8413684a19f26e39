import CacheTelemetry.Document.Leaf

/-!
# JSON documents

A reader for JSON texts. Numbers without fraction and exponent are integers of any size up to 4300
digits, all others doubles; `NaN` and the two infinities are numbers as well. Of two members with
one name the later gives the value. A text may hold an unpaired surrogate, written by an escape; it
is then no Unicode text, but still a value.

The reader walks over the characters and keeps no position: a fault is not placed. Each step of the
recursion consumes a character, so the length of the text bounds the number of steps. How deep lists
and tables may be nested is a limit of its own, `Json.maxDepth` for documents.
-/

namespace CacheTelemetry.Document

/-- Pairs of surrogates become the code point that they encode; the others stay. -/
def joinSurrogates : List Nat → List Nat
  | a :: b :: rest =>
    if 0xd800 ≤ a ∧ a ≤ 0xdbff ∧ 0xdc00 ≤ b ∧ b ≤ 0xdfff then
      (0x10000 + (a - 0xd800) * 0x400 + (b - 0xdc00)) :: joinSurrogates rest
    else a :: joinSurrogates (b :: rest)
  | units => units

namespace Json

/-- What a reader makes of the front of a text, and the rest of the text. -/
abbrev Reading (α : Type) := Except Fault (α × List Char)

/-- The fault of a malformed text. -/
def malformed {α : Type} : Except Fault α := .error (.malformed .json)

/-- White space between the parts of a text. -/
def isSpace (c : Char) : Bool := c == ' ' || c == '\t' || c == '\n' || c == '\r'

/-- A text without the white space in front. -/
def skipSpace (cs : List Char) : List Char := cs.dropWhile isSpace

/-- The rest of a text after a word, if it starts with the word. -/
def dropWord? (word : String) (cs : List Char) : Option (List Char) :=
  if word.toList.isPrefixOf cs then some (cs.drop word.length) else none

/-- The character that a one-letter escape stands for. -/
def escape? : Char → Option Char
  | '"' => some '"'
  | '\\' => some '\\'
  | '/' => some '/'
  | 'b' => some '\x08'
  | 'f' => some '\x0c'
  | 'n' => some '\n'
  | 'r' => some '\r'
  | 't' => some '\t'
  | _ => none

/-- The code points of a string up to its closing quote. -/
def readUnits : List Char → List Nat → Reading (List Nat)
  | [], _ => malformed
  | '"' :: rest, units => .ok (units.reverse, rest)
  | '\\' :: 'u' :: a :: b :: c :: d :: rest, units =>
    match Numeral.nat? 16 [a, b, c, d] with
    | some n => readUnits rest (n :: units)
    | none => malformed
  | '\\' :: c :: rest, units =>
    match escape? c with
    | some e => readUnits rest (e.toNat :: units)
    | none => malformed
  | c :: rest, units =>
    if c.toNat < 0x20 ∨ c = '\\' then malformed else readUnits rest (c.toNat :: units)

/-- A string after its opening quote. -/
def readString (cs : List Char) : Reading Value :=
  (readUnits cs []).map fun (units, rest) => (ofCodePoints (joinSurrogates units), rest)

/-- The fraction of a number with its point, if there is one. -/
def takeFraction : List Char → List Char × List Char
  | '.' :: rest =>
    let ds := rest.takeWhile (Numeral.isDigit 10)
    if ds.isEmpty then ([], '.' :: rest) else ('.' :: ds, rest.drop ds.length)
  | cs => ([], cs)

/-- The exponent of a number with its mark, if there is one. -/
def takeExponent (cs : List Char) : List Char × List Char :=
  match cs with
  | c :: rest =>
    if c = 'e' ∨ c = 'E' then
      let sign := rest.take 1 |>.filter fun c => c == '+' || c == '-'
      let ds := (rest.drop sign.length).takeWhile (Numeral.isDigit 10)
      if ds.isEmpty then ([], cs)
      else (c :: sign ++ ds, rest.drop (sign.length + ds.length))
    else ([], cs)
  | [] => ([], [])

/-- A number. -/
def readNumber (cs : List Char) : Reading Value :=
  let (negative, body) := match cs with
    | '-' :: rest => (true, rest)
    | _ => (false, cs)
  let whole := match body with
    | '0' :: _ => ['0']
    | _ => body.takeWhile (Numeral.isDigit 10)
  if whole.isEmpty then malformed
  else
    let (fraction, rest) := takeFraction (body.drop whole.length)
    let (exponent, rest) := takeExponent rest
    if fraction.isEmpty && exponent.isEmpty then
      (readInt negative whole).map fun v => (v, rest)
    else
      match Numeral.decimal? negative (whole ++ fraction ++ exponent) with
      | some x => .ok (.float x, rest)
      | none => malformed

/-- The words of the format and the values that they stand for. -/
def words : List (String × Value) :=
  [("null", .null), ("true", .bool true), ("false", .bool false), ("NaN", .float .nan),
    ("Infinity", .float (.infinite false)), ("-Infinity", .float (.infinite true))]

/-- A word or a number. -/
def readScalar (cs : List Char) : Reading Value :=
  match words.findSome? fun (w, v) => (dropWord? w cs).map fun rest => (v, rest) with
  | some found => .ok found
  | none => readNumber cs

/-- Entries with the last value for each key. -/
def lastOfEach (entries : List (Value × Value)) : List (Value × Value) :=
  let keyOf : Value → List Nat
    | .text s => s.toList.map Char.toNat
    | .special (.brokenText units) => units
    | _ => []
  let m : OrderedMap (List Nat) (Value × Value) :=
    .ofList (entries.map fun e => (keyOf e.1, e))
  m.values

mutual

/-- A value in `n` steps, with lists and tables nested at most `room` deep. -/
def readValue (n room : Nat) (cs : List Char) : Reading Value :=
  match n with
  | 0 => malformed
  | n + 1 =>
    match cs with
    | '"' :: rest => readString rest
    | '[' :: rest =>
      if room = 0 then .error .tooDeep
      else
        match skipSpace rest with
        | ']' :: rest => .ok (.list [], rest)
        | rest =>
          (readItems n (room - 1) rest []).map fun (items, rest) => (.list items, rest)
    | '\x7b' :: rest =>
      if room = 0 then .error .tooDeep
      else
        match skipSpace rest with
        | '\x7d' :: rest => .ok (.dict [], rest)
        | rest =>
          (readMembers n (room - 1) rest []).map fun (entries, rest) =>
            (.dict (lastOfEach entries), rest)
    | cs => readScalar cs

/-- The items of a list up to its end; `items` came before, the last one first. -/
def readItems (n room : Nat) (cs : List Char) (items : List Value) :
    Except Fault (List Value × List Char) :=
  match n with
  | 0 => malformed
  | n + 1 => do
    let (v, rest) ← readValue n room cs
    match skipSpace rest with
    | ',' :: rest => readItems n room (skipSpace rest) (v :: items)
    | ']' :: rest => return ((v :: items).reverse, rest)
    | _ => malformed

/-- The members of a table up to its end; `entries` came before, the last one first. -/
def readMembers (n room : Nat) (cs : List Char) (entries : List (Value × Value)) :
    Except Fault (List (Value × Value) × List Char) :=
  match n with
  | 0 => malformed
  | n + 1 =>
    match cs with
    | '"' :: rest => do
      let (k, rest) ← readString rest
      match skipSpace rest with
      | ':' :: rest =>
        let (v, rest) ← readValue n room (skipSpace rest)
        match skipSpace rest with
        | ',' :: rest => readMembers n room (skipSpace rest) ((k, v) :: entries)
        | '\x7d' :: rest => return (((k, v) :: entries).reverse, rest)
        | _ => malformed
      | _ => malformed
    | _ => malformed

end

/-- The value written by a text, with lists and tables nested at most `room` deep. A byte order mark
in front makes the text malformed. -/
def readWithin (room : Nat) (s : String) : Except Fault Value := do
  let cs := s.toList
  let (v, rest) ← readValue (2 * cs.length + 2) room (skipSpace cs)
  if (skipSpace rest).isEmpty then return v else malformed

/-- How deep lists and tables of a document may be nested. -/
def maxDepth : Nat := 988

/-- The value written by a document. -/
def read (s : String) : Except Fault Value := readWithin maxDepth s

end Json

end CacheTelemetry.Document
