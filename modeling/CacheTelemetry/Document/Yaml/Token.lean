import CacheTelemetry.Document.Yaml.Scalar
import CacheTelemetry.Text.Utf8

/-!
# Tokens of YAML

The tokens that a text consists of, and how those that name something are read: anchors and
references to them, tags, and directives. A tag in the text is a handle, for which a directive may
set what it stands for, and a suffix; the verbatim form has no handle.
-/

namespace CacheTelemetry.Document.Yaml

/-- A tag as it stands in the text. -/
structure TagText where
  handle : Option String
  suffix : String
  deriving DecidableEq, Repr, Inhabited

/-- What a directive says. -/
inductive Directive where
  /-- The version of the format, by its first number. -/
  | version (major : Nat)
  /-- What a handle of tags stands for. -/
  | tagHandle (handle lead : String)
  /-- Anything else is ignored. -/
  | unknown
  deriving DecidableEq, Repr, Inhabited

/-- The tokens of a text. -/
inductive Token where
  | directive (d : Directive)
  | documentStart
  | documentEnd
  | blockSequenceStart
  | blockMappingStart
  | blockEnd
  | flowSequenceStart
  | flowSequenceEnd
  | flowMappingStart
  | flowMappingEnd
  | blockEntry
  | flowEntry
  | key
  | value
  | reference (name : String)
  | anchor (name : String)
  | tag (t : TagText)
  | scalar (plain : Bool) (content : Content)
  deriving DecidableEq, Repr, Inhabited

/-- A nonempty run of characters of a class. -/
def readRun (p : Char → Bool) (c : Cursor) : Except Fault (List Char × Cursor) :=
  let run := c.rest.takeWhile p
  if run.isEmpty then c.refuse else .ok (run, c.skip run.length)

/-- The name behind the sign of an anchor or a reference. -/
def readName (c : Cursor) : Except Fault (String × Cursor) := do
  let (name, c) ← readRun isNameChar c.step
  if endsWord c.next ∨ c.next.any fun x => x ∈ ['?', ':', ',', ']', '\x7d', '%', '@', '\x60'] then
    return (String.ofList name, c)
  else c.refuse

/-! ### Tags -/

/-- A character that stands for itself in a tag. -/
def isTagChar (c : Char) : Bool := c.isAlphanum || "-;/?:@&=+$,_.!~*'()[]".toList.contains c

/-- Octets that are written as a percent sign and two hexadecimal digits each. -/
def readOctets : List Char → Except Fault (List UInt8)
  | '%' :: a :: b :: rest =>
    match Numeral.nat? 16 [a, b] with
    | some n => (readOctets rest).map (UInt8.ofNat n :: ·)
    | none => malformed
  | '%' :: _ => malformed
  | _ => .ok []

/-- The text of a tag up to the first character that belongs to none. Each run of escaped octets is
a text in UTF-8. -/
def readTagText : Nat → Cursor → String → Except Fault (String × Cursor)
  | 0, c, done => .ok (done, c)
  | n + 1, c, done =>
    match c.next with
    | some '%' => do
      let octets ← readOctets c.rest
      match Text.decodeUtf8? octets with
      | some s => readTagText n (c.skip (3 * octets.length)) (done ++ s)
      | none => malformed
    | some x => if isTagChar x then readTagText n c.step (done.push x) else .ok (done, c)
    | none => .ok (done, c)

/-- The text of a tag, which must not be empty. -/
def readTagSuffix (c : Cursor) : Except Fault (String × Cursor) := do
  let (s, c) ← readTagText c.rest.length c ""
  if s.isEmpty then c.refuse else return (s, c)

/-- A handle: a name between exclamation marks, or two of them. -/
def readHandle (c : Cursor) : Except Fault (String × Cursor) :=
  if c.next ≠ some '!' then c.refuse
  else
    let name := c.step.rest.takeWhile isNameChar
    let c := c.skip (1 + name.length)
    if c.next = some '!' then .ok (String.ofList (['!'] ++ name ++ ['!']), c.step)
    else c.refuse

/-- The handle in a directive: one exclamation mark is enough. -/
def readDirectiveHandle (c : Cursor) : Except Fault (String × Cursor) :=
  if c.next = some '!' ∧ c.peek 1 = some ' ' then .ok ("!", c.step) else readHandle c

/-- A tag with a handle. A further exclamation mark before the next blank ends the handle. -/
def readHandledTag (c : Cursor) : Except Fault (TagText × Cursor) := do
  let word := c.step.rest.takeWhile fun x => !(x == ' ' || isBreak x)
  let (handle, c) ← if word.contains '!' then readHandle c else .ok ("!", c.step)
  let (s, c) ← readTagSuffix c
  return (⟨some handle, s⟩, c)

/-- A tag. -/
def readTag (c : Cursor) : Except Fault (TagText × Cursor) := do
  let (t, c) ←
    if c.peek 1 = some '<' then do
      let (s, c) ← readTagSuffix (c.skip 2)
      if c.next = some '>' then .ok (⟨none, s⟩, c.step) else c.refuse
    else if endsWord (c.peek 1) then .ok (⟨none, "!"⟩, c.step)
    else readHandledTag c
  if endsBySpace c.next then return (t, c) else c.refuse

/-! ### Directives -/

/-- A number in a directive. -/
def readVersionNumber (c : Cursor) : Except Fault (Nat × Cursor) := do
  let (ds, c) ← readRun (Numeral.isDigit 10) c
  if ds.length > Numeral.maxDigits then throw .longNumber else return (Numeral.value 10 ds, c)

/-- The version in a directive. -/
def readVersion (c : Cursor) : Except Fault (Directive × Cursor) := do
  let (major, c) ← readVersionNumber (c.skipWhile (· == ' '))
  if c.next ≠ some '.' then c.refuse
  else
    let (_, c) ← readVersionNumber c.step
    if endsBySpace c.next then return (.version major, c) else c.refuse

/-- The handle in a directive and what it stands for. -/
def readTagHandle (c : Cursor) : Except Fault (Directive × Cursor) := do
  let (handle, c) ← readDirectiveHandle (c.skipWhile (· == ' '))
  if c.next ≠ some ' ' then c.refuse
  else
    let (lead, c) ← readTagSuffix (c.skipWhile (· == ' '))
    if endsBySpace c.next then return (.tagHandle handle lead, c) else c.refuse

/-- A directive with its whole line. -/
def readDirective (c : Cursor) : Except Fault (Directive × Cursor) := do
  let (name, c) ← readRun isNameChar c.step
  if !endsBySpace c.next then c.refuse
  else
    let (d, c) ← match String.ofList name with
      | "YAML" => readVersion c
      | "TAG" => readTagHandle c
      | _ => .ok (.unknown, c.skipLine)
    return (d, ← finishLine c)

end CacheTelemetry.Document.Yaml
