import CacheTelemetry.Decimal.Numeral
import CacheTelemetry.Document.Calendar
import CacheTelemetry.Document.Yaml.Cursor

/-!
# Moments in YAML

Dates, and dates with a time of day, as YAML writes them. What looks like a moment need not be one:
`Moment.parse?` looks at the form alone, `Moment.isPossible` at the calendar.
-/

namespace CacheTelemetry.Document.Yaml

/-- A time of day, with the distance of an offset from universal time in minutes. -/
structure TimeOfDay where
  hour : Nat
  minute : Nat
  second : Nat
  offset : Nat
  deriving DecidableEq, Repr, Inhabited

/-- A moment as it is written. -/
structure Moment where
  year : Nat
  month : Nat
  day : Nat
  /-- Month and day have two digits each. -/
  padded : Bool
  time : Option TimeOfDay
  deriving DecidableEq, Repr, Inhabited

namespace Moment

/-- A number of one or two digits, if there are as many digits, with their number. -/
def short? (cs : List Char) : Option ((Nat × Nat) × List Char) :=
  let ds := (cs.take 2).takeWhile (Numeral.isDigit 10)
  (Numeral.nat? 10 ds).map fun n => ((n, ds.length), cs.drop ds.length)

/-- The offset from universal time at the end of a text, which must hold nothing else. -/
def offset? (cs : List Char) : Option Nat :=
  match cs.dropWhile isSpaceOrTab with
  | [] => if cs.isEmpty then some 0 else none
  | ['Z'] => some 0
  | sign :: rest => do
    guard (sign == '+' || sign == '-')
    let ((hour, _), rest) ← short? rest
    match rest with
    | [] => return 60 * hour
    | _ =>
      let (minute, rest) ← Numeral.digits? 2 (← Numeral.after? ':' rest)
      guard rest.isEmpty
      return 60 * hour + minute

/-- A time of day at the end of a text. -/
def time? (cs : List Char) : Option TimeOfDay := do
  let ((hour, _), cs) ← short? cs
  let (minute, cs) ← Numeral.digits? 2 (← Numeral.after? ':' cs)
  let (second, cs) ← Numeral.digits? 2 (← Numeral.after? ':' cs)
  let cs := match cs with
    | '.' :: rest => rest.dropWhile (Numeral.isDigit 10)
    | _ => cs
  return ⟨hour, minute, second, ← offset? cs⟩

/-- What follows the sign between date and time of day: a letter, or blanks. -/
def afterDate? : List Char → Option (List Char)
  | c :: rest =>
    if c = 'T' ∨ c = 't' then some rest
    else if isSpaceOrTab c then some (rest.dropWhile isSpaceOrTab)
    else none
  | [] => none

/-- The moment that a text has the form of. -/
def parse? (cs : List Char) : Option Moment := do
  let (year, cs) ← Numeral.digits? 4 cs
  let ((month, m), cs) ← short? (← Numeral.after? '-' cs)
  let ((day, d), cs) ← short? (← Numeral.after? '-' cs)
  let padded := m == 2 && d == 2
  match cs with
  | [] => return ⟨year, month, day, padded, none⟩
  | _ => return ⟨year, month, day, padded, some (← time? (← afterDate? cs))⟩

/-- The form of a moment that needs no tag: both numbers of a date without a time of day are
written with two digits. -/
def isEvident (m : Moment) : Bool := m.time.isSome || m.padded

/-- The day and the time of day exist, and the offset is less than a day. -/
def isPossible (m : Moment) : Bool :=
  Calendar.isDate m.year m.month m.day &&
    m.time.all fun t => Calendar.isTime t.hour t.minute t.second && t.offset < 24 * 60

end Moment

end CacheTelemetry.Document.Yaml
