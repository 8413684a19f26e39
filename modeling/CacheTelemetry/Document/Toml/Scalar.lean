import CacheTelemetry.Document.Calendar
import CacheTelemetry.Document.Json

/-!
# Scalars of TOML

Strings, numbers, truth values and moments in time as TOML writes them, each read from the front of
a text. Line breaks are single line feeds here.
-/

namespace CacheTelemetry.Document.Toml

/-- What a reader makes of the front of a text, and the rest of the text. -/
abbrev Reading (α : Type) := Except Fault (α × List Char)

/-- The fault of a malformed text. -/
def malformed {α : Type} : Except Fault α := .error (.malformed .toml)

/-- White space within a line. -/
def isSpace (c : Char) : Bool := c == ' ' || c == '\t'

/-- White space and line breaks. -/
def isSpaceOrBreak (c : Char) : Bool := isSpace c || c == '\n'

/-- A text without the white space in front. -/
def skipSpace (cs : List Char) : List Char := cs.dropWhile isSpace

/-- A control character that may not stand in a string or comment; `breaks` allows line breaks. -/
def isIllegal (breaks : Bool) (c : Char) : Bool :=
  (c.toNat < 0x20 || c.toNat == 0x7f) && c != '\t' && !(breaks && c == '\n')

/-- A character of a key without quotes. -/
def isBareKeyChar (c : Char) : Bool := c.isAlphanum || c == '-' || c == '_'

/-! ### Strings -/

/-- The character that a one-letter escape stands for. -/
def escape? : Char → Option Char
  | 'b' => some '\x08'
  | 't' => some '\t'
  | 'n' => some '\n'
  | 'f' => some '\x0c'
  | 'r' => some '\r'
  | '"' => some '"'
  | '\\' => some '\\'
  | _ => none

/-- The character given by `width` hexadecimal digits. -/
def readHexChar (width : Nat) (cs : List Char) : Reading (List Char) :=
  match Numeral.nat? 16 (cs.take width) with
  | some n =>
    if (cs.take width).length = width ∧ n.isValidChar then .ok ([Char.ofNat n], cs.drop width)
    else malformed
  | none => malformed

/-- What follows a backslash in a string. Where line breaks are allowed, a backslash before a line
break takes all white space up to the next other character away. -/
def readEscape (breaks : Bool) : List Char → Reading (List Char)
  | [] => malformed
  | c :: rest =>
    if breaks ∧ c = '\n' then .ok ([], rest.dropWhile isSpaceOrBreak)
    else if breaks ∧ isSpace c then
      match skipSpace rest with
      | [] => .ok ([], [])
      | '\n' :: rest => .ok ([], rest.dropWhile isSpaceOrBreak)
      | _ => malformed
    else if c = 'u' then readHexChar 4 rest
    else if c = 'U' then readHexChar 8 rest
    else
      match escape? c with
      | some e => .ok ([e], rest)
      | none => malformed

/-- The characters of a string between double quotes up to its end, which is three quotes where line
breaks are allowed; `done` came before, the last one first. Each of the `n` steps takes a character
or more. -/
def readBasic (breaks : Bool) :
    Nat → List Char → List Char → Except Fault (List Char × List Char)
  | 0, _, _ => malformed
  | n + 1, cs, done =>
    match cs with
    | [] => malformed
    | '"' :: rest =>
      if !breaks then .ok (done.reverse, rest)
      else
        match rest with
        | '"' :: '"' :: rest => .ok (done.reverse, rest)
        | _ => readBasic breaks n rest ('"' :: done)
    | '\\' :: rest => do
      let (escaped, rest) ← readEscape breaks rest
      readBasic breaks n rest (escaped.reverse ++ done)
    | c :: rest =>
      if isIllegal breaks c then malformed else readBasic breaks n rest (c :: done)

/-- The characters of a string between single quotes up to its end. -/
def readLiteral (breaks : Bool) : List Char → List Char → Reading (List Char)
  | [], _ => malformed
  | '\'' :: '\'' :: '\'' :: rest, done =>
    if breaks then .ok (done.reverse, rest) else .ok (done.reverse, '\'' :: '\'' :: rest)
  | '\'' :: rest, done =>
    if breaks then readLiteral breaks rest ('\'' :: done) else .ok (done.reverse, rest)
  | c :: rest, done =>
    if isIllegal breaks c then malformed else readLiteral breaks rest (c :: done)

/-- Up to two quotes directly behind the closing ones belong to the string. -/
def trailingQuotes (quote : Char) (found : List Char × List Char) : List Char × List Char :=
  let (cs, rest) := found
  let extra := (rest.take 2).takeWhile (· == quote)
  (cs ++ extra, rest.drop extra.length)

/-- A text without the line break in front. -/
def skipBreak : List Char → List Char
  | '\n' :: rest => rest
  | cs => cs

/-- A string on one line, from its opening quote. -/
def readLineString : List Char → Reading (List Char)
  | '"' :: rest => readBasic false (rest.length + 1) rest []
  | '\'' :: rest => readLiteral false rest []
  | _ => malformed

/-- A string, from its opening quotes. -/
def readString : List Char → Reading (List Char)
  | '"' :: '"' :: '"' :: rest =>
    (readBasic true (rest.length + 1) (skipBreak rest) []).map (trailingQuotes '"')
  | '\'' :: '\'' :: '\'' :: rest =>
    (readLiteral true (skipBreak rest) []).map (trailingQuotes '\'')
  | cs => readLineString cs

/-! ### Numbers and moments -/

/-- A time of day with an optional fraction of a second. -/
def time? (cs : List Char) : Option (List Char) := do
  let (hour, cs) ← Numeral.digits? 2 cs
  let (minute, cs) ← Numeral.digits? 2 (← Numeral.after? ':' cs)
  let (second, cs) ← Numeral.digits? 2 (← Numeral.after? ':' cs)
  guard (Calendar.isTime hour minute second)
  match cs with
  | '.' :: rest =>
    let ds := rest.takeWhile (Numeral.isDigit 10)
    return if ds.isEmpty then cs else rest.drop ds.length
  | _ => return cs

/-- What follows an offset from universal time, if there is one. -/
def skipOffset (cs : List Char) : List Char :=
  let found : Option (List Char) := do
    match cs with
    | 'Z' :: rest | 'z' :: rest => return rest
    | '+' :: rest | '-' :: rest =>
      let (hour, rest) ← Numeral.digits? 2 rest
      let (minute, rest) ← Numeral.digits? 2 (← Numeral.after? ':' rest)
      guard (Calendar.isTime hour minute 0)
      return rest
    | _ => none
  found.getD cs

/-- The parts of a date: year, month, day. -/
def date? (cs : List Char) : Option ((Nat × Nat × Nat) × List Char) := do
  let (year, cs) ← Numeral.digits? 4 cs
  let (month, cs) ← Numeral.digits? 2 (← Numeral.after? '-' cs)
  let (day, cs) ← Numeral.digits? 2 (← Numeral.after? '-' cs)
  guard (1 ≤ month && month ≤ 12 && 1 ≤ day && day ≤ 31)
  return ((year, month, day), cs)

/-- A date, with a time of day and an offset if they follow, or a time of day. What is written like
a date must be one. -/
def readMoment? (cs : List Char) : Option (Reading Value) :=
  match date? cs with
  | some ((year, month, day), rest) =>
    let rest := match rest with
      | c :: tail =>
        if c = 'T' ∨ c = 't' ∨ c = ' ' then ((time? tail).map skipOffset).getD rest else rest
      | [] => rest
    some (if Calendar.isDate year month day then .ok (.special .moment, rest) else malformed)
  | none => (time? cs).map fun rest => .ok (.special .moment, rest)

/-- The longest run of digits in which single underscores may stand between digits. -/
def groupedDigits (base : Nat) : List Char → List Char
  | '_' :: c :: rest =>
    if Numeral.isDigit base c then '_' :: c :: groupedDigits base rest else []
  | c :: rest => if Numeral.isDigit base c then c :: groupedDigits base rest else []
  | [] => []

/-- A run of grouped digits that starts with a digit. -/
def digitRun (base : Nat) (cs : List Char) : List Char :=
  match cs with
  | c :: _ => if Numeral.isDigit base c then groupedDigits base cs else []
  | [] => []

/-- An integer in base sixteen, eight or two. -/
def readBased? : List Char → Option (Value × List Char)
  | '0' :: mark :: rest =>
    let base := if mark = 'x' then 16 else if mark = 'o' then 8 else if mark = 'b' then 2 else 0
    let ds := digitRun base rest
    if ds.isEmpty then none
    else some (.int (Numeral.value base (ds.filter (· != '_'))), rest.drop ds.length)
  | _ => none

/-- The integer part of a number: a zero, or digits that start with another one. -/
def wholePart : List Char → List Char
  | '0' :: _ => ['0']
  | cs => digitRun 10 cs

/-- The fraction of a number with its point, if there is one. -/
def fractionPart : List Char → List Char
  | '.' :: rest =>
    let ds := digitRun 10 rest
    if ds.isEmpty then [] else '.' :: ds
  | _ => []

/-- The exponent of a number with its mark, if there is one. -/
def exponentPart : List Char → List Char
  | c :: rest =>
    if c = 'e' ∨ c = 'E' then
      let sign := (rest.take 1).filter fun c => c == '+' || c == '-'
      let ds := digitRun 10 (rest.drop sign.length)
      if ds.isEmpty then [] else c :: sign ++ ds
    else []
  | [] => []

/-- A decimal number: an integer, or a double if it has a fraction or an exponent. -/
def readDecimal? (cs : List Char) : Option (Reading Value) :=
  let (negative, body) := Numeral.sign cs
  let whole := wholePart body
  if whole.isEmpty then none
  else
    let rest := body.drop whole.length
    let fraction := fractionPart rest
    let rest := rest.drop fraction.length
    let exponent := exponentPart rest
    let rest := rest.drop exponent.length
    if fraction.isEmpty && exponent.isEmpty then
      some ((readInt negative (whole.filter (· != '_'))).map fun v => (v, rest))
    else
      match Numeral.decimal? negative (whole ++ fraction ++ exponent) with
      | some x => some (.ok (.float x, rest))
      | none => some malformed

/-- The words of the format and the values that they stand for. -/
def words : List (String × Value) :=
  [("true", .bool true), ("false", .bool false)]

/-- The words for numbers that have no digits. -/
def numberWords : List (String × Value) :=
  [("inf", .float (.infinite false)), ("nan", .float .nan), ("+inf", .float (.infinite false)),
    ("-inf", .float (.infinite true)), ("+nan", .float .nan), ("-nan", .float .nan)]

/-- The first word of a list that a text starts with. -/
def readWord? (table : List (String × Value)) (cs : List Char) : Option (Value × List Char) :=
  table.findSome? fun (w, v) => (Json.dropWord? w cs).map fun rest => (v, rest)

/-- A value that is neither list nor table. -/
def readScalar (cs : List Char) : Reading Value :=
  match cs with
  | '"' :: _ | '\'' :: _ => (readString cs).map fun (s, rest) => (.text (String.ofList s), rest)
  | _ =>
    match readWord? words cs with
    | some found => .ok found
    | none =>
      match readMoment? cs with
      | some reading => reading
      | none =>
        match readBased? cs with
        | some found => .ok found
        | none =>
          match readDecimal? cs with
          | some reading => reading
          | none =>
            match readWord? numberWords cs with
            | some found => .ok found
            | none => malformed

end CacheTelemetry.Document.Toml
