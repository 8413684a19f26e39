import CacheTelemetry.Document.Toml.Namespace
import CacheTelemetry.Document.Toml.Scalar

/-!
# TOML documents

A reader for TOML 1.0. A document is read statement by statement: headers of tables, headers of
tables in an array, and keys with their values. What they say about the namespaces of the document
is kept in a `Toml.Builder`, which refuses statements that contradict earlier ones.

Every step takes a character or more, so the length of the text bounds the number of steps. How deep
arrays and inline tables may be nested is a limit of its own: `depthLimit` is shared by all values
that lie inside each other, of which an array takes two parts and a table three.
-/

namespace CacheTelemetry.Document.Toml

/-- The rest of a text after a comment, if one stands in front. -/
def skipComment : List Char → Except Fault (List Char)
  | '#' :: rest =>
    if (rest.takeWhile (· != '\n')).any (isIllegal false) then malformed
    else .ok (rest.dropWhile (· != '\n'))
  | cs => .ok cs

/-- The rest of a text after white space, line breaks and comments. -/
def skipFiller : Nat → List Char → Except Fault (List Char)
  | 0, cs => .ok cs
  | n + 1, cs => do
    let rest := cs.dropWhile isSpaceOrBreak
    match rest with
    | '#' :: _ => skipFiller n (← skipComment rest)
    | _ => return rest

/-- One part of a key: bare, or a string on one line. -/
def readKeyPart (cs : List Char) : Reading String :=
  match cs with
  | '"' :: _ | '\'' :: _ => (readLineString cs).map fun (s, rest) => (String.ofList s, rest)
  | _ =>
    let bare := cs.takeWhile isBareKeyChar
    if bare.isEmpty then malformed else .ok (String.ofList bare, cs.drop bare.length)

/-- A key: parts with points between them. -/
def readKey : Nat → List Char → Except Fault (Path × List Char)
  | 0, _ => malformed
  | n + 1, cs => do
    let (part, rest) ← readKeyPart cs
    match skipSpace rest with
    | '.' :: rest =>
      let (path, rest) ← readKey n (skipSpace rest)
      return (part :: path, rest)
    | rest => return ([part], rest)

/-- A key and the equals sign behind it. -/
def readKeyEquals (n : Nat) (cs : List Char) : Except Fault (Path × List Char) := do
  let (key, rest) ← readKey n cs
  match rest with
  | '=' :: rest => return (key, skipSpace rest)
  | _ => malformed

/-- What an array takes of the room for nested values. -/
def arrayCost : Nat := 2

/-- What an inline table takes of the room for nested values. -/
def tableCost : Nat := 3

/-- The room for nested values at the top of a document. -/
def depthLimit : Nat := 987

mutual

/-- A value in `n` steps, with `room` for the values nested inside it. -/
def readValue (n room : Nat) (cs : List Char) : Except Fault (Value × List Char) :=
  match n with
  | 0 => malformed
  | n + 1 =>
    match cs with
    | '[' :: rest =>
      if room < arrayCost then .error .tooDeep
      else do
        match ← skipFiller rest.length rest with
        | ']' :: rest => return (.list [], rest)
        | rest =>
          let (items, rest) ← readItems n (room - arrayCost) rest
          return (.list items, rest)
    | '\x7b' :: rest =>
      if room < tableCost then .error .tooDeep
      else
        match skipSpace rest with
        | '\x7d' :: rest => .ok (.dict [], rest)
        | rest => do
          let (b, rest) ← readMembers n (room - tableCost) rest .start
          return (b.toValue, rest)
    | _ => readScalar cs

/-- The items of an array up to its end. -/
def readItems (n room : Nat) (cs : List Char) : Except Fault (List Value × List Char) :=
  match n with
  | 0 => malformed
  | n + 1 => do
    let (v, rest) ← readValue n room cs
    match ← skipFiller rest.length rest with
    | ']' :: rest => return ([v], rest)
    | ',' :: rest =>
      match ← skipFiller rest.length rest with
      | ']' :: rest => return ([v], rest)
      | rest =>
        let (items, rest) ← readItems n room rest
        return (v :: items, rest)
    | _ => malformed

/-- The members of an inline table up to its end. -/
def readMembers (n room : Nat) (cs : List Char) (b : Builder) :
    Except Fault (Builder × List Char) :=
  match n with
  | 0 => malformed
  | n + 1 => do
    let (key, rest) ← readKeyEquals cs.length cs
    let (v, rest) ← readValue n room rest
    match b.assign key v with
    | none => malformed
    | some b =>
      match skipSpace rest with
      | '\x7d' :: rest => return (b, rest)
      | ',' :: rest => readMembers n room (skipSpace rest) b
      | _ => malformed

end

/-- The path in a header, up to the brackets that close it. -/
def readHeader (closing : String) (cs : List Char) : Except Fault (Path × List Char) := do
  let cs := skipSpace cs
  let (path, rest) ← readKey cs.length cs
  match Json.dropWord? closing rest with
  | some rest => return (path, rest)
  | none => malformed

/-- One statement, and the rest of the text. -/
def readStatement (b : Builder) (cs : List Char) : Except Fault (Builder × List Char) :=
  match cs with
  | '[' :: '[' :: rest => do
    let (path, rest) ← readHeader "]]" rest
    match b.openTables path with
    | some b => return (b, rest)
    | none => malformed
  | '[' :: rest => do
    let (path, rest) ← readHeader "]" rest
    match b.openTable path with
    | some b => return (b, rest)
    | none => malformed
  | _ => do
    let (key, rest) ← readKeyEquals cs.length cs
    let (v, rest) ← readValue (2 * rest.length + 2) depthLimit rest
    match b.assign key v with
    | some b => return (b, rest)
    | none => malformed

/-- The end of a line: white space, a comment, then a line break or the end of the text. -/
def readLineEnd (cs : List Char) : Except Fault (List Char) := do
  match ← skipComment (skipSpace cs) with
  | [] => return []
  | '\n' :: rest => return rest
  | _ => malformed

/-- The statements of a text, one line after the other. -/
def readLines : Nat → List Char → Builder → Except Fault Builder
  | 0, _, b => .ok b
  | n + 1, cs, b =>
    match skipSpace cs with
    | [] => .ok b
    | '\n' :: rest => readLines n rest b
    | '#' :: rest => do readLines n (← readLineEnd ('#' :: rest)) b
    | cs => do
      let (b, rest) ← readStatement b cs
      readLines n (← readLineEnd rest) b

/-- A text with single line feeds for its line breaks. -/
def unifyBreaks : List Char → List Char
  | '\r' :: '\n' :: rest => '\n' :: unifyBreaks rest
  | c :: rest => c :: unifyBreaks rest
  | [] => []

/-- The table written by a text. -/
def read (s : String) : Except Fault Value := do
  let cs := unifyBreaks s.toList
  return (← readLines (cs.length + 1) cs .start).toValue

end CacheTelemetry.Document.Toml
