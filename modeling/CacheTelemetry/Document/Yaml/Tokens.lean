import CacheTelemetry.Document.Yaml.Token

/-!
# From a text to tokens

The tokens of a YAML text in order. A key needs no sign of its own: that a scalar, a tag or a
bracket began a key shows only at the colon behind it, and the tokens for the key, and for the
mapping that it may begin, are then put in front. `OpenKey` is a place where a key may have begun.
It closes at the end of its line, or after 1024 characters.

`Tokens.ofText` does not fail: tokens that come before a fault are kept, since what they are read
for may fail earlier. Tokens from an open key on are not kept, because what stands in front of them
is not known yet.
-/

namespace CacheTelemetry.Document.Yaml

/-- A place where a key may have begun. -/
structure OpenKey where
  /-- The number of tokens before. -/
  position : Nat
  /-- Something at the indentation of a mapping must be a key. -/
  required : Bool
  index : Nat
  line : Nat
  column : Nat
  deriving Inhabited

/-- The tokens of a text up to its end, or up to a fault. -/
structure Tokens where
  items : List Token
  fault : Option Fault
  deriving Inhabited

/-- The state while a text is taken apart. -/
structure Lexer where
  cursor : Cursor
  tokens : Array Token
  /-- The key that is open outside of all brackets. -/
  blockKey : Option OpenKey
  /-- The key that is open inside each pair of brackets, the innermost first. -/
  flowKeys : List (Option OpenKey)
  /-- The column of the innermost block, `-1` outside of all blocks. -/
  indent : Int
  /-- The columns of the blocks around. -/
  outer : List Int
  /-- A key may begin here. -/
  keyAllowed : Bool
  deriving Inhabited

namespace Lexer

/-- The beginning of a text. -/
def start (a : Arrival) : Lexer := ⟨.start a, #[], none, [], -1, [], true⟩

/-- The place is inside brackets. -/
def inFlow (s : Lexer) : Bool := !s.flowKeys.isEmpty

/-- The column of the place. -/
def column (s : Lexer) : Int := s.cursor.column

/-- One more token. -/
def emit (s : Lexer) (t : Token) : Lexer := { s with tokens := s.tokens.push t }

/-- One more token of `n` characters. -/
def take (s : Lexer) (n : Nat) (t : Token) : Lexer :=
  { s.emit t with cursor := s.cursor.skip n }

/-- A token in front of earlier ones. -/
def insert (s : Lexer) (position : Nat) (t : Token) : Lexer :=
  { s with tokens := s.tokens.extract 0 position ++ #[t] ++ s.tokens.extract position }

/-- The same place, where a key may begin or not. -/
def allow (s : Lexer) (allowed : Bool) : Lexer := { s with keyAllowed := allowed }

/-! ### Indentation -/

/-- Begins a block at a column, if it is deeper than the innermost one. -/
def deepen? (s : Lexer) (column : Int) : Option Lexer :=
  if s.indent < column then some { s with indent := column, outer := s.indent :: s.outer }
  else none

/-- Ends blocks that are deeper than a column, as long as there are blocks around. -/
def unwindTo (column : Int) : List Int → Lexer → Lexer
  | [], s => s
  | i :: rest, s =>
    if s.indent > column then
      unwindTo column rest { s.emit .blockEnd with indent := i, outer := rest }
    else s

/-- Ends blocks that are deeper than a column. Columns mean nothing inside brackets. -/
def unwind (s : Lexer) (column : Int) : Lexer :=
  if s.inFlow then s else unwindTo column s.outer s

/-- Begins a block with a token, where a key may begin, if the place is deeper than the innermost
block. -/
def openBlock (s : Lexer) (t : Token) : Except Fault Lexer :=
  if s.inFlow then .ok s
  else if s.keyAllowed then .ok (((s.deepen? s.column).map fun s => s.emit t).getD s)
  else malformed

/-! ### Keys -/

/-- The key that is open between the innermost brackets. -/
def openKey? (s : Lexer) : Option OpenKey :=
  match s.flowKeys with
  | [] => s.blockKey
  | k :: _ => k

/-- Replaces the key that is open between the innermost brackets. -/
def setKey (s : Lexer) (k : Option OpenKey) : Lexer :=
  match s.flowKeys with
  | [] => { s with blockKey := k }
  | _ :: rest => { s with flowKeys := k :: rest }

/-- Closes the key between the innermost brackets; a required one must not be given up. -/
def dropKey (s : Lexer) : Except Fault Lexer :=
  if s.openKey?.any (·.required) then malformed else .ok (s.setKey none)

/-- A key may begin here. -/
def saveKey (s : Lexer) : Except Fault Lexer :=
  if s.keyAllowed then
    s.dropKey.map fun s =>
      s.setKey (some ⟨s.tokens.size, !s.inFlow && s.indent == s.column, s.cursor.index,
        s.cursor.line, s.cursor.column⟩)
  else .ok s

/-- A key is still open at a place. -/
def isFresh (c : Cursor) (k : OpenKey) : Bool := k.line == c.line && c.index ≤ k.index + 1024

/-- The keys that are open. -/
def openKeys (s : Lexer) : List OpenKey := (s.blockKey :: s.flowKeys).filterMap id

/-- Closes the keys that began on an earlier line or too far away. -/
def dropStale (s : Lexer) : Except Fault Lexer :=
  if s.openKeys.any fun k => k.required && !isFresh s.cursor k then malformed
  else
    .ok { s with
      blockKey := s.blockKey.filter (isFresh s.cursor)
      flowKeys := s.flowKeys.map fun k => k.filter (isFresh s.cursor) }

/-- The tokens that nothing can be put in front of any more. -/
def settled (s : Lexer) : List Token :=
  let positions := (s.openKeys.filter (isFresh s.cursor)).map (·.position)
  s.tokens.toList.take (positions.foldl min s.tokens.size)

/-! ### One token -/

/-- Over spaces, comments and line breaks. Outside of brackets a key may begin on a new line. -/
def skipFiller : Nat → Lexer → Lexer
  | 0, s => s
  | n + 1, s =>
    let c := (s.cursor.skipWhile (· == ' ')).skipComment
    match c.lineBreak? with
    | some (_, c) => skipFiller n { s with cursor := c, keyAllowed := !s.inFlow || s.keyAllowed }
    | none => { s with cursor := c }

/-- To the next token: over the mark at the beginning of the text and what lies between tokens. -/
def approach (s : Lexer) : Lexer :=
  let c := s.cursor
  let c := if c.index = 0 ∧ c.next = some byteOrderMark then c.step else c
  skipFiller (c.rest.length + 1) { s with cursor := c }

/-- A token that ends all blocks. -/
def endBlocks (s : Lexer) : Except Fault Lexer :=
  (s.unwind (-1)).dropKey.map (·.allow false)

/-- An opening bracket. -/
def openBracket (s : Lexer) (t : Token) : Except Fault Lexer :=
  s.saveKey.map fun s => { s.take 1 t with flowKeys := none :: s.flowKeys, keyAllowed := true }

/-- A closing bracket. -/
def closeBracket (s : Lexer) (t : Token) : Except Fault Lexer :=
  match s.flowKeys with
  | [] => malformed
  | _ :: rest => .ok { s.take 1 t with flowKeys := rest, keyAllowed := false }

/-- The sign of an item in a block. -/
def blockItem (s : Lexer) : Except Fault Lexer := do
  let s ← (← s.openBlock .blockSequenceStart).dropKey
  return (s.take 1 .blockEntry).allow true

/-- The sign of a key. -/
def explicitKey (s : Lexer) : Except Fault Lexer := do
  let s ← (← s.openBlock .blockMappingStart).dropKey
  return (s.take 1 .key).allow (!s.inFlow)

/-- The sign of a value. If a key is open it has ended here, and its tokens are put in front. -/
def valueSign (s : Lexer) : Except Fault Lexer :=
  match s.openKey? with
  | some k =>
    let s := (s.setKey none).insert k.position .key
    let s := if s.inFlow then s
      else ((s.deepen? k.column).map fun s => s.insert k.position .blockMappingStart).getD s
    .ok ((s.take 1 .value).allow false)
  | none => do
    let s ← s.openBlock .blockMappingStart
    return (s.take 1 .value).allow (!s.inFlow)

/-- A token that may begin a key, read from the place. -/
def begin {α : Type} (s : Lexer) (read : Cursor → Except Fault (α × Cursor)) (token : α → Token) :
    Except Fault Lexer := do
  let s ← s.saveKey
  let (a, c) ← read s.cursor
  return { s.emit (token a) with cursor := c, keyAllowed := false }

/-- A scalar in a block of its own. -/
def blockScalar (s : Lexer) (folded : Bool) : Except Fault Lexer := do
  let s ← s.dropKey
  let (content, c) ← readBlock folded s.indent s.cursor.step
  return { s.emit (.scalar false (contentOf content)) with cursor := c, keyAllowed := true }

/-- A scalar between quotes. -/
def quotedScalar (s : Lexer) (double : Bool) : Except Fault Lexer :=
  s.begin (fun c => readQuoted double (c.rest.length + 1) c.step []) (.scalar false)

/-- A plain scalar. -/
def plainScalar (s : Lexer) : Except Fault Lexer := do
  let s ← s.saveKey
  let p := readPlain s.inFlow (s.indent + 1) (s.cursor.rest.length + 1) s.cursor [] false []
  return { s.emit (.scalar true (contentOf p.content)) with
    cursor := p.cursor, keyAllowed := p.broken }

/-- A plain scalar can begin here. -/
def atPlain (s : Lexer) (x : Char) : Bool :=
  !(isBlankOrBreak x || "-?:,[]\x7b\x7d#&*!|>'\"%@\x60".toList.contains x) ||
    !endsWord (s.cursor.peek 1) && (x == '-' || !s.inFlow && (x == '?' || x == ':'))

/-- The line divides documents and starts with a character. -/
def atDivider (s : Lexer) : Bool := s.cursor.column == 0 && s.cursor.atDivider

/-- One token more, by the character that it starts with. -/
def token (s : Lexer) (x : Char) : Except Fault Lexer :=
  let wordEnds := endsWord (s.cursor.peek 1)
  if x = '%' ∧ s.cursor.column = 0 then do
    let s ← s.endBlocks
    let (d, c) ← readDirective s.cursor
    return { s.emit (.directive d) with cursor := c }
  else if s.atDivider then
    s.endBlocks.map fun s => s.take 3 (if x = '-' then .documentStart else .documentEnd)
  else if x = '[' then s.openBracket .flowSequenceStart
  else if x = '\x7b' then s.openBracket .flowMappingStart
  else if x = ']' then s.closeBracket .flowSequenceEnd
  else if x = '\x7d' then s.closeBracket .flowMappingEnd
  else if x = ',' then s.dropKey.map fun s => (s.take 1 .flowEntry).allow true
  else if x = '-' ∧ wordEnds then s.blockItem
  else if x = '?' ∧ (s.inFlow ∨ wordEnds) then s.explicitKey
  else if x = ':' ∧ (s.inFlow ∨ wordEnds) then s.valueSign
  else if x = '*' then s.begin readName .reference
  else if x = '&' then s.begin readName .anchor
  else if x = '!' then s.begin readTag .tag
  else if (x = '|' ∨ x = '>') ∧ !s.inFlow then s.blockScalar (x == '>')
  else if x = '\'' then s.quotedScalar false
  else if x = '"' then s.quotedScalar true
  else if s.atPlain x then s.plainScalar
  else malformed

/-- One token more, or none at the end of the text, where all blocks end. The character behind a
token must be known, too. -/
def next (s : Lexer) : Except Fault (Lexer × Bool) := do
  let s := s.approach
  s.cursor.await
  let s ← s.dropStale
  let s := s.unwind s.column
  match s.cursor.next with
  | some x =>
    let s ← s.token x
    s.cursor.await
    return (s, false)
  | none => return (← s.endBlocks, true)

/-- All tokens from a place on. Each of the `n` steps takes a character or more. -/
def run : Nat → Lexer → Tokens
  | 0, s => ⟨s.settled, some (.malformed .yaml)⟩
  | n + 1, s =>
    match s.next with
    | .error f => ⟨s.settled, some f⟩
    | .ok (s, true) => ⟨s.tokens.toList, none⟩
    | .ok (s, false) => run n s

end Lexer

/-- The tokens of a text, as far as it arrives. -/
def Tokens.ofText (a : Arrival) : Tokens := Lexer.run (a.text.length + 1) (.start a)

end CacheTelemetry.Document.Yaml
