import CacheTelemetry.Document.Yaml.Arrival

/-!
# Places in a YAML text

A cursor is a place in a text: what is left of it, and how many characters and lines lie before. The
column counts the characters since the last line break. A text is taken to have line feeds for
carriage returns.

What a move does to the rest of the text is said by `Cursor.rest_skip` and `Cursor.rest_skipWhile`.
-/

namespace CacheTelemetry.Document.Yaml

/-- The fault of a malformed text. -/
def malformed {α : Type} : Except Fault α := .error (.malformed .yaml)

/-- A character that ends a line. -/
def isBreak (c : Char) : Bool := c == '\n' || c == '\u0085' || c == '\u2028' || c == '\u2029'

/-- A space or a tab. -/
def isSpaceOrTab (c : Char) : Bool := c == ' ' || c == '\t'

/-- A blank or a line break. -/
def isBlankOrBreak (c : Char) : Bool := isSpaceOrTab c || isBreak c

/-- The end of the text, or a character of a class. -/
def endOr (p : Char → Bool) : Option Char → Bool
  | none => true
  | some c => p c

/-- The end of a word: the end of the text, a blank or a line break. -/
def endsWord (o : Option Char) : Bool := endOr isBlankOrBreak o

/-- The end of a word where tabs do not end words. -/
def endsBySpace (o : Option Char) : Bool := endOr (fun c => c == ' ' || isBreak c) o

/-- The end of a line or of the text. -/
def endsLine (o : Option Char) : Bool := endOr isBreak o

/-- A character of a name: an ASCII letter or digit, a hyphen or an underscore. -/
def isNameChar (c : Char) : Bool := c.isAlphanum || c == '-' || c == '_'

/-- The mark that may stand at the beginning of a text. -/
def byteOrderMark : Char := '\ufeff'

/-- A place in a text. -/
structure Cursor where
  rest : List Char
  index : Nat
  line : Nat
  column : Nat
  /-- The fault that is met behind what is left, none if the text ends there. -/
  beyond : Option Fault
  deriving Inhabited

namespace Cursor

/-- The beginning of a text. -/
def start (a : Arrival) : Cursor := ⟨a.text, 0, 0, 0, a.fault⟩

/-- The character `k` places ahead, if the text is that long. -/
def peek (c : Cursor) (k : Nat) : Option Char := c.rest[k]?

/-- The next character. -/
def next (c : Cursor) : Option Char := c.rest.head?

/-- Waits for the next character or the end of the text. -/
def await (c : Cursor) : Except Fault Unit :=
  match c.rest, c.beyond with
  | [], some f => .error f
  | _, _ => .ok ()

/-- The fault of a text that cannot go on as it does. -/
def refuse {α : Type} (c : Cursor) : Except Fault α := c.await.bind fun _ => malformed

/-- One character further. A byte order mark takes no column. -/
def step (c : Cursor) : Cursor :=
  match c.rest with
  | [] => c
  | x :: rest =>
    if isBreak x then { c with rest := rest, index := c.index + 1, line := c.line + 1, column := 0 }
    else if x = byteOrderMark then { c with rest := rest, index := c.index + 1 }
    else { c with rest := rest, index := c.index + 1, column := c.column + 1 }

/-- Some characters further. -/
def skip (c : Cursor) : Nat → Cursor
  | 0 => c
  | n + 1 => c.step.skip n

/-- Further over all characters of a class. -/
def skipWhile (c : Cursor) (p : Char → Bool) : Cursor := c.skip (c.rest.takeWhile p).length

/-- Further to the end of the line. -/
def skipLine (c : Cursor) : Cursor := c.skipWhile fun x => !isBreak x

/-- Further over a comment, if one begins here. -/
def skipComment (c : Cursor) : Cursor := if c.next = some '#' then c.skipLine else c

/-- Over a line break: the character that it stands for, and the place behind it. -/
def lineBreak? (c : Cursor) : Option (Char × Cursor) :=
  match c.next with
  | some x =>
    if x = '\n' ∨ x = '\u0085' then some ('\n', c.step)
    else if isBreak x then some (x, c.step)
    else none
  | none => none

/-- A step takes one character away, if there is one. -/
theorem rest_step (c : Cursor) : c.step.rest = c.rest.tail := by
  unfold step
  split
  · next h => simp [h]
  · next x rest h =>
    rw [h, List.tail_cons]
    by_cases hb : isBreak x
    · rw [if_pos hb]
    · rw [if_neg hb]
      by_cases hm : x = byteOrderMark
      · rw [if_pos hm]
      · rw [if_neg hm]

/-- Going some characters further takes them away. -/
theorem rest_skip (c : Cursor) (n : Nat) : (c.skip n).rest = c.rest.drop n := by
  induction n generalizing c with
  | zero => rfl
  | succ n ih => simp [skip, ih, rest_step]

/-- Behind all characters of a class the next one is of another class. -/
theorem rest_skipWhile (c : Cursor) (p : Char → Bool) :
    (c.skipWhile p).rest = c.rest.dropWhile p := by
  rw [skipWhile, rest_skip]
  induction c.rest with
  | nil => rfl
  | cons x rest ih => by_cases h : p x <;> simp [h, ih]

/-- A line that starts with three equal characters and then ends a word divides documents. -/
def atDivider (c : Cursor) : Bool :=
  (c.rest.take 3 == ['-', '-', '-'] || c.rest.take 3 == ['.', '.', '.']) && endsWord (c.peek 3)

end Cursor

end CacheTelemetry.Document.Yaml
