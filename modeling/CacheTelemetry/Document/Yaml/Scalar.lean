import CacheTelemetry.Document.Leaf
import CacheTelemetry.Document.Yaml.Cursor

/-!
# The text of YAML scalars

Plain, quoted and block scalars, from a place in the text to the content and the place behind. Line
breaks inside a scalar are folded: a single one becomes a space, of several the first is dropped.
Content is a list of code points, since an escape may write a surrogate.
-/

namespace CacheTelemetry.Document.Yaml

/-- The content of a scalar. -/
abbrev Content := List Nat

/-- Characters as content. -/
def contentOf (cs : List Char) : Content := cs.map Char.toNat

/-- Content for a line break that is followed by further ones: a single line feed is a space. -/
def fold (first : Char) (others : List Char) : List Char :=
  if first ≠ '\n' then first :: others
  else if others.isEmpty then [' ']
  else others

/-! ### Plain scalars -/

/-- The characters of a plain scalar up to a blank, a line break, a colon that ends a key, or,
inside brackets, an indicator. -/
def plainRun (inFlow : Bool) : List Char → List Char
  | [] => []
  | c :: rest =>
    if isBlankOrBreak c then []
    else if c = ':' ∧ (endsWord rest.head? ∨
        inFlow ∧ rest.head?.any fun x => x ∈ [',', '[', ']', '\x7b', '\x7d']) then []
    else if inFlow ∧ c ∈ [',', '?', '[', ']', '\x7b', '\x7d'] then []
    else c :: plainRun inFlow rest

/-- The line breaks from here on, with the spaces between them; nothing if a line divides
documents. -/
def plainBreaks : Nat → Cursor → List Char → Option (List Char) × Cursor
  | 0, c, breaks => (some breaks.reverse, c)
  | n + 1, c, breaks =>
    if c.next = some ' ' then plainBreaks n c.step breaks
    else
      match c.lineBreak? with
      | none => (some breaks.reverse, c)
      | some (b, c) => if c.atDivider then (none, c) else plainBreaks n c (b :: breaks)

/-- What lies between two runs of a plain scalar. -/
structure PlainGap where
  /-- The content that stands for it, if the scalar may go on. -/
  content : Option (List Char)
  /-- There was a line break. -/
  broken : Bool
  cursor : Cursor

/-- The spaces and line breaks after a run of a plain scalar. -/
def plainGap (c : Cursor) : PlainGap :=
  let spaces := c.rest.takeWhile (· == ' ')
  let c := c.skip spaces.length
  match c.lineBreak? with
  | none => ⟨if spaces.isEmpty then none else some spaces, false, c⟩
  | some (first, c) =>
    if c.atDivider then ⟨none, true, c⟩
    else
      let (others, c) := plainBreaks c.rest.length c []
      ⟨others.map (fold first), true, c⟩

/-- A plain scalar that was read. -/
structure Plain where
  content : List Char
  /-- The text stands at the beginning of a line behind it. -/
  broken : Bool
  cursor : Cursor

/-- A plain scalar: runs with gaps between them. In a block it goes on only with lines that are
indented by `indent` or more. -/
def readPlain (inFlow : Bool) (indent : Int) : Nat → Cursor → List Char → Bool → List Char → Plain
  | 0, c, done, broken, _ => ⟨done, broken, c⟩
  | n + 1, c, done, broken, gap =>
    let run := if c.next = some '#' then [] else plainRun inFlow c.rest
    if run.isEmpty then ⟨done, broken, c⟩
    else
      let done := done ++ gap ++ run
      let g := plainGap (c.skip run.length)
      match g.content with
      | none => ⟨done, g.broken, g.cursor⟩
      | some gap =>
        if g.cursor.next = some '#' ∨ (!inFlow ∧ (g.cursor.column : Int) < indent) then
          ⟨done, g.broken, g.cursor⟩
        else readPlain inFlow indent n g.cursor done g.broken gap

/-! ### Quoted scalars -/

/-- The character that a one-letter escape stands for. -/
def escape? : Char → Option Nat
  | '0' => some 0
  | 'a' => some 0x07
  | 'b' => some 0x08
  | 't' | '\t' => some 0x09
  | 'n' => some 0x0a
  | 'v' => some 0x0b
  | 'f' => some 0x0c
  | 'r' => some 0x0d
  | 'e' => some 0x1b
  | ' ' => some 0x20
  | '"' => some 0x22
  | '\\' => some 0x5c
  | '/' => some 0x2f
  | 'N' => some 0x85
  | '_' => some 0xa0
  | 'L' => some 0x2028
  | 'P' => some 0x2029
  | _ => none

/-- The number of hexadecimal digits after an escape that takes some. -/
def escapeWidth? : Char → Option Nat
  | 'x' => some 2
  | 'u' => some 4
  | 'U' => some 8
  | _ => none

/-- The line breaks from here on, with the blanks between them, inside quotes. No line may divide
documents. -/
def quotedBreaks : Nat → Cursor → List Char → Except Fault (List Char × Cursor)
  | 0, c, breaks => .ok (breaks.reverse, c)
  | n + 1, c, breaks =>
    if c.atDivider then malformed
    else
      let c := c.skipWhile isSpaceOrTab
      match c.lineBreak? with
      | none => .ok (breaks.reverse, c)
      | some (b, c) => quotedBreaks n c (b :: breaks)

/-- An escape, from behind its backslash. -/
def readEscape (c : Cursor) : Except Fault (Content × Cursor) :=
  match c.next with
  | none => c.refuse
  | some x =>
    match escape? x, escapeWidth? x with
    | some n, _ => .ok ([n], c.step)
    | none, some width =>
      let digits := (c.step.rest.take width).takeWhile (Numeral.isDigit 16)
      let n := Numeral.value 16 digits
      if digits.length ≠ width then (c.skip (digits.length + 1)).refuse
      else if n ≥ 0x80000000 then .error .hugeCodePoint
      else if n > 0x10ffff then .error .impossibleValue
      else .ok ([n], c.skip (width + 1))
    | none, none =>
      match c.lineBreak? with
      | none => malformed
      | some (_, c) => (quotedBreaks c.rest.length c []).map fun (bs, c) => (contentOf bs, c)

/-- The content of a quoted scalar up to its closing quote; `done` came before, the last part
first. -/
def readQuoted (double : Bool) : Nat → Cursor → List Content → Except Fault (Content × Cursor)
  | 0, c, _ => c.refuse
  | n + 1, c, done =>
    match c.next with
    | none => c.refuse
    | some x =>
      if !double ∧ x = '\'' ∧ c.peek 1 = some '\'' then
        readQuoted double n (c.skip 2) ([x.toNat] :: done)
      else if x = (if double then '"' else '\'') then .ok (done.reverse.flatten, c.step)
      else if double ∧ x = '\\' then do
        let (escaped, c) ← readEscape c.step
        readQuoted double n c (escaped :: done)
      else if isBlankOrBreak x then
        let blanks := c.rest.takeWhile isSpaceOrTab
        let c := c.skip blanks.length
        match c.lineBreak? with
        | none => readQuoted double n c (contentOf blanks :: done)
        | some (first, c) => do
          let (others, c) ← quotedBreaks (c.rest.length + 1) c []
          readQuoted double n c (contentOf (fold first others) :: done)
      else readQuoted double n c.step ([x.toNat] :: done)

/-! ### Block scalars -/

/-- What is done with the line breaks at the end of a block scalar. -/
inductive Chomping where
  | clip
  | strip
  | keep
  deriving DecidableEq, Repr, Inhabited

/-- The sign of a chomping. -/
def chomping? : Char → Option Chomping
  | '+' => some .keep
  | '-' => some .strip
  | _ => none

/-- A digit that gives the indentation of a block scalar. -/
def increment? (c : Char) : Option Nat := Numeral.digit? 10 c

/-- A part of the header of a block scalar that may be missing. -/
def headerPart {α : Type} (part? : Char → Option α) (c : Cursor) : Option α × Cursor :=
  match c.next.bind part? with
  | some a => (some a, c.step)
  | none => (none, c)

/-- The signs behind the indicator of a block scalar: a chomping and an indentation, in either
order. -/
def blockSigns (c : Cursor) : Except Fault (Chomping × Option Nat × Cursor) :=
  let (chomping, c) := headerPart chomping? c
  let (increment, c) := headerPart increment? c
  let (chomping, c) := match chomping, increment with
    | none, some _ => headerPart chomping? c
    | _, _ => (chomping, c)
  if increment = some 0 ∨ !endsBySpace c.next then c.refuse
  else .ok (chomping.getD .clip, increment, c)

/-- The rest of a line that may hold a comment and nothing else, with its line break. -/
def finishLine (c : Cursor) : Except Fault Cursor :=
  let c := (c.skipWhile (· == ' ')).skipComment
  if endsLine c.next then .ok ((c.lineBreak?.map Prod.snd).getD c) else c.refuse

/-- Empty lines in front of a block scalar, and the deepest indentation among them and the first
other line. -/
def leadingLines : Nat → Cursor → List Char → Nat → List Char × Nat × Cursor
  | 0, c, breaks, deepest => (breaks.reverse, deepest, c)
  | n + 1, c, breaks, deepest =>
    if c.next = some ' ' then leadingLines n c.step breaks (max deepest c.step.column)
    else
      match c.lineBreak? with
      | some (b, c) => leadingLines n c (b :: breaks) deepest
      | none => (breaks.reverse, deepest, c)

/-- Spaces up to a column. -/
def skipIndent (indent : Nat) (c : Cursor) : Cursor :=
  c.skip (min (indent - c.column) (c.rest.takeWhile (· == ' ')).length)

/-- Empty lines inside a block scalar, and the indentation of the next one. -/
def innerBreaks (indent : Nat) : Nat → Cursor → List Char → List Char × Cursor
  | 0, c, breaks => (breaks.reverse, skipIndent indent c)
  | n + 1, c, breaks =>
    let c := skipIndent indent c
    match c.lineBreak? with
    | some (b, c) => innerBreaks indent n c (b :: breaks)
    | none => (breaks.reverse, c)

/-- The lines of a block scalar. `breaks` stand before the next line, `done` is the content so
far. -/
def blockLines (folded : Bool) (indent : Nat) (chomping : Chomping) :
    Nat → Cursor → List Char → List Char → List Char → List Char × Cursor
  | 0, c, done, _, _ => (done, c)
  | n + 1, c, done, lastBreak, breaks =>
    if c.column = indent ∧ c.next.isSome then
      let line := c.rest.takeWhile fun x => !isBreak x
      let more := !(line.head?.any isSpaceOrTab)
      let done := done ++ breaks ++ line
      let c := c.skip line.length
      let (lineEnd, c) := match c.lineBreak? with
        | some (b, c) => ([b], c)
        | none => ([], c)
      let (breaks, c) := innerBreaks indent c.rest.length c []
      let between :=
        if c.column ≠ indent ∨ c.next.isNone then []
        else if folded ∧ lineEnd = ['\n'] ∧ more ∧ !(c.next.any isSpaceOrTab) then
          (if breaks.isEmpty then [' '] else [])
        else lineEnd
      if c.column = indent ∧ c.next.isSome then
        blockLines folded indent chomping n c (done ++ between) lineEnd breaks
      else
        (done ++ (if chomping = .strip then [] else lineEnd) ++
          (if chomping = .keep then breaks else []), c)
    else
      (done ++ (if chomping = .strip then [] else lastBreak) ++
        (if chomping = .keep then breaks else []), c)

/-- A block scalar, from behind its indicator; `parent` is the indentation around it. -/
def readBlock (folded : Bool) (parent : Int) (c : Cursor) : Except Fault (List Char × Cursor) := do
  let (chomping, increment, c) ← blockSigns c
  let c ← finishLine c
  let least := (max (parent + 1) 1).toNat
  let fuel := c.rest.length + 1
  match increment with
  | none =>
    let (breaks, deepest, c) := leadingLines fuel c [] 0
    return blockLines folded (max least deepest) chomping fuel c [] [] breaks
  | some k =>
    let indent := least + k - 1
    let (breaks, c) := innerBreaks indent fuel c []
    return blockLines folded indent chomping fuel c [] [] breaks

end CacheTelemetry.Document.Yaml
