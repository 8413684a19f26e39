import CacheTelemetry.Document.Leaf
import CacheTelemetry.Text.Case
import CacheTelemetry.Text.Split

/-!
# Numbers in YAML

Integers in base two, eight, ten, sixteen and sixty, and doubles in base ten and sixty.
`hasIntegerForm` and `hasFloatForm` say which texts are numbers without being tagged. A tag may ask
for a number in any text; `readInteger` and `readFloat` find the number that the text denotes, and
take more texts than have the form.
-/

namespace CacheTelemetry.Document.Yaml

/-! ### Forms -/

/-- Digits of a base and underscores. -/
def areGrouped (base : Nat) (cs : List Char) : Bool :=
  cs.all fun c => Numeral.isDigit base c || c == '_'

/-- Decimal digits and underscores, with a digit in front. -/
def isGroupedRun (cs : List Char) : Bool :=
  cs.head?.any (Numeral.isDigit 10) && areGrouped 10 cs

/-- A digit of base sixty: one or two decimal digits, the first of two less than six. -/
def isSixtieth : List Char → Bool
  | [a] => Numeral.isDigit 10 a
  | [a, b] => Numeral.isDigit 6 a && Numeral.isDigit 10 b
  | _ => false

/-- Digits of base sixty behind the first one, at least one. -/
def areSixtieths (parts : List (List Char)) : Bool := !parts.isEmpty && parts.all isSixtieth

/-- The parts of a text between colons. -/
def colonParts (cs : List Char) : List (List Char) := Text.pieces ':' cs

/-- The form of an integer without its sign. -/
def hasNaturalForm : List Char → Bool
  | '0' :: rest =>
    rest.isEmpty ||
      match rest with
      | 'b' :: ds => !ds.isEmpty && areGrouped 2 ds
      | 'x' :: ds => !ds.isEmpty && areGrouped 16 ds
      | ds => areGrouped 8 ds
  | cs =>
    match colonParts cs with
    | whole :: parts => isGroupedRun whole && (parts.isEmpty || areSixtieths parts)
    | [] => false

/-- The form of an integer. -/
def hasIntegerForm (cs : List Char) : Bool := hasNaturalForm (Numeral.sign cs).2

/-- The form of an exponent, which may be missing: a letter, a sign and digits. -/
def hasExponentForm : List Char → Bool
  | [] => true
  | mark :: sign :: ds =>
    (mark == 'e' || mark == 'E') && (sign == '+' || sign == '-') && !ds.isEmpty &&
      ds.all (Numeral.isDigit 10)
  | _ => false

/-- The form of what follows the point of a double. -/
def hasFractionForm (cs : List Char) : Bool :=
  hasExponentForm (cs.dropWhile fun c => Numeral.isDigit 10 c || c == '_')

/-- The form of a double. Only one with digits before the point, or an infinity, has a sign. -/
def hasFloatForm (cs : List Char) : Bool :=
  let body := (Numeral.sign cs).2
  let whole := body.takeWhile (· != '.')
  match body.drop whole.length with
  | '.' :: rest =>
    match colonParts whole with
    | [] | [[]] =>
      ["inf", "Inf", "INF"].contains (String.ofList rest) ||
        body == cs && (["nan", "NaN", "NAN"].contains (String.ofList rest) ||
          rest.head?.any (Numeral.isDigit 10) && hasFractionForm rest)
    | [first] => isGroupedRun first && hasFractionForm rest
    | first :: parts => isGroupedRun first && areSixtieths parts && areGrouped 10 rest
  | _ => false

/-! ### Values -/

/-- The number with the given digits of base sixty, the most significant first, where digits may be
of any size. -/
def sixtieths (parts : List Int) : Int := parts.foldl (fun n d => 60 * n + d) 0

/-- The digits of a numeral without the mark of its base. -/
def dropMark (base : Nat) (cs : List Char) : List Char :=
  let marks := if base = 2 then ['b', 'B'] else if base = 8 then ['o', 'O']
    else if base = 16 then ['x', 'X'] else []
  match cs with
  | '0' :: m :: ds => if m ∈ marks then ds else cs
  | _ => cs

/-- An integer in a base: blanks around it, a sign, and perhaps a mark of the base. Its digits may
be decimal digits of any script. -/
def readBased (base : Nat) (cs : List Char) : Except Fault Int :=
  let (negative, body) := Numeral.sign (Numeral.plain cs)
  let ds := dropMark base body
  match Numeral.nat? base ds with
  | some n =>
    if base = 10 ∧ ds.length > Numeral.maxDigits then .error .longNumber
    else .ok (if negative then -n else n)
  | none => .error .impossibleValue

/-- The integer that a text without sign and underscores denotes. -/
def readNatural (cs : List Char) : Except Fault Int :=
  match cs with
  | [] => .error .emptyNumber
  | '0' :: 'b' :: ds => readBased 2 ds
  | '0' :: 'x' :: ds => readBased 16 ds
  | '0' :: _ => readBased 8 cs
  | _ =>
    match colonParts cs with
    | [_] => readBased 10 cs
    | parts => (parts.mapM (readBased 10)).map sixtieths

/-- The integer that a text denotes. -/
def readInteger (cs : List Char) : Except Fault Int :=
  let (negative, body) := Numeral.sign (cs.filter (· != '_'))
  (readNatural body).map fun i => if negative then -i else i

/-- The sum of digits of base sixty times their places, the least significant first, added to `x`
with rounded sums and products. `place` is the value of the first place; each must fit a double. -/
def addSixtieths (x : Binary64) (place : Nat) : List Binary64 → Except Fault Binary64
  | [] => .ok x
  | d :: rest =>
    match Binary64.ofNat place with
    | .infinite _ => .error .hugePlace
    | weight => addSixtieths (.add x (.mul d weight)) (60 * place) rest

/-- The double with the given digits of base sixty, the most significant first. -/
def sixtiethsOfFloats (parts : List Binary64) : Except Fault Binary64 :=
  addSixtieths .zero 1 parts.reverse

/-- A double in base ten. -/
def readDouble (cs : List Char) : Except Fault Binary64 :=
  match Numeral.double? (String.ofList cs) with
  | some x => .ok x
  | none => .error .impossibleValue

/-- The double that a text without sign and underscores denotes, in small letters. -/
def readPositive (cs : List Char) : Except Fault Binary64 :=
  if cs = ".inf".toList then .ok (.infinite false)
  else if cs = ".nan".toList then .ok .nan
  else
    match colonParts cs with
    | [_] => readDouble cs
    | parts => (parts.mapM readDouble).bind sixtiethsOfFloats

/-- The double that a text denotes. -/
def readFloat (cs : List Char) : Except Fault Binary64 :=
  match (cs.filter (· != '_')).map Text.lowerAsciiChar with
  | [] => .error .emptyNumber
  | cs =>
    let (negative, body) := Numeral.sign cs
    (readPositive body).map fun x => if negative then x.neg else x

end CacheTelemetry.Document.Yaml
