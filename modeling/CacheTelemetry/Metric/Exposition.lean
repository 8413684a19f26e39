import CacheTelemetry.Metric.Family

/-!
# The text format

Families in text: for each family a line with its documentation, a line with its type, and a line
for each sample with its label and its value. In a label a backslash, a double quote and a line feed
are escaped. A count is written as the double nearest to it; positive counts from one million up to
`10 ^ 16` take the form with one digit before the point and an exponent. A count that is too large
for a double has no text.
-/

namespace CacheTelemetry.Exposition

/-- A character of a label value. -/
def escapeChar (c : Char) : List Char :=
  if c = '\\' then ['\\', '\\']
  else if c = '\n' then ['\\', 'n']
  else if c = '"' then ['\\', '"']
  else [c]

/-- A label value with its escapes. -/
def escapeLabel (s : String) : String := String.ofList (s.toList.flatMap escapeChar)

/-- The position of the point from which on positive numbers take an exponent. -/
def exponentFrom : Nat := 7

/-- A finite number in text. -/
def numberText (negative : Bool) (m : Nat) (e : Int) : String :=
  let plain := (Binary64.finite negative m e).text
  let d := (Binary64.rounding m e).shortest
  let point := d.point
  if negative ∨ m = 0 ∨ point < exponentFrom ∨ 16 < point then plain
  else
    let size := Nat.toDigits 10 (point - 1).toNat
    let mantissa :=
      match d.significant with
      | c :: c' :: rest => c :: '.' :: c' :: rest
      | digits => digits
    String.ofList (mantissa ++ ['e', '+'] ++ List.replicate (2 - size.length) '0' ++ size)

/-- A count in text, if a double can hold it. -/
def countText? (i : Int) : Option String :=
  match Binary64.ofInt i with
  | .finite negative m e => some (numberText negative m e)
  | _ => none

/-- A sample in full, as reports on a family show it; a label or a count may be too long for it. -/
def showSample {κ : Type} (s : Statistic) (sample : Sample κ) : Option String := do
  let label ← (sample.1.written Value.quoted).toOption
  let count ← (Value.written Value.quoted (.int sample.2 : Value κ)).toOption
  return "Sample(name=" ++ Text.quoted s.metricName ++ ", labels=\x7b" ++ Text.quoted labelName ++
    ": " ++ label ++ "\x7d, value=" ++ count ++
    ", timestamp=None, exemplar=None, native_histogram=None)"

/-- A family in full, as reports on it show it, if all of its samples can be shown. -/
def showFamily {κ : Type} (f : Family κ) : Option String := do
  let samples ← f.samples.mapM (showSample f.statistic)
  return "Metric(" ++ f.statistic.familyName ++ ", " ++ f.statistic.documentation ++
    ", counter, , [" ++ ", ".intercalate samples ++ "])"

/-- The line of a sample of a family. -/
def sampleLine {κ : Type} (f : Family κ) : Sample κ → Except Fault String
  | (.text label, count) =>
    match countText? count with
    | some value =>
      .ok (f.statistic.metricName ++ "\x7b" ++ labelName ++ "=\"" ++ escapeLabel label ++
        "\"\x7d " ++ value ++ "\n")
    | none => .error (.tooLarge (showFamily f))
  | (label, _) => .error (.labelNotText label.sort (showFamily f))

/-- The lines of a family. -/
def familyText {κ : Type} (f : Family κ) : Except Fault String := do
  let name := f.statistic.metricName
  let lines ← f.samples.mapM (sampleLine f)
  return "# HELP " ++ name ++ " " ++ f.statistic.documentation ++ "\n# TYPE " ++ name ++
    " counter\n" ++ String.join lines

/-- The text of a list of families. -/
def text {κ : Type} (families : List (Family κ)) : Except Fault String := do
  return String.join (← families.mapM familyText)

end CacheTelemetry.Exposition
