import CacheTelemetry.Text.Split

/-!
# Paths

A path is a root, empty for a relative path, and the names that lead from there to a file. Empty
names and single points in the text of a path say nothing and are left out; two points, which lead
back, are kept, since what they lead back from may not exist.
-/

namespace CacheTelemetry.Files

/-- A path. -/
structure Path where
  root : String
  parts : List String
  deriving DecidableEq, Repr, Inhabited

namespace Path

/-- The root in a text: two slashes in front are a root of their own, three or more are one. -/
def rootOf (cs : List Char) : String :=
  match (cs.takeWhile (· == '/')).length with
  | 0 => ""
  | 2 => "//"
  | _ => "/"

/-- The path written by a text. -/
def ofText (s : String) : Path :=
  let names := (Text.pieces '/' s.toList).map String.ofList
  ⟨rootOf s.toList, names.filter fun n => n != "" && n != "."⟩

/-- The text of a path. The path that leads nowhere is a point. -/
def text (p : Path) : String :=
  let s := p.root ++ "/".intercalate p.parts
  if s.isEmpty then "." else s

/-- Every path has a text. -/
theorem text_ne_empty (p : Path) : p.text ≠ "" := by
  simp only [text]
  split
  · decide
  · next h => simpa using h

/-- The last name of a path. -/
def name (p : Path) : String := p.parts.getLast?.getD ""

/-- The end of a name from its last point on, if something stands before and behind the point. -/
def ending (name : List Char) : List Char :=
  let behind := (name.reverse.takeWhile (· != '.')).length
  if name.contains '.' ∧ behind ≠ 0 ∧ behind + 1 < name.length then
    name.drop (name.length - behind - 1)
  else []

/-- The ending of the last name of a path. -/
def suffixText (p : Path) : String := String.ofList (ending p.name.toList)

example : (ofText "./sub//./x.yaml/").text = "sub/x.yaml" := by decide

example : (ofText "a.b.yaml").suffixText = ".yaml" := by decide

example : (ofText ".json").suffixText = "" := by decide

end Path

end CacheTelemetry.Files
