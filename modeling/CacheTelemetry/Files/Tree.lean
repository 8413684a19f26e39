import CacheTelemetry.Files.Path
import CacheTelemetry.OrderedMap

/-!
# Trees of files

The files below the working directory. A directory is there because it was made or because
something is inside it. Nothing is known of what lies above, except that directories are there.
-/

namespace CacheTelemetry.Files

/-- What a name can lead to. -/
inductive Entry where
  | file (octets : List UInt8)
  | directory
  deriving DecidableEq, Repr, Inhabited

/-- Files and directories by the names that lead to them from the working directory. -/
structure Tree where
  entries : OrderedMap (List String) Entry
  deriving Inhabited

/-- What is found at the end of a path. -/
inductive Finding where
  | absent
  /-- The path, or a name on the way, is longer than file systems take. -/
  | tooLong
  | present (e : Entry)
  deriving DecidableEq, Repr, Inhabited

/-- The most octets of a name. -/
def maxNameSize : Nat := 255

/-- The most octets of a path. -/
def maxPathSize : Nat := 4095

namespace Tree

/-- The tree of some entries. -/
def ofList (l : List (Path × Entry)) : Tree := ⟨.ofList (l.map fun (p, e) => (p.parts, e))⟩

/-- What some names lead to from the working directory. -/
def entry? (t : Tree) (names : List String) : Option Entry :=
  match t.entries.get? names with
  | some e => some e
  | none =>
    if names = [] ∨ t.entries.keys.any fun key => names.isPrefixOf key then some .directory
    else none

/-- Where a walk through the files has come to: names inside the tree, or above it. -/
abbrev Place := Option (List String)

/-- One directory up. -/
def up : Place → Place
  | none | some [] => none
  | some names => some names.dropLast

/-- What is found at the end of a walk along some names. A walk goes on only from directories. -/
def walk (t : Tree) : List String → Place → Finding
  | [], none => .present .directory
  | [], some names => ((t.entry? names).map Finding.present).getD .absent
  | name :: rest, place =>
    if (place.map t.entry?).getD (some .directory) ≠ some .directory then .absent
    else if name = ".." then t.walk rest (up place)
    else if name.utf8ByteSize > maxNameSize then .tooLong
    else
      match place with
      | none => .absent
      | some names => t.walk rest (some (names ++ [name]))

/-- What is found at a path. No path contains a null character. -/
def find (t : Tree) (p : Path) : Finding :=
  if p.text.contains '\x00' then .absent
  else if p.text.utf8ByteSize > maxPathSize then .tooLong
  else t.walk p.parts (if p.root.isEmpty then some [] else none)

/-- A short path without null characters leads where its names lead. -/
theorem find_eq_walk (t : Tree) {p : Path} (plain : '\x00' ∉ p.text.toList)
    (short : p.text.utf8ByteSize ≤ maxPathSize) :
    t.find p = t.walk p.parts (if p.root.isEmpty then some [] else none) := by
  rw [find, if_neg (by simpa using plain), if_neg (Nat.not_lt.2 short)]

end Tree

end CacheTelemetry.Files
