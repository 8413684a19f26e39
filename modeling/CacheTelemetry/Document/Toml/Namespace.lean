import CacheTelemetry.Document.Basic

/-!
# Namespaces of TOML

The tables that the statements of a TOML document build up. A path of keys leads through tables and
through the last table of each array of tables. Some paths are *declared*: they may not be opened
again by a header or extended by dotted keys. Others are *frozen*, with everything below them: they
hold a value that was written as a whole.
-/

namespace CacheTelemetry.Document.Toml

/-- A path of keys. -/
abbrev Path := List String

/-- What stands under a key: a value written as a whole, a table, or an array of tables, whose last
table comes first here. -/
inductive Node where
  | value (v : Value)
  | table (entries : List (String × Node))
  | tables (last : List (String × Node)) (before : List (List (String × Node)))
  deriving Inhabited

/-- The entries of a table. -/
abbrev Entries := List (String × Node)

/-- The node under a key. -/
def lookUp (key : String) : Entries → Option Node
  | [] => none
  | (k, node) :: rest => if k = key then some node else lookUp key rest

/-- Entries with a node put under a key. -/
def put (key : String) (node : Node) : Entries → Entries
  | [] => [(key, node)]
  | (k, old) :: rest => if k = key then (k, node) :: rest else (k, old) :: put key node rest

/-- Changes the table at the end of a path; tables on the way that are missing are made. A path that
leads through a value has no end. -/
def changeAt (change : Entries → Option Entries) : Path → Entries → Option Entries
  | [], entries => change entries
  | key :: path, entries =>
    match lookUp key entries with
    | none => (changeAt change path []).map fun inner => put key (.table inner) entries
    | some (.table inner) =>
      (changeAt change path inner).map fun inner => put key (.table inner) entries
    | some (.tables last before) =>
      (changeAt change path last).map fun last => put key (.tables last before) entries
    | some (.value _) => none

/-- Puts a value under a key that is free. -/
def addValue (key : String) (v : Value) (entries : Entries) : Option Entries :=
  match lookUp key entries with
  | none => some (put key (.value v) entries)
  | some _ => none

/-- Adds a table to the array of tables under a key, or starts one. -/
def addTable (key : String) (entries : Entries) : Option Entries :=
  match lookUp key entries with
  | none => some (put key (.tables [] []) entries)
  | some (.tables last before) => some (put key (.tables [] (last :: before)) entries)
  | some _ => none

mutual

/-- A node as a value. -/
def Node.toValue : Node → Value
  | .value v => v
  | .table entries => .dict (entriesToValues entries)
  | .tables last before => .list (tablesToValues before ++ [.dict (entriesToValues last)])

/-- Entries as entries of a value. -/
def entriesToValues : List (String × Node) → List (Value × Value)
  | [] => []
  | (k, node) :: rest => (.text k, node.toValue) :: entriesToValues rest

/-- Tables as values, the last one first. -/
def tablesToValues : List (List (String × Node)) → List Value
  | [] => []
  | entries :: rest => tablesToValues rest ++ [.dict (entriesToValues entries)]

end

/-- The state of a document that is being read. -/
structure Builder where
  entries : Entries
  /-- Paths that are declared. -/
  declared : List Path
  /-- Paths that will be declared at the next header. -/
  pending : List Path
  /-- Paths that are frozen with everything below. -/
  frozen : List Path
  /-- The path of the last header. -/
  header : Path

namespace Builder

/-- An empty document. -/
def start : Builder := ⟨[], [], [], [], []⟩

/-- A path is frozen: it, or a path above it, holds a value written as a whole. -/
def isFrozen (b : Builder) (path : Path) : Bool := b.frozen.any fun p => p.isPrefixOf path

/-- A path is declared. -/
def isDeclared (b : Builder) (path : Path) : Bool := b.declared.contains path

/-- Declares what is pending. -/
def settle (b : Builder) : Builder := { b with declared := b.pending ++ b.declared, pending := [] }

/-- Forgets what was said about a path and everything below. -/
def release (b : Builder) (path : Path) : Builder :=
  { b with
    declared := b.declared.filter fun p => !path.isPrefixOf p
    frozen := b.frozen.filter fun p => !path.isPrefixOf p }

/-- The header of a table: its path may be opened once. -/
def openTable (b : Builder) (path : Path) : Option Builder :=
  let b := b.settle
  if b.isDeclared path || b.isFrozen path then none
  else (changeAt some path b.entries).map fun entries =>
    { b with entries := entries, declared := path :: b.declared, header := path }

/-- The header of a table in an array of tables: each time a further table begins. -/
def openTables (b : Builder) (path : Path) : Option Builder :=
  let b := b.settle
  match path.getLast? with
  | none => none
  | some key =>
    if b.isFrozen path then none
    else
      let b := b.release path
      (changeAt (addTable key) path.dropLast b.entries).map fun entries =>
        { b with entries := entries, declared := path :: b.declared, header := path }

/-- The paths that a dotted key passes through, the longest last. -/
def passed (header key : Path) : List Path :=
  (List.range (key.length - 1)).map fun i => header ++ key.take (i + 1)

/-- A key with its value. Tables that a dotted key passes through must not be declared, and cannot
be opened by a later header. -/
def assign (b : Builder) (key : Path) (v : Value) : Option Builder :=
  let through := passed b.header key
  let parent := b.header ++ key.dropLast
  match key.getLast? with
  | none => none
  | some last =>
    if through.any b.isDeclared || b.isFrozen parent then none
    else
      (changeAt (addValue last v) parent b.entries).map fun entries =>
        { b with
          entries := entries
          pending := through ++ b.pending
          frozen := match v with
            | .list _ | .dict _ => (b.header ++ key) :: b.frozen
            | _ => b.frozen }

/-- The document as a value. -/
def toValue (b : Builder) : Value := .dict (entriesToValues b.entries)

end Builder

end CacheTelemetry.Document.Toml
