import CacheTelemetry.Decimal.Numeral
import CacheTelemetry.Decimal.Shortest
import CacheTelemetry.Text.Quoted

/-!
# Data

Plain values as they come from documents, from configuration tables and from the readers of
statistics: numbers, texts, lists and tables, and a leaf `special` for whatever a source knows
beyond these. Two forms of text belong to a value. The *quoted* form shows a text between quotes;
the *plain* form differs from it only for a text, which stands for itself. A value has these forms
only if it is *writable*: integers with too many digits are not written.

Keys of tables are compared by `Datum.sameKey`, under which numbers of different kinds are equal if
their values are, `true` counting as one and `false` as zero.
-/

namespace CacheTelemetry

/-- A plain value, with leaves of another type `α`. -/
inductive Datum (α : Type) where
  | null
  | bool (b : Bool)
  | int (i : Int)
  | float (x : Binary64)
  | text (s : String)
  | list (items : List (Datum α))
  | dict (entries : List (Datum α × Datum α))
  | special (a : α)
  deriving Inhabited, Repr

namespace Datum

variable {α : Type}

mutual

/-- The quoted form of a value; `leaf` shows the special leaves. -/
def quotedWith (leaf : α → String) : Datum α → String
  | .null => "None"
  | .bool b => if b then "True" else "False"
  | .int i => toString i
  | .float x => x.text
  | .text s => Text.quoted s
  | .list items => "[" ++ ", ".intercalate (quotedItems leaf items) ++ "]"
  | .dict entries => "\x7b" ++ ", ".intercalate (quotedEntries leaf entries) ++ "\x7d"
  | .special a => leaf a

/-- The quoted forms of the items of a list. -/
def quotedItems (leaf : α → String) : List (Datum α) → List String
  | [] => []
  | x :: rest => quotedWith leaf x :: quotedItems leaf rest

/-- The quoted forms of the entries of a table. -/
def quotedEntries (leaf : α → String) : List (Datum α × Datum α) → List String
  | [] => []
  | (k, v) :: rest =>
    (quotedWith leaf k ++ ": " ++ quotedWith leaf v) :: quotedEntries leaf rest

end

mutual

/-- No integer in a value has too many digits to be written. -/
def isWritable : Datum α → Bool
  | .int i => i.natAbs < 10 ^ Numeral.maxDigits
  | .list items => areWritable items
  | .dict entries => entriesWritable entries
  | _ => true

/-- All items of a list can be written. -/
def areWritable : List (Datum α) → Bool
  | [] => true
  | x :: rest => x.isWritable && areWritable rest

/-- All entries of a table can be written. -/
def entriesWritable : List (Datum α × Datum α) → Bool
  | [] => true
  | (k, v) :: rest => k.isWritable && v.isWritable && entriesWritable rest

end

/-- The plain form of a value. -/
def plainWith (leaf : α → String) : Datum α → String
  | .text s => s
  | x => x.quotedWith leaf

/-- The word for the sort of a value; `leaf` gives that of the special leaves. -/
def sortWith (leaf : α → String) : Datum α → String
  | .null => "NoneType"
  | .bool _ => "bool"
  | .int _ => "int"
  | .float _ => "float"
  | .text _ => "str"
  | .list _ => "list"
  | .dict _ => "dict"
  | .special a => leaf a

/-- A value can be a key; lists and tables cannot. -/
def isKey : Datum α → Bool
  | .list _ | .dict _ => false
  | _ => true

/-- A value as an integer, where truth values count as one and zero. -/
def asInt? : Datum α → Option Int
  | .bool b => some (if b then 1 else 0)
  | .int i => some i
  | _ => none

/-- Equality of keys. Numbers are compared by value, and what is not a number differs from itself;
lists and tables are equal to nothing. -/
def sameKey [BEq α] : Datum α → Datum α → Bool
  | .null, .null => true
  | .text s, .text t => s == t
  | .float x, .float y => x.sameNumber y
  | .special a, .special b => a == b
  | .float x, y => (y.asInt?.map x.eqInt).getD false
  | x, .float y => (x.asInt?.map y.eqInt).getD false
  | x, y =>
    match x.asInt?, y.asInt? with
    | some i, some j => i == j
    | _, _ => false

/-- A value counts as true unless it is null, false, zero or empty. -/
def truth : Datum α → Bool
  | .null => false
  | .bool b => b
  | .int i => i != 0
  | .float x => !x.isZero
  | .text s => !s.isEmpty
  | .list items => !items.isEmpty
  | .dict entries => !entries.isEmpty
  | .special _ => true

@[simp] theorem sameKey_text [BEq α] (s t : String) :
    sameKey (.text s : Datum α) (.text t) = (s == t) := rfl

@[simp] theorem sameKey_null_text [BEq α] (s : String) :
    sameKey (.null : Datum α) (.text s) = false := rfl

@[simp] theorem sameKey_text_null [BEq α] (s : String) :
    sameKey (.text s : Datum α) .null = false := rfl

end Datum

end CacheTelemetry
