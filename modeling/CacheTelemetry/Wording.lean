import CacheTelemetry.Effect

/-!
# Wording

A message takes up the texts of the values and of the errors that it is about. How a foreign value
or a foreign error is put into words is up to foreign code, which may change the state and may fail
as it may elsewhere. Null, truth values, doubles and texts are quoted without it, and the library
words its own faults itself.
-/

namespace CacheTelemetry

/-- What goes into a message by its text. -/
inductive Wordable (κ : Type) where
  /-- A value, in its quoted form. -/
  | value (v : Value κ)
  /-- An error, by its message. -/
  | error (f : Fault)

namespace Wordable

variable {κ : Type}

/-- Foreign code is needed to put it into words. -/
def isForeign : Wordable κ → Bool
  | .value .null | .value (.bool _) | .value (.float _) | .value (.text _) => false
  | .value _ => true
  | .error f => f.isForeign

/-- The text of what needs no foreign code. -/
def text : Wordable κ → String
  | .value v => v.quoted
  | .error f => f.message

end Wordable

/-- The texts that foreign code gives. -/
abbrev Wording (σ κ : Type) := Wordable κ → Effect σ String

/-- Puts a value or an error into words. -/
def Wording.say {σ κ : Type} (word : Wording σ κ) (w : Wordable κ) : Effect σ String :=
  if w.isForeign then word w else return w.text

end CacheTelemetry
