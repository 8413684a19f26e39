import CacheTelemetry.Metric.Statistic
import CacheTelemetry.Proofs.Effect
import CacheTelemetry.Registry.Attribute

/-!
# What beans give

A bean *keeps* a value for an attribute if its item or its member is that value. It *gives* an
integer if it keeps the integer, or keeps a callable whose call returns it; **an attribute is read
as an integer exactly if the bean under the name gives it** (`Registry.readAttribute_eq_int_iff`).
-/

namespace CacheTelemetry

open Effect

variable {σ κ β : Type} {s t : σ} {n : ObjectName} {attr : String} {i : Int}
  {call : κ → Effect σ (Value κ)} {word : Wording σ κ}

namespace BeanView

variable {view : BeanView σ κ}

/-- The value that a bean keeps for an attribute. -/
inductive Keeps : BeanView σ κ → String → Value κ → σ → σ → Prop where
  | item {keys : List String} {item : String → Effect σ (Value κ)} {attr : String} {v : Value κ}
    {s t : σ} (key : attr ∈ keys) (kept : (item attr).runFrom s = (.ok v, t)) :
    Keeps (.mapping keys item) attr v s t
  | member {member : String → Effect σ (Value κ)} {attr : String} {v : Value κ} {s t : σ}
    (kept : (member attr).runFrom s = (.ok v, t)) : Keeps (.object member) attr v s t

/-- The integer that a bean gives for an attribute, as it is or when it is called. -/
inductive GivesInt (view : BeanView σ κ) (call : κ → Effect σ (Value κ)) (attr : String) (i : Int)
    (s t : σ) : Prop where
  | plain (kept : view.Keeps attr (.int i) s t)
  | called {callable : κ} {u : σ} (kept : view.Keeps attr (.special callable) s u)
    (result : (call callable).runFrom u = (.ok (.int i), t))

/-- All six attributes of a bean are integers in a state. -/
def HasIntegers (view : BeanView σ κ) (call : κ → Effect σ (Value κ)) (s : σ) : Prop :=
  ∀ st : Statistic, ∃ i t, view.GivesInt call st.attrName i s t

theorem fetch_eq_ok_iff {v : Value κ} :
    (view.fetch word n attr).runFrom s = (.ok v, t) ↔ view.Keeps attr v s t := by
  cases view with
  | mapping keys item =>
    rw [fetch]
    split
    · rename_i key
      constructor
      · exact .item key
      · rintro ⟨-, kept⟩
        exact kept
    · rename_i absent
      constructor
      · rintro ⟨⟩
      · rintro ⟨key, -⟩
        exact absurd key absent
  | object member =>
    rw [fetch, wrapErrors_eq_ok_iff]
    constructor
    · exact .member
    · intro h
      cases h with
      | member kept => exact kept

theorem read_eq_int_iff :
    (view.read call word n attr).runFrom s = (.ok (.int i), t) ↔ view.GivesInt call attr i s t := by
  rw [read, bind_eq_ok_iff]
  simp only [fetch_eq_ok_iff]
  constructor
  · rintro ⟨v, u, kept, result⟩
    cases v with
    | special callable => exact .called kept (wrapErrors_eq_ok_iff.1 result)
    | _ =>
      cases result
      try exact .plain kept
  · rintro (kept | ⟨kept, result⟩)
    · exact ⟨_, _, kept, rfl⟩
    · exact ⟨_, _, kept, wrapErrors_eq_ok_iff.2 result⟩

end BeanView

/-- An attribute is read as an integer exactly if the bean under the name gives it. -/
theorem Registry.readAttribute_eq_int_iff {r : Registry β} {view : β → BeanView σ κ} :
    (r.readAttribute view call word n attr).runFrom s = (.ok (.int i), t) ↔
      ∃ bean, r.get? n = some bean ∧ (view bean).GivesInt call attr i s t := by
  rw [readAttribute]
  split
  · rename_i absent
    simp [absent]
  · rename_i bean found
    simp only [BeanView.read_eq_int_iff, found, Option.some.injEq, exists_eq_left']

end CacheTelemetry
