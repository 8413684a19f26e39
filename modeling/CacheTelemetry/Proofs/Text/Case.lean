import CacheTelemetry.Text.Case
import Mathlib.Tactic.SplitIfs

/-!
# Lower case that is within ASCII

The full table of lower case takes two characters from outside of ASCII into it: the Kelvin sign,
whose lower case is `k`, and `İ`, whose lower case begins with `i` and leaves ASCII again. So **a
text whose lower case is within ASCII and without `k` has that lower case within ASCII**
(`lowerAscii_eq_of_lower`).
-/

namespace CacheTelemetry.Text

variable {c : Char}

/-- A character of ASCII that is the lower case of nothing else outside of ASCII. -/
def IsPlain (c : Char) : Prop := c.toNat < 0x80 ∧ c ≠ 'k'

instance (c : Char) : Decidable (IsPlain c) := inferInstanceAs (Decidable (_ ∧ _))

/-! ### Characters -/

/-- A run leads to characters beyond ASCII. -/
def LeadsBeyond (run : Nat × Nat × Nat × Int) : Prop :=
  0x80 ≤ run.1 + run.2.2.2 ∧ run.2.1 + run.2.2.2 < 0xd800 ∨
    0xdfff < run.1 + run.2.2.2 ∧ run.2.1 + run.2.2.2 < 0x110000

instance (run : Nat × Nat × Nat × Int) : Decidable (LeadsBeyond run) :=
  inferInstanceAs (Decidable (_ ∨ _))

/-- The Kelvin sign is the only character that a run leads into ASCII. -/
theorem leadsBeyond_of_mem_lowerRuns :
    ∀ run ∈ lowerRuns, run = (0x212a, 0x212a, 1, -8383) ∨ LeadsBeyond run := by
  decide +kernel

/-- What a run leads to beyond ASCII is not plain. -/
theorem LeadsBeyond.not_isPlain {lo hi stride n : Nat} {shift : Int}
    (beyond : LeadsBeyond (lo, hi, stride, shift)) (first : lo ≤ n) (last : n ≤ hi) :
    ¬ IsPlain (Char.ofNat (n + shift).toNat) := by
  simp only [LeadsBeyond] at beyond
  have valid : (n + shift).toNat.isValidChar := by
    rw [Nat.isValidChar]
    omega
  have read : (Char.ofNat (n + shift).toNat).toNat = (n + shift).toNat :=
    congrArg Char.toNat (dif_pos valid)
  rintro ⟨ascii, -⟩
  rw [read] at ascii
  omega

/-- A character whose lower case is plain belongs to ASCII. -/
theorem toNat_lt_of_isPlain_lowerChar (plain : ∀ x ∈ lowerChar c, IsPlain x) : c.toNat < 0x80 := by
  refine Decidable.byContradiction fun beyond => ?_
  rw [lowerChar, if_neg beyond] at plain
  split at plain
  · -- `İ` has a combining dot in its lower case
    exact absurd (plain (Char.ofNat 0x307) (by simp)) (by decide)
  split at plain
  · rename_i lo hi stride shift found
    have within := List.find?_some found
    simp only [Bool.and_eq_true, decide_eq_true_eq] at within
    obtain ⟨⟨first, last⟩, -⟩ := within
    have low := plain (Char.ofNat (c.toNat + shift).toNat) (by simp)
    rcases leadsBeyond_of_mem_lowerRuns _ (List.mem_of_find?_eq_some found) with kelvin | leads
    · cases kelvin
      have sign : c.toNat = 0x212a := Nat.le_antisymm last first
      rw [sign] at low
      exact low.2 rfl
    · exact leads.not_isPlain first last low
  · exact beyond (plain c (by simp)).1

/-- The lower case of a character of ASCII. -/
theorem lowerChar_of_toNat_lt (ascii : c.toNat < 0x80) : lowerChar c = [lowerAsciiChar c] :=
  if_pos ascii

/-! ### Texts -/

/-- Lower case after some characters, if it is plain. -/
theorem lowerAfter_of_isPlain {before cs : List Char}
    (plain : ∀ x ∈ lowerAfter before cs, IsPlain x) :
    lowerAfter before cs = cs.map lowerAsciiChar := by
  induction cs generalizing before with
  | nil => rfl
  | cons c rest ih =>
    rw [lowerAfter] at plain ⊢
    split_ifs at plain ⊢ with sigma
    · exact absurd (plain 'ς' (by simp)) (by decide)
    · rw [List.forall_mem_append] at plain
      rw [lowerChar_of_toNat_lt (toNat_lt_of_isPlain_lowerChar plain.1), ih plain.2]
      rfl

/-- **A text whose lower case is plain has that lower case within ASCII.** -/
theorem lowerAscii_eq_of_lower {s : String} (plain : ∀ x ∈ (lower s).toList, IsPlain x) :
    lowerAscii s = lower s := by
  rw [lower, String.toList_ofList] at plain
  rw [lower, lowerAfter_of_isPlain plain, lowerAscii, ← String.toList_inj, String.toList_map,
    String.toList_ofList]

end CacheTelemetry.Text
