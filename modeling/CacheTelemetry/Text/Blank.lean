/-!
# Blank characters

The white space of Unicode (property `White_Space`) and the trimming of a text on both sides.
Zero-width spaces, the byte order mark and the separators U+001C to U+001F are not blank.
-/

namespace CacheTelemetry.Text

/-- The Unicode property `White_Space`. -/
def isBlank (c : Char) : Bool :=
  let n := c.toNat
  (0x09 ≤ n && n ≤ 0x0d) || n == 0x20 || n == 0x85 || n == 0xa0 || n == 0x1680 ||
    (0x2000 ≤ n && n ≤ 0x200a) || n == 0x2028 || n == 0x2029 || n == 0x202f || n == 0x205f ||
    n == 0x3000

/-- A list without the blanks at its two ends. -/
def trimList (cs : List Char) : List Char :=
  ((cs.dropWhile isBlank).reverse.dropWhile isBlank).reverse

/-- A text without the blanks at its two ends. -/
def trim (s : String) : String :=
  String.ofList (trimList s.toList)

/-- Every blank of the ASCII class `Char.isWhitespace` is blank. -/
theorem isBlank_of_isWhitespace {c : Char} (h : c.isWhitespace = true) : isBlank c = true := by
  simp only [Char.isWhitespace, Bool.or_eq_true, decide_eq_true_eq] at h
  rcases h with ((h | h) | h) | h <;> subst h <;> decide

theorem dropWhile_eq_self {p : Char → Bool} {cs : List Char}
    (h : ∀ c ∈ cs.head?, p c = false) : cs.dropWhile p = cs := by
  cases cs with
  | nil => rfl
  | cons c r => simp [List.dropWhile, h c (by simp)]

theorem head?_dropWhile_eq_false (p : Char → Bool) (cs : List Char) :
    ∀ c ∈ (cs.dropWhile p).head?, p c = false := by
  induction cs with
  | nil => simp
  | cons c r ih => by_cases h : p c <;> simp_all [List.dropWhile]

/-- A list without blanks at its ends loses nothing. -/
theorem trimList_eq_self {cs : List Char} (first : ∀ c ∈ cs.head?, isBlank c = false)
    (last : ∀ c ∈ cs.reverse.head?, isBlank c = false) : trimList cs = cs := by
  rw [trimList, dropWhile_eq_self first, dropWhile_eq_self last, List.reverse_reverse]

/-- Trimming twice is trimming once. -/
theorem trimList_trimList (cs : List Char) : trimList (trimList cs) = trimList cs := by
  refine trimList_eq_self ?_ (by
    rw [trimList, List.reverse_reverse]
    exact head?_dropWhile_eq_false _ _)
  have split := congrArg List.reverse
    (List.takeWhile_append_dropWhile (p := isBlank) (l := (cs.dropWhile isBlank).reverse))
  rw [List.reverse_append, List.reverse_reverse] at split
  intro c hc
  refine head?_dropWhile_eq_false isBlank cs c ?_
  rw [← split]
  cases h : trimList cs with
  | nil => simp [h] at hc
  | cons x r =>
    rw [trimList] at h
    rw [h]
    simpa [trimList, h] using hc

/-- Trimming a text twice is trimming it once. -/
theorem trim_trim (s : String) : trim (trim s) = trim s := by
  simp [trim, trimList_trimList]

end CacheTelemetry.Text
