/-!
# Line breaks

Texts from different systems end their lines by a line feed, a carriage return, or both.
-/

namespace CacheTelemetry.Text

/-- A text with a line feed for each line break. -/
def unifyBreaks : List Char → List Char
  | '\r' :: '\n' :: rest => '\n' :: unifyBreaks rest
  | c :: rest => (if c = '\r' then '\n' else c) :: unifyBreaks rest
  | [] => []

/-- No carriage return is left. -/
theorem not_mem_unifyBreaks (cs : List Char) : '\r' ∉ unifyBreaks cs := by
  fun_induction unifyBreaks cs with
  | case1 rest ih => simpa using ih
  | case2 c rest _ ih =>
    by_cases h : c = '\r'
    · simpa [h] using ih
    · simpa [h, eq_comm] using ih
  | case3 => simp

end CacheTelemetry.Text
