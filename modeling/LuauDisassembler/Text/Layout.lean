/-!
# Line ends and tabs

Two changes that are made to texts before they are read.

* `unifyNewlines`: the line ends CR LF and CR become LF.
* `expandTabs`: a tab becomes the spaces that lead to the next tab stop.  Columns count characters
  from the last LF or CR, whichever came later.
* `unifyNewlines_of_no_cr`: a text without CR keeps its line ends.
-/

namespace LuauDisassembler.Text

/-- The text with each line end written as a line feed. -/
def unifyNewlines : List Char → List Char
  | [] => []
  | '\r' :: '\n' :: s => '\n' :: unifyNewlines s
  | c :: s => (if c = '\r' then '\n' else c) :: unifyNewlines s

/-- The distance between tab stops. -/
def tabWidth : Nat := 8

/-- The text with its tabs expanded, where the first character stands in the given column. -/
def expandTabsFrom (column : Nat) : List Char → List Char
  | [] => []
  | c :: s =>
    if c = '\t' then
      let gap := tabWidth - column % tabWidth
      List.replicate gap ' ' ++ expandTabsFrom (column + gap) s
    else if c = '\n' ∨ c = '\r' then c :: expandTabsFrom 0 s
    else c :: expandTabsFrom (column + 1) s

/-- The text with its tabs expanded. -/
def expandTabs (s : List Char) : List Char := expandTabsFrom 0 s

theorem unifyNewlines_of_no_cr {s : List Char} (h : '\r' ∉ s) : unifyNewlines s = s := by
  induction s with
  | nil => rfl
  | cons c s ih =>
    have hc : c ≠ '\r' := fun e => h (e ▸ List.mem_cons_self)
    rw [unifyNewlines, if_neg hc, ih fun m => h (List.mem_cons_of_mem c m)]
    intro t e
    exact absurd e hc

end LuauDisassembler.Text
