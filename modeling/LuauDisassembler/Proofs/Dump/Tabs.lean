import LuauDisassembler.Proofs.Dump.Lexeme

/-!
# Tabs in a dump

A dump is scanned after its tabs have been expanded.  A tab is a blank like the spaces that take its
place, and no token can hold one, so the scan does the same on both texts: it skips the same
separators, finds the same tokens, and what it leaves is the expansion of what it would have left.

Each statement has a column of its own on the right: it is the column that the rest of the text
starts in, and nothing here depends on its value.

* `skip_expandTabsFrom`, `token?_expandTabsFrom`: one step of the scan.
* `scan_induction`: induction from token to token.
* `scan_expandTabsFrom`: the whole scan.
-/

namespace LuauDisassembler

namespace Text

theorem expandTabsFrom_tab (column : Nat) (s : List Char) : ∃ n column',
    expandTabsFrom column ('\t' :: s) = List.replicate (n + 1) ' ' ++ expandTabsFrom column' s := by
  have hpos : 0 < tabWidth - column % tabWidth := Nat.sub_pos_of_lt (Nat.mod_lt _ (by decide))
  refine ⟨tabWidth - column % tabWidth - 1, column + (tabWidth - column % tabWidth), ?_⟩
  rw [expandTabsFrom, if_pos rfl, Nat.sub_add_cancel hpos]

theorem expandTabsFrom_of_ne {c : Char} (h : c ≠ '\t') (column : Nat) (s : List Char) :
    ∃ column', expandTabsFrom column (c :: s) = c :: expandTabsFrom column' s := by
  rw [expandTabsFrom, if_neg h]
  split
  · exact ⟨0, rfl⟩
  · exact ⟨column + 1, rfl⟩

theorem expandTabsFrom_eq_nil_iff {column : Nat} {s : List Char} :
    expandTabsFrom column s = [] ↔ s = [] := by
  cases s with
  | nil => simp [expandTabsFrom]
  | cons c s =>
    by_cases hc : c = '\t'
    · subst hc
      obtain ⟨n, column', h⟩ := expandTabsFrom_tab column s
      simp [h, List.replicate_succ]
    · obtain ⟨column', h⟩ := expandTabsFrom_of_ne hc column s
      simp [h]

/-- The head of an expanded text is that of the text, a tab taken for a space. -/
theorem head?_expandTabsFrom (column : Nat) (s : List Char) :
    (expandTabsFrom column s).head? = s.head?.map fun c => if c = '\t' then ' ' else c := by
  cases s with
  | nil => rfl
  | cons c s =>
    by_cases hc : c = '\t'
    · subst hc
      obtain ⟨n, column', h⟩ := expandTabsFrom_tab column s
      simp [h, List.replicate_succ]
    · obtain ⟨column', h⟩ := expandTabsFrom_of_ne hc column s
      simp [h, hc]

/-- A character other than a space was there before the expansion. -/
theorem eq_cons_of_expandTabsFrom {c : Char} (hc : c ≠ ' ') {column : Nat} {s t : List Char}
    (h : expandTabsFrom column s = c :: t) :
    ∃ s' column', s = c :: s' ∧ t = expandTabsFrom column' s' := by
  cases s with
  | nil => cases h
  | cons d s =>
    by_cases hd : d = '\t'
    · subst hd
      obtain ⟨n, column', he⟩ := expandTabsFrom_tab column s
      rw [he, List.replicate_succ, List.cons_append] at h
      exact absurd (List.cons.inj h).1.symm hc
    · obtain ⟨column', he⟩ := expandTabsFrom_of_ne hd column s
      rw [he] at h
      obtain ⟨rfl, rfl⟩ := List.cons.inj h
      exact ⟨s, column', rfl, rfl⟩

/-- A run of characters that are neither tab nor space is not touched by the expansion. -/
theorem span_expandTabsFrom {p : Char → Bool} (htab : p '\t' = false) (hspace : p ' ' = false)
    (column : Nat) (s : List Char) :
    (expandTabsFrom column s).takeWhile p = s.takeWhile p ∧ ∃ column',
      (expandTabsFrom column s).dropWhile p = expandTabsFrom column' (s.dropWhile p) := by
  induction s generalizing column with
  | nil => exact ⟨rfl, column, rfl⟩
  | cons c s ih =>
    by_cases hc : c = '\t'
    · subst hc
      refine ⟨?_, column, ?_⟩
      · obtain ⟨n, column', h⟩ := expandTabsFrom_tab column s
        simp [h, List.replicate_succ, htab, hspace]
      · rw [List.dropWhile_cons, htab]
        obtain ⟨n, column', h⟩ := expandTabsFrom_tab column s
        simp [h, List.replicate_succ, hspace]
    · obtain ⟨column', h⟩ := expandTabsFrom_of_ne hc column s
      obtain ⟨htake, column'', hdrop⟩ := ih column'
      rw [h, List.takeWhile_cons, List.takeWhile_cons, List.dropWhile_cons, List.dropWhile_cons]
      by_cases hp : p c = true
      · rw [if_pos hp, if_pos hp, if_pos hp, if_pos hp, htake]
        exact ⟨rfl, column'', hdrop⟩
      · rw [if_neg hp, if_neg hp, if_neg hp, if_neg hp]
        exact ⟨rfl, column, h.symm⟩

end Text

namespace Dump

open Text

/-! ### Skipping -/

theorem skip_replicate_space (n : Nat) (s : List Char) :
    skip (List.replicate n ' ' ++ s) = skip s := by
  induction n with
  | zero => rfl
  | succ n ih => rw [List.replicate_succ, List.cons_append, skip, if_pos (by decide), ih]

theorem skipComment_replicate_space (n : Nat) (s : List Char) :
    skipComment (List.replicate n ' ' ++ s) = skipComment s := by
  induction n with
  | zero => rfl
  | succ n ih => rw [List.replicate_succ, List.cons_append, skipComment, if_neg (by decide), ih]

mutual

theorem skip_expandTabsFrom : ∀ (s : List Char) (column : Nat),
    ∃ column', skip (expandTabsFrom column s) = expandTabsFrom column' (skip s)
  | [], column => ⟨column, by simp [expandTabsFrom, skip]⟩
  | c :: s, column => by
    by_cases htab : c = '\t'
    · subst htab
      obtain ⟨n, column', h⟩ := expandTabsFrom_tab column s
      rw [h, skip_replicate_space, skip, if_pos (by decide)]
      exact skip_expandTabsFrom s column'
    · obtain ⟨column', h⟩ := expandTabsFrom_of_ne htab column s
      have hslash : (expandTabsFrom column' s).head? = some '/' ↔ s.head? = some '/' := by
        rw [head?_expandTabsFrom]
        cases s with
        | nil => simp
        | cons d s => by_cases hd : d = '\t' <;> simp [hd]
      rw [h, skip_cons, skip_cons, if_congr (opensComment_congr c hslash) rfl rfl]
      split
      · exact skip_expandTabsFrom s column'
      · split
        · exact skipComment_expandTabsFrom s column'
        · exact ⟨column, h.symm⟩

theorem skipComment_expandTabsFrom : ∀ (s : List Char) (column : Nat),
    ∃ column', skipComment (expandTabsFrom column s) = expandTabsFrom column' (skipComment s)
  | [], column => ⟨column, by simp [expandTabsFrom, skipComment]⟩
  | c :: s, column => by
    by_cases htab : c = '\t'
    · subst htab
      obtain ⟨n, column', h⟩ := expandTabsFrom_tab column s
      rw [h, skipComment_replicate_space, skipComment, if_neg (by decide)]
      exact skipComment_expandTabsFrom s column'
    · obtain ⟨column', h⟩ := expandTabsFrom_of_ne htab column s
      rw [h, skipComment, skipComment]
      by_cases hlf : c = '\n'
      · rw [if_pos hlf, if_pos hlf]
        exact skip_expandTabsFrom s column'
      · rw [if_neg hlf, if_neg hlf]
        exact skipComment_expandTabsFrom s column'

end

/-! ### Tokens -/

/-- The same token, before a text whose tabs are expanded. -/
def expandRest (column : Nat) (r : Option (Token × List Char)) : Option (Token × List Char) :=
  r.map fun (t, rest) => (t, expandTabsFrom column rest)

theorem address?_expandTabsFrom (column : Nat) (s : List Char) :
    ∃ column', address? (expandTabsFrom column s) = expandRest column' (address? s) := by
  obtain ⟨htake, k, hdrop⟩ := span_expandTabsFrom (p := isHexDigit) rfl rfl column s
  unfold address?
  rw [htake, hdrop]
  cases s.takeWhile isHexDigit with
  | nil => exact ⟨0, rfl⟩
  | cons d ds =>
    cases s.dropWhile isHexDigit with
    | nil => exact ⟨0, rfl⟩
    | cons c rest =>
      by_cases hc : c = ':'
      · subst hc
        obtain ⟨k', h⟩ := expandTabsFrom_of_ne (c := ':') (by decide) k rest
        exact ⟨k', by rw [h]; rfl⟩
      · refine ⟨0, ?_⟩
        split
        · rename_i h
          obtain ⟨s', _, hs, _⟩ := eq_cons_of_expandTabsFrom (by decide) h
          exact absurd (List.cons.inj hs).1 hc
        · split
          · rename_i h
            exact absurd (List.cons.inj h).1 hc
          · rfl

theorem digits?_expandTabsFrom (column : Nat) (s : List Char) :
    ∃ column', digits? (expandTabsFrom column s) = expandRest column' (digits? s) := by
  obtain ⟨htake, k, hdrop⟩ := span_expandTabsFrom (p := isHexDigit) rfl rfl column s
  have hnext : (expandTabsFrom k (s.dropWhile isHexDigit)).head?.all (!isWordChar ·) =
      (s.dropWhile isHexDigit).head?.all (!isWordChar ·) := by
    rw [head?_expandTabsFrom]
    cases (s.dropWhile isHexDigit).head? with
    | none => rfl
    | some c =>
      by_cases hc : c = '\t'
      · have hspace : isWordChar ' ' = false := by decide
        have htab : isWordChar '\t' = false := by decide
        simp [hc, hspace, htab]
      · simp [hc]
  refine ⟨k, ?_⟩
  simp only [digits?, htake, hdrop, hnext]
  split <;> rfl

theorem word?_expandTabsFrom (column : Nat) (s : List Char) :
    ∃ column', word? (expandTabsFrom column s) = expandRest column' (word? s) := by
  rcases word?_cases s with ⟨x, s', rfl, hx, hword⟩ | ⟨hno, hword⟩
  · have htab : x ≠ '\t' := by rcases hx with rfl | rfl <;> decide
    obtain ⟨k, h⟩ := expandTabsFrom_of_ne (c := '0') (by decide) column (x :: s')
    obtain ⟨k', h'⟩ := expandTabsFrom_of_ne htab k s'
    rw [hword, h, h', word?, if_pos hx]
    exact digits?_expandTabsFrom k' s'
  · rw [hword, word?_of_no_mark]
    · exact digits?_expandTabsFrom column s
    · intro x t ht
      obtain ⟨s', k, rfl, hs'⟩ := eq_cons_of_expandTabsFrom (by decide) ht
      by_cases hx : x = ' '
      · subst hx
        decide
      · obtain ⟨s'', k', rfl, -⟩ := eq_cons_of_expandTabsFrom hx hs'.symm
        exact hno x s'' rfl

theorem token?_expandTabsFrom (column : Nat) (s : List Char) :
    ∃ column', token? (expandTabsFrom column s) = expandRest column' (token? s) := by
  obtain ⟨k, ha⟩ := address?_expandTabsFrom column s
  obtain ⟨k', hw⟩ := word?_expandTabsFrom column s
  rw [token?, token?, ha, hw]
  cases address? s with
  | none => exact ⟨k', rfl⟩
  | some r => exact ⟨k, rfl⟩

/-! ### Scanning -/

theorem scan_of_none {s : List Char} (h : token? (skip s) = none) : scan s = ([], skip s) := by
  rw [scan]
  split
  · rfl
  · rename_i h'
    rw [h] at h'
    cases h'

theorem scan_of_some {s rest : List Char} {t : Token} (h : token? (skip s) = some (t, rest)) :
    scan s = (t.words ++ (scan rest).1, (scan rest).2) := by
  rw [scan]
  split
  · rename_i h'
    rw [h] at h'
    cases h'
  · rename_i h'
    rw [h] at h'
    cases h'
    rfl

/-- **Induction along a scan**: what holds where no token begins, and passes from the text behind a
token to the text that begins with it, holds of every text. -/
theorem scan_induction {P : List Char → Prop} (stop : ∀ s, token? (skip s) = none → P s)
    (step : ∀ s t rest, token? (skip s) = some (t, rest) → P rest → P s) (s : List Char) : P s := by
  induction hn : s.length using Nat.strongRecOn generalizing s with
  | ind n ih =>
    cases ht : token? (skip s) with
    | none => exact stop s ht
    | some r =>
      have hlt : r.2.length < s.length :=
        Nat.lt_of_lt_of_le (length_lt_of_token? ht) (length_skip_le s)
      exact step s r.1 r.2 ht (ih r.2.length (hn ▸ hlt) r.2 rfl)

/-- A scan depends only on what is behind the separator at the head of its text. -/
theorem scan_congr {s s' : List Char} (h : skip s = skip s') : scan s = scan s' := by
  cases ht : token? (skip s) with
  | none =>
    have ht' : token? (skip s') = none := h ▸ ht
    rw [scan_of_none ht, scan_of_none ht', h]
  | some r =>
    obtain ⟨t, rest⟩ := r
    have ht' : token? (skip s') = some (t, rest) := h ▸ ht
    rw [scan_of_some ht, scan_of_some ht']

/-- **The scan sees through the expansion of tabs.** -/
theorem scan_expandTabsFrom (column : Nat) (s : List Char) : ∃ column',
    scan (expandTabsFrom column s) = ((scan s).1, expandTabsFrom column' (scan s).2) := by
  induction s using scan_induction generalizing column with
  | stop s ht =>
    obtain ⟨k, hskip⟩ := skip_expandTabsFrom s column
    obtain ⟨k', htoken⟩ := token?_expandTabsFrom k (skip s)
    rw [← hskip, ht] at htoken
    rw [scan_of_none htoken, scan_of_none ht, hskip]
    exact ⟨k, rfl⟩
  | step s t rest ht ih =>
    obtain ⟨k, hskip⟩ := skip_expandTabsFrom s column
    obtain ⟨k', htoken⟩ := token?_expandTabsFrom k (skip s)
    rw [← hskip, ht] at htoken
    obtain ⟨k'', hrest⟩ := ih k'
    rw [scan_of_some htoken, scan_of_some ht, hrest]
    exact ⟨k'', rfl⟩

end Dump

end LuauDisassembler
