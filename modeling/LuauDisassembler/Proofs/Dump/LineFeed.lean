import LuauDisassembler.Proofs.Dump.Grammar

/-!
# Dumps line by line

A line feed is a wall in a dump.  It ends a comment, no token holds one, a word may stand before it
as at the end of the text, and tab columns and error columns start anew behind it.  So the scan of
`s ++ '\n' :: t` does with `s` what it would do with `s` alone, and comes to `t` only if nothing of
`s` is left; then it does with `t` what it would do with `t` alone.

As for tabs, each function of the scanner has its own statement, and the loop follows from them.

* `skip_append_lf`, `token?_append_lf`: one step of the scan.
* `scan_append_lf`: the whole scan.
* `parse_eq_error_iff`: where a dump goes wrong, by what the scan leaves.
* `parse_append_lf`: two dumps with a line feed between.
-/

namespace LuauDisassembler

namespace Text

/-! ### Texts with a line feed inside -/

section

variable {α : Type} {p : α → Bool} {c : α}

theorem takeWhile_append_cons (hc : p c = false) (s t : List α) :
    (s ++ c :: t).takeWhile p = s.takeWhile p := by
  induction s with
  | nil => simp [hc]
  | cons d s ih => rw [List.cons_append, List.takeWhile_cons, List.takeWhile_cons, ih]

theorem dropWhile_append_cons (hc : p c = false) (s t : List α) :
    (s ++ c :: t).dropWhile p = s.dropWhile p ++ c :: t := by
  induction s with
  | nil => simp [hc]
  | cons d s ih =>
    rw [List.cons_append, List.dropWhile_cons, List.dropWhile_cons, ih]
    split <;> rfl

end

/-- The line counts on behind a line feed, and the column starts anew. -/
theorem Position.after_append_lf (s t : List Char) : Position.after (s ++ '\n' :: t) =
    ⟨(Position.after t).line + s.count '\n' + 1, (Position.after t).column⟩ := by
  have hline : (s ++ '\n' :: t).count '\n' = t.count '\n' + s.count '\n' + 1 := by
    rw [List.count_append, List.count_cons_self]
    omega
  have hcolumn : (s ++ '\n' :: t).reverse.takeWhile (· != '\n') =
      t.reverse.takeWhile (· != '\n') := by
    rw [List.reverse_append, List.reverse_cons, List.append_assoc, List.singleton_append]
    exact takeWhile_append_cons (by decide) _ _
  simp only [Position.after, hline, hcolumn, Position.mk.injEq, and_true]
  omega

theorem expandTabsFrom_append_lf (column : Nat) (s t : List Char) :
    expandTabsFrom column (s ++ '\n' :: t) = expandTabsFrom column s ++ '\n' :: expandTabs t := by
  induction s generalizing column with
  | nil => simp [expandTabsFrom, expandTabs]
  | cons c s ih =>
    simp only [List.cons_append, expandTabsFrom, ih]
    split
    · exact (List.append_assoc _ _ _).symm
    · split <;> rfl

theorem count_lf_expandTabsFrom (column : Nat) (s : List Char) :
    (expandTabsFrom column s).count '\n' = s.count '\n' := by
  induction s generalizing column with
  | nil => rfl
  | cons c s ih =>
    by_cases hc : c = '\t'
    · obtain ⟨n, column', h⟩ := expandTabsFrom_tab column s
      rw [hc, h, List.count_append, ih, List.count_replicate, List.count_cons]
      simp
    · obtain ⟨column', h⟩ := expandTabsFrom_of_ne hc column s
      rw [h, List.count_cons, List.count_cons, ih]

end Text

namespace Dump

open Text

/-! ### Skipping -/

mutual

/-- Skipping goes over a line feed only if nothing is left before it. -/
theorem skip_append_lf (t : List Char) : ∀ s : List Char,
    skip (s ++ '\n' :: t) = if skip s = [] then skip t else skip s ++ '\n' :: t
  | [] => by simp [skip, isBlank]
  | c :: s => by
    have hhead : (s ++ '\n' :: t).head? = some '/' ↔ s.head? = some '/' := by
      cases s <;> simp
    rw [List.cons_append, skip_cons, skip_cons, if_congr (opensComment_congr c hhead) rfl rfl]
    split
    · exact skip_append_lf t s
    · split
      · exact skipComment_append_lf t s
      · rw [if_neg (by simp)]
        rfl

/-- A comment ends at the line feed, if not before. -/
theorem skipComment_append_lf (t : List Char) : ∀ s : List Char, skipComment (s ++ '\n' :: t) =
    if skipComment s = [] then skip t else skipComment s ++ '\n' :: t
  | [] => by simp [skipComment]
  | c :: s => by
    rw [List.cons_append, skipComment, skipComment]
    by_cases hlf : c = '\n'
    · rw [if_pos hlf, if_pos hlf]
      exact skip_append_lf t s
    · rw [if_neg hlf, if_neg hlf]
      exact skipComment_append_lf t s

end

/-! ### Tokens -/

section

variable (s t : List Char)

theorem address?_append_lf :
    address? (s ++ '\n' :: t) = (address? s).map (Prod.map id (· ++ '\n' :: t)) := by
  unfold address?
  rw [takeWhile_append_cons (by decide), dropWhile_append_cons (by decide)]
  cases s.takeWhile isHexDigit with
  | nil => rfl
  | cons d ds =>
    cases s.dropWhile isHexDigit with
    | nil => rfl
    | cons c rest =>
      by_cases hc : c = ':'
      · subst hc
        rfl
      · simp [hc]

theorem digits?_append_lf :
    digits? (s ++ '\n' :: t) = (digits? s).map (Prod.map id (· ++ '\n' :: t)) := by
  have hlf : isWordChar '\n' = false := by decide
  have hnext : (s.dropWhile isHexDigit ++ '\n' :: t).head?.all (!isWordChar ·) =
      (s.dropWhile isHexDigit).head?.all (!isWordChar ·) := by
    cases s.dropWhile isHexDigit with
    | nil => simp [hlf]
    | cons c rest => rfl
  simp only [digits?, takeWhile_append_cons (p := isHexDigit) (c := '\n') (by decide),
    dropWhile_append_cons (p := isHexDigit) (c := '\n') (by decide), hnext]
  split <;> rfl

theorem word?_append_lf :
    word? (s ++ '\n' :: t) = (word? s).map (Prod.map id (· ++ '\n' :: t)) := by
  rcases word?_cases s with ⟨x, s', rfl, hx, hword⟩ | ⟨hno, hword⟩
  · rw [hword, List.cons_append, List.cons_append, word?, if_pos hx]
    exact digits?_append_lf s' t
  · rw [hword, word?_of_no_mark]
    · exact digits?_append_lf s t
    · -- the line feed may be the second character, but it is no mark either
      intro x s' hs
      cases s with
      | nil => cases hs
      | cons d s =>
        obtain rfl := (List.cons.inj hs).1
        cases s with
        | nil =>
          obtain ⟨rfl, -⟩ := List.cons.inj (List.cons.inj hs).2
          decide
        | cons y s =>
          obtain ⟨rfl, -⟩ := List.cons.inj (List.cons.inj hs).2
          exact hno y s rfl

/-- **A token never reaches over a line feed.** -/
theorem token?_append_lf :
    token? (s ++ '\n' :: t) = (token? s).map (Prod.map id (· ++ '\n' :: t)) := by
  rw [token?, token?, address?_append_lf, word?_append_lf]
  cases address? s <;> rfl

end

/-! ### Scanning -/

/-- What the scan leaves is the end of its text. -/
theorem exists_append_scan (s : List Char) : ∃ pre, s = pre ++ (scan s).2 := by
  induction s using scan_induction with
  | stop s ht =>
    obtain ⟨sep, hs, -⟩ := exists_separator s
    rw [scan_of_none ht]
    exact ⟨sep, hs⟩
  | step s t rest ht ih =>
    obtain ⟨sep, hs, -⟩ := exists_separator s
    obtain ⟨tok, htok, -⟩ := exists_lexeme ht
    obtain ⟨pre, hrest⟩ := ih
    refine ⟨sep ++ tok ++ pre, ?_⟩
    rw [scan_of_some ht, List.append_assoc, ← hrest, List.append_assoc, ← htok]
    exact hs

/-- **The scan goes over a line feed only if nothing is left before it**, and then starts anew. -/
theorem scan_append_lf (s t : List Char) : scan (s ++ '\n' :: t) =
    if (scan s).2 = [] then ((scan s).1 ++ (scan t).1, (scan t).2)
    else ((scan s).1, (scan s).2 ++ '\n' :: t) := by
  induction s using scan_induction with
  | stop s ht =>
    have hskip := skip_append_lf t s
    rw [scan_of_none ht]
    by_cases hnil : skip s = []
    · rw [if_pos hnil] at hskip
      rw [if_pos hnil, scan_congr hskip]
      rfl
    · rw [if_neg hnil] at hskip
      have hnone : token? (skip (s ++ '\n' :: t)) = none := by
        rw [hskip, token?_append_lf, ht]
        rfl
      rw [if_neg hnil, scan_of_none hnone, hskip]
  | step s k rest ht ih =>
    have hne : skip s ≠ [] := by
      intro hnil
      rw [hnil] at ht
      cases ht
    have hskip := skip_append_lf t s
    rw [if_neg hne] at hskip
    have hsome : token? (skip (s ++ '\n' :: t)) = some (k, rest ++ '\n' :: t) := by
      rw [hskip, token?_append_lf, ht]
      rfl
    rw [scan_of_some hsome, scan_of_some ht, ih]
    split
    · rw [List.append_assoc]
    · rfl

/-- Lines that are dumps of their own make a dump of all their words. -/
theorem scan_intercalate_lf {α : Type} {l : List α} {text : α → List Char} {words : α → List Int}
    (h : ∀ a ∈ l, scan (text a) = (words a, [])) :
    scan (['\n'].intercalate (l.map text)) = (l.flatMap words, []) := by
  induction l with
  | nil => exact scan_of_none rfl
  | cons a l ih =>
    obtain ⟨ha, hl⟩ := List.forall_mem_cons.1 h
    cases l with
    | nil => simpa using ha
    | cons b l =>
      rw [List.map_cons, List.map_cons, List.intercalate_cons_cons, List.append_assoc,
        List.singleton_append, scan_append_lf, ha, if_pos rfl, ← List.map_cons, ih hl]
      rfl

/-! ### Dumps -/

theorem scan_expandTabs_of_parse {text : String} {ws : List Int} (h : parse text = .ok ws) :
    (scan (expandTabs text.toList)).2 = [] := by
  obtain ⟨column, hscan⟩ := scan_expandTabsFrom 0 text.toList
  rw [parse_eq_ok_iff_scan] at h
  rw [expandTabs, hscan, h]
  rfl

/-- **Where a dump goes wrong**: behind what the scan has gone over, in the text without tabs. -/
theorem parse_eq_error_iff {text : String} {e : DecodeError} : parse text = .error e ↔
    ∃ pre c left, expandTabs text.toList = pre ++ c :: left ∧
      (scan (expandTabs text.toList)).2 = c :: left ∧ e = .malformedDump (Position.after pre) := by
  obtain ⟨pre, hpre⟩ := exists_append_scan (expandTabs text.toList)
  cases hs : scan (expandTabs text.toList) with
  | mk words left =>
    rw [hs] at hpre
    cases left with
    | nil => simp [parse, hs]
    | cons c left =>
      have htake : (expandTabs text.toList).take
          ((expandTabs text.toList).length - (c :: left).length) = pre := by
        rw [hpre, List.length_append, Nat.add_sub_cancel, List.take_left]
      simp only [parse, hs, htake]
      constructor
      · intro h
        exact ⟨pre, c, left, hpre, rfl, (Except.error.inj h).symm⟩
      · rintro ⟨pre', c', left', hpre', hleft, rfl⟩
        obtain ⟨rfl, rfl⟩ := List.cons.inj hleft
        rw [hpre] at hpre'
        rw [List.append_cancel_right hpre']

/-- **Dumps concatenate line by line.**  An error in the first dump hides the second; an error in
the second one moves down by the lines of the first; and if there is none, the words are those of
the first dump and then those of the second. -/
theorem parse_append_lf (s t : String) :
    match parse s with
    | .ok ws =>
      match parse t with
      | .ok ws' => parse (s ++ "\n" ++ t) = .ok (ws ++ ws')
      | .error (.malformedDump p) => parse (s ++ "\n" ++ t) =
          .error (.malformedDump ⟨p.line + s.toList.count '\n' + 1, p.column⟩)
      | .error _ => False
    | .error (.malformedDump p) => parse (s ++ "\n" ++ t) = .error (.malformedDump p)
    | .error _ => False := by
  have htext : (s ++ "\n" ++ t).toList = s.toList ++ '\n' :: t.toList := by simp
  have htabs : expandTabs (s ++ "\n" ++ t).toList =
      expandTabs s.toList ++ '\n' :: expandTabs t.toList := by
    rw [htext, expandTabs, expandTabsFrom_append_lf]
    rfl
  cases hs : parse s with
  | ok ws =>
    have hleft := scan_expandTabs_of_parse hs
    cases ht : parse t with
    | ok ws' =>
      rw [parse_eq_ok_iff_scan] at hs ht
      exact parse_eq_ok_iff_scan.2 (by rw [htext, scan_append_lf, hs, ht, if_pos rfl])
    | error e =>
      obtain ⟨pre, c, left, hpre, hscan, rfl⟩ := parse_eq_error_iff.1 ht
      refine parse_eq_error_iff.2 ⟨expandTabs s.toList ++ '\n' :: pre, c, left, ?_, ?_, ?_⟩
      · rw [htabs, hpre, List.append_assoc, List.cons_append]
      · rw [htabs, scan_append_lf, if_pos hleft, hscan]
      · rw [Position.after_append_lf, expandTabs, count_lf_expandTabsFrom]
  | error e =>
    obtain ⟨pre, c, left, hpre, hscan, rfl⟩ := parse_eq_error_iff.1 hs
    refine parse_eq_error_iff.2
      ⟨pre, c, left ++ '\n' :: expandTabs t.toList, ?_, ?_, rfl⟩
    · rw [htabs, hpre, List.append_assoc, List.cons_append]
    · rw [htabs, scan_append_lf, if_neg (by rw [hscan]; simp), hscan, List.cons_append]

-- the tab stop and the column are those of the second line alone
example : parse "1 // z\n\tz" = .error (.malformedDump ⟨2, 9⟩) := by decide +kernel

end Dump

end LuauDisassembler
