import LuauDisassembler.Proofs.Dump.Place

/-!
# Line ends in a dump

A dump may have its line ends written as CR LF.  A CR is a blank and a part of no token; it does
not end a comment and does not begin a line, but the line feed behind it does both, and where tab
columns begin anew at the CR they would do so at the line feed anyway.  So with the CRs left out
each function of the scanner does the same, and an error is in the same line and column, since no CR
can be in its line before it.

`Crlf s t` relates a text with such line ends to the text without its CRs.  As for tabs, each
function has its own statement, and the loop follows from them.

* `crlf_lfForCrlf`: a text in which a line feed follows each CR, and its copy.
* `Crlf.expandTabsFrom`, `skip_and_skipComment_crlf`, `token?_crlf`: tabs, and one step of the scan.
* `scan_crlf`: the whole scan.
* `Crlf.after_eq`: the place behind a text.
* `parse_lfForCrlf`: a dump and its copy.
-/

namespace LuauDisassembler

namespace Text

/-- Each CR of the text is immediately followed by LF. -/
def CrBeforeLf (s : List Char) : Prop := ∀ i < s.length, s[i]? = some '\r' → s[i + 1]? = some '\n'

instance (s : List Char) : Decidable (CrBeforeLf s) :=
  inferInstanceAs (Decidable (∀ i < s.length, s[i]? = some '\r' → s[i + 1]? = some '\n'))

/-- The text with LF in the place of each CR LF. -/
def lfForCrlf : List Char → List Char
  | [] => []
  | '\r' :: '\n' :: s => '\n' :: lfForCrlf s
  | c :: s => c :: lfForCrlf s

/-- The second text is the first with LF for each CR LF, and the first has no other CR. -/
inductive Crlf : List Char → List Char → Prop
  | nil : Crlf [] []
  | lineEnd {s t : List Char} (h : Crlf s t) : Crlf ('\r' :: '\n' :: s) ('\n' :: t)
  | char {c : Char} {s t : List Char} (hc : c ≠ '\r') (h : Crlf s t) : Crlf (c :: s) (c :: t)

theorem CrBeforeLf.of_cons {c : Char} {s : List Char} (h : CrBeforeLf (c :: s)) :
    CrBeforeLf s := by
  intro i hi hcr
  have := h (i + 1) (by simpa using hi)
  rw [List.getElem?_cons_succ, List.getElem?_cons_succ] at this
  exact this hcr

theorem CrBeforeLf.head?_eq {s : List Char} (h : CrBeforeLf ('\r' :: s)) :
    s.head? = some '\n' := by
  have := h 0 (by simp) rfl
  rwa [List.getElem?_cons_succ, ← List.head?_eq_getElem?] at this

/-- **A text in which a line feed follows each CR**, and its copy. -/
theorem crlf_lfForCrlf (s : List Char) (h : CrBeforeLf s) : Crlf s (lfForCrlf s) := by
  fun_induction lfForCrlf s with
  | case1 => exact .nil
  | case2 s ih => exact .lineEnd (ih h.of_cons.of_cons)
  | case3 c s hno ih =>
    refine .char ?_ (ih h.of_cons)
    rintro rfl
    obtain ⟨s', rfl⟩ := List.head?_eq_some_iff.1 h.head?_eq
    exact hno s' rfl rfl

namespace Crlf

variable {s t : List Char}

theorem eq_nil_iff (h : Crlf s t) : s = [] ↔ t = [] := by
  cases h <;> simp

theorem exists_of_cons_left {c : Char} (h : Crlf (c :: s) t) (hc : c ≠ '\r') :
    ∃ t', t = c :: t' ∧ Crlf s t' := by
  cases h with
  | lineEnd h => exact absurd rfl hc
  | char _ h => exact ⟨_, rfl, h⟩

theorem exists_of_cons_right {c : Char} (h : Crlf s (c :: t)) (hc : c ≠ '\n') :
    ∃ s', s = c :: s' ∧ Crlf s' t := by
  cases h with
  | lineEnd h => exact absurd rfl hc
  | char _ h => exact ⟨_, rfl, h⟩

/-- Apart from line ends the heads are the same. -/
theorem head?_eq_some_iff (h : Crlf s t) {c : Char} (hcr : c ≠ '\r') (hlf : c ≠ '\n') :
    s.head? = some c ↔ t.head? = some c := by
  cases h with
  | nil => rfl
  | lineEnd h => simp [hcr.symm, hlf.symm]
  | char _ h => rfl

theorem all_head? (h : Crlf s t) {p : Char → Bool} (hcr : p '\r' = true) (hlf : p '\n' = true) :
    s.head?.all p = t.head?.all p := by
  cases h with
  | nil => rfl
  | lineEnd h => simp [hcr, hlf]
  | char _ h => rfl

theorem refl_of_no_cr (h : '\r' ∉ s) : Crlf s s := by
  induction s with
  | nil => exact .nil
  | cons c s ih =>
    obtain ⟨hc, hs⟩ := not_or.1 (mt List.mem_cons.2 h)
    exact .char (fun e => hc e.symm) (ih hs)

theorem append {s' t' : List Char} (h : Crlf s t) (h' : Crlf s' t') : Crlf (s ++ s') (t ++ t') := by
  induction h with
  | nil => exact h'
  | lineEnd _ ih => exact .lineEnd ih
  | char hc _ ih => exact .char hc ih

/-- The copy is determined by the text. -/
theorem unique {t' : List Char} (h : Crlf s t) (h' : Crlf s t') : t = t' := by
  induction h generalizing t' with
  | nil =>
    cases h'
    rfl
  | lineEnd _ ih =>
    cases h' with
    | lineEnd h' => rw [ih h']
    | char hc _ => exact absurd rfl hc
  | char hc _ ih =>
    obtain ⟨t'', rfl, h''⟩ := h'.exists_of_cons_left hc
    rw [ih h'']

/-- A text can be cut anywhere but inside a line end. -/
theorem exists_append {pre rest : List Char} (h : Crlf (pre ++ rest) t)
    (hrest : rest.head? ≠ some '\n') : ∃ pre' t', t = pre' ++ t' ∧ Crlf pre pre' ∧ Crlf rest t' := by
  generalize hs : pre ++ rest = s at h
  induction h generalizing pre with
  | nil =>
    obtain ⟨rfl, rfl⟩ := List.append_eq_nil_iff.1 hs
    exact ⟨[], [], rfl, .nil, .nil⟩
  | @lineEnd s t h ih =>
    cases pre with
    | nil =>
      obtain rfl : rest = '\r' :: '\n' :: s := hs
      exact ⟨[], '\n' :: t, rfl, .nil, .lineEnd h⟩
    | cons d pre =>
      obtain ⟨rfl, hs'⟩ := List.cons.inj hs
      cases pre with
      | nil =>
        obtain rfl : rest = '\n' :: s := hs'
        exact absurd rfl hrest
      | cons d pre =>
        obtain ⟨rfl, hs''⟩ := List.cons.inj hs'
        obtain ⟨pre', t', rfl, hpre, ht⟩ := ih hs''
        exact ⟨'\n' :: pre', t', rfl, .lineEnd hpre, ht⟩
  | @char c s t hc h ih =>
    cases pre with
    | nil =>
      obtain rfl : rest = c :: s := hs
      exact ⟨[], c :: t, rfl, .nil, .char hc h⟩
    | cons d pre =>
      obtain ⟨rfl, hs'⟩ := List.cons.inj hs
      obtain ⟨pre', t', rfl, hpre, ht⟩ := ih hs'
      exact ⟨d :: pre', t', rfl, .char hc hpre, ht⟩

/-! ### Tabs and runs of characters -/

/-- Tab columns begin anew at a line end, however it is written. -/
theorem expandTabsFrom (h : Crlf s t) (column : Nat) :
    Crlf (expandTabsFrom column s) (expandTabsFrom column t) := by
  induction h generalizing column with
  | nil => exact .nil
  | lineEnd h ih => exact .lineEnd (ih 0)
  | @char c s t hc h ih =>
    rw [Text.expandTabsFrom, Text.expandTabsFrom]
    by_cases htab : c = '\t'
    · rw [if_pos htab, if_pos htab]
      exact (refl_of_no_cr (by simp [List.mem_replicate])).append (ih _)
    · rw [if_neg htab, if_neg htab]
      split
      · exact .char hc (ih 0)
      · exact .char hc (ih (column + 1))

/-- A run of characters that are no line ends is the same in both texts. -/
theorem span (h : Crlf s t) {p : Char → Bool} (hcr : p '\r' = false) (hlf : p '\n' = false) :
    s.takeWhile p = t.takeWhile p ∧ Crlf (s.dropWhile p) (t.dropWhile p) := by
  induction h with
  | nil => exact ⟨rfl, .nil⟩
  | lineEnd h _ => simpa [hcr, hlf] using .lineEnd h
  | @char c s t hc h ih =>
    rw [List.takeWhile_cons, List.takeWhile_cons, List.dropWhile_cons, List.dropWhile_cons]
    by_cases hp : p c = true
    · rw [if_pos hp, if_pos hp, if_pos hp, if_pos hp, ih.1]
      exact ⟨rfl, ih.2⟩
    · rw [if_neg hp, if_neg hp, if_neg hp, if_neg hp]
      exact ⟨rfl, .char hc h⟩

/-! ### Places -/

end Crlf

theorem Position.after_cons {c : Char} (hc : c ≠ '\n') (s : List Char) : Position.after (c :: s) =
    ⟨(Position.after s).line,
      if '\n' ∈ s then (Position.after s).column else (Position.after s).column + 1⟩ := by
  have hline : (c :: s).count '\n' = s.count '\n' := List.count_cons_of_ne hc
  simp only [Position.after, hline, List.reverse_cons, Position.mk.injEq, true_and]
  split
  · rename_i hmem
    obtain ⟨l, l', hl⟩ := List.append_of_mem (List.mem_reverse.2 hmem)
    rw [hl, List.append_assoc, List.cons_append, takeWhile_append_cons (by decide),
      takeWhile_append_cons (by decide)]
  · rename_i hmem
    have hall : ∀ d ∈ s.reverse, (d != '\n') = true := fun d hd =>
      bne_iff_ne.2 fun e => hmem (e ▸ List.mem_reverse.1 hd)
    rw [List.takeWhile_append_of_pos hall, List.takeWhile_eq_self_iff.2 hall]
    simp [hc]
    omega

namespace Crlf

variable {s t : List Char}

theorem mem_lf_iff (h : Crlf s t) : '\n' ∈ s ↔ '\n' ∈ t := by
  induction h with
  | nil => rfl
  | lineEnd _ _ => simp
  | char _ _ ih => rw [List.mem_cons, List.mem_cons, ih]

/-- **The place behind a text** does not depend on how its line ends are written. -/
theorem after_eq (h : Crlf s t) : Position.after s = Position.after t := by
  induction h with
  | nil => rfl
  | @lineEnd s t _ ih =>
    have hcr := Position.after_append_lf ['\r'] s
    have hlf := Position.after_append_lf [] t
    rw [← ih] at hlf
    exact hcr.trans hlf.symm
  | @char c s t _ h ih =>
    by_cases hc : c = '\n'
    · subst hc
      have hs := Position.after_append_lf [] s
      have ht := Position.after_append_lf [] t
      rw [← ih] at ht
      exact hs.trans ht.symm
    · rw [Position.after_cons hc, Position.after_cons hc, ih, if_congr h.mem_lf_iff rfl rfl]

end Crlf

end Text

namespace Dump

open Text

variable {s t : List Char}

/-! ### Skipping -/

/-- A CR is skipped as a blank, or with the comment that it stands in; the line feed behind it ends
both. -/
theorem skip_and_skipComment_crlf (h : Crlf s t) :
    Crlf (skip s) (skip t) ∧ Crlf (skipComment s) (skipComment t) := by
  induction h with
  | nil => exact ⟨.nil, .nil⟩
  | lineEnd _ ih => exact ⟨ih.1, ih.1⟩
  | @char c s t hc h ih =>
    have hhead : s.head? = some '/' ↔ t.head? = some '/' :=
      h.head?_eq_some_iff (by decide) (by decide)
    constructor
    · rw [skip_cons, skip_cons, if_congr (opensComment_congr c hhead) rfl rfl]
      split
      · exact ih.1
      · split
        · exact ih.2
        · exact .char hc h
    · rw [skipComment, skipComment]
      by_cases hlf : c = '\n'
      · rw [if_pos hlf, if_pos hlf]
        exact ih.1
      · rw [if_neg hlf, if_neg hlf]
        exact ih.2

/-! ### Tokens -/

/-- The same token, before a text and its copy. -/
def SameToken : Option (Token × List Char) → Option (Token × List Char) → Prop :=
  Option.Rel fun r r' => r.1 = r'.1 ∧ Crlf r.2 r'.2

theorem address?_crlf (h : Crlf s t) : SameToken (address? s) (address? t) := by
  obtain ⟨htake, hdrop⟩ := h.span (p := isHexDigit) rfl rfl
  unfold address?
  rw [htake]
  cases t.takeWhile isHexDigit with
  | nil => exact .none
  | cons d ds =>
    generalize s.dropWhile isHexDigit = s' at hdrop ⊢
    generalize t.dropWhile isHexDigit = t' at hdrop ⊢
    cases hdrop with
    | nil => exact .none
    | lineEnd h => exact .none
    | @char c s' t' hc h =>
      by_cases hcolon : c = ':'
      · subst hcolon
        exact .some ⟨rfl, h⟩
      · have hnone : SameToken none none := .none
        simpa [hcolon] using hnone

theorem digits?_crlf (h : Crlf s t) : SameToken (digits? s) (digits? t) := by
  obtain ⟨htake, hdrop⟩ := h.span (p := isHexDigit) rfl rfl
  have hnext : (s.dropWhile isHexDigit).head?.all (!isWordChar ·) =
      (t.dropWhile isHexDigit).head?.all (!isWordChar ·) :=
    hdrop.all_head? (by decide) (by decide)
  simp only [digits?, htake, hnext]
  split
  · exact .some ⟨rfl, hdrop⟩
  · exact .none

theorem word?_crlf (h : Crlf s t) : SameToken (word? s) (word? t) := by
  rcases word?_cases s with ⟨x, s', rfl, hx, hword⟩ | ⟨hno, hword⟩
  · have hcr : x ≠ '\r' := by rcases hx with rfl | rfl <;> decide
    obtain ⟨t', rfl, h'⟩ := h.exists_of_cons_left (by decide)
    obtain ⟨t'', rfl, h''⟩ := h'.exists_of_cons_left hcr
    rw [hword, word?, if_pos hx]
    exact digits?_crlf h''
  · rw [hword, word?_of_no_mark]
    · exact digits?_crlf h
    · intro x t' ht
      subst ht
      obtain ⟨s', rfl, h'⟩ := h.exists_of_cons_right (by decide)
      by_cases hlf : x = '\n'
      · subst hlf
        decide
      · obtain ⟨s'', rfl, -⟩ := h'.exists_of_cons_right hlf
        exact hno x s'' rfl

/-- **A token holds no line end.** -/
theorem token?_crlf (h : Crlf s t) : SameToken (token? s) (token? t) := by
  have ha := address?_crlf h
  have hw := word?_crlf h
  rw [token?, token?]
  generalize address? s = r at ha
  generalize address? t = r' at ha
  cases ha with
  | none => exact hw
  | some ha => exact .some ha

/-! ### Scanning -/

/-- **The scan takes the same words from a text and its copy.** -/
theorem scan_crlf (s : List Char) {t : List Char} (h : Crlf s t) :
    (scan s).1 = (scan t).1 ∧ Crlf (scan s).2 (scan t).2 := by
  induction s using scan_induction generalizing t with
  | stop s hs =>
    have hskip := (skip_and_skipComment_crlf h).1
    have htoken := token?_crlf hskip
    rw [hs] at htoken
    generalize ht : token? (skip t) = r at htoken
    cases htoken
    rw [scan_of_none hs, scan_of_none ht]
    exact ⟨rfl, hskip⟩
  | step s k rest hs ih =>
    have htoken := token?_crlf (skip_and_skipComment_crlf h).1
    rw [hs] at htoken
    generalize ht : token? (skip t) = r at htoken
    cases htoken with
    | @some _ q hq =>
      obtain ⟨k', rest'⟩ := q
      obtain ⟨rfl, hrest⟩ := hq
      obtain ⟨hwords, hleft⟩ := ih hrest
      rw [scan_of_some hs, scan_of_some ht, hwords]
      exact ⟨rfl, hleft⟩

/-! ### Dumps -/

theorem parse_crlf {text copy : String} (h : Crlf text.toList copy.toList) :
    parse text = parse copy := by
  cases ht : parse text with
  | ok ws =>
    obtain ⟨hwords, hleft⟩ := scan_crlf text.toList h
    rw [parse_eq_ok_iff_scan.1 ht] at hwords hleft
    refine (parse_eq_ok_iff_scan.2 (Prod.ext hwords.symm ?_)).symm
    exact hleft.eq_nil_iff.1 rfl
  | error e =>
    obtain ⟨pre, c, left, hpre, hscan, rfl⟩ := parse_eq_error_iff.1 ht
    have hblank : isBlank c = false := isBlank_of_skip_eq (hscan ▸ (skip_scan _).1)
    have hcr : c ≠ '\r' := fun e => absurd hblank (e ▸ by decide)
    have hlf : c ≠ '\n' := fun e => absurd hblank (e ▸ by decide)
    -- the copy is cut where the text is, and what is behind the cut is what the scan leaves of it
    have htabs := h.expandTabsFrom 0
    obtain ⟨-, hleft⟩ := scan_crlf _ htabs
    rw [← expandTabs, ← expandTabs, hscan] at hleft
    rw [← expandTabs, ← expandTabs, hpre] at htabs
    obtain ⟨pre', rest, hcopy, hpre', hrest⟩ := htabs.exists_append (by simpa using hlf)
    obtain ⟨left', rfl, -⟩ := hrest.exists_of_cons_left hcr
    rw [hpre'.after_eq]
    exact (parse_eq_error_iff.2 ⟨pre', c, left', hcopy, hleft.unique hrest, rfl⟩).symm

/-- **Dumps with line ends CR LF** are read like their copies with LF: the words are the same, or the
line and the column of the error. -/
theorem parse_lfForCrlf (text : String) (h : CrBeforeLf text.toList) :
    parse (String.ofList (lfForCrlf text.toList)) = parse text := by
  refine (parse_crlf ?_).symm
  rw [String.toList_ofList]
  exact crlf_lfForCrlf text.toList h

/-- A comment with a CR at its end, and a tab and an error behind it. -/
theorem parse_lfForCrlf_comment :
    parse "1 ; z\n\t/ 2\n" = parse "1 ; z\r\n\t/ 2\r\n" ∧
      parse "1 ; z\r\n\t/ 2\r\n" = .error (.malformedDump ⟨2, 9⟩) := by
  have h : CrBeforeLf "1 ; z\r\n\t/ 2\r\n".toList := by decide
  have hcopy : String.ofList (lfForCrlf "1 ; z\r\n\t/ 2\r\n".toList) = "1 ; z\n\t/ 2\n" := by decide
  have hparse := parse_lfForCrlf "1 ; z\r\n\t/ 2\r\n" h
  rw [hcopy] at hparse
  exact ⟨hparse, by decide +kernel⟩

end Dump

end LuauDisassembler
