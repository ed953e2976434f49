import LuauDisassembler.Proofs.Dump.Tabs

/-!
# The grammar of dumps

A dump is a separator, a token, a separator, a token, and so on, with a separator at its end
(`Splits`).  The grammar allows more than one way to go on, and the scan tries one: it takes the
longest separator, and an address before a word.  Both choices are forced.  A token begins with a
digit, which no separator can hold outside of a comment, and a word before a colon leaves a text
that begins with nothing (`Splits.head?_ne_colon`).

* `scan_eq_iff`: the scan comes to the end of a text exactly when the text splits.
* `parse_eq_ok_iff`: a dump is accepted exactly when its text splits, tabs as they are written, and
  its words are those of the tokens.
-/

namespace LuauDisassembler.Dump

open Text

/-- The text is a separator, a token, a separator, …, a token, a separator, and its tokens stand for
the given words. -/
inductive Splits : List Char → List Int → Prop
  | last {sep : List Char} (h : Separator sep []) : Splits sep []
  | token {sep tok rest : List Char} {ws ws' : List Int} (hsep : Separator sep (tok ++ rest))
      (htok : Lexeme tok rest ws) (h : Splits rest ws') : Splits (sep ++ (tok ++ rest)) (ws ++ ws')

/-! ### What the pieces begin with -/

theorem Lexeme.exists_head {tok rest : List Char} {ws : List Int} (h : Lexeme tok rest ws) :
    ∃ c s, tok = c :: s ∧ isHexDigit c = true := by
  cases h with
  | @address ds _ hne hds =>
    obtain ⟨d, ds, rfl⟩ := List.exists_cons_of_ne_nil hne
    exact ⟨d, ds ++ [':'], rfl, hds d List.mem_cons_self⟩
  | @word mark ds _ hmark hmin _ hds _ =>
    obtain ⟨d, ds, rfl⟩ := List.exists_cons_of_ne_nil (List.ne_nil_of_length_pos hmin)
    simp only [wordMarks, List.mem_cons, List.not_mem_nil, or_false] at hmark
    rcases hmark with rfl | rfl | rfl
    · exact ⟨d, ds, rfl, hds d List.mem_cons_self⟩
    · exact ⟨'0', _, rfl, by decide⟩
    · exact ⟨'0', _, rfl, by decide⟩

/-- **One step of the scan**: behind a separator the next token begins. -/
theorem skip_token {sep tok rest : List Char} {ws : List Int} (hsep : Separator sep (tok ++ rest))
    (htok : Lexeme tok rest ws) : skip (sep ++ (tok ++ rest)) = tok ++ rest := by
  obtain ⟨c, s, rfl, hc⟩ := htok.exists_head
  rw [skip_append hsep, List.cons_append, skip_of_isHexDigit hc]

/-- No text that splits begins with a colon: skipping leaves it there, where a token or the end of
the text would have to be. -/
theorem Splits.head?_ne_colon {s : List Char} {ws : List Int} (h : Splits s ws) :
    s.head? ≠ some ':' := by
  intro hcolon
  have hskip : skip s = s := by
    obtain ⟨t, rfl⟩ := List.head?_eq_some_iff.1 hcolon
    simp [skip, isBlank]
  cases h with
  | last h =>
    rw [← List.append_nil s, skip_append h, skip, List.append_nil] at hskip
    rw [← hskip] at hcolon
    cases hcolon
  | @token sep tok rest ws ws' hsep htok h =>
    rw [skip_token hsep htok] at hskip
    obtain ⟨c, s, rfl, hc⟩ := htok.exists_head
    rw [← hskip] at hcolon
    obtain rfl := Option.some.inj hcolon
    exact absurd hc (by decide)

/-! ### The scan -/

/-- A separator at the head of a text is nothing to the scan. -/
theorem scan_separator {sep rest : List Char} (h : Separator sep rest) :
    scan (sep ++ rest) = scan rest := scan_congr (skip_append h)

/-- **The scan takes a token** with the separator before it, and goes on behind. -/
theorem scan_token {sep tok rest : List Char} {ws : List Int} (hsep : Separator sep (tok ++ rest))
    (htok : Lexeme tok rest ws) (hcolon : rest.head? ≠ some ':') :
    scan (sep ++ (tok ++ rest)) = (ws ++ (scan rest).1, (scan rest).2) := by
  obtain ⟨t, ht, rfl⟩ := token?_append htok hcolon
  rw [← skip_token hsep htok] at ht
  exact scan_of_some ht

theorem splits_of_scan (s : List Char) (h : (scan s).2 = []) : Splits s (scan s).1 := by
  induction s using scan_induction with
  | stop s ht =>
    obtain ⟨sep, hs, hsep⟩ := exists_separator s
    have hnil : skip s = [] := by rwa [scan_of_none ht] at h
    rw [hnil, List.append_nil] at hs
    rw [hnil, ← hs] at hsep
    rw [scan_of_none ht]
    exact .last hsep
  | step s t rest ht ih =>
    obtain ⟨sep, hs, hsep⟩ := exists_separator s
    obtain ⟨tok, htok, hlex⟩ := exists_lexeme ht
    rw [scan_of_some ht] at h ⊢
    rw [htok] at hs hsep
    rw [hs]
    exact .token hsep hlex (ih h)

theorem scan_of_splits {s : List Char} {ws : List Int} (h : Splits s ws) : scan s = (ws, []) := by
  induction h with
  | @last sep h =>
    rw [← List.append_nil sep, scan_separator h]
    exact scan_of_none rfl
  | token hsep htok h ih => rw [scan_token hsep htok h.head?_ne_colon, ih]

/-- **The scan decides the grammar.** -/
theorem scan_eq_iff {s : List Char} {ws : List Int} : scan s = (ws, []) ↔ Splits s ws := by
  refine ⟨fun h => ?_, scan_of_splits⟩
  have := splits_of_scan s (by rw [h])
  rwa [h] at this

/-! ### Words -/

theorem Lexeme.words_lt {tok rest : List Char} {ws : List Int} (h : Lexeme tok rest ws) :
    ∀ w ∈ ws, 0 ≤ w ∧ w < 4294967296 := by
  cases h with
  | address => simp
  | @word mark ds _ _ _ hmax hds _ =>
    intro w hw
    obtain rfl := List.mem_singleton.1 hw
    rw [← numberOf_eq_ofDigits]
    have hlt := numberOf_lt hds
    have hpow : 16 ^ ds.length ≤ 16 ^ 8 := Nat.pow_le_pow_right (by decide) hmax
    omega

theorem Splits.words_lt {s : List Char} {ws : List Int} (h : Splits s ws) :
    ∀ w ∈ ws, 0 ≤ w ∧ w < 4294967296 := by
  induction h with
  | last => simp
  | token _ htok _ ih =>
    intro w hw
    exact (List.mem_append.1 hw).elim (htok.words_lt w) (ih w)

/-! ### Dumps -/

theorem parse_eq_ok_iff_scan {text : String} {ws : List Int} :
    parse text = .ok ws ↔ scan text.toList = (ws, []) := by
  obtain ⟨column, hscan⟩ := scan_expandTabsFrom 0 text.toList
  cases hs : scan text.toList with
  | mk words left =>
    rw [hs] at hscan
    simp only [parse, expandTabs, hscan]
    cases left with
    | nil => simp [expandTabsFrom]
    | cons c left =>
      have hne : expandTabsFrom column (c :: left) ≠ [] := mt expandTabsFrom_eq_nil_iff.1 (by simp)
      obtain ⟨d, left', hd⟩ := List.exists_cons_of_ne_nil hne
      simp [hd]

/-- **A dump is accepted exactly if its text follows the grammar**, and then its words are those of
its tokens.  So every word of a dump fits into 32 bits. -/
theorem parse_eq_ok_iff (text : String) (ws : List Int) :
    (parse text = .ok ws ↔ Splits text.toList ws) ∧
      (parse text = .ok ws → ∀ w ∈ ws, 0 ≤ w ∧ w < 4294967296) := by
  have hiff : parse text = .ok ws ↔ Splits text.toList ws := by
    rw [parse_eq_ok_iff_scan, scan_eq_iff]
  exact ⟨hiff, fun h => (hiff.1 h).words_lt⟩

end LuauDisassembler.Dump
