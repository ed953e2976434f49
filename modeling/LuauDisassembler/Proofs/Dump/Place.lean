import Mathlib.Data.List.DropRight
import LuauDisassembler.Proofs.Dump.LineFeed

/-!
# The place where a dump goes wrong

The scan stops at a position of the text without tabs, and what is reported is a line and a column.
These tell the position: two positions of one text are never in the same line and column.  What has
been gone over until then is a dump of its own, even though the pieces of a dump depend on what
follows them, since a comment that is cut short is still a comment, and a token that may stand
before a text may stand before any beginning of it.  At the position itself nothing begins that
could be a part of a dump.

* `Separator.of_append`, `Lexeme.of_append`: what may stand before a text may stand before its
  beginnings.
* `splits_of_append_scan`: the text that the scan has gone over splits.
* `stuck_of_scan`: what is wrong where the scan stops.
* `Position.Marks.unique`: a line and a column tell one position.
* `exists_place_of_parse_error`: the reported place of a dump that is refused.
-/

namespace LuauDisassembler

namespace Text

/-! ### Lines and columns -/

/-- The place is that of position `p` of the text `u`: lines are counted by the line feeds before the
position, and columns by the characters behind the last of them. -/
structure Position.Marks (place : Position) (u : List Char) (p : Nat) : Prop where
  line_eq : place.line = 1 + (u.take p).count '\n'
  column_eq : place.column = 1 + ((u.take p).rtakeWhile (· != '\n')).length

theorem Position.after_marks (pre left : List Char) :
    (Position.after pre).Marks (pre ++ left) pre.length where
  line_eq := by rw [List.take_left, Position.after]
  column_eq := by rw [List.take_left, Position.after, List.rtakeWhile, List.length_reverse]

theorem length_rtakeWhile_append {t : List Char} (ht : '\n' ∉ t) (s : List Char) :
    ((s ++ t).rtakeWhile (· != '\n')).length =
      (s.rtakeWhile (· != '\n')).length + t.length := by
  have hall : ∀ c ∈ t.reverse, (c != '\n') = true := by
    intro c hc
    exact bne_iff_ne.2 fun e => ht (e ▸ List.mem_reverse.1 hc)
  rw [List.rtakeWhile, List.rtakeWhile, List.length_reverse, List.length_reverse,
    List.reverse_append, List.takeWhile_append_of_pos hall, List.length_append, List.length_reverse,
    Nat.add_comm]

/-- Of two positions in one line the later one has the greater column. -/
theorem Position.Marks.le {place : Position} {u : List Char} {p q : Nat} (hp : place.Marks u p)
    (hq : place.Marks u q) (hle : q ≤ u.length) : q ≤ p := by
  by_contra hlt
  obtain ⟨t, ht⟩ : ∃ t, u.take q = u.take p ++ t :=
    ⟨(u.drop p).take (q - p), by rw [← List.take_add]; congr 1; omega⟩
  have hline := hp.line_eq.symm.trans hq.line_eq
  have hcolumn := hp.column_eq.symm.trans hq.column_eq
  have hlength := congrArg List.length ht
  rw [List.length_append, List.length_take, List.length_take] at hlength
  rw [ht, List.count_append] at hline
  have hlf : '\n' ∉ t := List.count_eq_zero.1 (by omega)
  rw [ht, length_rtakeWhile_append hlf] at hcolumn
  omega

/-- **A line and a column tell one position.** -/
theorem Position.Marks.unique {place : Position} {u : List Char} {p q : Nat}
    (hp : place.Marks u p) (hq : place.Marks u q) (hpu : p ≤ u.length) (hqu : q ≤ u.length) :
    p = q :=
  Nat.le_antisymm (hq.le hp hpu) (hp.le hq hqu)

end Text

namespace Dump

open Text

/-! ### What the scan has gone over -/

theorem Separator.of_append {sep rest more : List Char} (h : Separator sep (rest ++ more)) :
    Separator sep rest := by
  generalize hs : rest ++ more = s at h
  induction h with
  | nil => exact .nil rest
  | blank hc _ ih => exact .blank hc (ih hs)
  | @comment mark body sep _ hmark hbody hend _ ih =>
    refine .comment hmark hbody (fun c hc => hend c ?_) (ih hs)
    rw [← hs, ← List.append_assoc, List.head?_append, hc]
    rfl

theorem Lexeme.of_append {tok rest more : List Char} {ws : List Int}
    (h : Lexeme tok (rest ++ more) ws) : Lexeme tok rest ws := by
  generalize hs : rest ++ more = s at h
  cases h with
  | address _ hne hds => exact .address rest hne hds
  | word hmark hmin hmax hds hrest =>
    refine .word hmark hmin hmax hds fun c hc => hrest c ?_
    rw [← hs, List.head?_append, hc]
    rfl

/-- **The text that the scan has gone over** is a dump of its own. -/
theorem splits_of_append_scan (s : List Char) {pre : List Char} (h : s = pre ++ (scan s).2) :
    Splits pre (scan s).1 := by
  induction s using scan_induction generalizing pre with
  | stop s ht =>
    obtain ⟨sep, hs, hsep⟩ := exists_separator s
    rw [scan_of_none ht] at h ⊢
    obtain rfl : pre = sep := List.append_cancel_right (h.symm.trans hs)
    exact .last (show Separator pre ([] ++ skip s) from hsep).of_append
  | step s t rest ht ih =>
    obtain ⟨sep, hs, hsep⟩ := exists_separator s
    obtain ⟨tok, htok, hlex⟩ := exists_lexeme ht
    obtain ⟨pre', hrest⟩ := exists_append_scan rest
    rw [scan_of_some ht] at h ⊢
    have hwhole : pre ++ (scan rest).2 = sep ++ (tok ++ pre') ++ (scan rest).2 := by
      rw [List.append_assoc, List.append_assoc, ← hrest, ← htok, ← hs]
      exact h.symm
    have hpre : pre = sep ++ (tok ++ pre') := List.append_cancel_right hwhole
    rw [htok, hrest, ← List.append_assoc] at hsep
    rw [hrest] at hlex
    rw [hpre]
    exact .token hsep.of_append hlex.of_append (ih hrest)

/-! ### What is wrong where the scan stops -/

/-- Nothing that belongs to a dump begins at position `p` of the text `u`.  Whether a token begins
there depends on what follows it in `u`. -/
structure Stuck (u : List Char) (p : Nat) : Prop where
  not_blank : ∃ c, u[p]? = some c ∧ c ≠ ' ' ∧ c ≠ '\t' ∧ c ≠ '\r' ∧ c ≠ '\n'
  no_comment : ∀ mark ∈ commentMarks, ¬ mark <+: u.drop p
  no_lexeme : ∀ tok rest ws, u.drop p = tok ++ rest → ¬ Lexeme tok rest ws

theorem skip_skip (s : List Char) : skip (skip s) = skip s := by
  obtain ⟨sep, hs, hsep⟩ := exists_separator s
  rw [← skip_append hsep, ← hs]

/-- What the scan leaves begins with no separator and with no token. -/
theorem skip_scan (s : List Char) : skip (scan s).2 = (scan s).2 ∧ token? (scan s).2 = none := by
  induction s using scan_induction with
  | stop s ht =>
    rw [scan_of_none ht]
    exact ⟨skip_skip s, ht⟩
  | step s t rest ht ih =>
    rw [scan_of_some ht]
    exact ih

theorem isBlank_of_skip_eq {c : Char} {s : List Char} (h : skip (c :: s) = c :: s) :
    isBlank c = false := by
  by_contra hc
  have hlength := length_skip_le s
  rw [skip, if_pos (Bool.eq_true_of_not_eq_false hc)] at h
  rw [h, List.length_cons] at hlength
  omega

theorem not_mark_prefix_of_skip_eq {mark s : List Char} (hmark : mark ∈ commentMarks)
    (h : skip s = s) : ¬ mark <+: s := by
  rintro ⟨t, rfl⟩
  have hpos : 0 < mark.length := (by decide : ∀ m ∈ commentMarks, 0 < m.length) mark hmark
  have hlength := length_skipComment_le t
  rw [skip_mark hmark] at h
  rw [h, List.length_append] at hlength
  omega

/-- A lexeme is never passed over; at worst an address is found in the place of a word. -/
theorem token?_ne_none {tok rest : List Char} {ws : List Int} (h : Lexeme tok rest ws) :
    token? (tok ++ rest) ≠ none := by
  intro hnone
  obtain ⟨haddress, hword⟩ := Option.or_eq_none_iff.1 hnone
  cases h with
  | @address ds _ hne hds =>
    rw [address?_eq_some_iff.2 ⟨ds, hne, hds, List.append_assoc _ _ _, rfl⟩] at haddress
    cases haddress
  | @word mark ds _ hmark hmin hmax hds hrest =>
    rw [List.append_assoc, word?_mark hmark hmin hds hrest,
      digits?_eq_some_iff.2 ⟨ds, ⟨hmin, hmax⟩, hds, hrest, rfl, rfl⟩] at hword
    cases hword

/-- **Where the scan stops nothing begins.** -/
theorem stuck_of_scan {u pre left : List Char} {c : Char} (hu : u = pre ++ c :: left)
    (h : (scan u).2 = c :: left) : Stuck u pre.length := by
  obtain ⟨hskip, htoken⟩ := skip_scan u
  rw [h] at hskip htoken
  have hdrop : u.drop pre.length = c :: left := by rw [hu, List.drop_left]
  refine ⟨⟨c, ?_, ?_⟩, ?_, ?_⟩
  · rw [← List.head?_drop, hdrop, List.head?_cons]
  · have hblank := isBlank_of_skip_eq hskip
    simpa [isBlank, and_assoc] using hblank
  · intro mark hmark
    rw [hdrop]
    exact not_mark_prefix_of_skip_eq hmark hskip
  · intro tok rest ws hsplit hlex
    rw [← hdrop, hsplit] at htoken
    exact token?_ne_none hlex htoken

/-! ### Dumps -/

/-- **The reported place of a dump that is refused** tells one position of the text without tabs.
The text before it is a dump, and at the position there is a character that is not blank and with
which neither a comment nor a token begins. -/
theorem exists_place_of_parse_error {text : String} {u : List Char} {e : DecodeError}
    (hu : expandTabs text.toList = u) (h : parse text = .error e) :
    ∃ place, e = .malformedDump place ∧ (∃! p, p < u.length ∧ place.Marks u p) ∧
      ∀ p, p < u.length → place.Marks u p →
        (∃ ws, parse (String.ofList (u.take p)) = .ok ws) ∧ Stuck u p := by
  obtain ⟨pre, c, left, hpre, hscan, rfl⟩ := parse_eq_error_iff.1 h
  rw [hu] at hpre hscan
  have hlt : pre.length < u.length := by
    rw [hpre, List.length_append, List.length_cons]
    omega
  have hmarks : (Position.after pre).Marks u pre.length := by
    rw [hpre]
    exact Position.after_marks pre (c :: left)
  have hunique : ∀ p, p < u.length ∧ (Position.after pre).Marks u p → p = pre.length := by
    rintro p ⟨hp, hmarks'⟩
    exact hmarks'.unique hmarks hp.le hlt.le
  refine ⟨Position.after pre, rfl, ⟨pre.length, ⟨hlt, hmarks⟩, hunique⟩, ?_⟩
  intro p hp hmarks'
  obtain rfl := hunique p ⟨hp, hmarks'⟩
  have htake : u.take pre.length = pre := by rw [hpre, List.take_left]
  have hsplits : Splits pre (scan u).1 := splits_of_append_scan u (by rw [hscan, ← hpre])
  refine ⟨⟨(scan u).1, ?_⟩, stuck_of_scan hpre hscan⟩
  rw [htake, parse_eq_ok_iff_scan, String.toList_ofList]
  exact scan_of_splits hsplits

/-- A run of nine digits is no word.  It stands behind a comment and a tab, and the column counts the
spaces that take the place of the tab. -/
theorem exists_place_of_nine_digits :
    parse "0: 1 ; z\n\t123456789" = .error (.malformedDump ⟨2, 9⟩) ∧
      (∃ ws, parse (String.ofList ("0: 1 ; z\n        123456789".toList.take 17)) = .ok ws) ∧
      Stuck "0: 1 ; z\n        123456789".toList 17 := by
  have hu : expandTabs "0: 1 ; z\n\t123456789".toList = "0: 1 ; z\n        123456789".toList := by
    decide
  have h : parse "0: 1 ; z\n\t123456789" = .error (.malformedDump ⟨2, 9⟩) := by decide +kernel
  obtain ⟨place, hplace, -, hall⟩ := exists_place_of_parse_error hu h
  obtain rfl := DecodeError.malformedDump.inj hplace
  exact ⟨h, hall 17 (by decide) ⟨by decide, by decide⟩⟩

end Dump

end LuauDisassembler
