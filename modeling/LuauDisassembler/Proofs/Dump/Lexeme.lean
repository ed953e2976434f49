import Mathlib.Data.List.TakeWhile
import LuauDisassembler.Dump
import LuauDisassembler.Proofs.Text.Numeral

/-!
# Separators and tokens of a dump

The words of the grammar of dumps, said without the functions that look for them.  What a piece of
text is may depend on the text behind it: a comment goes on to the end of its line, and a word must
not be followed by a word character.  So each relation has the rest of the text as an argument.

* `Separator sep rest`: `sep` is a run of blanks and comments before `rest`.
* `Lexeme tok rest ws`: `tok` is an address or a word before `rest`, and stands for the words `ws`.
* `skip_append`, `exists_separator`: `skip` removes a separator, and the longest one.
* `token?_append`, `exists_lexeme`: `token?` finds a lexeme if there is one.
-/

namespace LuauDisassembler.Dump

open Text

/-! ### Separators -/

/-- What may open a comment. -/
def commentMarks : List (List Char) := [['/', '/'], [';']]

/-- A run of blanks and comments before the text `rest`.  A comment reaches to the next line feed or
to the end of the text. -/
inductive Separator : List Char → List Char → Prop
  | nil (rest : List Char) : Separator [] rest
  | blank {c : Char} {sep rest : List Char} (hc : isBlank c = true) (h : Separator sep rest) :
      Separator (c :: sep) rest
  | comment {mark body sep rest : List Char} (hmark : mark ∈ commentMarks) (hbody : '\n' ∉ body)
      (hend : ∀ c ∈ (sep ++ rest).head?, c = '\n') (h : Separator sep rest) :
      Separator (mark ++ (body ++ sep)) rest

/-- A comment begins with the character `c` before the text `s`. -/
def OpensComment (c : Char) (s : List Char) : Prop := c = ';' ∨ c = '/' ∧ s.head? = some '/'

instance (c : Char) (s : List Char) : Decidable (OpensComment c s) :=
  inferInstanceAs (Decidable (c = ';' ∨ c = '/' ∧ s.head? = some '/'))

/-- Only the next character decides whether a comment begins. -/
theorem opensComment_congr (c : Char) {s t : List Char}
    (h : s.head? = some '/' ↔ t.head? = some '/') : OpensComment c s ↔ OpensComment c t :=
  or_congr_right (and_congr_right fun _ => h)

theorem skip_cons (c : Char) (s : List Char) : skip (c :: s) =
    if isBlank c then skip s else if OpensComment c s then skipComment s else c :: s := by
  rw [skip]
  by_cases hsemi : c = ';' <;> simp [OpensComment, hsemi]

theorem skipComment_append {body rest : List Char} (hbody : '\n' ∉ body)
    (hend : ∀ c ∈ rest.head?, c = '\n') : skipComment (body ++ rest) = skip rest := by
  induction body with
  | nil =>
    cases rest with
    | nil => simp [skipComment, skip]
    | cons c s =>
      obtain rfl := hend c rfl
      simp [skipComment, skip, isBlank]
  | cons c body ih =>
    obtain ⟨hc, hbody⟩ := not_or.1 (mt List.mem_cons.2 hbody)
    rw [List.cons_append, skipComment, if_neg (fun e => hc e.symm), ih hbody]

theorem skip_mark {mark : List Char} (h : mark ∈ commentMarks) (s : List Char) :
    skip (mark ++ s) = skipComment s := by
  simp only [commentMarks, List.mem_cons, List.not_mem_nil, or_false] at h
  rcases h with rfl | rfl
  · simp [skip, skipComment, isBlank]
  · simp [skip, isBlank]

/-- **Skipping removes a separator.** -/
theorem skip_append {sep rest : List Char} (h : Separator sep rest) :
    skip (sep ++ rest) = skip rest := by
  induction h with
  | nil rest => rfl
  | blank hc _ ih => rw [List.cons_append, skip, if_pos hc, ih]
  | comment hmark hbody hend _ ih =>
    rw [List.append_assoc, List.append_assoc, skip_mark hmark, skipComment_append hbody hend, ih]

mutual

/-- What skipping removes is a separator. -/
theorem exists_separator : ∀ s, ∃ sep, s = sep ++ skip s ∧ Separator sep (skip s)
  | [] => ⟨[], by simp [skip], .nil _⟩
  | c :: s => by
    rw [skip]
    by_cases hc : isBlank c = true
    · obtain ⟨sep, hs, h⟩ := exists_separator s
      rw [if_pos hc]
      exact ⟨c :: sep, by rw [List.cons_append, ← hs], .blank hc h⟩
    · rw [if_neg hc]
      by_cases hsemi : c = ';'
      · obtain ⟨body, sep, hs, hbody, hend, h⟩ := exists_comment s
        rw [if_pos hsemi]
        refine ⟨[';'] ++ (body ++ sep), ?_, .comment (by decide) hbody hend h⟩
        rw [hsemi, List.append_assoc, List.append_assoc, ← hs, List.singleton_append]
      · rw [if_neg hsemi]
        by_cases hslash : c = '/' ∧ s.head? = some '/'
        · obtain ⟨body, sep, hs, hbody, hend, h⟩ := exists_comment s
          rw [if_pos hslash]
          -- the comment that starts at the second slash has that slash as its first character
          obtain ⟨rfl, hhead⟩ := hslash
          cases body with
          | nil =>
            rw [List.nil_append] at hs
            rw [hs] at hhead
            exact absurd (hend '/' hhead) (by decide)
          | cons b body =>
            rw [hs] at hhead
            obtain rfl := Option.some.inj hhead
            refine ⟨['/', '/'] ++ (body ++ sep), ?_, .comment (by decide) ?_ hend h⟩
            · simpa using hs
            · exact fun hn => hbody (List.mem_cons_of_mem _ hn)
        · rw [if_neg hslash]
          exact ⟨[], rfl, .nil _⟩

/-- What skipping the rest of a comment removes is that rest and a separator. -/
theorem exists_comment : ∀ s, ∃ body sep, s = body ++ (sep ++ skipComment s) ∧ '\n' ∉ body ∧
    (∀ c ∈ (sep ++ skipComment s).head?, c = '\n') ∧ Separator sep (skipComment s)
  | [] => ⟨[], [], by simp [skipComment], by simp, by simp [skipComment], .nil _⟩
  | c :: s => by
    rw [skipComment]
    by_cases hc : c = '\n'
    · obtain ⟨sep, hs, h⟩ := exists_separator s
      subst hc
      rw [if_pos rfl]
      refine ⟨[], '\n' :: sep, ?_, by simp, by simp, .blank (by decide) h⟩
      rw [List.nil_append, List.cons_append, ← hs]
    · obtain ⟨body, sep, hs, hbody, hend, h⟩ := exists_comment s
      rw [if_neg hc]
      refine ⟨c :: body, sep, by rw [List.cons_append, ← hs], ?_, hend, h⟩
      exact fun hn => (List.mem_cons.1 hn).elim (fun e => hc e.symm) hbody

end

/-! ### Tokens -/

/-- What may stand before the digits of a word. -/
def wordMarks : List (List Char) := [[], ['0', 'x'], ['0', 'X']]

/-- A token before the text `rest`, and the words that it stands for. -/
inductive Lexeme : List Char → List Char → List Int → Prop
  | address {ds : List Char} (rest : List Char) (hne : ds ≠ [])
      (hds : ∀ c ∈ ds, isHexDigit c = true) : Lexeme (ds ++ [':']) rest []
  | word {mark ds rest : List Char} (hmark : mark ∈ wordMarks) (hmin : 1 ≤ ds.length)
      (hmax : ds.length ≤ 8) (hds : ∀ c ∈ ds, isHexDigit c = true)
      (hrest : ∀ c ∈ rest.head?, isWordChar c = false) :
      Lexeme (mark ++ ds) rest [((Nat.ofDigits 16 (ds.map digitValue).reverse : Nat) : Int)]

theorem isWordChar_of_isHexDigit {c : Char} (h : isHexDigit c = true) : isWordChar c = true := by
  refine isWordChar_of_isAlphanum ?_
  have hc := isHexDigit_iff.1 h
  show (decide ('A'.val ≤ c.val ∧ c.val ≤ 'Z'.val) ||
    (decide ('a'.val ≤ c.val) && decide (c.val ≤ 'z'.val)) || c.isDigit) = true
  simp only [Bool.or_eq_true, Bool.and_eq_true, decide_eq_true_eq, isDigit_iff,
    UInt32.le_iff_toNat_le, Char.toNat_val, Char.reduceVal, UInt32.reduceToNat]
  omega

theorem isHexDigit_of_not_isWordChar {c : Char} (h : isWordChar c = false) :
    isHexDigit c = false := by
  by_contra hhex
  rw [isWordChar_of_isHexDigit (Bool.eq_true_of_not_eq_false hhex)] at h
  cases h

theorem skip_of_isHexDigit {c : Char} (h : isHexDigit c = true) (s : List Char) :
    skip (c :: s) = c :: s := by
  have hne {d : Char} (hd : isHexDigit d = false) : c ≠ d := fun e => by
    rw [e, hd] at h
    cases h
  have hblank : isBlank c = false := by
    simp [isBlank, hne (d := ' ') rfl, hne (d := '\t') rfl, hne (d := '\r') rfl,
      hne (d := '\n') rfl]
  rw [skip, hblank, if_neg (by decide), if_neg (hne rfl), if_neg fun e => hne rfl e.1]

/-- A run of digits at the head of a text, where the digits end behind it. -/
theorem span_digits {ds rest : List Char} (hds : ∀ c ∈ ds, isHexDigit c = true)
    (hrest : ∀ c ∈ rest.head?, isHexDigit c = false) :
    (ds ++ rest).takeWhile isHexDigit = ds ∧ (ds ++ rest).dropWhile isHexDigit = rest := by
  rw [List.takeWhile_append_of_pos hds, List.dropWhile_append_of_pos hds]
  cases rest with
  | nil => simp
  | cons c rest => simp [hrest c rfl]

theorem isHexDigit_head_colon (rest : List Char) :
    ∀ c ∈ (':' :: rest).head?, isHexDigit c = false := by
  intro c hc
  rw [← Option.some.inj hc]
  rfl

theorem address?_eq_some_iff {s rest : List Char} {t : Token} : address? s = some (t, rest) ↔
    ∃ ds, ds ≠ [] ∧ (∀ c ∈ ds, isHexDigit c = true) ∧ s = ds ++ ':' :: rest ∧ t = .address ds := by
  constructor
  · intro h
    unfold address? at h
    split at h
    · rename_i d ds rest' ht hd
      cases h
      refine ⟨d :: ds, by simp, fun c hc => ?_, ?_, rfl⟩
      · exact List.mem_takeWhile_imp (ht ▸ hc)
      · rw [← ht, ← hd, List.takeWhile_append_dropWhile]
    · cases h
  · rintro ⟨ds, hne, hds, rfl, rfl⟩
    obtain ⟨ht, hd⟩ := span_digits hds (isHexDigit_head_colon rest)
    obtain ⟨d, ds, rfl⟩ := List.exists_cons_of_ne_nil hne
    simp only [address?, ht, hd]

theorem digits?_eq_some_iff {s rest : List Char} {t : Token} : digits? s = some (t, rest) ↔
    ∃ ds, (1 ≤ ds.length ∧ ds.length ≤ 8) ∧ (∀ c ∈ ds, isHexDigit c = true) ∧
      (∀ c ∈ rest.head?, isWordChar c = false) ∧ s = ds ++ rest ∧ t = .word ds := by
  constructor
  · intro h
    simp only [digits?, Option.ite_none_right_eq_some, Option.some.injEq, Prod.mk.injEq] at h
    obtain ⟨⟨h1, h8, hrest⟩, rfl, rfl⟩ := h
    refine ⟨_, ⟨h1, h8⟩, fun c hc => List.mem_takeWhile_imp hc, fun c hc => ?_,
      List.takeWhile_append_dropWhile.symm, rfl⟩
    rw [Option.mem_def.1 hc] at hrest
    simpa using hrest
  · rintro ⟨ds, ⟨h1, h8⟩, hds, hrest, rfl, rfl⟩
    obtain ⟨ht, hd⟩ := span_digits hds fun c hc => isHexDigit_of_not_isWordChar (hrest c hc)
    have hnext : rest.head?.all (!isWordChar ·) = true := by
      cases hr : rest.head? with
      | none => rfl
      | some c => simp [hrest c hr]
    simp only [digits?, ht, hd]
    rw [if_pos ⟨h1, h8, hnext⟩]

/-- Without a mark at its head a text is read as digits. -/
theorem word?_of_no_mark {s : List Char} (h : ∀ x s', s = '0' :: x :: s' → x ≠ 'x' ∧ x ≠ 'X') :
    word? s = digits? s := by
  unfold word?
  split
  · rename_i x s'
    rw [if_neg (not_or.2 (h x s' rfl))]
  · rfl

/-- A text begins with a mark, and its word is made of the digits behind it, or it has none. -/
theorem word?_cases (s : List Char) :
    (∃ x s', s = '0' :: x :: s' ∧ (x = 'x' ∨ x = 'X') ∧ word? s = digits? s') ∨
      (∀ x s', s = '0' :: x :: s' → x ≠ 'x' ∧ x ≠ 'X') ∧ word? s = digits? s := by
  by_cases hmark : ∃ x s', s = '0' :: x :: s' ∧ (x = 'x' ∨ x = 'X')
  · obtain ⟨x, s', rfl, hx⟩ := hmark
    exact Or.inl ⟨x, s', rfl, hx, by rw [word?, if_pos hx]⟩
  · have hno : ∀ x s', s = '0' :: x :: s' → x ≠ 'x' ∧ x ≠ 'X' := by
      intro x s' hs
      exact not_or.1 fun hx => hmark ⟨x, s', hs, hx⟩
    exact Or.inr ⟨hno, word?_of_no_mark hno⟩

theorem word?_mark {mark ds rest : List Char} (hmark : mark ∈ wordMarks) (hmin : 1 ≤ ds.length)
    (hds : ∀ c ∈ ds, isHexDigit c = true) (hrest : ∀ c ∈ rest.head?, isWordChar c = false) :
    word? (mark ++ (ds ++ rest)) = digits? (ds ++ rest) := by
  simp only [wordMarks, List.mem_cons, List.not_mem_nil, or_false] at hmark
  rcases hmark with rfl | rfl | rfl
  · refine word?_of_no_mark fun x s' hs => ?_
    -- the second character is a digit or the one behind the digits, and `x` is neither
    have hx : isHexDigit x = true ∨ isWordChar x = false := by
      match ds, hmin with
      | [d], _ =>
        obtain ⟨-, rfl⟩ := List.cons.inj hs
        exact Or.inr (hrest x rfl)
      | d :: d' :: ds, _ =>
        obtain ⟨-, hs⟩ := List.cons.inj hs
        exact Or.inl ((List.cons.inj hs).1 ▸ hds d' (by simp))
    constructor <;> rintro rfl <;> exact absurd hx (by decide)
  · rfl
  · rfl

/-- **A token is a lexeme.** -/
theorem exists_lexeme {s rest : List Char} {t : Token} (h : token? s = some (t, rest)) :
    ∃ tok, s = tok ++ rest ∧ Lexeme tok rest t.words := by
  have hdigits {s : List Char} (mark : List Char) (hmark : mark ∈ wordMarks)
      (h : digits? s = some (t, rest)) :
      ∃ tok, mark ++ s = tok ++ rest ∧ Lexeme tok rest t.words := by
    obtain ⟨ds, ⟨h1, h8⟩, hds, hrest, rfl, rfl⟩ := digits?_eq_some_iff.1 h
    refine ⟨mark ++ ds, (List.append_assoc _ _ _).symm, ?_⟩
    rw [Token.words, numberOf_eq_ofDigits]
    exact .word hmark h1 h8 hds hrest
  rcases Option.or_eq_some_iff.1 h with h | ⟨-, h⟩
  · obtain ⟨ds, hne, hds, rfl, rfl⟩ := address?_eq_some_iff.1 h
    exact ⟨ds ++ [':'], by simp, .address rest hne hds⟩
  · unfold word? at h
    split at h
    · rename_i x s' _
      split at h
      · rename_i hx
        refine hdigits ['0', x] ?_ h
        rcases hx with rfl | rfl <;> decide
      · exact hdigits [] (by decide) h
    · exact hdigits [] (by decide) h

/-- **A lexeme is found**, unless a colon makes an address of what was meant to be a word. -/
theorem token?_append {tok rest : List Char} {ws : List Int} (h : Lexeme tok rest ws)
    (hcolon : rest.head? ≠ some ':') :
    ∃ t, token? (tok ++ rest) = some (t, rest) ∧ t.words = ws := by
  cases h with
  | @address ds _ hne hds =>
    refine ⟨.address ds, ?_, rfl⟩
    rw [token?, address?_eq_some_iff.2 ⟨ds, hne, hds, List.append_assoc _ _ _, rfl⟩, Option.some_or]
    rfl
  | @word mark ds _ hmark hmin hmax hds hrest =>
    have hword : word? (mark ++ ds ++ rest) = some (.word ds, rest) := by
      rw [List.append_assoc, word?_mark hmark hmin hds hrest]
      exact digits?_eq_some_iff.2 ⟨ds, ⟨hmin, hmax⟩, hds, hrest, rfl, rfl⟩
    have haddress : address? (mark ++ ds ++ rest) = none := by
      rw [Option.eq_none_iff_forall_ne_some]
      rintro ⟨t, rest'⟩ ha
      obtain ⟨ds', -, hds', hs, -⟩ := address?_eq_some_iff.1 ha
      have hdrop := (span_digits hds' (isHexDigit_head_colon rest')).2
      rw [← hs] at hdrop
      simp only [wordMarks, List.mem_cons, List.not_mem_nil, or_false] at hmark
      rcases hmark with rfl | rfl | rfl
      · rw [List.nil_append, (span_digits hds fun c hc =>
          isHexDigit_of_not_isWordChar (hrest c hc)).2] at hdrop
        exact hcolon (by rw [hdrop]; rfl)
      · simp [isHexDigit] at hdrop
      · simp [isHexDigit] at hdrop
    refine ⟨.word ds, by rw [token?, haddress, Option.none_or, hword], ?_⟩
    rw [Token.words, numberOf_eq_ofDigits]

end LuauDisassembler.Dump
