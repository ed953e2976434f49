import LuauDisassembler.DecodeError
import LuauDisassembler.Text.Layout
import LuauDisassembler.Text.Numeral
import LuauDisassembler.Text.WordChar

/-!
# Word dumps

A word dump lists the words of a stream in hexadecimal.  Between its tokens stand blanks, and
comments that begin with `//` or `;` and end before the next line feed.  A token is an address,
which is a run of digits before a colon and stands for nothing, or a word of up to eight digits,
with or without `0x` before them, which no letter, digit or underscore may follow.

Tabs are expanded first.  The scan then takes tokens as long as it can; what is left when it stops
is empty exactly for a well-formed dump, and otherwise tells where the dump goes wrong.

* `Dump.skip`: a text without the blanks and comments at its head.
* `Dump.token?`: the token at the head of a text, an address before a word.
* `Dump.scan`: the words up to the first place where no token begins, and the text from there.
* `Dump.parse`: the words of a dump, or the place where it goes wrong.
-/

namespace LuauDisassembler.Dump

open Text

/-! ## Blanks and comments -/

def isBlank (c : Char) : Bool := c == ' ' || c == '\t' || c == '\r' || c == '\n'

mutual

/-- Drops the blanks and comments at the head of a text. -/
def skip : List Char → List Char
  | [] => []
  | c :: s =>
    if isBlank c then skip s
    else if c = ';' then skipComment s
    else if c = '/' ∧ s.head? = some '/' then skipComment s
    else c :: s

/-- Drops the rest of a comment, and the blanks and comments behind it. -/
def skipComment : List Char → List Char
  | [] => []
  | c :: s => if c = '\n' then skip s else skipComment s

end

/-! ## Tokens -/

/-- A part of a dump that is neither blank nor comment. -/
inductive Token
  | address (digits : List Char)
  | word (digits : List Char)
deriving DecidableEq

/-- The words that a token stands for. -/
def Token.words : Token → List Int
  | address _ => []
  | word digits => [(numberOf 16 digits : Int)]

/-- The greatest number of digits in a word. -/
def wordDigits : Nat := 8

/-- An address at the head of a text, and what follows it. -/
def address? (s : List Char) : Option (Token × List Char) :=
  match s.takeWhile isHexDigit, s.dropWhile isHexDigit with
  | d :: ds, ':' :: rest => some (.address (d :: ds), rest)
  | _, _ => none

/-- The digits of a word at the head of a text, and what follows them. -/
def digits? (s : List Char) : Option (Token × List Char) :=
  let ds := s.takeWhile isHexDigit
  let rest := s.dropWhile isHexDigit
  if 0 < ds.length ∧ ds.length ≤ wordDigits ∧ rest.head?.all (!isWordChar ·) then
    some (.word ds, rest)
  else none

/-- A word at the head of a text, and what follows it. -/
def word? : List Char → Option (Token × List Char)
  | '0' :: x :: s => if x = 'x' ∨ x = 'X' then digits? s else digits? ('0' :: x :: s)
  | s => digits? s

/-- The token at the head of a text, and what follows it. -/
def token? (s : List Char) : Option (Token × List Char) := (address? s).or (word? s)

/-! ## Lengths -/

mutual

theorem length_skip_le : ∀ s, (skip s).length ≤ s.length
  | [] => by simp [skip]
  | c :: s => by
    have h := length_skip_le s
    have h' := length_skipComment_le s
    simp only [skip, List.length_cons]
    split
    · omega
    · split
      · omega
      · split
        · omega
        · simp

theorem length_skipComment_le : ∀ s, (skipComment s).length ≤ s.length
  | [] => by simp [skipComment]
  | c :: s => by
    have h := length_skip_le s
    have h' := length_skipComment_le s
    simp only [skipComment, List.length_cons]
    split <;> omega

end

theorem length_add_length_span (p : Char → Bool) (s : List Char) :
    (s.takeWhile p).length + (s.dropWhile p).length = s.length := by
  rw [← List.length_append, List.takeWhile_append_dropWhile]

theorem length_lt_of_address? {s rest : List Char} {t : Token} (h : address? s = some (t, rest)) :
    rest.length < s.length := by
  have hs := length_add_length_span isHexDigit s
  unfold address? at h
  split at h
  · rename_i ht hd
    cases h
    rw [ht, hd] at hs
    simp only [List.length_cons] at hs
    omega
  · nomatch h

theorem length_lt_of_digits? {s rest : List Char} {t : Token} (h : digits? s = some (t, rest)) :
    rest.length < s.length := by
  have hs := length_add_length_span isHexDigit s
  simp only [digits?, Option.ite_none_right_eq_some, Option.some.injEq, Prod.mk.injEq] at h
  obtain ⟨⟨hp, -, -⟩, -, rfl⟩ := h
  omega

theorem length_lt_of_word? {s rest : List Char} {t : Token} (h : word? s = some (t, rest)) :
    rest.length < s.length := by
  unfold word? at h
  split at h
  · split at h
    · have := length_lt_of_digits? h
      simp only [List.length_cons]
      omega
    · exact length_lt_of_digits? h
  · exact length_lt_of_digits? h

theorem length_lt_of_token? {s rest : List Char} {t : Token} (h : token? s = some (t, rest)) :
    rest.length < s.length := by
  rcases Option.or_eq_some_iff.1 h with h | ⟨-, h⟩
  · exact length_lt_of_address? h
  · exact length_lt_of_word? h

/-! ## Scanning -/

/-- The words up to the first place where no token begins, and the text from that place on. -/
def scan (s : List Char) : List Int × List Char :=
  match _h : token? (skip s) with
  | none => ([], skip s)
  | some (t, rest) =>
    let (words, left) := scan rest
    (t.words ++ words, left)
termination_by s.length
decreasing_by exact Nat.lt_of_lt_of_le (length_lt_of_token? ‹_›) (length_skip_le s)

/-- The words of a dump. -/
def parse (text : String) : Except DecodeError (List Int) :=
  let s := expandTabs text.toList
  match scan s with
  | (words, []) => .ok words
  | (_, left) => .error (.malformedDump (Position.after (s.take (s.length - left.length))))

end LuauDisassembler.Dump
