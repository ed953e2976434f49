import LuauDisassembler.Proofs.Dump.LineFeed
import LuauDisassembler.Proofs.Listing.Line
import LuauDisassembler.Proofs.Stream.Tiling

/-!
# Listings as dumps

A line that shows the words of its instruction, but not the position, begins with the column of the
words, and this column is the beginning of a dump.  A semicolon behind it makes a comment of the
name and the operands, and so the whole listing becomes a dump of the words that were listed.

The words have to fit into 32 bits.  Then each of them is written in eight digits, one or two of
them fill the column exactly, and no row can be taken for an address or a longer word.

* `Instruction.lexeme_rawWord`: a word of the column is a word of a dump.
* `Instruction.line_eq_append`: a line is the column of the words and the line without it.
* `Instruction.scan_row`: a line with its semicolon is a dump of the words of its instruction.
* `Listing.parse_asDump`: the listing of a stream, read as a dump, gives the stream.
-/

namespace LuauDisassembler

open Text

theorem Text.numberOf_map_toUpper {b : Nat} {ds : List Char}
    (h : ∀ c ∈ ds, ∃ d < 16, d.digitChar = c) :
    numberOf b (ds.map Char.toUpper) = numberOf b ds := by
  have hvalue : ∀ d < 16, digitValue d.digitChar.toUpper = digitValue d.digitChar := by decide
  rw [numberOf_eq_ofDigits, numberOf_eq_ofDigits, List.map_map]
  congr 2
  refine List.map_congr_left fun c hc => ?_
  obtain ⟨d, hd, rfl⟩ := h c hc
  exact hvalue d hd

namespace Instruction

/-! ### Words in eight digits -/

section

variable {w : Int}

theorem rawWord_of_nonneg (h : 0 ≤ w) :
    rawWord w = ((Nat.toDigits 16 w.natAbs).leftpad 8 '0').map Char.toUpper := by
  rw [rawWord, numeral_of_nonneg h]
  rfl

theorem numberOf_rawWord (h : 0 ≤ w) : (numberOf 16 (rawWord w) : Int) = w := by
  rw [rawWord_of_nonneg h,
    numberOf_map_toUpper fun c hc => mem_leftpad_toDigits (by decide) (by decide) hc,
    numberOf_leftpad, numberOf_toDigits (by decide) (by decide)]
  omega

theorem isHexDigit_of_mem_rawWord (h : 0 ≤ w) : ∀ c ∈ rawWord w, isHexDigit c = true := by
  intro c hc
  rw [rawWord_of_nonneg h] at hc
  obtain ⟨c', hc', rfl⟩ := List.mem_map.1 hc
  obtain ⟨d, hd, rfl⟩ := mem_leftpad_toDigits (b := 16) (by decide) (by decide) hc'
  exact (by decide : ∀ d < 16, isHexDigit d.digitChar.toUpper = true) d hd

theorem length_rawWord (h : 0 ≤ w) (h' : w < 4294967296) : (rawWord w).length = 8 := by
  have hle : (Nat.toDigits 16 w.natAbs).length ≤ 8 :=
    (Nat.length_toDigits_le_iff (by decide) (by decide)).2 (by omega)
  rw [rawWord_of_nonneg h, List.length_map, List.length_leftpad]
  exact Nat.max_eq_left hle

/-- **A word of the column is a word of a dump**, if no word character follows. -/
theorem lexeme_rawWord (h : 0 ≤ w) (h' : w < 4294967296) {rest : List Char}
    (hrest : ∀ c ∈ rest.head?, isWordChar c = false) : Dump.Lexeme (rawWord w) rest [w] := by
  have hmark : ([] : List Char) ∈ Dump.wordMarks := by decide
  have hlength := length_rawWord h h'
  have hlex := Dump.Lexeme.word hmark (by omega) (by omega) (isHexDigit_of_mem_rawWord h) hrest
  rwa [← numberOf_eq_ofDigits, numberOf_rawWord h] at hlex

end

/-! ### The column of the words -/

/-- Words with spaces between are scanned one after the other. -/
theorem scan_words {ws : List Int} (hws : ∀ w ∈ ws, 0 ≤ w ∧ w < 4294967296) {rest : List Char}
    (hrest : ∀ c ∈ rest.head?, isWordChar c = false ∧ c ≠ ':') :
    Dump.scan ([' '].intercalate (ws.map rawWord) ++ rest) =
      (ws ++ (Dump.scan rest).1, (Dump.scan rest).2) := by
  have htoken {w : Int} (hw : 0 ≤ w ∧ w < 4294967296) {r : List Char}
      (hr : ∀ c ∈ r.head?, isWordChar c = false ∧ c ≠ ':') :
      Dump.scan (rawWord w ++ r) = ([w] ++ (Dump.scan r).1, (Dump.scan r).2) :=
    Dump.scan_token (.nil _) (lexeme_rawWord hw.1 hw.2 fun c hc => (hr c hc).1)
      fun hc => (hr ':' hc).2 rfl
  induction ws with
  | nil => simp
  | cons w ws ih =>
    obtain ⟨hw, hws⟩ := List.forall_mem_cons.1 hws
    cases ws with
    | nil =>
      rw [List.map_singleton, List.intercalate_singleton]
      exact htoken hw hrest
    | cons v ws =>
      have htext : [' '].intercalate ((w :: v :: ws).map rawWord) ++ rest =
          rawWord w ++ ' ' :: ([' '].intercalate ((v :: ws).map rawWord) ++ rest) := by
        simp
      have hblank : isWordChar ' ' = false := by decide
      have hspace (r : List Char) : Dump.scan (' ' :: r) = Dump.scan r :=
        Dump.scan_congr (by rw [Dump.skip, if_pos (by decide)])
      rw [htext, htoken hw (by simp [hblank]), hspace, ih hws]
      rfl

theorem length_rawColumn {i : Instruction} (hws : ∀ w ∈ i.words, 0 ≤ w ∧ w < 4294967296) :
    i.rawColumn.length = 17 := by
  have hlength : ∀ w ∈ i.words, (rawWord w).length = 8 :=
    fun w hw => length_rawWord (hws w hw).1 (hws w hw).2
  have hword := hlength i.word (by simp [words])
  rw [rawColumn, String.length_ofList, List.length_rightpad]
  cases ha : i.aux with
  | none => simp [words, ha, hword, rawWidth]
  | some a =>
    have haux := hlength a (by simp [words, ha])
    simp [words, ha, hword, haux, rawWidth]

/-- **A line is the column of the words and the line without it.** -/
theorem line_eq_append (i : Instruction) {s : Settings} (hpc : s.showPc = false)
    (hraw : s.showRaw = true) :
    i.line s = i.rawColumn ++ " " ++ i.line { s with showRaw := false } := by
  have hcolumns : i.columns s = i.rawColumn :: i.columns { s with showRaw := false } := by
    rw [columns, columns, hpc, hraw]
    rfl
  rw [line, hcolumns, String.intercalate_cons_of_ne_nil (columns_ne_nil i _)]
  rfl

/-! ### Rows -/

theorem lf_not_mem_intercalate {l : List String} (h : ∀ t ∈ l, Visible t) :
    '\n' ∉ (" ".intercalate l).toList := by
  induction l with
  | nil => simp
  | cons t l ih =>
    obtain ⟨ht, hl⟩ := List.forall_mem_cons.1 h
    have ht : '\n' ∉ t.toList := fun hm => absurd (ht.isVisible_of_mem _ hm) (by decide)
    cases l with
    | nil => simpa using ht
    | cons u l =>
      rw [String.intercalate_cons_cons, String.toList_append, String.toList_append, List.mem_append,
        List.mem_append]
      rintro ((hm | hm) | hm)
      · exact ht hm
      · exact absurd hm (by decide)
      · exact ih hl hm

/-- **A line with its semicolon is a dump** of the words of its instruction. -/
theorem scan_row {i : Instruction} (hws : ∀ w ∈ i.words, 0 ≤ w ∧ w < 4294967296)
    {body : List Char} (hbody : '\n' ∉ body) :
    Dump.scan (i.rawColumn.toList ++ ';' :: body) = (i.words, []) := by
  have hsep (n : Nat) : Dump.Separator (List.replicate n ' ' ++ ';' :: body) [] := by
    induction n with
    | zero =>
      have hmark : [';'] ∈ Dump.commentMarks := by decide
      have := Dump.Separator.comment hmark hbody (by simp) (.nil [])
      rwa [List.append_nil] at this
    | succ n ih => exact .blank (by decide) ih
  have hhead (n : Nat) : ∀ c ∈ (List.replicate n ' ' ++ ';' :: body).head?,
      isWordChar c = false ∧ c ≠ ':' := by
    intro c hc
    cases n with
    | zero =>
      obtain rfl := Option.some.inj hc
      decide
    | succ n =>
      obtain rfl := Option.some.inj hc
      decide
  rw [rawColumn, String.toList_ofList, List.rightpad, List.append_assoc,
    scan_words hws (hhead _), ← List.append_nil (List.replicate _ _ ++ _),
    Dump.scan_separator (hsep _), Dump.scan_of_none rfl]
  simp [Dump.skip]

end Instruction

/-! ### Listings -/

namespace Listing

open Instruction (rawWidth)

/-- The line with a semicolon behind the column of the words. -/
def commented (l : String) : String :=
  String.ofList (l.toList.take rawWidth ++ ';' :: l.toList.drop rawWidth)

/-- The lines as a dump. -/
def asDump (ls : List String) : String := "\n".intercalate (ls.map commented)

theorem commented_append {r : String} (h : r.length = 17) (t : String) :
    commented (r ++ t) = r ++ ";" ++ t := by
  have hlength : r.toList.length = rawWidth := by rw [String.length_toList, h, rawWidth]
  rw [commented, String.toList_append, ← hlength, List.take_left, List.drop_left,
    ← String.toList_inj]
  simp

theorem commented_line {i : Instruction} (hws : ∀ w ∈ i.words, 0 ≤ w ∧ w < 4294967296)
    {s : Settings} (hpc : s.showPc = false) (hraw : s.showRaw = true) : commented (i.line s) =
      i.rawColumn ++ ";" ++ " " ++ i.line { s with showRaw := false } := by
  rw [i.line_eq_append hpc hraw, String.append_assoc,
    commented_append (Instruction.length_rawColumn hws), ← String.append_assoc]

theorem scan_commented_line {i : Instruction} (hi : i.Genuine)
    (hws : ∀ w ∈ i.words, 0 ≤ w ∧ w < 4294967296) {s : Settings} (hpc : s.showPc = false)
    (hraw : s.showRaw = true) : Dump.scan (commented (i.line s)).toList = (i.words, []) := by
  have hbody : '\n' ∉ ' ' :: (i.line { s with showRaw := false }).toList := by
    rw [List.mem_cons, not_or]
    exact ⟨by decide, Instruction.lf_not_mem_intercalate (hi.visible_columns rfl)⟩
  have hscan := Instruction.scan_row hws hbody
  rw [commented_line hws hpc hraw]
  simpa using hscan

/-- **A raw listing can be read as a dump.**  With the words shown and the positions left out, each
line is a column of seventeen characters and the line without it; and with a semicolon behind this
column the lines are a dump of the words that were listed, so that it gives the same listing. -/
theorem parse_asDump {ws : List Int} {is : List Instruction} (hd : Stream.decode ws = .ok is)
    (hws : ∀ w ∈ ws, 0 ≤ w ∧ w < 4294967296) {s : Settings} (hpc : s.showPc = false)
    (hraw : s.showRaw = true) :
    ∃ ls, ofStream ws s = .ok ls ∧
      List.Forall₂ (fun i l => ∃ r : String, r.length = 17 ∧
        l = r ++ " " ++ i.line { s with showRaw := false } ∧
        commented l = r ++ ";" ++ " " ++ i.line { s with showRaw := false }) is ls ∧
      Dump.parse (asDump ls) = .ok ws ∧
      (Dump.parse (asDump ls)).bind (ofStream · s) = .ok ls := by
  have hdecodes := Stream.decode_eq_ok_iff.1 hd
  have hrange : ∀ i ∈ is, ∀ w ∈ i.words, 0 ≤ w ∧ w < 4294967296 := by
    intro i hi w hw
    refine hws w ?_
    rw [← hdecodes.flatMap_words]
    exact List.mem_flatMap.2 ⟨i, hi, hw⟩
  have hlines : ofStream ws s = .ok (is.map (·.line s)) := by
    rw [ofStream, hd, Except.map]
  have hparse : Dump.parse (asDump (is.map (·.line s))) = .ok ws := by
    have hlf : "\n".toList = ['\n'] := by decide
    rw [Dump.parse_eq_ok_iff_scan, asDump, String.toList_intercalate, hlf, List.map_map,
      List.map_map, ← hdecodes.flatMap_words]
    refine Dump.scan_intercalate_lf fun i hi => ?_
    exact scan_commented_line (hdecodes.genuine i hi) (hrange i hi) hpc hraw
  refine ⟨_, hlines, ?_, hparse, ?_⟩
  · rw [List.forall₂_map_right_iff, List.forall₂_same]
    intro i hi
    exact ⟨i.rawColumn, Instruction.length_rawColumn (hrange i hi), i.line_eq_append hpc hraw,
      commented_line (hrange i hi) hpc hraw⟩
  · rw [hparse, Except.bind, hlines]

/-- A row of two words, the second one with leading zeros, and a row of one word. -/
theorem parse_asDump_two_rows :
    Dump.parse (asDump ["00000135 0000BEEF GETGLOBAL R1 0 [0x0000beef]",
      "00010082          RETURN R0 1"]) = .ok [0x00000135, 0x0000BEEF, 0x00010082] := by
  let ws : List Int := [0x00000135, 0x0000BEEF, 0x00010082]
  let s : Settings := { showPc := false, showRaw := true }
  have hlines : ofStream ws s = .ok ["00000135 0000BEEF GETGLOBAL R1 0 [0x0000beef]",
      "00010082          RETURN R0 1"] := by decide +kernel
  cases hd : Stream.decode ws with
  | error e =>
    rw [ofStream, hd] at hlines
    cases hlines
  | ok is =>
    obtain ⟨ls, hls, -, hparse, -⟩ := parse_asDump hd (by decide) (s := s) rfl rfl
    rw [hlines] at hls
    rwa [← Except.ok.inj hls] at hparse

end Listing

end LuauDisassembler
