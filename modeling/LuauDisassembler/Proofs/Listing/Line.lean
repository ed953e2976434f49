import Mathlib.Data.List.Forall2
import LuauDisassembler.Proofs.Listing.Token

/-!
# What a line tells

A line is its columns with spaces between.  Without the words all columns are solid, and the line
can be split again; the column of the words is padded, but it begins with the first word, and so
the words can be taken off the line one after the other.

* `Alike`: two instructions differ at most in builtin functions that share a name.
* `Instruction.line_eq_iff`: when two lines are equal.
* `Instruction.line_eq_of_shared_name`: the two numbers of one builtin function give one line, and
  the words tell them apart.
-/

namespace LuauDisassembler

open Text

/-! ### Spaces between solid texts -/

theorem join_injective {l l' : List String} (hl : ∀ t ∈ l, Solid t) (hl' : ∀ t ∈ l', Solid t)
    (hne : l ≠ []) (hne' : l' ≠ []) (h : " ".intercalate l = " ".intercalate l') : l = l' := by
  have hsplit {m : List String} (hm : ∀ t ∈ m, Solid t) (hm' : m ≠ []) :
      (" ".intercalate m).toList.splitOn ' ' = m.map String.toList := by
    rw [String.toList_intercalate]
    refine List.splitOn_intercalate ' ' (fun t ht => ?_) (by simpa using hm')
    obtain ⟨u, hu, rfl⟩ := List.mem_map.1 ht
    exact hm u hu
  have := hsplit hl hne
  rw [h, hsplit hl' hne'] at this
  exact (List.map_inj_right fun _ _ => String.toList_inj.1).1 this.symm

/-- The text before the first space can be taken off. -/
theorem append_space_inj {u v s t : List Char} (hu : ' ' ∉ u) (hv : ' ' ∉ v)
    (h : u ++ ' ' :: s = v ++ ' ' :: t) : u = v ∧ s = t := by
  have hfirst {w : List Char} (hw : ' ' ∉ w) (r : List Char) :
      (w ++ ' ' :: r).takeWhile (· != ' ') = w := by
    rw [List.takeWhile_append_of_pos, List.takeWhile_cons_of_neg (by simp), List.append_nil]
    intro c hc
    exact bne_iff_ne.2 fun e => hw (e ▸ hc)
  have huv : u = v := by rw [← hfirst hu s, h, hfirst hv t]
  subst huv
  exact ⟨rfl, (List.cons.inj (List.append_cancel_left h)).2⟩

/-- Padding is followed by a space just as the text is. -/
theorem rightpad_append_space (n : Nat) (u s : List Char) :
    u.rightpad n ' ' ++ ' ' :: s = u ++ ' ' :: (List.replicate (n - u.length) ' ' ++ s) := by
  rw [List.rightpad, List.append_assoc, ← List.singleton_append,
    ← List.append_assoc (.replicate _ _), ← List.replicate_succ', List.replicate_succ]
  rfl

namespace Instruction

/-! ### Instructions that give one line -/

/-- The instructions whose operand `a` is the number of a builtin function. -/
def fastCalls : List String := ["FASTCALL", "FASTCALL1", "FASTCALL2", "FASTCALL2K", "FASTCALL3"]

/-- The fields hold one value, or two numbers of builtin functions that are shown by one name. -/
def SameOperand (s : Settings) (name : String) (p q : Label × Int) : Prop :=
  p.1 = q.1 ∧ (p.2 = q.2 ∨
    name ∈ fastCalls ∧ s.resolveBuiltins = true ∧ p.1 = .field .a ∧
      Builtin.nameOf p.2 = Builtin.nameOf q.2)

/-- Two instructions that differ at most in builtin functions that share a name. -/
structure Alike (s : Settings) (i j : Instruction) : Prop where
  pc_eq : i.pc = j.pc
  descriptor_eq : i.descriptor = j.descriptor
  aux_eq : i.aux = j.aux
  operands_alike : List.Forall₂ (SameOperand s i.name) i.operands j.operands

theorem firstOf_eq_builtin_iff :
    ∀ d ∈ Descriptor.all, Opcode.firstOf d.name = .builtin ↔ d.name ∈ fastCalls := by
  decide +kernel

/-! ### Lines without words -/

theorem Genuine.visible_columns {i : Instruction} (h : i.Genuine) {s : Settings}
    (hraw : s.showRaw = false) : ∀ t ∈ i.columns s, Visible t := by
  intro t ht
  rw [columns, hraw, h.operandTokens_eq s] at ht
  simp only [Bool.false_eq_true, if_false, List.append_nil, List.mem_append, List.mem_cons,
    List.mem_map, Option.mem_toList, Option.map_eq_some_iff] at ht
  rcases ht with ht | rfl | ⟨f, -, rfl⟩ | ⟨a, -, rfl⟩
  · split at ht
    · rw [List.mem_singleton.1 ht]
      exact visible_pcColumn i
    · cases ht
  · exact visible_name _ h.descriptor_mem
  · exact visible_shown s i.name i.pc f _
  · exact visible_auxToken a

theorem columns_ne_nil (i : Instruction) (s : Settings) : i.columns s ≠ [] :=
  List.append_ne_nil_of_right_ne_nil _ (List.cons_ne_nil _ _)

/-- The tokens of one kind of instruction at one position tell the operands and the auxiliary
word. -/
theorem operandTokens_eq_iff {i j : Instruction} (hi : i.Genuine) (hj : j.Genuine) (s : Settings)
    (hpc : i.pc = j.pc) (hd : i.descriptor = j.descriptor) :
    i.operandTokens s = j.operandTokens s ↔
      i.aux = j.aux ∧ List.Forall₂ (SameOperand s i.name) i.operands j.operands := by
  have hname : j.name = i.name := by rw [name, name, hd]
  have hops : (∀ f ∈ i.descriptor.shape.fields,
      shown s i.name i.pc f (i.descriptor.operandIn i.word f) =
        shown s i.name i.pc f (i.descriptor.operandIn j.word f)) ↔
      List.Forall₂ (SameOperand s i.name) i.operands j.operands := by
    rw [hi.operands_eq, hj.operands_eq, ← hd, Descriptor.operandsIn, Descriptor.operandsIn,
      List.forall₂_map_left_iff, List.forall₂_map_right_iff, List.forall₂_same]
    refine forall₂_congr fun f _ => ?_
    rw [shown_eq_iff, name, firstOf_eq_builtin_iff _ hi.descriptor_mem, SameOperand]
    simp only [true_and, Label.field.injEq]
    tauto
  rw [hi.operandTokens_eq s, hj.operandTokens_eq s, ← hd, ← hpc, hname, ← hops,
    ← List.map_inj_left]
  constructor
  · intro h
    obtain ⟨hmap, haux⟩ := List.append_inj h (by rw [List.length_map, List.length_map])
    exact ⟨Option.map_injective (fun _ _ => auxToken_injective) (eq_of_toList_eq haux), hmap⟩
  · rintro ⟨haux, hmap⟩
    rw [haux, hmap]

theorem line_eq_iff_alike {i j : Instruction} (hi : i.Genuine) (hj : j.Genuine) {s : Settings}
    (hpc : s.showPc = true) (hraw : s.showRaw = false) : i.line s = j.line s ↔ Alike s i j := by
  have hcolumns : i.line s = j.line s ↔ i.columns s = j.columns s :=
    ⟨join_injective (fun t ht => (hi.visible_columns hraw t ht).solid)
      (fun t ht => (hj.visible_columns hraw t ht).solid) (columns_ne_nil i s) (columns_ne_nil j s),
      congrArg _⟩
  have hsplit : i.columns s = j.columns s ↔
      i.pc = j.pc ∧ i.name = j.name ∧ i.operandTokens s = j.operandTokens s := by
    simp [columns, hpc, hraw, pcColumn_eq_iff]
  rw [hcolumns, hsplit]
  constructor
  · rintro ⟨hpc, hname, htokens⟩
    have hd := Descriptor.name_injective hi.descriptor_mem hj.descriptor_mem hname
    obtain ⟨haux, hops⟩ := (operandTokens_eq_iff hi hj s hpc hd).1 htokens
    exact ⟨hpc, hd, haux, hops⟩
  · rintro ⟨hpc, hd, haux, hops⟩
    exact ⟨hpc, congrArg (·.name) hd, (operandTokens_eq_iff hi hj s hpc hd).2 ⟨haux, hops⟩⟩

/-! ### Lines with words -/

/-- The column of the words begins with the first word, and the auxiliary word is the next one. -/
theorem exists_rawColumn (i : Instruction) (s : List Char) :
    ∃ t, i.rawColumn.toList ++ ' ' :: s = rawWord i.word ++ ' ' :: t ∧
      ∀ a, i.aux = some a → ∃ t', t = rawWord a ++ ' ' :: t' := by
  rw [rawColumn, String.toList_ofList, rightpad_append_space, words]
  cases i.aux with
  | none =>
    rw [Option.toList_none, List.map_singleton, List.intercalate_singleton]
    exact ⟨_, rfl, fun a ha => absurd ha (Option.some_ne_none a).symm⟩
  | some a =>
    rw [Option.toList_some, List.map_cons, List.map_singleton, List.intercalate_cons_cons,
      List.intercalate_singleton, List.append_assoc, List.append_assoc]
    refine ⟨_, rfl, fun b hb => ?_⟩
    obtain rfl := Option.some.inj hb
    exact ⟨_, rfl⟩

theorem words_eq_of_rawColumn {i j : Instruction} (hi : i.Genuine) (hj : j.Genuine)
    {s t : List Char} (h : i.rawColumn.toList ++ ' ' :: s = j.rawColumn.toList ++ ' ' :: t) :
    i.words = j.words := by
  obtain ⟨s', hs, haux⟩ := exists_rawColumn i s
  obtain ⟨t', ht, haux'⟩ := exists_rawColumn j t
  rw [hs, ht] at h
  obtain ⟨hword, hrest⟩ := append_space_inj (solid_rawWord _) (solid_rawWord _) h
  have hw := rawWord_injective hword
  have hsome : i.aux.isSome = j.aux.isSome := by
    rw [hi.isSome_aux, hj.isSome_aux, hi.descriptor_eq hj hw]
  rw [words, words, hw]
  cases ha : i.aux with
  | none =>
    cases hb : j.aux with
    | none => rfl
    | some b => rw [ha, hb] at hsome; cases hsome
  | some a =>
    cases hb : j.aux with
    | none => rw [ha, hb] at hsome; cases hsome
    | some b =>
      obtain ⟨s'', rfl⟩ := haux a ha
      obtain ⟨t'', rfl⟩ := haux' b hb
      obtain ⟨hab, -⟩ := append_space_inj (solid_rawWord _) (solid_rawWord _) hrest
      rw [rawWord_injective hab]

theorem line_eq_iff_words {i j : Instruction} (hi : i.Genuine) (hj : j.Genuine) {s : Settings}
    (hpc : s.showPc = true) (hraw : s.showRaw = true) :
    i.line s = j.line s ↔ i.pc = j.pc ∧ i.words = j.words := by
  have hline (k : Instruction) : ∃ r, (k.line s).toList =
      k.pcColumn.toList ++ ' ' :: (k.rawColumn.toList ++ ' ' :: r) := by
    rw [line, String.toList_intercalate, columns, hpc, hraw]
    exact ⟨[' '].intercalate ((k.name :: k.operandTokens s).map String.toList), by simp⟩
  constructor
  · intro h
    -- the name and the operands say nothing new, so they stay in the rests `r` and `r'`
    obtain ⟨r, hr⟩ := hline i
    obtain ⟨r', hr'⟩ := hline j
    rw [h, hr'] at hr
    obtain ⟨hp, hw⟩ := append_space_inj (visible_pcColumn j).solid (visible_pcColumn i).solid hr
    exact ⟨(pcColumn_eq_iff.1 (String.toList_inj.1 hp)).symm, (words_eq_of_rawColumn hj hi hw).symm⟩
  · rintro ⟨hp, hw⟩
    rw [hi.ext hj hp hw]

/-! ### Lines -/

/-- **When two lines are equal**: without the words, when the instructions differ at most in builtin
functions that share a name; with the words, when these and the positions are equal. -/
theorem line_eq_iff {ws ws' : List Int} {pc pc' : Int} {i j : Instruction} (s : Settings)
    (hi : Stream.instructionAt ws pc = .ok i) (hj : Stream.instructionAt ws' pc' = .ok j)
    (hpc : s.showPc = true) :
    (s.showRaw = false → (i.line s = j.line s ↔ Alike s i j)) ∧
    (s.showRaw = true → (i.line s = j.line s ↔ i.pc = j.pc ∧ i.words = j.words)) := by
  obtain ⟨-, hi, -, -⟩ := Stream.instructionAt_eq_ok_iff.1 hi
  obtain ⟨-, hj, -, -⟩ := Stream.instructionAt_eq_ok_iff.1 hj
  exact ⟨line_eq_iff_alike hi hj hpc, line_eq_iff_words hi hj hpc⟩

/-- The two numbers of one builtin function give one line, and the words tell them apart. -/
theorem line_eq_of_shared_name :
    ∃ i j, Stream.instructionAt [187 + 256 * 34] 0 = .ok i ∧
      Stream.instructionAt [187 + 256 * 59] 0 = .ok j ∧
      i.line {} = j.line {} ∧ i.line { showRaw := true } ≠ j.line { showRaw := true } := by
  let d : Descriptor := { name := "FASTCALL1", shape := .abc, index := 73 }
  have hread (w : Int) (hw : (d.byte : Int) = Word.opcode w) :
      Stream.instructionAt [w] 0 = .ok (ofWords 0 d w none) := by
    have hd : d ∈ Descriptor.all := by decide +kernel
    have hg : (ofWords 0 d w none).Genuine :=
      ⟨Descriptor.ofByte_eq_ok_iff.2 ⟨hd, hw⟩, rfl, rfl⟩
    exact Stream.instructionAt_eq_ok_iff.2 ⟨Int.le_refl 0, hg, rfl, [], rfl⟩
  have hi := hread (187 + 256 * 34) (by decide)
  have hj := hread (187 + 256 * 59) (by decide)
  refine ⟨_, _, hi, hj, ((line_eq_iff {} hi hj rfl).1 rfl).2 ⟨rfl, rfl, rfl, ?_⟩, fun h => ?_⟩
  · refine .cons ⟨rfl, Or.inr ⟨by decide, rfl, rfl, by decide⟩⟩ ?_
    exact .cons ⟨rfl, Or.inl (by decide)⟩ (.cons ⟨rfl, Or.inl (by decide)⟩ .nil)
  · obtain ⟨-, hw⟩ := ((line_eq_iff { showRaw := true } hi hj rfl).2 rfl).1 h
    exact absurd hw (by decide)

end Instruction

end LuauDisassembler
