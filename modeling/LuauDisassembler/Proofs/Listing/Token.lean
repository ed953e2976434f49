import LuauDisassembler.Listing
import LuauDisassembler.Proofs.Stream.Walk
import LuauDisassembler.Proofs.Text.Numeral

/-!
# What a token tells

Each token of a line is a numeral behind some letters, or a name.  A token holds visible characters
only, and with the kind of the instruction, its position and the field in view it tells the value
that it shows, except that several builtin functions may share a name.

* `Instruction.shown`: the token of an operand, by the field that it comes from.
* `Instruction.Genuine.operandTokens_eq`: the tokens of a genuine instruction.
* `Instruction.shown_eq_iff`: when two values of an operand give one token.
* `Instruction.auxToken_injective`, `Instruction.rawWord_injective`, `Instruction.pcColumn_eq_iff`:
  the numbers outside the operands are told by their tokens alone.
* `Instruction.visible_name`, `Instruction.visible_shown`, `Instruction.visible_auxToken`,
  `Instruction.visible_pcColumn`, `Instruction.solid_rawWord`: no token holds a space.
-/

namespace LuauDisassembler

open Text

/-! ### Visible texts -/

/-- The text can be told from its neighbours when spaces are put between them. -/
def Solid (t : String) : Prop := ' ' ∉ t.toList

/-- The character is a sign of ASCII other than the space. -/
def isVisible (c : Char) : Bool := '!' ≤ c && c ≤ '~'

/-- The text holds neither space nor line end. -/
def Visible (t : String) : Prop := t.toList.all isVisible = true

instance (t : String) : Decidable (Visible t) := inferInstanceAs (Decidable (_ = true))

theorem Visible.isVisible_of_mem {t : String} (h : Visible t) :
    ∀ c ∈ t.toList, isVisible c = true :=
  List.all_eq_true.1 h

theorem Visible.solid {t : String} (h : Visible t) : Solid t :=
  fun hm => absurd (h.isVisible_of_mem _ hm) (by decide)

theorem Visible.append {t u : String} (ht : Visible t) (hu : Visible u) : Visible (t ++ u) := by
  rw [Visible, String.toList_append, List.all_append, Bool.and_eq_true]
  exact ⟨ht, hu⟩

theorem all_isVisible_numeral {base width : Nat} (hb : 1 < base) (hb' : base ≤ 16)
    {mark : List Char} (hm : mark.all isVisible = true) (i : Int) :
    (numeral base width mark i).all isVisible = true := by
  refine List.all_eq_true.2 fun c h => ?_
  rcases mem_numeral hb hb' h with rfl | h | ⟨d, hd, rfl⟩
  · decide
  · exact List.all_eq_true.1 hm c h
  · exact (by decide : ∀ d < 16, isVisible d.digitChar = true) d hd

theorem visible_decimal (i : Int) : Visible (decimal i) := by
  rw [Visible, decimal, String.toList_ofList]
  exact all_isVisible_numeral (by decide) (by decide) rfl i

theorem decimal_injective {i j : Int} (h : decimal i = decimal j) : i = j :=
  numeral_injective (by decide) (by decide) (by simp) (String.ofList_inj.1 h)

/-- A numeral begins with its sign or a digit. -/
theorem head_decimal (i : Int) :
    ∃ c s, (decimal i).toList = c :: s ∧ (c = '-' ∨ ∃ d < 16, d.digitChar = c) := by
  have hne : numeral 10 0 [] i ≠ [] := by
    by_cases hi : i < 0
    · simp [numeral_of_neg hi]
    · simp [numeral_of_nonneg (Int.not_lt.1 hi), List.leftpad]
  obtain ⟨c, s, hs⟩ := List.exists_cons_of_ne_nil hne
  have hc := mem_numeral (by decide) (by decide) (hs ▸ List.mem_cons_self)
  refine ⟨c, s, by rw [decimal, String.toList_ofList, hs], ?_⟩
  simpa using hc

namespace Instruction

/-! ### Operands -/

/-- An operand of the instruction `name` at `pc`, as it is shown. -/
def shown (s : Settings) (name : String) (pc : Int) (f : Field) (v : Int) : String :=
  if f = .a then firstToken s name v
  else
    match (Opcode.rolesOf name).lookup f with
    | some .jump => Role.jump.letter ++ decimal (pc + 1 + v)
    | some r => r.letter ++ decimal v
    | none => decimal v

theorem lookup_map_field (l : List Field) (value : Field → Int) {f : Field} (hf : f ∈ l) :
    (l.map fun f => (Label.field f, value f)).lookup (.field f) = some (value f) := by
  induction l with
  | nil => cases hf
  | cons f' l ih =>
    rw [List.map_cons, List.lookup_cons]
    by_cases he : f = f'
    · simp [he]
    · rw [beq_false_of_ne (by simpa using he)]
      exact ih ((List.mem_cons.1 hf).resolve_left he)

theorem Genuine.operand?_eq {i : Instruction} (h : i.Genuine) {f : Field}
    (hf : f ∈ i.descriptor.shape.fields) :
    i.operand? (.field f) = some (i.descriptor.operandIn i.word f) := by
  rw [operand?, h.operands_eq, Descriptor.operandsIn, ← List.map_reverse]
  exact lookup_map_field _ _ (List.mem_reverse.2 hf)

theorem Genuine.operandToken_eq {i : Instruction} (h : i.Genuine) (s : Settings) {f : Field}
    (hf : f ∈ i.descriptor.shape.fields) :
    i.operandToken s (.field f, i.descriptor.operandIn i.word f) =
      shown s i.name i.pc f (i.descriptor.operandIn i.word f) := by
  cases f with
  | a => rw [operandToken, h.operand?_eq hf, Option.getD_some, shown, if_pos rfl]
  | b | c | d | sd | e => rfl

/-- **The tokens of a genuine instruction** are those of the fields of its shape. -/
theorem Genuine.operandTokens_eq {i : Instruction} (h : i.Genuine) (s : Settings) :
    i.operandTokens s =
      (i.descriptor.shape.fields.map fun f =>
        shown s i.name i.pc f (i.descriptor.operandIn i.word f)) ++
      (i.aux.map auxToken).toList := by
  rw [operandTokens, h.operands_eq, Descriptor.operandsIn, List.map_map]
  congr 1
  exact List.map_congr_left fun f hf => h.operandToken_eq s hf

/-! ### Values -/

theorem captureName_injective {k k' : CaptureKind} (h : k.name = k'.name) : k = k' := by
  cases k <;> cases k' <;> first | rfl | exact absurd h (by decide)

theorem captureName_ne_decimal (k : CaptureKind) (v : Int) : k.name ≠ decimal v := by
  intro h
  obtain ⟨c, t, ht, hc⟩ := head_decimal v
  rw [← h] at ht
  cases k
  all_goals
    obtain ⟨rfl, -⟩ := List.cons.inj ht
    exact absurd hc (by decide)

/-- The name of a capture kind cannot be taken for a number. -/
theorem captureToken_injective {v v' : Int}
    (h : ((CaptureKind.ofCode? v).map (·.name)).getD (decimal v) =
      ((CaptureKind.ofCode? v').map (·.name)).getD (decimal v')) : v = v' := by
  cases hk : CaptureKind.ofCode? v with
  | none =>
    cases hk' : CaptureKind.ofCode? v' with
    | none =>
      rw [hk, hk'] at h
      exact decimal_injective h
    | some k' =>
      rw [hk, hk'] at h
      exact absurd h.symm (captureName_ne_decimal k' v)
  | some k =>
    cases hk' : CaptureKind.ofCode? v' with
    | none =>
      rw [hk, hk'] at h
      exact absurd h (captureName_ne_decimal k v')
    | some k' =>
      rw [hk, hk'] at h
      have hcode : k.code = v := by simpa using List.find?_some hk
      have hcode' : k'.code = v' := by simpa using List.find?_some hk'
      rw [← hcode, ← hcode', captureName_injective h]

theorem visible_nameOf (v : Int) : Visible (Builtin.nameOf v) := by
  have hall : ∀ b ∈ Builtin.all, Visible b.name := by decide +kernel
  unfold Builtin.nameOf Builtin.ofId?
  split
  · exact (by decide)
  · cases hb : Builtin.all[v.toNat]? with
    | none => exact (by decide)
    | some b => exact hall b (List.mem_of_getElem? hb)

theorem firstToken_eq_iff {s : Settings} {name : String} {v v' : Int} :
    firstToken s name v = firstToken s name v' ↔
      v = v' ∨ Opcode.firstOf name = .builtin ∧ s.resolveBuiltins = true ∧
        Builtin.nameOf v = Builtin.nameOf v' := by
  unfold firstToken
  cases Opcode.firstOf name with
  | register =>
    rw [String.append_right_inj]
    simpa using ⟨decimal_injective, congrArg decimal⟩
  | builtin =>
    by_cases hs : s.resolveBuiltins = true
    · simpa [hs] using fun (h : v = v') => congrArg Builtin.nameOf h
    · simpa [hs] using ⟨decimal_injective, congrArg decimal⟩
  | capture =>
    simpa using ⟨captureToken_injective, fun (h : v = v') => by rw [h]⟩
  | count => simpa using ⟨decimal_injective, congrArg decimal⟩

/-- **When two values of an operand give one token**: they are equal, or builtin functions that
share a name. -/
theorem shown_eq_iff {s : Settings} {name : String} {pc : Int} {f : Field} {v v' : Int} :
    shown s name pc f v = shown s name pc f v' ↔
      v = v' ∨ f = .a ∧ Opcode.firstOf name = .builtin ∧ s.resolveBuiltins = true ∧
        Builtin.nameOf v = Builtin.nameOf v' := by
  by_cases hf : f = .a
  · rw [shown, shown, if_pos hf, if_pos hf, firstToken_eq_iff]
    simp [hf]
  · rw [shown, shown, if_neg hf, if_neg hf]
    simp only [hf, false_and, or_false]
    refine ⟨fun h => ?_, fun h => by rw [h]⟩
    cases hr : (Opcode.rolesOf name).lookup f with
    | none =>
      rw [hr] at h
      exact decimal_injective h
    | some r =>
      rw [hr] at h
      cases r with
      -- a label moves with the position, but both instructions stand at the same one
      | jump => exact Int.add_left_cancel (decimal_injective ((String.append_right_inj _).1 h))
      | register | constant | upvalue => exact decimal_injective ((String.append_right_inj _).1 h)

theorem visible_firstToken (s : Settings) (name : String) (v : Int) :
    Visible (firstToken s name v) := by
  unfold firstToken
  cases Opcode.firstOf name with
  | register => exact Visible.append (by decide) (visible_decimal v)
  | builtin =>
    by_cases hs : s.resolveBuiltins = true
    · simpa [hs] using visible_nameOf v
    · simpa [hs] using visible_decimal v
  | capture =>
    cases hk : CaptureKind.ofCode? v with
    | none => exact visible_decimal v
    | some k =>
      have hall : ∀ k : CaptureKind, Visible k.name := by
        intro k
        cases k <;> decide
      exact hall k
  | count => exact visible_decimal v

theorem visible_letter (r : Role) : Visible r.letter := by
  cases r <;> decide

theorem visible_shown (s : Settings) (name : String) (pc : Int) (f : Field) (v : Int) :
    Visible (shown s name pc f v) := by
  by_cases hf : f = .a
  · rw [shown, if_pos hf]
    exact visible_firstToken s name v
  · rw [shown, if_neg hf]
    cases (Opcode.rolesOf name).lookup f with
    | none => exact visible_decimal v
    | some r =>
      cases r with
      | jump => exact (visible_letter _).append (visible_decimal _)
      | register | constant | upvalue => exact (visible_letter _).append (visible_decimal v)

/-! ### Names, positions and words -/

theorem visible_name : ∀ d ∈ Descriptor.all, Visible d.name := by decide +kernel

theorem visible_auxToken (v : Int) : Visible (auxToken v) := by
  refine Visible.append (Visible.append (by decide) ?_) (by decide)
  rw [Visible, String.toList_ofList]
  exact all_isVisible_numeral (by decide) (by decide) (by decide) v

theorem auxToken_injective {v v' : Int} (h : auxToken v = auxToken v') : v = v' := by
  rw [auxToken, auxToken, String.append_left_inj, String.append_right_inj, String.ofList_inj] at h
  exact numeral_injective (by decide) (by decide) (by decide) h

theorem visible_pcColumn (i : Instruction) : Visible i.pcColumn := by
  rw [Visible, pcColumn, String.toList_ofList]
  exact all_isVisible_numeral (by decide) (by decide) rfl i.pc

theorem pcColumn_eq_iff {i j : Instruction} : i.pcColumn = j.pcColumn ↔ i.pc = j.pc := by
  rw [pcColumn, pcColumn, String.ofList_inj]
  exact ⟨numeral_injective (by decide) (by decide) (by decide), fun h => by rw [h]⟩

/-- Capital letters can be turned back, since a numeral has small letters only. -/
theorem toLower_rawWord (w : Int) : (rawWord w).map Char.toLower = numeral 16 8 [] w := by
  rw [rawWord, List.map_map]
  refine (List.map_congr_left fun c hc => ?_).trans (List.map_id _)
  rcases mem_numeral (by decide) (by decide) hc with rfl | hc | ⟨d, hd, rfl⟩
  · rfl
  · cases hc
  · exact (by decide : ∀ d < 16, d.digitChar.toUpper.toLower = d.digitChar) d hd

theorem rawWord_injective {w w' : Int} (h : rawWord w = rawWord w') : w = w' := by
  have := toLower_rawWord w
  rw [h, toLower_rawWord] at this
  exact numeral_injective (by decide) (by decide) (by decide) this.symm

theorem solid_rawWord (w : Int) : ' ' ∉ rawWord w := by
  intro h
  have := List.mem_map_of_mem (f := Char.toLower) h
  rw [toLower_rawWord] at this
  have hall : (numeral 16 8 [] w).all isVisible = true :=
    all_isVisible_numeral (by decide) (by decide) rfl w
  exact absurd (List.all_eq_true.1 hall _ this) (by decide)

end Instruction

end LuauDisassembler
