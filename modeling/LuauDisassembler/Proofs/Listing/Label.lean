import LuauDisassembler.Proofs.Listing.Token

/-!
# Labels and the destination

Where an instruction may jump to is said twice.  The listing walks through the operands as they are
written and shows a label for each that is a jump distance; the destination is looked up by the
fields that may be one, and takes the last value given to the first of them that occurs.  A record
that was put together by hand may give a field twice, in any order, and name operands that are no
fields, and the two still agree: both say that there is a label, or both say that there is none, and
the destination is one of the labels that are shown.

This rests on the letter at the head of a token.  No register, constant, number, builtin function,
capture or auxiliary word begins with the letter of a label.

* `Opcode.mem_rolesOf_iff`: the table gives each field of an instruction one role.
* `Instruction.mem_of_operand?`, `Instruction.exists_operand?`: the value that counts for a field.
* `Instruction.isLabel_operandToken_iff`: which operands are shown as labels.
* `Instruction.destination_iff_label`: the destination and the labels of any record, and the one
  label of a decoded instruction.
-/

namespace LuauDisassembler

open Text

/-- The token stands for a position. -/
def isLabel (t : String) : Bool := t.toList.head? == some 'L'

/-! ### Roles -/

namespace Opcode

/-- A role stands in a row of the table. -/
theorem exists_of_mem_rolesOf {name : String} {q : Field × Role} (h : q ∈ rolesOf name) :
    ∃ o ∈ all, q ∈ o.roles ∧ rolesOf name = o.roles := by
  cases ho : named? name with
  | none =>
    rw [rolesOf, ho] at h
    cases h
  | some o =>
    have hroles : rolesOf name = o.roles := by rw [rolesOf, ho]; rfl
    exact ⟨o, List.mem_of_find?_eq_some ho, hroles ▸ h, hroles⟩

/-- **The role of a field is unique.** -/
theorem mem_rolesOf_iff {name : String} {f : Field} {r : Role} :
    (f, r) ∈ rolesOf name ↔ (rolesOf name).lookup f = some r := by
  have htable : ∀ o ∈ all, ∀ q ∈ o.roles, o.roles.lookup q.1 = some q.2 := by decide +kernel
  constructor
  · intro h
    obtain ⟨o, ho, hmem, hroles⟩ := exists_of_mem_rolesOf h
    rw [hroles]
    exact htable o ho (f, r) hmem
  · intro h
    obtain ⟨l, l', hsplit, -⟩ := List.lookup_eq_some_iff.1 h
    rw [hsplit]
    exact List.mem_append_right l List.mem_cons_self

/-- What the first operand stands for is not said by a role. -/
theorem ne_a_of_mem_rolesOf {name : String} {f : Field} {r : Role} (h : (f, r) ∈ rolesOf name) :
    f ≠ .a := by
  have htable : ∀ o ∈ all, ∀ q ∈ o.roles, q.1 ≠ .a := by decide +kernel
  obtain ⟨o, ho, hmem, -⟩ := exists_of_mem_rolesOf h
  exact htable o ho (f, r) hmem

end Opcode

/-! ### Heads of tokens -/

theorem isLabel_append {t u : String} (ht : t.toList ≠ []) : isLabel (t ++ u) = isLabel t := by
  obtain ⟨c, s, hs⟩ := List.exists_cons_of_ne_nil ht
  rw [isLabel, isLabel, String.toList_append, hs]
  rfl

theorem isLabel_decimal (v : Int) : isLabel (decimal v) = false := by
  obtain ⟨c, s, hs, hc⟩ := head_decimal v
  have hne : c ≠ 'L' := by
    rcases hc with rfl | ⟨d, hd, rfl⟩
    · decide
    · exact (by decide : ∀ d < 16, d.digitChar ≠ 'L') d hd
  rw [isLabel, hs]
  simpa using hne

theorem isLabel_letter (r : Role) : isLabel r.letter = decide (r = .jump) := by
  cases r <;> decide

theorem isLabel_nameOf (v : Int) : isLabel (Builtin.nameOf v) = false := by
  have htable : ∀ b ∈ Builtin.all, isLabel b.name = false := by decide +kernel
  unfold Builtin.nameOf Builtin.ofId?
  split
  · decide
  · cases hb : Builtin.all[v.toNat]? with
    | none => decide
    | some b => exact htable b (List.mem_of_getElem? hb)

theorem isLabel_captureName (k : CaptureKind) : isLabel k.name = false := by
  cases k <;> decide

namespace Instruction

theorem isLabel_firstToken (s : Settings) (name : String) (v : Int) :
    isLabel (firstToken s name v) = false := by
  unfold firstToken
  cases Opcode.firstOf name with
  | register => exact isLabel_append (by decide)
  | builtin =>
    by_cases hs : s.resolveBuiltins = true
    · simpa [hs] using isLabel_nameOf v
    · simpa [hs] using isLabel_decimal v
  | capture =>
    cases CaptureKind.ofCode? v with
    | none => exact isLabel_decimal v
    | some k => exact isLabel_captureName k
  | count => exact isLabel_decimal v

theorem isLabel_auxToken (v : Int) : isLabel (auxToken v) = false := by
  rw [auxToken, String.append_assoc]
  exact isLabel_append (by decide)

/-! ### Values that count -/

variable {i : Instruction}

/-- The value that counts for an operand is one of those that the record gives to it. -/
theorem mem_of_operand? {l : Label} {v : Int} (h : i.operand? l = some v) :
    (l, v) ∈ i.operands := by
  obtain ⟨ops, ops', hsplit, -⟩ := List.lookup_eq_some_iff.1 h
  rw [← List.mem_reverse, hsplit]
  exact List.mem_append_right ops List.mem_cons_self

theorem exists_operand? {l : Label} {v : Int} (h : (l, v) ∈ i.operands) :
    ∃ v', i.operand? l = some v' := by
  refine Option.isSome_iff_exists.1 (List.lookup_isSome_iff.2 ⟨(l, v), ?_, beq_self_eq_true l⟩)
  exact List.mem_reverse.2 h

/-! ### Operands that are shown as labels -/

variable {s : Settings} {name : String} {pc : Int} {f : Field} {v : Int}

/-- A jump distance is shown by the position to which it leads. -/
theorem shown_of_jump (h : (f, .jump) ∈ Opcode.rolesOf name) :
    shown s name pc f v = "L" ++ decimal (pc + 1 + v) := by
  rw [shown, if_neg (Opcode.ne_a_of_mem_rolesOf h), Opcode.mem_rolesOf_iff.1 h]
  rfl

/-- **An operand is shown as a label exactly if its field is a jump distance.** -/
theorem isLabel_shown_iff :
    isLabel (shown s name pc f v) = true ↔ (f, .jump) ∈ Opcode.rolesOf name := by
  have hletter (r : Role) (n : Int) : isLabel (r.letter ++ decimal n) = decide (r = .jump) := by
    rw [isLabel_append (by cases r <;> decide), isLabel_letter]
  rw [Opcode.mem_rolesOf_iff]
  by_cases hf : f = .a
  · subst hf
    rw [shown, if_pos rfl, isLabel_firstToken, ← Opcode.mem_rolesOf_iff]
    exact iff_of_false Bool.false_ne_true fun h => Opcode.ne_a_of_mem_rolesOf h rfl
  · rw [shown, if_neg hf]
    cases (Opcode.rolesOf name).lookup f with
    | none => simp [isLabel_decimal]
    | some r =>
      cases r with
      | jump => simp [hletter]
      | register | constant | upvalue => simp [hletter]

theorem operandToken_of_ne_a (hf : f ≠ .a) :
    i.operandToken s (.field f, v) = shown s i.name i.pc f v := by
  cases f with
  | a => exact absurd rfl hf
  | b | c | d | sd | e => rfl

/-- A field is shown as in a decoded instruction, `a` maybe with another of its values. -/
theorem exists_operandToken_eq (f : Field) (v : Int) :
    ∃ v', i.operandToken s (.field f, v) = shown s i.name i.pc f v' := by
  by_cases hf : f = .a
  · subst hf
    exact ⟨(i.operand? Field.a).getD v, by rw [operandToken, shown, if_pos rfl]⟩
  · exact ⟨v, operandToken_of_ne_a hf⟩

theorem isLabel_operandToken_iff {l : Label} : isLabel (i.operandToken s (l, v)) = true ↔
    ∃ f, l = .field f ∧ (f, .jump) ∈ Opcode.rolesOf i.name := by
  cases l with
  | foreign n hn =>
    have hdecimal : i.operandToken s (.foreign n hn, v) = decimal v := rfl
    rw [hdecimal, isLabel_decimal]
    simp
  | field f =>
    obtain ⟨v', hv'⟩ := exists_operandToken_eq (i := i) (s := s) f v
    rw [hv', isLabel_shown_iff]
    simp

/-- **The labels of a record** are those of its jump distances. -/
theorem exists_isLabel_iff : (∃ t ∈ i.operandTokens s, isLabel t = true) ↔
    ∃ f v, (Label.field f, v) ∈ i.operands ∧ (f, .jump) ∈ Opcode.rolesOf i.name := by
  constructor
  · rintro ⟨t, ht, hlabel⟩
    rcases List.mem_append.1 ht with ht | ht
    · obtain ⟨⟨l, v⟩, hmem, rfl⟩ := List.mem_map.1 ht
      obtain ⟨f, rfl, hjump⟩ := isLabel_operandToken_iff.1 hlabel
      exact ⟨f, v, hmem, hjump⟩
    · obtain ⟨a, -, rfl⟩ := Option.map_eq_some_iff.1 (Option.mem_toList.1 ht)
      rw [isLabel_auxToken] at hlabel
      cases hlabel
  · rintro ⟨f, v, hmem, hjump⟩
    refine ⟨i.operandToken s (.field f, v), ?_, isLabel_operandToken_iff.2 ⟨f, rfl, hjump⟩⟩
    exact List.mem_append_left _ (List.mem_map_of_mem hmem)

/-! ### The destination -/

/-- The destination is where one of the jump distances leads, with the value that counts for it. -/
theorem exists_of_destination {t : Int} (h : i.destination = some t) :
    ∃ f v, (f, .jump) ∈ Opcode.rolesOf i.name ∧ i.operand? (.field f) = some v ∧
      i.labelled v = t := by
  obtain ⟨⟨f, r⟩, hmem, hsome⟩ := List.exists_of_findSome?_eq_some h
  simp only [Option.ite_none_right_eq_some, Option.map_eq_some_iff] at hsome
  obtain ⟨rfl, v, hv, ht⟩ := hsome
  exact ⟨f, v, hmem, hv, ht⟩

theorem exists_destination_iff : (∃ t, i.destination = some t) ↔
    ∃ f v, (Label.field f, v) ∈ i.operands ∧ (f, .jump) ∈ Opcode.rolesOf i.name := by
  constructor
  · rintro ⟨t, ht⟩
    obtain ⟨f, v, hjump, hv, -⟩ := exists_of_destination ht
    exact ⟨f, v, mem_of_operand? hv, hjump⟩
  · rintro ⟨f, v, hmem, hjump⟩
    obtain ⟨v', hv'⟩ := exists_operand? hmem
    refine Option.isSome_iff_exists.1 (List.findSome?_isSome_iff.2 ⟨(f, .jump), hjump, ?_⟩)
    simp [hv']

/-- No shape has two jump distances. -/
theorem Genuine.countP_isLabel_le (h : i.Genuine) (s : Settings) :
    (i.operandTokens s).countP isLabel ≤ 1 := by
  have htable : ∀ d ∈ Descriptor.all,
      d.shape.fields.countP (fun f => decide ((f, Role.jump) ∈ Opcode.rolesOf d.name)) ≤ 1 := by
    decide +kernel
  have haux : ((i.aux.map auxToken).toList).countP isLabel = 0 := by
    cases i.aux with
    | none => rfl
    | some a => simp [isLabel_auxToken]
  rw [h.operandTokens_eq, List.countP_append, haux, List.countP_map]
  refine le_trans (le_of_eq (List.countP_congr fun f _ => ?_)) (htable _ h.descriptor_mem)
  rw [Function.comp_apply, isLabel_shown_iff, decide_eq_true_eq]
  rfl

/-- **The destination and the labels of an instruction agree**, for every record, decoded or put
together by hand, and for all settings.  There is no destination exactly if no token is a label, and
if there is one, its label is among the tokens.  A decoded instruction has at most one label. -/
theorem destination_iff_label (i : Instruction) (s : Settings) :
    (i.destination = none ↔ ∀ t ∈ i.operandTokens s, isLabel t = false) ∧
    (∀ t, i.destination = some t → "L" ++ decimal t ∈ i.operandTokens s) ∧
    ∀ ws pc, Stream.instructionAt ws pc = .ok i → (i.operandTokens s).countP isLabel ≤ 1 := by
  refine ⟨?_, ?_, ?_⟩
  · have hiff : (∃ t, i.destination = some t) ↔ ∃ t ∈ i.operandTokens s, isLabel t = true := by
      rw [exists_destination_iff, exists_isLabel_iff]
    rw [Option.eq_none_iff_forall_ne_some, ← not_exists, hiff]
    simp
  · intro t ht
    obtain ⟨f, v, hjump, hv, rfl⟩ := exists_of_destination ht
    have hne := Opcode.ne_a_of_mem_rolesOf hjump
    have htoken : i.operandToken s (.field f, v) = "L" ++ decimal (i.labelled v) := by
      rw [operandToken_of_ne_a hne, shown_of_jump hjump]
      rfl
    rw [← htoken]
    exact List.mem_append_left _ (List.mem_map_of_mem (mem_of_operand? hv))
  · intro ws pc h
    obtain ⟨-, hi, -, -⟩ := Stream.instructionAt_eq_ok_iff.1 h
    exact hi.countP_isLabel_le s

-- each distance has a label of its own; for the destination the last `sd` counts, and never `e`
example :
    let i : Instruction := ⟨4, 0, { name := "JUMP", shape := .sd, index := 23 },
      [(.field .sd, 1), (.field .sd, -2), (.field .e, 7)], none⟩
    i.destination = some 3 ∧ i.operandTokens {} = ["L6", "L3", "L12"] := by
  decide

end Instruction

end LuauDisassembler
