import Mathlib.Tactic.Common
import LuauDisassembler.Stream
import LuauDisassembler.Proofs.Dispatch.Table

/-!
# What a walk reads

`Stream.walk` is a loop whose step size depends on the words.  This file replaces it by a relation
without a loop counter: `Stream.Decodes pc ws is` says that the words `ws` are the words of the
instructions `is`, one after the other from `pc` on, and that each of them is `Genuine`, that is,
says what its own words say.

* `Instruction.read_eq_ok_iff`, `Instruction.read_eq_error_iff`: all that one step can do.
* `Stream.instructionAt_eq_ok_iff`: what the instruction at a position is.
* `Stream.walkFrom_eq_complete_iff`: a walk that ends well has decoded all words.
* `Stream.walkFrom_eq_stopped_iff`: a walk that stops has decoded the words before the place where
  the next step fails.

The length of the stream is mentioned in errors only, which is why `Decodes` does not know it.
-/

namespace LuauDisassembler

theorem eq_of_toList_eq {α : Type} {o o' : Option α} (h : o.toList = o'.toList) : o = o' := by
  have := congrArg List.head? h
  rwa [Option.head?_toList, Option.head?_toList] at this

namespace Instruction

/-! ### One step -/

/-- The record says what its own words say. -/
structure Genuine (i : Instruction) : Prop where
  ofByte_opcode : Descriptor.ofByte (Word.opcode i.word) = .ok i.descriptor
  operands_eq : i.operands = i.descriptor.operandsIn i.word
  isSome_aux : i.aux.isSome = i.descriptor.hasAux

theorem Genuine.length_words {i : Instruction} (h : i.Genuine) : i.words.length = i.size := by
  rw [words, size, Descriptor.size, ← h.isSome_aux]
  cases i.aux <;> rfl

/-- The position behind an instruction and the words that follow it. -/
theorem Genuine.add_length {i : Instruction} (h : i.Genuine) (pc : Int) (ws : List Int) :
    pc + (i.words ++ ws).length = pc + i.size + ws.length := by
  rw [List.length_append, h.length_words]
  omega

theorem Genuine.descriptor_eq {i j : Instruction} (hi : i.Genuine) (hj : j.Genuine)
    (hw : i.word = j.word) : i.descriptor = j.descriptor := by
  have := hi.ofByte_opcode
  rw [hw, hj.ofByte_opcode] at this
  exact (Except.ok.inj this).symm

theorem Genuine.descriptor_mem {i : Instruction} (h : i.Genuine) : i.descriptor ∈ Descriptor.all :=
  (Descriptor.ofByte_eq_ok_iff.1 h.ofByte_opcode).1

theorem Genuine.eq_ofWords {i : Instruction} (h : i.Genuine) :
    i = ofWords i.pc i.descriptor i.word i.aux := by
  rw [ofWords, ← h.operands_eq]

/-- A genuine record is determined by its position and its words. -/
theorem Genuine.ext {i j : Instruction} (hi : i.Genuine) (hj : j.Genuine) (hpc : i.pc = j.pc)
    (hwords : i.words = j.words) : i = j := by
  obtain ⟨hw, haux⟩ := List.cons.inj hwords
  have haux := eq_of_toList_eq haux
  rw [hi.eq_ofWords, hj.eq_ofWords, hpc, hi.descriptor_eq hj hw, hw, haux]

/-- **A step that succeeds** takes the words of a genuine instruction. -/
theorem read_eq_ok_iff {length : Nat} {pc : Int} {ws rest : List Int} {i : Instruction} :
    read length pc ws = .ok (i, rest) ↔ i.Genuine ∧ i.pc = pc ∧ ws = i.words ++ rest := by
  constructor
  · intro h
    unfold read at h
    split at h
    · cases h
    · rename_i w tail
      split at h
      · cases h
      · rename_i d hd
        split at h
        · rename_i haux
          split at h
          · cases h
          · cases h
            exact ⟨⟨hd, rfl, haux.symm⟩, rfl, rfl⟩
        · rename_i haux
          cases h
          exact ⟨⟨hd, rfl, (Bool.not_eq_true _ ▸ haux).symm⟩, rfl, rfl⟩
  · obtain ⟨pc', w, d, ops, aux⟩ := i
    rintro ⟨⟨hd, hops, haux⟩, rfl, rfl⟩
    simp only at hd hops haux
    unfold read
    cases aux with
    | none => simp [words, hd, ← haux, ofWords, hops]
    | some a => simp [words, hd, ← haux, ofWords, hops]

/-- **A step that fails**: no word is left, the opcode is unknown, or the auxiliary word is
missing. -/
theorem read_eq_error_iff {length : Nat} {pc : Int} {ws : List Int} {e : DecodeError} :
    read length pc ws = .error e ↔
      (ws = [] ∧ e = .truncated pc length) ∨
      (∃ w rest, ws = w :: rest ∧ (∀ d, Descriptor.ofByte (Word.opcode w) ≠ .ok d) ∧
        e = .unknownOpcode (Word.opcode w)) ∨
      (∃ w d, ws = [w] ∧ Descriptor.ofByte (Word.opcode w) = .ok d ∧ d.hasAux = true ∧
        e = .truncated pc length) := by
  unfold read
  cases ws with
  | nil => simpa using eq_comm
  | cons w rest =>
    cases hd : Descriptor.ofByte (Word.opcode w) with
    | error e' =>
      obtain rfl := Descriptor.eq_of_ofByte_error hd
      simpa [hd] using eq_comm
    | ok d =>
      by_cases haux : d.hasAux = true
      · cases rest with
        | nil => simpa [hd, haux] using eq_comm
        | cons a rest => simp [hd, haux]
      · simp [hd, haux]

end Instruction

namespace Stream

/-! ### Words and their instructions -/

/-- The words are those of the instructions, which follow each other from `pc` on. -/
inductive Decodes : Int → List Int → List Instruction → Prop
  | nil (pc : Int) : Decodes pc [] []
  | cons {pc : Int} {i : Instruction} {ws : List Int} {is : List Instruction} (h : i.Genuine)
      (hpc : i.pc = pc) (rest : Decodes (pc + i.size) ws is) : Decodes pc (i.words ++ ws) (i :: is)

namespace Decodes

theorem singleton {pc : Int} {i : Instruction} (h : i.Genuine) (hpc : i.pc = pc) :
    Decodes pc i.words [i] := by
  simpa using cons h hpc (nil _)

/-- Two stretches of words, one behind the other. -/
theorem append {pc : Int} {xs ys : List Int} {is js : List Instruction} (h : Decodes pc xs is)
    (h' : Decodes (pc + xs.length) ys js) : Decodes pc (xs ++ ys) (is ++ js) := by
  induction h with
  | nil pc => simpa using h'
  | @cons pc i ws is hi hpc _ ih =>
    rw [List.append_assoc]
    refine cons hi hpc (ih ?_)
    rwa [hi.add_length] at h'

end Decodes

/-! ### Walks -/

/-- A walk that meets `is` before it goes on as `k`. -/
def afterwards (is : List Instruction) (k : Walk) : Walk :=
  { k with instructions := is ++ k.instructions }

theorem walkFrom_nil (length : Nat) (pc : Int) : walkFrom length pc [] = ⟨[], none⟩ := by
  rw [walkFrom]

theorem walkFrom_of_read {length : Nat} {pc : Int} {ws rest : List Int} {i : Instruction}
    (h : Instruction.read length pc ws = .ok (i, rest)) :
    walkFrom length pc ws = (walkFrom length (pc + i.size) rest).cons i := by
  cases ws with
  | nil => cases h
  | cons w tail =>
    rw [walkFrom]
    split
    · rename_i he
      rw [h] at he
      cases he
    · rename_i hi
      rw [h] at hi
      cases hi
      rfl

theorem walkFrom_of_read_error {length : Nat} {pc : Int} {ws : List Int} {e : DecodeError}
    (hne : ws ≠ []) (h : Instruction.read length pc ws = .error e) :
    walkFrom length pc ws = ⟨[], some e⟩ := by
  cases ws with
  | nil => exact absurd rfl hne
  | cons w tail =>
    rw [walkFrom]
    split
    · rename_i he
      rw [h] at he
      cases he
      rfl
    · rename_i hi
      rw [h] at hi
      cases hi

/-- A walk goes through the words that it can decode and starts anew behind them. -/
theorem walkFrom_append {pc : Int} {xs : List Int} {is : List Instruction} (h : Decodes pc xs is)
    (length : Nat) (ys : List Int) :
    walkFrom length pc (xs ++ ys) = afterwards is (walkFrom length (pc + xs.length) ys) := by
  induction h with
  | nil pc => simp [afterwards]
  | @cons pc i ws is hi hpc _ ih =>
    rw [walkFrom_of_read (Instruction.read_eq_ok_iff.2 ⟨hi, hpc, List.append_assoc _ _ _⟩), ih,
      hi.add_length]
    rfl

/-- **The invariant of the walk**: what has been met so far decodes the words behind us, and the
walk is over or the next step fails. -/
theorem exists_decodes (length : Nat) (pc : Int) (ws : List Int) :
    ∃ xs ys is, ws = xs ++ ys ∧ Decodes pc xs is ∧
      (ys = [] ∨ ys ≠ [] ∧ ∃ e, Instruction.read length (pc + xs.length) ys = .error e) := by
  induction hn : ws.length using Nat.strongRecOn generalizing pc ws with
  | ind n ih =>
    by_cases hne : ws = []
    · exact ⟨[], [], [], by simp [hne], .nil pc, Or.inl rfl⟩
    · cases hr : Instruction.read length pc ws with
      | error e => exact ⟨[], ws, [], rfl, .nil pc, Or.inr ⟨hne, e, by simpa using hr⟩⟩
      | ok r =>
        -- a step takes one or two words, so the induction is on how many are left
        obtain ⟨i, rest⟩ := r
        have hlt := Instruction.length_lt_of_read hr
        obtain ⟨hi, hpc, rfl⟩ := Instruction.read_eq_ok_iff.1 hr
        obtain ⟨xs, ys, is, rfl, hd, hend⟩ := ih rest.length (hn ▸ hlt) (pc + i.size) rest rfl
        refine ⟨i.words ++ xs, ys, i :: is, (List.append_assoc _ _ _).symm, .cons hi hpc hd, ?_⟩
        rwa [hi.add_length]

theorem walkFrom_eq_complete_iff {length : Nat} {pc : Int} {ws : List Int}
    {is : List Instruction} : walkFrom length pc ws = ⟨is, none⟩ ↔ Decodes pc ws is := by
  constructor
  · intro h
    obtain ⟨xs, ys, js, rfl, hd, rfl | ⟨hne, e, he⟩⟩ := exists_decodes length pc ws
    · rw [walkFrom_append hd, walkFrom_nil, afterwards, List.append_nil] at h
      cases h
      simpa using hd
    · rw [walkFrom_append hd, walkFrom_of_read_error hne he] at h
      cases h
  · intro h
    have := walkFrom_append h length []
    rwa [List.append_nil, walkFrom_nil, afterwards, List.append_nil] at this

theorem walkFrom_eq_stopped_iff {length : Nat} {pc : Int} {ws : List Int}
    {is : List Instruction} {e : DecodeError} :
    walkFrom length pc ws = ⟨is, some e⟩ ↔
      ∃ xs ys, ys ≠ [] ∧ ws = xs ++ ys ∧ Decodes pc xs is ∧
        Instruction.read length (pc + xs.length) ys = .error e := by
  constructor
  · intro h
    obtain ⟨xs, ys, js, rfl, hd, rfl | ⟨hne, e', he⟩⟩ := exists_decodes length pc ws
    · rw [walkFrom_append hd, walkFrom_nil] at h
      cases h
    · rw [walkFrom_append hd, walkFrom_of_read_error hne he, afterwards, List.append_nil] at h
      cases h
      exact ⟨xs, ys, hne, rfl, hd, he⟩
  · rintro ⟨xs, ys, hne, rfl, hd, he⟩
    rw [walkFrom_append hd, walkFrom_of_read_error hne he, afterwards, List.append_nil]

/-! ### Decoding -/

/-- **One decoded instruction**: its words stand at its position. -/
theorem instructionAt_eq_ok_iff {ws : List Int} {pc : Int} {i : Instruction} :
    instructionAt ws pc = .ok i ↔
      0 ≤ pc ∧ i.Genuine ∧ i.pc = pc ∧ ∃ rest, ws.drop pc.toNat = i.words ++ rest := by
  have hread : (Instruction.read ws.length pc (ws.drop pc.toNat)).map (·.1) = .ok i ↔
      ∃ rest, Instruction.read ws.length pc (ws.drop pc.toNat) = .ok (i, rest) := by
    cases Instruction.read ws.length pc (ws.drop pc.toNat) with
    | error e => simp [Except.map]
    | ok r => simp [Except.map, Prod.ext_iff]
  unfold instructionAt
  split
  · rename_i hneg
    constructor
    · intro h
      cases h
    · rintro ⟨h, -⟩
      exact absurd h (Int.not_le.2 hneg)
  · rename_i hpos
    simp only [hread, Instruction.read_eq_ok_iff, exists_and_left]
    exact (and_iff_right (Int.not_lt.1 hpos)).symm

theorem decode_eq_ok_iff {ws : List Int} {is : List Instruction} :
    decode ws = .ok is ↔ Decodes 0 ws is := by
  rw [← @walkFrom_eq_complete_iff ws.length, decode, walk, Walk.result]
  obtain ⟨js, failure⟩ := walkFrom ws.length 0 ws
  cases failure <;> simp

theorem decode_eq_error_iff {ws : List Int} {e : DecodeError} :
    decode ws = .error e ↔
      ∃ xs ys is, ys ≠ [] ∧ ws = xs ++ ys ∧ Decodes 0 xs is ∧
        Instruction.read ws.length xs.length ys = .error e := by
  have hstop : decode ws = .error e ↔ ∃ is, walkFrom ws.length 0 ws = ⟨is, some e⟩ := by
    rw [decode, walk, Walk.result]
    obtain ⟨js, failure⟩ := walkFrom ws.length 0 ws
    cases failure <;> simp
  simp only [hstop, walkFrom_eq_stopped_iff, Int.zero_add]
  constructor
  · rintro ⟨is, xs, ys, h⟩
    exact ⟨xs, ys, is, h⟩
  · rintro ⟨xs, ys, is, h⟩
    exact ⟨is, xs, ys, h⟩

end Stream

end LuauDisassembler
