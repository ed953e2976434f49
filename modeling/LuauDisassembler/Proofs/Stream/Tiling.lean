import Mathlib.Data.List.Chain
import Mathlib.Data.List.Forall2
import LuauDisassembler.Listing
import LuauDisassembler.Proofs.Stream.Walk

/-!
# The instructions of a stream cover it

An instruction has a size by its opcode and words by what was read, and the two agree only because
a record of the walk is genuine.  From this it follows that the instructions of a stream lie on it
like tiles: they begin at its first word, each begins where the one before it ends, and the last
one ends with the stream.

`Stream.Tiling` says this of a list of instructions without the walk.  A list that tiles a stream is
the decoding of the stream, so there is at most one.

* `Stream.Decodes.exists_append`: where the words of a decoded instruction stand.
* `Stream.decodes_of_isChain`: instructions that follow each other decode their own words.
* `Stream.decode_eq_ok_iff_tiling`: the decoding of a stream is the list that tiles it, and the
  listing shows it line by line.
-/

namespace LuauDisassembler

/-- The instruction `j` begins where `i` ends. -/
def Instruction.Meets (i j : Instruction) : Prop := j.pc = i.pc + i.size

namespace Stream

/-- The instructions lie on the stream one after the other, without gap or overlap. -/
structure Tiling (ws : List Int) (is : List Instruction) : Prop where
  words_eq : is.flatMap Instruction.words = ws
  first_pc : ∀ i ∈ is.head?, i.pc = 0
  next_pc : is.IsChain Instruction.Meets
  last_pc : ∀ i ∈ is.getLast?, i.pc + i.size = ws.length
  instructionAt_pc : ∀ i ∈ is, instructionAt ws i.pc = .ok i
  isSome_aux : ∀ i ∈ is, i.aux.isSome = i.descriptor.hasAux
  size_eq : ∀ i ∈ is, i.size = i.words.length

/-! ### From the walk to the tiles -/

namespace Decodes

variable {pc : Int} {ws : List Int} {is : List Instruction}

theorem genuine (h : Decodes pc ws is) : ∀ i ∈ is, i.Genuine := by
  induction h with
  | nil pc => simp
  | cons hi _ _ ih => exact List.forall_mem_cons.2 ⟨hi, ih⟩

theorem flatMap_words (h : Decodes pc ws is) : is.flatMap Instruction.words = ws := by
  induction h with
  | nil pc => rfl
  | cons _ _ _ ih => rw [List.flatMap_cons, ih]

theorem pc_of_head? (h : Decodes pc ws is) : ∀ i ∈ is.head?, i.pc = pc := by
  intro i hi
  cases h with
  | nil => cases hi
  | cons _ hpc _ => rw [← Option.some.inj hi, hpc]

theorem isChain_meets (h : Decodes pc ws is) : is.IsChain Instruction.Meets := by
  induction h with
  | nil pc => exact .nil
  | cons _ hpc hrest ih =>
    refine List.isChain_cons.2 ⟨fun j hj => ?_, ih⟩
    rw [Instruction.Meets, hrest.pc_of_head? j hj, hpc]

theorem end_of_getLast? (h : Decodes pc ws is) :
    ∀ i ∈ is.getLast?, i.pc + i.size = pc + ws.length := by
  induction h with
  | nil pc => simp
  | @cons pc i ws is hi hpc hrest ih =>
    intro j hj
    rw [hi.add_length]
    cases hrest with
    | nil =>
      obtain rfl := Option.some.inj hj
      simp [hpc]
    | cons => exact ih j (by rwa [List.getLast?_cons_cons] at hj)

/-- **Where the words of a decoded instruction stand**: at its position. -/
theorem exists_append (h : Decodes pc ws is) :
    ∀ i ∈ is, ∃ xs ys, ws = xs ++ (i.words ++ ys) ∧ i.pc = pc + xs.length := by
  induction h with
  | nil pc => simp
  | @cons pc i ws is hi hpc _ ih =>
    intro j hj
    rcases List.mem_cons.1 hj with rfl | hj
    · exact ⟨[], ws, rfl, by simp [hpc]⟩
    · obtain ⟨xs, ys, rfl, hpc'⟩ := ih j hj
      refine ⟨i.words ++ xs, ys, (List.append_assoc _ _ _).symm, ?_⟩
      rw [hpc', hi.add_length]

/-- Decoding one instruction finds what the walk has met. -/
theorem instructionAt_pc (h : Decodes 0 ws is) : ∀ i ∈ is, instructionAt ws i.pc = .ok i := by
  intro i hi
  obtain ⟨xs, ys, rfl, hpc⟩ := h.exists_append i hi
  have hnat : i.pc.toNat = xs.length := by omega
  refine instructionAt_eq_ok_iff.2 ⟨by omega, h.genuine i hi, rfl, ys, ?_⟩
  rw [hnat, List.drop_left]

theorem tiling (h : Decodes 0 ws is) : Tiling ws is where
  words_eq := h.flatMap_words
  first_pc := h.pc_of_head?
  next_pc := h.isChain_meets
  last_pc := by
    intro i hi
    rw [h.end_of_getLast? i hi, Int.zero_add]
  instructionAt_pc := h.instructionAt_pc
  isSome_aux := fun i hi => (h.genuine i hi).isSome_aux
  size_eq := fun i hi => (h.genuine i hi).length_words.symm

end Decodes

/-! ### From the tiles to the walk -/

/-- **Instructions that follow each other decode their own words.** -/
theorem decodes_of_isChain {pc : Int} {is : List Instruction} (hgenuine : ∀ i ∈ is, i.Genuine)
    (hfirst : ∀ i ∈ is.head?, i.pc = pc) (hnext : is.IsChain Instruction.Meets) :
    Decodes pc (is.flatMap Instruction.words) is := by
  induction is generalizing pc with
  | nil => exact .nil pc
  | cons i is ih =>
    obtain ⟨hi, his⟩ := List.forall_mem_cons.1 hgenuine
    obtain ⟨hmeets, hnext⟩ := List.isChain_cons.1 hnext
    have hpc : i.pc = pc := hfirst i rfl
    rw [List.flatMap_cons]
    refine .cons hi hpc (ih his (fun j hj => ?_) hnext)
    rw [hmeets j hj, hpc]

theorem Tiling.decodes {ws : List Int} {is : List Instruction} (h : Tiling ws is) :
    Decodes 0 ws is := by
  have hgenuine : ∀ i ∈ is, i.Genuine := by
    intro i hi
    obtain ⟨-, hi, -⟩ := instructionAt_eq_ok_iff.1 (h.instructionAt_pc i hi)
    exact hi
  have := decodes_of_isChain hgenuine h.first_pc h.next_pc
  rwa [h.words_eq] at this

/-! ### Listings -/

/-- Line by line, a listing shows what stands at the positions of the instructions. -/
theorem exists_lines {ws : List Int} {is : List Instruction} (h : Decodes 0 ws is)
    (s : Settings) : ∃ ls, Listing.ofStream ws s = .ok ls ∧
      List.Forall₂ (fun i l => Listing.lineAt ws i.pc s = .ok l) is ls := by
  refine ⟨is.map (·.line s), ?_, ?_⟩
  · rw [Listing.ofStream, decode_eq_ok_iff.2 h, Except.map]
  · rw [List.forall₂_map_right_iff, List.forall₂_same]
    intro i hi
    rw [Listing.lineAt, h.instructionAt_pc i hi, Except.map]

/-- **Decoding partitions a stream.**  The instructions of a stream are those that tile it: their
words joined are the stream, their positions are the ends of those before them, and each is what
stands at its position.  A listing has one line for each of them, whatever the settings. -/
theorem decode_eq_ok_iff_tiling (ws : List Int) (is : List Instruction) :
    decode ws = .ok is ↔ Tiling ws is ∧ ∀ s : Settings,
      ∃ ls, Listing.ofStream ws s = .ok ls ∧
        List.Forall₂ (fun i l => Listing.lineAt ws i.pc s = .ok l) is ls := by
  rw [decode_eq_ok_iff]
  exact ⟨fun h => ⟨h.tiling, exists_lines h⟩, fun h => h.1.decodes⟩

end Stream

end LuauDisassembler
