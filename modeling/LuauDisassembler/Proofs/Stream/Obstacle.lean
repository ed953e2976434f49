import LuauDisassembler.Listing
import LuauDisassembler.Proofs.Stream.Walk
import LuauDisassembler.Proofs.Word.Bits

/-!
# Why a stream is refused

A walk that fails has decoded all words before the one at which it stops, and that word is an
obstacle: either its byte stands for no instruction, or it is the last word and its instruction
takes one more.  Auxiliary words may look like obstacles too, but the walk does not come to them as
the head of an instruction, and so the decoding of the words before tells them apart.

The place is unique.  Words that contain an obstacle and something behind it cannot be decoded, so a
second place would have the first one among the words before it.

* `Stream.read_drop_eq_error_iff`: a step fails exactly at an obstacle, and for its cause.
* `Stream.StopsAt.walk_eq`: what the walk has met until then.
* `Stream.StopsAt.le`: no stretch of words that can be decoded goes past the place.
* `Stream.decode_eq_error_iff_stopsAt`: decoding and listing a stream fail for the cause that stands
  at the one place where the walk stops.
-/

namespace LuauDisassembler.Stream

open Descriptor (all)

/-- What is wrong with the word at position `p`, if an instruction is to begin there. -/
inductive Obstacle (ws : List Int) (p : Nat) : DecodeError → Prop
  /-- The byte stands for no instruction. -/
  | unknown {w : Int} (hw : ws[p]? = some w) (hbyte : ∀ d ∈ all, (d.byte : Int) ≠ w % 256) :
      Obstacle ws p (.unknownOpcode (w % 256))
  /-- The byte stands for an instruction with an auxiliary word, but the word is the last one. -/
  | cut {w : Int} {d : Descriptor} (hw : ws[p]? = some w) (hlast : p = ws.length - 1)
      (hd : d ∈ all) (hbyte : (d.byte : Int) = w % 256) (haux : d.hasAux = true) :
      Obstacle ws p (.truncated p ws.length)

/-- The words before position `p` can be decoded, and at `p` there is an obstacle. -/
structure StopsAt (ws : List Int) (p : Nat) (e : DecodeError) : Prop where
  decode_take : ∃ is, decode (ws.take p) = .ok is
  obstacle : Obstacle ws p e

/-! ### Obstacles and steps -/

theorem Obstacle.lt_length {ws : List Int} {p : Nat} {e : DecodeError} (h : Obstacle ws p e) :
    p < ws.length := by
  cases h with
  | unknown hw => exact (List.getElem?_eq_some_iff.1 hw).1
  | cut hw => exact (List.getElem?_eq_some_iff.1 hw).1

theorem ofByte_opcode_eq_ok_iff {w : Int} {d : Descriptor} :
    Descriptor.ofByte (Word.opcode w) = .ok d ↔ d ∈ all ∧ (d.byte : Int) = w % 256 := by
  rw [Descriptor.ofByte_eq_ok_iff, Word.opcode_eq_emod]

/-- **A step fails exactly at an obstacle**, and for its cause. -/
theorem read_drop_eq_error_iff {ws : List Int} {p : Nat} {e : DecodeError} (hp : p < ws.length) :
    Instruction.read ws.length p (ws.drop p) = .error e ↔ Obstacle ws p e := by
  have hdrop : ws.drop p = ws[p] :: ws.drop (p + 1) := List.drop_eq_getElem_cons hp
  rw [Instruction.read_eq_error_iff]
  constructor
  · rintro (⟨hnil, -⟩ | ⟨w, rest, hw, hbyte, rfl⟩ | ⟨w, d, hw, hd, haux, rfl⟩)
    · rw [hdrop] at hnil
      cases hnil
    · have hget : ws[p]? = some w := by rw [← List.head?_drop, hw, List.head?_cons]
      rw [Word.opcode_eq_emod]
      refine .unknown hget fun d hd he => hbyte d ?_
      exact ofByte_opcode_eq_ok_iff.2 ⟨hd, he⟩
    · have hget : ws[p]? = some w := by rw [← List.head?_drop, hw, List.head?_cons]
      have hlast : p = ws.length - 1 := by
        have := congrArg List.length hw
        rw [List.length_drop, List.length_singleton] at this
        omega
      obtain ⟨hmem, hbyte⟩ := ofByte_opcode_eq_ok_iff.1 hd
      exact .cut hget hlast hmem hbyte haux
  · intro h
    cases h with
    | @unknown w hw hbyte =>
      obtain ⟨_, rfl⟩ := List.getElem?_eq_some_iff.1 hw
      refine Or.inr (Or.inl ⟨_, _, hdrop, fun d hd => ?_, by rw [Word.opcode_eq_emod]⟩)
      obtain ⟨hmem, he⟩ := ofByte_opcode_eq_ok_iff.1 hd
      exact hbyte d hmem he
    | @cut w d hw hlast hd hbyte haux =>
      obtain ⟨_, rfl⟩ := List.getElem?_eq_some_iff.1 hw
      have hnil : ws.drop (p + 1) = [] := List.drop_eq_nil_of_le (by omega)
      rw [hnil] at hdrop
      exact Or.inr (Or.inr ⟨_, d, hdrop, ofByte_opcode_eq_ok_iff.2 ⟨hd, hbyte⟩, haux, rfl⟩)

/-! ### The place of the failure -/

theorem decode_eq_error_iff_exists_stopsAt {ws : List Int} {e : DecodeError} :
    decode ws = .error e ↔ ∃ p, StopsAt ws p e := by
  rw [decode_eq_error_iff]
  constructor
  · rintro ⟨xs, ys, is, hne, rfl, hd, he⟩
    have hlt : xs.length < (xs ++ ys).length := by
      have := List.length_pos_iff.2 hne
      rw [List.length_append]
      omega
    refine ⟨xs.length, ⟨is, ?_⟩, (read_drop_eq_error_iff hlt).1 ?_⟩
    · rwa [List.take_left, decode_eq_ok_iff]
    · rwa [List.drop_left]
  · rintro ⟨p, ⟨is, hd⟩, h⟩
    have hlt := h.lt_length
    refine ⟨ws.take p, ws.drop p, is, ?_, (List.take_append_drop p ws).symm,
      decode_eq_ok_iff.1 hd, ?_⟩
    · exact List.ne_nil_of_length_pos (by rw [List.length_drop]; omega)
    · rw [List.length_take_of_le hlt.le]
      exact (read_drop_eq_error_iff hlt).2 h

/-- What a walk that fails has met: the instructions of the words before the place. -/
theorem StopsAt.walk_eq {ws : List Int} {p : Nat} {e : DecodeError} {is : List Instruction}
    (h : StopsAt ws p e) (hd : decode (ws.take p) = .ok is) : walk ws = ⟨is, some e⟩ := by
  have hlt := h.obstacle.lt_length
  have hne : ws.drop p ≠ [] := List.ne_nil_of_length_pos (by rw [List.length_drop]; omega)
  refine walkFrom_eq_stopped_iff.2
    ⟨ws.take p, ws.drop p, hne, (List.take_append_drop p ws).symm, decode_eq_ok_iff.1 hd, ?_⟩
  rw [List.length_take_of_le hlt.le, Int.zero_add]
  exact (read_drop_eq_error_iff hlt).2 h.obstacle

/-- **No stretch of words that can be decoded goes past the place**, unless it goes to the end of
the stream. -/
theorem StopsAt.le {ws : List Int} {p q : Nat} {e : DecodeError} {is : List Instruction}
    (h : StopsAt ws p e) (hq : q < ws.length) (hd : decode (ws.take q) = .ok is) : q ≤ p := by
  by_contra hlt
  obtain ⟨hp, hobstacle⟩ := h
  cases hobstacle with
  | @unknown w hw hbyte =>
    have hstops : StopsAt (ws.take q) p (.unknownOpcode (w % 256)) := by
      refine ⟨?_, .unknown ?_ hbyte⟩
      · rwa [List.take_take, Nat.min_eq_left (by omega)]
      · rwa [List.getElem?_take_of_lt (by omega)]
    rw [decode_eq_error_iff_exists_stopsAt.2 ⟨p, hstops⟩] at hd
    cases hd
  | cut hw hlast => omega

theorem StopsAt.unique {ws : List Int} {p q : Nat} {e e' : DecodeError} (h : StopsAt ws p e)
    (h' : StopsAt ws q e') : p = q := by
  obtain ⟨is, hp⟩ := h.decode_take
  obtain ⟨js, hq⟩ := h'.decode_take
  exact Nat.le_antisymm (h'.le h.obstacle.lt_length hp) (h.le h'.obstacle.lt_length hq)

theorem ofStream_eq_error_iff {ws : List Int} {s : Settings} {e : DecodeError} :
    Listing.ofStream ws s = .error e ↔ decode ws = .error e := by
  rw [Listing.ofStream]
  cases decode ws <;> simp [Except.map]

/-- **Failures are exact.**  A stream is refused exactly if its words up to some place can be
decoded and there is an obstacle at that place; the cause is that of the obstacle, and the place is
unique.  A listing is refused when its stream is, for the same cause. -/
theorem decode_eq_error_iff_stopsAt (ws : List Int) :
    (∀ e, decode ws = .error e ↔ ∃ p, StopsAt ws p e) ∧
    ((∃ e, decode ws = .error e) ↔ ∃! p, ∃ e, StopsAt ws p e) ∧
    ∀ s e, Listing.ofStream ws s = .error e ↔ decode ws = .error e := by
  refine ⟨fun e => decode_eq_error_iff_exists_stopsAt, ?_, fun s e => ofStream_eq_error_iff⟩
  constructor
  · rintro ⟨e, he⟩
    obtain ⟨p, hp⟩ := decode_eq_error_iff_exists_stopsAt.1 he
    refine ⟨p, ⟨e, hp⟩, ?_⟩
    rintro q ⟨e', hq⟩
    exact hq.unique hp
  · rintro ⟨p, ⟨e, hp⟩, -⟩
    exact ⟨e, decode_eq_error_iff_exists_stopsAt.2 ⟨p, hp⟩⟩

-- byte 1 stands for no instruction: as an auxiliary word it is passed over, as a head it is not
example : decode [0x135, 1, 1] = .error (.unknownOpcode 1) := by decide +kernel

end LuauDisassembler.Stream
