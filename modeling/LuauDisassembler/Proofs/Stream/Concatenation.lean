import LuauDisassembler.Listing
import LuauDisassembler.Proofs.Stream.Walk

/-!
# Decoding a concatenation

What becomes of `xs ++ ys` depends on how the decoding of `xs` ends.

* It succeeds: then `ys` is decoded as if it stood alone, only later.  Positions, jump destinations
  and the numbers in a truncation error grow by the length of `xs` (`Decodes.shift`,
  `Instruction.read_shift`).
* It meets an unknown opcode: nothing behind that word is ever looked at.
* It misses the auxiliary word of the last instruction: any one word completes it.

`Stream.decode_append` puts the cases together.  There is no other way to fail
(`Stream.eq_of_decode_error`).
-/

namespace LuauDisassembler

/-! ### Later in a stream -/

/-- The same instruction `n` words later. -/
def Instruction.shift (n : Nat) (i : Instruction) : Instruction := { i with pc := i.pc + n }

/-- The same cause when `n` more words stand before the stream. -/
def DecodeError.shift (n : Nat) : DecodeError → DecodeError
  | .truncated pc length => .truncated (pc + n) (length + n)
  | e => e

namespace Instruction

theorem Genuine.shift {i : Instruction} (h : i.Genuine) (n : Nat) : (i.shift n).Genuine :=
  ⟨h.ofByte_opcode, h.operands_eq, h.isSome_aux⟩

/-- A jump that moves takes its destination with it. -/
theorem destination_shift (n : Nat) (i : Instruction) :
    (i.shift n).destination = i.destination.map (· + (n : Int)) := by
  have hoperand (l : Label) : (i.shift n).operand? l = i.operand? l := rfl
  unfold destination
  rw [List.map_findSome?]
  refine congrArg (List.findSome? · _) (funext fun ⟨f, r⟩ => ?_)
  by_cases hr : r = .jump
  · simp only [Function.comp_apply, if_pos hr, hoperand, Option.map_map]
    refine congrArg (Option.map · _) (funext fun v => ?_)
    simp only [labelled, shift, Function.comp_apply]
    omega
  · simp only [Function.comp_apply, if_neg hr, Option.map_none]

theorem read_shift {length : Nat} {pc : Int} {ws : List Int} {e : DecodeError}
    (h : read length pc ws = .error e) (n : Nat) :
    read (length + n) (pc + n) ws = .error (e.shift n) := by
  rcases read_eq_error_iff.1 h with
    ⟨rfl, rfl⟩ | ⟨w, rest, rfl, hw, rfl⟩ | ⟨w, d, rfl, hd, haux, rfl⟩
  · exact read_eq_error_iff.2 (Or.inl ⟨rfl, rfl⟩)
  · exact read_eq_error_iff.2 (Or.inr (Or.inl ⟨w, rest, rfl, hw, rfl⟩))
  · exact read_eq_error_iff.2 (Or.inr (Or.inr ⟨w, d, rfl, hd, haux, rfl⟩))

end Instruction

namespace Stream

theorem Decodes.shift {pc : Int} {ws : List Int} {is : List Instruction} (h : Decodes pc ws is)
    (n : Nat) : Decodes (pc + n) ws (is.map (·.shift n)) := by
  induction h with
  | nil pc => exact .nil _
  | @cons pc i ws is hi hpc _ ih =>
    refine .cons (hi.shift n) (by rw [Instruction.shift, hpc]) ?_
    rwa [show pc + n + (i.shift n).size = pc + i.size + n from by
      rw [show (i.shift n).size = i.size from rfl]; omega]

/-! ### The cases -/

/-- A stream is refused for one of two causes. -/
theorem eq_of_decode_error {ws : List Int} {e : DecodeError} (h : decode ws = .error e) :
    (∃ b, e = .unknownOpcode b) ∨ ∃ pc length, e = .truncated pc length := by
  obtain ⟨xs, ys, is, _, _, _, he⟩ := decode_eq_error_iff.1 h
  rcases Instruction.read_eq_error_iff.1 he with ⟨_, rfl⟩ | ⟨w, _, _, _, rfl⟩ | ⟨_, _, _, _, _, rfl⟩
  · exact Or.inr ⟨_, _, rfl⟩
  · exact Or.inl ⟨_, rfl⟩
  · exact Or.inr ⟨_, _, rfl⟩

theorem decode_append_of_ok {xs ys : List Int} {is js : List Instruction}
    (hx : decode xs = .ok is) (hy : decode ys = .ok js) :
    decode (xs ++ ys) = .ok (is ++ js.map (·.shift xs.length)) := by
  rw [decode_eq_ok_iff] at hx hy ⊢
  exact hx.append (hy.shift xs.length)

theorem decode_append_of_ok_error {xs ys : List Int} {is : List Instruction} {e : DecodeError}
    (hx : decode xs = .ok is) (hy : decode ys = .error e) :
    decode (xs ++ ys) = .error (e.shift xs.length) := by
  rw [decode_eq_ok_iff] at hx
  obtain ⟨us, vs, js, hne, rfl, hd, he⟩ := decode_eq_error_iff.1 hy
  refine decode_eq_error_iff.2 ⟨xs ++ us, vs, is ++ js.map (·.shift xs.length), hne,
    (List.append_assoc _ _ _).symm, hx.append (hd.shift xs.length), ?_⟩
  have := Instruction.read_shift he xs.length
  rwa [Nat.add_comm, ← List.length_append, Int.add_comm, ← Int.natCast_add,
    ← List.length_append] at this

theorem decode_append_of_unknownOpcode {xs : List Int} {b : Int}
    (h : decode xs = .error (.unknownOpcode b)) (ys : List Int) :
    decode (xs ++ ys) = .error (.unknownOpcode b) := by
  obtain ⟨us, vs, is, hne, rfl, hd, he⟩ := decode_eq_error_iff.1 h
  rcases Instruction.read_eq_error_iff.1 he with
    ⟨_, hb⟩ | ⟨w, rest, rfl, hw, hb⟩ | ⟨_, _, _, _, _, hb⟩
  · cases hb
  · refine decode_eq_error_iff.2 ⟨us, w :: (rest ++ ys), is, by simp, by simp, hd, ?_⟩
    exact Instruction.read_eq_error_iff.2 (Or.inr (Or.inl ⟨w, rest ++ ys, rfl, hw, hb⟩))
  · cases hb

/-- A stream that was cut before an auxiliary word is completed by any word. -/
theorem decode_append_of_truncated {xs : List Int} {pc : Int} {length : Nat}
    (h : decode xs = .error (.truncated pc length)) (w : Int) :
    ∃ (is : List Instruction) (i : Instruction), decode (xs ++ [w]) = .ok (is ++ [i]) ∧
      i.pc = xs.length - 1 ∧ i.aux = some w := by
  obtain ⟨us, vs, is, hne, rfl, hd, he⟩ := decode_eq_error_iff.1 h
  rcases Instruction.read_eq_error_iff.1 he with
    ⟨hnil, _⟩ | ⟨_, _, _, _, hb⟩ | ⟨v, d, rfl, hv, haux, _⟩
  · exact absurd hnil hne
  · cases hb
  · -- one word was left, and it asked for another: `w` is taken for it
    let i := Instruction.ofWords us.length d v (some w)
    have hi : i.Genuine := ⟨hv, rfl, haux.symm⟩
    refine ⟨is, i, decode_eq_ok_iff.2 ?_, ?_, rfl⟩
    · rw [List.append_assoc]
      exact hd.append (.singleton hi (Int.zero_add _).symm)
    · simp [i, Instruction.ofWords]

/-- **Decoding is compositional.**  The two parts of a stream are decoded one after the other, the
second one moved by the length of the first; an unknown opcode in the first part hides the second;
and a first part that lacks an auxiliary word takes the next word for it, whatever it is. -/
theorem decode_append (xs ys : List Int) :
    match decode xs with
    | .ok is =>
      match decode ys with
      | .ok js =>
        decode (xs ++ ys) = .ok (is ++ js.map (·.shift xs.length)) ∧
          ∀ j ∈ js, (j.shift xs.length).destination = j.destination.map (· + (xs.length : Int))
      | .error (.unknownOpcode b) => decode (xs ++ ys) = .error (.unknownOpcode b)
      | .error (.truncated pc length) =>
        decode (xs ++ ys) = .error (.truncated (pc + xs.length) (length + xs.length))
      | .error _ => False
    | .error (.unknownOpcode b) => decode (xs ++ ys) = .error (.unknownOpcode b)
    | .error (.truncated _ _) =>
      ∀ w : Int, ∃ (is : List Instruction) (i : Instruction),
        decode (xs ++ [w]) = .ok (is ++ [i]) ∧ i.pc = xs.length - 1 ∧ i.aux = some w
    | .error _ => False := by
  cases hx : decode xs with
  | ok is =>
    cases hy : decode ys with
    | ok js =>
      exact ⟨decode_append_of_ok hx hy, fun j _ => Instruction.destination_shift _ j⟩
    | error e =>
      rcases eq_of_decode_error hy with ⟨b, rfl⟩ | ⟨pc, length, rfl⟩
      · exact decode_append_of_ok_error hx hy
      · exact decode_append_of_ok_error hx hy
  | error e =>
    rcases eq_of_decode_error hx with ⟨b, rfl⟩ | ⟨pc, length, rfl⟩
    · exact decode_append_of_unknownOpcode hx ys
    · exact decode_append_of_truncated hx

end Stream

end LuauDisassembler
