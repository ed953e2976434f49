import Mathlib.Data.List.Basic
import LuauDisassembler.Dispatch

/-!
# What a dispatch table holds

An insertion fills one free slot and touches no other (`DispatchTable.insert_eq_ok_iff`), so the
table that `build` makes holds in each slot the descriptor of the list that belongs there, and
nothing else (`DispatchTable.get_of_build`).  For the instruction set this says that an opcode
byte and its descriptor determine each other.

* `Descriptor.ofByte_eq_ok_iff`: a byte stands for the descriptor of the set whose byte it is.
* `Descriptor.eq_of_ofByte_error`: any other integer is reported as it is.
* `Descriptor.ofName_name`, `Descriptor.name_injective`: names tell the descriptors of the set
  apart.
-/

namespace LuauDisassembler

namespace DispatchTable

theorem get_eq_getElem (t : DispatchTable) (k : Fin slotCount) : t.get k = t[k] := rfl

/-- **One insertion**: it takes a free slot and fills it. -/
theorem insert_eq_ok_iff {t t' : DispatchTable} {d : Descriptor} {k : Fin slotCount}
    (hk : d.byte = k) : t.insert d = .ok t' ↔ t.get k = none ∧ t' = t.set k (some d) := by
  subst hk
  rw [get_eq_getElem, insert]
  cases t[d.byte] <;> simp [eq_comm]

theorem insert_eq_error_iff {t : DispatchTable} {d : Descriptor} {e : TableError}
    {k : Fin slotCount} (hk : d.byte = k) :
    t.insert d = .error e ↔ ∃ earlier, t.get k = some earlier ∧ e = .keyTaken k earlier.name := by
  subst hk
  rw [get_eq_getElem, insert]
  cases t[d.byte] <;> simp [eq_comm]

theorem get_of_insert {t t' : DispatchTable} {d : Descriptor} (h : t.insert d = .ok t')
    (k : Fin slotCount) (e : Descriptor) :
    t'.get k = some e ↔ t.get k = some e ∨ e = d ∧ e.byte = k := by
  obtain ⟨hfree, rfl⟩ := (insert_eq_ok_iff rfl).1 h
  rw [get_eq_getElem, Fin.getElem_fin, Vector.getElem_set]
  by_cases hk : d.byte = k
  · subst hk
    rw [if_pos rfl, hfree, Option.some.injEq]
    constructor
    · rintro rfl
      exact Or.inr ⟨rfl, rfl⟩
    · rintro (he | ⟨rfl, -⟩)
      · cases he
      · rfl
  · rw [if_neg fun hv => hk (Fin.ext hv)]
    refine (or_iff_left ?_).symm
    rintro ⟨rfl, he⟩
    exact hk he

/-- A run of insertions keeps what was there and adds each descriptor in its own slot. -/
theorem get_of_foldlM {ds : List Descriptor} {t t' : DispatchTable}
    (h : ds.foldlM insert t = .ok t') (k : Fin slotCount) (d : Descriptor) :
    t'.get k = some d ↔ t.get k = some d ∨ d ∈ ds ∧ d.byte = k := by
  induction ds generalizing t with
  | nil =>
    cases h
    simp
  | cons e ds ih =>
    rw [List.foldlM_cons] at h
    cases hi : t.insert e with
    | error e' => rw [hi] at h; cases h
    | ok u =>
      rw [hi] at h
      rw [ih h, get_of_insert hi, List.mem_cons, or_and_right, or_assoc]

theorem get_empty (k : Fin slotCount) : empty.get k = none := by
  rw [empty, get_eq_getElem, Fin.getElem_fin, Vector.getElem_replicate]

/-- **A table holds exactly its descriptors**, each in the slot of its byte. -/
theorem get_of_build {ds : List Descriptor} {t : DispatchTable} (h : build ds = .ok t)
    (k : Fin slotCount) (d : Descriptor) : t.get k = some d ↔ d ∈ ds ∧ d.byte = k := by
  unfold build at h
  split at h
  · cases h
  · rw [get_of_foldlM h, get_empty]
    simp

theorem get?_eq_some_iff {t : DispatchTable} {byte : Int} {d : Descriptor} :
    t.get? byte = some d ↔ ∃ k : Fin slotCount, (k : Int) = byte ∧ t.get k = some d := by
  unfold get?
  split
  · rename_i hneg
    constructor
    · intro h
      cases h
    · rintro ⟨k, rfl, -⟩
      omega
  · rename_i hpos
    rw [Option.join_eq_some_iff]
    constructor
    · intro h
      obtain ⟨hlt, hd⟩ := Vector.getElem?_eq_some_iff.1 h
      exact ⟨⟨byte.toNat, hlt⟩, Int.toNat_of_nonneg (by omega), hd⟩
    · rintro ⟨k, rfl, hd⟩
      rw [Int.toNat_natCast]
      exact Vector.getElem?_eq_some_iff.2 ⟨k.isLt, hd⟩

end DispatchTable

namespace Descriptor

theorem ofByte_eq_ok_iff {byte : Int} {d : Descriptor} :
    ofByte byte = .ok d ↔ d ∈ all ∧ (d.byte : Int) = byte := by
  have hget : ofByte byte = .ok d ↔ DispatchTable.instructions.get? byte = some d := by
    unfold ofByte
    cases DispatchTable.instructions.get? byte <;> simp
  rw [hget, DispatchTable.get?_eq_some_iff]
  constructor
  · rintro ⟨k, rfl, hd⟩
    obtain ⟨hmem, rfl⟩ := (DispatchTable.get_of_build DispatchTable.build_all k d).1 hd
    exact ⟨hmem, rfl⟩
  · rintro ⟨hmem, hb⟩
    exact ⟨d.byte, hb, (DispatchTable.get_of_build DispatchTable.build_all _ d).2 ⟨hmem, rfl⟩⟩

theorem eq_of_ofByte_error {byte : Int} {e : DecodeError} (h : ofByte byte = .error e) :
    e = .unknownOpcode byte := by
  unfold ofByte at h
  split at h
  · cases h
  · cases h
    rfl

theorem ofName_name : ∀ d ∈ all, ofName d.name = .ok d := by decide +kernel

theorem name_injective {d d' : Descriptor} (h : d ∈ all) (h' : d' ∈ all) (hn : d.name = d'.name) :
    d = d' := by
  have := ofName_name d h
  rw [hn, ofName_name d' h'] at this
  exact (Except.ok.inj this).symm

end Descriptor

end LuauDisassembler
