import LuauDisassembler.Proofs.Dispatch.Collision

/-!
# Tables of entry lists

The descriptors of a list of entries are numbered by their positions, up to the sentinel.  Numbers
below 256 that differ are not congruent, so the descriptors never collide, whatever their names are:
all that can be wrong with a list is its length.  The inverse of the slot factor leads from a slot
back to the one entry that can be in it.

* `Descriptor.length_ofEntries`, `Descriptor.getElem?_ofEntries`: the descriptors of a list.
* `Descriptor.incongruent_ofEntries`: their numbers.
* `slotOf_natCast_eq_iff`: the position of the entry that belongs into a slot.
* `DispatchTable.build_ofEntries_classifies`: what `build` makes of them.
-/

namespace LuauDisassembler

/-! ### The descriptors of a list of entries -/

namespace Descriptor

variable (entries : List Entry)

/-- The position of the first entry that has the name of the sentinel; the length of the list if there
is none. -/
def sentinelIdx : Nat := entries.findIdx (·.name == endOfEntries)

theorem sentinelIdx_le_length : sentinelIdx entries ≤ entries.length := List.findIdx_le_length

theorem ofEntries_eq : ofEntries entries =
    (entries.take (sentinelIdx entries)).zipIdx.map fun (e, i) => { e with index := i } := by
  rw [ofEntries, List.takeWhile_eq_take_findIdx_not]
  simp only [bne, Bool.not_not, sentinelIdx]

theorem length_ofEntries : (ofEntries entries).length = sentinelIdx entries := by
  rw [ofEntries_eq, List.length_map, List.length_zipIdx, List.length_take,
    Nat.min_eq_left (sentinelIdx_le_length entries)]

theorem getElem?_ofEntries (i : Nat) (d : Descriptor) : (ofEntries entries)[i]? = some d ↔
    i < sentinelIdx entries ∧ ∃ e, entries[i]? = some e ∧ d = { e with index := i } := by
  rw [ofEntries_eq, List.getElem?_map, List.getElem?_zipIdx, List.getElem?_take]
  by_cases hi : i < sentinelIdx entries
  · simp [hi, eq_comm]
  · simp [hi]

theorem mem_ofEntries_iff {d : Descriptor} : d ∈ ofEntries entries ↔
    ∃ i < sentinelIdx entries, ∃ e, entries[i]? = some e ∧ d = { e with index := i } := by
  simp only [List.mem_iff_getElem?, getElem?_ofEntries]

/-- **Positions below 256 are not congruent.** -/
theorem incongruent_ofEntries (h : sentinelIdx entries ≤ 256) : Incongruent (ofEntries entries) := by
  rw [Incongruent, List.pairwise_iff_getElem]
  intro i j hi hj hij
  obtain ⟨hi', e, -, hd⟩ := (getElem?_ofEntries entries i _).1 (List.getElem?_eq_getElem hi)
  obtain ⟨hj', e', -, hd'⟩ := (getElem?_ofEntries entries j _).1 (List.getElem?_eq_getElem hj)
  rw [hd, hd']
  show ¬ (i : Int) % 256 = (j : Int) % 256
  omega

end Descriptor

/-! ### Their slots -/

/-- **The inverse of the slot factor** leads from a slot to the one position that belongs there. -/
theorem slotOf_natCast_eq_iff {i : Nat} (hi : i < 256) {k : Fin slotCount} :
    slotOf i = k ↔ i = 203 * (k : Nat) % 256 := by
  have hk : (k : Nat) < 256 := k.isLt
  rw [slotOf_eq_iff]
  omega

namespace DispatchTable

open Descriptor (ofEntries sentinelIdx)

variable {entries : List Entry}

theorem exists_build_ofEntries_iff :
    (∃ t, build (ofEntries entries) = .ok t) ↔ sentinelIdx entries ≤ 256 := by
  rw [exists_build_iff, Descriptor.length_ofEntries]
  exact and_iff_left_of_imp (Descriptor.incongruent_ofEntries entries)

/-- **Only the length is ever reported**: no two descriptors of a list of entries collide. -/
theorem build_ofEntries_eq_error_iff {e : TableError} : build (ofEntries entries) = .error e ↔
    256 < sentinelIdx entries ∧ e = .tooManyOpcodes (sentinelIdx entries) := by
  by_cases h : sentinelIdx entries ≤ 256
  · obtain ⟨t, ht⟩ := exists_build_ofEntries_iff.2 h
    rw [ht]
    constructor
    · intro he
      cases he
    · rintro ⟨hlt, -⟩
      omega
  · have hlt : slotCount < (ofEntries entries).length := by
      rw [Descriptor.length_ofEntries]
      exact Nat.lt_of_not_le h
    rw [build_of_lt hlt, Descriptor.length_ofEntries, Except.error.injEq, eq_comm]
    exact (and_iff_right (Nat.lt_of_not_le h)).symm

/-- A slot holds the entry whose position belongs there, if there is one before the sentinel. -/
theorem get_of_build_ofEntries {t : DispatchTable} (h : build (ofEntries entries) = .ok t)
    (k : Fin slotCount) (d : Descriptor) : t.get k = some d ↔
      ∃ i < sentinelIdx entries, i = 203 * (k : Nat) % 256 ∧
        ∃ e, entries[i]? = some e ∧ d = { e with index := i } := by
  have hle := exists_build_ofEntries_iff.1 ⟨t, h⟩
  rw [get_of_build h, Descriptor.mem_ofEntries_iff]
  constructor
  · rintro ⟨⟨i, hi, e, he, rfl⟩, hbyte⟩
    exact ⟨i, hi, (slotOf_natCast_eq_iff (by omega)).1 hbyte, e, he, rfl⟩
  · rintro ⟨i, hi, hk, e, he, rfl⟩
    exact ⟨⟨i, hi, e, he, rfl⟩, (slotOf_natCast_eq_iff (by omega)).2 hk⟩

/-- **Tables of entry lists never collide.**  A list has a table exactly if there are at most 256
entries before the sentinel, and otherwise it is refused for their number.  Slot `k` holds the entry
at position `203 * k` modulo 256, numbered by that position, if it is before the sentinel; otherwise
the slot is empty.  So nothing at the sentinel or behind it gets into the table. -/
theorem build_ofEntries_classifies (entries : List Entry) :
    ((∃ t, build (ofEntries entries) = .ok t) ↔ sentinelIdx entries ≤ 256) ∧
    (∀ e, build (ofEntries entries) = .error e ↔
      256 < sentinelIdx entries ∧ e = .tooManyOpcodes (sentinelIdx entries)) ∧
    ∀ t, build (ofEntries entries) = .ok t →
      (∀ (k : Fin slotCount) (i : Nat), i = 203 * (k : Nat) % 256 →
        (i < sentinelIdx entries →
          ∃ e, entries[i]? = some e ∧ t.get k = some { e with index := i }) ∧
        (sentinelIdx entries ≤ i → t.get k = none)) ∧
      ∀ (k : Fin slotCount) d, t.get k = some d → d.index < sentinelIdx entries := by
  refine ⟨exists_build_ofEntries_iff, fun e => build_ofEntries_eq_error_iff, fun t h => ⟨?_, ?_⟩⟩
  · intro k i hk
    constructor
    · intro hi
      have hlength := Descriptor.sentinelIdx_le_length entries
      have he : entries[i]? = some entries[i] := List.getElem?_eq_getElem (by omega)
      exact ⟨entries[i], he, (get_of_build_ofEntries h k _).2 ⟨i, hi, hk, _, he, rfl⟩⟩
    · intro hi
      rw [Option.eq_none_iff_forall_ne_some]
      intro d hd
      obtain ⟨j, hj, hjk, -⟩ := (get_of_build_ofEntries h k d).1 hd
      omega
  · intro k d hd
    obtain ⟨i, hi, -, e, -, rfl⟩ := (get_of_build_ofEntries h k d).1 hd
    exact Int.ofNat_lt.2 hi

-- a repeated name is no collision
example : (build (ofEntries [{ name := "A", shape := .empty }, { name := "A", shape := .ab },
    { name := "_COUNT", shape := .empty }, { name := "B", shape := .a }])).map occupied =
      .ok [(0, "A"), (227, "A")] := by decide +kernel

end DispatchTable

end LuauDisassembler
