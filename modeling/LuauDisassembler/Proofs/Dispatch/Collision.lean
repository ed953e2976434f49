import Mathlib.Data.Int.ModEq
import Mathlib.Data.List.Basic
import LuauDisassembler.Proofs.Dispatch.Table

/-!
# Which descriptors share a table

The slot of a descriptor is its number times 227, modulo 256.  The factor has an inverse modulo 256,
which is 203, so two descriptors want one slot exactly if their numbers are congruent.  The loop
that fills a table therefore comes to the end of the list exactly if no two numbers in it are
congruent, and the table that it leaves does not depend on the order.  What does depend on it is the
report of a collision: it names the first descriptor whose slot is taken.

* `slotOf_eq_iff`, `slotOf_eq_slotOf_iff`: numbers and slots.
* `DispatchTable.foldlM_insert_eq_error_iff`, `DispatchTable.exists_foldlM_insert_iff`: a run of
  insertions that fails, and one that comes to its end.
* `DispatchTable.exists_build_iff`, `DispatchTable.build_of_perm`: which lists have a table, and that
  their order does not count.
* `DispatchTable.build_eq_error_iff`: the collision that is reported.
* `DispatchTable.build_classifies`: what `build` makes of any list.
-/

namespace LuauDisassembler

/-! ### Slots -/

theorem coe_slotOf (i : Int) : (slotOf i : Int) = 227 * i % 256 := by
  have hnonneg := Int.emod_nonneg (i * slotFactor) (by decide : (256 : Int) ≠ 0)
  rw [slotOf, Int.toNat_of_nonneg hnonneg, slotFactor, Int.mul_comm]

theorem slotOf_eq_iff {i : Int} {k : Fin slotCount} : slotOf i = k ↔ 227 * i % 256 = k := by
  rw [← coe_slotOf, Int.natCast_inj, Fin.ext_iff]

/-- The factor that scatters the numbers has the inverse 203. -/
theorem inverse_slotOf (i : Int) : 203 * (slotOf i : Int) % 256 = i % 256 := by
  rw [coe_slotOf]
  omega

/-- **Two numbers want one slot** exactly if they are congruent. -/
theorem slotOf_eq_slotOf_iff {i j : Int} : slotOf i = slotOf j ↔ i ≡ j [ZMOD 256] := by
  constructor
  · intro h
    have hi := inverse_slotOf i
    rw [h, inverse_slotOf j] at hi
    exact hi.symm
  · intro h
    rw [slotOf_eq_iff, coe_slotOf]
    exact h.mul_left 227

namespace Descriptor

/-- No two descriptors of the list have congruent numbers. -/
def Incongruent (ds : List Descriptor) : Prop :=
  ds.Pairwise fun d e => ¬ d.index ≡ e.index [ZMOD 256]

theorem incongruent_iff {ds : List Descriptor} :
    Incongruent ds ↔ ds.Pairwise fun d e => d.byte ≠ e.byte :=
  List.Pairwise.iff fun {_ _} => not_congr slotOf_eq_slotOf_iff.symm

theorem Incongruent.of_perm {ds ds' : List Descriptor} (h : Incongruent ds) (hp : ds'.Perm ds) :
    Incongruent ds' :=
  (hp.pairwise_iff fun hne he => hne he.symm).2 h

/-- At position `j` of the list stands the first descriptor whose number is congruent to that of an
earlier one. -/
structure FirstCollision (ds : List Descriptor) (j : Nat) (d earlier : Descriptor) : Prop where
  getElem?_eq : ds[j]? = some d
  earlier_mem : earlier ∈ ds.take j
  congruent : earlier.index ≡ d.index [ZMOD 256]
  incongruent : Incongruent (ds.take j)

end Descriptor

namespace DispatchTable

open Descriptor (Incongruent FirstCollision)

variable {ds ds' : List Descriptor} {t u : DispatchTable} {d : Descriptor} {e : TableError}

/-! ### One insertion -/

/-- An insertion leaves all slots free that were free, except its own. -/
theorem get_eq_none_of_insert (h : t.insert d = .ok u) (k : Fin slotCount) :
    u.get k = none ↔ t.get k = none ∧ d.byte ≠ k := by
  simp only [Option.eq_none_iff_forall_ne_some, ne_eq, get_of_insert h, not_or]
  constructor
  · intro hfree
    exact ⟨fun x => (hfree x).1, fun hd => (hfree d).2 ⟨rfl, hd⟩⟩
  · rintro ⟨hfree, hd⟩ x
    refine ⟨hfree x, ?_⟩
    rintro ⟨rfl, hx⟩
    exact hd hx

/-! ### A run of insertions -/

/-- A run goes on from the table that its first insertion leaves. -/
theorem foldlM_insert_cons_of_ok (h : t.insert d = .ok u) :
    (d :: ds).foldlM insert t = ds.foldlM insert u := by
  rw [List.foldlM_cons, h]
  rfl

theorem foldlM_insert_cons_of_error (h : t.insert d = .error e) :
    (d :: ds).foldlM insert t = .error e := by
  rw [List.foldlM_cons, h]
  rfl

/-- **A run that fails** fails at the first insertion that does. -/
theorem foldlM_insert_eq_error_iff : ds.foldlM insert t = .error e ↔
    ∃ j d u, ds[j]? = some d ∧ (ds.take j).foldlM insert t = .ok u ∧ u.insert d = .error e := by
  induction ds generalizing t with
  | nil => simp [pure, Except.pure]
  | cons d ds ih =>
    cases hd : t.insert d with
    | error e' =>
      rw [foldlM_insert_cons_of_error hd]
      constructor
      · intro h
        exact ⟨0, d, t, rfl, rfl, hd.trans h⟩
      · rintro ⟨j, d', u, hj, hrun, he⟩
        cases j with
        | zero =>
          cases hj
          cases hrun
          rw [← he, hd]
        | succ j =>
          rw [List.take_succ_cons, foldlM_insert_cons_of_error hd] at hrun
          cases hrun
    | ok t' =>
      rw [foldlM_insert_cons_of_ok hd, ih]
      constructor
      · rintro ⟨j, d', u, hj, hrun, he⟩
        refine ⟨j + 1, d', u, hj, ?_, he⟩
        rw [List.take_succ_cons, foldlM_insert_cons_of_ok hd, hrun]
      · rintro ⟨j, d', u, hj, hrun, he⟩
        cases j with
        | zero =>
          cases hj
          cases hrun
          rw [hd] at he
          cases he
        | succ j =>
          rw [List.take_succ_cons, foldlM_insert_cons_of_ok hd] at hrun
          exact ⟨j, d', u, hj, hrun, he⟩

/-- **A run comes to its end** exactly if the slots that it needs are free and differ. -/
theorem exists_foldlM_insert_iff : (∃ u, ds.foldlM insert t = .ok u) ↔
    (∀ d ∈ ds, ∀ k, d.byte = k → t.get k = none) ∧ ds.Pairwise fun d e => d.byte ≠ e.byte := by
  induction ds generalizing t with
  | nil => exact ⟨fun _ => ⟨by simp, .nil⟩, fun _ => ⟨t, rfl⟩⟩
  | cons d ds ih =>
    cases hd : t.insert d with
    | error e =>
      rw [foldlM_insert_cons_of_error hd]
      obtain ⟨earlier, htaken, -⟩ := (insert_eq_error_iff rfl).1 hd
      constructor
      · rintro ⟨u, hu⟩
        cases hu
      · rintro ⟨hfree, -⟩
        rw [hfree d List.mem_cons_self _ rfl] at htaken
        cases htaken
    | ok u =>
      obtain ⟨hfree, -⟩ := (insert_eq_ok_iff rfl).1 hd
      rw [foldlM_insert_cons_of_ok hd, ih]
      simp only [get_eq_none_of_insert hd, List.forall_mem_cons, List.pairwise_cons]
      constructor
      · rintro ⟨hds, hpairwise⟩
        refine ⟨⟨?_, fun x hx k hk => (hds x hx k hk).1⟩, fun x hx => (hds x hx _ rfl).2, hpairwise⟩
        rintro k rfl
        exact hfree
      · rintro ⟨⟨-, hds⟩, hne, hpairwise⟩
        refine ⟨fun x hx k hk => ⟨hds x hx k hk, ?_⟩, hpairwise⟩
        rw [← hk]
        exact hne x hx

/-! ### Tables -/

/-- A run from the empty table comes to its end exactly if no two numbers are congruent. -/
theorem exists_foldlM_insert_empty_iff :
    (∃ u, ds.foldlM insert empty = .ok u) ↔ Incongruent ds := by
  rw [exists_foldlM_insert_iff, Descriptor.incongruent_iff]
  refine and_iff_right ?_
  intro d _ k _
  exact get_empty k

theorem build_of_le (h : ds.length ≤ slotCount) : build ds = ds.foldlM insert empty := by
  rw [build, if_neg (Nat.not_lt.2 h)]

theorem build_of_lt (h : slotCount < ds.length) : build ds = .error (.tooManyOpcodes ds.length) := by
  rw [build, if_pos h]

/-- **A list has a table** exactly if it is no longer than a table and no two numbers in it are
congruent. -/
theorem exists_build_iff :
    (∃ t, build ds = .ok t) ↔ ds.length ≤ slotCount ∧ Incongruent ds := by
  by_cases h : ds.length ≤ slotCount
  · rw [build_of_le h, exists_foldlM_insert_empty_iff, and_iff_right h]
  · rw [build_of_lt (Nat.not_le.1 h)]
    constructor
    · rintro ⟨t, ht⟩
      cases ht
    · rintro ⟨hle, -⟩
      exact absurd hle h

/-- **The order of the list does not count** once there is a table. -/
theorem build_of_perm (hp : ds'.Perm ds) (h : build ds = .ok t) : build ds' = .ok t := by
  obtain ⟨hle, hds⟩ := exists_build_iff.1 ⟨t, h⟩
  obtain ⟨t', h'⟩ := exists_build_iff.2 ⟨hp.length_eq.trans_le hle, hds.of_perm hp⟩
  have hslot (k : Fin slotCount) : t'.get k = t.get k := by
    apply Option.ext
    intro d
    rw [get_of_build h', get_of_build h, hp.mem_iff]
  have ht : t' = t := Vector.ext fun k hk => hslot ⟨k, hk⟩
  rw [h', ht]

/-- **The first collision** is what a table of no more than 256 descriptors fails at. -/
theorem build_eq_error_iff (h : ds.length ≤ slotCount) : build ds = .error e ↔
    ∃ j d earlier, FirstCollision ds j d earlier ∧ e = .keyTaken (slotOf d.index) earlier.name := by
  rw [build_of_le h, foldlM_insert_eq_error_iff]
  constructor
  · rintro ⟨j, d, u, hj, hrun, he⟩
    obtain ⟨earlier, htaken, rfl⟩ := (insert_eq_error_iff rfl).1 he
    have hearlier := (get_of_foldlM hrun _ _).1 htaken
    rw [get_empty] at hearlier
    obtain ⟨hmem, hbyte⟩ := hearlier.resolve_left (by simp)
    have hincongruent := exists_foldlM_insert_empty_iff.1 ⟨u, hrun⟩
    exact ⟨j, d, earlier, ⟨hj, hmem, slotOf_eq_slotOf_iff.1 hbyte, hincongruent⟩, rfl⟩
  · rintro ⟨j, d, earlier, ⟨hj, hmem, hcongruent, hincongruent⟩, rfl⟩
    obtain ⟨u, hrun⟩ := exists_foldlM_insert_empty_iff.2 hincongruent
    have htaken := (get_of_foldlM hrun (slotOf d.index) earlier).2
      (Or.inr ⟨hmem, slotOf_eq_slotOf_iff.2 hcongruent⟩)
    exact ⟨j, d, u, hj, hrun, (insert_eq_error_iff rfl).2 ⟨earlier, htaken, rfl⟩⟩

open Text in
/-- **What becomes of any list of descriptors.**  There is a table of it exactly if it has at most 256
descriptors, no two of them with congruent numbers; the table then holds each descriptor at 227 times
its number modulo 256, nothing in any other slot, and it is the table of every permutation of the
list.  A longer list is refused for its length, whatever the numbers are, and any other list for the
first number that is congruent to an earlier one. -/
theorem build_classifies (ds : List Descriptor) :
    ((∃ t, build ds = .ok t) ↔ ds.length ≤ 256 ∧ Incongruent ds) ∧
    (∀ t, build ds = .ok t →
      (∀ (k : Fin slotCount) d, t.get k = some d ↔ d ∈ ds ∧ 227 * d.index % 256 = k) ∧
      ∀ ds', ds'.Perm ds → build ds' = .ok t) ∧
    (256 < ds.length → build ds = .error (.tooManyOpcodes ds.length)) ∧
    (ds.length ≤ 256 → ∀ e, build ds = .error e ↔ ∃ j d earlier, FirstCollision ds j d earlier ∧
      ∃ k : Fin slotCount, 227 * d.index % 256 = k ∧ e = .keyTaken k earlier.name) ∧
    (∀ n, (TableError.tooManyOpcodes n).message = "Too many opcodes: " ++ decimal n) ∧
    ∀ k name, (TableError.keyTaken k name).message =
      "Dispatch key " ++ decimal (k : Nat) ++ " taken by " ++ name := by
  refine ⟨exists_build_iff, ?_, build_of_lt, ?_, fun n => rfl, fun k name => rfl⟩
  · intro t h
    refine ⟨fun k d => ?_, fun ds' hp => build_of_perm hp h⟩
    rw [get_of_build h, Descriptor.byte, slotOf_eq_iff]
  · intro h e
    simp only [build_eq_error_iff h, ← slotOf_eq_iff, exists_eq_left']

-- the numbers -1 and 255 are congruent
example : build [{ name := "A", shape := .empty, index := -1 },
    { name := "B", shape := .a, index := 255 }] = .error (.keyTaken ⟨29, by decide⟩ "A") := by decide +kernel

end DispatchTable

end LuauDisassembler
