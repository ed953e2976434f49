import Mathlib.Tactic.Common
import Mathlib.Data.List.Nodup
import LuauDisassembler.Settings

/-!
# What an update does to each setting

An update is no transaction.  It goes through the settings in their order and stops at the first
value that is refused; what it has done until then stays.  So a setting gets the value that is given
for it if this value and all those given before it are accepted, and otherwise it keeps what it had.

The loop is over a list of settings.  It runs to the end of the list exactly if all values given for
its settings are accepted, and a loop that stops has run through the settings before the one that
refuses.  `Setting.position` counts the settings in their order, so that the list is not mentioned
afterwards.

* `Settings.exists_assign`, `Settings.assign_of_not_accepts`: what a single setting does.
* `Settings.updateAll_eq_accepted_iff`, `Settings.updateAll_eq_refused_iff`: the loop over a list.
* `Settings.update_eq_accepted_iff`: an update that is accepted, setting by setting.
* `Settings.update_eq_refused_iff`: an update that is refused, setting by setting.
* `Settings.value_update_of_writes`, `Settings.value_update_of_not_writes`: one setting after an
  update, accepted or not.
-/

namespace LuauDisassembler

/-! ### Values of settings -/

namespace ByteOrder

theorem name_of_ofName? {t : String} {o : ByteOrder} (h : ofName? t = some o) : o.name = t := by
  simpa using List.find?_some h

theorem name_injective : Function.Injective name := by
  intro o o' h
  have := ofName?_name o
  rw [h, ofName?_name] at this
  exact (Option.some.inj this).symm

end ByteOrder

namespace Setting

/-- The place of the setting in the order in which changes are made. -/
def position (k : Setting) : Nat := all.idxOf k

/-- The values that a setting can have. -/
inductive Accepts : Setting → Value → Prop
  | showPc (b : Bool) : Accepts .showPc (.bool b)
  | showRaw (b : Bool) : Accepts .showRaw (.bool b)
  | resolveBuiltins (b : Bool) : Accepts .resolveBuiltins (.bool b)
  | byteOrder (o : ByteOrder) : Accepts .byteOrder (.string o.name)

/-- The cause for which a setting refuses a value. -/
def refusal : Setting → Value → SettingError
  | .byteOrder, v => .unsupportedByteOrder v
  | k, v => .notBoolean k v

/-- The settings before `k` are those in front of it in the list. -/
theorem mem_iff_position_lt {k k' : Setting} {pre post : List Setting}
    (h : all = pre ++ k :: post) : k' ∈ pre ↔ k'.position < k.position := by
  have hnodup : (pre ++ k :: post).Nodup := h ▸ (by decide)
  have hk : k ∉ pre := fun hm =>
    (List.nodup_append.1 hnodup).2.2 k hm k List.mem_cons_self rfl
  have hposition : k.position = pre.length := by
    rw [position, h, List.idxOf_append_of_notMem hk, List.idxOf_cons_self, Nat.add_zero]
  rw [hposition, position, h]
  constructor
  · intro hm
    rw [List.idxOf_append_of_mem hm]
    exact List.idxOf_lt_length_of_mem hm
  · intro hlt
    by_contra hm
    rw [List.idxOf_append_of_notMem hm] at hlt
    omega

end Setting

namespace Settings

/-- The value that a setting has. -/
def value (s : Settings) : Setting → Value
  | .showPc => .bool s.showPc
  | .showRaw => .bool s.showRaw
  | .byteOrder => .string s.byteOrder.name
  | .resolveBuiltins => .bool s.resolveBuiltins

theorem accepts_value (s : Settings) (k : Setting) : k.Accepts (s.value k) := by
  cases k with
  | showPc => exact .showPc _
  | showRaw => exact .showRaw _
  | resolveBuiltins => exact .resolveBuiltins _
  | byteOrder => exact .byteOrder _

/-- Settings are determined by their values. -/
theorem eq_of_value_eq {s s' : Settings} (h : ∀ k, s.value k = s'.value k) : s = s' := by
  have hpc : s.showPc = s'.showPc := Value.bool.inj (h .showPc)
  have hraw : s.showRaw = s'.showRaw := Value.bool.inj (h .showRaw)
  have hbuiltins : s.resolveBuiltins = s'.resolveBuiltins := Value.bool.inj (h .resolveBuiltins)
  have horder : s.byteOrder = s'.byteOrder :=
    ByteOrder.name_injective (Value.string.inj (h .byteOrder))
  obtain ⟨pc, raw, order, builtins⟩ := s
  simp only at hpc hraw hbuiltins horder
  rw [hpc, hraw, hbuiltins, horder]

end Settings

/-! ### One setting -/

namespace Settings

/-- A value that is accepted changes its setting and no other. -/
theorem exists_assign {k : Setting} {v : Value} (h : k.Accepts v) (s : Settings) :
    ∃ s', s.assign k v = .ok s' ∧ s'.value k = v ∧ ∀ k' ≠ k, s'.value k' = s.value k' := by
  have hframe : ∃ s', s.assign k v = .ok s' ∧ s'.value k = v ∧
      ∀ k', k' = k ∨ s'.value k' = s.value k' := by
    cases h with
    | showPc b => exact ⟨{ s with showPc := b }, rfl, rfl, fun k' => by cases k' <;> simp [value]⟩
    | showRaw b => exact ⟨{ s with showRaw := b }, rfl, rfl, fun k' => by cases k' <;> simp [value]⟩
    | resolveBuiltins b =>
      exact ⟨{ s with resolveBuiltins := b }, rfl, rfl, fun k' => by cases k' <;> simp [value]⟩
    | byteOrder o =>
      refine ⟨{ s with byteOrder := o }, ?_, rfl, fun k' => by cases k' <;> simp [value]⟩
      rw [assign, ByteOrder.ofName?_name]
  obtain ⟨s', hassign, hvalue, hother⟩ := hframe
  exact ⟨s', hassign, hvalue, fun k' hk' => (hother k').resolve_left hk'⟩

theorem assign_of_not_accepts {k : Setting} {v : Value} (h : ¬ k.Accepts v) (s : Settings) :
    s.assign k v = .error (k.refusal v) := by
  cases k with
  | byteOrder =>
    cases v with
    | string t =>
      cases ho : ByteOrder.ofName? t with
      | none => rw [assign, ho]; rfl
      | some o =>
        rw [← ByteOrder.name_of_ofName? ho] at h
        exact absurd (.byteOrder o) h
    | _ => rfl
  | showPc | showRaw | resolveBuiltins =>
    cases v with
    | bool b => exact absurd (by constructor) h
    | _ => rfl

end Settings

/-! ### A list of changes -/

namespace Changes

/-- The value that a setting is to get, if it is to get one. -/
def given (changes : Changes) (k : Setting) : Option Value :=
  match changes k with
  | none | some .null => none
  | some v => some v

/-- The changes give `v` to `k`, and no value is refused until then. -/
structure Writes (changes : Changes) (k : Setting) (v : Value) : Prop where
  given_eq : changes.given k = some v
  accepts : ∀ k' v', k'.position ≤ k.position → changes.given k' = some v' → k'.Accepts v'

/-- The changes give to `k` the first value that is refused, and it is `v`. -/
structure StopsAt (changes : Changes) (k : Setting) (v : Value) : Prop where
  given_eq : changes.given k = some v
  not_accepts : ¬ k.Accepts v
  accepts : ∀ k' v', k'.position < k.position → changes.given k' = some v' → k'.Accepts v'

end Changes

namespace Settings

variable {changes : Changes} {s s' : Settings} {k : Setting} {ks : List Setting} {v : Value}

theorem updateAll_nil : updateAll changes s [] = (s, none) := rfl

theorem updateAll_of_given_none (h : changes.given k = none) :
    updateAll changes s (k :: ks) = updateAll changes s ks := by
  rw [updateAll]
  rw [Changes.given] at h
  cases hk : changes k with
  | none => rfl
  | some w =>
    rw [hk] at h
    cases w with
    | null => rfl
    | _ => cases h

theorem updateAll_of_given (h : changes.given k = some v) :
    updateAll changes s (k :: ks) =
      match s.assign k v with
      | .ok s' => updateAll changes s' ks
      | .error e => (s, some e) := by
  rw [updateAll]
  rw [Changes.given] at h
  cases hk : changes k with
  | none =>
    rw [hk] at h
    cases h
  | some w =>
    rw [hk] at h
    cases w with
    | null => cases h
    | _ =>
      obtain rfl := Option.some.inj h
      rfl

/-- A value that is accepted is taken over, and the loop goes on. -/
theorem exists_updateAll_of_accepts (hgiven : changes.given k = some v) (h : k.Accepts v) :
    ∃ s₁, (∀ ks, updateAll changes s (k :: ks) = updateAll changes s₁ ks) ∧ s₁.value k = v ∧
      ∀ k' ≠ k, s₁.value k' = s.value k' := by
  obtain ⟨s₁, hassign, hvalue, hother⟩ := exists_assign h s
  refine ⟨s₁, fun ks => ?_, hvalue, hother⟩
  rw [updateAll_of_given hgiven, hassign]

/-- A value that is refused ends the loop. -/
theorem updateAll_of_not_accepts (hgiven : changes.given k = some v) (h : ¬ k.Accepts v) :
    updateAll changes s (k :: ks) = (s, some (k.refusal v)) := by
  rw [updateAll_of_given hgiven, assign_of_not_accepts h]

/-- **The loop runs to its end** exactly if all values are accepted, and then its settings have the
values that are given. -/
theorem updateAll_eq_accepted_iff : updateAll changes s ks = (s', none) ↔
    (∀ k ∈ ks, ∀ v, changes.given k = some v → k.Accepts v) ∧
    ∀ k, s'.value k = if k ∈ ks then (changes.given k).getD (s.value k) else s.value k := by
  induction ks generalizing s with
  | nil =>
    simp only [updateAll_nil, Prod.mk.injEq, and_true, List.not_mem_nil, false_imp_iff, implies_true,
      true_and, if_false]
    exact ⟨fun h k => by rw [h], fun h => eq_of_value_eq fun k => (h k).symm⟩
  | cons k₀ ks ih =>
    cases hgiven : changes.given k₀ with
    | none =>
      rw [updateAll_of_given_none hgiven, ih]
      simp only [List.forall_mem_cons, hgiven, reduceCtorEq, false_imp_iff, implies_true, true_and]
      refine and_congr_right fun _ => forall_congr' fun k => ?_
      by_cases hk : k = k₀
      · subst hk
        simp [hgiven]
      · simp [hk]
    | some v =>
      by_cases h : k₀.Accepts v
      · obtain ⟨s₁, hrun, hvalue, hother⟩ := exists_updateAll_of_accepts (s := s) hgiven h
        rw [hrun, ih]
        simp only [List.forall_mem_cons, hgiven, Option.some.injEq, forall_eq', h, true_and]
        refine and_congr_right fun _ => forall_congr' fun k => ?_
        by_cases hk : k = k₀
        · subst hk
          simp [hgiven, hvalue]
        · simp [hk, hother k hk]
      · rw [updateAll_of_not_accepts hgiven h]
        simp only [Prod.mk.injEq, reduceCtorEq, and_false, List.forall_mem_cons, false_iff]
        rintro ⟨⟨haccepts, -⟩, -⟩
        exact h (haccepts v hgiven)

/-- A list is split at its first setting, or behind it. -/
theorem exists_split_cons_iff {k₀ : Setting} {P : List Setting → Setting → Prop} :
    (∃ pre k post, k₀ :: ks = pre ++ k :: post ∧ P pre k) ↔
      P [] k₀ ∨ ∃ pre k post, ks = pre ++ k :: post ∧ P (k₀ :: pre) k := by
  constructor
  · rintro ⟨pre, k, post, heq, h⟩
    cases pre with
    | nil =>
      cases heq
      exact Or.inl h
    | cons k₁ pre =>
      cases heq
      exact Or.inr ⟨pre, k, post, rfl, h⟩
  · rintro (h | ⟨pre, k, post, rfl, h⟩)
    · exact ⟨[], k₀, ks, rfl, h⟩
    · exact ⟨k₀ :: pre, k, post, rfl, h⟩

/-- **The loop stops** at a value that is refused, and has run through the settings before it. -/
theorem updateAll_eq_refused_iff {e : SettingError} : updateAll changes s ks = (s', some e) ↔
    ∃ pre k post, ks = pre ++ k :: post ∧ ∃ v, updateAll changes s pre = (s', none) ∧
      changes.given k = some v ∧ ¬ k.Accepts v ∧ e = k.refusal v := by
  induction ks generalizing s with
  | nil => simp [updateAll_nil]
  | cons k₀ ks ih =>
    -- the loop stops at `k₀`, or it goes on from the settings that `k₀` leaves
    rw [exists_split_cons_iff]
    cases hgiven : changes.given k₀ with
    | none => simp [updateAll_of_given_none hgiven, ih]
    | some v =>
      by_cases h : k₀.Accepts v
      · obtain ⟨s₁, hrun, -, -⟩ := exists_updateAll_of_accepts (s := s) hgiven h
        simp [hrun, h, ih]
      · have hstop (ks : List Setting) :
            updateAll changes s (k₀ :: ks) = (s, some (k₀.refusal v)) :=
          updateAll_of_not_accepts hgiven h
        simp [hstop, updateAll_nil, h, eq_comm]

/-! ### Updates -/

/-- **An update that is accepted** gives each setting its value. -/
theorem update_eq_accepted_iff : s.update changes = (s', none) ↔
    (∀ k v, changes.given k = some v → k.Accepts v) ∧
    ∀ k, s'.value k = (changes.given k).getD (s.value k) := by
  simp [update, updateAll_eq_accepted_iff, Setting.mem_all]

/-- **An update that is refused** changes exactly the settings before the one that refuses. -/
theorem update_eq_refused_iff {e : SettingError} : s.update changes = (s', some e) ↔
    ∃ k v, changes.StopsAt k v ∧ e = k.refusal v ∧ ∀ k', s'.value k' =
      if k'.position < k.position then (changes.given k').getD (s.value k') else s.value k' := by
  rw [update, updateAll_eq_refused_iff]
  constructor
  · rintro ⟨pre, k, post, hsplit, v, hrun, hgiven, hv, rfl⟩
    obtain ⟨hpre, hvalue⟩ := updateAll_eq_accepted_iff.1 hrun
    refine ⟨k, v, ⟨hgiven, hv, fun k' v' hk' => ?_⟩, rfl, fun k' => ?_⟩
    · exact hpre k' ((Setting.mem_iff_position_lt hsplit).2 hk') v'
    · simp only [hvalue, Setting.mem_iff_position_lt hsplit]
  · rintro ⟨k, v, ⟨hgiven, hv, hbefore⟩, rfl, hvalue⟩
    obtain ⟨pre, post, hsplit⟩ := List.append_of_mem k.mem_all
    refine ⟨pre, k, post, hsplit, v, updateAll_eq_accepted_iff.2 ⟨fun k' hk' v' => ?_, ?_⟩, hgiven,
      hv, rfl⟩
    · exact hbefore k' v' ((Setting.mem_iff_position_lt hsplit).1 hk')
    · simpa only [Setting.mem_iff_position_lt hsplit] using hvalue

/-- A setting has the value that an update has written. -/
theorem value_update_of_writes (h : changes.Writes k v) : (s.update changes).1.value k = v := by
  obtain ⟨hgiven, haccepts⟩ := h
  cases hrun : s.update changes with
  | mk s' failure =>
    cases failure with
    | none =>
      obtain ⟨-, hvalue⟩ := update_eq_accepted_iff.1 hrun
      rw [hvalue, hgiven, Option.getD_some]
    | some e =>
      obtain ⟨k₀, v₀, ⟨hgiven₀, hv₀, -⟩, -, hvalue⟩ := update_eq_refused_iff.1 hrun
      have hlt : k.position < k₀.position := by
        by_contra hle
        exact hv₀ (haccepts k₀ v₀ (Nat.not_lt.1 hle) hgiven₀)
      rw [hvalue, if_pos hlt, hgiven, Option.getD_some]

/-- A setting that is not written, while no value is refused until then, is given none. -/
theorem given_eq_none_of_not_writes (h : ∀ v, ¬ changes.Writes k v)
    (haccepts : ∀ k' v', k'.position ≤ k.position → changes.given k' = some v' → k'.Accepts v') :
    changes.given k = none := by
  rw [Option.eq_none_iff_forall_ne_some]
  intro v hv
  exact h v ⟨hv, haccepts⟩

/-- A setting that an update does not write keeps its value. -/
theorem value_update_of_not_writes (h : ∀ v, ¬ changes.Writes k v) :
    (s.update changes).1.value k = s.value k := by
  cases hrun : s.update changes with
  | mk s' failure =>
    cases failure with
    | none =>
      obtain ⟨haccepts, hvalue⟩ := update_eq_accepted_iff.1 hrun
      have hgiven := given_eq_none_of_not_writes h fun k' v' _ => haccepts k' v'
      rw [hvalue, hgiven, Option.getD_none]
    | some e =>
      obtain ⟨k₀, v₀, hstops, -, hvalue⟩ := update_eq_refused_iff.1 hrun
      by_cases hlt : k.position < k₀.position
      · have hgiven := given_eq_none_of_not_writes h fun k' v' hle =>
          hstops.accepts k' v' (Nat.lt_of_le_of_lt hle hlt)
        rw [hvalue, if_pos hlt, hgiven, Option.getD_none]
      · rw [hvalue, if_neg hlt]

end Settings

end LuauDisassembler
