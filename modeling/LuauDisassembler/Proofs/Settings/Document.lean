import LuauDisassembler.Proofs.Settings.Update
import LuauDisassembler.Settings.Document

/-!
# When a document gives settings

A document gives no settings for one of three reasons: it is not well formed, its entry for the
settings is no table, or that table holds a value that its setting refuses.  One value is enough,
whichever setting it is for and whatever the values of the others are.

* `Settings.ofChanges_eq_ok_iff`, `Settings.exists_stopsAt_of_error`,
  `Settings.exists_ofChanges_eq_error_iff`: changes to the defaults.
* `Settings.ofEntries_of_missing`, `Settings.ofEntries_of_not_table`, `Settings.ofEntries_of_table`:
  the entry for the settings.
* `Settings.exists_ofDocument_eq_error_iff`: the three reasons.
-/

namespace LuauDisassembler

section

variable {ε ε' α : Type} {x : Except ε α} {wrap : ε → ε'}

theorem mapError_eq_ok_iff {a : α} : x.mapError wrap = .ok a ↔ x = .ok a := by
  cases x <;> simp [Except.mapError]

theorem mapError_eq_error_iff {e' : ε'} :
    x.mapError wrap = .error e' ↔ ∃ e, x = .error e ∧ e' = wrap e := by
  cases x <;> simp [Except.mapError, eq_comm]

end

namespace Settings

variable {changes : Changes}

/-! ### Changes to the defaults -/

theorem ofChanges_eq_ok_iff {s : Settings} :
    ofChanges changes = .ok s ↔ update {} changes = (s, none) := by
  rw [ofChanges]
  cases update {} changes with
  | mk s' failure => cases failure <;> simp

theorem exists_stopsAt_of_error {e : SettingError} (h : ofChanges changes = .error e) :
    ∃ k v, changes.StopsAt k v ∧ e = k.refusal v := by
  rw [ofChanges] at h
  cases hrun : update {} changes with
  | mk s failure =>
    rw [hrun] at h
    cases failure with
    | none => cases h
    | some e' =>
      cases h
      obtain ⟨k, v, hstops, he, -⟩ := update_eq_refused_iff.1 hrun
      exact ⟨k, v, hstops, he⟩

theorem exists_ofChanges_eq_error_iff : (∃ e, ofChanges changes = .error e) ↔
    ∃ k v, changes.given k = some v ∧ ¬ k.Accepts v := by
  constructor
  · rintro ⟨e, he⟩
    obtain ⟨k, v, hstops, -⟩ := exists_stopsAt_of_error he
    exact ⟨k, v, hstops.given_eq, hstops.not_accepts⟩
  · rintro ⟨k, v, hgiven, hv⟩
    cases hrun : ofChanges changes with
    | error e => exact ⟨e, rfl⟩
    | ok s =>
      obtain ⟨haccepts, -⟩ := update_eq_accepted_iff.1 (ofChanges_eq_ok_iff.1 hrun)
      exact absurd (haccepts k v hgiven) hv

/-! ### Documents -/

section

variable {text : String} {entries es : List (String × Value)}

theorem ofDocument_of_parse? (h : Toml.parse? (Text.unifyNewlines text.toList) = some entries) :
    ofDocument text = ofEntries entries := by
  rw [ofDocument, h]

theorem ofEntries_of_table (htable : entries.lookup tableName = some (.table es)) :
    ofEntries entries = (ofChanges (changesOf es)).mapError .setting := by
  rw [ofEntries, htable]

theorem ofEntries_of_missing (h : entries.lookup tableName = none) : ofEntries entries = .ok {} := by
  rw [ofEntries, h]

theorem ofEntries_of_not_table {v : Value} (hv : entries.lookup tableName = some v)
    (hkind : ∀ es, v ≠ .table es) : ofEntries entries = .error (.notATable v) := by
  rw [ofEntries, hv]
  cases v with
  | table es => exact absurd rfl (hkind es)
  | _ => rfl

end

/-- The reasons for which a document gives no settings. -/
inductive Unusable (text : String) : Prop
  /-- It is not well formed. -/
  | malformed (h : Toml.parse? (Text.unifyNewlines text.toList) = none)
  /-- The entry for the settings is no table. -/
  | notATable {entries : List (String × Value)} {v : Value}
      (h : Toml.parse? (Text.unifyNewlines text.toList) = some entries)
      (hv : entries.lookup tableName = some v) (hkind : ∀ es, v ≠ .table es)
  /-- A setting refuses the value that the table holds for it. -/
  | refused {entries es : List (String × Value)} {k : Setting} {v : Value}
      (h : Toml.parse? (Text.unifyNewlines text.toList) = some entries)
      (htable : entries.lookup tableName = some (.table es))
      (hgiven : (changesOf es).given k = some v) (hv : ¬ k.Accepts v)

/-- **A document gives no settings** exactly for one of these reasons. -/
theorem exists_ofDocument_eq_error_iff {text : String} :
    (∃ e, ofDocument text = .error e) ↔ Unusable text := by
  constructor
  · rintro ⟨e, he⟩
    cases hparse : Toml.parse? (Text.unifyNewlines text.toList) with
    | none => exact .malformed hparse
    | some entries =>
      rw [ofDocument_of_parse? hparse] at he
      cases hentry : entries.lookup tableName with
      | none =>
        rw [ofEntries_of_missing hentry] at he
        cases he
      | some v =>
        by_cases htable : ∃ es, v = .table es
        · obtain ⟨es, rfl⟩ := htable
          rw [ofEntries_of_table hentry] at he
          obtain ⟨e', he', -⟩ := mapError_eq_error_iff.1 he
          obtain ⟨k, v, hgiven, hv⟩ := exists_ofChanges_eq_error_iff.1 ⟨e', he'⟩
          exact .refused hparse hentry hgiven hv
        · exact .notATable hparse hentry (not_exists.1 htable)
  · intro h
    cases h with
    | malformed h => exact ⟨.malformed, by rw [ofDocument, h]⟩
    | notATable h hv hkind =>
      rw [ofDocument_of_parse? h, ofEntries_of_not_table hv hkind]
      exact ⟨_, rfl⟩
    | refused h htable hgiven hv =>
      obtain ⟨e, he⟩ := exists_ofChanges_eq_error_iff.2 ⟨_, _, hgiven, hv⟩
      rw [ofDocument_of_parse? h, ofEntries_of_table htable, he]
      exact ⟨_, rfl⟩

end Settings

end LuauDisassembler
