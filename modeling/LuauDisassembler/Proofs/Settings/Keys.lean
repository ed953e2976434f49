import LuauDisassembler.Proofs.Settings.Document
import LuauDisassembler.Proofs.Toml.NullFree

/-!
# The four keys of a settings document

Of a document that is well formed nothing counts but the table for the settings, and of this table
nothing but the entries that have the names of settings.  How the document writes them, in which
order, and what else it holds makes no difference.  An entry that the table has is never null, so
having an entry and giving a value are the same, and of several values that are refused the report
is about the first one in the order of the settings.

* `Settings.ofChanges_eq_error_iff`: the value that a set of changes is refused for.
* `Settings.given_changesOf`: what the table of a document gives.
* `Settings.ofEntries_eq_ofChanges`: nothing but the four entries counts.
* `Settings.ofDocument_classifies`: the settings, or the error, of a document.
-/

namespace LuauDisassembler

namespace Setting

theorem position_injective : Function.Injective position := by
  intro k k' h
  exact (List.idxOf_inj k.mem_all).1 h

end Setting

namespace Changes

variable {changes : Changes} {k k' : Setting} {v v' : Value}

theorem StopsAt.position_le (h : changes.StopsAt k v) (h' : changes.StopsAt k' v') :
    k.position ≤ k'.position := by
  by_contra hlt
  exact h'.not_accepts (h.accepts k' v' (Nat.lt_of_not_le hlt) h'.given_eq)

/-- **There is at most one first value that is refused.** -/
theorem StopsAt.unique (h : changes.StopsAt k v) (h' : changes.StopsAt k' v') :
    k = k' ∧ v = v' := by
  have hk : k = k' :=
    Setting.position_injective (Nat.le_antisymm (h.position_le h') (h'.position_le h))
  subst hk
  have hv := h.given_eq
  rw [h'.given_eq] at hv
  exact ⟨rfl, (Option.some.inj hv).symm⟩

end Changes

namespace Settings

/-! ### Changes to the defaults -/

/-- **Changes are refused** for the first value that is. -/
theorem ofChanges_eq_error_iff {changes : Changes} {e : SettingError} :
    ofChanges changes = .error e ↔ ∃ k v, changes.StopsAt k v ∧ e = k.refusal v := by
  constructor
  · exact exists_stopsAt_of_error
  · rintro ⟨k, v, hstops, rfl⟩
    cases hrun : ofChanges changes with
    | ok s =>
      obtain ⟨haccepts, -⟩ := update_eq_accepted_iff.1 (ofChanges_eq_ok_iff.1 hrun)
      exact absurd (haccepts k v hstops.given_eq) hstops.not_accepts
    | error e =>
      obtain ⟨k', v', hstops', rfl⟩ := exists_stopsAt_of_error hrun
      obtain ⟨rfl, rfl⟩ := hstops.unique hstops'
      rfl

theorem exists_ofChanges_eq_ok_iff {changes : Changes} : (∃ s, ofChanges changes = .ok s) ↔
    ∀ k v, changes.given k = some v → k.Accepts v := by
  cases hrun : ofChanges changes with
  | ok s =>
    obtain ⟨haccepts, -⟩ := update_eq_accepted_iff.1 (ofChanges_eq_ok_iff.1 hrun)
    exact iff_of_true ⟨s, rfl⟩ haccepts
  | error e =>
    obtain ⟨k, v, hstops, -⟩ := exists_stopsAt_of_error hrun
    refine iff_of_false ?_ fun haccepts => hstops.not_accepts (haccepts k v hstops.given_eq)
    rintro ⟨s, hs⟩
    cases hs

/-! ### Entries of a document -/

section

variable {text : String} {entries es : List (String × Value)}

/-- A table whose entries are not null gives the values that it holds. -/
theorem given_changesOf (hes : ∀ k : Setting, es.lookup k.name ≠ some .null) (k : Setting) :
    (changesOf es).given k = es.lookup k.name := by
  rw [Changes.given, changesOf]
  cases hk : es.lookup k.name with
  | none => rfl
  | some v =>
    cases v with
    | null => exact absurd hk (hes k)
    | _ => rfl

/-- The entry of a document for a setting: that of its table for the settings, if it has one. -/
def entryOf (entries : List (String × Value)) (k : Setting) : Option Value :=
  match entries.lookup tableName with
  | some (.table es) => es.lookup k.name
  | _ => none

/-- The entry of a document for the settings, if it has one, is a table. -/
def EntryIsTable (entries : List (String × Value)) : Prop :=
  ∀ v, entries.lookup tableName = some v → ∃ es, v = .table es

/-- **Nothing but the four entries counts**, if there is a table for the settings or none. -/
theorem ofEntries_eq_ofChanges (h : EntryIsTable entries) :
    ofEntries entries = (ofChanges (entryOf entries)).mapError .setting := by
  cases hentry : entries.lookup tableName with
  | none =>
    have hnone : entryOf entries = fun _ => none := by
      funext k
      rw [entryOf, hentry]
    rw [ofEntries_of_missing hentry, hnone]
    rfl
  | some v =>
    obtain ⟨es, rfl⟩ := h v hentry
    have hes : entryOf entries = changesOf es := by
      funext k
      rw [entryOf, hentry, changesOf]
    rw [ofEntries_of_table hentry, hes]

/-- **A document gives what its four keys say.**  Without an entry for the settings it gives the
defaults; an entry that is no table is refused by the name of its kind.  Otherwise it gives settings
exactly if the table holds for each of them nothing or a value that it accepts, and these are the
defaults with the values that the table holds; or else it is refused for the first value, in the order
of the settings, that is not accepted.  So two documents with the same entries for the four settings
give the same, however they are written and whatever else they hold. -/
theorem ofDocument_classifies (h : Toml.parse? (Text.unifyNewlines text.toList) = some entries) :
    (entries.lookup "disasm" = none → ofDocument text = .ok {}) ∧
    (∀ v, entries.lookup "disasm" = some v → (∀ es, v ≠ .table es) →
      ofDocument text = .error (.notATable v) ∧
      (DocumentError.notATable v).message = "'" ++ v.kind ++ "' object has no attribute 'get'") ∧
    (∀ es, entries.lookup "disasm" = some (.table es) →
      ((∃ s, ofDocument text = .ok s) ↔
        ∀ (k : Setting) v, es.lookup k.name = some v → k.Accepts v) ∧
      (∀ s, ofDocument text = .ok s → ∀ k,
        s.value k = (es.lookup k.name).getD (({} : Settings).value k)) ∧
      ∀ e, ofDocument text = .error e ↔
        ∃ (k : Setting) (v : Value), es.lookup k.name = some v ∧ ¬ k.Accepts v ∧
        (∀ (k' : Setting) v', k'.position < k.position → es.lookup k'.name = some v' → k'.Accepts v') ∧
        e = .setting (k.refusal v)) ∧
    ∀ text' entries', Toml.parse? (Text.unifyNewlines text'.toList) = some entries' →
      EntryIsTable entries → EntryIsTable entries' →
      (∀ k, entryOf entries k = entryOf entries' k) → ofDocument text = ofDocument text' := by
  rw [ofDocument_of_parse? h]
  refine ⟨ofEntries_of_missing, fun v hv hkind => ⟨ofEntries_of_not_table hv hkind, rfl⟩, ?_, ?_⟩
  · intro es htable
    have hgiven : ∀ k, (changesOf es).given k = es.lookup k.name :=
      given_changesOf fun k => Toml.lookup_ne_null h htable
    rw [ofEntries_of_table htable]
    refine ⟨?_, ?_, ?_⟩
    · simp only [mapError_eq_ok_iff, exists_ofChanges_eq_ok_iff, hgiven]
    · intro s hs k
      have hrun := ofChanges_eq_ok_iff.1 (mapError_eq_ok_iff.1 hs)
      rw [(update_eq_accepted_iff.1 hrun).2 k, hgiven]
    · intro e
      rw [mapError_eq_error_iff]
      constructor
      · rintro ⟨e', he', rfl⟩
        obtain ⟨k, v, ⟨hk, hv, hbefore⟩, rfl⟩ := ofChanges_eq_error_iff.1 he'
        simp only [hgiven] at hk hbefore
        exact ⟨k, v, hk, hv, hbefore, rfl⟩
      · rintro ⟨k, v, hk, hv, hbefore, rfl⟩
        refine ⟨k.refusal v, ofChanges_eq_error_iff.2 ⟨k, v, ⟨?_, hv, ?_⟩, rfl⟩, rfl⟩
        · rw [hgiven, hk]
        · simpa only [hgiven] using hbefore
  · intro text' entries' h' htable htable' hagree
    rw [ofDocument_of_parse? h', ofEntries_eq_ofChanges htable, ofEntries_eq_ofChanges htable',
      funext hagree]

/-- Of two refused values the later one in the document is reported; an inline table with other keys
in another order gives the same. -/
theorem ofDocument_classifies_dotted :
    ofDocument "disasm.resolve_builtins = 1\ndisasm.byteorder = 'z'" =
      .error (.setting (.unsupportedByteOrder (.string "z"))) ∧
    ofDocument "disasm.resolve_builtins = 1\ndisasm.byteorder = 'z'" =
      ofDocument "disasm = \x7bbyteorder = \"z\", x = [], resolve_builtins = 0x1\x7d # y" := by
  have hdotted : Toml.parse? (Text.unifyNewlines
      "disasm.resolve_builtins = 1\ndisasm.byteorder = 'z'".toList) =
      some [("disasm", .table [("resolve_builtins", .int 1), ("byteorder", .string "z")])] := by
    decide +kernel
  have hinline : Toml.parse? (Text.unifyNewlines
      "disasm = \x7bbyteorder = \"z\", x = [], resolve_builtins = 0x1\x7d # y".toList) =
      some [("disasm", .table [("byteorder", .string "z"), ("x", .list []),
        ("resolve_builtins", .int 1)])] := by
    decide +kernel
  have hrefused : ¬ Setting.byteOrder.Accepts (.string "z") := by
    intro h
    generalize hz : Value.string "z" = v at h
    cases h with
    | byteOrder o => cases o <;> exact absurd (Value.string.inj hz) (by decide)
  obtain ⟨-, -, htable, hagree⟩ := ofDocument_classifies hdotted
  constructor
  · refine ((htable _ rfl).2.2 _).2 ⟨.byteOrder, .string "z", rfl, hrefused, ?_, rfl⟩
    intro k v hk hv
    cases k with
    | showPc => cases hv
    | showRaw => cases hv
    | byteOrder => exact absurd hk (by decide)
    | resolveBuiltins => exact absurd hk (by decide)
  · refine hagree _ _ hinline ?_ ?_ ?_
    · intro v hv
      exact ⟨_, (Option.some.inj hv).symm⟩
    · intro v hv
      exact ⟨_, (Option.some.inj hv).symm⟩
    · intro k
      cases k <;> rfl

end

end Settings

end LuauDisassembler
