import LuauDisassembler.Proofs.Command.Inputs

/-!
# Switches and the settings document

The switches of the command change what a settings document has set; a setting without a switch, or
whose switch is not used, stays as the document says.  So a run with switches does what a run without
them does under a document that says all of it.  Of the document nothing else counts.

The document is read first.  If it gives no settings the run ends there, even if the one value that
is refused would have been overridden.

* `Command.override_eq`, `Command.override_of_no_switches`: what the switches do.
* `Invocation.agrees_of_override`: a run with switches and a run without them.
-/

namespace LuauDisassembler.Command

theorem override_eq (o : Options) (s : Settings) : override o s =
    { showPc := if o.has .noPc then false else s.showPc
      showRaw := if o.has .raw then true else s.showRaw
      byteOrder := if o.has .bigEndian then .big else s.byteOrder
      resolveBuiltins := s.resolveBuiltins } := by
  have hpc : (s.showPc && !o.has .noPc) = if o.has .noPc then false else s.showPc := by
    cases o.has .noPc <;> simp
  have hraw : (s.showRaw || o.has .raw) = if o.has .raw then true else s.showRaw := by
    cases o.has .raw <;> simp
  rw [override, hpc, hraw]

theorem override_of_no_switches {o : Options} (hpc : o.has .noPc = false)
    (hraw : o.has .raw = false) (horder : o.has .bigEndian = false) (s : Settings) :
    override o s = s := by
  simp [override_eq, hpc, hraw, horder]

namespace Invocation

/-- **Switches override the settings document.**  A run with switches agrees with a run of the same
input without them, if the settings document of that run gives the settings that the first document
gives, changed by the switches that are used.  If the document gives no settings, for whatever
reason, the run ends with the exit code for this and prints nothing, whatever the switches are. -/
theorem agrees_of_override (i : Invocation) :
    (∀ (j : Invocation) (s : Settings), Configures i.config s →
      Configures j.config
        { showPc := if i.options.has .noPc then false else s.showPc
          showRaw := if i.options.has .raw then true else s.showRaw
          byteOrder := if i.options.has .bigEndian then .big else s.byteOrder
          resolveBuiltins := s.resolveBuiltins } →
      j.options.has .noPc = false → j.options.has .raw = false →
      j.options.has .bigEndian = false → j.options.has .dump = i.options.has .dump →
      j.input = i.input → i.report.Agrees j.report) ∧
    (Misconfigures i.config → i.report.exitCode = 100 ∧ i.report.stdout = "") := by
  constructor
  · intro j s hi hj hpc hraw horder hdump hinput
    rw [← override_eq] at hj
    have hsettings : override j.options (override i.options s) = override i.options s :=
      override_of_no_switches hpc hraw horder _
    refine agrees_of_words_eq hi hj ?_ ?_
    · rw [hsettings]
      exact ⟨rfl, rfl, rfl⟩
    · rw [hsettings, words, words, hdump, hinput]
  · intro h
    obtain ⟨e, he⟩ := misconfigures_iff.1 h
    obtain ⟨hcode, hstdout, -⟩ := report_of_failsWith (.settings he)
    exact ⟨hcode, hstdout⟩

/-- Two switches beside a document, and a document that says all of it; and a document with a byte
order that the switch would have replaced, which is refused all the same. -/
theorem agrees_of_override_big_endian :
    (Invocation.mk { switches := [.noPc, .bigEndian], config := some "c" } "in"
        (some (.ofText "disasm.show_raw = true")) (.file [0, 1, 0, 0x82])).report.Agrees
      (Invocation.mk { config := some "d" } "in" (some (.ofText
        "disasm = \x7bshow_pc = false, show_raw = true, byteorder = 'big'\x7d"))
        (.file [0, 1, 0, 0x82])).report ∧
    (Invocation.mk { switches := [.bigEndian], config := some "c" } "in"
      (some (.ofText "disasm.byteorder = 1")) (.file [])).report.exitCode = 100 ∧
    (Invocation.mk { switches := [.bigEndian], config := some "c" } "in"
      (some (.ofText "disasm.byteorder = 1")) (.file [])).report.stdout = "" := by
  have hi : Configures (some (.ofText "disasm.show_raw = true")) { showRaw := true } :=
    .document (Source.text_ofText (by decide)) (by decide +kernel)
  have hj : Configures (some (.ofText
      "disasm = \x7bshow_pc = false, show_raw = true, byteorder = 'big'\x7d"))
      { showPc := false, showRaw := true, byteOrder := .big } :=
    .document (Source.text_ofText (by decide)) (by decide +kernel)
  have hrefused : MisconfiguredBy (some (.ofText "disasm.byteorder = 1"))
      (.document (.setting (.unsupportedByteOrder (.int 1)))) :=
    .unusable (Source.text_ofText (by decide)) (by decide +kernel)
  exact ⟨(agrees_of_override _).1 _ _ hi hj rfl rfl rfl rfl rfl,
    (agrees_of_override _).2 (misconfigures_iff.2 ⟨_, hrefused⟩)⟩

end Invocation

end LuauDisassembler.Command
