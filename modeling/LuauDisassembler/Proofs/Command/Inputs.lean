import LuauDisassembler.Proofs.ByteOrder.Packing
import LuauDisassembler.Proofs.Command.Stages

/-!
# Ways to give the same words

The words of a stream can be given as a dump, or as bytes in one of the two orders.  Which of them
was taken cannot be seen in the listing, nor in the errors if there is none: behind the reader
nothing but the words counts, and of the settings nothing but what a listing shows.  A dump is read
without looking at the byte order at all.

* `Listing.ofStream_of_sameDisplay`: listings do not depend on the byte order.
* `Invocation.agrees_of_reads`: runs that read the same words agree.
* `Invocation.agrees_of_words_eq`: so do runs whose readers do the same.
* `Invocation.agrees_of_carries`: a dump and the two kinds of packed bytes.
-/

namespace LuauDisassembler

/-- The settings show listings in the same way; only the byte order may differ. -/
structure Settings.SameDisplay (s t : Settings) : Prop where
  showPc_eq : s.showPc = t.showPc
  showRaw_eq : s.showRaw = t.showRaw
  resolveBuiltins_eq : s.resolveBuiltins = t.resolveBuiltins

/-- A listing does not depend on the byte order. -/
theorem Listing.ofStream_of_sameDisplay {s t : Settings} (h : s.SameDisplay t) (ws : List Int) :
    Listing.ofStream ws s = Listing.ofStream ws t := by
  obtain ⟨pc, raw, order, builtins⟩ := s
  obtain ⟨pc', raw', order', builtins'⟩ := t
  obtain ⟨hpc, hraw, hbuiltins⟩ := h
  cases hpc
  cases hraw
  cases hbuiltins
  rfl

namespace Command

/-- Two reports have the same exit code, print the same and show the same errors. -/
structure Report.Agrees (r r' : Report) : Prop where
  exitCode_eq : r.exitCode = r'.exitCode
  stdout_eq : r.stdout = r'.stdout
  errors_eq : errors r.log = errors r'.log

/-! ### Dumps and packed words -/

/-- The input holds the words: as a dump whose line ends are line feeds, or packed in the order in
which the bytes are going to be read. -/
inductive Carries (o : Options) (order : ByteOrder) (ws : List Int) : Source → Prop
  | dump {text : String} (ho : o.has .dump = true) (hcr : '\r' ∉ text.toList)
      (h : Dump.parse text = .ok ws) : Carries o order ws (.file text.toUTF8.data.toList)
  | packed (ho : o.has .dump = false) : Carries o order ws (.file (order.pack ws))

theorem Carries.reads {o : Options} {order : ByteOrder} {ws : List Int} {input : Source}
    (hws : ∀ w ∈ ws, 0 ≤ w ∧ w < 4294967296) (h : Carries o order ws input) :
    Reads o order input ws := by
  cases h with
  | dump ho hcr h => exact .dump ho (Source.text_ofText hcr) h
  | packed ho => exact .binary ho rfl (order.words_pack hws)

/-! ### Runs that agree -/

namespace Invocation

variable {i j : Invocation} {s t : Settings} {ws : List Int}

theorem agrees_of_failsWith {f : Failure} (hi : i.FailsWith f) (hj : j.FailsWith f) :
    i.report.Agrees j.report := by
  obtain ⟨hcode, hstdout, herrors⟩ := report_of_failsWith hi
  obtain ⟨hcode', hstdout', herrors'⟩ := report_of_failsWith hj
  exact ⟨hcode.trans hcode'.symm, hstdout.trans hstdout'.symm, herrors.trans herrors'.symm⟩

theorem agrees_of_succeeds {ws' : List Int} {ls : List String} (hi : i.Succeeds s ws ls)
    (hj : j.Succeeds t ws' ls) : i.report.Agrees j.report := by
  obtain ⟨hcode, hstdout, herrors⟩ := report_of_succeeds hi
  obtain ⟨hcode', hstdout', herrors'⟩ := report_of_succeeds hj
  exact ⟨hcode.trans hcode'.symm, hstdout.trans hstdout'.symm, herrors.trans herrors'.symm⟩

/-- **Runs that read the same words agree**, wherever the words came from. -/
theorem agrees_of_reads (hs : Configures i.config s) (ht : Configures j.config t)
    (hdisplay : (override i.options s).SameDisplay (override j.options t))
    (hi : Reads i.options (override i.options s).byteOrder i.input ws)
    (hj : Reads j.options (override j.options t).byteOrder j.input ws) :
    i.report.Agrees j.report := by
  have hlisting := Listing.ofStream_of_sameDisplay hdisplay ws
  cases hl : Listing.ofStream ws (override i.options s) with
  | ok ls => exact agrees_of_succeeds ⟨hs, hi, hl⟩ ⟨ht, hj, hlisting.symm.trans hl⟩
  | error e => exact agrees_of_failsWith (.listing hs hi hl) (.listing ht hj (hlisting.symm.trans hl))

/-- Runs whose readers do the same agree, also if the readers fail. -/
theorem agrees_of_words_eq (hs : Configures i.config s) (ht : Configures j.config t)
    (hdisplay : (override i.options s).SameDisplay (override j.options t))
    (hwords : words i.options (override i.options s) i.input =
      words j.options (override j.options t) j.input) : i.report.Agrees j.report := by
  cases hw : words j.options (override j.options t) j.input with
  | error f =>
    rw [hw] at hwords
    exact agrees_of_failsWith (.words hs (words_eq_error_iff.1 hwords))
      (.words ht (words_eq_error_iff.1 hw))
  | ok ws =>
    rw [hw] at hwords
    exact agrees_of_reads hs ht hdisplay (words_eq_ok_iff.1 hwords) (words_eq_ok_iff.1 hw)

/-- **Runs that read the same dump agree**, whatever the dump holds. -/
theorem agrees_of_dump (hs : Configures i.config s) (ht : Configures j.config t)
    (hdisplay : (override i.options s).SameDisplay (override j.options t))
    (hi : i.options.has .dump = true) (hj : j.options.has .dump = true) (hinput : i.input = j.input) :
    i.report.Agrees j.report := by
  have hwords : words i.options (override i.options s) i.input =
      words j.options (override j.options t) j.input := by
    rw [words, words, if_pos hi, if_pos hj, hinput]
  exact agrees_of_words_eq hs ht hdisplay hwords

/-- **All ways to give the words agree.**  Two runs that show listings in the same way, and whose
inputs hold the same words, have the same exit code, print the same and report the same errors:
whether the inputs are dumps or packed in the order in force, and whether or not the words can be
decoded.  For dumps the byte order does not matter, and they need not even be well formed. -/
theorem agrees_of_carries (hws : ∀ w ∈ ws, 0 ≤ w ∧ w < 4294967296)
    (hs : Configures i.config s) (ht : Configures j.config t)
    (hdisplay : (override i.options s).SameDisplay (override j.options t)) :
    (Carries i.options (override i.options s).byteOrder ws i.input →
      Carries j.options (override j.options t).byteOrder ws j.input → i.report.Agrees j.report) ∧
    (i.options.has .dump = true → j.options.has .dump = true → i.input = j.input →
      i.report.Agrees j.report) :=
  ⟨fun hi hj => agrees_of_reads hs ht hdisplay (hi.reads hws) (hj.reads hws),
    agrees_of_dump hs ht hdisplay⟩

/-- A dump and big-endian bytes of a stream whose last instruction lacks its auxiliary word. -/
theorem agrees_of_carries_cut_stream :
    (Invocation.mk { switches := [.dump] } "in.hex" none
      (.file "0: 00020482 000000A4 // cut".toUTF8.data.toList)).report.Agrees
    (Invocation.mk { switches := [.bigEndian] } "in.bin" none
      (.file [0x00, 0x02, 0x04, 0x82, 0x00, 0x00, 0x00, 0xA4])).report := by
  let ws : List Int := [0x00020482, 0x000000A4]
  have hrange : ∀ w ∈ ws, 0 ≤ w ∧ w < 4294967296 := by decide
  have hdump : Carries { switches := [.dump] } .little ws
      (.file "0: 00020482 000000A4 // cut".toUTF8.data.toList) :=
    .dump rfl (by decide) (by decide +kernel)
  have hpacked : Carries { switches := [.bigEndian] } .big ws
      (.file [0x00, 0x02, 0x04, 0x82, 0x00, 0x00, 0x00, 0xA4]) := by
    have hpack : ByteOrder.big.pack ws = [0x00, 0x02, 0x04, 0x82, 0x00, 0x00, 0x00, 0xA4] := by
      decide
    rw [← hpack]
    exact .packed rfl
  refine (agrees_of_carries (s := {}) (t := {}) hrange ?_ ?_ ?_).1 hdump hpacked
  · exact .default
  · exact .default
  · exact ⟨rfl, rfl, rfl⟩

end Invocation

end Command

end LuauDisassembler
