import LuauDisassembler.Command
import LuauDisassembler.Proofs.Dump.LineFeed
import LuauDisassembler.Proofs.Settings.Document
import LuauDisassembler.Proofs.Stream.Concatenation
import LuauDisassembler.Proofs.Stream.Obstacle

/-!
# The stages of a run

A run of the command reads its settings, then its words, and then walks through the words.  Each
stage is stated here as a relation that says where its result comes from, together with the relation
for its failure: `Configures` and `MisconfiguredBy`, `Reads` and `FailsToRead`.  A run succeeds if
all stages do; if not, `Invocation.FailsWith` names the cause of the first stage that fails, and
this is the cause that the report shows.

The listing is written by the walk, line by line, but only behind the last instruction: whatever a
stream begins with, nothing is printed if the rest of it cannot be decoded.

* `Command.documentSettings_eq_ok_iff`, `Command.documentSettings_eq_error_iff`,
  `Command.words_eq_ok_iff`, `Command.words_eq_error_iff`: the stages before the walk.
* `Command.misconfigures_iff`: why the settings document gives no settings.
* `Invocation.readable_of_ofOptions`: an accepted run opens nothing that may not be read.
* `Invocation.report_of_reads`: a run that has read its words shows what the walk finds.
* `Invocation.report_of_succeeds`, `Invocation.report_of_failsWith`: the report by what the stages do.
* `Invocation.execute_classifies`: exit code, output and errors of every run.
-/

namespace LuauDisassembler

namespace Command

/-! ### Files -/

/-- The file that holds a text. -/
def Source.ofText (text : String) : Source := .file text.toUTF8.data.toList

/-- A text is read back from its bytes, if its line ends are line feeds already. -/
theorem Source.text_ofText {text : String} (h : '\r' ∉ text.toList) :
    (ofText text).text = .ok text := by
  have hread : String.fromUTF8? text.toUTF8 = some text := by
    simp only [String.fromUTF8?, String.toUTF8_eq_toByteArray, dif_pos text.isValidUTF8]
    rfl
  simp only [ofText, Source.text, Source.bytes, Array.toArray_toList, hread, bind, Except.bind, pure,
    Except.pure, Text.unifyNewlines_of_no_cr h, String.ofList_toList]

/-! ### Settings -/

/-- The source of the settings document, if there is one, gives the settings. -/
inductive Configures : Option Source → Settings → Prop
  | default : Configures none {}
  | document {source : Source} {text : String} {s : Settings} (htext : source.text = .ok text)
      (h : Settings.ofDocument text = .ok s) : Configures (some source) s

/-- The source of the settings document gives no settings. -/
inductive Misconfigures : Option Source → Prop
  | unreadable {source : Source} {e : GeneralError} (h : source.text = .error e) :
      Misconfigures (some source)
  | unusable {source : Source} {text : String} (htext : source.text = .ok text)
      (h : Settings.Unusable text) : Misconfigures (some source)

/-- The cause for which the source of the settings document gives no settings. -/
inductive MisconfiguredBy : Option Source → GeneralError → Prop
  | unreadable {source : Source} {e : GeneralError} (h : source.text = .error e) :
      MisconfiguredBy (some source) e
  | unusable {source : Source} {text : String} {e : DocumentError} (htext : source.text = .ok text)
      (h : Settings.ofDocument text = .error e) : MisconfiguredBy (some source) (.document e)

theorem misconfigures_iff {config : Option Source} :
    Misconfigures config ↔ ∃ e, MisconfiguredBy config e := by
  constructor
  · intro h
    cases h with
    | unreadable h => exact ⟨_, .unreadable h⟩
    | unusable htext h =>
      obtain ⟨e, he⟩ := Settings.exists_ofDocument_eq_error_iff.2 h
      exact ⟨_, .unusable htext he⟩
  · rintro ⟨e, h⟩
    cases h with
    | unreadable h => exact .unreadable h
    | unusable htext h =>
      exact .unusable htext (Settings.exists_ofDocument_eq_error_iff.1 ⟨_, h⟩)

theorem documentSettings_eq_ok_iff {config : Option Source} {s : Settings} :
    documentSettings config = .ok s ↔ Configures config s := by
  constructor
  · intro h
    cases config with
    | none =>
      obtain rfl := Except.ok.inj h
      exact .default
    | some source =>
      rw [documentSettings] at h
      split at h
      · cases h
      · rename_i text htext
        exact .document htext (mapError_eq_ok_iff.1 h)
  · intro h
    cases h with
    | default => rfl
    | document htext h =>
      rw [documentSettings, htext]
      exact mapError_eq_ok_iff.2 h

theorem documentSettings_eq_error_iff {config : Option Source} {e : GeneralError} :
    documentSettings config = .error e ↔ MisconfiguredBy config e := by
  constructor
  · intro h
    cases config with
    | none => cases h
    | some source =>
      rw [documentSettings] at h
      split at h
      · rename_i e' htext
        obtain rfl := Except.error.inj h
        exact .unreadable htext
      · rename_i text htext
        obtain ⟨e, he, rfl⟩ := mapError_eq_error_iff.1 h
        exact .unusable htext he
  · intro h
    cases h with
    | unreadable h => rw [documentSettings, h]
    | unusable htext h =>
      rw [documentSettings, htext]
      exact mapError_eq_error_iff.2 ⟨_, h, rfl⟩

/-! ### Words -/

/-- The input gives the words. -/
inductive Reads (o : Options) (order : ByteOrder) (input : Source) : List Int → Prop
  | dump {text : String} {ws : List Int} (ho : o.has .dump = true)
      (htext : input.text = .ok text) (h : Dump.parse text = .ok ws) : Reads o order input ws
  | binary {data : List UInt8} {ws : List Int} (ho : o.has .dump = false)
      (hdata : input.bytes = .ok data) (h : order.words data = .ok ws) : Reads o order input ws

/-- The input gives no words. -/
inductive FailsToRead (o : Options) (order : ByteOrder) (input : Source) : Failure → Prop
  | noText {e : GeneralError} (ho : o.has .dump = true) (h : input.text = .error e) :
      FailsToRead o order input (.general e)
  | dump {text : String} {e : DecodeError} (ho : o.has .dump = true)
      (htext : input.text = .ok text) (h : Dump.parse text = .error e) :
      FailsToRead o order input (.decode e)
  | noBytes {e : GeneralError} (ho : o.has .dump = false) (h : input.bytes = .error e) :
      FailsToRead o order input (.general e)
  | binary {data : List UInt8} {e : DecodeError} (ho : o.has .dump = false)
      (hdata : input.bytes = .ok data) (h : order.words data = .error e) :
      FailsToRead o order input (.decode e)

theorem words_eq_ok_iff {o : Options} {s : Settings} {input : Source} {ws : List Int} :
    words o s input = .ok ws ↔ Reads o s.byteOrder input ws := by
  rw [words]
  constructor
  · intro h
    split at h
    · rename_i ho
      split at h
      · cases h
      · rename_i text htext
        exact .dump ho htext (mapError_eq_ok_iff.1 h)
    · rename_i ho
      split at h
      · cases h
      · rename_i data hdata
        exact .binary (Bool.not_eq_true _ ▸ ho) hdata (mapError_eq_ok_iff.1 h)
  · intro h
    cases h with
    | dump ho htext h =>
      rw [if_pos ho, htext]
      exact mapError_eq_ok_iff.2 h
    | binary ho hdata h =>
      rw [if_neg (Bool.not_eq_true _ ▸ ho), hdata]
      exact mapError_eq_ok_iff.2 h

theorem words_eq_error_iff {o : Options} {s : Settings} {input : Source} {f : Failure} :
    words o s input = .error f ↔ FailsToRead o s.byteOrder input f := by
  rw [words]
  constructor
  · intro h
    split at h
    · rename_i ho
      split at h
      · rename_i e htext
        obtain rfl := Except.error.inj h
        exact .noText ho htext
      · rename_i text htext
        obtain ⟨e, he, rfl⟩ := mapError_eq_error_iff.1 h
        exact .dump ho htext he
    · rename_i ho
      have ho : o.has .dump = false := Bool.not_eq_true _ ▸ ho
      split at h
      · rename_i e hdata
        obtain rfl := Except.error.inj h
        exact .noBytes ho hdata
      · rename_i data hdata
        obtain ⟨e, he, rfl⟩ := mapError_eq_error_iff.1 h
        exact .binary ho hdata he
  · intro h
    cases h with
    | noText ho h => rw [if_pos ho, h]
    | dump ho htext h =>
      rw [if_pos ho, htext]
      exact mapError_eq_error_iff.2 ⟨_, h, rfl⟩
    | noBytes ho h => rw [if_neg (Bool.not_eq_true _ ▸ ho), h]
    | binary ho hdata h =>
      rw [if_neg (Bool.not_eq_true _ ▸ ho), hdata]
      exact mapError_eq_error_iff.2 ⟨_, h, rfl⟩

/-! ### Logs -/

/-- The records of errors in a log. -/
def errors (log : List Record) : List Record := log.filter (·.level == .error)

/-- The records that come before the settings. -/
def opening (o : Options) : List Record := banner :: configRecords o

theorem errors_append (log log' : List Record) : errors (log ++ log') = errors log ++ errors log' :=
  List.filter_append _ _

/-- Errors are shown however quiet the command is to be. -/
theorem errors_shown (verbose : Bool) (log : List Record) :
    errors (shown verbose log) = errors log := by
  rw [errors, shown, List.filter_filter]
  refine List.filter_congr fun r _ => ?_
  cases r.level <;> simp

theorem errors_opening (o : Options) : errors (opening o) = [] := by
  rw [opening, configRecords]
  cases o.config <;> rfl

theorem errors_inputRecord (ws : List Int) (path : String) : errors [inputRecord ws path] = [] := rfl

theorem errors_trace (is : List Instruction) : errors (is.map traceRecord) = [] := by
  rw [errors, List.filter_eq_nil_iff]
  intro r hr
  obtain ⟨i, -, rfl⟩ := List.mem_map.1 hr
  exact Bool.false_ne_true

/-- Until a walk ends nothing is reported as an error. -/
theorem errors_walk (o : Options) (ws : List Int) (path : String) (is : List Instruction) :
    errors (opening o ++ [inputRecord ws path] ++ is.map traceRecord) = [] := by
  rw [errors_append, errors_append, errors_opening, errors_inputRecord, errors_trace]
  rfl

theorem errors_record (f : Failure) : errors [f.record] = [f.record] := by
  cases f <;> rfl

/-! ### The walk -/

theorem walkReport_of_ok {ws : List Int} {is : List Instruction} (h : Stream.decode ws = .ok is)
    (log : List Record) (s : Settings) :
    walkReport log s ws = ⟨0, is.map (·.line s), log ++ is.map traceRecord⟩ := by
  rw [Stream.decode, Walk.result] at h
  simp only [walkReport]
  cases hfailure : (Stream.walk ws).failure with
  | none =>
    rw [hfailure] at h
    obtain rfl := Except.ok.inj h
    rfl
  | some e =>
    rw [hfailure] at h
    cases h

theorem walkReport_of_stopsAt {ws : List Int} {p : Nat} {e : DecodeError} {is : List Instruction}
    (h : Stream.StopsAt ws p e) (hd : Stream.decode (ws.take p) = .ok is) (log : List Record)
    (s : Settings) :
    walkReport log s ws = .failed (log ++ is.map traceRecord) (.decode e) := by
  rw [walkReport, h.walk_eq hd]

theorem exists_walkReport_of_error {ws : List Int} {e : DecodeError}
    (h : Stream.decode ws = .error e) (log : List Record) (s : Settings) :
    ∃ is : List Instruction,
      walkReport log s ws = .failed (log ++ is.map traceRecord) (.decode e) := by
  obtain ⟨p, hp⟩ := Stream.decode_eq_error_iff_exists_stopsAt.1 h
  obtain ⟨is, hd⟩ := hp.decode_take
  exact ⟨is, walkReport_of_stopsAt hp hd log s⟩

/-! ### Invocations -/

namespace Invocation

/-- The report of the run that an invocation asks for. -/
def report (i : Invocation) : Report := run i.options i.path i.config i.input

/-- The argument list is accepted, and asks for the run of the invocation. -/
structure Accepted (find : String → Option Source) (args : List String) (i : Invocation) :
    Prop where
  options_eq : Options.ofArguments args = .ok i.options
  no_help : i.options.has .help = false
  ofOptions_eq : ofOptions find i.options = .ok i

/-- All stages of the run succeed. -/
structure Succeeds (i : Invocation) (s : Settings) (ws : List Int) (ls : List String) : Prop where
  configures : Configures i.config s
  reads : Reads i.options (override i.options s).byteOrder i.input ws
  ofStream_eq : Listing.ofStream ws (override i.options s) = .ok ls

/-- The cause for which the first of the stages fails that does. -/
inductive FailsWith (i : Invocation) : Failure → Prop
  | settings {e : GeneralError} (h : MisconfiguredBy i.config e) : FailsWith i (.general e)
  | words {s : Settings} {f : Failure} (hs : Configures i.config s)
      (h : FailsToRead i.options (override i.options s).byteOrder i.input f) : FailsWith i f
  | listing {s : Settings} {ws : List Int} {e : DecodeError} (hs : Configures i.config s)
      (hw : Reads i.options (override i.options s).byteOrder i.input ws)
      (h : Listing.ofStream ws (override i.options s) = .error e) : FailsWith i (.decode e)

variable {i : Invocation} {find : String → Option Source} {args : List String}

theorem Accepted.execute_eq (h : i.Accepted find args) : execute find args = .ok i.report := by
  simp only [execute, h.options_eq, h.no_help, h.ofOptions_eq, bind, Except.bind]
  rfl

/-- A path that is looked up leads to what may be read. -/
theorem lookUp_eq_ok_iff {path : String} {source : Source} :
    lookUp find path = .ok source ↔ find path = some source ∧ source ≠ .forbidden := by
  rw [lookUp]
  cases find path with
  | none => simp
  | some found =>
    cases found with
    | forbidden =>
      refine iff_of_false (by simp) ?_
      rintro ⟨hfound, hne⟩
      exact hne (Option.some.inj hfound).symm
    | _ =>
      simp only [Except.ok.injEq, Option.some.injEq, iff_self_and]
      rintro rfl
      simp

theorem exists_lookUp_of_mapM {config : Option String} {source : Source}
    (h : config.mapM (lookUp find) = .ok (some source)) :
    ∃ path, config = some path ∧ lookUp find path = .ok source := by
  cases config with
  | none => cases h
  | some path =>
    rw [Option.mapM_some] at h
    cases hfound : lookUp find path with
    | error e =>
      rw [hfound] at h
      cases h
    | ok source' =>
      rw [hfound] at h
      cases h
      exact ⟨path, rfl, hfound⟩

/-- **Looking up the options**: the input path is the one that is given, and what it leads to may be
read, and so may the settings document, if one is given. -/
theorem ofOptions_eq_ok_iff {o : Options} :
    ofOptions find o = .ok i ↔ i.options = o ∧ o.inputPath = .ok i.path ∧
      lookUp find i.path = .ok i.input ∧ o.config.mapM (lookUp find) = .ok i.config := by
  obtain ⟨options, path, config, input⟩ := i
  simp only [ofOptions, bind, Except.bind, pure, Except.pure]
  constructor
  · intro h
    split at h
    · cases h
    · rename_i path' hpath
      split at h
      · cases h
      · rename_i input' hinput
        split at h
        · cases h
        · rename_i config' hconfig
          cases h
          exact ⟨rfl, hpath, hinput, hconfig⟩
  · rintro ⟨rfl, hpath, hinput, hconfig⟩
    simp only [hpath, hinput, hconfig]

/-- **A run that is accepted opens nothing that may not be read.** -/
theorem readable_of_ofOptions {o : Options} (h : ofOptions find o = .ok i) :
    i.input ≠ .forbidden ∧ i.config ≠ some .forbidden := by
  obtain ⟨-, -, hinput, hconfig⟩ := ofOptions_eq_ok_iff.1 h
  refine ⟨(lookUp_eq_ok_iff.1 hinput).2, fun hforbidden => ?_⟩
  rw [hforbidden] at hconfig
  obtain ⟨path, -, hfound⟩ := exists_lookUp_of_mapM hconfig
  exact (lookUp_eq_ok_iff.1 hfound).2 rfl

/-- An argument list that is not refused asks for help or for a run. -/
theorem exists_accepted_of_execute {r : Report} (h : execute find args = .ok r) :
    (∃ o, Options.ofArguments args = .ok o ∧ o.has .help = true) ∨ ∃ i, Accepted find args i := by
  cases ho : Options.ofArguments args with
  | error e =>
    simp only [execute, ho, bind, Except.bind] at h
    cases h
  | ok o =>
    cases hhelp : o.has .help with
    | true => exact Or.inl ⟨o, rfl, hhelp⟩
    | false =>
      cases hi : ofOptions find o with
      | error e =>
        simp only [execute, ho, hhelp, hi, bind, Except.bind] at h
        cases h
      | ok i =>
        obtain ⟨rfl, -, -, -⟩ := ofOptions_eq_ok_iff.1 hi
        exact Or.inr ⟨i, ho, hhelp, hi⟩

/-- One way or the other, every run comes to its end. -/
theorem succeeds_or_failsWith (i : Invocation) :
    (∃ s ws ls, i.Succeeds s ws ls) ∨ ∃ f, i.FailsWith f := by
  cases hs : documentSettings i.config with
  | error e => exact Or.inr ⟨_, .settings (documentSettings_eq_error_iff.1 hs)⟩
  | ok s =>
    have hs := documentSettings_eq_ok_iff.1 hs
    cases hw : words i.options (override i.options s) i.input with
    | error f => exact Or.inr ⟨f, .words hs (words_eq_error_iff.1 hw)⟩
    | ok ws =>
      have hw := words_eq_ok_iff.1 hw
      cases hl : Listing.ofStream ws (override i.options s) with
      | error e => exact Or.inr ⟨_, .listing hs hw hl⟩
      | ok ls => exact Or.inl ⟨s, ws, ls, hs, hw, hl⟩

theorem report_of_misconfiguredBy {e : GeneralError} (h : MisconfiguredBy i.config e) : i.report =
    (Report.failed (opening i.options) (.general e)).shown (i.options.has .verbose) := by
  have hs := documentSettings_eq_error_iff.2 h
  simp only [report, run, fullReport, settings, hs, Except.map, Except.mapError]
  rfl

theorem report_of_failsToRead {s : Settings} {f : Failure} (hs : Configures i.config s)
    (h : FailsToRead i.options (override i.options s).byteOrder i.input f) : i.report =
      (Report.failed (opening i.options) f).shown (i.options.has .verbose) := by
  have hs := documentSettings_eq_ok_iff.2 hs
  have hw := words_eq_error_iff.2 h
  simp only [report, run, fullReport, settings, hs, Except.map, Except.mapError, hw]
  rfl

/-- **The report of a run that has read its words** is that of the walk. -/
theorem report_of_reads {s : Settings} {ws : List Int} (hs : Configures i.config s)
    (hw : Reads i.options (override i.options s).byteOrder i.input ws) : i.report =
      (walkReport (opening i.options ++ [inputRecord ws i.path]) (override i.options s) ws).shown
        (i.options.has .verbose) := by
  have hs := documentSettings_eq_ok_iff.2 hs
  have hw := words_eq_ok_iff.2 hw
  simp only [report, run, fullReport, settings, hs, Except.map, Except.mapError, hw]
  rfl

/-- **The report of a run that fails** is that of the cause, behind records that are no errors. -/
theorem exists_report_of_failsWith {f : Failure} (h : i.FailsWith f) :
    ∃ log, errors log = [] ∧ i.report = (Report.failed log f).shown (i.options.has .verbose) := by
  cases h with
  | settings h => exact ⟨_, errors_opening _, report_of_misconfiguredBy h⟩
  | words hs h => exact ⟨_, errors_opening _, report_of_failsToRead hs h⟩
  | @listing s ws e hs hw h =>
    obtain ⟨is, his⟩ := exists_walkReport_of_error (Stream.ofStream_eq_error_iff.1 h)
      (opening i.options ++ [inputRecord ws i.path]) (override i.options s)
    exact ⟨_, errors_walk _ _ _ _, (report_of_reads hs hw).trans (by rw [his])⟩

/-- **The report of a run that succeeds** has the lines of the listing and no errors. -/
theorem exists_report_of_succeeds {s : Settings} {ws : List Int} {ls : List String}
    (h : i.Succeeds s ws ls) : ∃ log, errors log = [] ∧ i.report =
      (Report.mk 0 ls log).shown (i.options.has .verbose) := by
  obtain ⟨hs, hw, hl⟩ := h
  rw [Listing.ofStream] at hl
  cases hd : Stream.decode ws with
  | error e =>
    rw [hd] at hl
    cases hl
  | ok is =>
    rw [hd] at hl
    obtain rfl := Except.ok.inj hl
    exact ⟨_, errors_walk _ _ _ _, (report_of_reads hs hw).trans (by rw [walkReport_of_ok hd])⟩

/-- Reading words and decoding them fails in three ways. -/
theorem FailsWith.cases_of_decode {e : DecodeError} (h : i.FailsWith (.decode e)) :
    (∃ b, e = .unknownOpcode b) ∨ (∃ pc length, e = .truncated pc length) ∨
      ∃ p, e = .malformedDump p := by
  cases h with
  | words hs h =>
    cases h with
    | dump ho htext h =>
      obtain ⟨pre, c, left, -, -, rfl⟩ := Dump.parse_eq_error_iff.1 h
      exact Or.inr (Or.inr ⟨_, rfl⟩)
    | binary ho hdata h =>
      rw [ByteOrder.words] at h
      split at h
      · cases h
      · obtain rfl := Except.error.inj h
        exact Or.inr (Or.inl ⟨_, _, rfl⟩)
  | listing hs hw h =>
    rcases Stream.eq_of_decode_error (Stream.ofStream_eq_error_iff.1 h) with h | h
    · exact Or.inl h
    · exact Or.inr (Or.inl h)

theorem report_of_succeeds {s : Settings} {ws : List Int} {ls : List String}
    (h : i.Succeeds s ws ls) : i.report.exitCode = 0 ∧
      i.report.stdout = String.join (ls.map (· ++ "\n")) ∧ errors i.report.log = [] := by
  obtain ⟨log, hlog, hr⟩ := exists_report_of_succeeds h
  rw [hr]
  exact ⟨rfl, rfl, (errors_shown _ _).trans hlog⟩

theorem report_of_failsWith {f : Failure} (h : i.FailsWith f) : i.report.exitCode = f.exitCode ∧
    i.report.stdout = "" ∧ errors i.report.log = [f.record] := by
  obtain ⟨log, hlog, hr⟩ := exists_report_of_failsWith h
  have herrors : errors (log ++ [f.record]) = [f.record] := by
    rw [errors_append, hlog, errors_record, List.nil_append]
  rw [hr]
  exact ⟨rfl, rfl, (errors_shown _ _).trans herrors⟩

/-- **The exit code classifies a run.**  Argument lists that are not refused ask for help or for a
run, and every run succeeds or has a first stage that fails.  If it succeeds, it prints the lines of
the listing and reports no error.  If the words cannot be decoded, whether as a dump, as bytes or as
instructions, it reports just this; any other failure has an exit code of its own, and its cause is
reported.  A run that fails prints nothing. -/
theorem execute_classifies (find : String → Option Source) (args : List String) :
    (∀ r, execute find args = .ok r →
      (∃ o, Options.ofArguments args = .ok o ∧ o.has .help = true) ∨
        ∃ i, Accepted find args i) ∧
    ∀ i, Accepted find args i → ∃ r, execute find args = .ok r ∧
      ((∃ s ws ls, i.Succeeds s ws ls) ∨ ∃ f, i.FailsWith f) ∧
      (∀ s ws ls, i.Succeeds s ws ls → r.exitCode = 0 ∧
        r.stdout = String.join (ls.map (· ++ "\n")) ∧ errors r.log = []) ∧
      (∀ e, i.FailsWith (.decode e) → r.exitCode = 2 ∧
        errors r.log = [{ level := .error, message := "Decoding failed: " ++ e.message }] ∧
        ((∃ b, e = .unknownOpcode b) ∨ (∃ pc length, e = .truncated pc length) ∨
          ∃ p, e = .malformedDump p)) ∧
      (∀ e, i.FailsWith (.general e) → r.exitCode = 100 ∧ errors r.log =
        [{ level := .error, message := "Disassembly halted on general error",
           cause := some e.message }]) ∧
      (r.exitCode ≠ 0 → r.stdout = "") := by
  refine ⟨fun r => exists_accepted_of_execute, fun i hi => ⟨i.report, hi.execute_eq,
    i.succeeds_or_failsWith, fun s ws ls => report_of_succeeds, ?_, ?_, ?_⟩⟩
  · intro e h
    obtain ⟨hcode, -, herrors⟩ := report_of_failsWith h
    exact ⟨hcode, herrors, h.cases_of_decode⟩
  · intro e h
    obtain ⟨hcode, -, herrors⟩ := report_of_failsWith h
    exact ⟨hcode, herrors⟩
  · intro hne
    rcases i.succeeds_or_failsWith with ⟨s, ws, ls, h⟩ | ⟨f, h⟩
    · exact absurd (report_of_succeeds h).1 hne
    · exact (report_of_failsWith h).2.1

/-- A stream, one whose second word begins no instruction, and two settings documents, the second of
which is refused. -/
def sampleFiles : String → Option Source :=
  (List.lookup · [
    ("good", .file [0x82, 0, 1, 0]),
    ("bad", .file [0x82, 0, 1, 0, 1, 0, 0, 0]),
    ("raw", .ofText "disasm.show_raw = true"),
    ("one", .ofText "disasm.byteorder = 1")])

/-- A run that succeeds, one whose first instruction is a good one and which yet prints nothing, and
one that ends at its settings document. -/
theorem execute_classifies_three_runs :
    (∃ r, execute sampleFiles ["good", "--no-pc"] = .ok r ∧ r.exitCode = 0 ∧
      r.stdout = "RETURN R0 1\n" ∧ errors r.log = []) ∧
    (∃ r, execute sampleFiles ["bad"] = .ok r ∧ r.exitCode = 2 ∧ r.stdout = "" ∧
      errors r.log = [{ level := .error, message := "Decoding failed: Unknown opcode 1" }]) ∧
    ∃ r, execute sampleFiles ["-c", "one", "good"] = .ok r ∧ r.exitCode = 100 ∧
      r.stdout = "" ∧ errors r.log =
        [{ level := .error, message := "Disassembly halted on general error",
           cause := some "Unsupported byte order 1" }] := by
  refine ⟨?_, ?_, ?_⟩
  · let i : Invocation :=
      ⟨{ switches := [.noPc], paths := ["good"] }, "good", none, .file [0x82, 0, 1, 0]⟩
    have hi : Accepted sampleFiles ["good", "--no-pc"] i := ⟨rfl, rfl, rfl⟩
    have hreads : Reads i.options .little i.input [0x00010082] :=
      .binary rfl rfl (by decide +kernel)
    have hsucceeds : i.Succeeds {} [0x00010082] ["RETURN R0 1"] :=
      ⟨.default, hreads, by decide +kernel⟩
    obtain ⟨r, hr, -, h, -, -, -⟩ := (execute_classifies _ _).2 i hi
    exact ⟨r, hr, h _ _ _ hsucceeds⟩
  · let i : Invocation := ⟨{ paths := ["bad"] }, "bad", none, .file [0x82, 0, 1, 0, 1, 0, 0, 0]⟩
    have hi : Accepted sampleFiles ["bad"] i := ⟨rfl, rfl, rfl⟩
    have hreads : Reads i.options .little i.input [0x00010082, 1] :=
      .binary rfl rfl (by decide +kernel)
    have hfails : i.FailsWith (.decode (.unknownOpcode 1)) :=
      .listing .default hreads (by decide +kernel)
    obtain ⟨r, hr, -, -, h, -, hstdout⟩ := (execute_classifies _ _).2 i hi
    obtain ⟨hcode, herrors, -⟩ := h _ hfails
    exact ⟨r, hr, hcode, hstdout (by rw [hcode]; decide), herrors⟩
  · let i : Invocation := ⟨{ config := some "one", paths := ["good"] }, "good",
      some (.ofText "disasm.byteorder = 1"), .file [0x82, 0, 1, 0]⟩
    have hi : Accepted sampleFiles ["-c", "one", "good"] i := ⟨rfl, rfl, rfl⟩
    have hfails : i.FailsWith (.general (.document (.setting (.unsupportedByteOrder (.int 1))))) :=
      .settings (.unusable (Source.text_ofText (by decide)) (by decide +kernel))
    obtain ⟨r, hr, -, -, -, h, hstdout⟩ := (execute_classifies _ _).2 i hi
    obtain ⟨hcode, herrors⟩ := h _ hfails
    exact ⟨r, hr, hcode, hstdout (by rw [hcode]; decide), herrors⟩

end Invocation

end Command

end LuauDisassembler
