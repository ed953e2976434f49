import LuauDisassembler.Proofs.Command.Stages
import LuauDisassembler.Proofs.Listing.Token
import LuauDisassembler.Proofs.Stream.Tiling

/-!
# Verbosity and the trace of the walk

All records of a run are made in any case, and verbosity only decides which of them are shown.  So a
verbose run differs from a quiet one in its debug records and in nothing else.

The debug records are a trace.  The first says which settings document is read, if there is one, and
then there is one for each instruction that the walk meets.  A walk that fails has met the
instructions of the words before the place where it stops, and these are all that the trace shows;
`Invocation.Meets` says so without the walk.

* `Options.readArguments_andSwitches`: switches that are set before the arguments are read change
  nothing in the way the arguments are read.
* `Instruction.Genuine.operandMap_eq`: a decoded instruction gives each of its fields once.
* `Invocation.traces_report`: the debug records of a verbose run.
* `Invocation.verbose_adds_trace`: a verbose run and a quiet one.
-/

namespace LuauDisassembler

/-! ### The record of an instruction -/

/-- No shape has a field twice. -/
theorem Shape.eraseDups_fields (s : Shape) :
    (s.fields.map Label.field).eraseDups = s.fields.map Label.field := by
  cases s <;> rfl

namespace Instruction

/-- **A decoded instruction gives each of its fields once**, so its operands and the map of them are
the same. -/
theorem Genuine.operandMap_eq {i : Instruction} (h : i.Genuine) : i.operandMap = i.operands := by
  have hlabels : i.operands.map (·.1) = i.descriptor.shape.fields.map Label.field := by
    rw [h.operands_eq, Descriptor.operandsIn, List.map_map]
    rfl
  have hvalue : ∀ f ∈ i.descriptor.shape.fields,
      (i.operand? (.field f)).map (fun v => (Label.field f, v)) =
        some (Label.field f, i.descriptor.operandIn i.word f) := by
    intro f hf
    rw [h.operand?_eq hf]
    rfl
  rw [operandMap, hlabels, Shape.eraseDups_fields, List.filterMap_map, h.operands_eq,
    Descriptor.operandsIn, ← List.filterMap_eq_map]
  exact List.filterMap_congr hvalue

/-- What the trace says of an instruction: its position in at least four digits, its name, and its
operands in the order of its shape. -/
def traceLine (i : Instruction) : String :=
  String.ofList (Text.numeral 10 4 [] i.pc) ++ ": " ++ i.name ++ " \x7b" ++
    ", ".intercalate (i.operands.map fun o => "'" ++ o.1.name ++ "': " ++ Text.decimal o.2) ++ "\x7d"

theorem Genuine.traceRecord_eq {i : Instruction} (h : i.Genuine) :
    Command.traceRecord i = { level := .debug, message := i.traceLine } := by
  rw [Command.traceRecord, h.operandMap_eq]
  rfl

end Instruction

theorem Stream.map_traceRecord {ws : List Int} {is : List Instruction}
    (h : Stream.decode ws = .ok is) :
    is.map Command.traceRecord = is.map fun k => { level := .debug, message := k.traceLine } := by
  have hgenuine := (Stream.decode_eq_ok_iff.1 h).genuine
  exact List.map_congr_left fun i hi => (hgenuine i hi).traceRecord_eq

namespace Command

/-! ### Switches before the arguments -/

namespace Options

/-- The options with further switches, as if these had been read first. -/
def andSwitches (o : Options) (l : List Switch) : Options := { o with switches := o.switches ++ l }

def Reading.andSwitches (l : List Switch) : Reading → Reading
  | .complete o => .complete (o.andSwitches l)
  | .wantsConfig o name => .wantsConfig (o.andSwitches l) name

section

variable (l : List Switch)

theorem readCluster_andSwitches (o : Options) (cs : List Char) :
    readCluster (o.andSwitches l) cs = (readCluster o cs).map (Reading.andSwitches l) := by
  induction cs generalizing o with
  | nil => rfl
  | cons c cs ih =>
    rw [readCluster, readCluster]
    cases shortOptions.lookup c with
    | none => rfl
    | some opt =>
      cases opt with
      | switch s => exact ih (o.withSwitch s)
      | config =>
        cases cs with
        | nil => rfl
        | cons d ds => rfl

theorem readOption_andSwitches (o : Options) (arg : String) :
    readOption (o.andSwitches l) arg = (readOption o arg).map (Reading.andSwitches l) := by
  rw [readOption, readOption]
  cases splitValue arg with
  | mk name value =>
    simp only
    cases longOptions.lookup name with
    | some opt =>
      cases opt <;> cases value <;> rfl
    | none =>
      simp only
      split
      · rfl
      · exact readCluster_andSwitches l o _

/-- **Switches that are set before** are kept, and count for nothing else. -/
theorem readArguments_andSwitches (o : Options) (args : List String) :
    readArguments (o.andSwitches l) args = (readArguments o args).map (·.andSwitches l) := by
  fun_induction readArguments o args with
  | case1 o => rfl
  | case2 o args =>
    rw [readArguments, if_pos rfl]
    rfl
  | case3 o arg args hdashes hoption e he =>
    rw [readArguments, if_neg hdashes, if_pos hoption, readOption_andSwitches, he]
    rfl
  | case4 o arg args hdashes hoption o' ho' ih =>
    rw [readArguments, if_neg hdashes, if_pos hoption, readOption_andSwitches, ho']
    exact ih
  | case5 o arg hdashes hoption o' name ho' =>
    rw [readArguments, if_neg hdashes, if_pos hoption, readOption_andSwitches, ho']
    rfl
  | case6 o arg hdashes hoption o' name ho' path args ih =>
    rw [readArguments, if_neg hdashes, if_pos hoption, readOption_andSwitches, ho']
    exact ih
  | case7 o arg args hdashes hoption ih =>
    rw [readArguments, if_neg hdashes, if_neg hoption]
    exact ih

end

theorem ofArguments_verbose (args : List String) :
    ofArguments ("-v" :: args) = (ofArguments args).map (·.andSwitches [.verbose]) := by
  have hread : readOption {} "-v" = .ok (.complete (andSwitches {} [.verbose])) := rfl
  rw [ofArguments, readArguments, if_neg (by decide), if_pos (by decide), hread]
  exact readArguments_andSwitches [.verbose] {} args

/-- The options ask for the same, but only the first ask for verbosity. -/
structure Louder (o o' : Options) : Prop where
  verbose : o.has .verbose = true
  quiet : o'.has .verbose = false
  has_eq : ∀ s, s ≠ .verbose → o.has s = o'.has s
  config_eq : o.config = o'.config
  paths_eq : o.paths = o'.paths

theorem louder_andSwitches {o : Options} (h : o.has .verbose = false) :
    (o.andSwitches [.verbose]).Louder o where
  verbose := by simp [has, andSwitches]
  quiet := h
  has_eq := by
    intro s hs
    simp [has, andSwitches, hs]
  config_eq := rfl
  paths_eq := rfl

end Options

/-! ### Runs that differ in verbosity -/

section

variable {o o' : Options}

theorem override_of_louder (h : o.Louder o') (s : Settings) : override o s = override o' s := by
  rw [override, override, h.has_eq .noPc (by decide), h.has_eq .raw (by decide),
    h.has_eq .bigEndian (by decide)]

theorem words_of_louder (h : o.Louder o') (s : Settings) (input : Source) :
    words o s input = words o' s input := by
  rw [words, words, h.has_eq .dump (by decide)]

/-- **All records are made in any case.** -/
theorem fullReport_of_louder (h : o.Louder o') (path : String) (config : Option Source)
    (input : Source) : fullReport o path config input = fullReport o' path config input := by
  have hsettings : settings o config = settings o' config := by
    rw [settings, settings, funext (override_of_louder h)]
  have hrecords : configRecords o = configRecords o' := by
    rw [configRecords, configRecords, h.config_eq]
  simp only [fullReport, hsettings, hrecords, words_of_louder h]

end

/-- The records that are shown to be verbose. -/
def traces (log : List Record) : List Record := log.filter (·.level == .debug)

/-- The records that are shown in any case. -/
def essentials (log : List Record) : List Record := log.filter (·.level != .debug)

theorem shown_true (log : List Record) : shown true log = log := by
  simp [shown]

theorem shown_false (log : List Record) : shown false log = essentials log := by
  simp [shown, essentials]

theorem traces_append (log log' : List Record) : traces (log ++ log') = traces log ++ traces log' :=
  List.filter_append _ _

theorem traces_opening (o : Options) : traces (opening o) = configRecords o := by
  rw [opening, configRecords]
  cases o.config <;> rfl

theorem traces_record (f : Failure) : traces [f.record] = [] := by
  cases f <;> rfl

theorem traces_failed (log : List Record) (f : Failure) :
    traces ((Report.failed log f).shown true).log = traces log := by
  show traces (shown true (log ++ [f.record])) = traces log
  rw [shown_true, traces_append, traces_record, List.append_nil]

theorem traces_trace (is : List Instruction) :
    traces (is.map traceRecord) = is.map traceRecord := by
  rw [traces, List.filter_eq_self]
  intro r hr
  obtain ⟨i, -, rfl⟩ := List.mem_map.1 hr
  rfl

/-- The error that ends a run is shown, and behind all else. -/
theorem getLast?_shown (verbose : Bool) (log : List Record) (f : Failure) :
    (shown verbose (log ++ [f.record])).getLast? = some f.record := by
  have hshown : shown verbose [f.record] = [f.record] := by
    cases f <;> cases verbose <;> rfl
  rw [shown, List.filter_append, ← shown, ← shown, hshown, List.getLast?_concat]

namespace Invocation

/-- The instructions that the run meets: none if it reads no words, all of the stream if it can be
decoded, and otherwise those before the place where the walk stops. -/
inductive Meets (i : Invocation) : List Instruction → Prop
  | misconfigured (h : Misconfigures i.config) : Meets i []
  | unread {s : Settings} {f : Failure} (hs : Configures i.config s)
      (h : FailsToRead i.options (override i.options s).byteOrder i.input f) : Meets i []
  | all {s : Settings} {ws : List Int} {is : List Instruction} (hs : Configures i.config s)
      (hw : Reads i.options (override i.options s).byteOrder i.input ws)
      (hd : Stream.decode ws = .ok is) : Meets i is
  | before {s : Settings} {ws : List Int} {p : Nat} {e : DecodeError} {is : List Instruction}
      (hs : Configures i.config s)
      (hw : Reads i.options (override i.options s).byteOrder i.input ws)
      (h : Stream.StopsAt ws p e) (hd : Stream.decode (ws.take p) = .ok is) : Meets i is

variable {i j : Invocation}

theorem exists_meets (i : Invocation) : ∃ is, i.Meets is := by
  rcases i.succeeds_or_failsWith with ⟨s, ws, ls, hs, hw, hl⟩ | ⟨f, h⟩
  · cases hd : Stream.decode ws with
    | ok is => exact ⟨is, .all hs hw hd⟩
    | error e =>
      rw [Listing.ofStream, hd] at hl
      cases hl
  · cases h with
    | settings h => exact ⟨[], .misconfigured (misconfigures_iff.2 ⟨_, h⟩)⟩
    | words hs h => exact ⟨[], .unread hs h⟩
    | @listing s ws e hs hw h =>
      obtain ⟨p, hp⟩ :=
        Stream.decode_eq_error_iff_exists_stopsAt.1 (Stream.ofStream_eq_error_iff.1 h)
      obtain ⟨is, hd⟩ := hp.decode_take
      exact ⟨is, .before hs hw hp hd⟩

/-- **The trace of a run**: the settings document, and the instructions that are met. -/
theorem traces_report (h : i.options.has .verbose = true) {is : List Instruction}
    (hm : i.Meets is) : traces i.report.log =
      configRecords i.options ++ is.map fun k => { level := .debug, message := k.traceLine } := by
  have hwalk (ws : List Int) : traces (opening i.options ++ [inputRecord ws i.path] ++
      is.map traceRecord) = configRecords i.options ++ is.map traceRecord := by
    rw [traces_append, traces_append, traces_opening, traces_trace]
    exact congrArg (· ++ _) (List.append_nil _)
  cases hm with
  | misconfigured hc =>
    obtain ⟨e, he⟩ := misconfigures_iff.1 hc
    rw [report_of_misconfiguredBy he, h, traces_failed, traces_opening]
    exact (List.append_nil _).symm
  | unread hs hf =>
    rw [report_of_failsToRead hs hf, h, traces_failed, traces_opening]
    exact (List.append_nil _).symm
  | @all s ws is hs hw hd =>
    rw [report_of_reads hs hw, h, walkReport_of_ok hd, ← Stream.map_traceRecord hd, ← hwalk ws]
    exact congrArg traces (shown_true _)
  | @before s ws p e is hs hw hp hd =>
    rw [report_of_reads hs hw, h, walkReport_of_stopsAt hp hd, traces_failed, hwalk,
      Stream.map_traceRecord hd]

theorem getLast?_report {f : Failure} (h : i.FailsWith f) :
    i.report.log.getLast? = some f.record := by
  obtain ⟨log, -, hr⟩ := exists_report_of_failsWith h
  rw [hr]
  exact getLast?_shown _ log f

/-! ### Argument lists that differ in verbosity -/

/-- Options with the same paths ask for the same files. -/
theorem ofOptions_congr {o o' : Options} (hconfig : o.config = o'.config)
    (hpaths : o.paths = o'.paths) (find : String → Option Source) :
    ofOptions find o = (ofOptions find o').map fun i => { i with options := o } := by
  have hpath : o.inputPath = o'.inputPath := by
    rw [Options.inputPath, Options.inputPath, hpaths]
  simp only [ofOptions, bind, Except.bind, pure, Except.pure, hpath, hconfig]
  cases o'.inputPath with
  | error e => rfl
  | ok path =>
    simp only
    cases lookUp find path with
    | error e => rfl
    | ok input =>
      simp only
      cases o'.config.mapM (lookUp find) <;> rfl

theorem Accepted.louder {find : String → Option Source} {args : List String}
    (hj : j.Accepted find args) (hquiet : j.options.has .verbose = false) :
    ∃ i, Accepted find ("-v" :: args) i ∧ i.options.Louder j.options := by
  have hlouder := Options.louder_andSwitches hquiet
  refine ⟨{ j with options := j.options.andSwitches [.verbose] }, ⟨?_, ?_, ?_⟩, hlouder⟩
  · rw [Options.ofArguments_verbose, hj.options_eq]
    rfl
  · rw [hlouder.has_eq .help (by decide), hj.no_help]
  · rw [ofOptions_congr hlouder.config_eq hlouder.paths_eq, hj.ofOptions_eq]
    rfl

/-- **A verbose run and a quiet one** make the same records. -/
theorem report_of_louder {find : String → Option Source} {args args' : List String}
    (hi : i.Accepted find args) (hj : j.Accepted find args') (h : i.options.Louder j.options) :
    ∃ r : Report, i.report = r ∧ j.report = { r with log := essentials r.log } := by
  have hsame := ofOptions_congr h.config_eq h.paths_eq find
  rw [hi.ofOptions_eq, hj.ofOptions_eq] at hsame
  have hij : i = { j with options := i.options } := Except.ok.inj hsame
  have hreport : i.report =
      (fullReport j.options j.path j.config j.input).shown (i.options.has .verbose) := by
    rw [← fullReport_of_louder h, hij]
    rfl
  refine ⟨fullReport j.options j.path j.config j.input, ?_, ?_⟩
  · rw [hreport, h.verbose, Report.shown, shown_true]
  · rw [report, run, h.quiet, Report.shown, shown_false]

/-- **Verbosity shows the trace and changes nothing else.**  A request for help is answered without a
log.  To every other argument list the switch can be added, and of two runs that differ in it alone
both have the same exit code and print the same, and the log of the quiet run is that of the verbose
one without its debug records.  These say which settings document is read, if there is one, and then
show the instructions that are met, one by one; an error that ends the run comes behind all of
them. -/
theorem verbose_adds_trace (find : String → Option Source) :
    (∀ args o, Options.ofArguments args = .ok o → o.has .help = true →
      execute find args = .ok ⟨0, usage, []⟩) ∧
    (∀ args j, Accepted find args j → j.options.has .verbose = false →
      ∃ i, Accepted find ("-v" :: args) i ∧ i.options.Louder j.options) ∧
    (∀ args args' i j, Accepted find args i → Accepted find args' j →
      i.options.Louder j.options → ∃ r r', execute find args = .ok r ∧
        execute find args' = .ok r' ∧ r.exitCode = r'.exitCode ∧ r.stdout = r'.stdout ∧
        essentials r.log = r'.log) ∧
    ∀ args i, Accepted find args i → i.options.has .verbose = true →
      ∃ r, execute find args = .ok r ∧ (∃ is, i.Meets is) ∧
        (∀ is, i.Meets is → traces r.log =
          (i.options.config.map fun path =>
            { level := .debug, message := "Loading settings from " ++ shownPath path }).toList ++
          is.map fun k => { level := .debug, message := k.traceLine }) ∧
        ∀ f, i.FailsWith f → r.log.getLast? = some f.record := by
  refine ⟨?_, fun args j hj => hj.louder, ?_, ?_⟩
  · intro args o ho hhelp
    simp only [execute, ho, hhelp, bind, Except.bind]
    rfl
  · intro args args' i j hi hj h
    obtain ⟨r, hir, hjr⟩ := report_of_louder hi hj h
    refine ⟨i.report, j.report, hi.execute_eq, hj.execute_eq, ?_, ?_, ?_⟩
    · rw [hir, hjr]
    · rw [hir, hjr]
      rfl
    · rw [hir, hjr]
  · intro args i hi hverbose
    exact ⟨i.report, hi.execute_eq, i.exists_meets, fun is his => traces_report hverbose his,
      fun f hf => getLast?_report hf⟩

/-- The second word of the stream begins no instruction.  The verbose run shows the settings
document and the one instruction before it, and both runs end with the error. -/
theorem verbose_adds_trace_before_error :
    ∃ r r', execute sampleFiles ["-v", "-c", "raw", "bad"] = .ok r ∧
      execute sampleFiles ["-c", "raw", "bad"] = .ok r' ∧
      r.exitCode = r'.exitCode ∧ r.stdout = r'.stdout ∧ essentials r.log = r'.log ∧
      traces r.log =
        [{ level := .debug, message := "Loading settings from raw" },
          { level := .debug, message := "0000: RETURN \x7b'a': 0, 'b': 1\x7d" }] ∧
      r.log.getLast? =
        some { level := .error, message := "Decoding failed: Unknown opcode 1" } := by
  let k : Instruction :=
    ⟨0, 0x00010082, ⟨⟨"RETURN", .ab, false⟩, 22⟩, [(.field .a, 0), (.field .b, 1)], none⟩
  let j : Invocation := ⟨{ config := some "raw", paths := ["bad"] }, "bad",
    some (.ofText "disasm.show_raw = true"), .file [0x82, 0, 1, 0, 1, 0, 0, 0]⟩
  let i : Invocation := { j with options := j.options.andSwitches [.verbose] }
  have hj : Accepted sampleFiles ["-c", "raw", "bad"] j := ⟨rfl, rfl, rfl⟩
  have hi : Accepted sampleFiles ["-v", "-c", "raw", "bad"] i := ⟨rfl, rfl, rfl⟩
  have hs : Configures i.config { showRaw := true } :=
    .document (Source.text_ofText (by decide)) (by decide +kernel)
  have hw : Reads i.options .little i.input [0x00010082, 1] := .binary rfl rfl (by decide +kernel)
  have hd : Stream.decode [0x00010082] = .ok [k] := by decide +kernel
  have hstops : Stream.StopsAt [0x00010082, 1] 1 (.unknownOpcode 1) :=
    ⟨⟨[k], hd⟩, .unknown (w := 1) rfl (by decide)⟩
  have herror := Stream.decode_eq_error_iff_exists_stopsAt.2 ⟨1, hstops⟩
  have hfails : i.FailsWith (.decode (.unknownOpcode 1)) :=
    .listing hs hw (Stream.ofStream_eq_error_iff.2 herror)
  obtain ⟨-, -, hpair, htrace⟩ := verbose_adds_trace sampleFiles
  obtain ⟨r, r', hr, hr', hsame⟩ := hpair _ _ i j hi hj (Options.louder_andSwitches rfl)
  obtain ⟨r'', hr'', -, htraces, hlast⟩ := htrace _ i hi rfl
  obtain rfl : r = r'' := Except.ok.inj (hr.symm.trans hr'')
  refine ⟨r, r', hr, hr', hsame.1, hsame.2.1, hsame.2.2, ?_, hlast _ hfails⟩
  rw [htraces [k] (.before hs hw hstops hd)]
  decide +kernel

end Invocation

end Command

end LuauDisassembler
