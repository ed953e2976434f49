import LuauDisassembler.Command.Options
import LuauDisassembler.Dump
import LuauDisassembler.Listing
import LuauDisassembler.Settings.Document

/-!
# The disassembler command

The command reads settings and a stream, and writes the listing of the stream and a log.  It runs in
stages: the settings document, then the switches that override it, then the words of the input,
then the walk through them.  The first stage that fails ends it, and nothing of a listing is written
unless the whole stream could be decoded.

The log holds the records of all levels; only what is shown of it depends on how verbose the command
is to be.

* `Command.settings`, `Command.words`: the first stages.
* `Command.run`: what the command writes, given the files that it reads.
* `Command.execute`: the same from its argument list.
-/

namespace LuauDisassembler

namespace Command

/-! ## Log -/

/-- The weights of a log record, lightest first. -/
inductive Level
  | debug | info | error
deriving DecidableEq, Repr

def Level.name : Level → String
  | debug => "DEBUG"
  | info => "INFO"
  | error => "ERROR"

/-- A record of the log.  The sentence of a cause that the command did not word itself stands apart
from the message. -/
structure Record where
  level : Level
  message : String
  cause : Option String := none
deriving DecidableEq, Repr

/-- The line of a record up to its cause. -/
def Record.line (r : Record) : String := r.level.name ++ ":root:" ++ r.message

/-- The line that shows a record, with its cause behind the message. -/
def Record.fullLine (r : Record) : String := " ".intercalate (r.line :: r.cause.toList)

/-- The records that are shown: all of them, or only those above the lightest level. -/
def shown (verbose : Bool) (log : List Record) : List Record :=
  log.filter fun r => verbose || r.level != .debug

/-! ## Files -/

/-- What a path leads to. -/
inductive Source
  | file (content : List UInt8)
  /-- Something that exists but has no content of its own, like a directory. -/
  | unreadable
  /-- Something that exists but may not be read. -/
  | forbidden
deriving DecidableEq, Repr

/-- A cause for which a file or a settings document is of no use. -/
inductive GeneralError
  /-- Nothing can be read from the path. -/
  | unreadable
  /-- The bytes of the file are no text. -/
  | notText
  /-- The document gives no settings. -/
  | document (e : DocumentError)
deriving DecidableEq

/-- The sentence that reports the cause.  What the platform says of a file is put in short. -/
def GeneralError.message : GeneralError → String
  | unreadable => "Nothing can be read from the path"
  | notText => "The file is no UTF-8 text"
  | document e => e.message

/-- The bytes of a file. -/
def Source.bytes : Source → Except GeneralError (List UInt8)
  | file content => .ok content
  | unreadable | forbidden => .error .unreadable

/-- The text of a file, with each line end written as a line feed. -/
def Source.text (source : Source) : Except GeneralError String := do
  match String.fromUTF8? ⟨(← source.bytes).toArray⟩ with
  | some text => return String.ofList (Text.unifyNewlines text.toList)
  | none => .error .notText

/-- A path without the parts that lead nowhere, as the log shows it. -/
def shownPath (path : String) : String :=
  let parts := (path.toList.splitOn '/').filter fun part => part != [] && part != ['.']
  let root :=
    match path.toList with
    | '/' :: '/' :: '/' :: _ => "/"
    | '/' :: '/' :: _ => "//"
    | '/' :: _ => "/"
    | _ => ""
  let shown := root ++ "/".intercalate (parts.map String.ofList)
  if shown = "" then "." else shown

/-! ## Stages -/

/-- A cause for which the command ends early. -/
inductive Failure
  | decode (e : DecodeError)
  /-- Everything else: unreadable files and unusable settings. -/
  | general (e : GeneralError)

namespace Failure

/-- The exit code that reports the cause. -/
def exitCode : Failure → Nat
  | decode _ => 2
  | general _ => 100

def record : Failure → Record
  | decode e => { level := .error, message := "Decoding failed: " ++ e.message }
  | general e =>
    { level := .error, message := "Disassembly halted on general error", cause := some e.message }

end Failure

/-- The settings with the switches that override them. -/
def override (o : Options) (s : Settings) : Settings where
  showPc := s.showPc && !o.has .noPc
  showRaw := s.showRaw || o.has .raw
  byteOrder := if o.has .bigEndian then .big else s.byteOrder
  resolveBuiltins := s.resolveBuiltins

/-- The settings of a document, or the defaults if no document is given. -/
def documentSettings : Option Source → Except GeneralError Settings
  | none => .ok {}
  | some source =>
    match source.text with
    | .error e => .error e
    | .ok text => (Settings.ofDocument text).mapError .document

/-- The settings under which the command runs. -/
def settings (o : Options) (config : Option Source) : Except Failure Settings :=
  ((documentSettings config).map (override o)).mapError .general

/-- The words of the input, which is a dump or a binary stream. -/
def words (o : Options) (s : Settings) (input : Source) : Except Failure (List Int) :=
  if o.has .dump then
    match input.text with
    | .error e => .error (.general e)
    | .ok text => (Dump.parse text).mapError .decode
  else
    match input.bytes with
    | .error e => .error (.general e)
    | .ok bytes => (s.byteOrder.words bytes).mapError .decode

/-- The record of an instruction that was met on the walk. -/
def traceRecord (i : Instruction) : Record :=
  let operands := i.operandMap.map fun (l, v) => "'" ++ l.name ++ "': " ++ Text.decimal v
  { level := .debug
    message := i.pcColumn ++ ": " ++ i.name ++ " \x7b" ++ ", ".intercalate operands ++ "\x7d" }

/-! ## Runs -/

/-- What the command leaves: an exit code, the lines of the listing, and the log. -/
structure Report where
  exitCode : Nat
  output : List String
  log : List Record
deriving DecidableEq, Repr

namespace Report

/-- The report of a stage that failed after the given records. -/
def failed (log : List Record) (f : Failure) : Report := ⟨f.exitCode, [], log ++ [f.record]⟩

/-- What is printed of the listing: each line with a line feed behind it. -/
def stdout (r : Report) : String := String.join (r.output.map (· ++ "\n"))

/-- The report with the records that are shown. -/
def shown (verbose : Bool) (r : Report) : Report := { r with log := Command.shown verbose r.log }

end Report

def banner : Record := { level := .info, message := "LUAU BYTECODE DISASSEMBLER" }

/-- The records of the settings document. -/
def configRecords (o : Options) : List Record :=
  (o.config.map fun path =>
    { level := .debug, message := "Loading settings from " ++ shownPath path }).toList

def inputRecord (words : List Int) (path : String) : Record :=
  { level := .info
    message := "Decoding " ++ Text.decimal words.length ++ " words from " ++ shownPath path }

/-- The report of the walk through the words that were read, after the given records. -/
def walkReport (log : List Record) (s : Settings) (words : List Int) : Report :=
  let k := Stream.walk words
  let log := log ++ k.instructions.map traceRecord
  match k.failure with
  | none => ⟨0, k.instructions.map (·.line s), log⟩
  | some e => .failed log (.decode e)

/-- The report of the command with the records of all levels. -/
def fullReport (o : Options) (path : String) (config : Option Source) (input : Source) : Report :=
  let log := banner :: configRecords o
  match settings o config with
  | .error f => .failed log f
  | .ok s =>
    match words o s input with
    | .error f => .failed log f
    | .ok words => walkReport (log ++ [inputRecord words path]) s words

/-- The report of the command. -/
def run (o : Options) (path : String) (config : Option Source) (input : Source) : Report :=
  (fullReport o path config input).shown (o.has .verbose)

/-- The options, the input path and the sources that an argument list names. -/
structure Invocation where
  options : Options
  path : String
  config : Option Source
  input : Source

/-- What a path leads to; there has to be something, and it has to be allowed to read it. -/
def lookUp (find : String → Option Source) (path : String) : Except UsageError Source :=
  match find path with
  | none => .error (.noSuchPath path)
  | some .forbidden => .error (.notReadable path)
  | some source => .ok source

/-- Looks up the paths that the options name. -/
def Invocation.ofOptions (find : String → Option Source) (o : Options) :
    Except UsageError Invocation := do
  let path ← o.inputPath
  let input ← lookUp find path
  let config ← o.config.mapM (lookUp find)
  return ⟨o, path, config, input⟩

/-- The usage of the command. -/
def usage : List String :=
  ["Usage: [OPTIONS] INPUT_PATH", "",
    "  -v, --verbose      Shows the lightest log records too",
    "  -c, --config PATH  Settings document",
    "  --hex              The input is a textual word dump",
    "  --big-endian       The words of a binary input are big endian",
    "  --no-pc            Leaves out instruction positions",
    "  --raw              Shows the words of instructions",
    "  --help             Shows this text"]

/-- The report for an argument list, or the cause why it is refused.  The request for help is
answered before any path is looked at. -/
def execute (find : String → Option Source) (args : List String) : Except UsageError Report := do
  let o ← Options.ofArguments args
  if o.has .help then return ⟨0, usage, []⟩
  let i ← Invocation.ofOptions find o
  return run i.options i.path i.config i.input

/-- The exit code for a refused argument list. -/
def usageExitCode : Nat := 2

end Command

end LuauDisassembler
