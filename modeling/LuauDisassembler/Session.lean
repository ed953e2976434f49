import LuauDisassembler.Dump
import LuauDisassembler.Listing

/-!
# Sessions

A session keeps settings and one stream of words while steps change and show them.  A step that
fails leaves the stream as it is, and of the settings it keeps the changes that were accepted before
the refused one.

* `Session.step`: the session after a step, and the answer to it.
* `Session.run`: the session after a list of steps, and the answers in order.
-/

namespace LuauDisassembler

/-- Settings and a stream of words. -/
structure Session where
  settings : Settings := {}
  words : List Int := []
deriving DecidableEq

namespace Session

/-- What can be asked of a session. -/
inductive Step
  | update (changes : Changes)
  | reset
  | showSettings
  | loadBytes (data : List UInt8)
  | loadDump (text : String)
  | showAt (pc : Int)
  | showAll

inductive Answer
  | settings (s : Settings)
  | words (ws : List Int)
  | line (l : String)
  | lines (ls : List String)

/-- A cause for which a step fails. -/
inductive Failure
  | setting (e : SettingError)
  | decode (e : DecodeError)

/-- Takes over the words that were read, or keeps the session if none could be. -/
def load (s : Session) :
    Except DecodeError (List Int) → Session × Except Failure Answer
  | .ok words => ({ s with words }, .ok (.words words))
  | .error e => (s, .error (.decode e))

/-- The session after a step, and the answer to it. -/
def step (s : Session) : Step → Session × Except Failure Answer
  | .update changes =>
    match s.settings.update changes with
    | (settings, none) => ({ s with settings }, .ok (.settings settings))
    | (settings, some e) => ({ s with settings }, .error (.setting e))
  | .reset => ({ s with settings := {} }, .ok (.settings {}))
  | .showSettings => (s, .ok (.settings s.settings))
  | .loadBytes data => s.load (s.settings.byteOrder.words data)
  | .loadDump text => s.load (Dump.parse text)
  | .showAt pc =>
    (s, ((Listing.lineAt s.words pc s.settings).map .line).mapError .decode)
  | .showAll => (s, ((Listing.ofStream s.words s.settings).map .lines).mapError .decode)

/-- The session after a list of steps, and the answers to them. -/
def run (s : Session) : List Step → Session × List (Except Failure Answer)
  | [] => (s, [])
  | t :: ts =>
    let (s, answer) := s.step t
    let (s, answers) := s.run ts
    (s, answer :: answers)

end Session

end LuauDisassembler
