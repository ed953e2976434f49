import LuauDisassembler.Text.Numeral
import LuauDisassembler.Toml.Reader

/-!
# Blanks, strings and keys of TOML

Strings come in two kinds, with escapes between double quotes and without between apostrophes, each
on one line or, between tripled quotes, on several.  No control character but the tab may stand in
any of them, nor in a comment; line feeds may stand where the string may go over several lines.

* `basic`, `literal`, `longBasic`, `longLiteral`: a string behind its opening quotes.
* `lineString`, `longString`: a string on one line, and one over several.
* `key`: a dotted key; its parts are bare, or strings on one line.
-/

namespace LuauDisassembler.Toml

open Reader LuauDisassembler.Text

/-! ## Blanks and comments -/

def isBlank (c : Char) : Bool := c == ' ' || c == '\t'

def isControl (c : Char) : Bool := c.toNat < 32 || c.toNat == 127

/-- The characters of a comment, and of a string on one line. -/
def isLineChar (c : Char) : Bool := !isControl c || c == '\t'

/-- The characters of a string that may go over several lines. -/
def isTextChar (c : Char) : Bool := isLineChar c || c == '\n'

def skipBlanks : Reader Unit := skipWhile isBlank

/-- Takes a comment, if there is one, up to the end of its line. -/
def skipComment : Reader Unit := do
  if ← startsWith ['#'] then
    let text ← takeWhile (· != '\n')
    guard (text.all isLineChar)

mutual

/-- The text behind the blanks, line ends and comments at its head. -/
def behindLines : List Char → Option (List Char)
  | [] => some []
  | c :: s =>
    if isBlank c || c == '\n' then behindLines s
    else if c = '#' then behindComment s
    else some (c :: s)

/-- The text behind a comment and the blanks, line ends and comments that follow it. -/
def behindComment : List Char → Option (List Char)
  | [] => some []
  | c :: s =>
    if c = '\n' then behindLines s else if isLineChar c then behindComment s else none

end

/-- Takes blanks, line ends and comments. -/
def skipLines : Reader Unit := fun s => (behindLines s).map fun rest => ((), rest)

/-! ## Strings -/

/-- The character whose code point is written by hexadecimal digits. -/
def scalar? (digits : List Char) : Option Char :=
  let n := numberOf 16 digits
  if h : n.isValidChar ∧ digits.all isHexDigit then some (Char.ofNatAux n h.1) else none

/-- The character that stands behind a backslash for another one. -/
def shortEscape? : Char → Option Char
  | 'b' => some '\x08'
  | 't' => some '\t'
  | 'n' => some '\n'
  | 'f' => some '\x0c'
  | 'r' => some '\r'
  | '"' => some '"'
  | '\\' => some '\\'
  | _ => none

/-- Puts a character before the text that a reading gave. -/
def prepend (c : Char) : Option (List Char × List Char) → Option (List Char × List Char) :=
  Option.map fun (text, rest) => (c :: text, rest)

/-- A string with escapes on one line, behind its opening quote. -/
def basic : List Char → Option (List Char × List Char)
  | [] => none
  | '"' :: s => some ([], s)
  | '\\' :: 'u' :: a :: b :: c :: d :: s => do
    prepend (← scalar? [a, b, c, d]) (basic s)
  | '\\' :: 'U' :: a :: b :: c :: d :: e :: f :: g :: h :: s => do
    prepend (← scalar? [a, b, c, d, e, f, g, h]) (basic s)
  | '\\' :: c :: s => do prepend (← shortEscape? c) (basic s)
  | c :: s => if isLineChar c && c != '\\' then prepend c (basic s) else none

/-- A string without escapes on one line, behind its opening quote. -/
def literal (s : List Char) : Option (List Char × List Char) :=
  let text := s.takeWhile (· != '\x27')
  match s.dropWhile (· != '\x27') with
  | _ :: rest => if text.all isLineChar then some (text, rest) else none
  | [] => none

/-- What a string over several lines leaves out behind a backslash at the end of a line. -/
inductive Trim
  /-- Nothing. -/
  | nothing
  /-- Blanks, behind which the line has to end. -/
  | blanks
  /-- Blanks and line ends. -/
  | lines
deriving DecidableEq

/-- A string with escapes over several lines, behind its opening quotes.  Up to two quotes may stand
right before the closing ones. -/
def longBasic (trim : Trim) : List Char → Option (List Char × List Char)
  | [] => none
  | x :: s =>
    if trim = .blanks then
      if x = '\n' then longBasic .lines s else if isBlank x then longBasic .blanks s else none
    else if trim = .lines ∧ (isBlank x ∨ x = '\n') then longBasic .lines s
    else match x, s with
      | '"', '"' :: '"' :: '"' :: '"' :: s => some (['"', '"'], s)
      | '"', '"' :: '"' :: '"' :: s => some (['"'], s)
      | '"', '"' :: '"' :: s => some ([], s)
      | '\\', 'u' :: a :: b :: c :: d :: s => do
        prepend (← scalar? [a, b, c, d]) (longBasic .nothing s)
      | '\\', 'U' :: a :: b :: c :: d :: e :: f :: g :: h :: s => do
        prepend (← scalar? [a, b, c, d, e, f, g, h]) (longBasic .nothing s)
      | '\\', c :: s =>
        if c = '\n' then longBasic .lines s
        else if isBlank c then longBasic .blanks s
        else do prepend (← shortEscape? c) (longBasic .nothing s)
      | x, s => if isTextChar x && x != '\\' then prepend x (longBasic .nothing s) else none

/-- A string without escapes over several lines, behind its opening quotes.  Up to two quotes may
stand right before the closing ones. -/
def longLiteral : List Char → Option (List Char × List Char)
  | [] => none
  | '\x27' :: '\x27' :: '\x27' :: '\x27' :: '\x27' :: s => some (['\x27', '\x27'], s)
  | '\x27' :: '\x27' :: '\x27' :: '\x27' :: s => some (['\x27'], s)
  | '\x27' :: '\x27' :: '\x27' :: s => some ([], s)
  | x :: s => if isTextChar x then prepend x (longLiteral s) else none

/-- Takes a string behind its opening quotes. -/
def quotedBy (quotes : List Char) (body : List Char → Option (List Char × List Char)) :
    Reader String := do
  expect quotes
  return String.ofList (← body)

/-- Takes a string on one line. -/
def lineString : Reader String :=
  quotedBy ['"'] basic <|> quotedBy ['\x27'] literal

/-- Takes a string over several lines, without a line end that follows its opening quotes. -/
def longString : Reader String :=
  quotedBy ['"', '"', '"'] (body (longBasic .nothing)) <|>
    quotedBy ['\x27', '\x27', '\x27'] (body longLiteral)
where
  body (text : List Char → Option (List Char × List Char)) : Reader (List Char) := do
    let _ ← accept ['\n']
    text

/-! ## Keys -/

def isBareKeyChar (c : Char) : Bool := c.isAlphanum || c == '_' || c == '-'

/-- Takes one part of a dotted key. -/
def keyPart : Reader String := do
  let bare ← takeWhile isBareKeyChar
  if bare.isEmpty then lineString else return String.ofList bare

/-- Takes a dotted key and the blanks behind it. -/
def key : Reader (List String) := do
  let part ← keyPart
  skipBlanks
  let parts ← many do
    unless ← accept ['.'] do return none
    skipBlanks
    let part ← keyPart
    skipBlanks
    return some part
  return part :: parts

end LuauDisassembler.Toml
