import LuauDisassembler.Word

/-!
# Operand fields and shapes

The bits of a word above the opcode are divided into operand fields, which overlap: `d` covers `b`
and `c`, and `e` covers all three bytes.  A shape lists the fields that an instruction really uses.

* `Field.low`, `Field.width`: where a field lies.
* `Field.read`: its value, signed for `sd` alone.
* `Shape.fields`: the fields of each shape, from low bits to high bits.
* `Label`: the name of an operand in an instruction record.  A record that was put together by
  hand may name operands that are no field of a word; `Label.name_ofName` and `Label.ofName_name`
  say that labels and names correspond one to one.
-/

namespace LuauDisassembler

/-- A field of a word: three bytes, the upper half without and with sign, and the upper 24 bits. -/
inductive Field
  | a | b | c | d | sd | e
deriving DecidableEq, Repr

namespace Field

/-- All fields, in the order of their bits. -/
def all : List Field := [a, b, c, d, sd, e]

def name : Field → String
  | a => "a"
  | b => "b"
  | c => "c"
  | d => "d"
  | sd => "sd"
  | e => "e"

def ofName? (s : String) : Option Field := all.find? (·.name == s)

/-- The lowest bit of the field. -/
def low : Field → Nat
  | a => 8
  | b => 16
  | c => 24
  | d => 16
  | sd => 16
  | e => 8

/-- The number of bits in the field. -/
def width : Field → Nat
  | a => 8
  | b => 8
  | c => 8
  | d => 16
  | sd => 16
  | e => 24

/-- The field read without a sign. -/
def unsigned (f : Field) (w : Int) : Int := Word.bits w f.low f.width

/-- The field read in two's complement. -/
def signed (f : Field) (w : Int) : Int := Word.signedBits w f.low f.width

/-- The value of the field in a word: signed for `sd` alone. -/
def read (f : Field) (w : Int) : Int := if f = sd then f.signed w else f.unsigned w

theorem ofName?_name (f : Field) : ofName? f.name = some f := by cases f <;> decide

theorem name_of_ofName? {s : String} {f : Field} (h : ofName? s = some f) : f.name = s := by
  simpa using List.find?_some h

end Field

/-! ## Labels -/

/-- The name of an operand: a field, or a name that no field has. -/
inductive Label
  | field (f : Field)
  | foreign (name : String) (isForeign : Field.ofName? name = none)
deriving DecidableEq

namespace Label

instance : Coe Field Label := ⟨field⟩

def name : Label → String
  | field f => f.name
  | foreign s _ => s

def ofName (s : String) : Label :=
  match h : Field.ofName? s with
  | some f => field f
  | none => foreign s h

theorem name_ofName (s : String) : (ofName s).name = s := by
  unfold ofName
  split
  · exact Field.name_of_ofName? ‹_›
  · rfl

theorem ofName_name (l : Label) : ofName l.name = l := by
  unfold ofName
  split
  · rename_i f h
    cases l with
    | field g => rw [name, Field.ofName?_name] at h; rw [Option.some.inj h]
    | foreign s hs => rw [name, hs] at h; nomatch h
  · rename_i h
    cases l with
    | field g => rw [name, Field.ofName?_name] at h; nomatch h
    | foreign s hs => rfl

end Label

/-! ## Shapes -/

/-- The operand layouts of the instruction set. -/
inductive Shape
  | empty | a | ab | abc | ad | asd | sd | ac | e
deriving DecidableEq, Repr

namespace Shape

def all : List Shape := [empty, a, ab, abc, ad, asd, sd, ac, e]

def name : Shape → String
  | empty => "none"
  | a => "A"
  | ab => "AB"
  | abc => "ABC"
  | ad => "AD"
  | asd => "AsD"
  | sd => "sD"
  | ac => "AC"
  | e => "E"

def ofName? (s : String) : Option Shape := all.find? (·.name == s)

/-- The fields that an instruction of this shape uses, in the order in which they are shown. -/
def fields : Shape → List Field
  | empty => []
  | a => [.a]
  | ab => [.a, .b]
  | abc => [.a, .b, .c]
  | ad => [.a, .d]
  | asd => [.a, .sd]
  | sd => [.sd]
  | ac => [.a, .c]
  | e => [.e]

theorem ofName?_name (s : Shape) : ofName? s.name = some s := by cases s <;> decide

end Shape

end LuauDisassembler
