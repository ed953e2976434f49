import LuauDisassembler.DecodeError
import LuauDisassembler.Word

/-!
# Words as bytes

A binary stream holds four bytes a word, the least significant byte first or last.

* `ByteOrder.unpack`, `ByteOrder.pack`: the words of a byte string, and the bytes of words.
* `ByteOrder.words`: the words of a byte string, which has to consist of whole words.
* `ByteOrder.ofName?`: the order of a name; `ByteOrder.ofName` takes every name that it does not
  know for the big order.
-/

namespace LuauDisassembler

/-- Whether the least or the most significant byte of a word comes first. -/
inductive ByteOrder
  | little | big
deriving DecidableEq, Repr

namespace ByteOrder

def name : ByteOrder → String
  | little => "little"
  | big => "big"

def ofName? (s : String) : Option ByteOrder := [little, big].find? (·.name == s)

/-- The little order by its name, the big order by any other. -/
def ofName (s : String) : ByteOrder := (ofName? s).getD big

/-- The bytes of a word in the order of their weight, lowest first, or back from there. -/
def arrange (order : ByteOrder) (bytes : List UInt8) : List UInt8 :=
  match order with
  | little => bytes
  | big => bytes.reverse

/-- The number whose bytes are given, lowest first. -/
def number (bytes : List UInt8) : Int := bytes.foldr (fun b n => b.toNat + 256 * n) 0

/-- The four low bytes of a number, lowest first. -/
def lowBytes (w : Int) : List UInt8 :=
  (List.range Word.byteCount).map fun k => UInt8.ofNat (Word.bits w (8 * k) 8).toNat

/-- The words of a byte string; bytes that fill no word at its end are left out. -/
def unpack (order : ByteOrder) : List UInt8 → List Int
  | a :: b :: c :: d :: rest => number (order.arrange [a, b, c, d]) :: order.unpack rest
  | _ => []

/-- The bytes of a list of words, each cut to 32 bits. -/
def pack (order : ByteOrder) (words : List Int) : List UInt8 :=
  words.flatMap fun w => order.arrange (lowBytes w)

/-- The words of a byte string whose length is a whole number of words. -/
def words (order : ByteOrder) (data : List UInt8) : Except DecodeError (List Int) :=
  if data.length % Word.byteCount = 0 then .ok (order.unpack data)
  else .error (.truncated (data.length / Word.byteCount : Nat) data.length)

theorem ofName?_name (order : ByteOrder) : ofName? order.name = some order := by
  cases order <;> decide

end ByteOrder

end LuauDisassembler
