import Mathlib.Data.List.Basic
import LuauDisassembler.ByteOrder

/-!
# Packed words

Packing writes each word as its four low bytes, and unpacking puts four bytes together again.  The
byte order only arranges the bytes of a word, and arranging them twice gives them back.

* `ByteOrder.number_lowBytes`: the four low bytes of a number give its residue modulo `2 ^ 32`.
* `ByteOrder.words_pack`: a packed stream is unpacked to the words that it was made of, in either
  order.
-/

namespace LuauDisassembler.ByteOrder

/-! ### One word -/

/-- The lowest byte of a number. -/
def lowByte (v : Int) : UInt8 := UInt8.ofNat (v % 256).toNat

theorem toNat_lowByte (v : Int) : ((lowByte v).toNat : Int) = v % 256 := by
  rw [lowByte, UInt8.toNat_ofNat']
  omega

theorem lowBytes_eq (w : Int) : lowBytes w =
    [lowByte w, lowByte (w / 256), lowByte (w / 65536), lowByte (w / 16777216)] := by
  have hlowest : lowByte w = UInt8.ofNat (Word.bits w 0 8).toNat := by
    show lowByte w = lowByte (w / 1)
    rw [Int.ediv_one]
  rw [hlowest]
  rfl

/-- **The four low bytes of a number** give its residue modulo `2 ^ 32`. -/
theorem number_lowBytes (w : Int) : number (lowBytes w) = w % 4294967296 := by
  rw [lowBytes_eq]
  simp only [number, List.foldr_cons, List.foldr_nil, toNat_lowByte]
  omega

theorem length_lowBytes (w : Int) : (lowBytes w).length = 4 := by
  rw [lowBytes, List.length_map, List.length_range, Word.byteCount]

variable (order : ByteOrder)

theorem arrange_arrange (bytes : List UInt8) : order.arrange (order.arrange bytes) = bytes := by
  cases order with
  | little => rfl
  | big => exact List.reverse_reverse bytes

theorem length_arrange (bytes : List UInt8) : (order.arrange bytes).length = bytes.length := by
  cases order with
  | little => rfl
  | big => exact List.length_reverse

/-! ### Streams -/

/-- Unpacking takes four bytes at a time. -/
theorem unpack_append {bytes : List UInt8} (h : bytes.length = 4) (rest : List UInt8) :
    order.unpack (bytes ++ rest) = number (order.arrange bytes) :: order.unpack rest := by
  obtain ⟨a, b, c, d, rfl⟩ := List.length_eq_four.1 h
  rfl

theorem pack_cons (w : Int) (ws : List Int) :
    order.pack (w :: ws) = order.arrange (lowBytes w) ++ order.pack ws := rfl

theorem length_pack (ws : List Int) : (order.pack ws).length = 4 * ws.length := by
  induction ws with
  | nil => rfl
  | cons w ws ih =>
    rw [pack_cons, List.length_append, ih, length_arrange, length_lowBytes, List.length_cons]
    omega

theorem unpack_pack {ws : List Int} (hws : ∀ w ∈ ws, 0 ≤ w ∧ w < 4294967296) :
    order.unpack (order.pack ws) = ws := by
  induction ws with
  | nil => rfl
  | cons w ws ih =>
    obtain ⟨hw, hws⟩ := List.forall_mem_cons.1 hws
    have hlength : (order.arrange (lowBytes w)).length = 4 := by
      rw [length_arrange, length_lowBytes]
    have hnumber : number (lowBytes w) = w := by
      rw [number_lowBytes, Int.emod_eq_of_lt hw.1 hw.2]
    rw [pack_cons, unpack_append order hlength, arrange_arrange, hnumber, ih hws]

/-- **A packed stream is unpacked to its words**, in either order. -/
theorem words_pack {ws : List Int} (hws : ∀ w ∈ ws, 0 ≤ w ∧ w < 4294967296) :
    order.words (order.pack ws) = .ok ws := by
  have hwhole : (order.pack ws).length % Word.byteCount = 0 := by
    rw [length_pack, Word.byteCount]
    omega
  rw [words, if_pos hwhole, unpack_pack order hws]

end LuauDisassembler.ByteOrder
