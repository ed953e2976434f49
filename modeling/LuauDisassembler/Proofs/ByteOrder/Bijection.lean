import LuauDisassembler.Proofs.ByteOrder.Packing

/-!
# Packing and unpacking undo each other

A byte string of whole words is the packing of exactly one list of words, the one that it is
unpacked to.  Four bytes are the low bytes of the number that they write, so packing gives back what
was unpacked; the other direction is `ByteOrder.unpack_pack`.  Reversal follows without a look at
single bytes: a packing in the little order is, read from its end, a packing in the big order.

* `ByteOrder.lowBytes_number`: four bytes and the number that they write.
* `ByteOrder.pack_unpack`, `ByteOrder.words_eq_ok_iff`: byte strings of whole words.
* `ByteOrder.reverse_pack`, `ByteOrder.words_reverse`: byte strings from their end.
* `ByteOrder.words_ofName_bijective`: all of it, for the order of any name.
-/

namespace LuauDisassembler.ByteOrder

/-! ### One word -/

theorem number_four (a b c d : UInt8) : number [a, b, c, d] =
    a.toNat + 256 * b.toNat + 65536 * c.toNat + 16777216 * d.toNat := by
  simp only [number, List.foldr_cons, List.foldr_nil]
  omega

theorem number_range {bytes : List UInt8} (h : bytes.length = 4) :
    0 ≤ number bytes ∧ number bytes < 4294967296 := by
  obtain ⟨a, b, c, d, rfl⟩ := List.length_eq_four.1 h
  have ha := a.toNat_lt
  have hb := b.toNat_lt
  have hc := c.toNat_lt
  have hd := d.toNat_lt
  rw [number_four]
  omega

theorem lowByte_of_emod_eq {v : Int} {a : UInt8} (h : v % 256 = a.toNat) : lowByte v = a := by
  rw [lowByte, h, Int.toNat_natCast, UInt8.ofNat_toNat]

/-- **Four bytes are the low bytes** of the number that they write. -/
theorem lowBytes_number {bytes : List UInt8} (h : bytes.length = 4) :
    lowBytes (number bytes) = bytes := by
  obtain ⟨a, b, c, d, rfl⟩ := List.length_eq_four.1 h
  have ha := a.toNat_lt
  have hb := b.toNat_lt
  have hc := c.toNat_lt
  have hd := d.toNat_lt
  rw [lowBytes_eq, number_four]
  congr 1
  · exact lowByte_of_emod_eq (by omega)
  congr 1
  · exact lowByte_of_emod_eq (by omega)
  congr 1
  · exact lowByte_of_emod_eq (by omega)
  congr 1
  exact lowByte_of_emod_eq (by omega)

/-! ### Streams -/

section

variable (order : ByteOrder)

/-- **Each byte string of whole words is a packing** of words of 32 bits. -/
theorem exists_pack {data : List UInt8} (h : data.length % 4 = 0) :
    ∃ ws, order.pack ws = data ∧ ∀ w ∈ ws, 0 ≤ w ∧ w < 4294967296 := by
  induction data using unpack.induct with
  | case1 a b c d rest ih =>
    have hrest : rest.length % 4 = 0 := by
      simp only [List.length_cons] at h
      omega
    obtain ⟨ws, hpack, hws⟩ := ih hrest
    have hlength : (order.arrange [a, b, c, d]).length = 4 := order.length_arrange _
    refine ⟨number (order.arrange [a, b, c, d]) :: ws, ?_, ?_⟩
    · rw [pack_cons, lowBytes_number hlength, arrange_arrange, hpack]
      rfl
    · exact List.forall_mem_cons.2 ⟨number_range hlength, hws⟩
  | case2 data hshort =>
    rcases data with _ | ⟨a, _ | ⟨b, _ | ⟨c, _ | ⟨d, rest⟩⟩⟩⟩
    · exact ⟨[], rfl, by simp⟩
    · cases h
    · cases h
    · cases h
    · exact (hshort a b c d rest rfl).elim

/-- **A byte string is unpacked to the words** of which it is the packing. -/
theorem words_eq_ok_iff {data : List UInt8} {ws : List Int} : order.words data = .ok ws ↔
    order.pack ws = data ∧ ∀ w ∈ ws, 0 ≤ w ∧ w < 4294967296 := by
  constructor
  · intro h
    by_cases hwhole : data.length % 4 = 0
    · obtain ⟨ws', rfl, hws'⟩ := order.exists_pack hwhole
      rw [order.words_pack hws'] at h
      cases h
      exact ⟨rfl, hws'⟩
    · rw [words, Word.byteCount, if_neg hwhole] at h
      cases h
  · rintro ⟨rfl, hws⟩
    exact order.words_pack hws

theorem words_eq_error_iff {data : List UInt8} {e : DecodeError} : order.words data = .error e ↔
    data.length % 4 ≠ 0 ∧ e = .truncated (data.length / 4 : Nat) data.length := by
  rw [words, Word.byteCount]
  by_cases h : data.length % 4 = 0
  · simp [h]
  · simp [h, eq_comm]

end

/-! ### Reversal -/

/-- **A packing read from its end** is a packing in the other order. -/
theorem reverse_pack (ws : List Int) : (little.pack ws).reverse = big.pack ws.reverse :=
  List.reverse_flatMap

/-- The bytes of a stream in reverse give its words in reverse, if the order is changed too. -/
theorem words_reverse (data : List UInt8) :
    big.words data.reverse = (little.words data).map List.reverse := by
  cases h : little.words data with
  | ok ws =>
    obtain ⟨rfl, hws⟩ := (words_eq_ok_iff little).1 h
    rw [reverse_pack, words_pack big fun w hw => hws w (List.mem_reverse.1 hw)]
    rfl
  | error e =>
    rw [words_eq_error_iff] at h
    rw [Except.map, words_eq_error_iff, List.length_reverse]
    exact h

/-! ### The order of a name -/

theorem ofName_eq (name : String) : ofName name = if name = "little" then little else big := by
  rw [ofName, ofName?, List.find?_cons, List.find?_singleton]
  by_cases h : name = "little"
  · subst h
    rfl
  · have hlittle : (little.name == name) = false := beq_false_of_ne fun he => h he.symm
    rw [hlittle, if_neg h]
    cases big.name == name <;> rfl

/-- **Unpacking is a bijection** between the byte strings of whole words and the lists of words of 32
bits, whatever the name of the byte order is, and packing is its inverse.  A word is packed with its
least significant byte first for the name of the little order, and with its most significant byte
first for every other name.  Bytes that are no whole words are refused, with the number of words that
there are.  Reversing the bytes and the order reverses the words. -/
theorem words_ofName_bijective (name : String) :
    (∀ data e, (ofName name).words data = .error e ↔
      data.length % 4 ≠ 0 ∧ e = .truncated (data.length / 4 : Nat) data.length) ∧
    (∀ data ws, (ofName name).words data = .ok ws ↔
      (ofName name).pack ws = data ∧ ∀ w ∈ ws, 0 ≤ w ∧ w < 4294967296) ∧
    (∀ data, data.length % 4 = 0 →
      ∃ ws, (ofName name).words data = .ok ws ∧ ws.length = data.length / 4) ∧
    (∀ ws, (ofName name).pack ws = ws.flatMap fun w =>
      if name = "little" then
        [lowByte w, lowByte (w / 256), lowByte (w / 65536), lowByte (w / 16777216)]
      else [lowByte (w / 16777216), lowByte (w / 65536), lowByte (w / 256), lowByte w]) ∧
    ∀ data, big.words data.reverse = (little.words data).map List.reverse := by
  refine ⟨fun data e => words_eq_error_iff _, fun data ws => words_eq_ok_iff _, ?_, ?_,
    words_reverse⟩
  · intro data h
    obtain ⟨ws, rfl, hws⟩ := (ofName name).exists_pack h
    refine ⟨ws, words_pack _ hws, ?_⟩
    rw [length_pack]
    omega
  · intro ws
    rw [ofName_eq, pack]
    by_cases h : name = "little"
    · simp only [if_pos h, arrange, lowBytes_eq]
    · simp only [if_neg h, arrange, lowBytes_eq]
      rfl

-- the name of the big order is one of the other names
example : (ofName "network").words [0, 0, 1, 2] = .ok [258] := by decide

end LuauDisassembler.ByteOrder
