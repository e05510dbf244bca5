import PayloadLedger.Proofs.Text.Order

namespace PayloadLedger
namespace Text
namespace Base64

/-!
Symbols read back.

What is written as symbols is read back byte by byte, whatever the length of the last group.
The values of the symbols stand between the two directions: writing turns bytes into values
and values into symbols.
-/

/-- The values of the symbols that bytes are written in. -/
def sextets : List UInt8 → List Nat
  | [] => []
  | [a] => [a.toNat / 4, a.toNat % 4 * 16]
  | [a, b] => [a.toNat / 4, a.toNat % 4 * 16 + b.toNat / 16, b.toNat % 16 * 4]
  | a :: b :: c :: rest =>
      a.toNat / 4 :: (a.toNat % 4 * 16 + b.toNat / 16) :: (b.toNat % 16 * 4 + c.toNat / 64) ::
        c.toNat % 64 :: sextets rest

theorem encode_eq_map (bytes : List UInt8) : encode bytes = (sextets bytes).map symbol := by
  fun_induction encode bytes with
  | case1 => rfl
  | case2 a => rfl
  | case3 a b => rfl
  | case4 a b c rest ih => simp only [sextets, List.map_cons, ih]

theorem sextets_lt (bytes : List UInt8) : ∀ value ∈ sextets bytes, value < 64 := by
  fun_induction sextets bytes with
  | case1 => simp
  | case2 a =>
      have bound := a.toNat_lt
      simp only [List.mem_cons, List.not_mem_nil, or_false]
      omega
  | case3 a b =>
      have bound := a.toNat_lt
      have nextBound := b.toNat_lt
      simp only [List.mem_cons, List.not_mem_nil, or_false]
      omega
  | case4 a b c rest ih =>
      have bound := a.toNat_lt
      have nextBound := b.toNat_lt
      have lastBound := c.toNat_lt
      intro value member
      simp only [List.mem_cons] at member
      rcases member with rfl | rfl | rfl | rfl | later
      · omega
      · omega
      · omega
      · omega
      · exact ih value later

theorem length_sextets (bytes : List UInt8) : (sextets bytes).length % 4 ≠ 1 := by
  fun_induction sextets bytes with
  | case1 => decide
  | case2 a => simp
  | case3 a b => simp
  | case4 a b c rest ih =>
      simp only [List.length_cons]
      omega

/-- The byte of the symbol of a value. -/
def symbolByte (value : Nat) : UInt8 :=
  UInt8.ofNat (symbol value).toNat

private theorem encodeChar_symbol : ∀ value < 64,
    String.utf8EncodeChar (symbol value) = [symbolByte value] := by
  decide +kernel

private theorem value?_symbolByte : ∀ value < 64, value? (symbolByte value) = some value := by
  decide +kernel

private theorem symbolByte_ne_pad : ∀ value < 64, symbolByte value ≠ pad := by
  decide +kernel

theorem utf8_symbols {symbols : List Nat} (small : ∀ value ∈ symbols, value < 64) :
    utf8 (String.ofList (symbols.map symbol)) = symbols.map symbolByte := by
  rw [utf8_ofList, List.flatMap_map]
  induction symbols with
  | nil => rfl
  | cons value rest ih =>
      rw [List.flatMap_cons, encodeChar_symbol value (small value List.mem_cons_self),
        ih fun other member => small other (List.mem_cons_of_mem value member)]
      rfl

theorem values_symbols {symbols : List Nat} (small : ∀ value ∈ symbols, value < 64)
    (offset : Nat) : values offset none (symbols.map symbolByte) = .ok symbols := by
  induction symbols generalizing offset with
  | nil => rfl
  | cons value rest ih =>
      have bound := small value List.mem_cons_self
      have others := ih (fun other member => small other (List.mem_cons_of_mem value member))
        (offset + 1)
      simp only [List.map_cons, values, if_neg (symbolByte_ne_pad value bound),
        value?_symbolByte value bound, others]

private theorem symbol_urlSafe : ∀ value < 64,
    (symbol value).isAlphanum = true ∨ symbol value = '-' ∨ symbol value = '_' := by
  decide +kernel

/-- Bytes are written in ASCII letters, digits, hyphens and underscores. -/
theorem urlSafe_of_mem_encode {bytes : List UInt8} {c : Char} (member : c ∈ encode bytes) :
    c.isAlphanum = true ∨ c = '-' ∨ c = '_' := by
  rw [encode_eq_map] at member
  rcases List.mem_map.mp member with ⟨value, written, rfl⟩
  exact symbol_urlSafe value (sextets_lt bytes value written)

private theorem byte_eq (byte : UInt8) {value : Nat} (same : value = byte.toNat) :
    UInt8.ofNat value = byte := by
  rw [same, UInt8.ofNat_toNat]

theorem bytes_sextets (read : List UInt8) (last : UInt8) (offset : Nat) :
    bytes last offset (sextets read) = .ok read := by
  fun_induction sextets read with
  | case1 => rfl
  | case2 a =>
      have whole : a.toNat % 4 * 16 % 16 = 0 := Nat.mul_mod_left _ _
      rw [bytes, if_pos whole, byte_eq a (by omega)]
  | case3 a b =>
      have whole : b.toNat % 16 * 4 % 4 = 0 := Nat.mul_mod_left _ _
      have bound := b.toNat_lt
      rw [bytes, if_pos whole, byte_eq a (by omega), byte_eq b (by omega)]
  | case4 a b c rest ih =>
      have bound := b.toNat_lt
      have lastBound := c.toNat_lt
      rw [bytes, ih]
      simp only
      rw [byte_eq a (by omega), byte_eq b (by omega), byte_eq c (by omega)]

/-- Bytes written as symbols are read back. -/
theorem decode_encode (written : List UInt8) :
    decode (utf8 (String.ofList (encode written))) = .ok written := by
  rw [encode_eq_map, utf8_symbols (sextets_lt written), decode]
  have length : ¬ ((sextets written).map symbolByte).length % 4 = 1 := by
    rw [List.length_map]
    exact length_sextets written
  simp only [if_neg length, values_symbols (sextets_lt written), bytes_sextets]

end Base64
end Text
end PayloadLedger
