import Mathlib.Data.Nat.Digits.Defs
import Calculator.Builtin
import Calculator.Proofs.Text.Classes

/-!
# Base 64 there and back

Encoding is writing a number in base 64: the bytes of a text are its digits in base 256, and as many
`=` as bytes are missing from the last three follow the digits. Decoding takes the digits apart into
the same bytes (`decode_encode`).
-/

namespace Calculator.Base64

/-! ## The alphabet -/

def alphabet : List Char :=
  "ABCDEFGHIJKLMNOPQRSTUVWXYZabcdefghijklmnopqrstuvwxyz0123456789+/".toList

theorem alphabet_eq : alphabet = (List.range 64).map symbol := by
  decide +kernel

theorem symbol_mem {s : Nat} (h : s < 64) : symbol s ∈ alphabet := by
  rw [alphabet_eq]
  exact List.mem_map_of_mem (List.mem_range.mpr h)

theorem sextet?_symbol : ∀ s < 64, sextet? (symbol s) = some s := by
  decide +kernel

theorem idxOf_symbol : ∀ s < 64, alphabet.idxOf (symbol s) = s := by
  rw [alphabet_eq]
  decide +kernel

theorem ne_of_mem_alphabet {c : Char} (h : c ∈ alphabet) : c ≠ '=' := by
  rw [alphabet_eq] at h
  rintro rfl
  revert h
  decide +kernel

/-! ## Groups of six bits -/

/-- The groups of six bits that the bytes are cut into, zeros filling up the last one. -/
def sextets : List UInt8 → List Nat
  | [] => []
  | [a] => [a.toNat / 4, a.toNat % 4 * 16]
  | [a, b] => [a.toNat / 4, a.toNat % 4 * 16 + b.toNat / 16, b.toNat % 16 * 4]
  | a :: b :: c :: rest =>
    a.toNat / 4 :: (a.toNat % 4 * 16 + b.toNat / 16) ::
      (b.toNat % 16 * 4 + c.toNat / 64) :: (c.toNat % 64) :: sextets rest

def missing (bytes : Nat) : Nat :=
  (3 - bytes % 3) % 3

@[simp] theorem missing_add_three (bytes : Nat) : missing (bytes + 3) = missing bytes := by
  rw [missing, Nat.add_mod_right, missing]

theorem encode_eq (bytes : List UInt8) :
    encode bytes =
      (sextets bytes).map symbol ++ List.replicate (missing bytes.length) '=' := by
  induction bytes using encode.induct with
  | case1 => rfl
  | case2 a => rfl
  | case3 a b => rfl
  | case4 a b c rest ih => simp [encode, sextets, ih]

theorem sextets_lt (bytes : List UInt8) : ∀ s ∈ sextets bytes, s < 64 := by
  induction bytes using sextets.induct with
  | case1 => exact List.forall_mem_nil _
  | case2 a =>
    have ha := a.toNat_lt
    simp [sextets]
    omega
  | case3 a b =>
    have ha := a.toNat_lt
    have hb := b.toNat_lt
    simp [sextets]
    omega
  | case4 a b c rest ih =>
    have ha := a.toNat_lt
    have hb := b.toNat_lt
    have hc := c.toNat_lt
    simp only [sextets, List.forall_mem_cons]
    exact ⟨by omega, by omega, by omega, by omega, ih⟩

theorem length_sextets (bytes : List UInt8) :
    3 * (sextets bytes).length = 4 * bytes.length + missing bytes.length := by
  induction bytes using sextets.induct with
  | case1 => rfl
  | case2 a => rfl
  | case3 a b => rfl
  | case4 a b c rest ih =>
    simp only [sextets, List.length_cons, missing_add_three]
    omega

/-- The groups and the bytes are the digits of one number, but for the zeros at the end. -/
theorem ofDigits_sextets (bytes : List UInt8) :
    Nat.ofDigits 64 (sextets bytes).reverse =
      Nat.ofDigits 256 (bytes.map UInt8.toNat).reverse * 4 ^ missing bytes.length := by
  induction bytes using sextets.induct with
  | case1 => rfl
  | case2 a =>
    simp [sextets, missing, Nat.ofDigits_cons]
    omega
  | case3 a b =>
    simp [sextets, missing, Nat.ofDigits_cons]
    omega
  | case4 a b c rest ih =>
    have hplaces : 64 ^ (sextets rest).length = 256 ^ rest.length * 4 ^ missing rest.length := by
      rw [show 64 = 4 ^ 3 from rfl, show 256 = 4 ^ 4 from rfl, ← Nat.pow_mul, ← Nat.pow_mul,
        ← Nat.pow_add, length_sextets]
    have hthree : c.toNat % 64 + 64 * (b.toNat % 16 * 4 + c.toNat / 64 +
        64 * (a.toNat % 4 * 16 + b.toNat / 16 + 64 * (a.toNat / 4))) =
          c.toNat + 256 * (b.toNat + 256 * a.toNat) := by
      omega
    simp only [sextets, List.map_cons, List.reverse_cons, List.append_assoc, List.cons_append,
      List.nil_append, List.length_cons, List.length_reverse, List.length_map, missing_add_three,
      Nat.ofDigits_append, Nat.ofDigits_cons, Nat.ofDigits_nil, mul_zero, add_zero, ih, hplaces]
    rw [hthree, Nat.add_mul, Nat.mul_right_comm]

/-! ## Bytes from groups -/

theorem first_byte (a : UInt8) {n : Nat} (h : n < 16) :
    UInt8.ofNat (a.toNat / 4 * 4 + (a.toNat % 4 * 16 + n) / 16) = a := by
  have hbyte : a.toNat / 4 * 4 + (a.toNat % 4 * 16 + n) / 16 = a.toNat := by omega
  rw [hbyte, UInt8.ofNat_toNat]

theorem second_byte (m : Nat) (b : UInt8) {n : Nat} (h : n < 4) :
    UInt8.ofNat ((m * 16 + b.toNat / 16) % 16 * 16 + (b.toNat % 16 * 4 + n) / 4) = b := by
  have hb := b.toNat_lt
  have hbyte : (m * 16 + b.toNat / 16) % 16 * 16 + (b.toNat % 16 * 4 + n) / 4 = b.toNat := by
    omega
  rw [hbyte, UInt8.ofNat_toNat]

theorem third_byte (m : Nat) (c : UInt8) :
    UInt8.ofNat ((m * 4 + c.toNat / 64) % 4 * 64 + c.toNat % 64) = c := by
  have hc := c.toNat_lt
  have hbyte : (m * 4 + c.toNat / 64) % 4 * 64 + c.toNat % 64 = c.toNat := by omega
  rw [hbyte, UInt8.ofNat_toNat]

theorem join_sextets (bytes : List UInt8) : join (sextets bytes) = some bytes := by
  induction bytes using sextets.induct with
  | case1 => rfl
  | case2 a =>
    have hfirst := first_byte a (n := 0) (by decide)
    simp_all [sextets, join]
  | case3 a b =>
    have hb := b.toNat_lt
    simp only [sextets, join, Option.some_inj, List.cons.injEq, and_true]
    exact ⟨first_byte a (by omega), second_byte _ b (n := 0) (by decide)⟩
  | case4 a b c rest ih =>
    have hb := b.toNat_lt
    have hc := c.toNat_lt
    simp only [sextets, join, ih, Option.map_some, Option.some_inj, List.cons.injEq, and_true]
    exact ⟨first_byte a (by omega), second_byte _ b (by omega), third_byte _ c⟩

/-! ## Codes -/

/-- The code is of whole groups of four, and its symbols are the digits of a number: that of the
bytes, with two zero bits for each `=` that follows. -/
structure Spells (code : List Char) (bytes : List UInt8) (symbols : List Char) (fill : Nat) :
    Prop where
  eq_append : code = symbols ++ List.replicate fill '='
  mem_alphabet : ∀ c ∈ symbols, c ∈ alphabet
  fill_le : fill ≤ 2
  dvd_fill : 3 ∣ bytes.length + fill
  length : code.length = 4 * ((bytes.length + 2) / 3)
  number : Nat.ofDigits 64 (symbols.map (alphabet.idxOf ·)).reverse =
    Nat.ofDigits 256 (bytes.map UInt8.toNat).reverse * 4 ^ fill

theorem idxOf_symbols {ss : List Nat} (h : ∀ s ∈ ss, s < 64) :
    (ss.map symbol).map (alphabet.idxOf ·) = ss := by
  rw [List.map_map]
  exact (List.map_congr_left fun s hs => idxOf_symbol s (h s hs)).trans ss.map_id

theorem spells_encode (bytes : List UInt8) :
    Spells (encode bytes) bytes ((sextets bytes).map symbol) (missing bytes.length) := by
  have hlt := sextets_lt bytes
  have hlength := length_sextets bytes
  constructor
  case eq_append => exact encode_eq bytes
  case mem_alphabet =>
    intro c hc
    obtain ⟨s, hs, rfl⟩ := List.mem_map.mp hc
    exact symbol_mem (hlt s hs)
  case fill_le => exact Nat.le_of_lt_succ (Nat.mod_lt _ (by decide))
  case dvd_fill =>
    unfold missing
    omega
  case length =>
    rw [encode_eq, List.length_append, List.length_map, List.length_replicate]
    unfold missing at *
    omega
  case number =>
    rw [idxOf_symbols hlt]
    exact ofDigits_sextets bytes

/-! ## Decoding -/

theorem mapM_sextet?_symbols {ss : List Nat} (h : ∀ s ∈ ss, s < 64) :
    (ss.map symbol).mapM sextet? = some ss := by
  induction ss with
  | nil => rfl
  | cons s ss ih =>
    obtain ⟨hs, hss⟩ := List.forall_mem_cons.mp h
    simp [List.mapM_cons, sextet?_symbol s hs, ih hss]

theorem accepts_iff {symbols fill : Nat} : accepts symbols fill = true ↔
    symbols % 4 = 0 ∧ (symbols = 0 → fill = 0) ∨ symbols % 4 = 2 ∧ fill = 2 ∨
      symbols % 4 = 3 ∧ fill = 1 := by
  have hfour : symbols % 4 = 0 ∨ symbols % 4 = 1 ∨ symbols % 4 = 2 ∨ symbols % 4 = 3 := by omega
  rcases hfour with h | h | h | h <;> simp [accepts, h, imp_iff_not_or]

theorem decode_append {symbols : List Char} {fill : Nat} (h : '=' ∉ symbols) :
    decode (symbols ++ List.replicate fill '=') =
      if accepts symbols.length fill then (symbols.mapM sextet?).bind join else none := by
  have hrun := Text.all_ne_of_notMem h
  have hrest : (List.replicate fill '=').head?.any (· != '=') = false := by
    cases fill <;> simp [List.replicate_succ]
  simp [decode, Text.takeWhile_append_of_stop hrun hrest, Text.dropWhile_append_of_stop hrun hrest]

theorem decode_encode (bytes : List UInt8) : decode (encode bytes) = some bytes := by
  have hlt := sextets_lt bytes
  have hlength := length_sextets bytes
  have hsymbols : '=' ∉ (sextets bytes).map symbol := fun hmem =>
    ne_of_mem_alphabet ((spells_encode bytes).mem_alphabet _ hmem) rfl
  have haccepts : accepts ((sextets bytes).map symbol).length (missing bytes.length) = true := by
    rw [List.length_map, accepts_iff]
    unfold missing at *
    omega
  rw [encode_eq, decode_append hsymbols, if_pos haccepts, mapM_sextet?_symbols hlt,
    Option.bind_some, join_sextets]

theorem decodeText_encodeText (text : String) : decodeText (encodeText text) = some text := by
  rw [decodeText, encodeText, String.toList_ofList, decode_encode, Option.bind_some]
  exact dif_pos text.isValidUTF8

theorem bytes_toUTF8 (text : String) :
    text.toUTF8.data.toList = text.toList.flatMap String.utf8EncodeChar := by
  rw [String.toUTF8, ← text.utf8Encode_toList, List.utf8Encode, List.toList_data_toByteArray]

/-- Every text has a code, that of its characters in UTF-8, and decoding the code gives the text
back. -/
theorem decode64_encode64 (text : String) :
    ∃ code, Builtin.encode64.apply [.text text] = .ok (.text code) ∧
      Builtin.decode64.apply [.text code] = .ok (.text text) ∧
      ∃ symbols fill,
        Spells code.toList (text.toList.flatMap String.utf8EncodeChar) symbols fill := by
  refine ⟨encodeText text, rfl, ?_, ?_⟩
  · rw [Builtin.apply, decodeText_encodeText]
  · rw [encodeText, String.toList_ofList, ← bytes_toUTF8]
    exact ⟨_, _, spells_encode _⟩

end Calculator.Base64
