import Calculator.Proofs.Base64.RoundTrip
import Calculator.Proofs.Trap.Builtin

/-!
# How strict decoding is

Decoding undoes encoding, but it accepts more codes than encoding writes. `Lax` lists the liberties:
the bits behind the last byte may be any, and groups that are complete may be followed by any number
of `=`. There are no others (`decode_eq_some_iff`), and a code that takes none of them is the one
that its text has (`decode64_iff_lax`).
-/

namespace Calculator.Base64

open List (replicate)

/-! ## Liberties -/

/-- No `=` is superfluous, and the bits behind the last byte are zero. -/
def IsStrict (code : List Char) : Prop :=
  ∃ symbols fill, code = symbols ++ replicate fill '=' ∧ '=' ∉ symbols ∧ fill ≤ 2 ∧
    4 ∣ symbols.length + fill ∧ ∀ last ∈ symbols.getLast?, 4 ^ fill ∣ alphabet.idxOf last

/-- A code as it is written, and one that is read in the same way. -/
inductive Lax : List Char → List Char → Prop
  | exact (code : List Char) : Lax code code
  /-- Each `=` stands for two bits that the last symbol has too many, and these may be any. -/
  | unused {symbols : List Char} {s k fill : Nat} (alphabetic : '=' ∉ symbols)
      (used : 4 ^ fill ∣ s) (unused : k < 4 ^ fill) (range : s + k < 64) :
      Lax (symbols ++ symbol s :: replicate fill '=')
        (symbols ++ symbol (s + k) :: replicate fill '=')
  /-- The groups are complete without an `=`. -/
  | superfluous {symbols : List Char} (fill : Nat) (nonempty : symbols ≠ [])
      (alphabetic : '=' ∉ symbols) : Lax symbols (symbols ++ replicate fill '=')

/-! ## Symbols -/

theorem sextet?_eq_some {c : Char} {s : Nat} : sextet? c = some s ↔ s < 64 ∧ c = symbol s := by
  constructor
  · intro h
    have hascii : c.toNat < 0x80 := Trapping.sextet?_ascii (by rw [h]; rfl)
    have htable : ∀ c : Char, c.toNat < 0x80 →
        (sextet? c).all (fun s => decide (s < 64 ∧ c = symbol s)) = true :=
      Text.forall_char_lt (by decide +kernel)
    have hc := htable c hascii
    rw [h] at hc
    exact of_decide_eq_true hc
  · rintro ⟨hs, rfl⟩
    exact sextet?_symbol s hs

theorem symbol_inj {s t : Nat} (hs : s < 64) (ht : t < 64) (h : symbol s = symbol t) : s = t := by
  have hsextet := sextet?_symbol s hs
  rw [h, sextet?_symbol t ht] at hsextet
  exact (Option.some.inj hsextet).symm

theorem mapM_sextet?_eq_some {symbols : List Char} {ss : List Nat} :
    symbols.mapM sextet? = some ss ↔ (∀ s ∈ ss, s < 64) ∧ symbols = ss.map symbol := by
  constructor
  · intro h
    induction symbols generalizing ss with
    | nil =>
      obtain rfl : [] = ss := by simpa using h
      exact ⟨List.forall_mem_nil _, rfl⟩
    | cons c symbols ih =>
      simp only [List.mapM_cons, Option.bind_eq_bind, Option.bind_eq_some_iff, Option.pure_def,
        Option.some.injEq] at h
      obtain ⟨s, hs, rest, hrest, rfl⟩ := h
      obtain ⟨hlt, rfl⟩ := sextet?_eq_some.mp hs
      obtain ⟨hall, rfl⟩ := ih hrest
      exact ⟨List.forall_mem_cons.mpr ⟨hlt, hall⟩, rfl⟩
  · rintro ⟨hlt, rfl⟩
    exact mapM_sextet?_symbols hlt

/-! ## Unused bits -/

def clear : List Nat → List Nat
  | [a, b] => [a, b / 16 * 16]
  | [a, b, c] => [a, b, c / 4 * 4]
  | a :: b :: c :: d :: rest => a :: b :: c :: d :: clear rest
  | ss => ss

theorem clear_concat {fill : Nat} (hfill : fill ≤ 2) (t : Nat) : ∀ {front : List Nat},
    4 ∣ front.length + 1 + fill → clear (front ++ [t]) = front ++ [t / 4 ^ fill * 4 ^ fill]
  | [], h => by
    rw [List.length_nil] at h
    omega
  | [a], h => by
    obtain rfl : fill = 2 := by
      rw [List.length_singleton] at h
      omega
    rfl
  | [a, b], h => by
    obtain rfl : fill = 1 := by
      simp only [List.length_cons, List.length_nil] at h
      omega
    rfl
  | [a, b, c], h => by
    obtain rfl : fill = 0 := by
      simp only [List.length_cons, List.length_nil] at h
      omega
    simp [clear]
  | a :: b :: c :: d :: front, h => by
    have hfront : 4 ∣ front.length + 1 + fill := by
      simp only [List.length_cons] at h
      omega
    simp only [List.cons_append, clear, clear_concat hfill t hfront]

theorem clear_of_dvd {ss : List Nat} (h : 4 ∣ ss.length) : clear ss = ss := by
  rcases List.eq_nil_or_concat' ss with rfl | ⟨front, t, rfl⟩
  · rfl
  · rw [List.length_append, List.length_singleton] at h
    simpa using clear_concat (Nat.zero_le 2) t h

@[simp] theorem length_clear (ss : List Nat) : (clear ss).length = ss.length := by
  induction ss using clear.induct with
  | case1 | case2 => rfl
  | case3 a b c d rest ih => simp [clear, ih]
  | case4 ss htwo hthree hmore => rw [clear] <;> assumption

theorem join_clear (ss : List Nat) : join (clear ss) = join ss := by
  induction ss using clear.induct with
  | case1 a b => simp [clear, join]
  | case2 a b c => simp [clear, join]
  | case3 a b c d rest ih => simp only [clear, join, ih]
  | case4 ss htwo hthree hmore => rw [clear] <;> assumption

theorem join_unused {fill s k : Nat} {front : List Nat} (hfill : fill ≤ 2)
    (hdvd : 4 ∣ front.length + 1 + fill) (hused : 4 ^ fill ∣ s) (hunused : k < 4 ^ fill) :
    join (front ++ [s + k]) = join (front ++ [s]) := by
  obtain ⟨q, rfl⟩ := hused
  have hcut : (4 ^ fill * q + k) / 4 ^ fill * 4 ^ fill = 4 ^ fill * q := by
    rw [Nat.mul_add_div (Nat.pow_pos (by decide)), Nat.div_eq_of_lt hunused, Nat.add_zero,
      Nat.mul_comm]
  rw [← join_clear, clear_concat hfill _ hdvd, hcut]

theorem toNat_first {a b : Nat} (ha : a < 64) (hb : b < 64) :
    (UInt8.ofNat (a * 4 + b / 16)).toNat = a * 4 + b / 16 :=
  UInt8.toNat_ofNat_of_lt' (show _ < 256 by omega)

theorem toNat_second (b : Nat) {c : Nat} (hc : c < 64) :
    (UInt8.ofNat (b % 16 * 16 + c / 4)).toNat = b % 16 * 16 + c / 4 :=
  UInt8.toNat_ofNat_of_lt' (show _ < 256 by omega)

theorem toNat_third (c : Nat) {d : Nat} (hd : d < 64) :
    (UInt8.ofNat (c % 4 * 64 + d)).toNat = c % 4 * 64 + d :=
  UInt8.toNat_ofNat_of_lt' (show _ < 256 by omega)

theorem sextets_of_join {ss : List Nat} {bytes : List UInt8} (hlt : ∀ s ∈ ss, s < 64)
    (h : join ss = some bytes) : sextets bytes = clear ss := by
  induction ss using join.induct generalizing bytes with
  | case1 =>
    cases h
    rfl
  | case2 => cases h
  | case3 a b =>
    cases h
    simp only [List.forall_mem_cons] at hlt
    obtain ⟨ha, hb, -⟩ := hlt
    simp only [sextets, clear, toNat_first ha hb, List.cons.injEq, and_true]
    omega
  | case4 a b c =>
    cases h
    simp only [List.forall_mem_cons] at hlt
    obtain ⟨ha, hb, hc, -⟩ := hlt
    simp only [sextets, clear, toNat_first ha hb, toNat_second b hc, List.cons.injEq, and_true]
    omega
  | case5 a b c d rest ih =>
    rw [join, Option.map_eq_some_iff] at h
    obtain ⟨bytes, hbytes, rfl⟩ := h
    simp only [List.forall_mem_cons] at hlt
    obtain ⟨ha, hb, hc, hd, hrest⟩ := hlt
    simp only [sextets, clear, toNat_first ha hb, toNat_second b hc, toNat_third c hd,
      ih hrest hbytes, List.cons.injEq, and_true]
    omega

theorem missing_le (bytes : Nat) : missing bytes ≤ 2 :=
  Nat.le_of_lt_succ (Nat.mod_lt _ (by decide))

theorem dvd_length_sextets (bytes : List UInt8) :
    4 ∣ (sextets bytes).length + missing bytes.length := by
  have hlength := length_sextets bytes
  omega

/-! ## Accepted codes -/

theorem notMem_symbols {ss : List Nat} (h : ∀ s ∈ ss, s < 64) : '=' ∉ ss.map symbol := by
  intro hmem
  obtain ⟨s, hs, hsymbol⟩ := List.mem_map.mp hmem
  exact ne_of_mem_alphabet (symbol_mem (h s hs)) hsymbol

theorem notMem_concat {symbols : List Char} {s : Nat} (h : '=' ∉ symbols) (hs : s < 64) :
    '=' ∉ symbols ++ [symbol s] := by
  rw [List.mem_append, List.mem_singleton, not_or]
  exact ⟨h, (ne_of_mem_alphabet (symbol_mem hs)).symm⟩

theorem decode_eq_some {code : List Char} {bytes : List UInt8} :
    decode code = some bytes ↔ ∃ ss fill, code = ss.map symbol ++ replicate fill '=' ∧
      (∀ s ∈ ss, s < 64) ∧ accepts ss.length fill = true ∧ join ss = some bytes := by
  constructor
  · intro h
    simp only [decode] at h
    split at h
    · next hcond =>
      obtain ⟨hfill, haccepts⟩ := Bool.and_eq_true_iff.mp hcond
      obtain ⟨ss, hss, hjoin⟩ := Option.bind_eq_some_iff.mp h
      obtain ⟨hlt, hsymbols⟩ := mapM_sextet?_eq_some.mp hss
      refine ⟨ss, (code.dropWhile (· != '=')).length, ?_, hlt, ?_, hjoin⟩
      · have hequals : code.dropWhile (· != '=') =
            replicate (code.dropWhile (· != '=')).length '=' :=
          List.eq_replicate_iff.mpr
            ⟨rfl, fun c hc => beq_iff_eq.mp (List.all_eq_true.mp hfill c hc)⟩
        rw [← hsymbols, ← hequals, List.takeWhile_append_dropWhile]
      · rwa [hsymbols, List.length_map] at haccepts
    · cases h
  · rintro ⟨ss, fill, rfl, hlt, haccepts, hjoin⟩
    rw [decode_append (notMem_symbols hlt), List.length_map, if_pos haccepts,
      mapM_sextet?_symbols hlt, Option.bind_some, hjoin]

theorem encode_of_join {ss : List Nat} {bytes : List UInt8} (hlt : ∀ s ∈ ss, s < 64)
    (h : join ss = some bytes) :
    encode bytes = (clear ss).map symbol ++ replicate (missing bytes.length) '=' ∧
      4 ∣ ss.length + missing bytes.length := by
  have hsextets := sextets_of_join hlt h
  have hdvd := dvd_length_sextets bytes
  rw [hsextets, length_clear] at hdvd
  exact ⟨by rw [encode_eq, hsextets], hdvd⟩

theorem eq_of_append_fill {as bs : List Char} {m n : Nat} (ha : '=' ∉ as) (hb : '=' ∉ bs)
    (h : as ++ replicate m '=' = bs ++ replicate n '=') : as = bs ∧ m = n := by
  have hcount : m = n := by
    have := congrArg (List.count '=') h
    simpa [List.count_eq_zero.mpr ha, List.count_eq_zero.mpr hb] using this
  subst hcount
  exact ⟨List.append_cancel_right h, rfl⟩

theorem exists_front {ss : List Nat} {symbols : List Char} {s : Nat} (hlt : ∀ s ∈ ss, s < 64)
    (hs : s < 64) (h : ss.map symbol = symbols ++ [symbol s]) :
    ∃ front, ss = front ++ [s] ∧ symbols = front.map symbol := by
  obtain ⟨front, last, rfl, hfront, hlast⟩ := List.map_eq_append_iff.mp h
  obtain ⟨t, rfl, ht⟩ := List.map_eq_singleton_iff.mp hlast
  obtain rfl := symbol_inj (hlt t (by simp)) hs ht
  exact ⟨front, rfl, hfront.symm⟩

theorem Lax.cleared {symbols : List Char} {t : Nat} (halphabetic : '=' ∉ symbols) (ht : t < 64)
    (fill : Nat) : Lax (symbols ++ symbol (t / 4 ^ fill * 4 ^ fill) :: replicate fill '=')
      (symbols ++ symbol t :: replicate fill '=') := by
  have hsplit : t / 4 ^ fill * 4 ^ fill + t % 4 ^ fill = t := Nat.div_add_mod' ..
  have hlax := Lax.unused halphabetic (Nat.dvd_mul_left (4 ^ fill) (t / 4 ^ fill))
    (Nat.mod_lt t (Nat.pow_pos (by decide))) (by rwa [hsplit])
  rwa [hsplit] at hlax

theorem lax_of_decode {code : List Char} {bytes : List UInt8} (h : decode code = some bytes) :
    Lax (encode bytes) code := by
  obtain ⟨ss, fill, rfl, hlt, haccepts, hjoin⟩ := decode_eq_some.mp h
  obtain ⟨hencode, hdvd⟩ := encode_of_join hlt hjoin
  have hmissing := missing_le bytes.length
  rw [accepts_iff] at haccepts
  rcases List.eq_nil_or_concat' ss with rfl | ⟨front, t, rfl⟩
  · cases hjoin
    obtain rfl : fill = 0 := by simpa using haccepts
    exact .exact _
  · rw [List.length_append, List.length_singleton] at hdvd haccepts
    by_cases hcomplete : missing bytes.length = 0
    · have hclear : clear (front ++ [t]) = front ++ [t] :=
        clear_of_dvd (by simpa [hcomplete] using hdvd)
      rw [hcomplete, hclear, List.replicate_zero, List.append_nil] at hencode
      rw [hencode]
      exact .superfluous fill (by simp) (notMem_symbols hlt)
    · obtain rfl : fill = missing bytes.length := by omega
      rw [clear_concat hmissing t hdvd] at hencode
      rw [hencode]
      have hfront : '=' ∉ front.map symbol :=
        notMem_symbols fun s hs => hlt s (List.mem_append_left _ hs)
      simpa using Lax.cleared hfront (hlt t (by simp)) (missing bytes.length)

theorem decode_of_lax {code : List Char} {bytes : List UInt8} (h : Lax (encode bytes) code) :
    decode code = some bytes := by
  have hlt := sextets_lt bytes
  have hdvd := dvd_length_sextets bytes
  have hmissing := missing_le bytes.length
  generalize hcode : encode bytes = strict at h
  rw [encode_eq] at hcode
  cases h with
  | exact => rw [← hcode, ← encode_eq, decode_encode]
  | @unused symbols s k fill halphabetic hused hunused hrange =>
    have hs : s < 64 := by omega
    rw [List.append_cons] at hcode
    obtain ⟨hsymbols, rfl⟩ :=
      eq_of_append_fill (notMem_symbols hlt) (notMem_concat halphabetic hs) hcode
    obtain ⟨front, hfront, rfl⟩ := exists_front hlt hs hsymbols
    rw [hfront, List.length_append, List.length_singleton] at hdvd
    rw [hfront, List.forall_mem_append] at hlt
    refine decode_eq_some.mpr ⟨front ++ [s + k], missing bytes.length, by simp, ?_, ?_, ?_⟩
    · exact List.forall_mem_append.mpr ⟨hlt.1, List.forall_mem_singleton.mpr hrange⟩
    · rw [List.length_append, List.length_singleton, accepts_iff]
      omega
    · rw [join_unused hmissing hdvd hused hunused, ← hfront, join_sextets]
  | superfluous fill hne halphabetic =>
    rw [← List.append_nil strict, ← List.replicate_zero] at hcode
    obtain ⟨rfl, hcomplete⟩ := eq_of_append_fill (notMem_symbols hlt) halphabetic hcode
    refine decode_eq_some.mpr ⟨_, fill, rfl, hlt, ?_, join_sextets bytes⟩
    have hpos : 0 < (sextets bytes).length := by simpa using List.length_pos_iff.mpr hne
    rw [accepts_iff]
    omega

theorem decode_eq_some_iff {code : List Char} {bytes : List UInt8} :
    decode code = some bytes ↔ Lax (encode bytes) code :=
  ⟨lax_of_decode, decode_of_lax⟩

/-! ## Strict codes -/

theorem isStrict_encode (bytes : List UInt8) : IsStrict (encode bytes) := by
  have hlt := sextets_lt bytes
  have hdvd := dvd_length_sextets bytes
  refine ⟨_, _, encode_eq bytes, notMem_symbols hlt, missing_le _, by rwa [List.length_map], ?_⟩
  intro last hlast
  rcases List.eq_nil_or_concat' (sextets bytes) with hnil | ⟨front, t, hfront⟩
  · simp [hnil] at hlast
  · -- Clearing the groups of bytes changes nothing.
    have hclear := sextets_of_join hlt (join_sextets bytes)
    rw [hfront, List.length_append, List.length_singleton] at hdvd
    rw [hfront, clear_concat (missing_le _) t hdvd, List.append_cancel_left_eq,
      List.singleton_inj] at hclear
    obtain rfl : symbol t = last := by simpa [hfront] using hlast
    rw [idxOf_symbol t (hlt t (by simp [hfront])), hclear]
    exact Nat.dvd_mul_left ..

theorem Lax.eq_of_isStrict {code : List Char} {bytes : List UInt8} (h : Lax (encode bytes) code)
    (hstrict : IsStrict code) : encode bytes = code := by
  obtain ⟨symbols', fill', hcode, hsymbols', hfill', hdvd, hlast⟩ := hstrict
  have hlength := (spells_encode bytes).length
  generalize encode bytes = strict at h hlength
  cases h with
  | exact => rfl
  | @unused symbols s k fill halphabetic hused hunused hrange =>
    rw [List.append_cons] at hcode
    obtain ⟨rfl, rfl⟩ := eq_of_append_fill (notMem_concat halphabetic hrange) hsymbols' hcode
    have hbits : 4 ^ fill ∣ s + k := by
      simpa [idxOf_symbol _ hrange] using hlast
    obtain rfl : k = 0 :=
      Nat.eq_zero_of_dvd_of_lt ((Nat.dvd_add_right hused).mp hbits) hunused
    rfl
  | superfluous fill hne halphabetic =>
    obtain ⟨rfl, rfl⟩ := eq_of_append_fill halphabetic hsymbols' hcode
    obtain rfl : fill = 0 := by omega
    exact (List.append_nil _).symm

/-! ## Texts -/

theorem fromUTF8?_eq_some {bytes : ByteArray} {text : String} :
    String.fromUTF8? bytes = some text ↔ text.toUTF8 = bytes := by
  unfold String.fromUTF8?
  constructor
  · intro h
    split at h
    · obtain rfl := Option.some.inj h
      rfl
    · cases h
  · rintro rfl
    exact dif_pos text.isValidUTF8

theorem decodeText_eq_some {code text : String} :
    decodeText code = some text ↔ Lax (encodeText text).toList code.toList := by
  simp only [decodeText, encodeText, String.toList_ofList, ← decode_eq_some_iff,
    Option.bind_eq_some_iff, fromUTF8?_eq_some]
  constructor
  · rintro ⟨bytes, hdecode, hbytes⟩
    rw [hbytes]
    exact hdecode
  · intro h
    exact ⟨_, h, rfl⟩

theorem apply_decode64_eq_ok {code text : String} :
    Builtin.decode64.apply [.text code] = .ok (.text text) ↔ decodeText code = some text := by
  rw [Builtin.apply]
  cases decodeText code <;> simp

theorem apply_encode64_eq_ok {code text : String} :
    Builtin.encode64.apply [.text text] = .ok (.text code) ↔ encodeText text = code := by
  simp [Builtin.apply]

theorem apply_decode64_eq_error {code : String} :
    Builtin.decode64.apply [.text code] = .error (.notBase64 code) ↔ decodeText code = none := by
  rw [Builtin.apply]
  cases decodeText code <;> simp

/-- A text is decoded from its code, with or without the liberties, and from no other. Everything
else is refused. Of all that decode to a text its code is the only strict one. -/
theorem decode64_iff_lax (code : String) :
    (∀ text, Builtin.decode64.apply [.text code] = .ok (.text text) ↔
      Lax (encodeText text).toList code.toList) ∧
    (Builtin.decode64.apply [.text code] = .error (.notBase64 code) ↔
      ∀ text, ¬ Lax (encodeText text).toList code.toList) ∧
    ∀ text, Builtin.encode64.apply [.text text] = .ok (.text code) ↔
      Builtin.decode64.apply [.text code] = .ok (.text text) ∧ IsStrict code.toList := by
  refine ⟨fun text => apply_decode64_eq_ok.trans decodeText_eq_some, ?_, fun text => ?_⟩
  · simp only [apply_decode64_eq_error, ← decodeText_eq_some]
    exact Option.eq_none_iff_forall_ne_some
  · rw [apply_encode64_eq_ok, apply_decode64_eq_ok]
    constructor
    · rintro rfl
      rw [encodeText, String.toList_ofList]
      exact ⟨decodeText_encodeText text, isStrict_encode _⟩
    · rintro ⟨hdecode, hstrict⟩
      have hlax := decodeText_eq_some.mp hdecode
      rw [encodeText, String.toList_ofList] at hlax
      rw [encodeText, hlax.eq_of_isStrict hstrict, String.ofList_toList]

/-- An `A` is decoded from two texts, and an `ABC` from one with an `=` that no code of it has. -/
theorem decode64_not_strict :
    (Builtin.decode64.apply [.text "QR=="] = .ok (.text "A") ∧
      Builtin.decode64.apply [.text "QQ=="] = .ok (.text "A") ∧
      Builtin.encode64.apply [.text "A"] = .ok (.text "QQ==")) ∧
    Builtin.decode64.apply [.text "QUJD="] = .ok (.text "ABC") ∧
      Builtin.encode64.apply [.text "ABC"] = .ok (.text "QUJD") := by
  simp only [apply_decode64_eq_ok]
  decide +kernel

end Calculator.Base64
