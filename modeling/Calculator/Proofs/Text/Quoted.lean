import Calculator.Proofs.Text.Classes
import Calculator.Text.Quoted

/-!
# Quoted text told from what follows

An escape tells which character it stands for and where it ends (`unescape_escape`), and no escape
begins with a quotation mark. So a text in quotes tells the text and where it ends, whatever stands
behind it (`quoted_append_inj`). It is never broken into lines.
-/

namespace Calculator.Text

def unhex (cs : List Char) : Nat :=
  cs.foldl (fun n c => 16 * n + (Numeral.digit? c).getD 0) 0

theorem digit?_digitChar : ∀ d < 16, Numeral.digit? (Nat.digitChar d) = some d := by decide

theorem unhex_hex (width n : Nat) : unhex (hex width n) = n % 16 ^ width := by
  induction width generalizing n with
  | zero => simp [hex, unhex, Nat.mod_one]
  | succ width ih =>
    have hdigit := digit?_digitChar (n % 16) (Nat.mod_lt n (by decide))
    have hfront : unhex (hex (width + 1) n) = 16 * unhex (hex width (n / 16)) + n % 16 := by
      simp [hex, unhex, hdigit]
    rw [hfront, ih, Nat.pow_succ', Nat.mod_mul, Nat.add_comm]

/-- The character that an escape at the front stands for, and what follows it. -/
def unescape : List Char → Option (Char × List Char)
  | '\\' :: 'n' :: cs => some ('\n', cs)
  | '\\' :: 'r' :: cs => some ('\r', cs)
  | '\\' :: 't' :: cs => some ('\t', cs)
  | '\\' :: 'x' :: cs => some (Char.ofNat (unhex (cs.take 2)), cs.drop 2)
  | '\\' :: 'u' :: cs => some (Char.ofNat (unhex (cs.take 4)), cs.drop 4)
  | '\\' :: 'U' :: cs => some (Char.ofNat (unhex (cs.take 8)), cs.drop 8)
  | '\\' :: c :: cs => some (c, cs)
  | c :: cs => some (c, cs)
  | [] => none

theorem unhex_take_hex (width : Nat) {n : Nat} (h : n < 16 ^ width) (rest : List Char) :
    unhex ((hex width n ++ rest).take width) = n ∧ (hex width n ++ rest).drop width = rest := by
  have hlength := length_hex width n
  rw [List.take_left' hlength, List.drop_left' hlength, unhex_hex, Nat.mod_eq_of_lt h]
  exact ⟨rfl, rfl⟩

theorem unescape_escapePoint (c : Char) (rest : List Char) :
    unescape (escapePoint c ++ rest) = some (c, rest) := by
  have hpoint : c.toNat < 16 ^ 8 := c.val.toNat_lt
  unfold escapePoint
  split
  · next h =>
    obtain ⟨htake, hdrop⟩ := unhex_take_hex 2 h rest
    simp [unescape, htake, hdrop]
  · split
    · next h =>
      obtain ⟨htake, hdrop⟩ := unhex_take_hex 4 h rest
      simp [unescape, htake, hdrop]
    · obtain ⟨htake, hdrop⟩ := unhex_take_hex 8 hpoint rest
      simp [unescape, htake, hdrop]

theorem newline_notMem_hex (width n : Nat) : '\n' ∉ hex width n := by
  induction width generalizing n with
  | zero => exact List.not_mem_nil
  | succ width ih =>
    have hdigit : ∀ d < 16, '\n' ≠ Nat.digitChar d := by decide
    have hlast := hdigit (n % 16) (Nat.mod_lt n (by decide))
    simp [hex, ih, hlast]

theorem newline_notMem_escapePoint (c : Char) : '\n' ∉ escapePoint c := by
  unfold escapePoint
  repeat' split
  all_goals simp [newline_notMem_hex]

section

variable {quote : Char} (hquote : quote = '\'' ∨ quote = '"')

include hquote

theorem unescape_escape (c : Char) (rest : List Char) :
    unescape (escape quote c ++ rest) = some (c, rest) := by
  unfold escape
  split
  · next h =>
    rcases h with rfl | rfl
    · rcases hquote with rfl | rfl <;> rfl
    · rfl
  · next h =>
    rw [not_or] at h
    repeat' split
    · next h => rw [h]; rfl
    · next h => rw [h]; rfl
    · next h => rw [h]; rfl
    · -- A character that stands for itself is not the one that begins an escape.
      rw [List.singleton_append]
      unfold unescape
      split <;> simp_all
    · exact unescape_escapePoint c rest

theorem escape_append_ne (c : Char) (rest more : List Char) :
    escape quote c ++ rest ≠ quote :: more := by
  have hback : '\\' ≠ quote := by rcases hquote with rfl | rfl <;> decide
  unfold escape escapePoint
  repeat' split
  all_goals simp_all

theorem flatMap_escape_inj {cs ds rest rest' : List Char}
    (h : cs.flatMap (escape quote) ++ quote :: rest = ds.flatMap (escape quote) ++ quote :: rest') :
    cs = ds ∧ rest = rest' := by
  induction cs generalizing ds with
  | nil =>
    cases ds with
    | nil => exact ⟨rfl, (List.cons.inj h).2⟩
    | cons d ds =>
      rw [List.flatMap_cons, List.append_assoc] at h
      exact absurd h.symm (escape_append_ne hquote d _ _)
  | cons c cs ih =>
    rw [List.flatMap_cons, List.append_assoc] at h
    cases ds with
    | nil => exact absurd h (escape_append_ne hquote c _ _)
    | cons d ds =>
      rw [List.flatMap_cons, List.append_assoc] at h
      have hfront := congrArg unescape h
      rw [unescape_escape hquote, unescape_escape hquote, Option.some_inj, Prod.mk.injEq] at hfront
      obtain ⟨rfl, hback⟩ := hfront
      obtain ⟨rfl, hrest⟩ := ih hback
      exact ⟨rfl, hrest⟩

theorem newline_notMem_escape (c : Char) : '\n' ∉ escape quote c := by
  have hne : '\n' ≠ quote := by rcases hquote with rfl | rfl <;> decide
  unfold escape
  split
  · next h =>
    rcases h with rfl | rfl
    · simpa using hne
    · decide
  · split
    · decide
    · next hnewline =>
      repeat' split
      · decide
      · decide
      · simpa using Ne.symm hnewline
      · exact newline_notMem_escapePoint c

end

theorem quoteFor_cases (cs : List Char) : quoteFor cs = '\'' ∨ quoteFor cs = '"' := by
  unfold quoteFor
  split
  · exact .inr rfl
  · exact .inl rfl

theorem quoted_append_inj {cs ds rest rest' : List Char}
    (h : quoted cs ++ rest = quoted ds ++ rest') : cs = ds ∧ rest = rest' := by
  simp only [quoted, List.cons_append, List.append_assoc, List.nil_append] at h
  obtain ⟨hquote, hbody⟩ := List.cons.inj h
  rw [← hquote] at hbody
  exact flatMap_escape_inj (quoteFor_cases cs) hbody

theorem newline_notMem_quoted (cs : List Char) : '\n' ∉ quoted cs := by
  have hquote : '\n' ≠ quoteFor cs := by
    rcases quoteFor_cases cs with h | h <;> rw [h] <;> decide
  simp [quoted, hquote, newline_notMem_escape (quoteFor_cases cs)]

end Calculator.Text
