import Mathlib.Data.List.Basic
import Calculator.Builtin
import Calculator.Proofs.Trap.Conversion

/-!
# Partial operations of the built-in functions

A function takes its arguments by their places and uses them as numbers or texts, after its
requirement has been checked. A list of arguments that meets the requirement is inside all these
domains (`apply_eq`).
-/

namespace Calculator.Trapping

variable {ε : Type}

/-! ## Base 64 -/

/-- Text in ASCII, as bytes are taken from a text and a text is made of bytes. -/
def ascii (cs : List Char) : Trapping ε (List Char) :=
  if cs.all (·.toNat < 0x80) then .ok cs else trap .invalidValue

def encode64 (content : String) : Trapping ε String := do
  let code ← ascii (Base64.encode content.toUTF8.data.toList)
  .ok (String.ofList code)

def decode64 (content : String) : Trapping EvalError String :=
  handle [.invalidEncoding, .invalidValue]
    (do
      let code ← ascii content.toList
      let bytes ← demand .invalidEncoding (Base64.decode code)
      demand .invalidValue (String.fromUTF8? ⟨bytes.toArray⟩))
    (raise (.notBase64 content))

theorem symbol_ascii (sextet : Nat) : (Base64.symbol sextet).toNat < 0x80 := by
  have hall : ∀ n < 64, (Base64.symbol n).toNat < 0x80 := by decide +kernel
  by_cases h : sextet < 64
  · exact hall sextet h
  · rw [Base64.symbol, if_neg (by omega), if_neg (by omega), if_neg (by omega), if_neg (by omega)]
    decide

theorem encode_ascii (bytes : List UInt8) :
    (Base64.encode bytes).all (·.toNat < 0x80) = true := by
  fun_induction Base64.encode bytes <;> simp_all [symbol_ascii]

theorem sextet?_ascii {c : Char} (h : (Base64.sextet? c).isSome = true) : c.toNat < 0x80 := by
  unfold Base64.sextet? at h
  split at h
  · next hc => exact Text.toNat_lt_of_le hc.2 (by decide)
  · split at h
    · next hc => exact Text.toNat_lt_of_le hc.2 (by decide)
    · split at h
      · next hc => exact Text.toNat_lt_of_le hc.2 (by decide)
      · split at h
        · next hc => rw [hc]; decide
        · split at h
          · next hc => rw [hc]; decide
          · cases h

theorem sextets_ascii {cs : List Char} (h : (cs.mapM Base64.sextet?).isSome = true) :
    ∀ c ∈ cs, c.toNat < 0x80 := by
  induction cs with
  | nil => exact List.forall_mem_nil _
  | cons c cs ih =>
    rw [List.mapM_cons] at h
    cases hc : Base64.sextet? c with
    | none => rw [hc] at h; cases h
    | some sextet =>
      cases hcs : cs.mapM Base64.sextet? with
      | none => rw [hc, hcs] at h; cases h
      | some sextets =>
        exact List.forall_mem_cons.mpr ⟨sextet?_ascii (by rw [hc]; rfl), ih (by rw [hcs]; rfl)⟩

theorem decode_ascii {cs : List Char} (h : (Base64.decode cs).isSome = true) :
    cs.all (·.toNat < 0x80) = true := by
  simp only [Base64.decode] at h
  split at h
  · next hfill =>
    have hfill := (Bool.and_eq_true_iff.mp hfill).1
    rw [← List.takeWhile_append_dropWhile (p := (· != '=')) (l := cs), List.all_append,
      Bool.and_eq_true]
    constructor
    · rw [Option.isSome_bind] at h
      cases hsextets : (cs.takeWhile (· != '=')).mapM Base64.sextet? with
      | none => rw [hsextets] at h; cases h
      | some sextets => simpa using sextets_ascii (by rw [hsextets]; rfl)
    · rw [List.all_eq_true] at hfill ⊢
      intro c hc
      rw [beq_iff_eq.mp (hfill c hc)]
      decide
  · cases h

theorem encode64_eq (content : String) :
    (encode64 content : Trapping ε String) = .ok (Base64.encodeText content) := by
  rw [encode64, ascii, if_pos (encode_ascii _)]
  rfl

theorem decode64_eq (content : String) :
    decode64 content = contained (match Base64.decodeText content with
      | some decoded => .ok decoded
      | none => .error (.notBase64 content)) := by
  rw [decode64, Base64.decodeText]
  cases hdecode : Base64.decode content.toList with
  | none =>
    unfold ascii
    split
    · rw [ok_bind, hdecode]
      exact handle_trap (by decide) _
    · exact handle_trap (by decide) _
  | some bytes =>
    rw [ascii, if_pos (decode_ascii (by rw [hdecode]; rfl)), ok_bind, hdecode, demand_some, ok_bind,
      Option.bind_some]
    cases String.fromUTF8? ⟨bytes.toArray⟩ with
    | none => exact handle_trap (by decide) _
    | some decoded => rfl

/-! ## Arguments -/

def numberAt (arguments : List Value) (i : Nat) : Trapping ε Binary64 :=
  item arguments i >>= asNumber

def textAt (arguments : List Value) (i : Nat) : Trapping ε String :=
  item arguments i >>= asText

@[simp] theorem numberAt_one (x : Binary64) :
    (numberAt [.number x] 0 : Trapping ε Binary64) = .ok x := rfl

@[simp] theorem textAt_one (content : String) :
    (textAt [.text content] 0 : Trapping ε String) = .ok content := rfl

/-- The body of a function, which follows the check of its requirement. The length of a text is far
inside the domain of conversion to a number. -/
def body : Builtin → List Value → Trapping EvalError Value
  | .base, arguments => do
    let (value, source, target) ← three arguments
    convert value source target
  | .cos, arguments => do
    let x ← numberAt arguments 0
    let y ← ofAngle Binary64.cos x
    .ok (.number y)
  | .sin, arguments => do
    let x ← numberAt arguments 0
    let y ← ofAngle Binary64.sin x
    .ok (.number y)
  | .tan, arguments => do
    let x ← numberAt arguments 0
    let y ← ofAngle Binary64.tan x
    .ok (.number y)
  | .decode64, arguments => do
    let content ← textAt arguments 0
    let decoded ← decode64 content
    .ok (.text decoded)
  | .encode64, arguments => do
    let content ← textAt arguments 0
    let code ← encode64 content
    .ok (.text code)
  | .len, arguments => do
    let content ← textAt arguments 0
    .ok (.number (.ofInt content.length))
  | .replace, arguments => do
    let (content, old, new) ← three arguments
    let content ← asText content
    let old ← asText old
    let new ← asText new
    .ok (.text (String.ofList (Text.replace content.toList old.toList new.toList)))
  | .reverse, arguments => do
    let content ← textAt arguments 0
    .ok (.text (String.ofList content.toList.reverse))

def apply (f : Builtin) (arguments : List Value) : Trapping EvalError Value := do
  contained (f.requirement.check arguments)
  body f arguments

theorem one_of_isMetBy {kind : Value.Kind} {usage : String} {arguments : List Value}
    (h : Requirement.isMetBy ⟨1, some kind, usage⟩ arguments = true) :
    ∃ a, arguments = [a] ∧ kind = a.kind := by
  obtain ⟨hlength, hall⟩ := Bool.and_eq_true_iff.mp h
  obtain ⟨a, rfl⟩ := List.length_eq_one_iff.mp (beq_iff_eq.mp hlength)
  exact ⟨a, rfl, by simpa using hall⟩

theorem three_of_isMetBy {kind : Option Value.Kind} {usage : String} {arguments : List Value}
    (h : Requirement.isMetBy ⟨3, kind, usage⟩ arguments = true) :
    ∃ a b c, arguments = [a, b, c] ∧ ∀ x ∈ [a, b, c], ∀ k ∈ kind, k = x.kind := by
  obtain ⟨hlength, hall⟩ := Bool.and_eq_true_iff.mp h
  obtain ⟨a, b, c, rfl⟩ := List.length_eq_three.mp (beq_iff_eq.mp hlength)
  refine ⟨a, b, c, rfl, fun x hx k hk => ?_⟩
  have hx := List.all_eq_true.mp hall x hx
  rw [Option.mem_def.mp hk] at hx
  simpa using hx

theorem number_of_kind {a : Value} (h : .number = a.kind) : ∃ x, a = .number x := by
  cases a with
  | number x => exact ⟨x, rfl⟩
  | text => cases h

theorem text_of_kind {a : Value} (h : .text = a.kind) : ∃ content, a = .text content := by
  cases a with
  | number => cases h
  | text content => exact ⟨content, rfl⟩

/-- The body of a function is inside the domain of its operations when its requirement is met. -/
theorem body_eq {f : Builtin} {arguments : List Value}
    (h : f.requirement.isMetBy arguments = true) :
    body f arguments = contained (f.apply arguments) := by
  cases f with
  | base =>
    obtain ⟨value, source, target, rfl, -⟩ := three_of_isMetBy h
    exact convert_eq value source target
  | replace =>
    obtain ⟨a, b, c, rfl, hkinds⟩ := three_of_isMetBy h
    obtain ⟨content, rfl⟩ := text_of_kind (hkinds a (by simp) _ rfl)
    obtain ⟨old, rfl⟩ := text_of_kind (hkinds b (by simp) _ rfl)
    obtain ⟨new, rfl⟩ := text_of_kind (hkinds c (by simp) _ rfl)
    rfl
  | cos | sin | tan =>
    obtain ⟨a, rfl, hkind⟩ := one_of_isMetBy h
    obtain ⟨x, rfl⟩ := number_of_kind hkind
    rw [body, numberAt_one, ok_bind, ofAngle_eq fun _ => rfl]
    rfl
  | len | reverse =>
    obtain ⟨a, rfl, hkind⟩ := one_of_isMetBy h
    obtain ⟨content, rfl⟩ := text_of_kind hkind
    rfl
  | encode64 =>
    obtain ⟨a, rfl, hkind⟩ := one_of_isMetBy h
    obtain ⟨content, rfl⟩ := text_of_kind hkind
    rw [body, textAt_one, ok_bind, encode64_eq]
    rfl
  | decode64 =>
    obtain ⟨a, rfl, hkind⟩ := one_of_isMetBy h
    obtain ⟨content, rfl⟩ := text_of_kind hkind
    rw [body, textAt_one, ok_bind, decode64_eq, Builtin.apply]
    cases Base64.decodeText content <;> rfl

theorem apply_eq (f : Builtin) (arguments : List Value) :
    apply f arguments = contained (f.apply arguments) := by
  cases h : f.requirement.isMetBy arguments with
  | false =>
    rw [apply, Requirement.check, h, Builtin.apply_of_not_met f arguments h]
    rfl
  | true =>
    rw [apply, Requirement.check, h]
    exact body_eq h

end Calculator.Trapping
