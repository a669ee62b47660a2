import Calculator.Builtin.Conversion
import Calculator.Proofs.Trap.Arithmetic
import Calculator.Proofs.Trap.Literal

/-!
# Partial operations of base conversion

Digits are looked up in a table, whose places are the values of its symbols. Only characters that
are digits of the base are looked up, and only remainders below the base.
-/

namespace Calculator.Trapping

open Conversion

variable {ε : Type}

/-! ## The table of digits -/

def digitTable : List Char :=
  "0123456789ABCDEFGHIJKLMNOPQRSTUVWXYZ".toList

def allowed (base : Base) : List Char :=
  digitTable.take base.value ++ ((digitTable.drop 10).take (base.value - 10)).map Char.toLower

theorem digitTable_eq : digitTable = (List.range' 0 36).map Numeral.symbol := by
  decide +kernel

theorem allowed_eq (base : Base) :
    allowed base = (List.range' 0 base.value).map Numeral.symbol ++
      (List.range' 10 (base.value - 10)).map fun d => (Numeral.symbol d).toLower := by
  have hle := base.le_36
  rw [allowed, digitTable_eq, ← List.map_take, ← List.map_drop, List.drop_range', ← List.map_take,
    List.take_range'_of_length_ge hle, List.take_range'_of_length_ge (by omega), List.map_map]
  rfl

theorem digit?_table {c : Char} {d : Nat} (h : Numeral.digit? c = some d) :
    digitTable.idxOf? c.toUpper = some d ∧ d < 36 ∧
      (c = Numeral.symbol d ∨ 10 ≤ d ∧ c = (Numeral.symbol d).toLower) := by
  have hall : ∀ c : Char, c.toNat < 0x7B → (Numeral.digit? c).all (fun d =>
      digitTable.idxOf? c.toUpper == some d && decide (d < 36) &&
        (c == Numeral.symbol d || decide (10 ≤ d) && c == (Numeral.symbol d).toLower)) = true :=
    Text.forall_char_lt (by decide +kernel)
  have hc := hall c (Numeral.toNat_of_digit? h)
  rw [h] at hc
  simpa [and_assoc] using hc

theorem mem_allowed {base : Base} {c : Char} :
    c ∈ allowed base ↔ ∃ d, Numeral.digitOf? base c = some d := by
  have hle := base.le_36
  simp only [allowed_eq, Numeral.digitOf?, Option.filter_eq_some_iff, decide_eq_true_eq,
    List.mem_append, List.mem_map, List.mem_range'_1]
  constructor
  · rintro (⟨d, hd, rfl⟩ | ⟨d, hd, rfl⟩)
    · exact ⟨d, (Numeral.digit?_symbol d (by omega)).1, by omega⟩
    · exact ⟨d, (Numeral.digit?_symbol d (by omega)).2 hd.1, by omega⟩
  · rintro ⟨d, hdigit, hlt⟩
    obtain ⟨-, -, rfl | ⟨hten, rfl⟩⟩ := digit?_table hdigit
    · exact .inl ⟨d, by omega, rfl⟩
    · exact .inr ⟨d, by omega, rfl⟩

/-! ## Reading and writing digits -/

def extend (base : Base) (n : Nat) (cs : List Char) : Trapping ε Nat :=
  cs.foldlM (fun n c => do
    let d ← place c.toUpper digitTable
    .ok (n * base.value + d)) n

def toDecimal (digits : String) (base : Base) : Trapping EvalError Int :=
  let negative := digits.toList.head? == some '-'
  let body := if negative then digits.toList.tail else digits.toList
  if body.isEmpty || body.any (!(allowed base).contains ·) then raise (.notInBase digits base)
  else do
    let n ← extend base 0 body
    .ok (if negative then -n else n)

def remainders (base : Base) (n : Nat) : Trapping ε (List Char) :=
  if n = 0 then .ok []
  else do
    let symbol ← item digitTable (n % base.value)
    let symbols ← remainders base (n / base.value)
    .ok (symbols ++ [symbol])
termination_by n
decreasing_by
  have := base.two_le
  exact Nat.div_lt_self (by omega) (by omega)

def fromDecimal (n : Int) (base : Base) : Trapping ε String :=
  if n = 0 then .ok "0"
  else do
    let symbols ← remainders base n.natAbs
    .ok (String.ofList (if n < 0 then '-' :: symbols else symbols))

theorem extend_eq {base : Base} {cs : List Char} (h : ∀ c ∈ cs, c ∈ allowed base) (n : Nat) :
    ∃ m, Numeral.extend? base n cs = some m ∧ (extend base n cs : Trapping ε Nat) = .ok m := by
  induction cs generalizing n with
  | nil => exact ⟨n, rfl, rfl⟩
  | cons c cs ih =>
    obtain ⟨⟨d, hd⟩, hcs⟩ := List.forall_mem_cons.mp h |>.imp mem_allowed.mp id
    obtain ⟨m, hm, hextend⟩ := ih hcs (n * base.value + d)
    have hplace := (digit?_table (Option.filter_eq_some_iff.mp hd).1).1
    refine ⟨m, by rw [Numeral.extend?, hd]; exact hm, ?_⟩
    rw [extend, List.foldlM_cons, place, hplace]
    exact hextend

theorem extend?_eq_none {base : Base} {cs : List Char} {c : Char} (hc : c ∈ cs)
    (h : c ∉ allowed base) (n : Nat) : Numeral.extend? base n cs = none := by
  induction cs generalizing n with
  | nil => cases hc
  | cons b cs ih =>
    rw [Numeral.extend?]
    cases hd : Numeral.digitOf? base b with
    | none => rfl
    | some d =>
      rcases List.mem_cons.mp hc with rfl | hc
      · exact absurd (mem_allowed.mpr ⟨d, hd⟩) h
      · exact ih hc _

theorem readNat?_cases (base : Base) (body : List Char) :
    (body.isEmpty || body.any (!(allowed base).contains ·)) = true ∧
        Numeral.readNat? base body = none ∨
      (body.isEmpty || body.any (!(allowed base).contains ·)) = false ∧
        ∃ n, Numeral.readNat? base body = some n ∧
          (extend base 0 body : Trapping ε Nat) = .ok n := by
  cases hempty : body.isEmpty with
  | true => exact .inl ⟨rfl, by simp [Numeral.readNat?, hempty]⟩
  | false =>
    rw [Bool.false_or]
    cases hany : body.any (!(allowed base).contains ·) with
    | true =>
      obtain ⟨c, hc, hnot⟩ := List.any_eq_true.mp hany
      have hnot : c ∉ allowed base := by simpa using hnot
      exact .inl ⟨rfl, by simp [Numeral.readNat?, extend?_eq_none hc hnot]⟩
    | false =>
      have hall : ∀ c ∈ body, c ∈ allowed base := by simpa using hany
      obtain ⟨n, hn, hextend⟩ := extend_eq hall 0
      exact .inr ⟨rfl, n, by simp [Numeral.readNat?, hempty, hn], hextend⟩

theorem read?_eq (base : Base) (cs : List Char) :
    Numeral.read? base cs =
      (Numeral.readNat? base (if cs.head? == some '-' then cs.tail else cs)).map
        fun n : Nat => if cs.head? == some '-' then -(n : Int) else n := by
  unfold Numeral.read?
  split
  · next body =>
    rw [List.head?_cons, List.tail_cons, if_pos (by decide)]
    cases Numeral.readNat? base body <;> rfl
  · next hnot =>
    have hhead : (cs.head? == some '-') = false := by
      cases cs with
      | nil => rfl
      | cons c cs =>
        rw [List.head?_cons, beq_eq_false_iff_ne]
        intro heq
        exact hnot cs (congrArg (· :: cs) (Option.some.inj heq))
    rw [hhead, if_neg (by decide)]
    cases Numeral.readNat? base cs <;> rfl

theorem toDecimal_eq (digits : String) (base : Base) :
    toDecimal digits base = contained (Conversion.toDecimal digits base) := by
  simp only [toDecimal, Conversion.toDecimal, read?_eq]
  generalize (digits.toList.head? == some '-') = negative
  generalize (if negative then digits.toList.tail else digits.toList) = body
  rcases readNat?_cases base body with ⟨hrefused, hread⟩ | ⟨hallowed, n, hread, hn⟩
  · rw [if_pos hrefused, hread]
    rfl
  · rw [if_neg (Bool.eq_false_iff.mp hallowed), hread, hn]
    rfl

theorem item_digitTable {d : Nat} (h : d < 36) :
    (item digitTable d : Trapping ε Char) = .ok (Numeral.symbol d) := by
  rw [item, digitTable_eq, List.getElem?_map, List.getElem?_range' h]
  simp [demand]

theorem remainders_eq (base : Base) {n : Nat} (h : n ≠ 0) :
    (remainders base n : Trapping ε (List Char)) = .ok (Numeral.digits base n) := by
  induction n using Nat.strongRecOn with
  | ind n ih =>
    have htwo := base.two_le
    have hmod : n % base.value < base.value := Nat.mod_lt _ (by omega)
    rw [remainders, if_neg h, item_digitTable (Nat.lt_of_lt_of_le hmod base.le_36), Numeral.digits]
    split
    · next hlt =>
      rw [Nat.div_eq_of_lt hlt, Nat.mod_eq_of_lt hlt, remainders, if_pos rfl]
      rfl
    · next hge =>
      have hdiv : n / base.value ≠ 0 := Nat.ne_of_gt (Nat.div_pos (by omega) (by omega))
      have hlt : n / base.value < n := Nat.div_lt_self (by omega) (by omega)
      simp only [ih _ hlt hdiv]
      rfl

theorem fromDecimal_eq (n : Int) (base : Base) :
    (fromDecimal n base : Trapping ε String) = .ok (Conversion.fromDecimal n base) := by
  unfold fromDecimal
  split
  · next hzero =>
    have htwo := base.two_le
    rw [hzero, Conversion.fromDecimal, Numeral.write, if_neg (by decide), Numeral.digits,
      if_pos (by simp; omega)]
    rfl
  · next hzero =>
    rw [remainders_eq base (by omega), Conversion.fromDecimal, Numeral.write]
    rfl

/-! ## From one base to another -/

def digitsOf : Value → Trapping EvalError String
  | .number x =>
    if x.toInt?.isSome then do
      let n ← truncate x
      showInteger n
    else raise (.hasDecimals x.text)
  | .text text => contained (Conversion.digitsOf (.text text))

def numberOf : Value → Trapping ε Binary64
  | .number x => .ok x
  | .text text =>
    if (Binary64.read? text.toList).isSome then toNumber text.toList else trap .invalidValue

def baseOf (value : Value) : Trapping EvalError Base := do
  let n ← handle [.invalidValue, .overflow] (numberOf value >>= truncate)
    (raise (.notNumeric (shown value)))
  match Base.ofInt? n with
  | some base => .ok base
  | none => do
    let _ ← showInteger n
    raise (.baseOutOfRange n)

def express (digits : String) (n : Int) (target : Base) : Trapping EvalError Value :=
  if target = .ten then
    handle [.overflow] (ofInteger n >>= fun x => .ok (.number x)) (raise (.tooLarge digits))
  else do
    let text ← fromDecimal n target
    .ok (.text text)

def convert (value source target : Value) : Trapping EvalError Value := do
  let digits ← digitsOf value
  let source ← baseOf source
  let target ← baseOf target
  let n ← toDecimal digits source
  express digits n target

theorem digitsOf_eq (value : Value) : digitsOf value = contained (Conversion.digitsOf value) := by
  cases value with
  | text => rfl
  | number x =>
    rw [digitsOf, Conversion.digitsOf]
    cases h : x.toInt? with
    | none => rfl
    | some n =>
      have hn := truncate?_of_toInt? h
      rw [Option.isSome_some, if_pos rfl, truncate_eq hn, ok_bind,
        showInteger_eq (natAbs_truncate?_lt hn)]
      rfl

theorem numberOf_truncate (value : Value) (error : ε) :
    handle [.invalidValue, .overflow] (numberOf value >>= truncate) (raise error) =
      contained (match wholePart? value with | some n => .ok n | none => .error error) := by
  cases value with
  | number x => exact handle_truncate (by decide) (by decide) x error
  | text text =>
    rw [numberOf, wholePart?]
    cases h : Binary64.read? text.toList with
    | none => exact handle_trap (by decide) _
    | some x =>
      rw [Option.isSome_some, if_pos rfl, toNumber, toNumber?_of_read h]
      exact handle_truncate (by decide) (by decide) x error

theorem natAbs_wholePart?_lt {value : Value} {n : Int} (h : wholePart? value = some n) :
    n.natAbs < 2 ^ 1024 := by
  cases value with
  | number x => exact natAbs_truncate?_lt h
  | text text =>
    obtain ⟨x, -, hx⟩ := Option.bind_eq_some_iff.mp h
    exact natAbs_truncate?_lt hx

theorem baseOf_eq (value : Value) : baseOf value = contained (Conversion.baseOf value) := by
  rw [baseOf, numberOf_truncate, Conversion.baseOf]
  cases hwhole : wholePart? value with
  | none => rfl
  | some n =>
    simp only [contained, ok_bind, showInteger_eq (natAbs_wholePart?_lt hwhole)]
    cases Base.ofInt? n <;> rfl

theorem express_eq (digits : String) (n : Int) (target : Base) :
    express digits n target = contained (Conversion.express digits n target) := by
  unfold express Conversion.express
  split
  · unfold ofInteger
    split
    · rfl
    · exact handle_trap (by decide) _
  · rw [fromDecimal_eq]
    rfl

theorem convert_eq (value source target : Value) :
    convert value source target = contained (Conversion.convert value source target) := by
  simp only [convert, Conversion.convert, digitsOf_eq, baseOf_eq, toDecimal_eq, express_eq,
    contained_bind]

end Calculator.Trapping
