import Calculator.Proofs.Expr.Grammar

/-!
# Walks through the states of the reader

A walk is what the reader does with lexemes as long as it refuses none of them. `State.Reads` says
which lexemes a state can have been reached with; one step keeps it, hence every walk does
(`walk_reads`). In the other direction the lexemes of a phrase can be walked wherever the phrase may
stand (`Derives.walk_eq`). Together they give `derives_iff_walk`: the grammar derives exactly what
the reader can walk to the end of an expression.
-/

namespace Calculator.Reader

namespace State

/-- The state after some lexemes; none when one of them is refused or nested too deeply. -/
def walk (limit : Option Nat) (state : State) : List Lexeme → Option State
  | [] => some state
  | l :: ls => (state.step l).bind fun next =>
      if tooDeepAt limit next.depth then none else next.walk limit ls

@[simp] theorem walk_nil (limit : Option Nat) (state : State) : state.walk limit [] = some state :=
  rfl

theorem walk_none_cons (state : State) (l : Lexeme) (ls : List Lexeme) :
    state.walk none (l :: ls) = (state.step l).bind (·.walk none ls) := by
  simp [walk, tooDeepAt]

theorem walk_append (limit : Option Nat) (state : State) (ls ms : List Lexeme) :
    state.walk limit (ls ++ ms) = (state.walk limit ls).bind (·.walk limit ms) := by
  induction ls generalizing state with
  | nil => rfl
  | cons l ls ih =>
    simp only [List.cons_append, walk]
    cases state.step l with
    | none => rfl
    | some next =>
      simp only [Option.bind_some]
      split
      · rfl
      · exact ih next

theorem walk_append_of_eq {limit : Option Nat} {state mid : State} {ls : List Lexeme}
    (h : state.walk limit ls = some mid) (ms : List Lexeme) :
    state.walk limit (ls ++ ms) = mid.walk limit ms := by
  rw [walk_append, h, Option.bind_some]

theorem walk_none_of_walk {limit : Option Nat} {state last : State} {ls : List Lexeme}
    (h : state.walk limit ls = some last) : state.walk none ls = some last := by
  induction ls generalizing state with
  | nil => exact h
  | cons l ls ih =>
    simp only [walk, Option.bind_eq_some_iff] at h
    obtain ⟨next, hstep, h⟩ := h
    split at h
    · cases h
    · rw [walk_none_cons, hstep]
      exact ih h

end State

/-! ## What has been read -/

inductive ReadsSum : Option (Expr × Sign) → List Lexeme → Prop
  | none : ReadsSum none []
  | some {ls e} (sign : Sign) : Derives .expression ls e →
      ReadsSum (some (e, sign)) (ls ++ [.operator (.sum sign)])

inductive ReadsProduct : Option (Expr × Scaling) → List Lexeme → Prop
  | none : ReadsProduct none []
  | some {ls e} (scaling : Scaling) : Derives .term ls e →
      ReadsProduct (some (e, scaling)) (ls ++ [.operator (.product scaling)])

def signLexemes (signs : List Sign) : List Lexeme :=
  signs.reverse.map fun sign => .operator (.sum sign)

inductive Pending.Reads : Pending → List Lexeme → Prop
  | intro {sum product ss ps} (signs : List Sign) : ReadsSum sum ss → ReadsProduct product ps →
      Pending.Reads ⟨sum, product, signs⟩ (ss ++ ps ++ signLexemes signs)

inductive ReadsOuter : List Enclosure → List Lexeme → Prop
  | nil : ReadsOuter [] []
  | group {outer os pending ps} : ReadsOuter outer os → pending.Reads ps →
      ReadsOuter (⟨.group, pending⟩ :: outer) (os ++ ps ++ [.openParen])
  | call {outer os pending ps} (name : String) (arguments : List (List Lexeme × Expr)) :
      ReadsOuter outer os → pending.Reads ps →
      (∀ a ∈ arguments, Derives .expression a.1 a.2) →
      ReadsOuter (⟨.call name (arguments.map Prod.snd).reverse, pending⟩ :: outer)
        (os ++ ps ++ .name name :: .openParen :: arguments.flatMap fun a => a.1 ++ [.comma])

inductive State.Reads : State → List Lexeme → Prop
  | operand {pending outer os ps} : ReadsOuter outer os → pending.Reads ps →
      State.Reads (.operand pending outer) (os ++ ps)
  | callee {pending outer os ps} (name : String) : ReadsOuter outer os → pending.Reads ps →
      State.Reads (.callee name pending outer) (os ++ ps ++ [.name name])
  | firstArgument {pending outer os ps} (name : String) : ReadsOuter outer os → pending.Reads ps →
      State.Reads (.firstArgument name pending outer) (os ++ ps ++ [.name name, .openParen])
  | operator {value sum outer os ss ts} : ReadsOuter outer os → ReadsSum sum ss →
      Derives .term ts value → State.Reads (.operator value sum outer) (os ++ ss ++ ts)

theorem Pending.none_reads : Pending.none.Reads [] :=
  .intro [] .none .none

theorem derives_signs {ls : List Lexeme} {e : Expr} (signs : List Sign)
    (h : Derives .factor ls e) :
    Derives .factor (signLexemes signs ++ ls) (signs.foldl (fun e sign => .signed sign e) e) := by
  induction signs generalizing ls e with
  | nil => exact h
  | cons sign signs ih =>
    have := ih (.signed sign h)
    simpa [signLexemes] using this

theorem closeSum_derives {sum : Option (Expr × Sign)} {ss ts : List Lexeme} {value : Expr}
    (hs : ReadsSum sum ss) (hv : Derives .term ts value) :
    Derives .expression (ss ++ ts) (closeSum sum value) := by
  cases hs with
  | none => exact .term hv
  | some sign h => simpa [closeSum] using Derives.sum sign h hv

theorem State.accept_reads {pending : Pending} {outer : List Enclosure} {os ps ls : List Lexeme}
    {e : Expr} (ho : ReadsOuter outer os) (hp : pending.Reads ps) (h : Derives .factor ls e) :
    (State.accept pending outer e).Reads (os ++ ps ++ ls) := by
  obtain ⟨signs, hs, hp⟩ := hp
  have hf := derives_signs signs h
  cases hp with
  | none =>
    have := State.Reads.operator ho hs (.factor hf)
    simpa [State.accept, Pending.close] using this
  | some scaling ht =>
    have := State.Reads.operator ho hs (.product scaling ht hf)
    simpa [State.accept, Pending.close] using this

/-! ### One step -/

theorem State.stepOperand_reads {pending : Pending} {outer : List Enclosure} {os ps : List Lexeme}
    {l : Lexeme} {next : State} (ho : ReadsOuter outer os) (hp : pending.Reads ps)
    (h : State.stepOperand pending outer l = some next) : next.Reads (os ++ ps ++ [l]) := by
  cases l with
  | operator op =>
    cases op with
    | sum sign =>
      cases h
      obtain ⟨signs, hs, hp⟩ := hp
      have := State.Reads.operand ho (.intro (sign :: signs) hs hp)
      simpa [signLexemes] using this
    | product => cases h
  | number literal value => cases h; exact State.accept_reads ho hp (.number literal value)
  | text content => cases h; exact State.accept_reads ho hp (.text content)
  | openParen =>
    cases h
    simpa using State.Reads.operand (.group ho hp) Pending.none_reads
  | name name => cases h; exact .callee name ho hp
  | closeParen | comma => cases h

theorem separated_append (front : List (List Lexeme)) (ls : List Lexeme) :
    separated (front ++ [ls]) = (front.flatMap fun ls => ls ++ [.comma]) ++ ls := by
  induction front with
  | nil => rfl
  | cons ms front ih =>
    cases front with
    | nil => simp [separated]
    | cons ns front => simpa [separated] using ih

theorem State.stepClose_reads {last : Expr} {outer : List Enclosure} {os ls : List Lexeme}
    {next : State} (ho : ReadsOuter outer os) (hl : Derives .expression ls last)
    (h : State.stepClose last outer = some next) : next.Reads (os ++ ls ++ [.closeParen]) := by
  cases ho with
  | nil => cases h
  | group ho hp =>
    cases h
    simpa using State.accept_reads ho hp (.group hl)
  | call name arguments ho hp ha =>
    cases h
    have hall : ∀ a ∈ arguments ++ [(ls, last)], Derives .expression a.1 a.2 :=
      List.forall_mem_append.mpr ⟨ha, List.forall_mem_singleton.mpr hl⟩
    have := State.accept_reads ho hp (.call name _ hall)
    simpa [separated_append, List.flatMap_map] using this

theorem State.stepComma_reads {last : Expr} {outer : List Enclosure} {os ls : List Lexeme}
    {next : State} (ho : ReadsOuter outer os) (hl : Derives .expression ls last)
    (h : State.stepComma last outer = some next) : next.Reads (os ++ ls ++ [.comma]) := by
  cases ho with
  | nil => cases h
  | group => cases h
  | call name arguments ho hp ha =>
    cases h
    have hall : ∀ a ∈ arguments ++ [(ls, last)], Derives .expression a.1 a.2 :=
      List.forall_mem_append.mpr ⟨ha, List.forall_mem_singleton.mpr hl⟩
    have := State.Reads.operand (.call name _ ho hp hall) Pending.none_reads
    simpa using this

theorem State.stepOperator_reads {value : Expr} {sum : Option (Expr × Sign)}
    {outer : List Enclosure} {os ss ts : List Lexeme} {l : Lexeme} {next : State}
    (ho : ReadsOuter outer os) (hs : ReadsSum sum ss) (hv : Derives .term ts value)
    (h : State.stepOperator value sum outer l = some next) :
    next.Reads (os ++ ss ++ ts ++ [l]) := by
  have he := closeSum_derives hs hv
  cases l with
  | operator op =>
    cases op with
    | sum sign =>
      cases h
      have := State.Reads.operand ho (.intro [] (.some sign he) .none)
      simpa [signLexemes] using this
    | product scaling =>
      cases h
      have := State.Reads.operand ho (.intro [] hs (.some scaling hv))
      simpa [signLexemes] using this
  | closeParen => simpa using State.stepClose_reads ho he h
  | comma => simpa using State.stepComma_reads ho he h
  | openParen | number | text | name => cases h

theorem State.step_firstArgument {l : Lexeme} (name : String) (pending : Pending)
    (outer : List Enclosure) (h : l ≠ .closeParen) :
    (State.firstArgument name pending outer).step l =
      State.stepOperand .none (⟨.call name [], pending⟩ :: outer) l := by
  cases l <;> first | rfl | exact absurd rfl h

theorem ReadsOuter.call_nil {outer : List Enclosure} {os ps : List Lexeme} {pending : Pending}
    (name : String) (ho : ReadsOuter outer os) (hp : pending.Reads ps) :
    ReadsOuter (⟨.call name [], pending⟩ :: outer) (os ++ ps ++ [.name name, .openParen]) :=
  .call name [] ho hp (by simp)

theorem State.step_reads {state next : State} {ls : List Lexeme} {l : Lexeme}
    (hr : state.Reads ls) (h : state.step l = some next) : next.Reads (ls ++ [l]) := by
  cases hr with
  | operand ho hp => exact State.stepOperand_reads ho hp h
  | callee name ho hp =>
    cases l <;> cases h
    simpa using State.Reads.firstArgument name ho hp
  | firstArgument name ho hp =>
    by_cases hl : l = .closeParen
    · subst hl
      cases h
      simpa [separated] using State.accept_reads ho hp (.call name [] (by simp))
    · rw [State.step_firstArgument name _ _ hl] at h
      simpa using State.stepOperand_reads (.call_nil name ho hp) Pending.none_reads h
  | operator ho hs hv => exact State.stepOperator_reads ho hs hv h

theorem State.walk_reads {limit : Option Nat} {state last : State} {ls ms : List Lexeme}
    (hr : state.Reads ls) (h : state.walk limit ms = some last) : last.Reads (ls ++ ms) := by
  replace h := State.walk_none_of_walk h
  induction ms generalizing state ls with
  | nil =>
    cases h
    simpa using hr
  | cons l ms ih =>
    rw [State.walk_none_cons, Option.bind_eq_some_iff] at h
    obtain ⟨next, hstep, h⟩ := h
    simpa using ih (State.step_reads hr hstep) h

/-! ## Derived phrases are walked -/

/-- What the lexemes of a phrase do to a state in which the phrase may stand: a factor ends the
signs before it, a term the product before it, and an expression stands behind a bracket. -/
def Phrase.Walks : Phrase → List Lexeme → Expr → Prop
  | .factor, ls, e => ∀ pending outer,
    (State.operand pending outer).walk none ls = some (State.accept pending outer e)
  | .term, ls, e => ∀ sum outer,
    (State.operand ⟨sum, none, []⟩ outer).walk none ls = some (.operator e sum outer)
  | .expression, ls, e => ∃ value sum, closeSum sum value = e ∧ ∀ outer,
    (State.operand .none outer).walk none ls = some (.operator value sum outer)

theorem State.walk_firstArgument {ls : List Lexeme} {value : Expr} {sum : Option (Expr × Sign)}
    {outer rest : List Enclosure} (name : String) (pending : Pending)
    (h : (State.operand .none (⟨.call name [], pending⟩ :: outer)).walk none ls =
      some (.operator value sum rest)) :
    (State.firstArgument name pending outer).walk none ls = some (.operator value sum rest) := by
  cases ls with
  | nil => cases h
  | cons l ls =>
    have hl : l ≠ .closeParen := by
      rintro rfl
      cases h
    rw [State.walk_none_cons, State.step_firstArgument name pending outer hl]
    rw [State.walk_none_cons] at h
    exact h

theorem walk_moreArguments (name : String) (pending : Pending) (outer : List Enclosure)
    (arguments : List (List Lexeme × Expr))
    (h : ∀ a ∈ arguments, Phrase.Walks .expression a.1 a.2) :
    ∀ read value sum,
      (State.operator value sum (⟨.call name read, pending⟩ :: outer)).walk none
          ((arguments.flatMap fun a => .comma :: a.1) ++ [.closeParen]) =
        some (State.accept pending outer
          (.call name (read.reverse ++ closeSum sum value :: arguments.map Prod.snd))) := by
  induction arguments with
  | nil =>
    intro read value sum
    simp [State.walk_none_cons, State.step, State.stepOperator, State.stepClose]
  | cons a arguments ih =>
    intro read value sum
    obtain ⟨nextValue, nextSum, he, hwalk⟩ := h a (by simp)
    have hmore := ih fun b hb => h b (List.mem_cons_of_mem _ hb)
    simp only [List.flatMap_cons, List.append_assoc, List.cons_append, State.walk_none_cons,
      State.step, State.stepOperator, State.stepComma, Option.bind_some]
    rw [State.walk_append_of_eq (hwalk _), hmore, he]
    simp

theorem separated_cons (ls : List Lexeme) (more : List (List Lexeme)) :
    separated (ls :: more) = ls ++ more.flatMap fun ls => .comma :: ls := by
  induction more generalizing ls with
  | nil => simp [separated]
  | cons ms more ih => simp [separated, ih ms]

theorem Derives.walks {phrase : Phrase} {ls : List Lexeme} {e : Expr}
    (h : Derives phrase ls e) : phrase.Walks ls e := by
  induction h with
  | number | text => exact fun _ _ => rfl
  | signed sign _ ih =>
    intro pending outer
    rw [State.walk_none_cons]
    exact ih _ _
  | group _ ih =>
    intro pending outer
    obtain ⟨value, sum, rfl, hwalk⟩ := ih
    rw [State.walk_none_cons]
    exact State.walk_append_of_eq (hwalk _) _
  | call name arguments _ ih =>
    intro pending outer
    rw [State.walk_none_cons]
    cases arguments with
    | nil => rfl
    | cons a arguments =>
      obtain ⟨value, sum, he, hwalk⟩ := ih a (by simp)
      have hmore := walk_moreArguments name pending outer arguments
        (fun b hb => ih b (List.mem_cons_of_mem _ hb)) [] value sum
      simp only [State.step, State.stepOperand, Option.bind_some, State.walk_none_cons,
        List.map_cons, separated_cons, List.append_assoc]
      rw [State.walk_append_of_eq (State.walk_firstArgument name pending (hwalk _)),
        List.flatMap_map, hmore, he]
      rfl
  | factor _ ih => exact fun sum outer => ih ⟨sum, none, []⟩ outer
  | product scaling _ _ ihl ihr =>
    intro sum outer
    rw [State.walk_append_of_eq (ihl sum outer), State.walk_none_cons]
    exact ihr _ _
  | term _ ih => exact ⟨_, none, rfl, fun outer => ih none outer⟩
  | @sum ls left ms right sign _ _ ihl ihr =>
    obtain ⟨value, sum, rfl, hwalk⟩ := ihl
    refine ⟨right, some (closeSum sum value, sign), rfl, fun outer => ?_⟩
    rw [State.walk_append_of_eq (hwalk outer), State.walk_none_cons]
    exact ihr _ outer

/-! ## The grammar and the reader agree -/

theorem State.start_reads : State.start.Reads [] :=
  .operand .nil Pending.none_reads

theorem State.derives_of_phrase? {state : State} {ls : List Lexeme} {e : Expr}
    (hr : state.Reads ls) (h : state.phrase? = some e) : Derives .expression ls e := by
  cases hr with
  | operator ho hs hv =>
    cases ho with
    | nil =>
      cases h
      exact closeSum_derives hs hv
    | group | call => cases h
  | operand | callee | firstArgument => cases h

theorem derives_iff_walk {ls : List Lexeme} {e : Expr} :
    Derives .expression ls e ↔
      ∃ last, State.start.walk none ls = some last ∧ last.phrase? = some e := by
  constructor
  · intro h
    obtain ⟨value, sum, rfl, hwalk⟩ := h.walks
    exact ⟨_, hwalk [], rfl⟩
  · rintro ⟨last, hwalk, he⟩
    exact State.derives_of_phrase? (State.walk_reads State.start_reads hwalk) he

/-- The reader walks in one way only, so the grammar is unambiguous. -/
theorem Derives.unique {ls : List Lexeme} {e e' : Expr} (h : Derives .expression ls e)
    (h' : Derives .expression ls e') : e = e' := by
  obtain ⟨last, hwalk, he⟩ := derives_iff_walk.mp h
  obtain ⟨last', hwalk', he'⟩ := derives_iff_walk.mp h'
  obtain rfl := Option.some.inj (hwalk.symm.trans hwalk')
  exact Option.some.inj (he.symm.trans he')

end Calculator.Reader
