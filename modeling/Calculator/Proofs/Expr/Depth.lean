import Calculator.Proofs.Expr.Outcome

/-!
# How deep reading goes

`State.reach` is the greatest depth on a walk. It alone decides whether a limit ends the reading of
an expression (`readAll_of_walk`). `Phrase.Reaches` says how much depth the lexemes of a phrase add
to the place where the phrase stands, and has one rule for each rule of the grammar.
-/

namespace Calculator.Reader

theorem tooDeepAt_max (limit : Option Nat) (m n : Nat) :
    tooDeepAt limit (max m n) = (tooDeepAt limit m || tooDeepAt limit n) := by
  cases limit with
  | none => rfl
  | some limit =>
    rw [Bool.eq_iff_iff]
    simp only [tooDeepAt, Option.any_some, Bool.or_eq_true, decide_eq_true_eq]
    omega

/-! ## The greatest depth -/

/-- The greatest depth of the states that lexemes lead to, this one included. -/
def State.reach (state : State) : List Lexeme → Nat
  | [] => state.depth
  | l :: ls =>
    match state.step l with
    | some next => max state.depth (next.reach ls)
    | none => state.depth

theorem State.reach_cons {state next : State} {l : Lexeme} (h : state.step l = some next)
    (ls : List Lexeme) : state.reach (l :: ls) = max state.depth (next.reach ls) := by
  rw [reach, h]

theorem State.depth_le_reach (state : State) (ls : List Lexeme) : state.depth ≤ state.reach ls := by
  cases ls with
  | nil => exact Nat.le_refl _
  | cons l ls =>
    rw [reach]
    split
    · exact Nat.le_max_left ..
    · exact Nat.le_refl _

theorem State.reach_append {state mid : State} {ls : List Lexeme}
    (h : state.walk none ls = some mid) (ms : List Lexeme) :
    state.reach (ls ++ ms) = max (state.reach ls) (mid.reach ms) := by
  induction ls generalizing state with
  | nil =>
    cases h
    exact (Nat.max_eq_right (depth_le_reach ..)).symm
  | cons l ls ih =>
    rw [walk_none_cons, Option.bind_eq_some_iff] at h
    obtain ⟨next, hstep, h⟩ := h
    rw [List.cons_append, reach_cons hstep, reach_cons hstep, ih h, Nat.max_assoc]

theorem State.walk_of_reach {limit : Option Nat} {state last : State} {ls : List Lexeme}
    (h : state.walk none ls = some last) (hreach : tooDeepAt limit (state.reach ls) = false) :
    state.walk limit ls = some last := by
  induction ls generalizing state with
  | nil => exact h
  | cons l ls ih =>
    rw [walk_none_cons, Option.bind_eq_some_iff] at h
    obtain ⟨next, hstep, h⟩ := h
    rw [reach_cons hstep, tooDeepAt_max, Bool.or_eq_false_iff] at hreach
    have hdepth : tooDeepAt limit next.depth = false := by
      have := hreach.2
      rw [← Nat.max_eq_right (next.depth_le_reach ls), tooDeepAt_max, Bool.or_eq_false_iff] at this
      exact this.1
    simp [walk, hstep, hdepth, ih h hreach.2]

theorem State.walk_eq_none_of_reach {limit : Option Nat} {state next : State} {l : Lexeme}
    {ls : List Lexeme} (hstep : state.step l = some next)
    (hreach : tooDeepAt limit (next.reach ls) = true) : state.walk limit (l :: ls) = none := by
  induction ls generalizing state next l with
  | nil =>
    have hdepth : tooDeepAt limit next.depth = true := hreach
    simp [walk, hstep, hdepth]
  | cons m ms ih =>
    simp only [walk, hstep, Option.bind_some]
    split
    · rfl
    · next hdepth =>
      rw [reach] at hreach
      split at hreach
      · next hnext =>
        rw [tooDeepAt_max, Bool.or_eq_true] at hreach
        exact ih hnext (hreach.resolve_left hdepth)
      · exact absurd hreach hdepth

theorem State.start_walk_eq_none {limit : Option Nat} {last : State} {ls : List Lexeme}
    (hne : ls ≠ []) (h : State.start.walk none ls = some last)
    (hreach : tooDeepAt limit (State.start.reach ls) = true) : State.start.walk limit ls = none := by
  cases ls with
  | nil => exact absurd rfl hne
  | cons l ls =>
    rw [walk_none_cons, Option.bind_eq_some_iff] at h
    obtain ⟨next, hstep, -⟩ := h
    have hzero : State.start.depth = 0 := rfl
    rw [reach_cons hstep, hzero, Nat.zero_max] at hreach
    exact walk_eq_none_of_reach hstep hreach

theorem State.reach_firstArgument {ls : List Lexeme} {value : Expr} {sum : Option (Expr × Sign)}
    {outer rest : List Enclosure} (name : String) (pending : Pending)
    (h : (State.operand .none (⟨.call name [], pending⟩ :: outer)).walk none ls =
      some (.operator value sum rest)) :
    (State.firstArgument name pending outer).reach ls =
      (State.operand .none (⟨.call name [], pending⟩ :: outer)).reach ls := by
  have hdepth : (State.firstArgument name pending outer).depth =
      (State.operand .none (⟨.call name [], pending⟩ :: outer)).depth := by
    simp only [depth, outerDepth, Enclosure.depth, Bracket.depth,
      Pending.none, List.length_nil]
    omega
  cases ls with
  | nil => cases h
  | cons l ls =>
    have hl : l ≠ .closeParen := by
      rintro rfl
      cases h
    rw [reach, reach, hdepth, step_firstArgument name pending outer hl]
    rfl

theorem readAll_of_walk {tokens : Tokens} {last : State} {stop : Nat} {e : Expr}
    (limit : Option Nat) (hlex : tokens.ending = .ok stop)
    (hwalk : State.start.walk none tokens.lexemes = some last) (he : last.phrase? = some e) :
    (readAll limit tokens).1 =
      if tooDeepAt limit (State.start.reach tokens.lexemes) then .error (.grammatical .tooDeep)
      else .ok (some e) := by
  have hne : tokens.lexemes ≠ [] := by
    intro hnil
    rw [hnil] at hwalk
    cases hwalk
    cases he
  have hfinish : ∀ position, tokens ≠ .finish position := by
    rintro position rfl
    exact hne rfl
  obtain ⟨front, rest, stopped, rfl, hfront, hhalts⟩ := readAll_halts limit hfinish
  generalize (readAll limit (.after front rest)).1 = result at hhalts ⊢
  split
  · next hdeep =>
    have hnone := State.start_walk_eq_none hne hwalk hdeep
    cases hhalts with
    | finished | unfinished =>
      simp only [Tokens.lexemes_after, Tokens.lexemes_finish, List.append_nil] at hnone
      rw [hfront] at hnone
      cases hnone
    | lexical => simp [Tokens.ending] at hlex
    | refused token ahead hstep =>
      simp only [Tokens.lexemes_after, Tokens.lexemes_cons] at hwalk
      rw [State.walk_append_of_eq (State.walk_none_of_walk hfront), State.walk_none_cons, hstep]
        at hwalk
      cases hwalk
    | tooDeep => rfl
  · next hdeep =>
    have hall := State.walk_of_reach hwalk (Bool.eq_false_iff.mpr hdeep)
    rw [Tokens.lexemes_after, State.walk_append_of_eq hfront] at hall
    cases hhalts with
    | finished position hend =>
      cases hall
      rw [← he, hend]
    | unfinished position hend =>
      cases hall
      rw [hend] at he
      cases he
    | lexical => simp [Tokens.ending] at hlex
    | refused token ahead hstep => simp [State.walk, hstep] at hall
    | tooDeep token ahead hstep hdepth => simp [State.walk, hstep, hdepth] at hall

/-! ## The depth of phrases -/

/-- What the lexemes of a phrase add to the depth of a state in which the phrase may stand. -/
def Phrase.Reaches : Phrase → List Lexeme → Nat → Prop
  | .factor, ls, n => ∀ pending outer, (State.operand pending outer).reach ls =
      pending.signs.length + State.outerDepth outer + n
  | .term, ls, n => ∀ sum outer, (State.operand ⟨sum, none, []⟩ outer).reach ls =
      State.outerDepth outer + n
  | .expression, ls, n => ∀ outer, (State.operand .none outer).reach ls =
      State.outerDepth outer + n

namespace Phrase.Reaches

variable {ls ms : List Lexeme} {left right e : Expr} {m n : Nat}

theorem operand {l : Lexeme} (h : ∀ pending outer,
    State.stepOperand pending outer l = some (State.accept pending outer e)) :
    Phrase.Reaches .factor [l] 0 := by
  intro pending outer
  have hstep : (State.operand pending outer).step l = some (State.accept pending outer e) :=
    h pending outer
  rw [State.reach_cons hstep]
  simp only [State.reach, State.depth, State.accept]
  omega

theorem signed (sign : Sign) (h : Phrase.Reaches .factor ls n) :
    Phrase.Reaches .factor (.operator (.sum sign) :: ls) (1 + n) := by
  intro pending outer
  have hstep : (State.operand pending outer).step (.operator (.sum sign)) =
      some (.operand { pending with signs := sign :: pending.signs } outer) := rfl
  rw [State.reach_cons hstep, h]
  simp only [State.depth, List.length_cons]
  omega

theorem group (hd : Derives .expression ls e) (h : Phrase.Reaches .expression ls n) :
    Phrase.Reaches .factor (.openParen :: (ls ++ [.closeParen])) (3 + n) := by
  intro pending outer
  obtain ⟨value, sum, rfl, hwalk⟩ := hd.walks
  have hopen : (State.operand pending outer).step .openParen =
      some (.operand .none (⟨.group, pending⟩ :: outer)) := rfl
  have hclose : (State.operator value sum (⟨.group, pending⟩ :: outer)).step .closeParen =
      some (State.accept pending outer (closeSum sum value)) := rfl
  rw [State.reach_cons hopen, State.reach_append (hwalk _), h, State.reach_cons hclose]
  simp only [State.reach, State.depth, State.accept, State.outerDepth,
    Enclosure.depth, Bracket.depth]
  omega

theorem term (h : Phrase.Reaches .factor ls n) : Phrase.Reaches .term ls n := by
  intro sum outer
  rw [h]
  simp

theorem expression (h : Phrase.Reaches .term ls n) : Phrase.Reaches .expression ls n :=
  fun outer => h none outer

theorem product (scaling : Scaling) (hd : Derives .term ls left)
    (hl : Phrase.Reaches .term ls m) (hr : Phrase.Reaches .factor ms n) :
    Phrase.Reaches .term (ls ++ .operator (.product scaling) :: ms) (max m n) := by
  intro sum outer
  have hstep : (State.operator left sum outer).step (.operator (.product scaling)) =
      some (.operand ⟨sum, some (left, scaling), []⟩ outer) := rfl
  rw [State.reach_append (hd.walks sum outer), hl, State.reach_cons hstep, hr]
  simp only [State.depth, List.length_nil]
  omega

theorem sum (sign : Sign) (hd : Derives .expression ls left)
    (hl : Phrase.Reaches .expression ls m) (hr : Phrase.Reaches .term ms n) :
    Phrase.Reaches .expression (ls ++ .operator (.sum sign) :: ms) (max m n) := by
  intro outer
  obtain ⟨value, sum, rfl, hwalk⟩ := hd.walks
  have hstep : (State.operator value sum outer).step (.operator (.sum sign)) =
      some (.operand ⟨some (closeSum sum value, sign), none, []⟩ outer) := rfl
  rw [State.reach_append (hwalk outer), hl, State.reach_cons hstep, hr]
  simp only [State.depth]
  omega

theorem moreArguments (name : String) (pending : Pending) (outer : List Enclosure)
    (arguments : List (List Lexeme × Expr)) (n : List Lexeme × Expr → Nat)
    (h : ∀ a ∈ arguments, Derives .expression a.1 a.2 ∧ Phrase.Reaches .expression a.1 (n a)) :
    ∀ read value sum,
      (State.operator value sum (⟨.call name read, pending⟩ :: outer)).reach
          ((arguments.flatMap fun a => .comma :: a.1) ++ [.closeParen]) =
        4 + pending.signs.length + State.outerDepth outer + (arguments.map n).foldr max 0 := by
  induction arguments with
  | nil =>
    intro read value sum
    have hclose : (State.operator value sum (⟨.call name read, pending⟩ :: outer)).step
        .closeParen = some (State.accept pending outer
          (.call name (closeSum sum value :: read).reverse)) := rfl
    rw [List.flatMap_nil, List.nil_append, State.reach_cons hclose]
    simp only [State.reach, State.depth, State.accept, State.outerDepth,
      Enclosure.depth, Bracket.depth, List.map_nil, List.foldr_nil]
    omega
  | cons a arguments ih =>
    intro read value sum
    obtain ⟨hd, hreach⟩ := h a (by simp)
    obtain ⟨nextValue, nextSum, -, hwalk⟩ := hd.walks
    have hmore := ih fun b hb => h b (List.mem_cons_of_mem _ hb)
    have hcomma : (State.operator value sum (⟨.call name read, pending⟩ :: outer)).step .comma =
        some (.operand .none (⟨.call name (closeSum sum value :: read), pending⟩ :: outer)) := rfl
    rw [List.flatMap_cons, List.cons_append, List.cons_append, List.append_assoc,
      State.reach_cons hcomma, State.reach_append (hwalk _), hreach, hmore]
    simp only [State.depth, State.outerDepth, Enclosure.depth,
      Bracket.depth, List.map_cons, List.foldr_cons]
    omega

theorem call (name : String) (arguments : List (List Lexeme × Expr))
    (n : List Lexeme × Expr → Nat)
    (h : ∀ a ∈ arguments, Derives .expression a.1 a.2 ∧ Phrase.Reaches .expression a.1 (n a)) :
    Phrase.Reaches .factor
      (.name name :: .openParen :: (separated (arguments.map Prod.fst) ++ [.closeParen]))
      (4 + (arguments.map n).foldr max 0) := by
  intro pending outer
  have hname : (State.operand pending outer).step (.name name) =
      some (.callee name pending outer) := rfl
  have hopen : (State.callee name pending outer).step .openParen =
      some (.firstArgument name pending outer) := rfl
  rw [State.reach_cons hname, State.reach_cons hopen]
  cases arguments with
  | nil =>
    have hclose : (State.firstArgument name pending outer).step .closeParen =
        some (State.accept pending outer (.call name [])) := rfl
    rw [List.map_nil, separated, List.nil_append, State.reach_cons hclose]
    simp only [State.reach, State.depth, State.accept, List.map_nil, List.foldr_nil]
    omega
  | cons a arguments =>
    obtain ⟨hd, hreach⟩ := h a (by simp)
    obtain ⟨value, sum, -, hwalk⟩ := hd.walks
    have hfirst := State.reach_firstArgument name pending
      (hwalk (⟨.call name [], pending⟩ :: outer))
    have hmore := moreArguments name pending outer arguments n
      (fun b hb => h b (List.mem_cons_of_mem _ hb)) [] value sum
    rw [List.map_cons, separated_cons, List.append_assoc, List.flatMap_map,
      State.reach_append (State.walk_firstArgument name pending (hwalk _)), hfirst, hreach, hmore]
    simp only [State.depth, State.outerDepth, Enclosure.depth,
      Bracket.depth, List.map_cons, List.foldr_cons]
    omega

end Phrase.Reaches

/-- A source that spells the lexemes of an expression is read as it, whatever blanks it has, unless
the depth of these lexemes reaches the limit. -/
theorem read_of_derives {source : String} {ls : List Lexeme} {e : Expr} {n : Nat}
    (limit : Option Nat) (hspells : Cursor.SpellsAll source.toList ls)
    (hd : Derives .expression ls e) (hreach : Phrase.Reaches .expression ls n) :
    Expr.read limit source =
      if tooDeepAt limit n then .error (.grammatical .tooDeep) else .ok (some e) := by
  obtain ⟨last, hwalk, he⟩ := derives_iff_walk.mp hd
  obtain ⟨rfl, stop, hending⟩ := Tokens.spellsAll_ofSource.mp hspells
  have hstart : State.start.reach (Tokens.ofSource source).lexemes = 0 + n := hreach []
  rw [Expr.read, readAll_of_walk limit hending hwalk he, hstart, Nat.zero_add]

end Calculator.Reader
